import MapExport.Proofs.Expiration.Due
import MapExport.Proofs.Workflow.Course
import MapExport.Store.Answers

/-!
# The grounds of a sweep

Whatever the store and the mailer answer, and wherever a sweep is broken off, there are grounds for each of its calls
in the list of runs that it was given at its start: a deletion is asked for only if the run had expired, and that an
owner was warned is kept only after the mail was sent, with the time of the sweep itself (`exists_grounds`). The other
way round, a sweep that comes to its end has asked for the deletion of every run that had expired
(`attempts_through`).

Nothing here depends on the state of the store, so it also holds of a sweep whose list is out of date.
-/

set_option autoImplicit false

namespace MapExport

open Workflow (Course course_call_iff course_done_iff course_bind_iff)

/-- **A call of a sweep, with its answer.** -/
abbrev SweepEvent := Workflow.Event SweepCall SweepCall.Reply

/-- A run that the store was asked to delete, whether it did or not. -/
def SweepCall.attempted? : SweepEvent → Option Uid
  | ⟨.deleteRun run, _⟩ => some run
  | _ => none

/-- **The owner of a run was warned** by these calls: the warning that was due was sent. -/
def ExpiringRun.Warned (rules : WarningRules) (now : Instant) (log : List SweepEvent) (run : ExpiringRun) :
    Prop :=
  ∃ email threshold, run.email = some email ∧ run.run.nextAction? now = some (.notify threshold) ∧
    ⟨.sendMail (Warning.compose rules.site rules.sender run email threshold), .ok ()⟩ ∈ log

namespace Sweep

variable {rules : WarningRules} {now : Instant} {runs : List ExpiringRun} {log more : List SweepEvent}

/-- **Well-grounded calls** of a sweep over some runs. -/
structure Grounded (rules : WarningRules) (now : Instant) (runs : List ExpiringRun)
    (log : List SweepEvent) : Prop where
  deletion : ∀ uid reply, ⟨.deleteRun uid, reply⟩ ∈ log →
    ∃ run ∈ runs, run.run.uid = uid ∧ run.run.expiration ≤ now
  stamp : ∀ uid time reply, ⟨.markNotified uid time, reply⟩ ∈ log →
    time = now ∧ ∃ run ∈ runs, run.run.uid = uid ∧ run.Warned rules now log

theorem grounded_nil (rules : WarningRules) (now : Instant) (runs : List ExpiringRun) :
    Grounded rules now runs [] :=
  ⟨fun _ _ h => absurd h List.not_mem_nil, fun _ _ _ h => absurd h List.not_mem_nil⟩

/-- The calls about some runs and then those about others. -/
theorem Grounded.append {others : List ExpiringRun} (h : Grounded rules now runs log)
    (h' : Grounded rules now others more) : Grounded rules now (runs ++ others) (log ++ more) := by
  constructor
  · intro uid reply hmem
    rcases List.mem_append.mp hmem with hmem | hmem
    · obtain ⟨run, hrun, hdue⟩ := h.deletion uid reply hmem
      exact ⟨run, List.mem_append_left _ hrun, hdue⟩
    · obtain ⟨run, hrun, hdue⟩ := h'.deletion uid reply hmem
      exact ⟨run, List.mem_append_right _ hrun, hdue⟩
  · intro uid time reply hmem
    rcases List.mem_append.mp hmem with hmem | hmem
    · obtain ⟨htime, run, hrun, huid, email, threshold, hemail, hdue, hsent⟩ := h.stamp uid time reply hmem
      exact ⟨htime, run, List.mem_append_left _ hrun, huid, email, threshold, hemail, hdue,
        List.mem_append_left _ hsent⟩
    · obtain ⟨htime, run, hrun, huid, email, threshold, hemail, hdue, hsent⟩ := h'.stamp uid time reply hmem
      exact ⟨htime, run, List.mem_append_right _ hrun, huid, email, threshold, hemail, hdue,
        List.mem_append_right _ hsent⟩

/-! ## A sweep that comes to its end -/

/-- Warning the owner of a run. -/
theorem grounded_warn {run : ExpiringRun} {threshold : Threshold} {outcome : RunOutcome}
    (hdue : run.run.nextAction? now = some (.notify threshold))
    (h : Course (warn rules now run threshold) log (.done outcome)) : Grounded rules now [run] log := by
  rw [warn] at h
  split at h
  · obtain ⟨rfl, -⟩ := course_done_iff.mp h
    exact grounded_nil rules now [run]
  next email hemail =>
  obtain ⟨sent, rest, rfl, hsent⟩ := course_call_iff.mp h
  cases sent with
  | error e =>
    obtain ⟨rfl, -⟩ := course_done_iff.mp hsent
    constructor <;> simp
  | ok sent =>
    obtain ⟨kept, rest, rfl, hkept⟩ := course_call_iff.mp hsent
    obtain ⟨rfl, -⟩ := course_done_iff.mp hkept
    refine ⟨by simp, ?_⟩
    intro uid time reply hmem
    -- The only other call is the one that keeps the time, and the mail stands before it.
    have hstamp : (⟨.markNotified uid time, reply⟩ : SweepEvent) = ⟨.markNotified run.run.uid now, kept⟩ := by
      simpa using hmem
    cases hstamp
    exact ⟨rfl, run, List.mem_singleton_self _, rfl, email, threshold, hemail, hdue, List.mem_cons_self⟩

/-- Doing what is due for a run. -/
theorem grounded_carryOut {run : ExpiringRun} {action : RunAction} {outcome : RunOutcome}
    (hdue : run.run.nextAction? now = some action)
    (h : Course (carryOut rules now run action) log (.done outcome)) : Grounded rules now [run] log := by
  cases action with
  | nothing =>
    obtain ⟨rfl, -⟩ := course_done_iff.mp h
    exact grounded_nil rules now [run]
  | notify threshold => exact grounded_warn hdue h
  | delete =>
    obtain ⟨reply, rest, rfl, hreply⟩ := course_call_iff.mp h
    obtain ⟨rfl, -⟩ := course_done_iff.mp hreply
    refine ⟨?_, by simp⟩
    intro uid reply' hmem
    have hdeletion : (⟨.deleteRun uid, reply'⟩ : SweepEvent) = ⟨.deleteRun run.run.uid, reply⟩ := by
      simpa using hmem
    cases hdeletion
    exact ⟨run, List.mem_singleton_self _, rfl, Run.delete_is_due_iff.mp hdue⟩

/-- **Going through the runs** makes well-grounded calls only. -/
theorem grounded_through {report : SweepReport} {result : Except SweepFault SweepReport}
    (h : Course (through rules now runs report) log (.done result)) : Grounded rules now runs log := by
  induction runs generalizing log report with
  | nil =>
    obtain ⟨rfl, -⟩ := course_done_iff.mp h
    exact grounded_nil rules now []
  | cons run runs ih =>
    rw [through] at h
    split at h
    · obtain ⟨rfl, -⟩ := course_done_iff.mp h
      exact grounded_nil rules now _
    · next action hdue =>
      obtain ⟨first, second, outcome, rfl, hfirst, hsecond⟩ := course_bind_iff.mp h
      exact (grounded_carryOut hdue hfirst).append (ih hsecond)

/-- What is asked to be deleted while one run is dealt with. -/
theorem attempts_carryOut {run : ExpiringRun} {action : RunAction} {outcome : RunOutcome}
    (h : Course (carryOut rules now run action) log (.done outcome)) :
    log.filterMap SweepCall.attempted? = if action = .delete then [run.run.uid] else [] := by
  cases action with
  | nothing =>
    obtain ⟨rfl, -⟩ := course_done_iff.mp h
    rfl
  | delete =>
    obtain ⟨reply, rest, rfl, hreply⟩ := course_call_iff.mp h
    obtain ⟨rfl, -⟩ := course_done_iff.mp hreply
    rfl
  | notify threshold =>
    rw [carryOut, warn] at h
    split at h
    · obtain ⟨rfl, -⟩ := course_done_iff.mp h
      rfl
    obtain ⟨sent, rest, rfl, hsent⟩ := course_call_iff.mp h
    cases sent with
    | error e =>
      obtain ⟨rfl, -⟩ := course_done_iff.mp hsent
      rfl
    | ok sent =>
      obtain ⟨kept, rest, rfl, hkept⟩ := course_call_iff.mp hsent
      obtain ⟨rfl, -⟩ := course_done_iff.mp hkept
      rfl

/-- **A sweep with a report has tried to delete** just the runs for which that was due, in their order. -/
theorem attempts_through {earlier report : SweepReport}
    (h : Course (through rules now runs earlier) log (.done (.ok report))) :
    log.filterMap SweepCall.attempted? =
      (runs.filter fun run => run.run.nextAction? now = some .delete).map (·.run.uid) := by
  induction runs generalizing log earlier with
  | nil =>
    obtain ⟨rfl, -⟩ := course_done_iff.mp h
    rfl
  | cons run runs ih =>
    rw [through] at h
    split at h
    · -- Here the sweep would end without a report.
      obtain ⟨-, hreport⟩ := course_done_iff.mp h
      cases hreport
    · next action hdue =>
      obtain ⟨first, second, outcome, rfl, hfirst, hsecond⟩ := course_bind_iff.mp h
      rw [List.filterMap_append, attempts_carryOut hfirst, ih hsecond, List.filter_cons, hdue]
      by_cases haction : action = .delete
      · simp [haction]
      · simp [haction]

/-! ## A sweep that is broken off -/

/-- Going through the runs ends without a report only at a run of which it cannot be told what is due. -/
theorem untold_of_through_fault {report : SweepReport} {fault : SweepFault}
    (h : Course (through rules now runs report) log (.done (.error fault))) :
    ∃ run ∈ runs, run.run.nextAction? now = none := by
  induction runs generalizing log report with
  | nil =>
    obtain ⟨-, hresult⟩ := course_done_iff.mp h
    cases hresult
  | cons run runs ih =>
    rw [through] at h
    split at h
    · next hnone => exact ⟨run, List.mem_cons_self, hnone⟩
    · obtain ⟨first, second, outcome, rfl, -, hsecond⟩ := course_bind_iff.mp h
      obtain ⟨later, hlater, hnone⟩ := ih hsecond
      exact ⟨later, List.mem_cons_of_mem _ hlater, hnone⟩

/-- **A sweep without a report** has done nothing but ask for the runs, or there is one among them of which it cannot
be told what is due. -/
theorem untold_of_fault {fault : SweepFault} (h : Course (sweep rules now) log (.done (.error fault))) :
    (∃ e, log = [⟨.listRuns, .error e⟩]) ∨
      ∃ runs : List ExpiringRun, ⟨.listRuns, .ok runs⟩ ∈ log ∧ ∃ run ∈ runs, run.run.nextAction? now = none := by
  obtain ⟨reply, rest, rfl, hrest⟩ := course_call_iff.mp h
  cases reply with
  | error e =>
    obtain ⟨rfl, -⟩ := course_done_iff.mp hrest
    exact .inl ⟨e, rfl⟩
  | ok runs => exact .inr ⟨runs, List.mem_cons_self, untold_of_through_fault hrest⟩

/-- Where every call from now on is refused, no mail is sent any more, so the grounds lie in the calls up to now. -/
theorem Grounded.of_append (h : Grounded rules now runs (log ++ more))
    (refused : ∀ e ∈ more, e.reply = .error .internal) : Grounded rules now runs log := by
  constructor
  · intro uid reply hmem
    exact h.deletion uid reply (List.mem_append_left _ hmem)
  · intro uid time reply hmem
    obtain ⟨htime, run, hrun, huid, email, threshold, hemail, hdue, hsent⟩ :=
      h.stamp uid time reply (List.mem_append_left _ hmem)
    refine ⟨htime, run, hrun, huid, email, threshold, hemail, hdue, ?_⟩
    rcases List.mem_append.mp hsent with hsent | hsent
    · exact hsent
    · cases refused _ hsent

/-- **Wherever a sweep is,** it has not yet listed the runs, or there are grounds for its calls in the list. -/
theorem exists_grounds {todo : SweepFlow (Except SweepFault SweepReport)}
    (h : Course (sweep rules now) log todo) :
    (∀ e ∈ log, ∃ reply, e = ⟨.listRuns, reply⟩) ∨
      ∃ runs rest, log = ⟨.listRuns, .ok runs⟩ :: rest ∧ Grounded rules now runs log := by
  -- What it has left to do is brought to some end, because the grounds are known for whole sweeps.
  obtain ⟨tail, result, htail, hrefused⟩ :=
    Workflow.exists_course_answering (fun _ => .error .internal) todo
  have hwhole := h.append htail
  obtain ⟨reply, rest, hlog, hrest⟩ := course_call_iff.mp hwhole
  cases log with
  | nil => exact .inl fun _ h => absurd h List.not_mem_nil
  | cons e log =>
    obtain ⟨rfl, hsplit⟩ := List.cons.inj hlog
    rw [← hsplit] at hrest
    cases reply with
    | error failure =>
      obtain ⟨hnil, -⟩ := course_done_iff.mp hrest
      obtain ⟨rfl, -⟩ := List.append_eq_nil_iff.mp hnil
      exact .inl fun e he => ⟨_, List.mem_singleton.mp he⟩
    | ok runs =>
      have hgrounded := (grounded_through hrest).of_append hrefused
      refine .inr ⟨runs, log, rfl, ?_⟩
      have hlisted : Grounded rules now [] [⟨.listRuns, .ok runs⟩] := by constructor <;> simp
      exact hlisted.append hgrounded

end Sweep

end MapExport
