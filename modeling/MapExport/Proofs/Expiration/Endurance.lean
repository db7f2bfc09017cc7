import MapExport.Proofs.Expiration.Grounds
import MapExport.Proofs.Expiration.Reordering
import MapExport.Proofs.Instant.Bounds
import MapExport.Service

/-!
# The sweeping goes on

A sweep that fails is tried again in the next round, but one that meets a run of which it cannot be told what is due
ends the sweeping for good. There is only one way for this to happen, and it takes a clock that shows the first days of
the calendar. From the third day on no run has this effect, whatever dates it was stored with, and the chores of the
service stay on its agenda whatever its surroundings answer (`no_run_ends_the_sweeping`).
-/

set_option autoImplicit false

namespace MapExport

open Workflow (Course course_call_iff course_done_iff course_bind_iff)

/-! ## One run -/

namespace Run

variable {run : Run} {now : Instant}

/-- **It cannot be told what is due** for a run within its last two days, when these begin before the calendar. -/
theorem untold_iff_before_calendar : run.nextAction? now = none ↔
    now < run.expiration ∧ run.expiration.since now ≤ Instant.ofDays 2 ∧
      run.expiration.nanos - Instant.ofDays 2 < Instant.first.nanos := by
  rw [untold_iff, isWithin, decide_eq_true_iff, lastDays?, Instant.daysBefore?_eq_none_iff]
  rfl

/-- **From the third day of the calendar on** it can be told of every run. -/
theorem told_of_late (run : Run) (late : Instant.ofDays 2 ≤ now.since .first) : run.nextAction? now ≠ none := by
  intro hnone
  obtain ⟨hearly, -, hbefore⟩ := untold_iff_before_calendar.mp hnone
  have hlt : ¬ (run.expiration.day < now.day ∨ run.expiration.day = now.day ∧
      (run.expiration.second < now.second ∨
        run.expiration.second = now.second ∧ run.expiration.nano ≤ now.nano)) := hearly
  have hsecond := now.second_lt
  obtain ⟨-, -, -, hnano, hleap⟩ := Instant.isInstant_iff.mp now.valid
  rw [Instant.since_first] at late
  rw [Instant.first_nanos, Instant.ofDays, Instant.nanos] at late hbefore
  omega

end Run

/-! ## One sweep -/

namespace Sweep

variable {rules : WarningRules} {now : Instant} {log : List SweepEvent} {result : Except SweepFault SweepReport}

/-- **A late sweep** has a report unless the runs could not be listed. -/
theorem report_of_late (late : Instant.ofDays 2 ≤ now.since .first) (h : Course (sweep rules now) log (.done result)) :
    (∃ report, result = .ok report) ∨ ∃ e, result = .error (.store e) ∧ log = [⟨.listRuns, .error e⟩] := by
  obtain ⟨reply, rest, rfl, hrest⟩ := course_call_iff.mp h
  cases reply with
  | error e =>
    obtain ⟨rfl, rfl⟩ := course_done_iff.mp hrest
    exact .inr ⟨e, rfl, rfl⟩
  | ok runs =>
    cases result with
    | ok report => exact .inl ⟨report, rfl⟩
    | error fault =>
      obtain ⟨run, -, hnone⟩ := untold_of_through_fault hrest
      exact absurd hnone (run.run.told_of_late late)

end Sweep

/-! ## The agenda -/

section

variable {Call : Type} {Reply : Call → Type} {Outer : Type} {OuterReply : Outer → Type} {σ α : Type}

/-- One thing after another, both with a state. -/
theorem Workflow.course_run_bind {β : Type} {x : StateT σ (Workflow Outer OuterReply) α}
    {k : α → StateT σ (Workflow Outer OuterReply) β} {s : σ} {log : List (Workflow.Event Outer OuterReply)} {r : β × σ}
    (h : Course ((x >>= k).run s) log (.done r)) :
    ∃ first second a, Course (x.run s) first (.done a) ∧ Course ((k a.1).run a.2) second (.done r) := by
  rw [StateT.run_bind] at h
  obtain ⟨first, second, a, -, hfirst, hsecond⟩ := course_bind_iff.mp h
  exact ⟨first, second, a, hfirst, hsecond⟩

/-- Looking at the state first. -/
theorem Workflow.course_get_bind {k : σ → StateT σ (Workflow Outer OuterReply) α} {s : σ}
    {log : List (Workflow.Event Outer OuterReply)} {r : α × σ} (h : Course ((get >>= k).run s) log (.done r)) :
    Course ((k s).run s) log (.done r) := h

/-- **Carrying out a workflow** by one that keeps a state leads to what some course of it leads to, and keeps what every
answer keeps. -/
theorem Workflow.course_run {answer : (c : Call) → StateT σ (Workflow Outer OuterReply) (Reply c)} {I : σ → Prop}
    (keeps : ∀ c s log r, I s → Course ((answer c).run s) log (.done r) → I r.2) {w : Workflow Call Reply α} {s : σ}
    {log : List (Workflow.Event Outer OuterReply)} {r : α × σ} (hs : I s)
    (h : Course ((w.run answer).run s) log (.done r)) : (∃ calls, Course w calls (.done r.1)) ∧ I r.2 := by
  -- Over the workflow. Each answer leaves another state, so the rest starts from any that has the invariant.
  induction w generalizing s log with
  | done a =>
    obtain ⟨-, rfl⟩ := course_done_iff.mp h
    exact ⟨⟨[], .start _⟩, hs⟩
  | call c next ih =>
    obtain ⟨first, second, reply, hfirst, hsecond⟩ := course_run_bind h
    obtain ⟨⟨calls, hcalls⟩, hkept⟩ := ih reply.1 (keeps c s first reply hs hfirst) hsecond
    exact ⟨⟨⟨c, reply.1⟩ :: calls, .answered reply.1 hcalls⟩, hkept⟩

namespace Agenda

theorem eq_of_split? {time : Nat} {a before after : Agenda α} {r : Rounds α}
    (h : a.split? time = some (before, r, after)) : a = before ++ r :: after := by
  induction a generalizing before with
  | nil => cases h
  | cons first rest ih =>
    rw [split?] at h
    split at h
    · cases h
      rfl
    · obtain ⟨⟨before', r', after'⟩, hrest, heq⟩ := Option.map_eq_some_iff.mp h
      cases heq
      rw [ih hrest]
      rfl

/-- **Work that is never over** stays on the agenda. -/
theorem works_runFor {work : α → StateT σ (Workflow Outer OuterReply) Bool}
    (hwork : ∀ w s log r, Course ((work w).run s) log (.done r) → r.1 = true) {until_ n : Nat} {a : Agenda α} {s : σ}
    {log : List (Workflow.Event Outer OuterReply)} {r : Agenda α × σ}
    (h : Course ((a.runFor until_ work n).run s) log (.done r)) : r.1.map (·.work) = a.map (·.work) := by
  induction n generalizing a s log with
  | zero =>
    obtain ⟨-, rfl⟩ := course_done_iff.mp h
    rfl
  | succ n ih =>
    rw [runFor] at h
    split at h
    · obtain ⟨-, rfl⟩ := course_done_iff.mp h
      rfl
    split at h
    · obtain ⟨-, rfl⟩ := course_done_iff.mp h
      rfl
    next before round after hsplit =>
    obtain ⟨first, second, again, hfirst, hsecond⟩ := Workflow.course_run_bind h
    -- The work is put down again where it stood, with another time at which it is due.
    rw [hwork _ _ _ _ hfirst, if_pos rfl] at hsecond
    rw [ih hsecond, eq_of_split? hsplit, List.map_append, List.map_append]
    rfl

end Agenda

end

/-! ## The service -/

/-- **What the service asks of its surroundings.** -/
inductive OutsideCall where
  | preset (path : String)
  | dispatch (job : Uid)
  | mail (mail : Mail)
  | count (g : Geometry Position)

/-- What it is answered. -/
def OutsideCall.Reply : OutsideCall → Type
  | preset _ => Except Failure TagTable
  | count _ => Except Failure Nat
  | _ => Except Failure Unit

/-- **Any surroundings:** everything is asked for, and the answers are left open. -/
def Surroundings.asked : Surroundings (Workflow OutsideCall OutsideCall.Reply) where
  preset path := .ask (OutsideCall.preset path)
  dispatch job := .ask (OutsideCall.dispatch job)
  mail mail := .ask (OutsideCall.mail mail)
  count g := .ask (OutsideCall.count g)

namespace Service

/-- **What happens to a service:** time has passed, or a request comes. -/
inductive Occasion where
  | wake (now : Instant) (seconds : Nat)
  | request (stamp : Stamp) (r : Web.Request)

/-- What the service does then. -/
def meet {m : Type → Type} [Monad m] (out : Surroundings m) : Occasion → StateT Service m Unit
  | .wake now seconds => catchUp out now seconds
  | .request stamp r => do let _ ← respond out stamp r

/-- **The clock is not at the first two days of the calendar.** -/
def Occasion.IsLate : Occasion → Prop
  | .wake now _ => Instant.ofDays 2 ≤ now.since .first
  | .request _ _ => True

/-- The chores on the agenda. -/
def chores (s : Service) : List Chore := s.agenda.map (·.work)

variable {s : Service} {log : List (Workflow.Event OutsideCall OutsideCall.Reply)}

/-- **A chore is done again and again,** because a late sweep does not end for good. -/
theorem carryOut_eq_true {now : Instant} (late : Instant.ofDays 2 ≤ now.since .first) {chore : Chore}
    {r : Bool × Service} (h : Course ((carryOut .asked now chore).run s) log (.done r)) : r.1 = true := by
  cases chore with
  | sweep =>
    obtain ⟨_, last, swept, hswept, hlast⟩ := Workflow.course_run_bind (Workflow.course_get_bind h)
    obtain ⟨⟨calls, hcalls⟩, -⟩ := Workflow.course_run (I := fun _ => True) (fun _ _ _ _ _ _ => trivial) trivial hswept
    rcases Sweep.report_of_late late hcalls with ⟨report, hreport⟩ | ⟨e, he, -⟩
    · rw [hreport] at hlast
      obtain ⟨-, rfl⟩ := course_done_iff.mp hlast
      rfl
    · rw [he] at hlast
      obtain ⟨-, rfl⟩ := course_done_iff.mp hlast
      rfl
  | averages =>
    obtain ⟨_, last, done, -, hlast⟩ := Workflow.course_run_bind h
    obtain ⟨-, rfl⟩ := course_done_iff.mp hlast
    rfl

/-- What has become due is done, and the chores stay. -/
theorem chores_catchUp {now : Instant} (late : Instant.ofDays 2 ≤ now.since .first) {seconds : Nat}
    {r : Unit × Service} (h : Course ((catchUp .asked now seconds).run s) log (.done r)) : r.2.chores = s.chores := by
  obtain ⟨_, last, done, hdone, hlast⟩ := Workflow.course_run_bind (Workflow.course_get_bind h)
  obtain ⟨-, rfl⟩ := course_done_iff.mp hlast
  exact Agenda.works_runFor (fun _ _ _ _ => carryOut_eq_true late) hdone

/-- An answer to the creation of a job leaves the agenda as it is. -/
theorem agenda_answerJob {c : JobCall} {r : c.Reply × Service}
    (h : Course ((answerJob .asked c).run s) log (.done r)) : r.2.agenda = s.agenda := by
  obtain ⟨_, last, answered, hanswered, hlast⟩ := Workflow.course_run_bind (Workflow.course_get_bind h)
  obtain ⟨-, rfl⟩ := course_done_iff.mp hlast
  rfl

/-- A request does not change the agenda. -/
theorem agenda_respond {stamp : Stamp} {request : Web.Request} {r : Web.Response × Service}
    (h : Course ((respond .asked stamp request).run s) log (.done r)) : r.2.agenda = s.agenda :=
  (Workflow.course_run (I := fun t => t.agenda = s.agenda)
    (fun _ _ _ _ hagenda hanswer => (agenda_answerJob hanswer).trans hagenda) rfl (Workflow.course_get_bind h)).2

/-- **Whatever happens,** the chores stay. -/
theorem chores_meet {occasions : List Occasion} (late : ∀ o ∈ occasions, o.IsLate) {r : PUnit × Service}
    (h : Course ((occasions.forM (meet .asked)).run s) log (.done r)) : r.2.chores = s.chores := by
  -- Over the occasions. Runs, jobs and averages change with each of them, and the chores are all that is followed.
  induction occasions generalizing s log with
  | nil =>
    obtain ⟨-, rfl⟩ := course_done_iff.mp h
    rfl
  | cons o occasions ih =>
    obtain ⟨_, rest, met, hmet, hrest⟩ := Workflow.course_run_bind h
    rw [ih (fun o ho => late o (List.mem_cons_of_mem _ ho)) hrest]
    have hlate := late o List.mem_cons_self
    cases o with
    | wake now seconds => exact chores_catchUp hlate hmet
    | request stamp r =>
      obtain ⟨_, last, answered, hanswered, hlast⟩ := Workflow.course_run_bind hmet
      obtain ⟨-, rfl⟩ := course_done_iff.mp hlast
      exact congrArg (List.map (·.work)) (agenda_respond hanswered)

end Service

/-- **No run ends the sweeping.** It cannot be told what is due for a run just if it expires later than now and within
two days, and its last two days would begin before the first instant; no distance is too long to be counted. So from the
third day of the calendar on every sweep has a report, unless the runs could not be listed, which a store in memory never
fails to do. And a service goes on with the chores on its agenda, whatever runs it stores, whatever requests come and
whatever its surroundings answer. -/
theorem no_run_ends_the_sweeping :
    (∀ (run : Run) (now : Instant), run.nextAction? now = none ↔
      now < run.expiration ∧ run.expiration.since now ≤ Instant.ofDays 2 ∧
        run.expiration.nanos - Instant.ofDays 2 < Instant.first.nanos) ∧
    (∀ a b : Instant, -Instant.longest ≤ a.since b ∧ a.since b ≤ Instant.longest) ∧
    (∀ now : Instant, Instant.ofDays 2 ≤ now.since .first →
      (∀ rules log result, Course (Sweep.sweep rules now) log (.done result) →
        (∃ report, result = .ok report) ∨ ∃ e, result = .error (.store e) ∧ log = [⟨.listRuns, .error e⟩]) ∧
      ∀ (s : Store) (round : Round), round.now = now → ∃ report, (s.sweep round).result = .ok report) ∧
    ∀ (s : Service) (occasions : List Service.Occasion), (∀ o ∈ occasions, o.IsLate) →
      ∀ {τ : Type} (answer : τ → (c : OutsideCall) → c.Reply × τ) (t : τ),
        (((occasions.forM (Service.meet .asked)).run s).play answer t).result.2.chores = s.chores := by
  refine ⟨fun run now => Run.untold_iff_before_calendar, Instant.since_bounds, ?_, ?_⟩
  · intro now late
    refine ⟨fun rules log result h => Sweep.report_of_late late h, ?_⟩
    rintro s round rfl
    have hcourse : Course (Sweep.sweep round.rules round.now) (s.sweep round).log (.done (s.sweep round).result) :=
      (Workflow.course_play _ _ _).1
    rcases Sweep.report_of_late late hcourse with hreport | ⟨e, -, hlog⟩
    · exact hreport
    · rw [Store.sweep_eq_through] at hlog
      cases (List.cons.inj hlog).1
  · intro s occasions late τ answer t
    exact Service.chores_meet late (Workflow.course_play answer t _).1

/-- Surroundings for trials in which everything fails. -/
def OutsideCall.refuse (t : Unit) : (c : OutsideCall) → c.Reply × Unit
  | .preset path => (.error (.file path), t)
  | .dispatch _ => (.error (.queue "refused"), t)
  | .mail _ => (.error (.mail "refused"), t)
  | .count _ => (.error (.external "refused"), t)

/-- On the third day of the calendar, with one run that expired on its first day and one that expires with its last
instant. -/
theorem trial_sweeping_goes_on :
    let noon : Instant := ⟨Calendar.firstDay, 43200, 0, by decide⟩
    let third : Instant := ⟨Calendar.firstDay + 2, 0, 0, by decide⟩
    let last : Instant := ⟨Calendar.lastDay, 86399, 1999999999, by decide⟩
    let s : Store := { Store.empty with runs := [.trial ⟨1⟩ ⟨1⟩ noon, .trial ⟨2⟩ ⟨1⟩ last] }
    let round : Round := ⟨third, ⟨"http://localhost", "noreply"⟩, fun _ _ => .ok (), []⟩
    let served (service : Service) : Service :=
      ((([.wake third 0, .wake third 7200].forM (Service.meet .asked)).run service).play OutsideCall.refuse ()).result.2
    (Run.trial ⟨1⟩ ⟨1⟩ noon).nextAction? .first = none ∧
      (∃ report, (s.sweep round).result = .ok report) ∧
        ∃ settings, Settings.ofEnvironment [("STORE_BACKEND", "memory")] = .ok settings ∧
          (served (.start settings none s)).chores = [.sweep, .averages] := by
  intro noon third last s round served
  obtain ⟨huntold, -, hsweep, hservice⟩ := no_run_ends_the_sweeping
  have late : Instant.ofDays 2 ≤ third.since .first := by decide +kernel
  have lates : ∀ o ∈ ([.wake third 0, .wake third 7200] : List Service.Occasion), o.IsLate := by
    intro o ho
    simp only [List.mem_cons, List.not_mem_nil, or_false] at ho
    rcases ho with rfl | rfl <;> exact late
  have heval : (Settings.ofEnvironment [("STORE_BACKEND", "memory")]).toOption.isSome = true := by decide +kernel
  obtain ⟨settings, hsettings⟩ := Option.isSome_iff_exists.mp heval
  refine ⟨(huntold _ _).mpr (by decide +kernel), (hsweep third late).2 s round rfl, settings,
    eq_ok_of_toOption hsettings, ?_⟩
  exact hservice (.start settings none s) _ lates OutsideCall.refuse ()

end MapExport
