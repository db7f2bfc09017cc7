import MapExport.Proofs.Expiration.Fate
import MapExport.Proofs.Store.Keys

/-!
# Accounting for a sweep

The report of a sweep accounts for every run once: deleted, warned about, skipped, failed, or left alone because
nothing is due. The two lists of the report are what the store was asked for and did, the store afterwards is the
one before with exactly these changes, and what happens to a run is not changed by what fails for another one
(`sweep_accounts_for_all`).
-/

set_option autoImplicit false

namespace MapExport

open Workflow (Played Course course_call_iff course_done_iff course_bind_iff)

/-! ## The report and the calls -/

namespace SweepCall

/-- A run that the store was asked to delete and did. -/
def deleted? : Workflow.Event SweepCall SweepCall.Reply → Option Uid
  | ⟨.deleteRun run, .ok _⟩ => some run
  | _ => none

/-- A run of which the store was asked to keep that its owner was warned, and did. -/
def warned? : Workflow.Event SweepCall SweepCall.Reply → Option Uid
  | ⟨.markNotified run _, .ok _⟩ => some run
  | _ => none

theorem eq_of_deleted? {e : Workflow.Event SweepCall SweepCall.Reply} {uid : Uid} (h : deleted? e = some uid) :
    ∃ reply, e = ⟨.deleteRun uid, reply⟩ := by
  obtain ⟨c, reply⟩ := e
  cases c with
  | deleteRun run =>
    cases (reply : Except Failure Unit) with
    | ok u =>
      cases h
      exact ⟨.ok u, rfl⟩
    | error e => cases h
  | _ => cases h

/-- Whether a call failed. -/
def isRefused (e : Workflow.Event SweepCall SweepCall.Reply) : Bool := !e.reply.isOk

end SweepCall

namespace SweepReport

/-- **A report goes by the calls:** what it adds to an earlier one is what the store was asked for and did. -/
structure GoesBy (earlier : SweepReport) (log : List (Workflow.Event SweepCall SweepCall.Reply))
    (report : SweepReport) : Prop where
  deleted : report.deleted = earlier.deleted ++ log.filterMap SweepCall.deleted?
  warned : report.notified.map (·.1) = earlier.notified.map (·.1) ++ log.filterMap SweepCall.warned?
  failures : report.failures = earlier.failures + log.countP SweepCall.isRefused

/-- Without calls there is nothing to report. -/
theorem GoesBy.nil {report report' : SweepReport} (hdeleted : report'.deleted = report.deleted)
    (hnotified : report'.notified = report.notified) (hfailures : report'.failures = report.failures) :
    GoesBy report [] report' :=
  ⟨by rw [hdeleted]; exact (List.append_nil _).symm, by rw [hnotified]; exact (List.append_nil _).symm,
    hfailures⟩

/-- A call that fails adds to the failures and lists nothing. -/
theorem GoesBy.refused (report : SweepReport) (run : Uid) (call : SweepCall) (e : Failure) :
    GoesBy report [⟨call, .error e⟩] (report.add run .failed) := by
  cases call <;> exact ⟨(List.append_nil _).symm, (List.append_nil _).symm, rfl⟩

/-- A mail that was sent is not listed before it is kept that it was. -/
theorem GoesBy.sent (report : SweepReport) (mail : Mail) (reply : Unit) :
    GoesBy report [⟨.sendMail mail, .ok reply⟩] report :=
  ⟨(List.append_nil _).symm, (List.append_nil _).symm, rfl⟩

theorem GoesBy.append {a b c : SweepReport} {log more : List (Workflow.Event SweepCall SweepCall.Reply)}
    (h : GoesBy a log b) (h' : GoesBy b more c) : GoesBy a (log ++ more) c := by
  refine ⟨?_, ?_, ?_⟩
  · rw [h'.deleted, h.deleted, List.filterMap_append, List.append_assoc]
  · rw [h'.warned, h.warned, List.filterMap_append, List.append_assoc]
  · rw [h'.failures, h.failures, List.countP_append, Nat.add_assoc]

end SweepReport

namespace Sweep

open SweepReport (GoesBy)

variable {rules : WarningRules} {now : Instant}

/-- Warning the owner of a run. -/
theorem goesBy_warn {run : ExpiringRun} {threshold : Threshold} {outcome : RunOutcome}
    {log : List (Workflow.Event SweepCall SweepCall.Reply)}
    (h : Course (warn rules now run threshold) log (.done outcome)) (report : SweepReport) :
    GoesBy report log (report.add run.run.uid outcome) := by
  rw [warn] at h
  split at h
  · obtain ⟨rfl, rfl⟩ := course_done_iff.mp h
    exact .nil rfl rfl rfl
  obtain ⟨sent, rest, rfl, hsent⟩ := course_call_iff.mp h
  cases sent with
  | error e =>
    obtain ⟨rfl, rfl⟩ := course_done_iff.mp hsent
    exact .refused report run.run.uid _ e
  | ok sent =>
    obtain ⟨kept, rest, rfl, hkept⟩ := course_call_iff.mp hsent
    obtain ⟨rfl, rfl⟩ := course_done_iff.mp hkept
    cases kept with
    | error e => exact (GoesBy.sent report _ sent).append (.refused report run.run.uid _ e)
    | ok kept => exact ⟨(List.append_nil _).symm, List.map_append, rfl⟩

/-- Doing what is due for a run. -/
theorem goesBy_carryOut {run : ExpiringRun} {action : RunAction} {outcome : RunOutcome}
    {log : List (Workflow.Event SweepCall SweepCall.Reply)}
    (h : Course (carryOut rules now run action) log (.done outcome)) (report : SweepReport) :
    GoesBy report log (report.add run.run.uid outcome) := by
  cases action with
  | nothing =>
    obtain ⟨rfl, rfl⟩ := course_done_iff.mp h
    exact .nil rfl rfl rfl
  | notify threshold => exact goesBy_warn h report
  | delete =>
    obtain ⟨reply, rest, rfl, hreply⟩ := course_call_iff.mp h
    obtain ⟨rfl, rfl⟩ := course_done_iff.mp hreply
    cases reply with
    | error e => exact .refused report run.run.uid _ e
    | ok reply => exact ⟨rfl, (List.append_nil _).symm, rfl⟩

/-- **The report goes by the calls,** whatever these are answered. -/
theorem goesBy_through {runs : List ExpiringRun} {earlier report : SweepReport}
    {log : List (Workflow.Event SweepCall SweepCall.Reply)}
    (h : Course (through rules now runs earlier) log (.done (.ok report))) :
    GoesBy earlier log report := by
  -- What was reported of the runs before is any report, so that the rest can go on from it.
  induction runs generalizing earlier log with
  | nil =>
    obtain ⟨rfl, hreport⟩ := course_done_iff.mp h
    obtain rfl := Except.ok.inj hreport
    exact .nil rfl rfl rfl
  | cons run runs ih =>
    rw [through] at h
    split at h
    · obtain ⟨-, hreport⟩ := course_done_iff.mp h
      cases hreport
    · obtain ⟨first, second, outcome, rfl, hfirst, hsecond⟩ := course_bind_iff.mp h
      exact (goesBy_carryOut hfirst earlier).append (ih hsecond)

/-- The same of the whole sweep, which lists the runs first. -/
theorem goesBy_sweep {report : SweepReport} {log : List (Workflow.Event SweepCall SweepCall.Reply)}
    (h : Course (sweep rules now) log (.done (.ok report))) : GoesBy .empty log report := by
  obtain ⟨reply, rest, rfl, hrest⟩ := course_call_iff.mp h
  cases reply with
  | error e => cases (course_done_iff.mp hrest).2
  | ok runs =>
    obtain ⟨hdeleted, hwarned, hfailures⟩ := goesBy_through hrest
    exact ⟨hdeleted, hwarned, hfailures⟩

end Sweep

namespace Store

/-- The report of a sweep of a store goes by the calls. -/
theorem goesBy_sweep {s : Store} {round : Round} {report : SweepReport}
    (h : (s.sweep round).result = .ok report) :
    SweepReport.GoesBy .empty (s.sweep round).log report := by
  have hcourse := (Workflow.course_play (Sweeping.answer round.mailer)
    ⟨{ s with faults := round.faults }, []⟩ (Sweep.sweep round.rules round.now)).1
  have hresult : Course _ (s.sweep round).log (.done (s.sweep round).result) := hcourse
  rw [h] at hresult
  exact Sweep.goesBy_sweep hresult

/-! ## The report and the fates -/

end Store

/-- The warning that was sent. -/
def RunOutcome.threshold? : RunOutcome → Option Threshold
  | .notified threshold => some threshold
  | _ => none

namespace Store

/-- **The runs whose owners are warned,** with the thresholds. -/
def notifiedAmong (s : Store) (round : Round) (runs : List Run) : List (Uid × Threshold) :=
  runs.filterMap fun run => (s.fate round run).threshold?.map (run.uid, ·)

/-- **How many of the runs** have a fate. -/
def numberOf (s : Store) (round : Round) (outcome : RunOutcome) (runs : List Run) : Nat :=
  runs.countP fun run => s.fate round run = outcome

variable {s : Store} {round : Round} {run : Run}

/-- **What the fates of runs add to a report.** -/
theorem addFates_eq (report : SweepReport) (runs : List Run) :
    s.addFates round report runs =
      ⟨report.deleted ++ s.deletedAmong round runs, report.notified ++ s.notifiedAmong round runs,
        report.skipped + s.numberOf round .skipped runs,
        report.failures + s.numberOf round .failed runs⟩ := by
  induction runs generalizing report with
  | nil => simp [addFates, deletedAmong, notifiedAmong, numberOf]
  | cons run runs ih =>
    rw [addFates, List.foldl_cons, ← addFates, ih]
    cases hfate : s.fate round run <;>
      simp [hfate, SweepReport.add, deletedAmong, notifiedAmong, numberOf, RunOutcome.threshold?,
        Nat.add_assoc, Nat.add_comm 1]

theorem length_deletedAmong (runs : List Run) :
    (s.deletedAmong round runs).length = s.numberOf round .deleted runs := by
  rw [deletedAmong, List.length_map, numberOf, List.countP_eq_length_filter]

/-- **Every run has one fate,** so the numbers add up. -/
theorem numbers_add_up (runs : List Run) :
    (s.deletedAmong round runs).length + (s.notifiedAmong round runs).length +
      s.numberOf round .skipped runs + s.numberOf round .failed runs +
      s.numberOf round .untouched runs = runs.length := by
  rw [length_deletedAmong]
  induction runs with
  | nil => rfl
  | cons run runs ih =>
    simp only [numberOf, notifiedAmong, RunOutcome.threshold?] at ih
    cases hfate : s.fate round run <;>
      simp [numberOf, notifiedAmong, hfate, RunOutcome.threshold?] <;> omega

/-- **Left alone** is a run for which nothing is due, and no other. -/
theorem fate_eq_untouched_iff (told : run.nextAction? round.now ≠ none) :
    s.fate round run = .untouched ↔ run.nextAction? round.now = some .nothing := by
  rw [fate]
  cases haction : run.nextAction? round.now with
  | none => exact absurd haction told
  | some action =>
    cases action with
    | nothing => simp
    | delete => by_cases hfault : .deleteRun run.uid ∈ round.faults <;> simp [hfault]
    | notify threshold =>
      cases hwarning : s.warning? round run with
      | none => simp
      | some mail =>
        by_cases hsent : (s.mailed round run mail).isOk ∧ .markNotified run.uid ∉ round.faults <;>
          simp [hsent]

theorem mem_deletedAmong_iff (round : Round) (distinct : (s.runs.map (·.uid)).Nodup) (hrun : run ∈ s.runs) :
    run.uid ∈ s.deletedAmong round s.runs ↔ s.fate round run = .deleted := by
  rw [deletedAmong, Keyed.mem_map_filter_iff distinct _ hrun, decide_eq_true_iff]

/-- The identifiers of the runs whose owners are warned. -/
theorem map_fst_notifiedAmong (runs : List Run) :
    (s.notifiedAmong round runs).map (·.1) =
      (runs.filter fun run => (s.fate round run).threshold?.isSome).map (·.uid) :=
  Keyed.map_fst_filterMap _ _ runs

theorem mem_warned_iff (round : Round) (distinct : (s.runs.map (·.uid)).Nodup) (hrun : run ∈ s.runs) :
    run.uid ∈ (s.notifiedAmong round s.runs).map (·.1) ↔
      (s.fate round run).threshold?.isSome = true := by
  rw [map_fst_notifiedAmong, Keyed.mem_map_filter_iff distinct _ hrun]

/-- A run is not both deleted and warned about, nor either of them twice. -/
theorem nodup_deleted_warned (distinct : (s.runs.map (·.uid)).Nodup) :
    (s.deletedAmong round s.runs ++ (s.notifiedAmong round s.runs).map (·.1)).Nodup := by
  rw [List.nodup_append]
  refine ⟨(List.filter_sublist.map _).nodup distinct, ?_, ?_⟩
  · rw [map_fst_notifiedAmong]
    exact (List.filter_sublist.map _).nodup distinct
  · rintro _ hdeleted _ hwarned rfl
    obtain ⟨run, hrun, rfl⟩ := List.mem_map.mp hdeleted
    have hmem : run ∈ s.runs := (List.mem_filter.mp hrun).1
    have hfate := (mem_warned_iff round distinct hmem).mp hwarned
    rw [(mem_deletedAmong_iff round distinct hmem).mp hdeleted] at hfate
    cases hfate

/-! ## The store afterwards -/

/-- **What a report makes of a store:** the runs that were deleted are gone, with their task records, and of those
whose owners were warned it is kept when. -/
def reported (s : Store) (now : Instant) (report : SweepReport) : Store :=
  { s with
    runs := (s.runs.filter fun run => run.uid ∉ report.deleted).map fun run =>
      if run.uid ∈ report.notified.map (·.1) then { run with notified := some now } else run
    records := s.records.filter fun record => record.run ∉ report.deleted }

/-- What is left of the runs is what the report makes of them. -/
theorem left_eq_reported (distinct : (s.runs.map (·.uid)).Nodup) :
    s.left round s.runs = (s.reported round.now (s.addFates round .empty s.runs)).runs := by
  rw [addFates_eq, reported, ← List.filterMap_eq_map, List.filterMap_filter, left]
  -- The report lists identifiers. As no two runs have the same, it says of each run just what its fate does.
  refine List.filterMap_congr fun run hrun => ?_
  have hdeleted := mem_deletedAmong_iff round distinct hrun
  have hwarned := mem_warned_iff round distinct hrun
  simp only [SweepReport.empty, List.nil_append, Function.comp, hdeleted, hwarned]
  cases hfate : s.fate round run <;> simp [RunOutcome.leave, RunOutcome.threshold?]

theorem run?_of_mem (distinct : (s.runs.map (·.uid)).Nodup) (hrun : run ∈ s.runs) :
    s.run? run.uid = some run :=
  Keyed.find?_own distinct hrun

/-- **A sweep in which it can be told of every run what is due.** -/
theorem sweep_of_told (distinct : (s.runs.map (·.uid)).Nodup)
    (told : ∀ run ∈ s.runs, run.nextAction? round.now ≠ none) :
    (s.sweep round).result = .ok (s.addFates round .empty s.runs) ∧
      (s.sweep round).state = s.sweptTo round s.runs [] ∧
      (s.sweep round).log.filterMap SweepCall.mailed? = s.runs.filterMap fun run =>
        (s.warning? round run).map fun mail => (mail, s.mailed round run mail) := by
  obtain ⟨dealt, rest, hruns, hswept⟩ := s.swept_sweep round distinct
  rcases hswept.result with ⟨rfl, hresult⟩ | ⟨run, later, rfl, haction, -⟩
  · rw [List.append_nil] at hruns
    rw [hruns]
    exact ⟨hresult, hswept.state, hswept.mailed⟩
  · exact absurd haction (told run (hruns ▸ List.mem_append_right _ List.mem_cons_self))

/-- **What a run is afterwards** follows from its fate. -/
theorem run?_sweep (distinct : (s.runs.map (·.uid)).Nodup)
    (told : ∀ run ∈ s.runs, run.nextAction? round.now ≠ none) (uid : Uid) :
    (s.sweep round).state.store.run? uid =
      (s.run? uid).bind fun run => (s.fate round run).leave round.now run := by
  rw [(sweep_of_told distinct told).2.1, run?, sweptTo, List.append_nil, left]
  exact Keyed.find?_filterMap (fun _ _ => RunOutcome.uid_of_leave) distinct uid

/-- **Its task records** go with it. -/
theorem taskRecords_sweep (distinct : (s.runs.map (·.uid)).Nodup)
    (told : ∀ run ∈ s.runs, run.nextAction? round.now ≠ none) (hrun : run ∈ s.runs) :
    (s.sweep round).state.store.taskRecords run.uid =
      if s.fate round run = .deleted then [] else s.taskRecords run.uid := by
  have hdeleted := mem_deletedAmong_iff round distinct hrun
  rw [(sweep_of_told distinct told).2.1, taskRecords, sweptTo, List.filter_filter]
  split
  · next hfate =>
    refine List.filter_eq_nil_iff.mpr fun record _ hrecord => ?_
    obtain ⟨huid, hkept⟩ := Bool.and_eq_true_iff.mp hrecord
    rw [eq_of_beq huid] at hkept
    exact of_decide_eq_true hkept (hdeleted.mpr hfate)
  · next hfate =>
    refine List.filter_congr fun record _ => ?_
    by_cases huid : record.run = run.uid
    · simp [huid, hdeleted, hfate]
    · simp [huid]

/-! ## One run and the others -/

/-- **Two rounds are alike for a run:** they differ at most in what fails for other runs. -/
structure AlikeFor (s : Store) (round round' : Round) (run : Run) : Prop where
  now : round'.now = round.now
  rules : round'.rules = round.rules
  delete : .deleteRun run.uid ∈ round'.faults ↔ .deleteRun run.uid ∈ round.faults
  mark : .markNotified run.uid ∈ round'.faults ↔ .markNotified run.uid ∈ round.faults
  mail : ∀ mail, s.warning? round run = some mail →
    (s.mailed round' run mail).isOk = (s.mailed round run mail).isOk

/-- **What fails for other runs does not matter** for the fate of a run. -/
theorem fate_of_alike {round' : Round} (h : s.AlikeFor round round' run) :
    s.fate round' run = s.fate round run := by
  have hwarning : s.warning? round' run = s.warning? round run := by
    rw [warning?, warning?, h.now, h.rules]
  rw [fate, fate, h.now, hwarning]
  cases haction : run.nextAction? round.now with
  | none => rfl
  | some action =>
    cases action with
    | nothing => rfl
    | delete => simp only [h.delete]
    | notify threshold =>
      cases hmail : s.warning? round run with
      | none => rfl
      | some mail => simp only [h.mark, h.mail mail hmail]

/-! ## The account -/

/-- **A report that accounts for every run:** it lists the runs that were deleted and those whose owners were
warned, it numbers those that were skipped and those that failed, and together with the runs for which nothing is
due these are all runs, each once. What is listed the store was asked for and did, and each failure is a call that
was refused. -/
structure AccountedIn (s : Store) (round : Round)
    (log : List (Workflow.Event SweepCall SweepCall.Reply)) (report : SweepReport) : Prop where
  goesBy : SweepReport.GoesBy .empty log report
  deleted : report.deleted = s.deletedAmong round s.runs
  notified : report.notified = s.notifiedAmong round s.runs
  skipped : report.skipped = s.numberOf round .skipped s.runs
  failures : report.failures = s.numberOf round .failed s.runs
  once : (report.deleted ++ report.notified.map (·.1)).Nodup
  all : report.deleted.length + report.notified.length + report.skipped + report.failures +
    (s.runs.countP fun run => run.nextAction? round.now = some .nothing) = s.runs.length

theorem accountedIn_sweep (distinct : (s.runs.map (·.uid)).Nodup)
    (told : ∀ run ∈ s.runs, run.nextAction? round.now ≠ none) :
    s.AccountedIn round (s.sweep round).log (s.addFates round .empty s.runs) := by
  have hreport : s.addFates round .empty s.runs = ⟨s.deletedAmong round s.runs,
      s.notifiedAmong round s.runs, s.numberOf round .skipped s.runs,
      s.numberOf round .failed s.runs⟩ := by
    rw [addFates_eq]
    simp [SweepReport.empty]
  have hnothing : (s.runs.countP fun run => run.nextAction? round.now = some .nothing) =
      s.numberOf round .untouched s.runs :=
    List.countP_congr fun run hrun => by simp [fate_eq_untouched_iff (s := s) (told run hrun)]
  have hgoesBy := goesBy_sweep (sweep_of_told distinct told).1
  rw [hreport] at hgoesBy ⊢
  refine ⟨hgoesBy, rfl, rfl, rfl, rfl, nodup_deleted_warned distinct, ?_⟩
  rw [hnothing]
  exact numbers_add_up s.runs

end Store

/-- **A sweep accounts for every run.** Where it can be told of every run what is due, the sweep has a report; every
run is accounted for in it once; the store is changed as it says and not otherwise; and for every run all of this is
the same whatever fails for the other runs. -/
theorem sweep_accounts_for_all (s : Store) (round : Round) (distinct : (s.runs.map (·.uid)).Nodup)
    (told : ∀ run ∈ s.runs, run.nextAction? round.now ≠ none) :
    (∃ report, (s.sweep round).result = .ok report ∧
      s.AccountedIn round (s.sweep round).log report ∧
      (s.sweep round).state.store = { s with faults := round.faults }.reported round.now report) ∧
    ((s.sweep round).log.filterMap SweepCall.mailed? = s.runs.filterMap fun run =>
      (s.warning? round run).map fun mail => (mail, s.mailed round run mail)) ∧
    ∀ round', ∀ run ∈ s.runs, s.AlikeFor round round' run →
      s.fate round' run = s.fate round run ∧
      (s.sweep round').state.store.run? run.uid = (s.sweep round).state.store.run? run.uid ∧
      (s.sweep round').state.store.taskRecords run.uid =
        (s.sweep round).state.store.taskRecords run.uid := by
  obtain ⟨hresult, hstate, hmailed⟩ := Store.sweep_of_told distinct told
  refine ⟨⟨_, hresult, Store.accountedIn_sweep distinct told, ?_⟩, hmailed, ?_⟩
  · have hrecords : s.deletedAmong round s.runs = (s.addFates round .empty s.runs).deleted := by
      rw [Store.addFates_eq]
      rfl
    rw [hstate, Store.sweptTo, List.append_nil, Store.left_eq_reported distinct, hrecords]
    rfl
  · intro round' run hrun halike
    have told' : ∀ run ∈ s.runs, run.nextAction? round'.now ≠ none := halike.now ▸ told
    have hfate := Store.fate_of_alike halike
    refine ⟨hfate, ?_, ?_⟩
    · rw [Store.run?_sweep distinct told, Store.run?_sweep distinct told',
        Store.run?_of_mem distinct hrun, Option.bind_some, Option.bind_some, hfate, halike.now]
    · rw [Store.taskRecords_sweep distinct told hrun, Store.taskRecords_sweep distinct told' hrun, hfate]

/-! ## A sweep for trials -/

/-- The start of a day for trials, counted from the epoch. -/
def Instant.trialDay (n : Nat) : Instant :=
  (Instant.make? (Calendar.yearStart 1970 + n) 0 0).getD .epoch

/-- A run for trials. -/
def Run.trial (uid owner : Uid) (expiration : Instant) : Run :=
  ⟨uid, ⟨1⟩, owner, .completed, .epoch, expiration, none⟩

/-- A store for trials, with six runs that expire on different days; the owner of one of them cannot be written
to. -/
def Store.trialRuns : Store :=
  { Store.empty with
    users := [(⟨1⟩, ⟨⟨1⟩, "demo", some "demo@demo.com"⟩), (⟨2⟩, ⟨⟨2⟩, "admin", some " "⟩)]
    runs := [.trial ⟨1⟩ ⟨1⟩ (.trialDay 3), .trial ⟨2⟩ ⟨1⟩ (.trialDay 3), .trial ⟨3⟩ ⟨1⟩ (.trialDay 5),
      .trial ⟨4⟩ ⟨1⟩ (.trialDay 10), .trial ⟨5⟩ ⟨2⟩ (.trialDay 5), .trial ⟨6⟩ ⟨1⟩ (.trialDay 11)] }

/-- A round for trials: the store refuses to delete one of the runs, and only the first mail is sent. -/
def Round.trial : Round where
  now := .trialDay 3
  rules := ⟨"http://localhost", "noreply"⟩
  mailer := fun earlier _ => if earlier.isEmpty then .ok () else .error (.mail "refused")
  faults := [.deleteRun ⟨2⟩]

theorem trial_accounts_for_all :
    (Store.trialRuns.runs.map (·.uid)).Nodup ∧
      (∀ run ∈ Store.trialRuns.runs, run.nextAction? Round.trial.now ≠ none) ∧
      (Store.trialRuns.sweep .trial).result = .ok ⟨[⟨1⟩], [(⟨3⟩, .twoDay)], 1, 2⟩ := by
  have distinct : (Store.trialRuns.runs.map (·.uid)).Nodup := by decide
  have told : ∀ run ∈ Store.trialRuns.runs, run.nextAction? Round.trial.now ≠ none := by decide
  refine ⟨distinct, told, ?_⟩
  obtain ⟨⟨report, hresult, haccounted, -⟩, -⟩ := sweep_accounts_for_all .trialRuns .trial distinct told
  have hreport : report = ⟨[⟨1⟩], [(⟨3⟩, .twoDay)], 1, 2⟩ := by
    obtain ⟨-, hdeleted, hnotified, hskipped, hfailures, -, -⟩ := haccounted
    cases report
    cases hdeleted
    cases hnotified
    cases hskipped
    cases hfailures
    decide
  rw [hresult, hreport]

end MapExport
