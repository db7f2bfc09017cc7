import MapExport.Proofs.Expiration.Grounds
import MapExport.Proofs.Expiration.Warnings

/-!
# Sweeping twice at the same time

What a sweep has settled is settled for good, and what it has not is tried again: a second sweep at the same time
finds something due for just those runs that the first one skipped or failed with, and for each of them the same as
before (`second_sweep_retries`). In particular it has nothing to do where nothing was left.

The reason is that one sweep changes of a run nothing but its stamp, and that a stamp silences the warning for which
it was made. At the start of the last two days this depends on the two tests of the decision agreeing to the
nanosecond.
-/

set_option autoImplicit false

namespace MapExport

/-! ## What is due -/

/-- **What is due for a run,** if anything is. -/
def Run.due? (run : Run) (now : Instant) : Option RunAction :=
  (run.nextAction? now).filter fun action => action ≠ .nothing

/-- **What is due for runs:** those for which something is, in their order, with what it is. -/
def Run.dueAmong (now : Instant) (runs : List Run) : List (Uid × RunAction) :=
  runs.filterMap fun run => (run.due? now).map (run.uid, ·)

/-- **Unsettled** is what a sweep has to skip or fails with. -/
def RunOutcome.isUnsettled : RunOutcome → Bool
  | .skipped | .failed => true
  | _ => false

/-- **The runs that a sweep leaves unsettled.** -/
def Store.unsettled (s : Store) (round : Round) : List Run :=
  s.runs.filter fun run => (s.fate round run).isUnsettled

namespace Run

variable {run : Run} {now : Instant}

theorem due?_eq_none_iff (told : run.nextAction? now ≠ none) :
    run.due? now = none ↔ run.nextAction? now = some .nothing := by
  unfold due?
  cases haction : run.nextAction? now with
  | none => exact absurd haction told
  | some action => by_cases hnothing : action = .nothing <;> simp [Option.filter, hnothing]

/-- Where nothing is due, just that is told of every run. -/
theorem nothing_of_dueAmong_eq_nil {runs : List Run} (told : ∀ run ∈ runs, run.nextAction? now ≠ none)
    (h : dueAmong now runs = []) : ∀ run ∈ runs, run.nextAction? now = some .nothing := by
  intro run hrun
  rw [← due?_eq_none_iff (told run hrun)]
  exact Option.map_eq_none_iff.mp (List.filterMap_eq_nil_iff.mp h run hrun)

/-- **A stamp silences the warning for which it was made.** -/
theorem nothing_due_after_stamp {threshold : Threshold} (hexpiration : run.expiration.isLeap = false)
    (hnow : now.isLeap = false) (hdue : run.nextAction? now = some (.notify threshold)) :
    nextAction? { run with notified := some now } now = some .nothing := by
  cases threshold with
  | twoDay =>
    obtain ⟨hearly, hwithin, start, hstart, -⟩ := twoDay_is_due_iff.mp hdue
    have hlate := (isWithin_twoDay_iff hexpiration hnow hstart).mp hwithin
    rw [stamped_in_last_days hearly hwithin hstart, if_pos hlate]
  | sevenDay =>
    obtain ⟨hearly, hbefore, -⟩ := sevenDay_is_due_iff.mp hdue
    exact stamped_before_last_days hearly hbefore

end Run

namespace Store

variable {s : Store} {round : Round} {run left : Run}

/-- **What is left of a run** is the run itself, if the sweep leaves it unsettled, and else a run for which nothing is
due. -/
theorem unsettled_or_silent (hexpiration : run.expiration.isLeap = false) (hnow : round.now.isLeap = false)
    (told : run.nextAction? round.now ≠ none)
    (hleave : (s.fate round run).leave round.now run = some left) :
    (s.fate round run).isUnsettled = true ∧ left = run ∨
      (s.fate round run).isUnsettled = false ∧ left.nextAction? round.now = some .nothing := by
  cases hfate : s.fate round run with
  | deleted =>
    rw [hfate] at hleave
    cases hleave
  | untouched =>
    rw [hfate] at hleave
    cases hleave
    exact .inr ⟨rfl, (fate_eq_untouched_iff told).mp hfate⟩
  | notified threshold =>
    rw [hfate] at hleave
    cases hleave
    exact .inr ⟨rfl, Run.nothing_due_after_stamp hexpiration hnow (due_of_notified hfate)⟩
  | skipped =>
    rw [hfate] at hleave
    cases hleave
    exact .inl ⟨rfl, rfl⟩
  | failed =>
    rw [hfate] at hleave
    cases hleave
    exact .inl ⟨rfl, rfl⟩

/-- Something was due for every run that is left unsettled. -/
theorem due?_ne_none_of_unsettled (told : run.nextAction? round.now ≠ none)
    (h : (s.fate round run).isUnsettled = true) : run.due? round.now ≠ none := by
  intro hnone
  have hnothing := (Run.due?_eq_none_iff told).mp hnone
  rw [(fate_eq_untouched_iff told).mpr hnothing] at h
  cases h

/-- The unsettled runs are those that a report counts as skipped or failed. -/
theorem length_unsettled (s : Store) (round : Round) :
    (s.unsettled round).length = s.numberOf round .skipped s.runs + s.numberOf round .failed s.runs := by
  unfold unsettled numberOf
  rw [← List.countP_eq_length_filter]
  generalize s.runs = runs
  induction runs with
  | nil => rfl
  | cons run runs ih =>
    rw [List.countP_cons, List.countP_cons, List.countP_cons, ih]
    have hhead : (if (s.fate round run).isUnsettled = true then 1 else 0) =
        (if decide (s.fate round run = .skipped) = true then 1 else 0) +
          if decide (s.fate round run = .failed) = true then 1 else 0 := by
      cases s.fate round run <;> rfl
    omega

section

variable (orderly : s.Orderly) (hnow : round.now.isLeap = false)
  (told : ∀ run ∈ s.runs, run.nextAction? round.now ≠ none)

include orderly hnow told

/-- **Whoever looks only at runs for which something is due** sees after the sweep those that it left unsettled, as
they were. -/
theorem filterMap_left {β : Type} (see : Run → Option β)
    (blind : ∀ run : Run, run.nextAction? round.now = some .nothing → see run = none) :
    (s.left round s.runs).filterMap see = (s.unsettled round).filterMap see := by
  rw [left, unsettled, List.filterMap_filterMap, List.filterMap_filter]
  refine List.filterMap_congr fun run hrun => ?_
  cases hleave : (s.fate round run).leave round.now run with
  | none =>
    have hfate : s.fate round run = .deleted := by
      cases hfate : s.fate round run <;> rw [hfate] at hleave <;> cases hleave
    simp [hfate, RunOutcome.isUnsettled]
  | some left =>
    rcases unsettled_or_silent (orderly.ordinary run hrun) hnow (told run hrun) hleave with
      ⟨hunsettled, rfl⟩ | ⟨hsettled, hsilent⟩
    · simp [hunsettled]
    · simp [hsettled, blind left hsilent]

/-- **What is due after the sweep** is what was due for the runs that it left unsettled. -/
theorem dueAmong_left :
    Run.dueAmong round.now (s.left round s.runs) = Run.dueAmong round.now (s.unsettled round) := by
  refine filterMap_left orderly hnow told _ fun run hsilent => ?_
  rw [Run.due?, hsilent]
  rfl

/-- The same for a test that runs with nothing due do not pass. -/
theorem filter_left (test : Run → Bool)
    (blind : ∀ run : Run, run.nextAction? round.now = some .nothing → test run = false) :
    (s.left round s.runs).filter test = (s.unsettled round).filter test := by
  rw [← List.filterMap_eq_filter]
  refine filterMap_left orderly hnow told (Option.guard test) fun run hsilent => ?_
  simp [Option.guard, blind run hsilent]

end

/-- **Where nothing is due** a sweep does nothing. -/
theorem sweep_of_idle (distinct : (s.runs.map (·.uid)).Nodup)
    (idle : ∀ run ∈ s.runs, run.nextAction? round.now = some .nothing) :
    (s.sweep round).result = .ok .empty ∧ (s.sweep round).log.filterMap SweepCall.mailed? = [] ∧
      (s.sweep round).state.store = { s with faults := round.faults } := by
  have told : ∀ run ∈ s.runs, run.nextAction? round.now ≠ none := by
    intro run hrun
    rw [idle run hrun]
    exact Option.some_ne_none _
  have hfate : ∀ run ∈ s.runs, s.fate round run = .untouched := fun run hrun =>
    (fate_eq_untouched_iff (told run hrun)).mpr (idle run hrun)
  obtain ⟨hresult, hstate, hmailed⟩ := sweep_of_told distinct told
  have hleft : s.left round s.runs = s.runs := by
    unfold left
    have hkept : ∀ run ∈ s.runs, (s.fate round run).leave round.now run = some run := by
      intro run hrun
      rw [hfate run hrun]
      rfl
    rw [List.filterMap_congr hkept, List.filterMap_some]
  have hdeleted : s.deletedAmong round s.runs = [] := by
    unfold deletedAmong
    rw [List.filter_eq_nil_iff.mpr fun run hrun => by simp [hfate run hrun]]
    rfl
  have hnotified : s.notifiedAmong round s.runs = [] := by
    unfold notifiedAmong
    exact List.filterMap_eq_nil_iff.mpr fun run hrun => by rw [hfate run hrun]; rfl
  have hnone : s.unsettled round = [] := by
    unfold unsettled
    exact List.filter_eq_nil_iff.mpr fun run hrun => by simp [hfate run hrun, RunOutcome.isUnsettled]
  have hcounts := length_unsettled s round
  rw [hnone, List.length_nil] at hcounts
  refine ⟨?_, ?_, ?_⟩
  · have hskipped : s.numberOf round .skipped s.runs = 0 := by omega
    have hfailed : s.numberOf round .failed s.runs = 0 := by omega
    rw [hresult, addFates_eq, hdeleted, hnotified, hskipped, hfailed]
    rfl
  · rw [hmailed]
    refine List.filterMap_eq_nil_iff.mpr fun run hrun => ?_
    rw [warning?, idle run hrun]
    rfl
  · rw [hstate, sweptTo, hleft, hdeleted, List.append_nil]
    simp

/-- **A sweep with a report has tried to delete** just the runs for which that was due. -/
theorem attempts_sweep {report : SweepReport} (h : (s.sweep round).result = .ok report) :
    (s.sweep round).log.filterMap SweepCall.attempted? =
      (s.runs.filter fun run => run.nextAction? round.now = some .delete).map (·.uid) := by
  rw [sweep_eq_through] at h ⊢
  have hcourse := (Workflow.course_play (Sweeping.answer round.mailer) (s.sweptTo round [] s.runs)
    (Sweep.through round.rules round.now (s.runs.map s.expiring) .empty)).1
  simp only at h
  rw [h] at hcourse
  have hattempts := Sweep.attempts_through hcourse
  rw [List.filter_map, List.map_map] at hattempts
  exact hattempts

/-- **What a second sweep finds,** after a first one that left some runs unsettled. -/
structure Retries (s : Store) (round again : Round) (report report' : SweepReport) : Prop where
  /-- The reports account for the runs of both sweeps. -/
  first : s.AccountedIn round (s.sweep round).log report
  second : (s.sweep round).state.store.AccountedIn again ((s.sweep round).state.store.sweep again).log report'
  /-- What was left unsettled are the runs that the first report counts as skipped or failed. -/
  counted : (s.unsettled round).length = report.skipped + report.failures
  /-- Something was due for each of them, and that is all that is due at the second sweep. -/
  each : (Run.dueAmong round.now (s.unsettled round)).map (·.1) = (s.unsettled round).map (·.uid)
  due : Run.dueAmong again.now (s.sweep round).state.store.runs = Run.dueAmong round.now (s.unsettled round)
  /-- The second sweep tries to delete those of them that had to be deleted, and mails the warnings about the
  others. -/
  deletions : ((s.sweep round).state.store.sweep again).log.filterMap SweepCall.attempted? =
    ((s.unsettled round).filter fun run => run.nextAction? round.now = some .delete).map (·.uid)
  mails : (((s.sweep round).state.store.sweep again).log.filterMap SweepCall.mailed?).map (·.1) =
    (s.unsettled round).filterMap (s.warning? again)
  /-- Where nothing was left unsettled, it does nothing. The store is then the same, with the failures that were set
  for the second sweep. -/
  idle : report.skipped = 0 → report.failures = 0 →
    report' = .empty ∧ ((s.sweep round).state.store.sweep again).log.filterMap SweepCall.mailed? = [] ∧
      ((s.sweep round).state.store.sweep again).state.store =
        { (s.sweep round).state.store with faults := again.faults }

/-- For each of the runs that are left unsettled something was due. -/
theorem map_fst_dueAmong_unsettled (told : ∀ run ∈ s.runs, run.nextAction? round.now ≠ none) :
    (Run.dueAmong round.now (s.unsettled round)).map (·.1) = (s.unsettled round).map (·.uid) := by
  have hdue : (s.unsettled round).filter (fun run => (run.due? round.now).isSome) = s.unsettled round := by
    refine List.filter_eq_self.mpr fun run hrun => ?_
    obtain ⟨hrun, hunsettled⟩ := List.mem_filter.mp hrun
    exact Option.isSome_iff_ne_none.mpr (due?_ne_none_of_unsettled (told run hrun) hunsettled)
  rw [Run.dueAmong, Keyed.map_fst_filterMap, hdue]

end Store

/-- **A second sweep at the same time tries again what the first one left unsettled,** and nothing else: for the runs
that were skipped or failed the same is due as before, and for no other run anything. If there are none of these, it
does nothing. -/
theorem second_sweep_retries (s : Store) (round again : Round) (orderly : s.Orderly)
    (ordinary : round.now.isLeap = false) (told : ∀ run ∈ s.runs, run.nextAction? round.now ≠ none)
    (same : again.now = round.now) :
    ∃ report report', (s.sweep round).result = .ok report ∧
      ((s.sweep round).state.store.sweep again).result = .ok report' ∧
      s.Retries round again report report' := by
  obtain ⟨hresult, hstate, -⟩ := Store.sweep_of_told orderly.distinct told
  have hafter : (Stage.mk s round).store.Orderly := orderly
  have orderly' : (s.sweep round).state.store.Orderly := Stage.orderly_after hafter
  have hruns : (s.sweep round).state.store.runs = s.left round s.runs := by
    rw [hstate, Store.sweptTo, List.append_nil]
  have told' : ∀ run ∈ (s.sweep round).state.store.runs, run.nextAction? again.now ≠ none := by
    rw [same]
    exact Stage.told_after hafter told
  obtain ⟨hresult', -, hmailed'⟩ := Store.sweep_of_told orderly'.distinct told'
  have haccounted := Store.accountedIn_sweep orderly.distinct told
  have haccounted' := Store.accountedIn_sweep orderly'.distinct told'
  have hcounted : (s.unsettled round).length =
      (s.addFates round .empty s.runs).skipped + (s.addFates round .empty s.runs).failures := by
    rw [haccounted.skipped, haccounted.failures]
    exact Store.length_unsettled s round
  have hdue : Run.dueAmong again.now (s.sweep round).state.store.runs =
      Run.dueAmong round.now (s.unsettled round) := by
    rw [hruns, same]
    exact Store.dueAmong_left orderly ordinary told
  refine ⟨_, _, hresult, hresult', haccounted, haccounted', hcounted, Store.map_fst_dueAmong_unsettled told, hdue,
    ?_, ?_, ?_⟩
  · rw [Store.attempts_sweep hresult', hruns, same]
    rw [Store.filter_left orderly ordinary told _ fun run hsilent => by simp [hsilent]]
  · -- How a warning reads depends on tables that a sweep leaves alone.
    have hwarning : (s.sweep round).state.store.warning? again = s.warning? again := by
      rw [hstate]
      rfl
    rw [hmailed', List.map_filterMap, hwarning, hruns]
    have hmail : (fun run => ((s.warning? again run).map fun mail =>
        (mail, (s.sweep round).state.store.mailed again run mail)).map (·.1)) = s.warning? again := by
      funext run
      cases s.warning? again run <;> rfl
    rw [hmail]
    refine Store.filterMap_left orderly ordinary told _ fun run hsilent => ?_
    rw [Store.warning?, same, hsilent]
  · intro hskipped hfailures
    have hnone : s.unsettled round = [] := by
      rw [← List.length_eq_zero_iff]
      omega
    rw [hnone] at hdue
    obtain ⟨hempty, hnomail, hstore⟩ :=
      Store.sweep_of_idle orderly'.distinct (Run.nothing_of_dueAmong_eq_nil told' hdue)
    exact ⟨Except.ok.inj (hresult'.symm.trans hempty), hnomail, hstore⟩

/-- One deletion is refused, one mail is not sent and one owner cannot be written to; the second sweep finds these
three runs again, and deletes the first of them. -/
theorem trial_retries :
    let again : Round := { Round.trial with faults := [] }
    Store.trialRuns.Orderly ∧ Round.trial.now.isLeap = false ∧
      (∀ run ∈ Store.trialRuns.runs, run.nextAction? Round.trial.now ≠ none) ∧ again.now = Round.trial.now ∧
      ∃ report report', Store.trialRuns.Retries .trial again report report' ∧
        Run.dueAmong again.now (Store.trialRuns.sweep .trial).state.store.runs =
          [(⟨2⟩, .delete), (⟨4⟩, .notify .sevenDay), (⟨5⟩, .notify .twoDay)] ∧
        ((Store.trialRuns.sweep .trial).state.store.sweep again).log.filterMap SweepCall.attempted? = [⟨2⟩] := by
  intro again
  have orderly : Store.trialRuns.Orderly := ⟨by decide, by decide⟩
  have ordinary : Round.trial.now.isLeap = false := by decide
  have told : ∀ run ∈ Store.trialRuns.runs, run.nextAction? Round.trial.now ≠ none := by decide
  obtain ⟨report, report', -, -, hretries⟩ :=
    second_sweep_retries .trialRuns .trial again orderly ordinary told rfl
  refine ⟨orderly, ordinary, told, rfl, report, report', hretries, ?_, ?_⟩
  · rw [hretries.due]
    decide
  · rw [hretries.deletions]
    decide

end MapExport
