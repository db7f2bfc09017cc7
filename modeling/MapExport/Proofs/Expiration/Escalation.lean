import MapExport.Proofs.Expiration.Retry
import MapExport.Proofs.Instant.Bounds
import MapExport.Proofs.Store.RecentRuns

/-!
# Urgency over time

What is due for a run becomes more urgent as time passes and never less: nothing at first, then a first warning, a last
one, and in the end its deletion. Only a stamp takes urgency away, and a stamp comes with a sweep. So a sweep that is
late, or that comes after others were skipped, finds something due for all the runs for which an earlier one would have
(`urgency_never_falls`).

This is about ordinary instants. Once it can be told what is due for a run, it can be told ever after, because the
calendar begins before the last two days of every run of which it can.
-/

set_option autoImplicit false

namespace MapExport

namespace RunAction

/-- **How urgent** it is what is due. -/
def urgency : RunAction → Nat
  | .nothing => 0
  | .notify .sevenDay => 1
  | .notify .twoDay => 2
  | .delete => 3

instance : LE RunAction := ⟨fun a b => a.urgency ≤ b.urgency⟩

instance (a b : RunAction) : Decidable (a ≤ b) := inferInstanceAs (Decidable (a.urgency ≤ b.urgency))

/-- Nothing is the least that can be due. -/
theorem nothing_le (a : RunAction) : .nothing ≤ a := Nat.zero_le a.urgency

theorem eq_nothing_of_le {a : RunAction} (h : a ≤ .nothing) : a = .nothing := by
  cases a with
  | nothing => rfl
  | notify threshold =>
    revert h
    cases threshold <;> decide
  | delete =>
    revert h
    decide

end RunAction

namespace Run

variable {run : Run} {now later : Instant}

/-- A run whose last two days begin before the calendar is within them as long as it has not expired. -/
theorem isWithin_of_no_lastDays (hexpiration : run.expiration.isLeap = false) (hnow : now.isLeap = false)
    (hnone : run.lastDays? = none) : run.isWithin .twoDay now = true := by
  have hbefore := (Instant.daysBefore?_eq_none_iff run.expiration Threshold.twoDay.days).mp hnone
  have hfirst := now.first_nanos_le
  rw [isWithin, decide_eq_true_iff, Instant.since_eq_sub hexpiration hnow]
  omega

/-- **What is due can be told ever after.** -/
theorem told_later (hexpiration : run.expiration.isLeap = false) (hnow : now.isLeap = false) (h : now ≤ later)
    (told : run.nextAction? now ≠ none) : run.nextAction? later ≠ none := by
  intro hnone
  obtain ⟨hearly, -, hdays⟩ := untold_iff.mp hnone
  have hearlier : ¬ run.expiration ≤ now := fun hexpired => hearly (Instant.le_trans hexpired h)
  exact told (untold_iff.mpr ⟨hearlier, isWithin_of_no_lastDays hexpiration hnow hdays, hdays⟩)

/-- A threshold that was passed stays passed. -/
theorem isWithin_later {threshold : Threshold} (hexpiration : run.expiration.isLeap = false)
    (hnow : now.isLeap = false) (hlater : later.isLeap = false) (h : now ≤ later)
    (hwithin : run.isWithin threshold now = true) : run.isWithin threshold later = true := by
  rw [Instant.le_iff_nanos hnow hlater] at h
  rw [isWithin, decide_eq_true_iff, Instant.since_eq_sub hexpiration hnow] at hwithin
  rw [isWithin, decide_eq_true_iff, Instant.since_eq_sub hexpiration hlater]
  omega

/-- Where a warning is due, no stamp tells of one in the last two days. -/
theorem notifiedSince_of_due {threshold : Threshold} {start : Instant}
    (hdue : run.nextAction? now = some (.notify threshold)) (hstart : run.lastDays? = some start) :
    run.notifiedSince start = false := by
  cases threshold with
  | sevenDay =>
    obtain ⟨-, -, -, hnone⟩ := sevenDay_is_due_iff.mp hdue
    rw [notifiedSince, hnone]
  | twoDay =>
    obtain ⟨-, -, start', hstart', hnotified⟩ := twoDay_is_due_iff.mp hdue
    obtain rfl := Option.some.inj (hstart.symm.trans hstart')
    exact hnotified

/-- **A warning that was due** gives way only to something more urgent. -/
theorem notify_le_later {threshold : Threshold} {action : RunAction} (hexpiration : run.expiration.isLeap = false)
    (hnow : now.isLeap = false) (hlater : later.isLeap = false) (h : now ≤ later)
    (hdue : run.nextAction? now = some (.notify threshold)) (hdue' : run.nextAction? later = some action) :
    .notify threshold ≤ action := by
  by_cases hexpired : run.expiration ≤ later
  · rw [delete_is_due_iff.mpr hexpired] at hdue'
    obtain rfl := Option.some.inj hdue'
    cases threshold <;> decide
  -- Within the last two days a stamp could silence the warning, but one that did would have silenced the earlier one.
  by_cases hwithin : run.isWithin .twoDay later = true
  · cases hstart : run.lastDays? with
    | none =>
      rw [untold_iff.mpr ⟨hexpired, hwithin, hstart⟩] at hdue'
      cases hdue'
    | some start =>
      rw [nextAction?_in_last_days hexpired hwithin hstart, notifiedSince_of_due hdue hstart] at hdue'
      obtain rfl := Option.some.inj hdue'
      cases threshold <;> decide
  · cases threshold with
    | twoDay =>
      obtain ⟨-, hearlier, -⟩ := twoDay_is_due_iff.mp hdue
      exact absurd (isWithin_later hexpiration hnow hlater h hearlier) hwithin
    | sevenDay =>
      obtain ⟨-, -, hearlier, hnone⟩ := sevenDay_is_due_iff.mp hdue
      have hseven := isWithin_later hexpiration hnow hlater h hearlier
      rw [sevenDay_is_due_iff.mpr ⟨hexpired, hwithin, hseven, hnone⟩] at hdue'
      obtain rfl := Option.some.inj hdue'
      decide

/-- **What is due for a run** can be told ever after, and is never less urgent. -/
theorem exists_more_urgent {action : RunAction} (hexpiration : run.expiration.isLeap = false)
    (hnow : now.isLeap = false) (hlater : later.isLeap = false) (h : now ≤ later)
    (hdue : run.nextAction? now = some action) : ∃ action', run.nextAction? later = some action' ∧ action ≤ action' := by
  have told : run.nextAction? now ≠ none := by
    rw [hdue]
    exact Option.some_ne_none action
  obtain ⟨action', hdue'⟩ := Option.ne_none_iff_exists'.mp (told_later hexpiration hnow h told)
  refine ⟨action', hdue', ?_⟩
  cases action with
  | nothing => exact action'.nothing_le
  | notify threshold => exact notify_le_later hexpiration hnow hlater h hdue hdue'
  | delete =>
    have hexpired := Instant.le_trans (delete_is_due_iff.mp hdue) h
    rw [delete_is_due_iff.mpr hexpired] at hdue'
    obtain rfl := Option.some.inj hdue'
    decide

/-- Where something is due, something is due later. -/
theorem due?_later (hexpiration : run.expiration.isLeap = false) (hnow : now.isLeap = false)
    (hlater : later.isLeap = false) (h : now ≤ later) (told : run.nextAction? now ≠ none)
    (hdue : run.due? now ≠ none) : run.due? later ≠ none := by
  obtain ⟨action, haction⟩ := Option.ne_none_iff_exists'.mp told
  obtain ⟨action', haction', hle⟩ := exists_more_urgent hexpiration hnow hlater h haction
  rw [Ne, due?_eq_none_iff told] at hdue
  rw [Ne, due?_eq_none_iff (told_later hexpiration hnow h told)]
  intro hnothing
  obtain rfl := Option.some.inj (haction'.symm.trans hnothing)
  rw [RunAction.eq_nothing_of_le hle] at haction
  exact hdue haction

/-- A sweep finds something due for the runs for which there is something. -/
theorem map_fst_dueAmong (now : Instant) (runs : List Run) :
    (dueAmong now runs).map (·.1) = (runs.filter fun run => (run.due? now).isSome).map (·.uid) :=
  Keyed.map_fst_filterMap _ _ runs

end Run

/-- **Urgency never falls.** Of a run of which it can be told what is due, it can be told ever after, and what is due
later is at least as urgent. So of runs that are left as they are, a later sweep finds something due for all those for
which an earlier one does. -/
theorem urgency_never_falls {now later : Instant} (hnow : now.isLeap = false) (hlater : later.isLeap = false)
    (h : now ≤ later) :
    (∀ run : Run, run.expiration.isLeap = false → ∀ action, run.nextAction? now = some action →
      ∃ action', run.nextAction? later = some action' ∧ action ≤ action') ∧
    ∀ runs : List Run, (∀ run ∈ runs, run.expiration.isLeap = false ∧ run.nextAction? now ≠ none) →
      ((Run.dueAmong now runs).map (·.1)).Sublist ((Run.dueAmong later runs).map (·.1)) := by
  constructor
  · intro run hexpiration action hdue
    exact Run.exists_more_urgent hexpiration hnow hlater h hdue
  · intro runs hruns
    rw [Run.map_fst_dueAmong, Run.map_fst_dueAmong]
    apply List.Sublist.map
    have hsame : (runs.filter fun run => (run.due? now).isSome) =
        (runs.filter fun run => (run.due? later).isSome).filter fun run => (run.due? now).isSome := by
      rw [List.filter_filter]
      apply List.filter_congr
      intro run hrun
      obtain ⟨hexpiration, told⟩ := hruns run hrun
      cases hdue : run.due? now with
      | none => rfl
      | some action =>
        have hsome : run.due? now ≠ none := by
          rw [hdue]
          exact Option.some_ne_none action
        have hdue' := Run.due?_later hexpiration hnow hlater h told hsome
        rw [Option.isSome_iff_ne_none.mpr hdue']
        rfl
    rw [hsame]
    exact List.filter_sublist

/-- A run that expires on the tenth day: its first warning is due from the third day on, and the last one on the eighth.
A sweep on the ninth day finds the last warning due, although there was no sweep before. -/
theorem trial_urgency :
    let run : Run := .trial ⟨4⟩ ⟨1⟩ (.trialDay 10)
    (Instant.trialDay 4).isLeap = false ∧ (Instant.trialDay 9).isLeap = false ∧
      Instant.trialDay 4 ≤ Instant.trialDay 9 ∧ run.expiration.isLeap = false ∧
      run.nextAction? (.trialDay 4) = some (.notify .sevenDay) ∧
      (∃ action, run.nextAction? (.trialDay 9) = some action ∧ .notify .sevenDay ≤ action) ∧
      List.Sublist [⟨4⟩] ((Run.dueAmong (.trialDay 9) [run]).map (·.1)) := by
  intro run
  have hdue : run.nextAction? (.trialDay 4) = some (.notify .sevenDay) := by decide
  have hnow : (Instant.trialDay 4).isLeap = false := rfl
  have hlater : (Instant.trialDay 9).isLeap = false := rfl
  have h : Instant.trialDay 4 ≤ Instant.trialDay 9 := by decide
  obtain ⟨hrun, hruns⟩ := urgency_never_falls hnow hlater h
  have hfound : (Run.dueAmong (.trialDay 4) [run]).map (·.1) = [⟨4⟩] := by decide
  refine ⟨hnow, hlater, h, rfl, hdue, hrun run rfl _ hdue, ?_⟩
  rw [← hfound]
  apply hruns
  intro r hr
  obtain rfl := List.mem_singleton.mp hr
  exact ⟨rfl, by rw [hdue]; exact Option.some_ne_none _⟩

end MapExport
