import MapExport.Expiration.Decision
import MapExport.Proofs.Instant.Timeline

/-!
# When something is due

On the time line the life of a run has three parts: up to the start of its last two days, these two days, and what
comes after it has expired. The test by distance and the test by the instant from which the last two days are
counted agree on where they begin, to the nanosecond. So a first warning comes from before them and a last one
from within them, and one stamp is enough to tell which was sent.
-/

set_option autoImplicit false

namespace MapExport.Run

variable {run : Run} {now start : Instant}

/-- **The start of the last two days** of a run, unless the calendar begins after it. -/
def lastDays? (run : Run) : Option Instant := run.expiration.daysBefore? Threshold.twoDay.days

/-- An expired run is to be deleted, and no other one. -/
theorem delete_is_due_iff : run.nextAction? now = some .delete ↔ run.expiration ≤ now := by
  rw [nextAction?]
  split
  · next h => simp [h]
  · next h =>
    simp only [h, iff_false]
    split
    · cases run.expiration.daysBefore? Threshold.twoDay.days <;> simp
      split <;> simp
    · split <;> simp

/-- **It cannot be told what is due** just for a run that expires within two days and whose last two days begin
before the calendar does. -/
theorem untold_iff : run.nextAction? now = none ↔
    ¬ run.expiration ≤ now ∧ run.isWithin .twoDay now = true ∧ run.lastDays? = none := by
  rw [nextAction?, lastDays?]
  by_cases hexpired : run.expiration ≤ now
  · simp [hexpired]
  by_cases hwithin : run.isWithin .twoDay now = true
  · simp [hexpired, hwithin]
  · rw [if_neg hexpired, if_neg hwithin]
    split <;> simp [hwithin]

/-- So when the owner was warned does not matter for it. -/
theorem told_of_notified (notified : Option Instant) (h : run.nextAction? now ≠ none) :
    nextAction? { run with notified } now ≠ none := by
  intro hnone
  obtain ⟨hearly, hwithin, hdays⟩ := untold_iff.mp hnone
  exact h (untold_iff.mpr ⟨hearly, hwithin, hdays⟩)

/-- **The last two days begin where the distance says.** -/
theorem isWithin_twoDay_iff (hexpiration : run.expiration.isLeap = false) (hnow : now.isLeap = false)
    (hstart : run.lastDays? = some start) : run.isWithin .twoDay now = true ↔ start ≤ now := by
  obtain ⟨hleap, hnanos⟩ := Instant.nanos_of_daysBefore? hexpiration hstart
  rw [isWithin, decide_eq_true_iff, Instant.since_eq_sub hexpiration hnow,
    Instant.le_iff_nanos hleap hnow, hnanos]
  omega

/-- What is due in the last two days. -/
theorem nextAction?_in_last_days (hearly : ¬ run.expiration ≤ now) (hwithin : run.isWithin .twoDay now = true)
    (hstart : run.lastDays? = some start) :
    run.nextAction? now = some (if run.notifiedSince start then .nothing else .notify .twoDay) := by
  rw [lastDays?] at hstart
  rw [nextAction?, if_neg hearly, if_pos hwithin, hstart, Option.map_some]

/-- What is due before the last two days. -/
theorem nextAction?_before_last_days (hearly : ¬ run.expiration ≤ now) (hbefore : ¬ run.isWithin .twoDay now = true) :
    run.nextAction? now =
      some (if run.isWithin .sevenDay now && run.notified.isNone then .notify .sevenDay else .nothing) := by
  rw [nextAction?, if_neg hearly, if_neg hbefore, apply_ite some]

/-- **A first warning is due** before the last two days and within seven, if there was none. -/
theorem sevenDay_is_due_iff : run.nextAction? now = some (.notify .sevenDay) ↔
    ¬ run.expiration ≤ now ∧ ¬ run.isWithin .twoDay now = true ∧ run.isWithin .sevenDay now = true ∧
      run.notified = none := by
  by_cases hexpired : run.expiration ≤ now
  · simp [delete_is_due_iff.mpr hexpired, hexpired]
  by_cases hwithin : run.isWithin .twoDay now = true
  · cases hstart : run.lastDays? with
    | none => simp [untold_iff.mpr ⟨hexpired, hwithin, hstart⟩, hwithin]
    | some start =>
      rw [nextAction?_in_last_days hexpired hwithin hstart]
      split <;> simp [hwithin]
  · simp [nextAction?_before_last_days hexpired hwithin, hexpired, hwithin]

/-- **A last warning is due** within two days, if there was none in the last two. -/
theorem twoDay_is_due_iff : run.nextAction? now = some (.notify .twoDay) ↔
    ¬ run.expiration ≤ now ∧ run.isWithin .twoDay now = true ∧
      ∃ start, run.lastDays? = some start ∧ run.notifiedSince start = false := by
  by_cases hexpired : run.expiration ≤ now
  · simp [delete_is_due_iff.mpr hexpired, hexpired]
  by_cases hwithin : run.isWithin .twoDay now = true
  · cases hstart : run.lastDays? with
    | none => simp [untold_iff.mpr ⟨hexpired, hwithin, hstart⟩]
    | some start => simp [nextAction?_in_last_days hexpired hwithin hstart, hexpired, hwithin]
  · rw [nextAction?_before_last_days hexpired hwithin]
    split <;> simp [hwithin]

/-- **With a stamp of now,** what is due in the last two days depends on whether they count it as one of theirs. -/
theorem stamped_in_last_days (hearly : ¬ run.expiration ≤ now) (hwithin : run.isWithin .twoDay now = true)
    (hstart : run.lastDays? = some start) :
    nextAction? { run with notified := some now } now = some (if start ≤ now then .nothing else .notify .twoDay) := by
  have hdue := @nextAction?_in_last_days { run with notified := some now } now start hearly hwithin hstart
  simp only [notifiedSince, decide_eq_true_eq] at hdue
  exact hdue

/-- Before them any stamp will do. -/
theorem stamped_before_last_days (hearly : ¬ run.expiration ≤ now) (hbefore : ¬ run.isWithin .twoDay now = true) :
    nextAction? { run with notified := some now } now = some .nothing := by
  have hdue := @nextAction?_before_last_days { run with notified := some now } now hearly hbefore
  rw [Option.isNone_some, Bool.and_false] at hdue
  exact hdue

/-- **A first warning** is due only if there was none, and before the last two days. -/
theorem of_sevenDay_due (hexpiration : run.expiration.isLeap = false) (hnow : now.isLeap = false)
    (h : run.nextAction? now = some (.notify .sevenDay)) :
    run.notified = none ∧ ∀ start, run.lastDays? = some start → now < start := by
  obtain ⟨-, hbefore, -, hnotified⟩ := sevenDay_is_due_iff.mp h
  refine ⟨hnotified, fun start hstart => ?_⟩
  intro hle
  exact hbefore ((isWithin_twoDay_iff hexpiration hnow hstart).mpr hle)

/-- **A last warning** is due only in the last two days, and if there was none in them. -/
theorem of_twoDay_due (hexpiration : run.expiration.isLeap = false) (hnow : now.isLeap = false)
    (h : run.nextAction? now = some (.notify .twoDay)) :
    ∃ start, run.lastDays? = some start ∧ start ≤ now ∧ run.notifiedSince start = false := by
  obtain ⟨-, hwithin, start, hstart, hnotified⟩ := twoDay_is_due_iff.mp h
  exact ⟨start, hstart, (isWithin_twoDay_iff hexpiration hnow hstart).mp hwithin, hnotified⟩

/-- **A last warning is due** in the last two days, as long as there was none in them. -/
theorem twoDay_is_due (hexpiration : run.expiration.isLeap = false) (hnow : now.isLeap = false)
    (hstart : run.lastDays? = some start) (hnotified : run.notifiedSince start = false)
    (early : now < run.expiration) (late : start ≤ now) :
    run.nextAction? now = some (.notify .twoDay) := by
  have hwithin := (isWithin_twoDay_iff hexpiration hnow hstart).mpr late
  exact twoDay_is_due_iff.mpr ⟨early, hwithin, start, hstart, hnotified⟩

/-- Two days after an instant before the last two days, a run has not expired. -/
theorem before_expiration {later : Instant} (hexpiration : run.expiration.isLeap = false)
    (hnow : now.isLeap = false) (hlater : later.isLeap = false) (hstart : run.lastDays? = some start)
    (hearly : now < start) (hgap : later.since now ≤ Instant.ofDays Threshold.twoDay.days) :
    later < run.expiration := by
  obtain ⟨hleap, hnanos⟩ := Instant.nanos_of_daysBefore? hexpiration hstart
  rw [Instant.lt_iff_nanos hnow hleap] at hearly
  rw [Instant.since_eq_sub hlater hnow] at hgap
  rw [Instant.lt_iff_nanos hlater hexpiration]
  omega

theorem before_expiration_of_early (hexpiration : run.expiration.isLeap = false) (hnow : now.isLeap = false)
    (hstart : run.lastDays? = some start) (hearly : now < start) : now < run.expiration := by
  have hself : now.since now = 0 := by rw [Instant.since_eq_sub hnow hnow, Int.sub_self]
  exact before_expiration hexpiration hnow hnow hstart hearly (by rw [hself]; decide)

end MapExport.Run
