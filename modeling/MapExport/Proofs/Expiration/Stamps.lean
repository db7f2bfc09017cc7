import MapExport.Proofs.Expiration.Accounting
import MapExport.Proofs.Expiration.Due

/-!
# Stamps

When a warning was sent, the run is stamped with the time of the sweep, and this stamp is to silence the warning: the
same run, at the same time, has nothing due any more. The warning was due because the distance to the expiration is two
days at most; the stamp silences it because it does not lie before the last two days. At ordinary instants these tests
agree, and at leap seconds they need not.
-/

set_option autoImplicit false

namespace MapExport

namespace Instant

/-- **The tests disagree** in three cases: an instant is within two days of another one by the distance, and still
before the last two days. The later one is a leap second, and the earlier one is the leap second at the same time two
days before, or in the second that follows it, where the carry hides the step back by a fraction. Or the later one is in
the first second of a day, and the earlier one is the leap second at the end of the third day before it. -/
def Slips (expiration now : Instant) : Prop :=
  (expiration.isLeap = true ∧ now.day = expiration.day - 2 ∧
    (now.second = expiration.second ∧ expiration.nano ≤ now.nano ∨
      now.second = expiration.second + 1 ∧ now.nano + 1000000000 < expiration.nano)) ∨
  (now.isLeap = true ∧ now.day = expiration.day - 3 ∧ now.second = 86399 ∧ expiration.second = 0 ∧
    expiration.nano + 1000000000 ≤ now.nano)

instance (expiration now : Instant) : Decidable (expiration.Slips now) := inferInstanceAs (Decidable (_ ∨ _))

variable {t now start : Instant}

/-- **Where the tests disagree,** and only there, an instant within two days lies before the last two. -/
theorem slips_iff (hstart : t.daysBefore? 2 = some start) (hwithin : t.since now ≤ ofDays 2) :
    t.Slips now ↔ ¬ start ≤ now := by
  obtain ⟨hday, hsecond, hnano⟩ := parts_of_daysBefore? (by decide) hstart
  obtain ⟨-, -, hseconds, hnanos, hleap⟩ := isInstant_iff.mp t.valid
  obtain ⟨-, -, hseconds', hnanos', hleap'⟩ := isInstant_iff.mp now.valid
  have hle : start ≤ now ↔ start.day < now.day ∨
      start.day = now.day ∧ (start.second < now.second ∨ start.second = now.second ∧ start.nano ≤ now.nano) := Iff.rfl
  rw [hle, Slips]
  -- The window moves by the carry of a leap second at its end, and the distance by that of one at either end. So the
  -- cases are whether the expiration is one, and how the seconds of the day compare.
  simp only [since, ofDays, isLeap, decide_eq_true_eq] at hday hsecond hnano hwithin ⊢
  by_cases ht : 1000000000 ≤ t.nano
  · simp only [ht, if_true] at hday hsecond hnano hwithin
    split at hwithin
    · split at hwithin <;> omega
    · split at hwithin <;> omega
  · simp only [ht, if_false] at hday hsecond hnano hwithin
    split at hwithin
    · split at hwithin <;> omega
    · split at hwithin <;> omega

/-- Where the tests disagree, the distance is two days at most. -/
theorem since_le_of_slips (h : t.Slips now) : t.since now ≤ ofDays 2 := by
  obtain ⟨-, -, hseconds, hnanos, hleap⟩ := isInstant_iff.mp t.valid
  obtain ⟨-, -, hseconds', hnanos', hleap'⟩ := isInstant_iff.mp now.valid
  rw [Slips] at h
  simp only [since, ofDays, isLeap, decide_eq_true_eq] at h ⊢
  split
  · split <;> omega
  · split
    · split <;> omega
    · omega

theorem not_slips (ht : t.isLeap = false) (hnow : now.isLeap = false) : ¬ t.Slips now := by
  rintro (⟨hleap, -⟩ | ⟨hleap, -⟩)
  · exact Bool.false_ne_true (ht.symm.trans hleap)
  · exact Bool.false_ne_true (hnow.symm.trans hleap)

end Instant

/-- **A stamp silences its own warning,** on every reading of the clock but those where the tests disagree: there the
last warning is due once more. At ordinary instants they do not. -/
theorem stamp_silences_its_warning (run : Run) (now : Instant) (threshold : Threshold)
    (hdue : run.nextAction? now = some (.notify threshold)) :
    Run.nextAction? { run with notified := some now } now =
        some (if run.expiration.Slips now then .notify .twoDay else .nothing) ∧
      (run.expiration.isLeap = false → now.isLeap = false → ¬ run.expiration.Slips now) := by
  refine ⟨?_, Instant.not_slips⟩
  cases threshold with
  | twoDay =>
    obtain ⟨hearly, hwithin, start, hstart, -⟩ := Run.twoDay_is_due_iff.mp hdue
    have hslips := Instant.slips_iff hstart (of_decide_eq_true hwithin)
    simp only [Run.stamped_in_last_days hearly hwithin hstart, hslips, ite_not]
  | sevenDay =>
    obtain ⟨hearly, hbefore, -⟩ := Run.sevenDay_is_due_iff.mp hdue
    have hslips : ¬ run.expiration.Slips now := fun h => hbefore (decide_eq_true (Instant.since_le_of_slips h))
    rw [Run.stamped_before_last_days hearly hbefore, if_neg hslips]

/-- The leap second at the end of the year 2016, and a run that expires at noon on the second day of the next. -/
theorem trial_stamp_silences :
    let now : Instant := ⟨Calendar.dayNumber ⟨2016, 12, 31⟩, 86399, 1000000000, by decide⟩
    let run : Run := .trial ⟨1⟩ ⟨1⟩ ⟨Calendar.dayNumber ⟨2017, 1, 2⟩, 43200, 0, by decide⟩
    run.nextAction? now = some (.notify .twoDay) ∧ ¬ run.expiration.Slips now ∧
      Run.nextAction? { run with notified := some now } now = some .nothing := by
  intro now run
  have hdue : run.nextAction? now = some (.notify .twoDay) := by decide +kernel
  have hslips : ¬ run.expiration.Slips now := by decide +kernel
  obtain ⟨hstamped, -⟩ := stamp_silences_its_warning run now .twoDay hdue
  rw [if_neg hslips] at hstamped
  exact ⟨hdue, hslips, hstamped⟩

/-- The same leap second, and a run that expires as the third day of the year begins: the distance is exactly two days,
and its last two days begin with the second after the stamp. -/
theorem warned_again_at_a_leap_second :
    let now : Instant := ⟨Calendar.dayNumber ⟨2016, 12, 31⟩, 86399, 1000000000, by decide⟩
    let run : Run := .trial ⟨1⟩ ⟨1⟩ ⟨Calendar.dayNumber ⟨2017, 1, 3⟩, 0, 0, by decide⟩
    run.nextAction? now = some (.notify .twoDay) ∧
      Run.nextAction? { run with notified := some now } now = some (.notify .twoDay) := by
  decide +kernel

end MapExport
