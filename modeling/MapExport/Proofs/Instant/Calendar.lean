import MapExport.Instant.Basic

/-!
# From days to dates and back

The date of a day is one of the calendar, and the number of that date is the day. The year is guessed from the cycle
of 400 years; as no year begins more than two days from where the average puts it, the guess is right or one off
(`yearStart_yearOf_le`, `lt_yearStart_yearOf`). What is left is a day of a year of 365 or 366 days, and for these the
months are counted out.
-/

set_option autoImplicit false

namespace MapExport.Calendar

/-- The days of a year. -/
def yearLength (leap : Bool) : Nat := if leap then 366 else 365

/-- **A year ends where the next one begins.** -/
theorem yearStart_succ (year : Int) : yearStart (year + 1) = yearStart year + yearLength (isLeap year) := by
  unfold yearStart yearLength isLeap
  by_cases h4 : year % 4 = 0
  · by_cases h100 : year % 100 = 0
    · by_cases h400 : year % 400 = 0
      · simp [h4, h100, h400]
        omega
      · simp [h4, h100, h400]
        omega
    · simp [h4, h100]
      omega
  · simp [h4]
    omega

theorem yearStart_yearOf_le (n : Int) : yearStart (yearOf n) ≤ n := by
  unfold yearOf
  dsimp only
  split
  · unfold yearStart
    omega
  · split
    · assumption
    · omega

theorem lt_yearStart_yearOf (n : Int) : n < yearStart (yearOf n + 1) := by
  unfold yearOf
  dsimp only
  split
  · rwa [Int.sub_add_cancel]
  · split
    · unfold yearStart
      omega
    · omega

/-- **What the months of a year make of a day of it.** -/
def IsMonthDay (leap : Bool) (rest : Nat) (found : Nat × Nat) : Prop :=
  1 ≤ found.1 ∧ found.1 ≤ 12 ∧ 1 ≤ found.2 ∧ found.2 ≤ monthLength leap found.1 ∧
    monthStart leap found.1 + found.2 = rest + 1

instance (leap : Bool) (rest : Nat) (found : Nat × Nat) : Decidable (IsMonthDay leap rest found) :=
  inferInstanceAs (Decidable (_ ∧ _))

theorem isMonthDay_monthOf :
    ∀ leap : Bool, ∀ rest < yearLength leap, IsMonthDay leap rest (monthOf leap 11 1 rest) := by
  decide +kernel

theorem monthLength_le (leap : Bool) (month : Nat) : monthLength leap month ≤ 31 := by
  unfold monthLength
  split
  · cases leap <;> decide
  all_goals decide

/-- **The date of a day** is one of the calendar. -/
theorem isMonthDay_dateOf (n : Int) :
    IsMonthDay (isLeap (yearOf n)) (n - yearStart (yearOf n)).toNat ((dateOf n).month, (dateOf n).day) := by
  have hlow := yearStart_yearOf_le n
  have hhigh := lt_yearStart_yearOf n
  rw [yearStart_succ] at hhigh
  exact isMonthDay_monthOf (isLeap (yearOf n)) _ (by omega)

theorem isDate_dateOf (n : Int) : isDate (dateOf n) = true := by
  obtain ⟨hmonth, hmonth', hday, hday', -⟩ := isMonthDay_dateOf n
  simp only [isDate, Bool.and_eq_true, decide_eq_true_eq]
  exact ⟨⟨⟨hmonth, hmonth'⟩, hday⟩, hday'⟩

/-- **The number of the date of a day** is the day. -/
theorem dayNumber_dateOf (n : Int) : dayNumber (dateOf n) = n := by
  have hlow := yearStart_yearOf_le n
  obtain ⟨-, -, -, -, hday⟩ := isMonthDay_dateOf n
  have hsum : monthStart (isLeap (yearOf n)) (dateOf n).month + (dateOf n).day =
      (n - yearStart (yearOf n)).toNat + 1 := hday
  show yearStart (yearOf n) + (monthStart (isLeap (yearOf n)) (dateOf n).month : Nat) + ((dateOf n).day : Nat) - 1 = n
  omega

/-- The days that an instant can lie on have years of six digits. -/
theorem natAbs_year_lt {n : Int} (hfirst : firstDay ≤ n) (hlast : n ≤ lastDay) : (dateOf n).year.natAbs < 1000000 := by
  have hlow := yearStart_yearOf_le n
  have hhigh := lt_yearStart_yearOf n
  show (yearOf n).natAbs < 1000000
  unfold firstDay at hfirst
  unfold lastDay at hlast
  generalize yearOf n = year at *
  unfold yearStart at *
  omega

end MapExport.Calendar
