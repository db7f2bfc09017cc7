import MapExport.Proofs.Instant.Timeline

/-!
# The ends of the calendar

Instants lie between a first and a last day, so going back from an early one has no answer. It has none just where
the place on the time line would lie before the first instant (`daysBefore?_eq_none_iff`). This holds of leap seconds
too, because going back leaves them behind. Going forward is not needed anywhere, and a distance is never too long to be
kept as a signed count of milliseconds in a machine word (`since_bounds`).
-/

set_option autoImplicit false

namespace MapExport.Instant

/-- **The first instant** of the calendar. -/
def first : Instant := ⟨Calendar.firstDay, 0, 0, by decide⟩

/-- **The longest distance** that the service can count with, in nanoseconds: so many milliseconds as a signed word of
64 bits can count. -/
def longest : Int := (Nat.pow 2 63 - 1 : Nat) * 1000000

variable (a b t : Instant)

theorem first_nanos : first.nanos = Calendar.firstDay * 86400 * 1000000000 := by
  simp [nanos, first]

theorem first_nanos_le : first.nanos ≤ t.nanos := by
  obtain ⟨hfirst, -⟩ := isInstant_iff.mp t.valid
  rw [first_nanos, nanos]
  omega

theorem since_first : t.since first = t.nanos - first.nanos := by
  have hearly : ¬ t.second < first.second := Nat.not_lt_zero _
  have hordinary : first.isLeap = false := rfl
  simp only [since, hearly, hordinary, Bool.false_eq_true, if_false, ite_self, nanos]
  omega

/-- **A distance** is the difference of the places on the time line, give or take a second. -/
theorem since_eq_add_carry :
    ∃ carry : Int, -1 ≤ carry ∧ carry ≤ 1 ∧ a.since b = a.nanos - b.nanos + carry * 1000000000 := by
  simp only [since, nanos]
  -- Of the carry only its size matters: it is at most one second, in either direction.
  generalize hcarry : (if b.second < a.second then if b.isLeap = true then (1 : Int) else 0
    else if a.second < b.second then if a.isLeap = true then -1 else 0 else 0) = carry
  refine ⟨carry, ?_, ?_, by omega⟩
  · grind
  · grind

/-- **A distance** never exceeds the longest one, backwards or forwards. -/
theorem since_bounds : -longest ≤ a.since b ∧ a.since b ≤ longest := by
  obtain ⟨carry, hlow, hhigh, hsince⟩ := since_eq_add_carry a b
  obtain ⟨hfirst, hlast, hsecond, hnano, -⟩ := isInstant_iff.mp a.valid
  obtain ⟨hfirst', hlast', hsecond', hnano', -⟩ := isInstant_iff.mp b.valid
  have hfirstDay : Calendar.firstDay = -95745764 := by decide
  have hlastDay : Calendar.lastDay = 95745764 := by decide
  have hlongest : longest = 9223372036854775807000000 := by decide
  rw [hsince, hlongest, nanos, nanos]
  omega

/-- **Going back by days** has no answer just where it would lead before the first instant. -/
theorem daysBefore?_eq_none_iff (n : Nat) : t.daysBefore? n = none ↔ t.nanos - ofDays n < first.nanos := by
  obtain ⟨hfirst, hlast, hsecond, hnano, hleap⟩ := isInstant_iff.mp t.valid
  rw [first_nanos, nanos, ofDays]
  by_cases hzero : n = 0
  · subst hzero
    simp [daysBefore?]
    omega
  -- A leap second goes back by way of the second that follows it, which may be on the next day.
  · have hback : t.daysBefore? n = none ↔ Calendar.isInstant
        (t.day - n + ((if t.isLeap then t.second + 1 else t.second) / 86400 : Nat))
        ((if t.isLeap then t.second + 1 else t.second) % 86400)
        (if t.isLeap then t.nano - 1000000000 else t.nano) ≠ true := by
      simp [daysBefore?, hzero, make?]
    rw [hback, Ne, isInstant_iff]
    by_cases h : t.isLeap = true
    · have hnano' : 1000000000 ≤ t.nano := of_decide_eq_true h
      simp only [h, if_true]
      omega
    · have hnano' : t.nano < 1000000000 := nano_lt (Bool.eq_false_iff.mpr h)
      simp only [h, Bool.false_eq_true, if_false]
      omega

end MapExport.Instant
