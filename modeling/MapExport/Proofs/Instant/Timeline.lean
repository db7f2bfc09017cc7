import MapExport.Instant.Basic

/-!
# The time line

Ordinary instants, those that are no leap seconds, lie on a line: counted in nanoseconds, their order is that of
the counts, their distance is the difference, and going back by days is a subtraction. With leap seconds none
of this holds as it stands, so these are left out here.
-/

set_option autoImplicit false

namespace MapExport.Instant

/-- **The place on the time line,** in nanoseconds from the first day of the year 0. -/
def nanos (t : Instant) : Int := (t.day * 86400 + t.second) * 1000000000 + t.nano

variable {a b t start : Instant}

theorem isInstant_iff {day : Int} {second nano : Nat} : Calendar.isInstant day second nano = true ↔
    Calendar.firstDay ≤ day ∧ day ≤ Calendar.lastDay ∧ second < 86400 ∧ nano < 2000000000 ∧
      (nano < 1000000000 ∨ second % 60 = 59) := by
  simp only [Calendar.isInstant, Bool.and_eq_true, Bool.or_eq_true, decide_eq_true_eq, beq_iff_eq, and_assoc]

theorem second_lt (t : Instant) : t.second < 86400 := (isInstant_iff.mp t.valid).2.2.1

theorem nano_lt (h : t.isLeap = false) : t.nano < 1000000000 :=
  Nat.lt_of_not_le (of_decide_eq_false h)

/-- **Order** is that of the places on the time line. -/
theorem le_iff_nanos (ha : a.isLeap = false) (hb : b.isLeap = false) : a ≤ b ↔ a.nanos ≤ b.nanos := by
  have hle : a ≤ b ↔ a.day < b.day ∨
      a.day = b.day ∧ (a.second < b.second ∨ a.second = b.second ∧ a.nano ≤ b.nano) := Iff.rfl
  have := a.second_lt
  have := b.second_lt
  have := nano_lt ha
  have := nano_lt hb
  rw [hle, nanos, nanos]
  omega

theorem lt_iff_nanos (ha : a.isLeap = false) (hb : b.isLeap = false) : a < b ↔ a.nanos < b.nanos := by
  have hlt : a < b ↔ ¬ b ≤ a := Iff.rfl
  rw [hlt, le_iff_nanos hb ha]
  exact Int.not_le

/-- **Distance** is the difference of the places. -/
theorem since_eq_sub (ha : a.isLeap = false) (hb : b.isLeap = false) : a.since b = a.nanos - b.nanos := by
  simp only [since, nanos, ha, hb, Bool.false_eq_true, if_false, ite_self]
  omega

/-- **What going back leads to,** by its parts. A leap second gives way to the first second after it. -/
theorem parts_of_daysBefore? {n : Nat} (hn : n ≠ 0) (h : t.daysBefore? n = some start) :
    start.day = t.day - n + ((if t.isLeap then t.second + 1 else t.second) / 86400 : Nat) ∧
      start.second = (if t.isLeap then t.second + 1 else t.second) % 86400 ∧
      start.nano = if t.isLeap then t.nano - 1000000000 else t.nano := by
  rw [daysBefore?, if_neg hn] at h
  dsimp only [make?] at h
  obtain ⟨hvalid, hstart⟩ := Option.dite_none_right_eq_some.mp h
  obtain rfl := Option.some.inj hstart
  exact ⟨rfl, rfl, rfl⟩

/-- **Going back by days** is a subtraction, and leads to an ordinary instant. -/
theorem nanos_of_daysBefore? {n : Nat} (ht : t.isLeap = false) (h : t.daysBefore? n = some start) :
    start.isLeap = false ∧ start.nanos = t.nanos - ofDays n := by
  by_cases hzero : n = 0
  · subst hzero
    obtain rfl := Option.some.inj h
    exact ⟨ht, by rw [ofDays]; omega⟩
  · obtain ⟨hday, hsecond, hnano⟩ := parts_of_daysBefore? hzero h
    simp only [ht, Bool.false_eq_true, if_false] at hday hsecond hnano
    have := t.second_lt
    constructor
    · rw [isLeap, hnano]
      exact ht
    · rw [nanos, nanos, ofDays]
      omega

end MapExport.Instant
