import Mathlib.Algebra.Group.Nat.Defs
import MapExport.Text.Number

/-!
# Numerals

What a numeral says, apart from how it is read.
-/

set_option autoImplicit false

namespace MapExport.Text

/-- **Digits that write a number:** decimal digits, at least one. -/
structure Writes (digits : List Char) (n : Nat) : Prop where
  ne_nil : digits ≠ []
  isDigit : ∀ c ∈ digits, c.isDigit = true
  value : Nat.ofDigitChars 10 digits 0 = n

/-- **A numeral:** digits that write a number, with a plus in front or without. -/
def Spells (s : String) (n : Nat) : Prop :=
  ∃ digits, Writes digits n ∧ (s.toList = digits ∨ s.toList = '+' :: digits)

/-- **A numeral that fits its place:** it says a number from the least one on, of so many bits. -/
def Fits (least bits : Nat) (s : String) : Prop := ∃ n, Spells s n ∧ least ≤ n ∧ n < 2 ^ bits

theorem le_maxBits_iff {n bits : Nat} : n ≤ maxBits bits ↔ n < 2 ^ bits := by
  have hpos : 0 < 2 ^ bits := Nat.two_pow_pos bits
  show n ≤ 2 ^ bits - 1 ↔ n < 2 ^ bits
  omega

theorem digitsNumber?_eq_some_iff {cs : List Char} {n : Nat} : digitsNumber? cs = some n ↔ Writes cs n := by
  have hwrites : Writes cs n ↔ cs ≠ [] ∧ cs.all Char.isDigit = true ∧
      cs.foldl (fun n c => 10 * n + (c.toNat - 48)) 0 = n := by
    rw [List.all_eq_true]
    exact ⟨fun h => ⟨h.ne_nil, h.isDigit, h.value⟩, fun h => ⟨h.1, h.2.1, h.2.2⟩⟩
  rw [hwrites]
  cases cs with
  | nil => simp [digitsNumber?]
  | cons c cs =>
    by_cases hdigits : (c :: cs).all Char.isDigit = true
    · simp [digitsNumber?, hdigits]
    · simp [digitsNumber?, hdigits]

/-- **Reading a whole number** gives what its numeral says, if that is not too much. -/
theorem number?_eq_some_iff {most n : Nat} {s : String} : number? most s = some n ↔ Spells s n ∧ n ≤ most := by
  have hplus : ¬ ('+'.isDigit = true) := by decide
  rw [number?, Option.filter_eq_some_iff, decide_eq_true_iff]
  refine and_congr_left fun _ => ?_
  split
  · next rest hs =>
    rw [digitsNumber?_eq_some_iff, Spells]
    constructor
    · intro hwrites
      exact ⟨rest, hwrites, .inr hs⟩
    · rintro ⟨digits, hwrites, hbare | hplused⟩
      -- A plus is no digit, so it does not belong to the digits.
      · rw [hs] at hbare
        exact absurd (hwrites.isDigit '+' (hbare ▸ List.mem_cons_self)) hplus
      · rw [hs] at hplused
        cases hplused
        exact hwrites
  · next hno =>
    rw [digitsNumber?_eq_some_iff, Spells]
    constructor
    · intro hwrites
      exact ⟨s.toList, hwrites, .inl rfl⟩
    · rintro ⟨digits, hwrites, hbare | hplused⟩
      · rw [hbare]
        exact hwrites
      · exact absurd hplused (hno digits)

/-- A numeral says one number. -/
theorem Spells.unique {s : String} {m n : Nat} (h : Spells s m) (h' : Spells s n) : m = n := by
  have hm : number? (max m n) s = some m := number?_eq_some_iff.mpr ⟨h, Nat.le_max_left m n⟩
  rw [number?_eq_some_iff.mpr ⟨h', Nat.le_max_right m n⟩] at hm
  cases hm
  rfl

/-- **The digits of a number** spell it. -/
theorem spells_toString (n : Nat) : Spells (toString n) n := by
  have hdigits : (toString n).toList = Nat.toDigits 10 n := by
    rw [Nat.toString_eq_repr, Nat.repr_eq_ofList_toDigits, String.toList_ofList]
  refine ⟨Nat.toDigits 10 n, ⟨Nat.toDigits_ne_nil, ?_, Nat.ofDigitChars_ten_toDigits⟩, .inl hdigits⟩
  intro c hc
  exact Nat.isDigit_of_mem_toDigits (by decide) (by decide) hc

theorem fits_iff {least bits : Nat} {s : String} :
    Fits least bits s ↔ ∃ n ∈ number? (maxBits bits) s, least ≤ n := by
  simp only [Option.mem_def, number?_eq_some_iff, le_maxBits_iff, Fits]
  refine exists_congr fun n => ?_
  constructor
  · rintro ⟨hn, hleast, hlt⟩
    exact ⟨⟨hn, hlt⟩, hleast⟩
  · rintro ⟨⟨hn, hlt⟩, hleast⟩
    exact ⟨hn, hleast, hlt⟩

instance (least bits : Nat) (s : String) : Decidable (Fits least bits s) := decidable_of_iff' _ fits_iff

end MapExport.Text
