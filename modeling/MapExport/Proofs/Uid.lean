import MapExport.Uid

/-!
# Identifiers that are read back

The text of an identifier is read as that identifier. Of the four forms that are read it is the bare one with hyphens:
it begins with a digit, and is too long to have no hyphens.
-/

set_option autoImplicit false

namespace MapExport

/-- Numbers in hexadecimal are read digit by digit. -/
theorem Text.hexNumber?_append_singleton (ds : List Char) (c : Char) :
    Text.hexNumber? (ds ++ [c]) = (Text.hexNumber? ds).bind fun n => (Text.hexValue? c).map (16 * n + ·) := by
  rw [Text.hexNumber?, List.foldlM_append]
  simp [Text.hexNumber?]

namespace Uid

/-- **The first digits** write the number without what the others are for. -/
theorem hexNumber?_digits_take (u : Uid) {k : Nat} (hk : k ≤ 32) :
    Text.hexNumber? ((List.range k).map fun i => Text.hexDigit (u.value.toNat / Nat.pow 16 (31 - i) % 16)) =
      some (u.value.toNat / Nat.pow 16 (32 - k)) := by
  induction k with
  | zero =>
    have hsmall : u.value.toNat < Nat.pow 16 32 := u.value.isLt
    rw [Nat.sub_zero, Nat.div_eq_of_lt hsmall]
    rfl
  | succ k ih =>
    have hdigit : u.value.toNat / Nat.pow 16 (31 - k) % 16 < 16 := Nat.mod_lt _ (by decide)
    have hpow : Nat.pow 16 (32 - k) = Nat.pow 16 (31 - k) * 16 := by
      rw [show 32 - k = 31 - k + 1 by omega]
      rfl
    rw [List.range_succ, List.map_append, List.map_singleton, Text.hexNumber?_append_singleton, ih (by omega),
      Option.bind_some, Text.hexValue?_hexDigit _ hdigit, Option.map_some, hpow, ← Nat.div_div_eq_div_mul]
    have hsplit := Nat.div_add_mod (u.value.toNat / Nat.pow 16 (31 - k)) 16
    rw [hsplit, show 32 - (k + 1) = 31 - k by omega]

theorem ofDigits?_digits (u : Uid) : ofDigits? u.digits = some u := by
  have hlength : u.digits.length = 32 := rfl
  have hnumber : Text.hexNumber? u.digits = some u.value.toNat := by
    rw [digits, hexNumber?_digits_take u (Nat.le_refl 32)]
    exact congrArg some (Nat.div_one _)
  rw [ofDigits?, if_pos hlength, hnumber, Option.map_some, BitVec.ofNat_toNat, BitVec.setWidth_eq]

/-- Behind the hyphens stand the digits. -/
theorem ofHyphenated?_chars (u : Uid) : ofHyphenated? u.chars = ofDigits? u.digits := rfl

/-- A digit in hexadecimal opens no brace and begins no name. -/
theorem not_wrapped_hexDigit : ∀ n < 16, Text.hexDigit n ≠ '{' ∧ Text.hexDigit n ≠ 'u' := by decide

theorem unwrapped_chars (u : Uid) : unwrapped u.chars = (u.chars, 0, true) := by
  have hfirst : u.chars.head? = some (Text.hexDigit (u.value.toNat / Nat.pow 16 31 % 16)) := rfl
  obtain ⟨hbrace, hname⟩ := not_wrapped_hexDigit _ (Nat.mod_lt (u.value.toNat / Nat.pow 16 31) (by decide : 0 < 16))
  generalize Text.hexDigit (u.value.toNat / Nat.pow 16 31 % 16) = first at *
  generalize u.chars = cs at *
  cases cs with
  | nil => cases hfirst
  | cons c cs =>
    obtain rfl : c = first := Option.some.inj hfirst
    have hurn : urn.isPrefixOf (c :: cs) = false := by
      rw [urn, List.isPrefixOf_cons_cons, beq_eq_false_iff_ne.mpr (Ne.symm hname), Bool.false_and]
    rw [unwrapped, if_neg (fun h => hbrace (Option.some.inj h.1)), if_neg (Bool.eq_false_iff.mp hurn)]

/-- **The text of an identifier is read as that identifier.** -/
theorem ofText_text (u : Uid) : ofText u.text = .ok u := by
  have hbare : ofDigits? u.chars = none := rfl
  rw [ofText, text, String.toList_ofList, ofChars, unwrapped_chars]
  simp only [hbare, ofHyphenated?_chars, ofDigits?_digits]
  rfl

end Uid

end MapExport
