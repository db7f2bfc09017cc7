import MapExport.Decimal.Layout

/-!
# Doubles that are numbers

Infinity and what is no number at all are known by their exponent bits, which are all ones. Comparing shows them up as
well: what lies between two numbers is a number. In a document they are written as a null.
-/

set_option autoImplicit false

namespace MapExport.Decimal

open Float.Model (UnpackedFloat)
open Float.Model.UnpackedFloat (unpackExponent unpackMantissa)

/-- The exponent bits of a double. -/
theorem toNat_unpackExponent (x : Float) :
    (@unpackExponent .binary64 x.toModel.toBits.toBitVec).toNat =
      x.toBits.toNat / Nat.pow 2 52 % Nat.pow 2 11 := by
  rw [unpackExponent, BitVec.toNat_cast, BitVec.extractLsb_toNat, Nat.shiftRight_eq_div_pow]
  rfl

theorem isFinite_iff {x : Float} : x.isFinite = true ↔ x.toBits.toNat / Nat.pow 2 52 % Nat.pow 2 11 ≠ 2047 := by
  have hfield : @unpackExponent .binary64 x.toModel.toBits.toBitVec = -1#11 ↔
      x.toBits.toNat / Nat.pow 2 52 % Nat.pow 2 11 = 2047 := by
    rw [← toNat_unpackExponent, ← BitVec.toNat_inj]
    rfl
  rw [Ne, ← hfield]
  change (UnpackedFloat.unpack .binary64 x.toModel.toBits.toBitVec).isFinite = true ↔ _
  unfold UnpackedFloat.unpack
  dsimp only
  by_cases hones : @unpackExponent .binary64 x.toModel.toBits.toBitVec = -1#11
  · refine iff_of_false ?_ (fun h => h hones)
    rw [if_pos hones]
    by_cases hfraction : @unpackMantissa .binary64 x.toModel.toBits.toBitVec = 0#52
    · rw [if_pos hfraction]
      exact Bool.false_ne_true
    · rw [if_neg hfraction]
      exact Bool.false_ne_true
  · refine iff_of_true ?_ hones
    rw [if_neg hones]
    by_cases hsmall : @unpackExponent .binary64 x.toModel.toBits.toBitVec = 0#11
    · rw [if_pos hsmall]
      by_cases hfraction : @unpackMantissa .binary64 x.toModel.toBits.toBitVec = 0#52
      · rw [dif_pos hfraction]
        rfl
      · rw [dif_neg hfraction]
        rfl
    · rw [if_neg hsmall]
      rfl

/-- **A number** is a double that is finite. -/
theorem isNumber_eq_isFinite (x : Float) : isNumber x = x.isFinite := by
  rw [Bool.eq_iff_iff, isFinite_iff, isNumber, parts]
  generalize x.toBits.toNat = bits
  by_cases hones : bits / Nat.pow 2 52 % Nat.pow 2 11 = 2047
  · refine iff_of_false ?_ (fun h => h hones)
    rw [if_pos hones]
    by_cases hfraction : bits % Nat.pow 2 52 = 0
    · rw [if_pos hfraction]
      exact Bool.false_ne_true
    · rw [if_neg hfraction]
      exact Bool.false_ne_true
  · refine iff_of_true ?_ hones
    rw [if_neg hones]
    by_cases hsmall : bits / Nat.pow 2 52 % Nat.pow 2 11 = 0
    · rw [if_pos hsmall]
    · rw [if_neg hsmall]

/-- What lies between two numbers, all of them taken apart, is a number. -/
theorem isFinite_of_le_of_le {low x high : UnpackedFloat} (hlow : low.isFinite = true) (hhigh : high.isFinite = true)
    (h : low.le x = true) (h' : x.le high = true) : x.isFinite = true := by
  cases x with
  | zero s => rfl
  | finite s m e hm => rfl
  | notANumber => cases h'
  | infinity s =>
    -- One of the two infinities lies above all numbers, the other one below.
    cases s with
    | positive => cases high <;> cases hhigh <;> cases h'
    | negative => cases low with
      | zero t => cases h
      | finite t => cases t <;> cases h
      | infinity t => cases hlow
      | notANumber => cases hlow

/-- **What lies between two numbers** is a number. -/
theorem isFinite_of_between {low x high : Float} (hlow : low.isFinite = true) (hhigh : high.isFinite = true)
    (h : low ≤ x) (h' : x ≤ high) : x.isFinite = true := by
  have hmodel : low.toModel ≤ x.toModel := of_decide_eq_true h
  have hmodel' : x.toModel ≤ high.toModel := of_decide_eq_true h'
  exact isFinite_of_le_of_le hlow hhigh hmodel hmodel'

/-- **What is no number** is written as a null. -/
theorem chars_of_not_finite {x : Float} (h : x.isFinite = false) : Layout.document.chars x = ['n', 'u', 'l', 'l'] := by
  rw [← isNumber_eq_isFinite, isNumber] at h
  rw [Layout.chars]
  split
  · rfl
  · next negative _ =>
    rw [if_neg (fun hboth => hboth.2 rfl)]
    rfl
  · next heq =>
    rw [heq] at h
    cases h

end MapExport.Decimal
