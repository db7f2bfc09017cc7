import Mathlib

/-!
# Doubles other than zero

A number of things is turned into a double before anything is divided by it. Rounding can lose much of a large number,
and it can lose the last bits of any, but it never comes down to zero: what is at least as large as the least double
keeps its leading bit. So a number of things other than zero is a double other than zero, and so is what is greater than
zero.
-/

set_option autoImplicit false

namespace MapExport.Decimal

open Float.Model (UnpackedFloat Format totalExponent)
open Float.Model.UnpackedFloat (Accuracy ExtendedMantissa Sign packComponents packedZero packedInfinity
  roundWithAccuracy shiftToExponent shiftToTargetExponent unpackExponent unpackExponent_packComponents unpackMantissa
  unpackMantissa_packComponents)

/-! ## Rounding keeps the leading bit -/

theorem mantissa_shiftRight (em : ExtendedMantissa) (n : Nat) : (em >>> n).mantissa = em.mantissa / 2 ^ n := by
  show (n.repeat ExtendedMantissa.shiftRightOne em).mantissa = _
  induction n with
  | zero => rw [Nat.repeat, pow_zero, Nat.div_one]
  | succ n ih => rw [Nat.repeat, ExtendedMantissa.shiftRightOne, ih, Nat.div_div_eq_div_mul, pow_succ]

theorem mantissa_ofMantissaAndAccuracy (m : Nat) (accuracy : Accuracy) :
    (ExtendedMantissa.ofMantissaAndAccuracy m accuracy).mantissa = m := by
  cases accuracy with
  | exact => rfl
  | inexact o => cases o <;> rfl

/-- Rounding takes nothing off the bits that are kept. -/
theorem mantissa_le_roundedMantissa (em : ExtendedMantissa) : em.mantissa ≤ em.roundedMantissa := by
  rw [ExtendedMantissa.roundedMantissa]
  cases em.accuracy with
  | exact => exact le_rfl
  | inexact o => cases o <;> simp [Accuracy.roundToNearestEven]

theorem targetExponent_binary64 (total : Int) : Format.binary64.targetExponent total = max (total - 53) (-1074) := rfl

/-- **Shifting** a number that is not less than the least double keeps its leading bit, and at most 53 bits. -/
theorem div_bounds {m : Nat} {e : Int} (hm : 0 < m) (h : -1074 ≤ m.log2 + e) :
    1 ≤ m / 2 ^ (Format.binary64.targetExponent (totalExponent m e) - e).toNat ∧
      m / 2 ^ (Format.binary64.targetExponent (totalExponent m e) - e).toNat < 2 ^ 53 := by
  have hlow : 2 ^ m.log2 ≤ m := Nat.log2_self_le hm.ne'
  have hhigh : m < 2 ^ (m.log2 + 1) := Nat.lt_log2_self
  rw [targetExponent_binary64, totalExponent]
  obtain ⟨k, hk⟩ : ∃ k, (max ((m.log2 : Int) + 1 + e - 53) (-1074) - e).toNat = k := ⟨_, rfl⟩
  -- As many places are shifted as are needed to come to 53 bits, or to the least exponent if that is more.
  have hle : k ≤ m.log2 := by omega
  have hbits : m.log2 + 1 ≤ 53 + k := by omega
  rw [hk]
  constructor
  · exact (Nat.le_div_iff_mul_le (Nat.two_pow_pos k)).mpr
      (by rw [one_mul]; exact (Nat.pow_le_pow_right two_pos hle).trans hlow)
  · rw [Nat.div_lt_iff_lt_mul (Nat.two_pow_pos k), ← pow_add]
    exact hhigh.trans_le (Nat.pow_le_pow_right two_pos hbits)

/-- **Kept:** other than zero, and of a size that packing leaves so. -/
def Kept (x : UnpackedFloat) : Prop :=
  ∃ s m e hm, x = .finite s m e hm ∧ m < 2 ^ 53 ∧ -1074 ≤ e

/-- **Rounding keeps** what is not less than the least double. -/
theorem kept_roundWithAccuracy (s : Sign) {m : Nat} {e : Int} (accuracy : Accuracy) (hm : 0 < m)
    (h : -1074 ≤ m.log2 + e) : Kept (roundWithAccuracy .binary64 s m e accuracy) := by
  obtain ⟨hpos, -⟩ := div_bounds hm h
  -- The number is shifted, rounded, and shifted once more in case it has become one bit longer.
  obtain ⟨k, hk⟩ : ∃ k, (Format.binary64.targetExponent (totalExponent m e) - e).toNat = k := ⟨_, rfl⟩
  obtain ⟨r, hr⟩ : ∃ r, (ExtendedMantissa.ofMantissaAndAccuracy m accuracy >>> k).roundedMantissa = r := ⟨_, rfl⟩
  have hshifted : -1074 ≤ e + k := by
    rw [targetExponent_binary64] at hk
    omega
  have hrounded : 0 < r := by
    have hle := mantissa_le_roundedMantissa (ExtendedMantissa.ofMantissaAndAccuracy m accuracy >>> k)
    rw [mantissa_shiftRight, mantissa_ofMantissaAndAccuracy, hr, ← hk] at hle
    exact hpos.trans hle
  obtain ⟨hpos', hlt'⟩ := div_bounds (e := e + k) hrounded (by omega)
  rw [roundWithAccuracy, shiftToTargetExponent, shiftToExponent, hk]
  dsimp only
  rw [hr]
  simp only [shiftToTargetExponent, shiftToExponent, mantissa_shiftRight, mantissa_ofMantissaAndAccuracy]
  rw [dif_neg (Nat.pos_iff_ne_zero.mp hpos')]
  exact ⟨_, _, _, _, rfl, hlt', by omega⟩

/-! ## Packing -/

/-- How what is finite is packed: too large, with a leading bit that goes without saying, or without one. -/
theorem pack_finite (s : Sign) {m : Nat} (e : Int) (hm : 0 < m) :
    UnpackedFloat.pack .binary64 (.finite s m e hm) =
      if 2 ^ 11 ≤ (e + 1023 + 52).toNat + 1 then packedInfinity .binary64 s
      else if m.log2 + 1 = 53 then
        packComponents .binary64 s (BitVec.ofNat 11 (e + 1023 + 52).toNat) (BitVec.ofNat 52 m)
      else packComponents .binary64 s 0#11 (BitVec.ofNat 52 m) := rfl

/-- **What is kept** is not packed as a zero. -/
theorem Kept.pack_ne_packedZero {x : UnpackedFloat} (h : Kept x) (s : Sign) :
    UnpackedFloat.pack .binary64 x ≠ packedZero .binary64 s := by
  obtain ⟨t, m, e, hm, rfl, hlt, hle⟩ := h
  intro heq
  rw [pack_finite, packedZero] at heq
  split at heq
  · have hexponent := congrArg unpackExponent heq
    rw [packedInfinity, unpackExponent_packComponents, unpackExponent_packComponents] at hexponent
    cases hexponent
  · next hfits =>
    split at heq
    · -- The exponent is not the least one.
      have hexponent := congrArg unpackExponent heq
      rw [unpackExponent_packComponents, unpackExponent_packComponents, ← BitVec.toNat_inj, BitVec.toNat_ofNat,
        Nat.mod_eq_of_lt (by omega)] at hexponent
      have hzero : (e + 1023 + 52).toNat = 0 := hexponent
      omega
    · next hshort =>
      -- The bits are all there.
      have hbits : m < 2 ^ 52 := (Nat.log2_lt hm.ne').mp (by have := (Nat.log2_lt hm.ne').mpr hlt; omega)
      have hmantissa := congrArg unpackMantissa heq
      rw [unpackMantissa_packComponents, unpackMantissa_packComponents, ← BitVec.toNat_inj, BitVec.toNat_ofNat,
        Nat.mod_eq_of_lt hbits] at hmantissa
      have hzero : m = 0 := hmantissa
      omega

/-- **Other than zero.** -/
def IsNonzero (x : Float) : Prop := ∀ s, x.toModel.unpack ≠ .zero s

theorem beq_zero_of_isNonzero {x : Float} (h : IsNonzero x) : (x == 0.0) = false := by
  rw [Bool.eq_false_iff]
  intro hzero
  obtain ⟨-, -, rfl | ⟨rfl, -⟩ | ⟨rfl, -⟩⟩ := Float.beq_iff_ne_nan_and_eq.mp hzero
  · exact h .positive rfl
  · exact h .positive rfl
  · exact h .negative rfl

theorem isNonzero_ofModel_pack {x : UnpackedFloat} (h : ∀ s, UnpackedFloat.pack .binary64 x ≠ packedZero .binary64 s) :
    IsNonzero (.ofModel (.pack x)) :=
  fun s hzero => h s ((UnpackedFloat.unpack_eq_zero_iff_of_valid UnpackedFloat.valid_pack).mp hzero)

/-- What is greater than zero is other than zero. -/
theorem isNonzero_of_pos {x : Float} (h : 0.0 < x) : IsNonzero x := by
  intro s hzero
  have hlt : (UnpackedFloat.zero .positive).lt x.toModel.unpack = true := of_decide_eq_true h
  rw [hzero] at hlt
  cases hlt

/-! ## Numbers of things -/

/-- The exponent of a double. -/
theorem le_exponent_of_unpack {b : BitVec Format.binary64.numBits} {s : Sign} {m : Nat} {e : Int} {hm : 0 < m}
    (h : UnpackedFloat.unpack .binary64 b = .finite s m e hm) : -1074 ≤ e := by
  rw [UnpackedFloat.unpack] at h
  dsimp only at h
  have hbias : ((Format.binary64.exponentBias : Int) + Format.binary64.mantissaBitsWithoutImplicit) = 1075 := rfl
  rw [hbias] at h
  split at h
  · split at h <;> cases h
  · split at h
    · split at h
      · cases h
      · injection h with _ _ hexponent
        omega
    · next hsmall =>
      -- The exponent bits are not all zero, or the double would have no leading bit.
      injection h with _ _ hexponent
      have hpos : (unpackExponent b).toNat ≠ 0 := fun h0 => hsmall (BitVec.eq_of_toNat_eq h0)
      omega

theorem le_log2_mul_two_pow {m : Nat} (hm : 0 < m) (k : Nat) : k ≤ (m * 2 ^ k).log2 := by
  rw [Nat.le_log2 (Nat.mul_pos hm (Nat.two_pow_pos k)).ne']
  exact Nat.le_mul_of_pos_left _ hm

/-- Multiplying by one keeps a double other than zero. -/
theorem isNonzero_mul_one {x : Float} (h : IsNonzero x) : IsNonzero (x * Float.ofBits 0x3FF0000000000000) := by
  have hone : (Float.ofBits 0x3FF0000000000000).toModel.unpack = .finite .positive (2 ^ 52) (-52) (by decide) := rfl
  show IsNonzero (.ofModel (.pack (UnpackedFloat.mul .binary64 x.toModel.unpack
    (Float.ofBits 0x3FF0000000000000).toModel.unpack)))
  apply isNonzero_ofModel_pack
  intro s
  rw [hone]
  -- What is infinite or no number stays so; only what is finite is rounded.
  cases hx : x.toModel.unpack with
  | zero t => exact absurd hx (h t)
  | notANumber => cases s <;> decide
  | infinity t => cases s <;> cases t <;> decide
  | finite t m e hm =>
    have hexponent : -1074 ≤ e := le_exponent_of_unpack hx
    have hlog := le_log2_mul_two_pow hm 52
    exact (kept_roundWithAccuracy _ .exact (by positivity) (by omega)).pack_ne_packedZero s

/-- A whole number other than zero is rounded to a double other than zero. -/
theorem kept_ofNat {n : Nat} (h : n ≠ 0) : Kept (UnpackedFloat.ofNat .binary64 n) := by
  have hcompare : compare (n : Int) 0 = .gt := Int.compare_eq_gt.mpr (by omega)
  rw [UnpackedFloat.ofNat, UnpackedFloat.ofInt, UnpackedFloat.normalize, hcompare]
  dsimp only
  rw [UnpackedFloat.round, UnpackedFloat.decreaseExponent, Int.toNat_natCast]
  dsimp only
  rw [Nat.shiftLeft_eq]
  have hlog := le_log2_mul_two_pow (Nat.pos_of_ne_zero h)
    (0 - Format.binary64.targetExponent (totalExponent n 0)).toNat
  exact kept_roundWithAccuracy _ _ (by positivity) (by omega)

/-- **A number of things other than zero** is a double other than zero. -/
theorem isNonzero_ofNat {n : Nat} (h : n ≠ 0) : IsNonzero (Float.ofNat n) := by
  show IsNonzero (Float.ofScientific n false 0)
  by_cases hsmall : n < 2 ^ 53
  · rw [Float.ofScientific, dif_pos ⟨hsmall, by decide⟩]
    show IsNonzero (n.toUInt64.toFloat * Float.ofBits 0x3FF0000000000000)
    apply isNonzero_mul_one
    apply isNonzero_ofModel_pack
    have hwhole : n.toUInt64.toNat = n := UInt64.toNat_ofNat_of_lt' (hsmall.trans (by decide))
    rw [UnpackedFloat.ofUInt64, hwhole]
    exact (kept_ofNat h).pack_ne_packedZero
  · rw [Float.ofScientific, dif_neg (fun hboth => hsmall hboth.1)]
    apply isNonzero_ofModel_pack
    have hscientific : UnpackedFloat.ofScientific .binary64 n 0 =
        roundWithAccuracy .binary64 .positive (n <<< 53 * 1) (-53 + 0) .exact := by
      rw [UnpackedFloat.ofScientific, dif_neg h, if_neg (by decide), if_neg (by dsimp only; omega), if_pos le_rfl]
      rfl
    show ∀ s, UnpackedFloat.pack .binary64 (UnpackedFloat.ofScientific .binary64 n 0) ≠ _
    rw [hscientific, Nat.shiftLeft_eq, mul_one]
    have hlog := le_log2_mul_two_pow (Nat.pos_of_ne_zero h) 53
    exact (kept_roundWithAccuracy _ _ (by positivity) (by omega)).pack_ne_packedZero

end MapExport.Decimal
