import Mathlib
import MapExport.Text.LowerCase

/-!
# Words in any letter case

The names that an operator chooses from are compared in lower case, which is the full Unicode mapping. These names
consist of plain letters, and what has them as its lower case consists of plain letters too: nothing else in Unicode
comes down to a single one of these letters. The Kelvin sign would, but no name has a `k`.
-/

set_option autoImplicit false

namespace MapExport.Text

/-- **A plain letter:** a small ASCII letter other than `k`, which is also the lower case of the Kelvin sign. -/
def isPlain (c : Char) : Bool := 97 ≤ c.toNat && c.toNat ≤ 122 && c != 'k'

/-- **A word in any letter case.** -/
def InAnyCase (word s : String) : Prop := s.toList.map Char.toLower = word.toList

instance (word s : String) : Decidable (InAnyCase word s) :=
  inferInstanceAs (Decidable (s.toList.map Char.toLower = word.toList))

/-- In ASCII, lower case is what it always was. -/
theorem lowerChar_of_ascii {c : Char} (h : c.toNat < 128) : lowerChar c = c.toLower := by
  have hall : ∀ n < 128, lowerChar (Char.ofNat n) = (Char.ofNat n).toLower := by decide +kernel
  rw [← Char.ofNat_toNat c]
  exact hall c.toNat h

/-- Beyond ASCII, only the Kelvin sign comes down to ASCII. -/
theorem image_of_lowerRows : ∀ row ∈ lowerRows, row.2.1 < 128 ∨ 128 ≤ row.2.2.2 ∨ row = (0x212A, 0x212A, 1, 0x6B) := by
  decide +kernel

theorem isPlain_eq_false {c : Char} (h : c.toNat < 97 ∨ 122 < c.toNat ∨ c = 'k') : isPlain c = false := by
  unfold isPlain
  rcases h with hlow | hhigh | rfl
  · simp [Nat.not_le.mpr hlow]
  · simp [Nat.not_le.mpr hhigh]
  · rfl

/-- **Nothing beyond ASCII** comes down to a plain letter. -/
theorem isPlain_lowerChar_eq_false {c : Char} (h : 128 ≤ c.toNat) : isPlain (lowerChar c) = false := by
  unfold lowerChar
  split
  · next first last step image hfind =>
    have hrange := List.find?_some hfind
    simp only [Bool.and_eq_true, decide_eq_true_eq] at hrange
    rcases image_of_lowerRows _ (List.mem_of_find?_eq_some hfind) with hlast | himage | hkelvin
    · have hascii : last < 128 := hlast
      omega
    · have hwide : 128 ≤ image := himage
      apply isPlain_eq_false
      rw [Char.toNat_ofNat]
      split <;> omega
    · injection hkelvin with hfirst hkelvin
      injection hkelvin with hlast hkelvin
      injection hkelvin with hstep himage
      have hc : c.toNat - first = 0 := by omega
      rw [hc, himage]
      rfl
  · exact isPlain_eq_false (by omega)

/-- The lower case of a character that comes down to plain letters alone. -/
theorem lowerAt_of_plain {before after : List Char} {c : Char}
    (h : ∀ d ∈ lowerAt before c after, isPlain d = true) : lowerAt before c after = [c.toLower] := by
  unfold lowerAt at h ⊢
  split at h
  · -- Neither of the two small sigmas is plain.
    split at h <;> exact absurd (h _ List.mem_cons_self) (by decide)
  · split at h
    · exact absurd (h _ (List.mem_cons_of_mem _ List.mem_cons_self)) (by decide)
    · next hsigma hdotted =>
      have hplain : isPlain (lowerChar c) = true := h _ List.mem_cons_self
      have hascii : c.toNat < 128 := by
        by_cases hwide : 128 ≤ c.toNat
        · rw [isPlain_lowerChar_eq_false hwide] at hplain
          cases hplain
        · omega
      rw [if_neg hsigma, if_neg hdotted, lowerChar_of_ascii hascii]

theorem lowerAt_of_toLower {before after : List Char} {c : Char} (h : isPlain c.toLower = true) :
    lowerAt before c after = [c.toLower] := by
  have hascii : c.toNat < 128 := by
    by_cases hwide : 128 ≤ c.toNat
    · have hsame : c.toLower = c := by
        apply Char.toLower_eq_of_not_isUpper
        intro hupper
        have hsmall : c.toNat ≤ 90 := by
          simp only [Char.isUpper, decide_eq_true_eq] at hupper
          exact hupper.2
        omega
      rw [hsame, isPlain_eq_false (by omega)] at h
      cases h
    · omega
  unfold lowerAt
  rw [if_neg (by omega), if_neg (by omega), lowerChar_of_ascii hascii]

theorem lowerFrom_eq_iff {cs word : List Char} (hplain : ∀ d ∈ word, isPlain d = true)
    (before : List Char) :
    lowerFrom before cs = word ↔ cs.map Char.toLower = word := by
  induction cs generalizing before word with
  | nil => exact Iff.rfl
  | cons c cs ih =>
    rw [lowerFrom, List.map_cons]
    constructor
    · intro h
      have hc : lowerAt before c cs = [c.toLower] := by
        apply lowerAt_of_plain
        intro d hd
        exact hplain d (h ▸ List.mem_append_left _ hd)
      rw [hc, List.singleton_append] at h
      rw [← h]
      refine congrArg (c.toLower :: ·) ((ih ?_ (c :: before)).mp rfl)
      intro d hd
      exact hplain d (h ▸ List.mem_cons_of_mem _ hd)
    · intro h
      have hc : isPlain c.toLower = true := hplain _ (h ▸ List.mem_cons_self)
      rw [lowerAt_of_toLower hc, List.singleton_append, ← h]
      refine congrArg (c.toLower :: ·) ((ih ?_ (c :: before)).mpr rfl)
      intro d hd
      exact hplain d (h ▸ List.mem_cons_of_mem _ hd)

/-- **A word of plain letters** is the lower case of just those texts that spell it in any letter case. -/
theorem lower_eq_iff {word s : String} (hplain : word.toList.all isPlain = true) :
    lower s = word ↔ InAnyCase word s := by
  rw [InAnyCase, ← lowerFrom_eq_iff (List.all_eq_true.mp hplain) [], lower, ← String.toList_inj, String.toList_ofList]

end MapExport.Text
