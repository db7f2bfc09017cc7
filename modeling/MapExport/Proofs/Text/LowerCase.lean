import Mathlib
import MapExport.Proofs.Text.Trim
import MapExport.Text.LowerCase

/-!
# Lower case, once and for all

The lower case of a text is in lower case. No character that stands for another one in the table has a row of its own,
so a second pass finds nothing to change, wherever the character stands. Nor does a visible character become a blank
one, so the lower case of a text without blanks around it has none either.
-/

set_option autoImplicit false

namespace MapExport.Text

variable {before after : List Char} {c d : Char} {cs : List Char}

/-- **A row of the table covers** a code point. -/
def Covers (row : Nat × Nat × Nat × Nat) (n : Nat) : Prop :=
  row.1 ≤ n ∧ n ≤ row.2.1 ∧ (n - row.1) % row.2.2.1 = 0

instance (row : Nat × Nat × Nat × Nat) (n : Nat) : Decidable (Covers row n) :=
  inferInstanceAs (Decidable (_ ∧ _ ∧ _))

/-- What stands for the characters of one row is out of reach of another one: below it, above it, or between the
characters of a row that takes every second one. -/
def imageApart (row other : Nat × Nat × Nat × Nat) : Bool :=
  (row.2.2.2 + (row.2.1 - row.1)).blt other.1 || other.2.1.blt row.2.2.2 ||
    (other.2.2.1.beq 2 && (row.2.2.1.beq 2 || row.1.beq row.2.1) && (row.2.2.2 + other.1) % 2 == 1)

/-- **Settled:** in lower case, wherever it stands. -/
def Settled (c : Char) : Prop := ∀ before after, lowerAt before c after = [c]

/-! ## Facts of the table -/

/-- No image has a row. -/
theorem lowerRows_apart : ∀ row ∈ lowerRows, lowerRows.all (imageApart row) = true := by
  decide +kernel

/-- The dotted capital I is nobody's image, and the table begins with the capital A. -/
theorem lowerRows_bounds :
    ∀ row ∈ lowerRows, 0x41 ≤ row.1 ∧ (row.2.2.2 + (row.2.1 - row.1) < 0x130 ∨ 0x130 < row.2.2.2) := by
  decide +kernel

/-- The capital sigma has a row. -/
theorem exists_row_of_sigma : ∃ row ∈ lowerRows, Covers row 0x3A3 := by
  decide +kernel

/-- No image is a blank. -/
theorem lowerRows_visible :
    ∀ row ∈ lowerRows, ∀ k < row.2.1 - row.1 + 1, isBlank (Char.ofNat (row.2.2.2 + k)) = false := by
  decide +kernel

/-! ## One character -/

/-- **The simple lower case** of a character is the image of the row that covers it, and else the character. -/
theorem lowerChar_cases (c : Char) :
    (∃ row ∈ lowerRows, Covers row c.toNat ∧ lowerChar c = Char.ofNat (row.2.2.2 + (c.toNat - row.1))) ∨
      ((∀ row ∈ lowerRows, ¬ Covers row c.toNat) ∧ lowerChar c = c) := by
  unfold lowerChar
  split
  · next first last step image hfind =>
    have hcovers := List.find?_some hfind
    simp only [Bool.and_eq_true, decide_eq_true_eq, beq_iff_eq] at hcovers
    obtain ⟨⟨hfirst, hlast⟩, hstep⟩ := hcovers
    exact .inl ⟨_, List.mem_of_find?_eq_some hfind, ⟨hfirst, hlast, hstep⟩, rfl⟩
  · next hnone =>
    refine .inr ⟨fun row hrow ⟨hfirst, hlast, hstep⟩ => ?_, rfl⟩
    have hmissed := List.find?_eq_none.mp hnone row hrow
    simp [hfirst, hlast, hstep] at hmissed

/-- What no row covers is settled, the dotted capital I apart. -/
theorem settled_of_not_covers (hdotted : c.toNat ≠ 0x130) (h : ∀ row ∈ lowerRows, ¬ Covers row c.toNat) :
    Settled c := by
  intro before after
  have hsigma : c.toNat ≠ 0x3A3 := by
    intro heq
    obtain ⟨row, hrow, hcovers⟩ := exists_row_of_sigma
    exact h row hrow (heq ▸ hcovers)
  rw [lowerAt, if_neg hsigma, if_neg hdotted]
  rcases lowerChar_cases c with ⟨row, hrow, hcovers, -⟩ | ⟨-, hsame⟩
  · exact absurd hcovers (h row hrow)
  · rw [hsame]

/-- The image of a covered code point is covered by no row. -/
theorem not_covers_image {row other : Nat × Nat × Nat × Nat} {n : Nat} (hcovers : Covers row n)
    (hapart : imageApart row other = true) : ¬ Covers other (row.2.2.2 + (n - row.1)) := by
  obtain ⟨hfirst, hlast, hstep⟩ := hcovers
  rintro ⟨hfirst', hlast', hstep'⟩
  simp only [imageApart, Bool.or_eq_true, Bool.and_eq_true, Nat.blt_eq, Nat.beq_eq, beq_iff_eq] at hapart
  rcases hapart with (hbelow | habove) | ⟨⟨htwo', htwo | hone⟩, hparity⟩
  · omega
  · omega
  -- Every second character of the one row would be every second one of the other, but they differ in parity.
  · rw [htwo] at hstep
    rw [htwo'] at hstep'
    omega
  · rw [htwo'] at hstep'
    omega

/-- What the table gives is settled. -/
theorem settled_lowerChar (hdotted : c.toNat ≠ 0x130) : Settled (lowerChar c) := by
  rcases lowerChar_cases c with ⟨row, hrow, hcovers, himage⟩ | ⟨hnone, hsame⟩
  · obtain ⟨-, hbounds⟩ := lowerRows_bounds row hrow
    obtain ⟨hfirst, hlast, -⟩ := id hcovers
    rw [himage]
    apply settled_of_not_covers
    · rw [Char.toNat_ofNat]
      split <;> omega
    · intro other hother hcovers'
      rw [Char.toNat_ofNat] at hcovers'
      split at hcovers'
      · have hapart := List.all_eq_true.mp (lowerRows_apart row hrow) other hother
        exact not_covers_image hcovers hapart hcovers'
      · -- What is no code point is taken for the first one of all, and that has no row.
        obtain ⟨hstart, -⟩ := lowerRows_bounds other hother
        have hlow : other.1 ≤ 0 := hcovers'.1
        omega
  · rw [hsame]
    exact settled_of_not_covers hdotted hnone

/-- The four characters that do not come from the table are settled. -/
theorem settled_special : ∀ n ∈ [0x3C2, 0x3C3, 0x69, 0x307], Settled (Char.ofNat n) := by
  have hbare : ∀ n ∈ [0x3C2, 0x3C3, 0x69, 0x307],
      (Char.ofNat n).toNat ≠ 0x130 ∧ ∀ row ∈ lowerRows, ¬ Covers row (Char.ofNat n).toNat := by
    decide +kernel
  intro n hn
  exact settled_of_not_covers (hbare n hn).1 (hbare n hn).2

/-- **What stands for a character is settled.** -/
theorem settled_of_mem_lowerAt (h : d ∈ lowerAt before c after) : Settled d := by
  unfold lowerAt at h
  split at h
  · rw [List.mem_singleton.mp h]
    split <;> exact settled_special _ (by decide)
  · split at h
    · rcases List.mem_pair.mp h with rfl | rfl <;> exact settled_special _ (by decide)
    · next hdotted =>
      rw [List.mem_singleton.mp h]
      exact settled_lowerChar hdotted

/-- What stands for a visible character is visible. -/
theorem isBlank_of_mem_lowerAt (hc : isBlank c = false) (h : d ∈ lowerAt before c after) : isBlank d = false := by
  unfold lowerAt at h
  split at h
  · rw [List.mem_singleton.mp h]
    split <;> decide +kernel
  · split at h
    · rcases List.mem_pair.mp h with rfl | rfl <;> decide +kernel
    · rw [List.mem_singleton.mp h]
      rcases lowerChar_cases c with ⟨row, hrow, ⟨hfirst, hlast, -⟩, himage⟩ | ⟨-, hsame⟩
      · rw [himage]
        exact lowerRows_visible row hrow _ (by omega)
      · rwa [hsame]

theorem lowerAt_ne_nil (before : List Char) (c : Char) (after : List Char) : lowerAt before c after ≠ [] := by
  unfold lowerAt
  split
  · exact List.cons_ne_nil _ _
  · split <;> exact List.cons_ne_nil _ _

/-! ## Texts -/

theorem settled_of_mem_lowerFrom (h : d ∈ lowerFrom before cs) : Settled d := by
  induction cs generalizing before with
  | nil => cases h
  | cons c cs ih =>
    rcases List.mem_append.mp h with hfirst | hrest
    · exact settled_of_mem_lowerAt hfirst
    · exact ih hrest

theorem lowerFrom_of_settled (h : ∀ d ∈ cs, Settled d) (before : List Char) : lowerFrom before cs = cs := by
  induction cs generalizing before with
  | nil => rfl
  | cons c cs ih =>
    have hrest : ∀ d ∈ cs, Settled d := fun d hd => h d (List.mem_cons_of_mem c hd)
    rw [lowerFrom, h c List.mem_cons_self before cs, ih hrest, List.singleton_append]

/-- **Lower case is in lower case.** -/
theorem lower_lower (s : String) : lower (lower s) = lower s := by
  have hsettled : ∀ d ∈ lowerFrom [] s.toList, Settled d := fun d hd => settled_of_mem_lowerFrom hd
  rw [lower, lower, String.toList_ofList, lowerFrom_of_settled hsettled]

/-- The first character of the lower case stands for the first one of the text. -/
theorem exists_mem_lowerAt_of_head? (h : d ∈ (lowerFrom before cs).head?) :
    ∃ c ∈ cs.head?, ∃ before after, d ∈ lowerAt before c after := by
  cases cs with
  | nil => cases h
  | cons c cs =>
    rw [lowerFrom, List.head?_append_of_ne_nil _ (lowerAt_ne_nil before c cs)] at h
    exact ⟨c, rfl, before, cs, List.mem_of_mem_head? h⟩

/-- The last character of the lower case stands for the last one of the text. -/
theorem exists_mem_lowerAt_of_getLast? (h : d ∈ (lowerFrom before cs).getLast?) :
    ∃ c ∈ cs.getLast?, ∃ before after, d ∈ lowerAt before c after := by
  induction cs generalizing before with
  | nil => cases h
  | cons c cs ih =>
    cases cs with
    | nil =>
      rw [lowerFrom, lowerFrom, List.append_nil] at h
      exact ⟨c, rfl, before, [], List.mem_of_mem_getLast? h⟩
    | cons c' cs =>
      have hrest : lowerFrom (c :: before) (c' :: cs) ≠ [] :=
        List.append_ne_nil_of_left_ne_nil (lowerAt_ne_nil (c :: before) c' cs) _
      rw [lowerFrom, List.getLast?_append_of_ne_nil _ hrest] at h
      obtain ⟨last, hlast, hmem⟩ := ih h
      exact ⟨last, hlast, hmem⟩

/-- **The lower case of a tidy text** is tidy. -/
theorem Tidy.lower {s : String} (h : Tidy s) : Tidy (lower s) := by
  constructor
  · intro d hd
    rw [Text.lower, String.toList_ofList] at hd
    obtain ⟨c, hc, before, after, hmem⟩ := exists_mem_lowerAt_of_head? hd
    exact isBlank_of_mem_lowerAt (h.first c hc) hmem
  · intro d hd
    rw [Text.lower, String.toList_ofList] at hd
    obtain ⟨c, hc, before, after, hmem⟩ := exists_mem_lowerAt_of_getLast? hd
    exact isBlank_of_mem_lowerAt (h.last c hc) hmem

end MapExport.Text
