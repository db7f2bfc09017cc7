import MapExport.Text.Blank

/-!
# What trimming leaves

A trimmed text has no blank at either end, it is no longer than the text was, and something is left of every
text that is not blank. So a length that was checked before trimming still holds after it.
-/

set_option autoImplicit false

namespace MapExport.Text

/-- **Tidy:** no blank at either end. -/
structure Tidy (s : String) : Prop where
  first : ∀ c ∈ s.toList.head?, isBlank c = false
  last : ∀ c ∈ s.toList.getLast?, isBlank c = false

variable {cs : List Char}

theorem isBlank_head?_dropBlanks (cs : List Char) {c : Char} (h : c ∈ (dropBlanks cs).head?) : isBlank c = false := by
  have hhead := List.head?_dropWhile_not isBlank cs
  rw [dropBlanks] at h
  rw [Option.mem_def.mp h] at hhead
  exact hhead

/-- What is left at the right is how the text began. -/
theorem dropBlanksRight_isPrefix (cs : List Char) : dropBlanksRight cs <+: cs := by
  have hsuffix := (List.dropWhile_suffix isBlank : cs.reverse.dropWhile isBlank <:+ cs.reverse)
  have hreversed := List.reverse_prefix.mpr hsuffix
  rwa [List.reverse_reverse] at hreversed

theorem dropBlanksRight_eq_nil_iff : dropBlanksRight cs = [] ↔ cs.all isBlank = true := by
  rw [dropBlanksRight, List.reverse_eq_nil_iff, ← dropBlanks, dropBlanks_eq_nil_iff, List.all_reverse]

/-- **A trimmed text is tidy.** -/
theorem tidy_trim (s : String) : Tidy (trim s) := by
  constructor
  · intro c hc
    rw [trim, String.toList_ofList] at hc
    obtain ⟨rest, hrest⟩ := dropBlanksRight_isPrefix (dropBlanks s.toList)
    refine isBlank_head?_dropBlanks s.toList ?_
    rw [← hrest, List.head?_append, Option.mem_def.mp hc]
    rfl
  · intro c hc
    rw [trim, String.toList_ofList, dropBlanksRight, List.getLast?_reverse] at hc
    exact isBlank_head?_dropBlanks _ hc

/-- Trimming makes no text longer. -/
theorem length_trim_le (s : String) : (trim s).length ≤ s.length := by
  have hleft : (dropBlanks s.toList).length ≤ s.toList.length :=
    (List.dropWhile_suffix isBlank).length_le
  have hright := (dropBlanksRight_isPrefix (dropBlanks s.toList)).length_le
  rw [trim, String.length_ofList, ← String.length_toList]
  omega

/-- **Of a text that is not blank** something is left. -/
theorem length_trim_pos {s : String} (h : isBlankText s = false) : 1 ≤ (trim s).length := by
  have hleft : dropBlanks s.toList ≠ [] := by
    intro hnil
    have hall := dropBlanks_eq_nil_iff.mp hnil
    rw [isBlankText] at h
    rw [h] at hall
    cases hall
  -- The first character that is left is not blank, so the other side is not all blanks either.
  have hright : dropBlanksRight (dropBlanks s.toList) ≠ [] := by
    intro hnil
    obtain ⟨c, rest, hcons⟩ := List.exists_cons_of_ne_nil hleft
    have hall := List.all_eq_true.mp (dropBlanksRight_eq_nil_iff.mp hnil) c (hcons ▸ List.mem_cons_self)
    rw [isBlank_head?_dropBlanks s.toList (by rw [hcons]; rfl)] at hall
    cases hall
  rw [trim, String.length_ofList]
  exact List.length_pos_iff.mpr hright

/-- **A tidy text** is trimmed to itself. -/
theorem Tidy.trim_eq {s : String} (h : Tidy s) : trim s = s := by
  have hkept {cs : List Char} (h : ∀ c ∈ cs.head?, isBlank c = false) : dropBlanks cs = cs := by
    cases cs with
    | nil => rfl
    | cons c cs => exact dropBlanks_cons_of_not_isBlank (h c rfl)
  have hright : ∀ c ∈ s.toList.reverse.head?, isBlank c = false := by
    rw [List.head?_reverse]
    exact h.last
  rw [trim, hkept h.first, dropBlanksRight, ← dropBlanks, hkept hright, List.reverse_reverse, String.ofList_toList]

theorem not_isBlank_of_isDigit {c : Char} (h : c.isDigit = true) : isBlank c = false := by
  simp only [Char.isDigit, Bool.and_eq_true, decide_eq_true_eq] at h
  have hlow : 48 ≤ c.toNat := h.1
  have hhigh : c.toNat ≤ 57 := h.2
  simp [isBlank]
  omega

/-- The digits of a number have no blanks around them. -/
theorem trim_toString (n : Nat) : trim (toString n) = toString n := by
  have hdigits : ∀ c ∈ (toString n).toList, isBlank c = false := by
    intro c hc
    rw [Nat.toString_eq_repr, Nat.repr_eq_ofList_toDigits, String.toList_ofList] at hc
    exact not_isBlank_of_isDigit (Nat.isDigit_of_mem_toDigits (by decide) (by decide) hc)
  apply Tidy.trim_eq
  constructor
  · intro c hc
    exact hdigits c (List.mem_of_mem_head? hc)
  · intro c hc
    exact hdigits c (List.mem_of_mem_getLast? hc)

end MapExport.Text
