/-!
# Blank characters and trimming

A user who fills a field with spaces has left it empty. Which characters count as spaces is the
Unicode property `White_Space`: twenty-five code points, written out below, none of them beyond
`U+3000`. Everything the service trims, it trims by this one property.
-/

set_option autoImplicit false

namespace MapExport.Text

/-- **Blank.** A character with the Unicode property `White_Space`. Zero-width characters such as
`U+200B` and `U+FEFF` do not have it, and neither do the separators `U+001C` to `U+001F`. -/
def isBlank (c : Char) : Bool :=
  let n := c.toNat
  (9 ≤ n && n ≤ 13) || n == 0x20 || n == 0x85 || n == 0xA0 || n == 0x1680 ||
    (0x2000 ≤ n && n ≤ 0x200A) || n == 0x2028 || n == 0x2029 || n == 0x202F || n == 0x205F ||
    n == 0x3000

/-- The characters from the first one that is not blank. -/
def dropBlanks (cs : List Char) : List Char :=
  cs.dropWhile isBlank

/-- The characters up to the last one that is not blank. -/
def dropBlanksRight (cs : List Char) : List Char :=
  (cs.reverse.dropWhile isBlank).reverse

/-- **Trimming.** A text without the blanks at its two ends. -/
def trim (s : String) : String :=
  String.ofList (dropBlanksRight (dropBlanks s.toList))

/-- **Blank text.** A text that holds blanks only; the empty text is one. -/
def isBlankText (s : String) : Bool :=
  s.toList.all isBlank

/-- A text is not blank if it holds a visible character. -/
theorem isBlankText_eq_false_iff {s : String} : isBlankText s = false ↔ ∃ c ∈ s.toList, isBlank c = false := by
  simp [isBlankText, List.all_eq_false]

/-- What begins with a visible character has nothing to drop. -/
theorem dropBlanks_cons_of_not_isBlank {c : Char} {cs : List Char} (h : isBlank c = false) :
    dropBlanks (c :: cs) = c :: cs := by
  simp [dropBlanks, h]

/-- A run of blanks is dropped whole. -/
theorem dropBlanks_eq_nil_iff {cs : List Char} : dropBlanks cs = [] ↔ cs.all isBlank = true := by
  induction cs with
  | nil => simp [dropBlanks]
  | cons c cs ih =>
    by_cases h : isBlank c = true
    · rw [dropBlanks, List.dropWhile_cons_of_pos h, List.all_cons, h, Bool.true_and]
      exact ih
    · simp [dropBlanks, h]

end MapExport.Text
