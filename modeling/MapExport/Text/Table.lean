import MapExport.Text.Number

/-!
# Tables written as text

A long table of characters is written as text, row by row with blanks between them. A row is a code point
or a range of them, `first-last`, or every second one of a range, `first-last/2`; after a colon follow the
code points that stand for it, for a range those that stand for its first one. All numbers are hexadecimal.
-/

set_option autoImplicit false

namespace MapExport.Text

/-- **A row** of a table. -/
structure TableRow where
  first : Nat
  last : Nat
  step : Nat
  image : List Nat
  deriving DecidableEq, Repr

namespace TableRow

/-- A hexadecimal number; nothing counts as `default`. -/
def number (default : Nat) (cs : List Char) : Nat :=
  if cs.isEmpty then default else (hexNumber? cs).getD default

/-- A row of its text. -/
def ofChars (cs : List Char) : TableRow :=
  let (keys, image) := cs.span (· != ':')
  let (range, step) := keys.span (· != '/')
  let (first, last) := range.span (· != '-')
  let first := number 0 first
  { first
    last := number first (last.drop 1)
    step := number 1 (step.drop 1)
    image := (((image.drop 1).splitOn ',').filter (!·.isEmpty)).map (number 0) }

/-- Whether a code point belongs to a row. -/
def covers (r : TableRow) (n : Nat) : Bool :=
  r.first ≤ n && n ≤ r.last && (n - r.first) % r.step == 0

/-- What stands for a code point of the row. -/
def imageOf (r : TableRow) (n : Nat) : List Char := r.image.map fun i => Char.ofNat (i + (n - r.first))

end TableRow

/-- **The rows of a table.** -/
def tableRows (s : String) : List TableRow :=
  (((s.toList.map fun c => if c == '\n' then ' ' else c).splitOn ' ').filter (!·.isEmpty)).map
    TableRow.ofChars

end MapExport.Text
