import MapExport.Hostname.JoiningTables
import MapExport.Text.CaseTables

/-!
# Joiners

The joiner may stand after a sign that leaves out a vowel. So may the non-joiner, and also between two
letters that would join each other without it.
-/

set_option autoImplicit false

namespace MapExport.Hostname

/-- The non-joiner. -/
def nonJoiner : Char := Char.ofNat 0x200C

/-- The joiner. -/
def joiner : Char := Char.ofNat 0x200D

/-- Whether a character is a mark. -/
def isMark (c : Char) : Bool := Text.inRanges markRanges c.toNat

/-- Whether a character is in one of two tables. -/
def isIn (a b : List (Nat × Nat)) (c : Char) : Bool :=
  Text.inRanges a c.toNat || Text.inRanges b c.toNat

/-- Whether the first character that joining does not look past is in one of two tables. -/
def meets (a b : List (Nat × Nat)) (cs : List Char) : Bool :=
  (cs.dropWhile fun c => Text.inRanges transparentRanges c.toNat).head?.any (isIn a b)

/-- Whether the joiners in part of a name make a difference; what stands before is given nearest first. -/
def joinersFit (before : List Char) : List Char → Bool
  | [] => true
  | c :: cs =>
    let afterVirama := before.head?.any fun d => Text.inRanges viramaRanges d.toNat
    (if c = joiner then afterVirama
      else if c = nonJoiner then
        afterVirama ||
          (meets bothWaysRanges nextOnlyRanges before && meets bothWaysRanges previousOnlyRanges cs)
      else true) &&
      joinersFit (c :: before) cs

end MapExport.Hostname
