import MapExport.Hostname.DirectionTables
import MapExport.Text.CaseTables

/-!
# Direction

If any part of a name is written from right to left, every part of it has to be written in one direction,
so that it reads the same wherever it stands: it begins and ends with a character that has a direction,
marks at its end apart, and no character of the other one is in it.
-/

set_option autoImplicit false

namespace MapExport.Hostname

/-- **How a character is written.** -/
inductive Direction where
  | leftToRight
  | rightToLeft
  | arabicNumber
  | europeanNumber
  | neutral
  | attached
  | separator
  deriving DecidableEq, Repr

namespace Direction

/-- The tables, with the direction of each. -/
def tables : List (List (Nat × Nat) × Direction) :=
  [(rightToLeftRanges, .rightToLeft), (arabicLetterRanges, .rightToLeft),
    (arabicNumberRanges, .arabicNumber), (europeanNumberRanges, .europeanNumber),
    (neutralRanges, .neutral), (attachedRanges, .attached), (separatorRanges, .separator)]

/-- The direction of a character. -/
def ofChar (c : Char) : Direction :=
  match tables.find? fun (rows, _) => Text.inRanges rows c.toNat with
  | some (_, d) => d
  | none => .leftToRight

/-- Whether a character makes a name one that is partly written from right to left. -/
def turns (d : Direction) : Bool := d == .rightToLeft || d == .arabicNumber

/-- Whether part of a name is written in one direction. -/
def isUniform (ds : List Direction) : Bool :=
  let core := (ds.reverse.dropWhile (· == .attached)).reverse
  match ds.head?, core.getLast? with
  | some .leftToRight, some last =>
    (last == .leftToRight || last == .europeanNumber) &&
      ds.all fun d => [leftToRight, europeanNumber, neutral, attached].contains d
  | some .rightToLeft, some last =>
    (turns last || last == .europeanNumber) &&
      ds.all (fun d => [rightToLeft, arabicNumber, europeanNumber, neutral, attached].contains d) &&
      !(ds.contains .arabicNumber && ds.contains .europeanNumber)
  | none, _ => true
  | _, _ => false

/-- **Whether the parts of a name** are written in one direction each, if any of them has to be. -/
def fits (parts : List (List Char)) : Bool :=
  let directions := parts.map (·.map ofChar)
  !directions.any (·.any turns) || directions.all isUniform

end Direction

end MapExport.Hostname
