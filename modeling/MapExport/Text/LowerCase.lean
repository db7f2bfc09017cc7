import MapExport.Text.CaseTables

/-!
# Lower case

Slugs, and the words of a few settings, are compared without regard to case. Lower-casing is the full
Unicode mapping: it may lengthen a text (the dotted capital I becomes two characters), and the Greek
capital sigma has two images, one for the end of a word and one for everywhere else.
-/

set_option autoImplicit false

namespace MapExport.Text

/-- A letter with case, as the search for a neighbour of a sigma sees it. -/
def isCased (c : Char) : Bool := inRanges casedRanges c.toNat

/-- A character that the search for a neighbour of a sigma looks past. -/
def isCaseIgnorable (c : Char) : Bool := inRanges caseIgnorableRanges c.toNat

/-- The simple lower-case form of a character, itself when it has none. -/
def lowerChar (c : Char) : Char :=
  match lowerRows.find? fun (first, last, step, _) =>
      first ≤ c.toNat && c.toNat ≤ last && (c.toNat - first) % step == 0 with
  | some (first, _, _, image) => Char.ofNat (image + (c.toNat - first))
  | none => c

/-- **A cased neighbour.** Whether the first character that is not looked past is a cased letter. -/
def meetsCased (cs : List Char) : Bool :=
  match cs.dropWhile isCaseIgnorable with
  | [] => false
  | c :: _ => isCased c

/-- **Final sigma.** A capital sigma ends its word when a cased letter comes before it and none comes
after it. The characters before it are given nearest first. -/
def endsWord (before after : List Char) : Bool :=
  meetsCased before && !meetsCased after

/-- The lower-case form of a character in its place: `before` is what precedes it, nearest first,
and `after` what follows. -/
def lowerAt (before : List Char) (c : Char) (after : List Char) : List Char :=
  if c.toNat = 0x3A3 then [if endsWord before after then Char.ofNat 0x3C2 else Char.ofNat 0x3C3]
  else if c.toNat = 0x130 then ['i', Char.ofNat 0x307]
  else [lowerChar c]

/-- Lower-cases what is left of a text, `before` being the part already passed, nearest first. -/
def lowerFrom (before : List Char) : List Char → List Char
  | [] => []
  | c :: after => lowerAt before c after ++ lowerFrom (c :: before) after

/-- **Lower case.** The full lower-case form of a text. -/
def lower (s : String) : String :=
  String.ofList (lowerFrom [] s.toList)

end MapExport.Text
