import MapExport.Text.NormalTables

/-!
# Letters with marks

A letter with marks has one normal form: the marks are put into the order of their places, those of one
place staying as they are, and what is the same as one character is written as one. Korean syllables
are put together by their numbers.
-/

set_option autoImplicit false

namespace MapExport.Text

/-- The place where a mark is drawn; zero for what is no mark. -/
def place (c : Char) : Nat :=
  match placeRows.find? fun (first, last, _) => first ≤ c.toNat && c.toNat ≤ last with
  | some (_, _, p) => p
  | none => 0

/-! ## Korean syllables -/

/-- The first syllable. -/
def firstSyllable : Nat := 0xAC00

/-- The first initial. -/
def firstInitial : Nat := 0x1100

/-- The first vowel. -/
def firstVowel : Nat := 0x1161

/-- One before the first final. -/
def noFinal : Nat := 0x11A7

/-- How many initials, vowels and finals there are, no final being one of the finals. -/
def syllableParts : Nat × Nat × Nat := (19, 21, 28)

/-- The parts of a syllable. -/
def syllable? (n : Nat) : Option (List Char) :=
  let (initials, vowels, finals) := syllableParts
  if firstSyllable ≤ n ∧ n < firstSyllable + initials * vowels * finals then
    let k := n - firstSyllable
    let front := [Char.ofNat (firstInitial + k / (vowels * finals)),
      Char.ofNat (firstVowel + k % (vowels * finals) / finals)]
    some (if k % finals = 0 then front else front ++ [Char.ofNat (noFinal + k % finals)])
  else none

/-- The syllable of two parts of one. -/
def joinSyllable? (a b : Nat) : Option Char :=
  let (initials, vowels, finals) := syllableParts
  if firstInitial ≤ a ∧ a < firstInitial + initials ∧ firstVowel ≤ b ∧ b < firstVowel + vowels then
    some (Char.ofNat (firstSyllable + ((a - firstInitial) * vowels + (b - firstVowel)) * finals))
  else if firstSyllable ≤ a ∧ a < firstSyllable + initials * vowels * finals ∧
      (a - firstSyllable) % finals = 0 ∧ noFinal < b ∧ b < noFinal + finals then
    some (Char.ofNat (a + (b - noFinal)))
  else none

/-! ## Taking apart and putting together -/

/-- How often a character can be taken apart. -/
def deepest : Nat := 4

/-- The characters that are the same as one, taken apart at most so often. -/
def takeApart : Nat → Char → List Char
  | 0, c => [c]
  | n + 1, c =>
    match syllable? c.toNat with
    | some parts => parts
    | none =>
      match pairRows.find? fun (whole, _, _) => whole == c.toNat with
      | some (_, a, b) => takeApart n (Char.ofNat a) ++ [Char.ofNat b]
      | none => [c]

/-- Puts a mark before those with later places; the characters before it are given nearest first. -/
def placeMark (c : Char) : List Char → List Char
  | [] => [c]
  | d :: before =>
    if 0 < place c ∧ place c < place d then d :: placeMark c before else c :: d :: before

/-- Puts the marks into the order of their places. -/
def orderMarks (cs : List Char) : List Char := (cs.foldl (fun done c => placeMark c done) []).reverse

/-- The character that is the same as two. -/
def joined? (a b : Char) : Option Char :=
  match joinSyllable? a.toNat b.toNat with
  | some c => some c
  | none =>
    (pairRows.find? fun (_, first, second) => first == a.toNat && second == b.toNat).map
      fun (whole, _, _) => Char.ofNat whole

/-- Puts marks together with a letter. Those that have been passed are given nearest first; one of the same
or a later place among them keeps a mark from the letter. -/
def putTogether (letter : Char) (passed : List Char) : List Char → List Char
  | [] => letter :: passed.reverse
  | c :: cs =>
    let blocked := passed.head?.any fun d => place c ≤ place d
    match (if blocked then none else joined? letter c) with
    | some whole => putTogether whole passed cs
    | none =>
      if place c = 0 then letter :: passed.reverse ++ putTogether c [] cs
      else putTogether letter (c :: passed) cs

/-- **The normal form** of a text. -/
def normal (cs : List Char) : List Char :=
  let apart := orderMarks (cs.flatMap (takeApart deepest))
  match apart.span fun c => place c != 0 with
  | (marks, []) => marks
  | (marks, c :: rest) => marks ++ putTogether c [] rest

end MapExport.Text
