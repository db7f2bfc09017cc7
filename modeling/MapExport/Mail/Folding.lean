import MapExport.Text.Base64
import MapExport.Text.Utf8

/-!
# Folding

The lines of a letter's head are kept to seventy-six characters where that can be done. A line is broken at
blanks only: they begin the next line instead of standing in this one. Text that a head cannot hold is
written as words of its own, whose bytes are spelt in sixty-four characters, and as much of it goes
into a line as fits.
-/

set_option autoImplicit false

namespace MapExport

/-- **Text being folded:** the lines that are finished, the one being written, the blanks that are due
before the next word, and whether the line may be broken. -/
structure Folding where
  finished : List String
  line : String
  blanks : Nat
  breakable : Bool
  deriving DecidableEq, Repr

namespace Folding

/-- The length that lines should not exceed. -/
def width : Nat := 76

/-- Text that begins with the name of a field. -/
def start (name : String) : Folding := ⟨[], name ++ ": ", 0, false⟩

/-- The length of the line with the blanks that are due. -/
def reach (f : Folding) : Nat := f.line.utf8ByteSize + f.blanks

/-- One more blank is due. -/
def blank (f : Folding) : Folding := { f with blanks := f.blanks + 1 }

/-- Writes a text into the line. -/
def write (f : Folding) (s : String) : Folding :=
  { f with
    line := f.line ++ String.ofList (List.replicate f.blanks ' ') ++ s
    blanks := 0
    breakable := true }

/-- Begins a line. -/
def nextLine (f : Folding) : Folding :=
  { f with finished := f.finished ++ [f.line], line := "", breakable := false }

/-- Writes a word, into the next line if it does not fit into this one and there is a blank before it. -/
def word (f : Folding) (s : String) : Folding :=
  if s = "" then f
  else if f.breakable ∧ 1 ≤ f.blanks ∧ width < f.reach + s.utf8ByteSize then f.nextLine.write s
  else f.write s

/-- Writes words with blanks between them. -/
def words (f : Folding) : List String → Folding
  | [] => f
  | [w] => f.word w
  | w :: ws => words (f.word w).blank ws

/-- **Writing a text,** folded at its blanks. -/
def text (f : Folding) (s : String) : Folding := f.words (s.splitOn " ")

/-- What stands before the bytes of an encoded word. -/
def opening : String := "=?utf-8?b?"

/-- What stands after them. -/
def closing : String := "?="

/-- How many bytes an encoded word may have in this line. -/
def room (f : Folding) : Nat :=
  (width - (f.reach + opening.length + closing.length + 2)) / 4 * 3

/-- The first characters whose bytes are at most so many. -/
def within : Nat → List Char → List Char
  | _, [] => []
  | n, c :: cs => if c.utf8Size ≤ n then c :: within (n - c.utf8Size) cs else []

/-- An encoded word. -/
def encodedWord (cs : List Char) : String :=
  opening ++ String.ofList (Text.base64Chars (Text.bytesOfText (String.ofList cs))) ++ closing

/-- Writes characters as encoded words, in at most so many steps. -/
def encodeFrom : Nat → List Char → Folding → Folding
  | 0, _, f => f
  | _, [], f => f
  | n + 1, c :: cs, f =>
    match within f.room (c :: cs) with
    | [] =>
      if f.breakable ∨ 1 ≤ f.blanks then encodeFrom n (c :: cs) { f.nextLine with blanks := 1 }
      else encodeFrom n cs (f.write (encodedWord [c]))
    | piece => encodeFrom n ((c :: cs).drop piece.length) (f.write (encodedWord piece))

/-- **Writing a text** as encoded words. -/
def encode (f : Folding) (s : String) : Folding := encodeFrom (2 * s.length) s.toList f

/-- The lines. Blanks that are due at the end are never written. -/
def lines (f : Folding) : List String := f.finished ++ [f.line]

end Folding

end MapExport
