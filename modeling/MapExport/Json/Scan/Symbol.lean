import MapExport.Json.Fault

/-!
# The symbols of a text that is read

A document may arrive as bytes, and the bytes may be no text. The reader therefore looks at symbols: a
symbol is a character, or `none` for a byte that belongs to no character. Such a byte is a fault only
inside a quoted text that is kept; elsewhere it is one more thing that was not expected.

The reader goes through the symbols once, from left to right, and the first fault it meets is the one
reported. A step that reads something gives it together with the symbols that are left.
-/

set_option autoImplicit false

namespace MapExport.Json

/-- The symbols of a text. -/
abbrev Symbols := List (Option Char)

/-- A text that is known to be one, as symbols. -/
def symbolsOf (s : String) : Symbols := s.toList.map some

/-- White space between the parts of a document: four ASCII characters. -/
def isSpace (c : Option Char) : Bool :=
  c == some ' ' || c == some '\n' || c == some '\t' || c == some '\r'

/-- The symbols from the first one that is not white space. -/
def skipSpaces (cs : Symbols) : Symbols := cs.dropWhile isSpace

/-- Whether a symbol is a decimal digit. -/
def isDigit (c : Option Char) : Bool :=
  match c with
  | some c => c.isDigit
  | none => false

/-- The value of a decimal digit. -/
def digitValue (c : Option Char) : Nat :=
  match c with
  | some c => c.toNat - 48
  | none => 0

/-- Whether the symbols begin with a decimal digit. -/
def startsWithDigit (cs : Symbols) : Bool :=
  match cs with
  | [] => false
  | c :: _ => isDigit c

/-- The rest of a word whose first letter announced it. -/
def readWord : List Char → Symbols → Except Fault Symbols
  | [], cs => .ok cs
  | _ :: _, [] => .error .endOfValue
  | w :: ws, c :: cs => if c = some w then readWord ws cs else .error .expectedWord

/-- The colon between a name and its value. -/
def readColon (cs : Symbols) : Except Fault Symbols :=
  match skipSpaces cs with
  | [] => .error .endOfObject
  | c :: rest => if c = some ':' then .ok rest else .error .expectedColon

end MapExport.Json
