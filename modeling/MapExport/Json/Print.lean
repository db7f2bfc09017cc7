import MapExport.Decimal.Layout
import MapExport.Json.Basic
import MapExport.Text.Number

/-!
# The text of a document

Documents are written without white space, the members of a record in the order they are listed. Inside
a quoted text the quote, the backslash and the control characters are escaped, five of the controls by
a letter and the others by four hexadecimal digits; all else stands for itself.
-/

set_option autoImplicit false

namespace MapExport.Json

/-- One character of a quoted text. -/
def escape (c : Char) : List Char :=
  if c = '"' then ['\\', '"']
  else if c = '\\' then ['\\', '\\']
  else if c = '\n' then ['\\', 'n']
  else if c = '\r' then ['\\', 'r']
  else if c = '\t' then ['\\', 't']
  else if c.toNat = 8 then ['\\', 'b']
  else if c.toNat = 12 then ['\\', 'f']
  else if c.toNat < 32 then
    ['\\', 'u', '0', '0', Text.hexDigit (c.toNat / 16), Text.hexDigit (c.toNat % 16)]
  else [c]

/-- A quoted text. -/
def quotedChars (s : String) : List Char :=
  '"' :: s.toList.flatMap escape ++ ['"']

/-- A whole number. -/
def wholeChars (n : Int) : List Char :=
  match n with
  | .ofNat k => Nat.toDigits 10 k
  | .negSucc k => '-' :: Nat.toDigits 10 (k + 1)

mutual

/-- **The text of a document.** -/
def chars : Json → List Char
  | .null => ['n', 'u', 'l', 'l']
  | .bool true => ['t', 'r', 'u', 'e']
  | .bool false => ['f', 'a', 'l', 's', 'e']
  | .whole n => wholeChars n
  | .real x => Decimal.Layout.document.chars x
  | .text s => quotedChars s
  | .list [] => ['[', ']']
  | .list (j :: js) => '[' :: chars j ++ moreItems js
  | .record [] => ['\x7b', '\x7d']
  | .record ((n, j) :: rest) => '\x7b' :: quotedChars n ++ ':' :: chars j ++ moreMembers rest

/-- The items after the first one, and the closing bracket. -/
def moreItems : List Json → List Char
  | [] => [']']
  | j :: js => ',' :: chars j ++ moreItems js

/-- The members after the first one, and the closing brace. -/
def moreMembers : List (String × Json) → List Char
  | [] => ['\x7d']
  | (n, j) :: rest => ',' :: quotedChars n ++ ':' :: chars j ++ moreMembers rest

end

/-- The text of a document, as a string. -/
def render (j : Json) : String := String.ofList j.chars

end MapExport.Json
