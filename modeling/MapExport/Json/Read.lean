import MapExport.Json.Scan.Numeral
import MapExport.Json.Scan.Sequence

/-!
# Reading a document

A value of any kind. Lists and records may be nested to a fixed depth; `levels` is how many of them may
still be entered.
-/

set_option autoImplicit false

namespace MapExport.Json

/-- How deep lists and records may be nested. -/
def maxLevels : Nat := 127

/-- A member of a record of any kind: its colon, and its value. -/
def readMember (value : Symbols → Except Fault (Json × Symbols))
    (members : List (String × Json)) (name : String) (cs : Symbols) :
    Except Fault (List (String × Json) × Symbols) := do
  let (v, rest) ← value (← readColon cs)
  .ok (putMember name v members, rest)

/-- **A value of any kind.** Each level entered uses up one of `levels`. -/
def readValue : Nat → Symbols → Except Fault (Json × Symbols)
  | levels, cs =>
    match skipSpaces cs with
    | [] => .error .endOfValue
    | some 'n' :: rest => (readWord ['u', 'l', 'l'] rest).map fun rest => (.null, rest)
    | some 't' :: rest => (readWord ['r', 'u', 'e'] rest).map fun rest => (.bool true, rest)
    | some 'f' :: rest => (readWord ['a', 'l', 's', 'e'] rest).map fun rest => (.bool false, rest)
    | some '-' :: rest => readNumber true rest
    | some '"' :: rest => (readQuoted rest).map fun (s, rest) => (.text s, rest)
    | some '[' :: rest =>
      match levels with
      | 0 => .error .recursionLimit
      | n + 1 =>
        (readItems (readValue n) (rest.length + 1) true rest).map fun (js, rest) => (.list js, rest)
    | some '\x7b' :: rest =>
      match levels with
      | 0 => .error .recursionLimit
      | n + 1 =>
        (readMembers (readMember (readValue n)) (rest.length + 1) true [] rest).map
          fun (ms, rest) => (.record ms, rest)
    | c :: rest => if isDigit c then readNumber false (c :: rest) else .error .expectedValue

/-- What is read has to be the whole text, white space around it apart. -/
def readWhole {α : Type} (read : Symbols → Except Fault (α × Symbols)) (cs : Symbols) :
    Except Fault α := do
  let (x, rest) ← read cs
  if (skipSpaces rest).isEmpty then .ok x else .error .trailingCharacters

/-- **Reading a document.** -/
def ofSymbols (cs : Symbols) : Except Fault Json := readWhole (readValue maxLevels) cs

/-- Reading a document from a string. -/
def ofText (s : String) : Except Fault Json := ofSymbols (symbolsOf s)

end MapExport.Json
