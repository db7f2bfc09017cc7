import MapExport.Json.Scan.Numeral
import MapExport.Json.Scan.Quoted

/-!
# Passing over a value

The value of a name that nobody asked for is passed over, to any depth. It is held to the form of a
document more loosely than a value that is kept: its texts need not decode, its numbers need not fit,
and a comma too many is reported as what is missing after it.
-/

set_option autoImplicit false

namespace MapExport.Json

/-- The name of a member that is passed over, and its colon; the symbols start where the name
should. -/
def skipName (cs : Symbols) : Except Fault Symbols := do
  match skipSpaces cs with
  | [] => .error .endOfObject
  | c :: rest => if c = some '"' then readColon (← skipQuoted rest) else .error .keyNotText

mutual

/-- Passes over a value; `fuel` bounds the symbols it takes. -/
def skipValueFrom : Nat → Symbols → Except Fault Symbols
  | 0, _ => .error .endOfValue
  | fuel + 1, cs =>
    match skipSpaces cs with
    | [] => .error .endOfValue
    | some 'n' :: rest => readWord ['u', 'l', 'l'] rest
    | some 't' :: rest => readWord ['r', 'u', 'e'] rest
    | some 'f' :: rest => readWord ['a', 'l', 's', 'e'] rest
    | some '-' :: rest => skipNumber rest
    | some '"' :: rest => skipQuoted rest
    | some '[' :: rest =>
      match skipSpaces rest with
      | [] => .error .endOfList
      | some ']' :: rest => .ok rest
      | rest => do skipItemsFrom fuel (← skipValueFrom fuel rest)
    | some '\x7b' :: rest =>
      match skipSpaces rest with
      | [] => .error .endOfObject
      | some '\x7d' :: rest => .ok rest
      | rest => do skipMembersFrom fuel (← skipValueFrom fuel (← skipName rest))
    | c :: rest => if isDigit c then skipNumber (c :: rest) else .error .expectedValue

/-- Passes over what follows an item of a list, to its end. -/
def skipItemsFrom : Nat → Symbols → Except Fault Symbols
  | 0, _ => .error .endOfList
  | fuel + 1, cs =>
    match skipSpaces cs with
    | [] => .error .endOfList
    | some ']' :: rest => .ok rest
    | some ',' :: rest => do skipItemsFrom fuel (← skipValueFrom fuel rest)
    | _ => .error .expectedCommaOrBracket

/-- Passes over what follows a member of a record, to its end. -/
def skipMembersFrom : Nat → Symbols → Except Fault Symbols
  | 0, _ => .error .endOfObject
  | fuel + 1, cs =>
    match skipSpaces cs with
    | [] => .error .endOfObject
    | some '\x7d' :: rest => .ok rest
    | some ',' :: rest => do
      skipMembersFrom fuel (← skipValueFrom fuel (← skipName rest))
    | _ => .error .expectedCommaOrBrace

end

/-- **Passing over a value.** -/
def skipValue (cs : Symbols) : Except Fault Symbols := skipValueFrom (cs.length + 1) cs

end MapExport.Json
