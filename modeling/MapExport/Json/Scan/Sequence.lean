import MapExport.Json.Scan.Quoted

/-!
# Walking through lists and records

Both are walked item by item: the reader looks whether there is a next one, and what it does with it
is the business of the caller. The walks report the commas, brackets and names that are missing or too
many.
-/

set_option autoImplicit false

namespace MapExport.Json

/-- **The next item of a list.** The flag tells whether there is one; the symbols left start with it,
or with the closing bracket. -/
def nextItem (first : Bool) (cs : Symbols) : Except Fault (Bool × Symbols) :=
  match skipSpaces cs with
  | [] => .error .endOfList
  | c :: rest =>
    if c = some ']' then .ok (false, c :: rest)
    else if first then .ok (true, c :: rest)
    else if c = some ',' then
      match skipSpaces rest with
      | [] => .error .endOfValue
      | d :: rest => if d = some ']' then .error .trailingComma else .ok (true, d :: rest)
    else .error .expectedCommaOrBracket

/-- The end of a list of which enough has been read. -/
def endList (cs : Symbols) : Except Fault Symbols :=
  match skipSpaces cs with
  | [] => .error .endOfList
  | c :: rest =>
    if c = some ']' then .ok rest
    else if c = some ',' ∧ (skipSpaces rest).head? = some (some ']') then .error .trailingComma
    else .error .trailingCharacters

/-- **All items of a list,** its bracket having been read; `fuel` bounds their number. -/
def readItems {α : Type} (item : Symbols → Except Fault (α × Symbols)) :
    Nat → Bool → Symbols → Except Fault (List α × Symbols)
  | 0, _, _ => .error .endOfList
  | fuel + 1, first, cs => do
    match ← nextItem first cs with
    | (false, rest) => .ok ([], rest.drop 1)
    | (true, rest) =>
      let (x, rest) ← item rest
      let (xs, rest) ← readItems item fuel false rest
      .ok (x :: xs, rest)

/-- **The next name of a record,** or none at the closing brace. What follows the name is left. -/
def nextName (first : Bool) (cs : Symbols) : Except Fault (Option String × Symbols) :=
  match skipSpaces cs with
  | [] => .error .endOfObject
  | c :: rest =>
    if c = some '\x7d' then .ok (none, c :: rest)
    else if first then
      if c = some '"' then (readQuoted rest).map fun (n, rest) => (some n, rest)
      else .error .keyNotText
    else if c = some ',' then
      match skipSpaces rest with
      | [] => .error .endOfValue
      | d :: rest =>
        if d = some '"' then (readQuoted rest).map fun (n, rest) => (some n, rest)
        else if d = some '\x7d' then .error .trailingComma
        else .error .keyNotText
    else .error .expectedCommaOrBrace

/-- **All members of a record,** its brace having been read. `member` takes a name and what follows it
into the state; `fuel` bounds the number of members. -/
def readMembers {σ : Type} (member : σ → String → Symbols → Except Fault (σ × Symbols)) :
    Nat → Bool → σ → Symbols → Except Fault (σ × Symbols)
  | 0, _, _, _ => .error .endOfObject
  | fuel + 1, first, state, cs => do
    match ← nextName first cs with
    | (none, rest) => .ok (state, rest.drop 1)
    | (some name, rest) =>
      let (state, rest) ← member state name rest
      readMembers member fuel false state rest

end MapExport.Json
