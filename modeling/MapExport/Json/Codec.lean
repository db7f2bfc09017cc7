import MapExport.Json.Read
import MapExport.Json.Scan.Skip
import MapExport.Instant.Print

/-!
# Codecs

A codec says how the values of a type stand in documents. It prints a value, reads one from a text as
it goes through the symbols, and takes one from a document that has already been read. The two ways of
reading accept the same values and differ in what they report: the first reports the first fault of
the text, whether of form or of content, the second knows only content.

This module has the codecs of the simple types and the ways to build one from others; records with
named fields are in `Json.Record`.
-/

set_option autoImplicit false

namespace MapExport.Json

/-- **Where a document comes from** that a value is taken from: it stands for itself, or it was put
aside while a text was read. Lists that are too long are reported differently. -/
inductive Source where
  | document
  | aside
  deriving DecidableEq, Repr

/-- The length that is reported as expected when only `n` items of a longer list could be used. -/
def Source.limit (n : Nat) : Source → Extent
  | .document => .fewer
  | .aside => .atMost n

/-- **A codec** for a type. -/
structure Codec (α : Type) where
  print : α → Json
  read : (levels : Nat) → Symbols → Except Fault (α × Symbols)
  take : Source → Json → Except Fault α

/-- The kind of a document. -/
def kind : Json → Kind
  | .null => .null
  | .bool b => .bool b
  | .whole n => .whole n
  | .real x => .real x
  | .text s => .text s
  | .list _ => .list
  | .record _ => .record

/-- A document of the wrong kind. -/
def misfit (expected : Shape) (j : Json) : Fault := .wrongKind j.kind expected

/-- What is wrong with a value in a text that is not of the expected kind. A word, a number or a text
is read before it is judged; of a list or a record the bracket is enough. -/
def misread (expected : Shape) (cs : Symbols) : Fault :=
  let judge (found : Except Fault Kind) : Fault :=
    match found with
    | .ok k => .wrongKind k expected
    | .error e => e
  match cs with
  | some 'n' :: rest => judge ((readWord ['u', 'l', 'l'] rest).map fun _ => .null)
  | some 't' :: rest => judge ((readWord ['r', 'u', 'e'] rest).map fun _ => .bool true)
  | some 'f' :: rest => judge ((readWord ['a', 'l', 's', 'e'] rest).map fun _ => .bool false)
  | some '-' :: rest => judge ((readNumber true rest).map fun (j, _) => j.kind)
  | some '"' :: rest => judge ((readQuoted rest).map fun (s, _) => .text s)
  | some '[' :: _ => .wrongKind .list expected
  | some '\x7b' :: _ => .wrongKind .record expected
  | c :: rest =>
    if isDigit c then judge ((readNumber false (c :: rest)).map fun (j, _) => j.kind)
    else .expectedValue
  | [] => .expectedValue

/-- A value has to begin somewhere: what follows the white space, if anything does. -/
def atValue (cs : Symbols) : Except Fault Symbols :=
  match skipSpaces cs with
  | [] => .error .endOfValue
  | rest => .ok rest

/-- Reads a quoted text where one is expected. -/
def readText (expected : Shape) (cs : Symbols) : Except Fault (String × Symbols) := do
  match ← atValue cs with
  | some '"' :: rest => readQuoted rest
  | rest => .error (misread expected rest)

namespace Codec

/-- Reads a value that is a whole text. -/
def decode {α : Type} (c : Codec α) (cs : Symbols) : Except Fault α :=
  readWhole (c.read maxLevels) cs

/-- Reads a value that is a whole text, given as a string. -/
def ofText {α : Type} (c : Codec α) (s : String) : Except Fault α := c.decode (symbolsOf s)

/-- Takes a value from a document. -/
def ofJson {α : Type} (c : Codec α) (j : Json) : Except Fault α := c.take .document j

/-- Values that are written as text in a form of their own. -/
def written {α : Type} (expected : Shape) (print : α → String) (parse : String → Except Fault α) :
    Codec α where
  print a := .text (print a)
  read _ cs := do
    let (s, rest) ← readText expected cs
    .ok (← parse s, rest)
  take _ j :=
    match j with
    | .text s => parse s
    | j => .error (misfit expected j)

/-- Texts. -/
def text : Codec String := written .text id .ok

/-- Identifiers. -/
def uid : Codec Uid := written .uid Uid.text fun s => (Uid.ofText s).mapError .uid

/-- Instants. -/
def instant : Codec Instant :=
  written .instant Instant.text fun s => (Instant.ofText s).mapError .instant

/-- Truth values. -/
def bool : Codec Bool where
  print := .bool
  read _ cs := do
    match ← atValue cs with
    | some 't' :: rest => .ok (true, ← readWord ['r', 'u', 'e'] rest)
    | some 'f' :: rest => .ok (false, ← readWord ['a', 'l', 's', 'e'] rest)
    | rest => .error (misread .bool rest)
  take _ j :=
    match j with
    | .bool b => .ok b
    | j => .error (misfit .bool j)

/-- The double of a number of either kind. -/
def realOf (j : Json) : Except Fault Float :=
  match j with
  | .whole n => .ok (Float.ofInt n)
  | .real x => .ok x
  | j => .error (misfit .real j)

/-- Doubles. A whole number is one too. -/
def real : Codec Float where
  print := .real
  read _ cs := do
    match ← atValue cs with
    | some '-' :: rest =>
      let (j, rest) ← readNumber true rest
      .ok (← realOf j, rest)
    | c :: rest =>
      if isDigit c then
        let (j, rest) ← readNumber false (c :: rest)
        .ok (← realOf j, rest)
      else .error (misread .real (c :: rest))
    | [] => .error .endOfValue
  take _ j := realOf j

/-- Nothing, written as null. -/
def nothing : Codec Unit where
  print _ := .null
  read _ cs := do
    match ← atValue cs with
    | some 'n' :: rest => .ok ((), ← readWord ['u', 'l', 'l'] rest)
    | rest => .error (misread .nothing rest)
  take _ j :=
    match j with
    | .null => .ok ()
    | j => .error (misfit .nothing j)

/-- Values that may be absent; absence is written as null. -/
def option {α : Type} (c : Codec α) : Codec (Option α) where
  print
    | none => .null
    | some a => c.print a
  read levels cs :=
    match skipSpaces cs with
    | some 'n' :: rest => (readWord ['u', 'l', 'l'] rest).map fun rest => (none, rest)
    | rest => (c.read levels rest).map fun (a, rest) => (some a, rest)
  take source j :=
    match j with
    | .null => .ok none
    | j => (c.take source j).map some

/-- Lists. -/
def list {α : Type} (c : Codec α) : Codec (List α) where
  print as := .list (as.map c.print)
  read levels cs := do
    match ← atValue cs, levels with
    | some '[' :: _, 0 => .error .recursionLimit
    | some '[' :: rest, n + 1 => readItems (c.read n) (rest.length + 1) true rest
    | rest, _ => .error (misread .list rest)
  take source j :=
    match j with
    | .list js => js.mapM (c.take source)
    | j => .error (misfit .list j)

/-- The item of a pair at a place, which has to be there. -/
def readPairItem {α : Type} (c : Codec α) (levels place : Nat) (cs : Symbols) :
    Except Fault (α × Symbols) := do
  match ← nextItem (place == 0) cs with
  | (false, _) => .error (.wrongLength place .pair)
  | (true, rest) => c.read levels rest

/-- Pairs, written as lists of two. -/
def pair {α : Type} (c : Codec α) : Codec (α × α) where
  print | (a, b) => .list [c.print a, c.print b]
  read levels cs := do
    match ← atValue cs, levels with
    | some '[' :: _, 0 => .error .recursionLimit
    | some '[' :: rest, n + 1 =>
      let (a, rest) ← readPairItem c n 0 rest
      let (b, rest) ← readPairItem c n 1 rest
      .ok ((a, b), ← endList rest)
    | rest, _ => .error (misread .pair rest)
  take source j :=
    match j with
    | .list (i :: js) => do
      let a ← c.take source i
      match js with
      | [] => .error (.wrongLength 1 .pair)
      | k :: more =>
        let b ← c.take source k
        if more.isEmpty then .ok (a, b)
        else .error (.wrongLength (more.length + 2) (source.limit 2))
    | .list [] => .error (.wrongLength 0 .pair)
    | j => .error (misfit .pair j)

/-- Puts an entry among others that are ordered by name; of two with one name the later stays. -/
def putEntry {α : Type} (name : String) (a : α) : List (String × α) → List (String × α)
  | [] => [(name, a)]
  | (n, b) :: rest =>
    if name < n then (name, a) :: (n, b) :: rest
    else if name = n then (name, a) :: rest
    else (n, b) :: putEntry name a rest

/-- A member of a table. -/
def readEntry {α : Type} (c : Codec α) (levels : Nat) (entries : List (String × α)) (name : String)
    (cs : Symbols) : Except Fault (List (String × α) × Symbols) := do
  let (a, rest) ← c.read levels (← readColon cs)
  .ok (putEntry name a entries, rest)

/-- Tables with an entry for each name, ordered by name. -/
def table {α : Type} (c : Codec α) : Codec (List (String × α)) where
  print entries := .record (entries.map fun (n, a) => (n, c.print a))
  read levels cs := do
    match ← atValue cs, levels with
    | some '\x7b' :: _, 0 => .error .recursionLimit
    | some '\x7b' :: rest, n + 1 => readMembers (readEntry c n) (rest.length + 1) true [] rest
    | rest, _ => .error (misread .map rest)
  take source j :=
    match j with
    | .record members =>
      members.foldlM (fun entries (n, j) => do .ok (putEntry n (← c.take source j) entries)) []
    | j => .error (misfit .map j)

/-- The value of a name among those that are known. -/
def known {α : Type} (names : List (String × α)) (name : String) : Except Fault α :=
  match names.find? (·.1 == name) with
  | some (_, a) => .ok a
  | none => .error (.unknownVariant name (names.map (·.1)))

/-- One of a few names. It may also be written as the only member of a record, its value null. -/
def choice {α : Type} (names : List (String × α)) (label : α → String) : Codec α where
  print a := .text (label a)
  read levels cs := do
    match ← atValue cs, levels with
    | some '\x7b' :: _, 0 => .error .recursionLimit
    | some '\x7b' :: rest, n + 1 =>
      let (name, rest) ← readText .choiceName rest
      let a ← known names name
      let ((), rest) ← nothing.read n (← readColon rest)
      match skipSpaces rest with
      | [] => .error .endOfObject
      | c :: rest => if c = some '\x7d' then .ok (a, rest) else .error .expectedValue
    | some '"' :: rest, _ =>
      let (name, rest) ← readQuoted rest
      .ok (← known names name, rest)
    | _, _ => .error .expectedValue
  take source j :=
    match j with
    | .text name => known names name
    | .record [(name, value)] => do
      let a ← known names name
      nothing.take source value
      .ok a
    | .record _ => .error .notOneKey
    | j => .error (misfit .choice j)

/-- The same documents for another type. -/
def via {α β : Type} (c : Codec α) (forth : α → β) (back : β → α) : Codec β where
  print b := c.print (back b)
  read levels cs := (c.read levels cs).map fun (a, rest) => (forth a, rest)
  take source j := (c.take source j).map forth

end Codec

end MapExport.Json
