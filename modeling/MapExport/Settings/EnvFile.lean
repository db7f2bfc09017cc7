import MapExport.Settings.Basic
import MapExport.Text.LetterTables

/-!
# The environment file

A file next to the service may hold further variables, a line for each. It fills gaps only: a variable
that is already set stays as it is. A value may be quoted, strongly or weakly, may hold escapes outside
of strong quotes, and may refer to variables by a dollar sign; a comment may follow it. The first line
that cannot be read ends the file, and the lines before it count.
-/

set_option autoImplicit false

namespace MapExport.EnvFile

/-- Whether a reference to a variable is being read, bare or between braces. -/
inductive Reference where
  | none
  | bare
  | braced
  deriving DecidableEq, Repr

/-- **The state of reading a value:** the quotes it is in, what has been read of it, and of a reference
inside of it, both nearest first. -/
structure State where
  strong : Bool
  weak : Bool
  escaped : Bool
  ended : Bool
  reference : Reference
  name : List Char
  output : List Char
  deriving DecidableEq, Repr

/-- Nothing read yet. -/
def State.start : State := ⟨false, false, false, false, .none, [], []⟩

/-- Puts a character to the value. -/
def State.put (s : State) (c : Char) : State := { s with output := c :: s.output }

/-- A character that can stand in a bare reference. -/
def isNameChar (c : Char) : Bool := Text.isLetterOrDigit c

/-- The value of the variable that has been referred to, put in place. -/
def State.resolve (lookup : String → String) (s : State) : State :=
  { s with
    output := (lookup (String.ofList s.name.reverse)).toList.reverse ++ s.output
    name := [] }

/-- A character after a backslash. -/
def State.escape? (s : State) (c : Char) : Option State :=
  if c = '\\' ∨ c = '\'' ∨ c = '"' ∨ c = '$' ∨ c = ' ' then
    some { s.put c with escaped := false }
  else if c = 'n' then some { s.put '\n' with escaped := false }
  else none

/-- A character inside a reference. -/
def State.refer (lookup : String → String) (s : State) (c : Char) : State :=
  if isNameChar c then { s with name := c :: s.name }
  else
    match s.reference with
    | .braced =>
      if c = '\x7d' then { s.resolve lookup with reference := .none }
      else { s with name := c :: s.name }
    | _ =>
      if c = '\x7b' ∧ s.name = [] then { s with reference := .braced }
      else if c = '$' then { s.resolve lookup with reference := .bare }
      else { (s.resolve lookup).put c with reference := .none }

/-- A character outside of escapes, strong quotes and references. -/
def State.plain (s : State) (c : Char) : State :=
  if c = '$' then { s with reference := .bare }
  else if s.weak then
    if c = '"' then { s with weak := false }
    else if c = '\\' then { s with escaped := true }
    else s.put c
  else if c = '\'' then { s with strong := true }
  else if c = '"' then { s with weak := true }
  else if c = '\\' then { s with escaped := true }
  else if c = ' ' ∨ c = '\t' then { s with ended := true }
  else s.put c

/-- **The value of a line.** After its end only blanks and a comment may follow. -/
def valueFrom (lookup : String → String) : State → List Char → Option String
  | s, [] =>
    if s.reference = .braced ∨ s.strong ∨ s.weak then none
    else some (String.ofList (s.resolve lookup).output.reverse)
  | s, c :: cs =>
    if s.ended then
      if c = ' ' ∨ c = '\t' then valueFrom lookup s cs
      else if c = '#' then valueFrom lookup s []
      else none
    else if s.escaped then (s.escape? c).bind fun s => valueFrom lookup s cs
    else if s.strong then
      valueFrom lookup (if c = '\'' then { s with strong := false } else s.put c) cs
    else if s.reference ≠ .none then valueFrom lookup (s.refer lookup c) cs
    else valueFrom lookup (s.plain c) cs

/-- The name of a variable at the start of a line, and what follows it. -/
def key? (cs : List Char) : Option (String × List Char) :=
  match cs with
  | c :: _ =>
    if c.isAlpha || c == '_' then
      let isKey (c : Char) : Bool := c.isAlphanum || c == '_' || c == '.'
      some (String.ofList (cs.takeWhile isKey), Text.dropBlanks (cs.dropWhile isKey))
    else none
  | [] => none

/-- The name of a variable up to its equals sign, and what follows that. The word `export` may stand
before it. -/
def assignment? (cs : List Char) : Option (String × List Char) :=
  match key? cs with
  | some (key, '=' :: rest) => some (key, rest)
  | some ("export", rest) =>
    match key? rest with
    | some (key, '=' :: rest) => some (key, rest)
    | _ => none
  | _ => none

/-- **One line:** nothing, a variable and its value, or `none` for one that cannot be read. -/
def line? (lookup : String → String) (cs : List Char) : Option (Option (String × String)) :=
  match Text.dropBlanks (Text.dropBlanksRight cs) with
  | [] => some none
  | '#' :: _ => some none
  | cs =>
    match assignment? cs with
    | none => none
    | some (key, rest) =>
      match Text.dropBlanks rest with
      | [] => some (some (key, ""))
      | '#' :: _ => some (some (key, ""))
      | value => (valueFrom lookup .start value).map fun v => some (key, v)

/-- The lines of a file. -/
def lines (content : String) : List (List Char) :=
  (content.toList.splitOn '\n').map fun l =>
    if l.getLast? = some '\r' then l.dropLast else l

/-- The value that a reference stands for: that of the environment, or of an earlier line. -/
def lookupIn (env : Environment) (earlier : Environment) (name : String) : String :=
  ((env.get? name).orElse fun _ => earlier.get? name).getD ""

/-- Goes through the lines, the latest assignment of each name being kept in front of `earlier`. -/
def fillFrom (env earlier : Environment) : List (List Char) → Environment
  | [] => env
  | l :: ls =>
    match line? (lookupIn env earlier) l with
    | none => env
    | some none => fillFrom env earlier ls
    | some (some (key, value)) =>
      fillFrom (if (env.get? key).isSome then env else env ++ [(key, value)])
        ((key, value) :: earlier) ls

/-- **Filling the gaps** of an environment from a file. -/
def fill (env : Environment) (content : String) : Environment := fillFrom env [] (lines content)

end MapExport.EnvFile
