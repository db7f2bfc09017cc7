import MapExport.Text.Blank

/-!
# What a mail server answers

An answer is a code and one or more lines. Each line repeats the code; after it stands a hyphen if more
lines follow and a blank if not. A code of four hundred or more is a refusal. In a refusal the lines may
begin with a status of three numbers, which need not be read again when it is that of the first line.
-/

set_option autoImplicit false

namespace MapExport

/-- **What the server answers:** a code and its lines. -/
structure MailAnswer where
  code : Nat
  lines : List String
  deriving DecidableEq, Repr

namespace MailAnswer

/-- **Why an answer cannot be read:** something stands where it may not, the lines have several codes, or
the answer does not end. -/
inductive Fault where
  | unexpected (rest : List Char)
  | severalCodes
  | unfinished
  deriving DecidableEq, Repr

/-- The text of a fault. -/
def Fault.message : Fault → String
  | .unexpected rest => "error Tag at: " ++ String.ofList rest
  | .severalCodes => "error Not at: "
  | .unfinished => "incomplete response"

/-- Reads from the characters that are left. -/
abbrev Reader := StateT (List Char) (Except Fault)

/-- A digit between two numbers. -/
def digit (least greatest : Nat) : Reader Nat := do
  match ← get with
  | [] => throw .unfinished
  | c :: cs =>
    let n := c.toNat - '0'.toNat
    if c.isDigit && least ≤ n && n ≤ greatest then
      set cs
      return n
    else throw (.unexpected (c :: cs))

/-- A code. -/
def code? : Reader Nat := do
  return 100 * (← digit 2 5) + 10 * (← digit 0 5) + (← digit 0 9)

/-- The characters before the end of a line, and those after it. -/
def spanLine? : List Char → Option (List Char × List Char)
  | [] => none
  | '\r' :: '\n' :: cs => some ([], cs)
  | c :: cs => (spanLine? cs).map fun (line, rest) => (c :: line, rest)

/-- What is left of a line. -/
def lineText : Reader String := do
  match spanLine? (← get) with
  | none => throw .unfinished
  | some (line, rest) =>
    set rest
    return String.ofList line

/-- A line: whether it is the last one, its code and its text. -/
def line : Reader (Bool × Nat × String) := do
  let code ← code?
  match ← get with
  | [] => throw .unfinished
  | c :: cs =>
    if c = '-' ∨ c = ' ' then
      set cs
      return (c == ' ', code, ← lineText)
    else throw (.unexpected (c :: cs))

/-- At most so many lines, of which some have been read. -/
def linesFrom : Nat → List (Nat × String) → Reader MailAnswer
  | 0, _ => throw .unfinished
  | n + 1, earlier => do
    let (last, code, text) ← line
    if last then
      if earlier.all (·.1 == code) then return ⟨code, earlier.map (·.2) ++ [text]⟩
      else throw .severalCodes
    else linesFrom n (earlier ++ [(code, text)])

/-- **Reading an answer** that is all of a text. -/
def ofChars (cs : List Char) : Except Fault MailAnswer :=
  ((linesFrom (cs.length + 1) []).run cs).map (·.1)

/-- A text as it arrives, line end by line end. -/
def arrivals : List Char → List (List Char)
  | [] => []
  | '\n' :: cs => ['\n'] :: arrivals cs
  | c :: cs =>
    match arrivals cs with
    | [] => [[c]]
    | l :: ls => (c :: l) :: ls

/-- Reads an answer as soon as it is complete; what arrives after it is left. -/
def readFrom (heard : List Char) : List (List Char) → Except Fault (MailAnswer × List (List Char))
  | [] => .error .unfinished
  | l :: ls =>
    match ofChars (heard ++ l) with
    | .ok a => .ok (a, ls)
    | .error .unfinished => readFrom (heard ++ l) ls
    | .error e => .error e

/-- **The first answer** in what has arrived, and what is left. -/
def read (arrived : List Char) : Except Fault (MailAnswer × List Char) :=
  (readFrom [] (arrivals arrived)).map fun (a, ls) => (a, ls.flatten)

/-- Whether the server refuses. -/
def isRefusal (a : MailAnswer) : Bool := 400 ≤ a.code

/-- Whether a refusal is for now only. -/
def isTransient (a : MailAnswer) : Bool := a.code < 500

/-- The words of a line. -/
def words (line : String) : List String :=
  let pieces := line.toList.splitBy fun a b => Text.isBlank a == Text.isBlank b
  (pieces.filter fun p => !p.all Text.isBlank).map String.ofList

/-- The first word of an answer. -/
def firstWord? (a : MailAnswer) : Option String := (a.lines.headD "" |> words).head?

/-- Whether a word is a status: a digit and two more numbers, with dots between them. -/
def isStatus (word : String) : Bool :=
  let isNumber (most : Nat) (p : String) : Bool :=
    p != "" && p.length ≤ most && p.toList.all Char.isDigit
  match word.splitOn "." with
  | [a, b, c] => isNumber 1 a && isNumber 3 b && isNumber 3 c
  | _ => false

/-- A line without the status before it. -/
def withoutStatus (status line : String) : String :=
  match line.splitOn " " with
  | w :: rest => if w == status && isStatus status then " ".intercalate rest else line
  | [] => line

/-- **What the server says,** in one line. -/
def said (a : MailAnswer) : String :=
  match a.lines with
  | [] => ""
  | first :: more =>
    " ".intercalate (first :: more.map (withoutStatus ((first.splitOn " ").headD "")))

/-- The text of a refusal. -/
def text (a : MailAnswer) : String :=
  (if a.isTransient then "transient error (" else "permanent error (") ++ toString a.code ++ "): " ++
    a.said

end MailAnswer

end MapExport
