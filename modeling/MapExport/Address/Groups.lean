import MapExport.Text.Number

/-!
# Sixteen bytes

The long form of a host's number is eight groups of up to four hexadecimal digits, with colons between
them. One run of groups that are zero may be left out, which leaves two colons, and the last two groups
may be written as four decimal numbers. The usual form leaves out the longest run.
-/

set_option autoImplicit false

namespace MapExport.Address

/-- How many groups there are. -/
def groupCount : Nat := 8

/-- A group. -/
def group? (cs : List Char) : Option Nat :=
  if cs.isEmpty ∨ 4 < cs.length then none else Text.hexNumber? cs

/-- A number below two hundred and fifty-six, without zeros before it. -/
def byte? (cs : List Char) : Option Nat :=
  if 1 < cs.length ∧ cs.head? = some '0' then none
  else if 3 < cs.length then none
  else (Text.digitsNumber? cs).filter (· < 256)

/-- The two groups that four numbers write. -/
def fourBytes? (cs : List Char) : Option (List Nat) :=
  match (cs.splitOn '.').mapM byte? with
  | some [a, b, c, d] => some [a * 256 + b, c * 256 + d]
  | _ => none

/-- Groups with colons between them; the last two may be written as four numbers. -/
def groupList? : List (List Char) → Option (List Nat)
  | [] => some []
  | [last] => if last.contains '.' then fourBytes? last else (group? last).map ([·])
  | g :: rest => do some ((← group? g) :: (← groupList? rest))

/-- The groups of a text that may be empty. -/
def someGroups? (cs : List Char) : Option (List Nat) :=
  if cs.isEmpty then some [] else groupList? (cs.splitOn ':')

/-- Splits at the first two colons. -/
def splitGap? : List Char → Option (List Char × List Char)
  | ':' :: ':' :: cs => some ([], cs)
  | c :: cs => (splitGap? cs).map fun (front, back) => (c :: front, back)
  | [] => none

/-- **The eight groups** of a number. What is left out is one group at least. -/
def groups? (cs : List Char) : Option (List Nat) :=
  match splitGap? cs with
  | none => (someGroups? cs).filter (·.length == groupCount)
  | some (front, back) => do
    if front.contains '.' then none
    let front ← someGroups? front
    let back ← someGroups? back
    if groupCount ≤ front.length + back.length then none
    some (front ++ List.replicate (groupCount - front.length - back.length) 0 ++ back)

/-- How many groups from the start are zero. -/
def zeros (groups : List Nat) : Nat := (groups.takeWhile (· == 0)).length

/-- Where the longest run of zeros begins, and how long it is; of several the first. -/
def longestGap : Nat → List Nat → Nat × Nat
  | _, [] => (0, 0)
  | place, g :: rest =>
    let later := longestGap (place + 1) rest
    if later.2 ≤ zeros (g :: rest) then (place, zeros (g :: rest)) else later

/-- Groups with colons between them. -/
def joinGroups (groups : List Nat) : String :=
  ":".intercalate (groups.map fun g => String.ofList (Text.hexDigits g))

/-- **The usual form** of eight groups. -/
def groupText (groups : List Nat) : String :=
  let (place, length) := longestGap 0 groups
  if length < 2 then joinGroups groups
  else joinGroups (groups.take place) ++ "::" ++ joinGroups (groups.drop (place + length))

end MapExport.Address
