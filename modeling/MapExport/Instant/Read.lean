import MapExport.Instant.Basic
import MapExport.Text.Blank

/-!
# Reading an instant

The reader is lenient in the form and strict in the range. Every field but the fraction and the offset
may have fewer digits than it is printed with, blanks may stand before a number and before a hyphen or
colon, the date and the time are parted by a `T` of either case or a blank, and the offset may be `Z`,
`UTC` or hours and minutes behind a sign. Seconds and offset are required.

Fields are judged in reading order, each for its own range as soon as it is read; that the date exists,
and that its offset leaves it within the calendar, is judged at the end.
-/

set_option autoImplicit false

namespace MapExport.Instant

/-- What is wrong with a text that is no instant. -/
inductive Fault where
  | outOfRange
  | impossible
  | invalid
  | tooShort
  | tooLong
  deriving DecidableEq, Repr

/-- The text of a fault. -/
def Fault.message : Fault → String
  | .outOfRange => "input is out of range"
  | .impossible => "no possible date and time matching input"
  | .invalid => "input contains invalid characters"
  | .tooShort => "premature end of input"
  | .tooLong => "trailing input"

/-- The digits at the start, at most `most` of them where a bound is given, and the rest. -/
def spanDigits (most : Option Nat) (cs : List Char) : List Char × List Char :=
  let within := match most with
    | some n => cs.take n
    | none => cs
  let ds := within.takeWhile Char.isDigit
  (ds, cs.drop ds.length)

/-- The number that decimal digits write. -/
def ofDigits (ds : List Char) : Nat :=
  ds.foldl (fun n c => 10 * n + (c.toNat - 48)) 0

/-- A number of one digit or more; one that exceeds sixty-three bits is out of range. -/
def number (most : Option Nat) (cs : List Char) : Except Fault (Nat × List Char) :=
  match spanDigits most cs with
  | ([], _) => .error (if cs.isEmpty then .tooShort else .invalid)
  | (ds, rest) => if ofDigits ds < Nat.pow 2 63 then .ok (ofDigits ds, rest) else .error .outOfRange

/-- A field of at most two digits within bounds, blanks before it skipped. -/
def field (low high : Nat) (cs : List Char) : Except Fault (Nat × List Char) := do
  let (n, rest) ← number (some 2) (Text.dropBlanks cs)
  if low ≤ n ∧ n ≤ high then .ok (n, rest) else .error .outOfRange

/-- A year: up to four digits, or a sign and any number of them. It has to fit thirty-two bits. -/
def year (cs : List Char) : Except Fault (Int × List Char) := do
  let (y, rest) ← match Text.dropBlanks cs with
    | '-' :: ds => (number none ds).map fun (n, rest) => (-(n : Int), rest)
    | '+' :: ds => (number none ds).map fun (n, rest) => ((n : Int), rest)
    | ds => (number (some 4) ds).map fun (n, rest) => ((n : Int), rest)
  if -2147483648 ≤ y ∧ y ≤ 2147483647 then .ok (y, rest) else .error .outOfRange

/-- A mark between two fields, blanks before it skipped. -/
def mark (c : Char) (cs : List Char) : Except Fault (List Char) :=
  match Text.dropBlanks cs with
  | [] => .error .tooShort
  | d :: rest => if d = c then .ok rest else .error .invalid

/-- What parts the date from the time. -/
def separator : List Char → Except Fault (List Char)
  | [] => .error .tooShort
  | c :: rest => if c = 'T' ∨ c = 't' ∨ c = ' ' then .ok rest else .error .invalid

/-- The fraction, in nanoseconds: what follows a point, digits beyond the ninth being dropped. -/
def fraction : List Char → Except Fault (Nat × List Char)
  | '.' :: cs => do
    let (ds, rest) := spanDigits (some 9) cs
    let _ ← number (some 9) cs
    .ok (ofDigits ds * Nat.pow 10 (9 - ds.length), rest.dropWhile Char.isDigit)
  | cs => .ok (0, cs)

/-- Two digits. A single character that is not ASCII
fills the place of two. -/
def twoDigits : List Char → Except Fault ((Char × Char) × List Char)
  | [] => .error .tooShort
  | [c] => .error (if c.toNat < 128 then .tooShort else .invalid)
  | a :: b :: rest => if a.isDigit && b.isDigit then .ok ((a, b), rest) else .error .invalid

/-- Hours and minutes of an offset, in seconds. Colons and blanks may part them. -/
def offsetMagnitude (cs : List Char) : Except Fault (Nat × List Char) := do
  let ((h, h'), rest) ← twoDigits cs
  let ((m, m'), rest) ← twoDigits (rest.dropWhile fun c => c == ':' || Text.isBlank c)
  if '5' < m then .error .outOfRange
  else .ok (ofDigits [h, h'] * 3600 + ofDigits [m, m'] * 60, rest)

/-- **The offset** from universal time, in seconds. -/
def offset (cs : List Char) : Except Fault (Int × List Char) :=
  match cs with
  | [] => .error .tooShort
  | c :: rest =>
    if (cs.take 3).map Char.toUpper = ['U', 'T', 'C'] then .ok (0, cs.drop 3)
    else if c = 'Z' ∨ c = 'z' then .ok (0, rest)
    else if c = '+' then (offsetMagnitude rest).map fun (n, rest) => ((n : Int), rest)
    else if c = '-' ∨ c.toNat = 0x2212 then
      (offsetMagnitude rest).map fun (n, rest) => (-(n : Int), rest)
    else .error .invalid

/-- The date and the time of day that a text begins with, the offset not yet taken off. -/
structure Local where
  date : Date
  second : Nat
  nano : Nat
  offset : Int
  deriving DecidableEq, Repr

/-- The fields of an instant in reading order. The second 60 is a leap second. -/
def fields (cs : List Char) : Except Fault (Local × List Char) := do
  let (y, cs) ← year cs
  let cs ← mark '-' cs
  let (mo, cs) ← field 1 12 cs
  let cs ← mark '-' cs
  let (d, cs) ← field 1 31 cs
  let cs ← separator cs
  let (h, cs) ← field 0 23 cs
  let cs ← mark ':' cs
  let (mi, cs) ← field 0 59 cs
  let cs ← mark ':' cs
  let (s, cs) ← field 0 60 cs
  let (nano, cs) ← fraction cs
  let (off, cs) ← offset (Text.dropBlanks cs)
  let leap := s == 60
  .ok (⟨⟨y, mo, d⟩, h * 3600 + mi * 60 + (if leap then 59 else s),
    if leap then nano + 1000000000 else nano, off⟩, cs)

/-- The instant of a local time, if there is one. -/
def ofLocal (l : Local) : Except Fault Instant :=
  let day := Calendar.dayNumber l.date
  if ¬ (Calendar.isDate l.date ∧ Calendar.firstDay ≤ day ∧ day ≤ Calendar.lastDay) then
    .error .outOfRange
  else if l.offset ≤ -86400 ∨ 86400 ≤ l.offset then .error .outOfRange
  else
    let second : Int := l.second - l.offset
    match make? (day + second / 86400) (second % 86400).toNat l.nano with
    | some t => .ok t
    | none => .error .impossible

/-- **Reading an instant.** Only blanks may follow it. -/
def ofChars (cs : List Char) : Except Fault Instant := do
  let (l, rest) ← fields cs
  if (Text.dropBlanks rest).isEmpty then ofLocal l else .error .tooLong

/-- Reading an instant from a string. -/
def ofText (s : String) : Except Fault Instant := ofChars s.toList

end MapExport.Instant
