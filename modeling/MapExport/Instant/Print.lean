import MapExport.Instant.Basic

/-!
# The text of an instant

An instant is written by its date, a `T`, its time and a `Z`. The fraction takes as many digits as it
needs, in groups of three; a year outside the first ten thousand carries a sign, and a leap second is
the second 60 of its minute. Messages to people write the same date and time with a blank between them
and the offset spelt out.
-/

set_option autoImplicit false

namespace MapExport.Instant

/-- A number in decimal, filled with zeros to a width. -/
def padded (width n : Nat) : List Char :=
  let ds := Nat.toDigits 10 n
  List.replicate (width - ds.length) '0' ++ ds

/-- A year: four digits, with a sign in front where it has to be told apart. -/
def yearChars (y : Int) : List Char :=
  if 0 ≤ y ∧ y ≤ 9999 then padded 4 y.toNat
  else (if y < 0 then '-' else '+') :: padded 4 y.natAbs

/-- A date, as year, month and day. -/
def dateChars (d : Date) : List Char :=
  yearChars d.year ++ '-' :: padded 2 d.month ++ '-' :: padded 2 d.day

/-- The time of day to the second; a leap second counts as the second after its own. -/
def clockChars (t : Instant) : List Char :=
  let second := t.second % 60 + (if t.isLeap then 1 else 0)
  padded 2 (t.second / 3600) ++ ':' :: padded 2 (t.second / 60 % 60) ++ ':' :: padded 2 second

/-- The fraction of a second: nothing, or three, six or nine digits. -/
def fractionChars (nano : Nat) : List Char :=
  if nano = 0 then []
  else if nano % 1000000 = 0 then '.' :: padded 3 (nano / 1000000)
  else if nano % 1000 = 0 then '.' :: padded 6 (nano / 1000)
  else '.' :: padded 9 nano

/-- **The text of an instant.** -/
def chars (t : Instant) : List Char :=
  dateChars (Calendar.dateOf t.day) ++ 'T' :: clockChars t ++
    fractionChars (t.nano % 1000000000) ++ ['Z']

/-- The text of an instant, as a string. -/
def text (t : Instant) : String := String.ofList t.chars

/-- The date and the time as a mail to a person shows them. -/
def longText (t : Instant) : String :=
  String.ofList (dateChars (Calendar.dateOf t.day) ++ ' ' :: clockChars t ++ "+00:00".toList)

end MapExport.Instant
