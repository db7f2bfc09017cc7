/-!
# The calendar

Days are numbered from the first of January of the year 0, in the Gregorian calendar carried on in both
directions. The number of a day is the days of the years before its own, the days of the months before
its own and the days before it in its month. To go back, the year is guessed from the length of the
cycle of 400 years and set right by at most one.
-/

set_option autoImplicit false

namespace MapExport

/-- **A day of the calendar.** Months and days of the month are counted from one. -/
structure Date where
  year : Int
  month : Nat
  day : Nat
  deriving DecidableEq, Repr

namespace Calendar

/-- A leap year: every fourth, but of the full centuries only every fourth. -/
def isLeap (year : Int) : Bool :=
  year % 4 == 0 && (year % 100 != 0 || year % 400 == 0)

/-- The number of the first day of a year. -/
def yearStart (year : Int) : Int :=
  365 * year + (year + 3) / 4 - (year + 99) / 100 + (year + 399) / 400

/-- The length of a month. -/
def monthLength (leap : Bool) : Nat → Nat
  | 2 => if leap then 29 else 28
  | 4 | 6 | 9 | 11 => 30
  | _ => 31

/-- The days of a year before a month. -/
def monthStart (leap : Bool) (month : Nat) : Nat :=
  ((List.range (month - 1)).map fun m => monthLength leap (m + 1)).foldl (· + ·) 0

/-- Whether the date is one of the calendar. -/
def isDate (d : Date) : Bool :=
  1 ≤ d.month && d.month ≤ 12 && 1 ≤ d.day && d.day ≤ monthLength (isLeap d.year) d.month

/-- **The number of a day.** -/
def dayNumber (d : Date) : Int :=
  yearStart d.year + monthStart (isLeap d.year) d.month + d.day - 1

/-- The year of a day: a guess that is right or one off. -/
def yearOf (n : Int) : Int :=
  let guess := 400 * n / 146097
  if n < yearStart guess then guess - 1
  else if yearStart (guess + 1) ≤ n then guess + 1
  else guess

/-- The month and the day in it, from the month `month` on; `fuel` bounds the months left. -/
def monthOf (leap : Bool) : Nat → Nat → Nat → Nat × Nat
  | 0, month, rest => (month, rest + 1)
  | fuel + 1, month, rest =>
    if rest < monthLength leap month then (month, rest + 1)
    else monthOf leap fuel (month + 1) (rest - monthLength leap month)

/-- **The date of a day.** -/
def dateOf (n : Int) : Date :=
  let year := yearOf n
  let (month, day) := monthOf (isLeap year) 11 1 (n - yearStart year).toNat
  ⟨year, month, day⟩

end Calendar

end MapExport
