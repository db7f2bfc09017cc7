import MapExport.Instant.Calendar

/-!
# Instants

A moment of universal time: a day, a second of that day and a fraction in nanoseconds. A fraction of a
whole second or more stands for a leap second, which is read behind the last second of a minute and kept
as it was read. Clocks and calendars that let the fraction be set by itself can hold a leap second behind
any other second as well; the service never sets it so, and those are left out. The days reach from the
year -262143 to the year 262142, and an instant holds the proof that it lies there, so going back from an
early one may have no answer.

The distance of two instants and the shift by whole days do not count leap seconds as time of their own,
with one exception each, which the definitions spell out.
-/

set_option autoImplicit false

namespace MapExport

/-- The first and the last day that an instant can lie on. -/
def Calendar.firstDay : Int := Calendar.yearStart (-262143)

@[inherit_doc Calendar.firstDay]
def Calendar.lastDay : Int := Calendar.yearStart 262143 - 1

/-- Whether a day, a second and a fraction make an instant. -/
def Calendar.isInstant (day : Int) (second nano : Nat) : Bool :=
  decide (firstDay ≤ day) && decide (day ≤ lastDay) && decide (second < 86400) &&
    decide (nano < 2000000000) && (decide (nano < 1000000000) || second % 60 == 59)

/-- **An instant** of universal time. -/
structure Instant where
  day : Int
  second : Nat
  nano : Nat
  valid : Calendar.isInstant day second nano = true
  deriving DecidableEq

namespace Instant

/-- A day, a second and a fraction, if they make an instant. -/
def make? (day : Int) (second nano : Nat) : Option Instant :=
  if h : Calendar.isInstant day second nano = true then some ⟨day, second, nano, h⟩ else none

/-- The start of the year 1970, from which machines count. -/
def epoch : Instant := ⟨Calendar.yearStart 1970, 0, 0, by decide⟩

instance : Inhabited Instant := ⟨epoch⟩

/-- **Order.** Instants compare by day, second and fraction, in this order. -/
protected def le (a b : Instant) : Prop :=
  a.day < b.day ∨ a.day = b.day ∧ (a.second < b.second ∨ a.second = b.second ∧ a.nano ≤ b.nano)

instance : LE Instant := ⟨Instant.le⟩

instance : LT Instant := ⟨fun a b => ¬ b ≤ a⟩

instance decidableLe (a b : Instant) : Decidable (a ≤ b) :=
  inferInstanceAs (Decidable (_ ∨ _))

instance decidableLt (a b : Instant) : Decidable (a < b) :=
  inferInstanceAs (Decidable (¬ _))

/-- A leap second, which the printed form shows as the second 60. -/
def isLeap (t : Instant) : Bool := decide (1000000000 ≤ t.nano)

/-- The nanoseconds of a number of days. -/
def ofDays (n : Nat) : Int := n * 86400 * 1000000000

/-- **Distance.** The nanoseconds from `b` to `a`. Where the leap second of the earlier time of day has
passed at the later one, it counts as a second. -/
def since (a b : Instant) : Int :=
  let carry : Int :=
    if b.second < a.second then (if b.isLeap then 1 else 0)
    else if a.second < b.second then (if a.isLeap then -1 else 0)
    else 0
  ((a.day - b.day) * 86400 + ((a.second : Int) - b.second) + carry) * 1000000000 +
    ((a.nano : Int) - b.nano)

/-- **Going back by days.** A leap second is left behind: it becomes the first second after it. There is
no answer before the first day. -/
def daysBefore? (t : Instant) (n : Nat) : Option Instant :=
  if n = 0 then some t
  else
    let second := if t.isLeap then t.second + 1 else t.second
    let nano := if t.isLeap then t.nano - 1000000000 else t.nano
    make? (t.day - n + second / 86400) (second % 86400) nano

end Instant

end MapExport
