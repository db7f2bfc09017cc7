import MapExport.Decimal.Binary

/-!
# The shortest decimal

A double is printed with the fewest digits that still read back as the same double, and among the
decimals of that length the one nearest to it. A decimal reads back when it lies in the interval
of reals that round to the double: half the gap to each neighbour, the ends belonging to it when the
mantissa is even.

For one digit, two digits and so on up to seventeen, the candidates on the grid of that many digits
are the two neighbours of the value. If any point of the grid lies in the interval then so does one of
these two, hence the first length that has a hit is the least one.
-/

set_option autoImplicit false

namespace MapExport.Decimal

/-- **A decimal.** The number `digits * 10 ^ exponent`. -/
structure Digits where
  digits : Nat
  exponent : Int
  deriving DecidableEq, Repr

/-- **The interval of a double,** in units of a quarter of its last place: `low` and `high` around
`value`, the ends included when `closed`. Below a power of two the gap is half as wide. -/
structure Interval where
  low : Nat
  value : Nat
  high : Nat
  closed : Bool
  exponent : Int
  deriving DecidableEq, Repr

/-- The reals that round to `mantissa * 2 ^ exponent`. -/
def Interval.around (mantissa : Nat) (exponent : Int) : Interval where
  low := 4 * mantissa - (if mantissa = Nat.pow 2 52 ∧ exponent ≠ -1074 then 1 else 2)
  value := 4 * mantissa
  high := 4 * mantissa + 2
  closed := mantissa % 2 == 0
  exponent := exponent - 2

/-- Compares `n * 2 ^ i.exponent` with `c * 10 ^ e`, in whole numbers. -/
def Interval.compareWith (i : Interval) (n c : Nat) (e : Int) : Ordering :=
  let r := (Ratio.ofBinary n i.exponent).divPow10 e
  compare r.num (c * r.den)

/-- Whether the decimal reads back as the double. -/
def Interval.holds (i : Interval) (d : Digits) : Bool :=
  let below := i.compareWith i.low d.digits d.exponent
  let above := i.compareWith i.high d.digits d.exponent
  (below == .lt || (i.closed && below == .eq)) && (above == .gt || (i.closed && above == .eq))

/-- **Ties.** Where a value lies half way between two decimals that both read back, it goes to the
one with the even digit or to the upper one. -/
inductive Tie where
  | even
  | up
  deriving DecidableEq, Repr

/-- Of two neighbouring decimals, `a` below `b`, the one nearer to the value. -/
def Interval.nearer (i : Interval) (tie : Tie) (a b : Digits) : Digits :=
  match i.compareWith (2 * i.value) (a.digits + b.digits) a.exponent, tie with
  | .lt, _ => a
  | .gt, _ => b
  | .eq, .up => b
  | .eq, .even => if a.digits % 2 = 0 then a else b

/-- **One grid.** The decimal with `count` digits that reads back, if there is one. -/
def Interval.hit? (i : Interval) (tie : Tie) (top : Int) (count : Nat) : Option Digits :=
  let e := top - count
  let c := ((Ratio.ofBinary i.value i.exponent).divPow10 e).floor
  let a : Digits := ⟨c, e⟩
  let b : Digits := ⟨c + 1, e⟩
  match i.holds a, i.holds b with
  | true, true => some (i.nearer tie a b)
  | true, false => some a
  | false, true => some b
  | false, false => none

/-- The first grid with a hit, from `count` digits on; seventeen digits always have one. -/
def Interval.search (i : Interval) (tie : Tie) (top : Int) : Nat → Nat → Digits
  | 0, _ => ⟨i.value, i.exponent⟩
  | fuel + 1, count => (i.hit? tie top count).getD (i.search tie top fuel (count + 1))

/-- Moves the trailing zeros of a decimal into its exponent; `fuel` bounds their number. -/
def Digits.trimZeros : Nat → Digits → Digits
  | 0, d => d
  | fuel + 1, d =>
    if d.digits ≠ 0 ∧ d.digits % 10 = 0 then trimZeros fuel ⟨d.digits / 10, d.exponent + 1⟩ else d

/-- **The shortest decimal** of a positive double, given by its mantissa and exponent. -/
def shortest (tie : Tie) (mantissa : Nat) (exponent : Int) : Digits :=
  if mantissa = 0 then ⟨0, 0⟩
  else
    ((Interval.around mantissa exponent).search tie (magnitude mantissa exponent) 17 1).trimZeros 20

end MapExport.Decimal
