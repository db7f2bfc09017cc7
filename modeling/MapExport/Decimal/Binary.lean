/-!
# What a double is worth

Every number the service measures, stores or prints is a double. To print one exactly we first take it
apart: a sign and a whole number times a power of two, or one of the values that are no number.
All the decimal work is then done on whole numbers, where nothing is rounded by accident.
-/

set_option autoImplicit false

namespace MapExport.Decimal

/-- **The parts of a double.** A finite one is `mantissa * 2 ^ exponent` with its sign beside it, so
that the two zeros stay apart. -/
inductive Parts where
  | nan
  | infinite (negative : Bool)
  | finite (negative : Bool) (mantissa : Nat) (exponent : Int)
  deriving DecidableEq, Repr

/-- **Taking a double apart.** The eleven exponent bits are all ones for what is no number and all
zeros for the smallest magnitudes, which lack the leading bit of the others. -/
def parts (x : Float) : Parts :=
  let bits : Nat := x.toBits.toNat
  let negative := bits / Nat.pow 2 63 == 1
  let biased : Nat := bits / Nat.pow 2 52 % Nat.pow 2 11
  let fraction : Nat := bits % Nat.pow 2 52
  if biased = 2047 then if fraction = 0 then .infinite negative else .nan
  else if biased = 0 then .finite negative fraction (-1074)
  else .finite negative (Nat.pow 2 52 + fraction) ((biased : Int) - 1075)

/-- Whether a double is a number: neither infinite nor `NaN`. -/
def isNumber (x : Float) : Bool :=
  match parts x with
  | .finite .. => true
  | _ => false

/-- **A positive quotient.** `num / den`, kept as the two whole numbers. -/
structure Ratio where
  num : Nat
  den : Nat
  deriving DecidableEq, Repr

/-- `n * 2 ^ e` as a quotient. -/
def Ratio.ofBinary (n : Nat) (e : Int) : Ratio :=
  match e with
  | .ofNat k => ⟨n * Nat.pow 2 k, 1⟩
  | .negSucc k => ⟨n, Nat.pow 2 (k + 1)⟩

/-- The quotient divided by `10 ^ e`. -/
def Ratio.divPow10 (r : Ratio) (e : Int) : Ratio :=
  match e with
  | .ofNat k => ⟨r.num, r.den * Nat.pow 10 k⟩
  | .negSucc k => ⟨r.num * Nat.pow 10 (k + 1), r.den⟩

/-- The whole part. -/
def Ratio.floor (r : Ratio) : Nat := r.num / r.den

/-- Climbs from `k` while the value has not fallen below `10 ^ k`; `fuel` bounds the climb. -/
def magnitudeFrom (r : Ratio) : Nat → Int → Int
  | 0, k => k
  | fuel + 1, k => if (r.divPow10 k).floor = 0 then k else magnitudeFrom r fuel (k + 1)

/-- **Decimal magnitude.** The least `k` with `mantissa * 2 ^ exponent < 10 ^ k`, for a mantissa that
is not zero. The search starts from the binary magnitude times the logarithm of two, which is at most
the answer and misses it by two at the most. -/
def magnitude (mantissa : Nat) (exponent : Int) : Int :=
  let binary : Int := mantissa.log2 + exponent
  magnitudeFrom (.ofBinary mantissa exponent) 4 (binary * 30103 / 100000)

end MapExport.Decimal
