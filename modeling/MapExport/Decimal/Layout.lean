import MapExport.Decimal.Shortest

/-!
# How a decimal is laid out

The digits of a number are one thing and the way they are set on the line another. A `Layout` says the
second: from which magnitude to which the point is written in its place, whether a whole number keeps
a point and a zero, and whether a positive exponent carries its sign. The service has two of them.

* `Layout.document` is the layout inside a JSON text: a number always looks like a fraction, and far
  from one it is written with an exponent.
* `Layout.plain` is the layout inside a query to the feature counter, which knows no exponents.

Measured averages are reported in a third form, `scientific`: seven digits, correctly rounded.
-/

set_option autoImplicit false

namespace MapExport.Decimal

/-- **Layout of a number.** `positional e` tells for the exponent `e` of the leading digit whether the
point is written in its place. -/
structure Layout where
  positional : Int → Bool
  tie : Tie
  wholePoint : Bool
  exponentSign : Bool
  nan : String
  infinite : String

/-- Inside a JSON text, from `0.00001` up to below `10 ^ 16` the point stands in its place. What is no
number is written `null`. -/
def Layout.document : Layout where
  positional e := decide (-5 ≤ e) && decide (e < 16)
  tie := .even
  wholePoint := true
  exponentSign := true
  nan := "null"
  infinite := "null"

/-- Inside a query the point always stands in its place, and whole numbers have none. A tie goes up. -/
def Layout.plain : Layout where
  positional _ := true
  tie := .up
  wholePoint := false
  exponentSign := false
  nan := "NaN"
  infinite := "inf"

/-- The digits of a whole number, most significant first. -/
def digitChars (n : Nat) : List Char := Nat.toDigits 10 n

/-- A signed exponent. -/
def exponentChars (sign : Bool) (e : Int) : List Char :=
  match e with
  | .ofNat k => (if sign then ['+'] else []) ++ digitChars k
  | .negSucc k => '-' :: digitChars (k + 1)

/-- The digits `ds` with the point after the first `point` of them; zeros fill the places between
the digits and the point. -/
def placePoint (wholePoint : Bool) (ds : List Char) (point : Int) : List Char :=
  match point with
  | .negSucc k => ['0', '.'] ++ List.replicate (k + 1) '0' ++ ds
  | .ofNat 0 => ['0', '.'] ++ ds
  | .ofNat k =>
    let whole := ds.take k ++ List.replicate (k - ds.length) '0'
    match ds.drop k with
    | [] => whole ++ (if wholePoint then ['.', '0'] else [])
    | rest => whole ++ '.' :: rest

/-- The digits with the point after the first one and an exponent behind. -/
def withExponent (sign : Bool) (ds : List Char) (e : Int) : List Char :=
  match ds with
  | [] => []
  | [d] => d :: 'e' :: exponentChars sign e
  | d :: rest => d :: '.' :: rest ++ 'e' :: exponentChars sign e

/-- The text of a magnitude in a layout. -/
def Layout.magnitudeChars (l : Layout) (d : Digits) : List Char :=
  if d.digits = 0 then if l.wholePoint then ['0', '.', '0'] else ['0']
  else
    let ds := digitChars d.digits
    let lead : Int := ds.length + d.exponent - 1
    if l.positional lead then placePoint l.wholePoint ds (lead + 1)
    else withExponent l.exponentSign ds lead

/-- **The text of a double** in a layout: the fewest digits that read back. -/
def Layout.chars (l : Layout) (x : Float) : List Char :=
  match parts x with
  | .nan => l.nan.toList
  | .infinite negative =>
    if negative ∧ l.infinite ≠ "null" then '-' :: l.infinite.toList else l.infinite.toList
  | .finite negative m e =>
    (if negative then ['-'] else []) ++ l.magnitudeChars (shortest l.tie m e)

/-- The text of a double in a layout, as a string. -/
def Layout.render (l : Layout) (x : Float) : String := String.ofList (l.chars x)

/-- **Rounding a quotient** to the nearest whole number, a half going to the even neighbour. -/
def Ratio.round (r : Ratio) : Nat :=
  let q := r.num / r.den
  match compare (2 * (r.num % r.den)) r.den with
  | .lt => q
  | .gt => q + 1
  | .eq => if q % 2 = 0 then q else q + 1

/-- A magnitude rounded to `count` digits; a carry past the leading digit moves the exponent. -/
def roundDigits (count : Nat) (mantissa : Nat) (exponent : Int) : Digits :=
  let e := magnitude mantissa exponent - count
  let c := ((Ratio.ofBinary mantissa exponent).divPow10 e).round
  if c = Nat.pow 10 count then ⟨Nat.pow 10 (count - 1), e + 1⟩ else ⟨c, e⟩

/-- **Scientific form.** `places` digits after the point, correctly rounded from the exact value of the
double, and an exponent without sign or padding. -/
def scientific (places : Nat) (x : Float) : String :=
  match parts x with
  | .nan => "NaN"
  | .infinite negative => if negative then "-inf" else "inf"
  | .finite negative m e =>
    let body :=
      if m = 0 then ['0', '.'] ++ List.replicate places '0' ++ ['e', '0']
      else
        let d := roundDigits (places + 1) m e
        let ds := digitChars d.digits
        withExponent false ds (ds.length + d.exponent - 1)
    String.ofList ((if negative then ['-'] else []) ++ body)

/-- The bits of a double as sixteen hexadecimal digits, most significant first. -/
def bitsChars (x : Float) : List Char :=
  let n := x.toBits.toNat
  (List.range 16).map fun k =>
    let d := n / Nat.pow 16 (15 - k) % 16
    if d < 10 then Char.ofNat (48 + d) else Char.ofNat (87 + d)

end MapExport.Decimal
