/-!
# Names in ASCII

Part of a name that is not ASCII is written in ASCII as its ASCII characters, a hyphen, and letters and
digits that say where the others belong: how far to count on, through all places of all code points, from
one of them to the next. The numbers are written with a base of thirty-six, the least digit first, and
the last digit of a number is told by its size; how large it may be is learnt from the numbers before.
-/

set_option autoImplicit false

namespace MapExport.Hostname.Punycode

/-- The base of the numbers. -/
def base : Nat := 36

/-- The first code point that is not ASCII. -/
def firstWide : Nat := 128

/-- What the first number is expected to be like. -/
def firstBias : Nat := 72

/-- A digit. -/
def digitChar (n : Nat) : Char := if n < 26 then Char.ofNat (97 + n) else Char.ofNat (22 + n)

/-- The value of a digit. -/
def digitValue? (c : Char) : Option Nat :=
  if c.isLower then some (c.toNat - 97)
  else if c.isUpper then some (c.toNat - 65)
  else if c.isDigit then some (c.toNat - 22)
  else none

/-- The limit below which the digit at a position ends a number. -/
def limit (bias position : Nat) : Nat :=
  if position ≤ bias then 1 else if bias + 26 ≤ position then 26 else position - bias

/-- Divides until a number is small, at most so often. -/
def shrink : Nat → Nat → Nat → Nat
  | 0, k, delta => k + base * delta / (delta + 38)
  | n + 1, k, delta =>
    if 455 < delta then shrink n (k + base) (delta / 35) else k + base * delta / (delta + 38)

/-- What the next number is expected to be like after one of `delta`, with `count` characters placed. -/
def nextBias (delta count : Nat) (isFirst : Bool) : Nat :=
  let delta := if isFirst then delta / 700 else delta / 2
  let delta := delta + delta / count
  shrink delta 0 delta

/-- The digits of a number, at most so many. -/
def digitsFrom (bias : Nat) : Nat → Nat → Nat → List Char
  | 0, _, _ => []
  | n + 1, position, q =>
    let t := limit bias position
    if q < t then [digitChar q]
    else digitChar (t + (q - t) % (base - t)) :: digitsFrom bias n (position + base) ((q - t) / (base - t))

/-- The digits of a number. -/
def digits (bias q : Nat) : List Char := digitsFrom bias (q + 1) base q

/-- **Where the writing of a name is:** how far has been counted since the last number, what the next one is
expected to be like, how many characters are placed, and the digits. -/
structure State where
  delta : Nat
  bias : Nat
  placed : Nat
  output : List Char
  deriving DecidableEq, Repr

/-- Passes a character while the places of a code point are counted. -/
def State.pass (plain code : Nat) (s : State) (c : Char) : State :=
  if c.toNat < code then { s with delta := s.delta + 1 }
  else if c.toNat = code then
    { delta := 0
      bias := nextBias s.delta (s.placed + 1) (s.placed == plain)
      placed := s.placed + 1
      output := s.output ++ digits s.bias s.delta }
  else s

/-- Goes through code points in their order, from one on. -/
def State.place (plain : Nat) (cs : List Char) : Nat → State → List Nat → State
  | _, s, [] => s
  | start, s, code :: rest =>
    let s := { s with delta := s.delta + (code - start) * (s.placed + 1) }
    let s := cs.foldl (State.pass plain code) s
    State.place plain cs (code + 1) { s with delta := s.delta + 1 } rest

/-- **Writing** part of a name in ASCII. -/
def encode (cs : List Char) : List Char :=
  let plain := cs.filter fun c => c.toNat < firstWide
  let codes := ((cs.filter fun c => firstWide ≤ c.toNat).map Char.toNat).eraseDups.mergeSort
  let s := State.place plain.length cs firstWide ⟨0, firstBias, plain.length, []⟩ codes
  (if plain.isEmpty then [] else plain ++ ['-']) ++ s.output

/-- A number at the start of digits, and what follows it. -/
def number? (bias : Nat) : Nat → Nat → Nat → List Char → Option (Nat × List Char)
  | _, _, _, [] => none
  | position, weight, n, c :: cs => do
    let d ← digitValue? c
    let n := n + d * weight
    let t := limit bias position
    if d < t then some (n, cs) else number? bias (position + base) (weight * (base - t)) n cs

/-- Puts further characters into a name, in at most so many steps; counting goes on at a code point and a
place. -/
def insertFrom (isFirst : Bool) :
    Nat → Nat → Nat → Nat → List Char → List Char → Option (List Char)
  | _, _, _, _, done, [] => some done
  | 0, _, _, _, _, _ => none
  | n + 1, bias, code, i, done, cs => do
    let (delta, rest) ← number? bias base 1 0 cs
    let count := done.length + 1
    let code := code + (i + delta) / count
    let i := (i + delta) % count
    if code.isValidChar then
      insertFrom false n (nextBias delta count isFirst) code (i + 1)
        (done.take i ++ Char.ofNat code :: done.drop i) rest
    else none

/-- **Reading** part of a name from ASCII. -/
def decode (cs : List Char) : Option (List Char) :=
  let (back, front) := cs.reverse.span (· != '-')
  insertFrom true cs.length firstBias firstWide 0 (front.drop 1).reverse back.reverse

end MapExport.Hostname.Punycode
