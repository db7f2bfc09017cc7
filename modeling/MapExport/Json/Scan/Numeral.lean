import MapExport.Json.Basic
import MapExport.Json.Scan.Symbol

/-!
# Reading a number

A number without fraction and exponent is a whole number if it fits: sixty-four bits without a sign,
or sixty-three behind a minus. Everything else is a double: the significand is gathered digit by digit
while it fits sixty-four bits, later digits only move the exponent or are dropped, and the double is the
significand times or divided by a power of ten, rounded at each of the two steps.
-/

set_option autoImplicit false

namespace MapExport.Json

/-- Gathers digits into a significand while it fits sixty-four bits: the significand, how many digits
it took, and the rest. -/
def gather (significand taken : Nat) : Symbols → Nat × Nat × Symbols
  | [] => (significand, taken, [])
  | c :: cs =>
    let next := significand * 10 + digitValue c
    if isDigit c && decide (next < Nat.pow 2 64) then gather next (taken + 1) cs
    else (significand, taken, c :: cs)

/-- Ten to a power that a double can hold. -/
def powerOfTen (k : Nat) : Float := OfScientific.ofScientific 1 false k

/-- Divides by a power of ten, by `10 ^ 308` at a time where it is larger. Three divisions take every
significand to zero, so `fuel` need not be larger. -/
def scaleDown : Nat → Float → Nat → Float
  | 0, f, _ => f
  | fuel + 1, f, k =>
    if k ≤ 308 then f / powerOfTen k
    else if f == 0 then f
    else scaleDown fuel (f / powerOfTen 308) (k - 308)

/-- **The double of a significand and an exponent.** -/
def scale (negative : Bool) (significand : Nat) (exponent : Int) : Except Fault Float :=
  let f := Float.ofNat significand
  let signed (x : Float) : Float := if negative then -x else x
  match exponent with
  | .ofNat k =>
    if 308 < k then if significand = 0 then .ok (signed f) else .error .numberOutOfRange
    else
      let x := f * powerOfTen k
      if x.isInf then .error .numberOutOfRange else .ok (signed x)
  | .negSucc k => .ok (signed (scaleDown 4 f (k + 1)))

/-- The digits of an exponent, as long as they fit thirty-one bits. -/
def gatherExponent (value : Nat) : Symbols → Nat × Symbols
  | [] => (value, [])
  | c :: cs =>
    let next := value * 10 + digitValue c
    if isDigit c && decide (next < Nat.pow 2 31) then gatherExponent next cs else (value, c :: cs)

/-- The exponent after its letter, and the double. An exponent beyond all bounds makes zero or is out
of range. -/
def readExponent (negative : Bool) (significand : Nat) (start : Int) (cs : Symbols) :
    Except Fault (Float × Symbols) :=
  let (down, cs) : Bool × Symbols := match cs with
    | some '+' :: rest => (false, rest)
    | some '-' :: rest => (true, rest)
    | cs => (false, cs)
  match cs with
  | [] => .error .endOfValue
  | c :: rest =>
    if !isDigit c then .error .invalidNumber
    else
      let (value, rest) := gatherExponent (digitValue c) rest
      if startsWithDigit rest then
        if significand ≠ 0 ∧ down = false then .error .numberOutOfRange
        else .ok (if negative then -0.0 else 0.0, rest.dropWhile isDigit)
      else do
        let x ← scale negative significand (if down then start - value else start + value)
        .ok (x, rest)

/-- What may follow the digits: an exponent, or the end of the number. -/
def readScale (negative : Bool) (significand : Nat) (exponent : Int) (cs : Symbols) :
    Except Fault (Float × Symbols) :=
  match cs with
  | some 'e' :: rest => readExponent negative significand exponent rest
  | some 'E' :: rest => readExponent negative significand exponent rest
  | cs => do .ok (← scale negative significand exponent, cs)

/-- The digits after the point, and the double. There has to be one. -/
def readFraction (negative : Bool) (significand : Nat) (exponent : Int) (cs : Symbols) :
    Except Fault (Float × Symbols) :=
  let (value, taken, rest) := gather significand 0 cs
  if startsWithDigit rest then
    readScale negative value (exponent - taken) (rest.dropWhile isDigit)
  else if taken = 0 then .error (if rest.isEmpty then .endOfValue else .invalidNumber)
  else readScale negative value (exponent - taken) rest

/-- What may follow the digits before the point: a point, an exponent, or the end of the number. -/
def readTail (negative : Bool) (significand : Nat) (exponent : Int) (cs : Symbols) :
    Except Fault (Float × Symbols) :=
  match cs with
  | some '.' :: rest => readFraction negative significand exponent rest
  | cs => readScale negative significand exponent cs

/-- A whole number, or the double it becomes when it does not fit: a zero behind a minus keeps its
sign only as a double. -/
def wholeOrReal (negative : Bool) (n : Nat) : Json :=
  if negative then
    if 0 < n ∧ n ≤ Nat.pow 2 63 then .whole (-(n : Int)) else .real (-(Float.ofNat n))
  else .whole n

/-- **A number,** its sign having been read. -/
def readNumber (negative : Bool) : Symbols → Except Fault (Json × Symbols)
  | [] => .error .endOfValue
  | c :: cs =>
    if !isDigit c then .error .invalidNumber
    else if c = some '0' ∧ startsWithDigit cs then .error .invalidNumber
    else
      let (value, _, rest) := gather (digitValue c) 0 cs
      let (value, rest) := if c = some '0' then (0, cs) else (value, rest)
      if startsWithDigit rest then
        let zeros := rest.takeWhile isDigit
        (readTail negative value zeros.length (rest.drop zeros.length)).map
          fun (x, rest) => (.real x, rest)
      else
        match rest with
        | some '.' :: _ | some 'e' :: _ | some 'E' :: _ =>
          (readTail negative value 0 rest).map fun (x, rest) => (.real x, rest)
        | rest => .ok (wholeOrReal negative value, rest)

/-- Passes over digits. -/
def skipDigits (cs : Symbols) : Symbols := cs.dropWhile isDigit

/-- Passes over an exponent, its letter having been read. -/
def skipExponent (cs : Symbols) : Except Fault Symbols :=
  let cs := match cs with
    | some '+' :: rest => rest
    | some '-' :: rest => rest
    | cs => cs
  if startsWithDigit cs then .ok (skipDigits cs) else .error .invalidNumber

/-- Passes over an exponent, if there is one. -/
def skipScale (cs : Symbols) : Except Fault Symbols :=
  match cs with
  | some 'e' :: rest => skipExponent rest
  | some 'E' :: rest => skipExponent rest
  | cs => .ok cs

/-- **Passing over a number,** its sign having been read. -/
def skipNumber : Symbols → Except Fault Symbols
  | [] => .error .invalidNumber
  | c :: cs =>
    if !isDigit c then .error .invalidNumber
    else if c = some '0' ∧ startsWithDigit cs then .error .invalidNumber
    else
      match skipDigits cs with
      | some '.' :: rest =>
        if startsWithDigit rest then skipScale (skipDigits rest) else .error .invalidNumber
      | rest => skipScale rest

end MapExport.Json
