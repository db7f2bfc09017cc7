/-!
# Bytes in sixty-four characters

Bytes that have to pass where only plain characters do are written three at a time with four characters of
an alphabet of sixty-four; what is missing at the end is filled with equals signs.
-/

set_option autoImplicit false

namespace MapExport.Text

/-- The alphabet. -/
def base64Alphabet : List Char :=
  "ABCDEFGHIJKLMNOPQRSTUVWXYZabcdefghijklmnopqrstuvwxyz0123456789+/".toList

/-- A number below sixty-four. -/
def base64Digit (n : Nat) : Char := base64Alphabet.getD n '='

/-- **The text of bytes** in sixty-four characters. -/
def base64Chars : List UInt8 → List Char
  | [] => []
  | [a] => [base64Digit (a.toNat / 4), base64Digit (a.toNat % 4 * 16), '=', '=']
  | [a, b] =>
    [base64Digit (a.toNat / 4), base64Digit (a.toNat % 4 * 16 + b.toNat / 16),
      base64Digit (b.toNat % 16 * 4), '=']
  | a :: b :: c :: rest =>
    base64Digit (a.toNat / 4) :: base64Digit (a.toNat % 4 * 16 + b.toNat / 16) ::
      base64Digit (b.toNat % 16 * 4 + c.toNat / 64) :: base64Digit (c.toNat % 64) ::
      base64Chars rest

/-- **What is wrong** with bytes that were to be read: a byte that is no character of the alphabet or
stands where none may, a last character that says more than it should, too few characters, or equals
signs that are missing. -/
inductive Base64Fault where
  | symbol (byte : UInt8) (place : Nat)
  | lastSymbol (byte : UInt8) (place : Nat)
  | length (n : Nat)
  | padding
  deriving DecidableEq, Repr

/-- The text of a fault. -/
def Base64Fault.message : Base64Fault → String
  | .symbol b place => "Invalid symbol " ++ toString b.toNat ++ ", offset " ++ toString place ++ "."
  | .lastSymbol b place =>
    "Invalid last symbol " ++ toString b.toNat ++ ", offset " ++ toString place ++ "."
  | .length n => "Invalid input length: " ++ toString n
  | .padding => "Invalid padding"

/-- The number that a byte of the alphabet stands for. -/
def base64Value? (b : UInt8) : Option Nat := base64Alphabet.findIdx? fun c => c.toNat == b.toNat

/-- The equals sign. -/
def base64Filler : UInt8 := 61

/-- The numbers of bytes, the first of which is at a place. -/
def base64Values (place : Nat) : List UInt8 → Except Base64Fault (List Nat)
  | [] => .ok []
  | b :: bs =>
    match base64Value? b with
    | none => .error (.symbol b place)
    | some v => (base64Values (place + 1) bs).map (v :: ·)

/-- What numbers below sixty-four say, three bytes for four of them. -/
def base64Bytes : List Nat → List UInt8
  | a :: b :: c :: d :: rest =>
    UInt8.ofNat (a * 4 + b / 16) :: UInt8.ofNat (b % 16 * 16 + c / 4) ::
      UInt8.ofNat (c % 4 * 64 + d) :: base64Bytes rest
  | [a, b, c] => [UInt8.ofNat (a * 4 + b / 16), UInt8.ofNat (b % 16 * 16 + c / 4)]
  | [a, b] => [UInt8.ofNat (a * 4 + b / 16)]
  | _ => []

/-- The numbers of the last four bytes or fewer, and how many equals signs fill them up. Equals signs
stand at the end only, and not before two other bytes. -/
def base64Tail (place : Nat) (bytes : List UInt8) : Except Base64Fault (List Nat × Nat) :=
  let (front, back) := bytes.span (· != base64Filler)
  match base64Values place front with
  | .error e => .error e
  | .ok values =>
    if !back.isEmpty ∧ (front.length < 2 ∨ back.any (· != base64Filler)) then
      .error (.symbol base64Filler (place + front.length))
    else .ok (values, back.length)

/-- **Reading bytes** written in sixty-four characters. What the last character says beyond the last byte
has to be zero. -/
def readBase64 (bytes : List UInt8) : Except Base64Fault (List UInt8) := do
  let n := bytes.length
  match bytes.getLast? with
  | some b =>
    if n % 4 = 1 ∧ b ≠ base64Filler ∧ base64Value? b = none then .error (.symbol b (n - 1))
  | none => pure ()
  let whole := n - (if n % 4 = 0 then 4 else n % 4)
  let front ← base64Values 0 (bytes.take whole)
  let (back, fillers) ← base64Tail whole (bytes.drop whole)
  if !bytes.isEmpty ∧ back.length < 2 then .error (.length (whole + back.length))
  if (back.length + fillers) % 4 ≠ 0 then .error .padding
  let excess :=
    match back with
    | [_, b] => b % 16
    | [_, _, c] => c % 4
    | _ => 0
  if excess ≠ 0 then
    .error (.lastSymbol ((bytes.drop whole).getD (back.length - 1) 0) (whole + back.length - 1))
  .ok (base64Bytes front ++ base64Bytes back)

end MapExport.Text
