/-!
# Bytes as text

Bodies and files arrive as bytes. Each sequence of bytes that encodes a character in the shortest way,
surrogates excepted, is that character; a byte that belongs to no such sequence is kept apart.
-/

set_option autoImplicit false

namespace MapExport.Text

/-- The value bits of a continuation byte. -/
def continuation? (b : UInt8) : Option Nat :=
  if 0x80 ≤ b ∧ b ≤ 0xBF then some (b.toNat - 0x80) else none

/-- A character of the given number, unless it could be encoded in fewer bytes or is no character. -/
def shortest? (least n : Nat) : Option Char :=
  if least ≤ n ∧ n.isValidChar then some (Char.ofNat n) else none

/-- The character that begins with a byte beyond ASCII, and the number of bytes that follow it. -/
def wideChar? (b : UInt8) (rest : List UInt8) : Option (Char × Nat) :=
  if 0xC0 ≤ b ∧ b ≤ 0xDF then do
    let x ← (rest[0]?).bind continuation?
    let c ← shortest? 0x80 ((b.toNat - 0xC0) * 64 + x)
    some (c, 1)
  else if 0xE0 ≤ b ∧ b ≤ 0xEF then do
    let x ← (rest[0]?).bind continuation?
    let y ← (rest[1]?).bind continuation?
    let c ← shortest? 0x800 (((b.toNat - 0xE0) * 64 + x) * 64 + y)
    some (c, 2)
  else if 0xF0 ≤ b ∧ b ≤ 0xF7 then do
    let x ← (rest[0]?).bind continuation?
    let y ← (rest[1]?).bind continuation?
    let z ← (rest[2]?).bind continuation?
    let c ← shortest? 0x10000 ((((b.toNat - 0xF0) * 64 + x) * 64 + y) * 64 + z)
    some (c, 3)
  else none

/-- Decodes bytes one after another; `skip` of them belong to a character already decoded. -/
def decodeFrom : Nat → List UInt8 → List (Option Char)
  | _, [] => []
  | skip + 1, _ :: rest => decodeFrom skip rest
  | 0, b :: rest =>
    if b < 0x80 then some (Char.ofNat b.toNat) :: decodeFrom 0 rest
    else
      match wideChar? b rest with
      | some (c, n) => some c :: decodeFrom n rest
      | none => none :: decodeFrom 0 rest

/-- **Decoding bytes:** characters, and `none` for each byte that belongs to none. -/
def decodeBytes (bytes : List UInt8) : List (Option Char) := decodeFrom 0 bytes

/-- The text of bytes that encode one. -/
def textOfBytes? (bytes : List UInt8) : Option String :=
  ((decodeBytes bytes).mapM id).map String.ofList

/-- **What is wrong** with bytes that encode no text: at a place, so many of them belong to no character,
or the bytes end inside of one. -/
inductive Utf8Fault where
  | stray (count place : Nat)
  | cut (place : Nat)
  deriving DecidableEq, Repr

/-- The text of a fault. -/
def Utf8Fault.message : Utf8Fault → String
  | .stray count place =>
    "invalid utf-8 sequence of " ++ toString count ++ " bytes from index " ++ toString place
  | .cut place => "incomplete utf-8 byte sequence from index " ++ toString place

/-- The bytes that may come second in a character, by the first one, and how many follow in all. -/
def secondBytes? (b : UInt8) : Option (UInt8 × UInt8 × Nat) :=
  if 0xC2 ≤ b ∧ b ≤ 0xDF then some (0x80, 0xBF, 1)
  else if b = 0xE0 then some (0xA0, 0xBF, 2)
  else if b = 0xED then some (0x80, 0x9F, 2)
  else if 0xE1 ≤ b ∧ b ≤ 0xEF then some (0x80, 0xBF, 2)
  else if b = 0xF0 then some (0x90, 0xBF, 3)
  else if 0xF1 ≤ b ∧ b ≤ 0xF3 then some (0x80, 0xBF, 3)
  else if b = 0xF4 then some (0x80, 0x8F, 3)
  else none

/-- The fault of a byte beyond ASCII with which no character begins. -/
def strayAt (place : Nat) (b : UInt8) (rest : List UInt8) : Utf8Fault :=
  match secondBytes? b with
  | none => .stray 1 place
  | some (least, greatest, n) =>
    match rest with
    | [] => .cut place
    | x :: more =>
      if x < least ∨ greatest < x then .stray 1 place
      else
        let good := ((more.take (n - 1)).takeWhile fun y => (continuation? y).isSome).length
        if good = more.length ∧ good < n - 1 then .cut place else .stray (2 + good) place

/-- The first fault of bytes from a place on; `skip` of them belong to a character already decoded. -/
def utf8FaultFrom (place : Nat) : Nat → List UInt8 → Option Utf8Fault
  | _, [] => none
  | skip + 1, _ :: rest => utf8FaultFrom (place + 1) skip rest
  | 0, b :: rest =>
    if b < 0x80 then utf8FaultFrom (place + 1) 0 rest
    else
      match wideChar? b rest with
      | some (_, n) => utf8FaultFrom (place + 1) n rest
      | none => some (strayAt place b rest)

/-- **The text of bytes,** or the first fault in them. -/
def readUtf8 (bytes : List UInt8) : Except Utf8Fault String :=
  match textOfBytes? bytes with
  | some s => .ok s
  | none => .error ((utf8FaultFrom 0 0 bytes).getD (.cut bytes.length))

/-- Decodes bytes one after another, a replacement standing for each run of bytes that belong to no
character together; `skip` of them have been dealt with. -/
def mendFrom : Nat → List UInt8 → List Char
  | _, [] => []
  | skip + 1, _ :: rest => mendFrom skip rest
  | 0, b :: rest =>
    if b < 0x80 then Char.ofNat b.toNat :: mendFrom 0 rest
    else
      match wideChar? b rest with
      | some (c, n) => c :: mendFrom n rest
      | none =>
        '\ufffd' :: mendFrom (match strayAt 0 b rest with
          | .stray count _ => count - 1
          | .cut _ => rest.length) rest

/-- **The text of any bytes,** what is no text being replaced. -/
def mendedText (bytes : List UInt8) : String := String.ofList (mendFrom 0 bytes)

/-- The bytes of a text. -/
def bytesOfText (s : String) : List UInt8 := s.toUTF8.toList

end MapExport.Text
