import MapExport.Text.Number

/-!
# Identifiers

Everything the service stores is named by a number of 128 bits. It is written as thirty-two
hexadecimal digits in five groups, and always in lower case. Reading is more lenient: the hyphens may
all be missing, and the hyphenated form may stand between braces or behind `urn:uuid:`.

A text that is no identifier is told what is wrong with it. The search for the fault goes from left to
right: the first foreign character, else the number of groups, else the first group of a wrong length.
-/

set_option autoImplicit false

namespace MapExport

/-- **Identifier.** A number of 128 bits. -/
structure Uid where
  value : BitVec 128
  deriving DecidableEq, Repr

namespace Uid

instance : Inhabited Uid := ⟨⟨0⟩⟩

/-- What is wrong with a text that is no identifier. Groups and characters are counted from zero. -/
inductive Fault where
  | character (found : Char) (index : Nat)
  | length (found : Nat)
  | groupCount (found : Nat)
  | groupLength (group expected found : Nat)
  deriving DecidableEq, Repr

/-- The text of a fault. -/
def Fault.message : Fault → String
  | .character c i => "invalid character: found `" ++ c.toString ++ "` at " ++ toString i
  | .length n => "invalid length: found " ++ toString n
  | .groupCount n => "invalid group count: expected 5, found " ++ toString n
  | .groupLength g e n =>
    "invalid group length in group " ++ toString g ++ ": expected " ++ toString e ++
      ", found " ++ toString n

/-- **An identifier out of a random number.** Six of its bits say that it was made that way. -/
def random (n : Nat) : Uid :=
  let bits := BitVec.ofNat 128 n
  ⟨bits &&& ~~~(0xf000c000000000000000#128) ||| 0x40008000000000000000#128⟩

/-- The digits of an identifier, most significant first. -/
def digits (u : Uid) : List Char :=
  (List.range 32).map fun i => Text.hexDigit (u.value.toNat / Nat.pow 16 (31 - i) % 16)

/-- The five groups with hyphens between them. -/
def hyphenate (ds : List Char) : List Char :=
  ds.take 8 ++ '-' :: (ds.drop 8).take 4 ++ '-' :: (ds.drop 12).take 4 ++ '-' ::
    (ds.drop 16).take 4 ++ '-' :: ds.drop 20

/-- **The text of an identifier,** in lower case and with hyphens. -/
def chars (u : Uid) : List Char := hyphenate u.digits

/-- The text of an identifier, as a string. -/
def text (u : Uid) : String := String.ofList u.chars

/-- Thirty-two digits without hyphens. -/
def ofDigits? (cs : List Char) : Option Uid :=
  if cs.length = 32 then (Text.hexNumber? cs).map fun n => ⟨BitVec.ofNat 128 n⟩ else none

/-- The hyphenated form: hyphens at the four places and nowhere else. -/
def ofHyphenated? (cs : List Char) : Option Uid :=
  if cs.length = 36 ∧ [8, 13, 18, 23].all (fun i => cs[i]? == some '-') then
    ofDigits? (cs.take 8 ++ (cs.drop 9).take 4 ++ (cs.drop 14).take 4 ++ (cs.drop 19).take 4 ++
      cs.drop 24)
  else none

/-- The letters that may stand before the hyphenated form. -/
def urn : List Char := ['u', 'r', 'n', ':', 'u', 'u', 'i', 'd', ':']

/-- What stands between the braces, or behind the letters of a name; with it the number of characters
passed over, and whether the text was bare. -/
def unwrapped (cs : List Char) : List Char × Nat × Bool :=
  if cs.head? = some '{' ∧ cs.getLast? = some '}' ∧ 2 ≤ cs.length then
    ((cs.drop 1).dropLast, 1, false)
  else if urn.isPrefixOf cs then (cs.drop 9, 9, false)
  else (cs, 0, true)

/-- The places of the hyphens, or the first character that is neither hyphen nor digit. -/
def hyphens (offset : Nat) : Nat → List Char → Except Fault (List Nat)
  | _, [] => .ok []
  | i, c :: cs =>
    if c = '-' then (hyphens offset (i + 1) cs).map (i :: ·)
    else if (Text.hexValue? c).isSome then hyphens offset (i + 1) cs
    else .error (.character c (offset + i))

/-- The first group whose end is not where it belongs, `size` being the length of the whole text. -/
def groupFault (size : Nat) (ends : List Nat) : Fault :=
  let wrong := [(0, 0, 8), (1, 9, 4), (2, 14, 4), (3, 19, 4)].filterMap fun (g, start, len) =>
    match ends[g]? with
    | some e => if e = start + len then none else some (Fault.groupLength g len (e - start))
    | none => none
  wrong.head?.getD (.groupLength 4 12 (size - 24))

/-- **What is wrong** with a text that is no identifier. -/
def fault (cs : List Char) : Fault :=
  let (body, offset, bare) := unwrapped cs
  match hyphens offset 0 body with
  | .error e => e
  | .ok ends =>
    if ends.isEmpty && bare then .length cs.length
    else if ends.length ≠ 4 then .groupCount (ends.length + 1)
    else groupFault cs.length ends

/-- **Reading an identifier** in any of its four forms. -/
def ofChars (cs : List Char) : Except Fault Uid :=
  let found : Option Uid :=
    match unwrapped cs with
    | (body, _, true) => ofDigits? body <|> ofHyphenated? body
    | (body, _, false) => ofHyphenated? body
  match found with
  | some u => .ok u
  | none => .error (fault cs)

/-- Reading an identifier from a string. -/
def ofText (s : String) : Except Fault Uid := ofChars s.toList

end Uid

end MapExport
