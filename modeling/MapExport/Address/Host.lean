import MapExport.Address.Basic
import MapExport.Address.Groups
import MapExport.Hostname.Ascii

/-!
# Hosts

A host is a name, or four numbers, or sixteen bytes between brackets. A name that ends in a number has to
be four numbers, which may be fewer if the last one stands for several, and each of which may be
written in octal or hexadecimal. For protocols without rules of their own a host is just a name.
-/

set_option autoImplicit false

namespace MapExport.Address

/-- Characters that no host may hold. -/
def badInHost : List Char :=
  [Char.ofNat 0, '\t', '\n', '\r', ' ', '#', '/', ':', '<', '>', '?', '@', '[', '\\', ']', '^', '|']

/-- Characters that no host name on the web may hold. -/
def isBadInDomain (c : Char) : Bool := c.toNat < 32 || c.toNat == 127 || c == '%' || badInHost.contains c

/-- The number that digits of a base below ten write. -/
def baseNumber? (base : Nat) (cs : List Char) : Option Nat :=
  cs.foldlM (fun n c => if c.isDigit && c.toNat - 48 < base then some (base * n + (c.toNat - 48)) else none)
    0

/-- One of the numbers of a host: decimal, octal after a zero, hexadecimal after `0x`. -/
def hostNumber? : List Char → Option Nat
  | [] => none
  | '0' :: 'x' :: cs => Text.hexNumber? cs
  | ['0'] => some 0
  | '0' :: cs => baseNumber? 8 cs
  | cs => baseNumber? 10 cs

/-- The labels of a host name, a dot at its end being ignored. -/
def labels (host : String) : List String :=
  let parts := host.splitOn "."
  if 1 < parts.length ∧ parts.getLast? = some "" then parts.dropLast else parts

/-- Whether the last label of a host is a number. -/
def endsInNumber (host : String) : Bool :=
  match (labels host).getLast? with
  | none => false
  | some l =>
    (l != "" && l.toList.all Char.isDigit) || (l.startsWith "0x" && (hostNumber? l.toList).isSome)

/-- The number of four bytes that up to four numbers write, the last one filling what is left. -/
def joinNumbers? : Nat → List Nat → Option Nat
  | 0, _ => none
  | _, [] => none
  | room + 1, [n] => if n < Nat.pow 256 (room + 1) then some n else none
  | room + 1, n :: rest =>
    if n < 256 then (joinNumbers? room rest).map (n * Nat.pow 256 room + ·) else none

/-- Four numbers in their usual form. -/
def fourNumbers (n : Nat) : String :=
  ".".intercalate ([24, 16, 8, 0].map fun k => toString (n / Nat.pow 2 k % 256))

/-- A host between brackets. -/
def bracketed (cs : List Char) : Except Fault String :=
  match (if cs.getLast? = some ']' then groups? (cs.drop 1).dropLast else none) with
  | some groups => .ok ("[" ++ groupText groups ++ "]")
  | none => .error .sixteenBytes

/-- **A host on the web.** -/
def webHost (cs : List Char) : Except Fault String :=
  if cs.head? = some '[' then bracketed cs
  else
    match Hostname.toAscii? (unescape (String.ofList cs)).toList with
    | none => .error .domain
    | some [] => .error .noHost
    | some ascii =>
      let name := String.ofList ascii
      if ascii.any isBadInDomain then .error .domain
      else if endsInNumber name then
        match ((labels name).mapM fun l => hostNumber? l.toList).bind (joinNumbers? 4) with
        | some n => .ok (fourNumbers n)
        | none => .error .fourNumbers
      else .ok name

/-- **A host elsewhere.** -/
def plainHost (cs : List Char) : Except Fault String :=
  if cs.head? = some '[' then bracketed cs
  else if cs.any badInHost.contains then .error .hostCharacter
  else .ok (String.ofList (escape [] cs))

end MapExport.Address
