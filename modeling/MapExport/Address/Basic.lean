import MapExport.Text.Number
import MapExport.Text.Utf8

/-!
# Addresses

The address of a service on the network: by which protocol, where, and what there. All parts are kept in
the form in which they are written, with what has no place in them escaped as a percent sign and two
hexadecimal digits for each byte.
-/

set_option autoImplicit false

namespace MapExport

/-- **An address.** A host may be empty, which is not the same as none. A port that is the usual one of
the protocol is left out. -/
structure Address where
  scheme : String
  user : String
  password : Option String
  host : Option String
  port : Option Nat
  path : String
  query : Option String
  fragment : Option String
  deriving DecidableEq, Repr

namespace Address

/-- **What is wrong** with a text that is no address. -/
inductive Fault where
  | relative
  | noHost
  | port
  | domain
  | hostCharacter
  | fourNumbers
  | sixteenBytes
  deriving DecidableEq, Repr

/-- The text of a fault. -/
def Fault.message : Fault → String
  | .relative => "relative URL without a base"
  | .noHost => "empty host"
  | .port => "invalid port number"
  | .domain => "invalid international domain name"
  | .hostCharacter => "invalid domain character"
  | .fourNumbers => "invalid IPv4 address"
  | .sixteenBytes => "invalid IPv6 address"

/-- The escape of a byte. -/
def escapeByte (b : UInt8) : List Char :=
  ['%', (Text.hexDigit (b.toNat / 16)).toUpper, (Text.hexDigit (b.toNat % 16)).toUpper]

/-- Escapes the characters that have no place among `others`, all beyond ASCII and the controls. -/
def escape (others : List Char) (cs : List Char) : List Char :=
  cs.flatMap fun c =>
    if c.toNat < 32 || 127 ≤ c.toNat || others.contains c then
      (Text.bytesOfText c.toString).flatMap escapeByte
    else [c]

/-- Undoes the escapes; a percent sign without two digits stands for itself. -/
def unescapeBytes : List Char → List UInt8
  | '%' :: a :: b :: rest =>
    match Text.hexNumber? [a, b] with
    | some n => UInt8.ofNat n :: unescapeBytes rest
    | none => Text.bytesOfText "%" ++ unescapeBytes (a :: b :: rest)
  | c :: rest => Text.bytesOfText c.toString ++ unescapeBytes rest
  | [] => []

/-- A part of an address without its escapes, what is no text being replaced. -/
def unescape (s : String) : String := Text.mendedText (unescapeBytes s.toList)

/-- A part of an address without its escapes, which has to be text. -/
def readEscaped (s : String) : Except Text.Utf8Fault String := Text.readUtf8 (unescapeBytes s.toList)

/-- The user and password in front of the host. -/
def login (a : Address) : String :=
  match a.password with
  | some p => a.user ++ ":" ++ p ++ "@"
  | none => if a.user = "" then "" else a.user ++ "@"

/-- An address without user and password, if those are text. -/
def withoutLogin (a : Address) : Address :=
  if (readEscaped a.user).isOk then { a with user := "", password := none } else a

/-- What stands between the protocol and the path. -/
def authority (a : Address) : String :=
  match a.host with
  | some h =>
    "//" ++ a.login ++ h ++
      (match a.port with
        | some p => ":" ++ toString p
        | none => "")
  | none => ""

/-- The host, if there is one with a name. -/
def hostName? (a : Address) : Option String := a.host.filter (· != "")

/-- What is asked for at the host. -/
def target (a : Address) : String :=
  a.path ++
    (match a.query with
      | some q => "?" ++ q
      | none => "")

/-- **The text of an address.** -/
def text (a : Address) : String :=
  a.scheme ++ ":" ++ a.authority ++ a.target ++
    (match a.fragment with
      | some f => "#" ++ f
      | none => "")

/-- One field of a query: a name and a value, with plus signs for blanks. -/
def fieldOf (part : String) : String × String :=
  let spaced := part.toList.map fun c => if c = '+' then ' ' else c
  let (name, value) := spaced.span (· != '=')
  (unescape (String.ofList name), unescape (String.ofList (value.drop 1)))

/-- **The fields of a query.** -/
def fields (a : Address) : List (String × String) :=
  (((a.query.getD "").splitOn "&").filter (· != "")).map fieldOf

end Address

end MapExport
