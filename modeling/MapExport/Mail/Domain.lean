import MapExport.Address.Groups
import MapExport.Hostname.Ascii
import MapExport.Text.LetterTables

/-!
# Domains of addresses

A domain is made of pieces with dots between them. Each piece begins and ends with a letter or a digit of
any script. If it is not made so, its form in ASCII may be, or may be the number of a host.
-/

set_option autoImplicit false

namespace MapExport.Domain

/-- Whether a character may stand in a bare word. -/
def isWordChar (c : Char) : Bool :=
  c.isAlphanum || 128 ≤ c.toNat || "!#$%&'*+-/=?^_\x60\x7b|\x7d~".toList.contains c

/-- Whether a piece may stand in a domain. -/
def isPiece (p : String) : Bool :=
  p.utf8ByteSize ≤ 63 && p.toList.all isWordChar && p.toList.head?.any Text.isLetterOrDigit &&
    p.toList.getLast?.any Text.isLetterOrDigit

/-- Whether a domain is made of pieces and not too long. -/
def isPlain (s : String) : Bool := s.utf8ByteSize ≤ 254 && (s.splitOn ".").all isPiece

/-- Whether a domain is the number of a host, in brackets or without. -/
def isNumber (cs : List Char) : Bool :=
  let inner := if cs.head? = some '[' ∧ cs.getLast? = some ']' then (cs.drop 1).dropLast else cs
  (Address.groups? inner).isSome || (Address.fourBytes? inner).isSome

/-- Whether a domain is made of pieces or a number. -/
def isUsual (cs : List Char) : Bool := isPlain (String.ofList cs) || isNumber cs

/-- **Whether a domain can be written to.** -/
def isReachable (s : String) : Bool := isUsual s.toList || (Hostname.toAscii? s.toList).any isUsual

end MapExport.Domain
