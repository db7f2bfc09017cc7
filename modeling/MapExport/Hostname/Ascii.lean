import MapExport.Hostname.Direction
import MapExport.Hostname.Joining
import MapExport.Hostname.MappingTable
import MapExport.Hostname.Punycode
import MapExport.Text.Normal

/-!
# Names of hosts in ASCII

A name of any script is brought into its plain form, in which names that look the same are the same, and
each of its parts that is not ASCII then is written in ASCII, after a sign that says so. A part that bears
the sign already has to be the writing of a part in plain form.
-/

set_option autoImplicit false

namespace MapExport.Hostname

/-- Whether a character is ASCII. -/
def isAscii (c : Char) : Bool := c.toNat < 128

/-- Whether a character has no place in a name. -/
def isForbidden (c : Char) : Bool := forbiddenRows.any fun r => r.covers c.toNat

/-- The characters that stand for one, if it has a place in a name. Plain ASCII is tested first; only what
lies beyond it needs the tables. -/
def plain? (c : Char) : Option (List Char) :=
  if isAscii c then some [c.toLower]
  else if isForbidden c then none
  else
    match mappingRows.find? fun r => r.covers c.toNat with
    | some r => some (r.imageOf c.toNat)
    | none => some [c]

/-- Whether a character stands for itself. -/
def isPlain (c : Char) : Bool := plain? c == some [c]

/-- The sign of a part that is written in ASCII. -/
def sign : List Char := "xn--".toList

/-- The part that a part in plain form stands for. -/
def meaning? (part : List Char) : Option (List Char) :=
  if sign.isPrefixOf part then
    match Punycode.decode (part.drop sign.length) with
    | none => none
    | some cs =>
      if part.all isAscii && cs.all isPlain && Text.normal cs == cs && !cs.all isAscii then some cs
      else none
  else some part

/-- Whether a part may stand in a name. -/
def isSound (part : List Char) : Bool := !part.head?.any isMark && joinersFit [] part

/-- A part in ASCII. -/
def written (part : List Char) : List Char :=
  if part.all isAscii then part else sign ++ Punycode.encode part

/-- **A name in ASCII.** -/
def toAscii? (name : List Char) : Option (List Char) := do
  let plain ← name.mapM plain?
  let parts ← ((Text.normal plain.flatten).splitOn '.').mapM meaning?
  if parts.all isSound && Direction.fits parts then
    some (['.'].intercalate (parts.map written))
  else none

end MapExport.Hostname
