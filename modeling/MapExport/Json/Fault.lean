import MapExport.Uid
import MapExport.Instant.Read
import MapExport.Text.Quoted
import MapExport.Decimal.Layout

/-!
# What can be wrong with a document

A text may fail to be a document, and a document may fail to be what is asked for. Both are reported by
their cause; the wording is in one place, `Fault.message`. Where in the text the fault lies is not part
of it.
-/

set_option autoImplicit false

namespace MapExport.Json

/-- **What was found** where something else was expected. -/
inductive Kind where
  | null
  | bool (b : Bool)
  | whole (n : Int)
  | real (x : Float)
  | text (s : String)
  | list
  | record

/-- **What was expected** where something else was found. -/
inductive Shape where
  | text
  | bool
  | real
  | list
  | map
  | nothing
  | pair
  | uid
  | instant
  | choice
  | choiceName
  | record (name : String)
  | tagged (name : String)
  deriving DecidableEq, Repr

/-- **The length that was expected** of a list that is too short or too long. -/
inductive Extent where
  | pair
  | record (name : String) (fields : Nat)
  | tagged (name : String)
  | atMost (items : Nat)
  | fewer
  deriving DecidableEq, Repr

/-- **A fault in a document.** -/
inductive Fault where
  | endOfValue
  | endOfList
  | endOfObject
  | endOfString
  | expectedColon
  | expectedCommaOrBracket
  | expectedCommaOrBrace
  | expectedValue
  | expectedWord
  | keyNotText
  | trailingComma
  | trailingCharacters
  | invalidNumber
  | numberOutOfRange
  | invalidEscape
  | controlCharacter
  | endOfHexEscape
  | loneSurrogate
  | invalidCodePoint
  | recursionLimit
  | wrongKind (found : Kind) (expected : Shape)
  | wrongLength (found : Nat) (expected : Extent)
  | notOneKey
  | unknownVariant (found : String) (known : List String)
  | missingField (name : String)
  | duplicateField (name : String)
  | uid (fault : Uid.Fault)
  | instant (fault : Instant.Fault)

/-- How a found value is described. -/
def Kind.describe : Kind → String
  | .null => "null"
  | .bool b => "boolean `" ++ (if b then "true" else "false") ++ "`"
  | .whole n => "integer `" ++ toString n ++ "`"
  | .real x => "floating point `" ++ Decimal.Layout.document.render x ++ "`"
  | .text s => "string " ++ Text.quote s
  | .list => "sequence"
  | .record => "map"

/-- How an expected value is described. -/
def Shape.describe : Shape → String
  | .text => "a string"
  | .bool => "a boolean"
  | .real => "f64"
  | .list => "a sequence"
  | .map => "a map"
  | .nothing => "unit"
  | .pair => "an array of length 2"
  | .uid => "a formatted UUID string"
  | .instant => "an RFC 3339 formatted date and time string"
  | .choice => "string or map"
  | .choiceName => "variant identifier"
  | .record name => "struct " ++ name
  | .tagged name => "adjacently tagged enum " ++ name

/-- A number of elements. -/
def elements (n : Nat) : String :=
  toString n ++ (if n = 1 then " element" else " elements")

/-- How an expected length is described. -/
def Extent.describe : Extent → String
  | .pair => Shape.pair.describe
  | .record name n => "struct " ++ name ++ " with " ++ elements n
  | .tagged name => (Shape.tagged name).describe
  | .atMost n => elements n ++ " in sequence"
  | .fewer => "fewer elements in array"

/-- How the known names are listed. -/
def knownNames : List String → String
  | [] => "there are no variants"
  | [a] => "expected `" ++ a ++ "`"
  | [a, b] => "expected `" ++ a ++ "` or `" ++ b ++ "`"
  | names => "expected one of " ++ ", ".intercalate (names.map fun n => "`" ++ n ++ "`")

/-- **The text of a fault.** -/
def Fault.message : Fault → String
  | .endOfValue => "EOF while parsing a value"
  | .endOfList => "EOF while parsing a list"
  | .endOfObject => "EOF while parsing an object"
  | .endOfString => "EOF while parsing a string"
  | .expectedColon => "expected `:`"
  | .expectedCommaOrBracket => "expected `,` or `]`"
  | .expectedCommaOrBrace => "expected `,` or `\x7d`"
  | .expectedValue => "expected value"
  | .expectedWord => "expected ident"
  | .keyNotText => "key must be a string"
  | .trailingComma => "trailing comma"
  | .trailingCharacters => "trailing characters"
  | .invalidNumber => "invalid number"
  | .numberOutOfRange => "number out of range"
  | .invalidEscape => "invalid escape"
  | .controlCharacter => "control character (\\u0000-\\u001F) found while parsing a string"
  | .endOfHexEscape => "unexpected end of hex escape"
  | .loneSurrogate => "lone leading surrogate in hex escape"
  | .invalidCodePoint => "invalid unicode code point"
  | .recursionLimit => "recursion limit exceeded"
  | .wrongKind found expected =>
    "invalid type: " ++ found.describe ++ ", expected " ++ expected.describe
  | .wrongLength found expected =>
    "invalid length " ++ toString found ++ ", expected " ++ expected.describe
  | .notOneKey => "invalid value: map, expected map with a single key"
  | .unknownVariant found known =>
    "unknown variant `" ++ found ++ "`, " ++ knownNames known
  | .missingField name => "missing field `" ++ name ++ "`"
  | .duplicateField name => "duplicate field `" ++ name ++ "`"
  | .uid fault => "UUID parsing failed: " ++ fault.message
  | .instant fault => fault.message

end MapExport.Json
