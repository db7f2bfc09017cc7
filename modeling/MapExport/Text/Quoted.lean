import MapExport.Text.CaseTables
import MapExport.Text.Number
import MapExport.Text.QuotedTables

/-!
# Quoted text

How a message quotes a text it was given: between double quotes, with a backslash before a quote or a
backslash, the short escapes for the four controls that have one, and `\\u{...}` for what cannot be
seen or would attach itself to its neighbour. A single quote stays bare.
-/

set_option autoImplicit false

namespace MapExport.Text

/-- Whether a quotation shows the character by its code point. -/
def isHidden (c : Char) : Bool :=
  inRanges graphemeExtendRanges c.toNat || inRanges unprintableRanges c.toNat

/-- **One quoted character.** Plain ASCII is tested first; only what lies beyond it needs the tables. -/
def quoteChar (c : Char) : List Char :=
  if c = '"' then ['\\', '"']
  else if c = '\\' then ['\\', '\\']
  else if c = '\n' then ['\\', 'n']
  else if c = '\t' then ['\\', 't']
  else if c = '\r' then ['\\', 'r']
  else if c.toNat = 0 then ['\\', '0']
  else if 0x20 ≤ c.toNat && c.toNat < 0x7F then [c]
  else if isHidden c then ['\\', 'u', '\x7b'] ++ hexDigits c.toNat ++ ['\x7d']
  else [c]

/-- **Quoted text.** -/
def quote (s : String) : String :=
  String.ofList ('"' :: s.toList.flatMap quoteChar ++ ['"'])

/-- A list of quoted texts, between brackets. -/
def quoteList (items : List String) : String :=
  "[" ++ ", ".intercalate (items.map quote) ++ "]"

end MapExport.Text
