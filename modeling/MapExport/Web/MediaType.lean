/-!
# Media types

What a body is said to be: a type and a subtype between which a slash stands, and then parameters, each
after a semicolon. Only whether a body is a document matters here, but a text that is no media type says
nothing about a body, so all of it is looked at.

The subtype may have a suffix, behind its last plus sign, that names what it is written in.
-/

set_option autoImplicit false

namespace MapExport.Web

/-- **A media type** without its parameters, in lower case. -/
structure MediaType where
  top : String
  sub : String
  suffix : Option String
  deriving DecidableEq, Repr

namespace MediaType

/-- Whether a character may stand in a name or in a bare value. -/
def isTokenChar (c : Char) : Bool := c.isAlphanum || "!#$%&'*+-.^_\x60|~".toList.contains c

/-- Whether a character may stand between quotes. -/
def isQuotable (c : Char) : Bool := 31 < c.toNat && c.toNat != 127

/-- **Where in the parameters a text is.** In a name, in a value and between quotes it matters whether
there has been a character yet. -/
inductive Spot where
  | name (begun : Bool)
  | value (begun : Bool)
  | quoted (begun : Bool)
  | afterQuotes
  deriving DecidableEq, Repr

/-- The next spot, after a character; a character that cannot stand there has none. -/
def Spot.next? (c : Char) : Spot → Option Spot
  | .name begun =>
    if c = ' ' ∧ !begun then some (.name false)
    else if c = '=' ∧ begun then some (.value false)
    else if isTokenChar c then some (.name true)
    else none
  | .value begun =>
    if c = '"' ∧ !begun then some (.quoted false)
    else if c = ';' ∧ begun then some (.name false)
    else if isTokenChar c then some (.value true)
    else none
  | .quoted begun =>
    if c = '"' ∧ begun then some .afterQuotes
    else if isQuotable c then some (.quoted true)
    else none
  | .afterQuotes =>
    if c = ';' then some (.name false) else if c = ' ' then some .afterQuotes else none

/-- Whether parameters may end at a spot. -/
def Spot.isEnd : Spot → Bool
  | .name begun => !begun
  | .value _ | .afterQuotes => true
  | .quoted _ => false

/-- Whether a text is a list of parameters. -/
def areParameters (cs : List Char) : Bool :=
  (cs.foldlM (fun spot c => Spot.next? c spot) (.name false)).any Spot.isEnd

/-- Splits a subtype before its last plus sign, unless it begins with that. -/
def splitSuffix (sub : List Char) : List Char × Option (List Char) :=
  let suffix := (sub.reverse.takeWhile (· != '+')).reverse
  let front := sub.take (sub.length - suffix.length - 1)
  if suffix.length = sub.length ∨ front.isEmpty then (sub, none) else (front, some suffix)

/-- **Reading a media type.** -/
def ofText? (s : String) : Option MediaType := do
  let lower (cs : List Char) : String := String.ofList (cs.map Char.toLower)
  let (top, rest) := s.toList.span isTokenChar
  let (sub, parameters) := (rest.drop 1).span isTokenChar
  let (front, suffix) := splitSuffix sub
  if top.isEmpty || rest.head? != some '/' then none
  else if parameters.isEmpty || (!sub.isEmpty && (parameters.head? == some ';' ||
      parameters.head? == some ' ') && areParameters (parameters.drop 1)) then
    some ⟨lower top, lower front, suffix.map lower⟩
  else none

/-- **Whether it is the type of documents,** or of something that is written as one. -/
def isDocument (t : MediaType) : Bool := t.sub == "json" || t.suffix == some "json"

end MediaType

end MapExport.Web
