import MapExport.Json.Scan.Symbol

/-!
# Reading quoted text

A quoted text ends at the first quote that is not escaped. A character beyond sixteen bits may be
escaped as a pair of surrogates, which have to come together and in order. A text that is passed over
is held to the form of its escapes only.
-/

set_option autoImplicit false

namespace MapExport.Json

/-- The bytes of a symbol. -/
def symbolSize : Option Char → Nat
  | some c => c.utf8Size
  | none => 1

/-- Four hexadecimal digits. They are missing when fewer than four bytes are left. -/
def readHex (cs : Symbols) : Except Fault (Nat × Symbols) :=
  if ((cs.take 4).map symbolSize).foldl (· + ·) 0 < 4 then .error .endOfString
  else
    match (cs.take 4).mapM id with
    | some ds =>
      match Text.hexNumber? ds with
      | some n => .ok (n, cs.drop 4)
      | none => .error .invalidEscape
    | none => .error .invalidEscape

/-- The second half of a pair of surrogates, after the first half `high`. -/
def readLowSurrogate (high : Nat) : Symbols → Except Fault (Char × Symbols)
  | [] => .error .endOfString
  | some '\\' :: [] => .error .endOfString
  | some '\\' :: some 'u' :: cs => do
    let (low, rest) ← readHex cs
    if low < 0xDC00 ∨ 0xDFFF < low then .error .loneSurrogate
    else .ok (Char.ofNat ((high - 0xD800) * 1024 + (low - 0xDC00) + 0x10000), rest)
  | _ => .error .endOfHexEscape

/-- The character that a hexadecimal escape stands for. -/
def readCodeUnit (cs : Symbols) : Except Fault (Char × Symbols) := do
  let (n, rest) ← readHex cs
  if 0xDC00 ≤ n ∧ n ≤ 0xDFFF then .error .loneSurrogate
  else if 0xD800 ≤ n ∧ n ≤ 0xDBFF then readLowSurrogate n rest
  else .ok (Char.ofNat n, rest)

/-- The letters that escape one character each. -/
def letterEscape? : Char → Option Char
  | '"' => some '"'
  | '\\' => some '\\'
  | '/' => some '/'
  | 'b' => some (Char.ofNat 8)
  | 'f' => some (Char.ofNat 12)
  | 'n' => some '\n'
  | 'r' => some '\r'
  | 't' => some '\t'
  | _ => none

/-- The character of an escape, the backslash having been read. -/
def readEscape : Symbols → Except Fault (Char × Symbols)
  | [] => .error .endOfString
  | some 'u' :: cs => readCodeUnit cs
  | some c :: cs =>
    match letterEscape? c with
    | some e => .ok (e, cs)
    | none => .error .invalidEscape
  | none :: _ => .error .invalidEscape

/-- The symbols of a quoted text up to its closing quote; `fuel` bounds their number. -/
def readQuotedFrom : Nat → Symbols → Except Fault (Symbols × Symbols)
  | 0, _ => .error .endOfString
  | _ + 1, [] => .error .endOfString
  | fuel + 1, c :: cs =>
    if c = some '"' then .ok ([], cs)
    else if c = some '\\' then do
      let (e, rest) ← readEscape cs
      let (body, rest) ← readQuotedFrom fuel rest
      .ok (some e :: body, rest)
    else if c.any (·.toNat < 32) then .error .controlCharacter
    else do
      let (body, rest) ← readQuotedFrom fuel cs
      .ok (c :: body, rest)

/-- **A quoted text,** its opening quote having been read. -/
def readQuoted (cs : Symbols) : Except Fault (String × Symbols) := do
  let (body, rest) ← readQuotedFrom (cs.length + 1) cs
  match body.mapM id with
  | some chars => .ok (String.ofList chars, rest)
  | none => .error .invalidCodePoint

/-- Passes over an escape. -/
def skipEscape : Symbols → Except Fault Symbols
  | [] => .error .endOfString
  | some 'u' :: cs => (readHex cs).map (·.2)
  | some c :: cs => if (letterEscape? c).isSome then .ok cs else .error .invalidEscape
  | none :: _ => .error .invalidEscape

/-- Passes over a quoted text; `fuel` bounds its length. -/
def skipQuotedFrom : Nat → Symbols → Except Fault Symbols
  | 0, _ => .error .endOfString
  | _ + 1, [] => .error .endOfString
  | fuel + 1, c :: cs =>
    if c = some '"' then .ok cs
    else if c = some '\\' then do skipQuotedFrom fuel (← skipEscape cs)
    else if c.any (·.toNat < 32) then .error .controlCharacter
    else skipQuotedFrom fuel cs

/-- **Passing over a quoted text,** its opening quote having been read. -/
def skipQuoted (cs : Symbols) : Except Fault Symbols := skipQuotedFrom (cs.length + 1) cs

end MapExport.Json
