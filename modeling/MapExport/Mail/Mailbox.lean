import MapExport.Mail.Domain
import MapExport.Text.Blank

/-!
# Mailboxes

A mailbox is an address, `user@domain`, or a name and an address between angle brackets. A name is made of
words, bare or quoted, and dots; blanks between them count as one. User and domain are pieces joined by
dots, and a user may be quoted. Characters beyond ASCII are let through everywhere.
-/

set_option autoImplicit false

namespace MapExport

/-- **A mailbox.** -/
structure Mailbox where
  name : Option String
  user : String
  domain : String
  deriving DecidableEq, Repr

namespace Mailbox

/-- **What is wrong** with a text that is no mailbox. -/
inductive Fault where
  | form
  | user
  | domain
  deriving DecidableEq, Repr

/-- The text of a fault. -/
def Fault.message : Fault → String
  | .form => "Invalid input"
  | .user => "Invalid email user"
  | .domain => "Invalid email domain"

/-! ## Words -/

/-- A blank inside a line. -/
def isSpace (c : Char) : Bool := c == ' ' || c == '\t'

/-- A bare word. -/
def bareWord? (cs : List Char) : Option (List Char × List Char) :=
  match cs.span Domain.isWordChar with
  | ([], _) => none
  | found => some found

/-- Whether a character may stand between quotes without a backslash. -/
def isQuotable (c : Char) : Bool :=
  let n := c.toNat
  c != '"' && c != '\\' && !(n == 0 || n == 9 || n == 10 || n == 13 || n == 32)

/-- Whether a character may stand between quotes after a backslash. -/
def isEscapable (c : Char) : Bool :=
  let n := c.toNat
  1 ≤ n && n < 128 && n != 10 && n != 13

/-- What follows the second quote, if only blanks stand before that. -/
def closed? (cs : List Char) : Option (List Char) :=
  match Text.dropBlanks cs with
  | '"' :: rest => some rest
  | _ => none

/-- What stands between quotes up to the second one. Of several blanks the first counts, and none before
the second quote. -/
def quotedFrom (space : List Char) : List Char → Option (List Char × List Char)
  | [] => none
  | ['\\'] => none
  | '\\' :: c :: cs =>
    if isEscapable c then (quotedFrom [] cs).map fun (q, rest) => (space ++ c :: q, rest) else none
  | c :: cs =>
    if isSpace c then quotedFrom (if space.isEmpty then [c] else space) cs
    else if isQuotable c then (quotedFrom [] cs).map fun (q, rest) => (space ++ c :: q, rest)
    else (closed? (c :: cs)).map fun rest => ([], rest)

/-- A quoted text. -/
def quoted? : List Char → Option (List Char × List Char)
  | '"' :: cs => quotedFrom [] cs
  | _ => none

/-- A word of a name. -/
def word? (cs : List Char) : Option (List Char × List Char) := quoted? cs <|> bareWord? cs

/-! ## Names -/

/-- A dot. -/
def dot? : List Char → Option (List Char × List Char)
  | '.' :: cs => some (['.'], cs)
  | _ => none

/-- The next word or dot of a name, with a blank if one stands before it. -/
def nextWord? (cs : List Char) : Option (List Char × List Char) :=
  let rest := cs.dropWhile isSpace
  (word? rest <|> dot? rest).map fun (w, rest) =>
    (if cs.head?.any isSpace then ' ' :: w else w, rest)

/-- The words and dots of a name, at most so many. -/
def wordsFrom : Nat → List Char → List Char × List Char
  | 0, cs => ([], cs)
  | n + 1, cs =>
    match nextWord? cs with
    | none => ([], cs)
    | some (w, rest) =>
      let (more, rest) := wordsFrom n rest
      (w ++ more, rest)

/-- The name at the start of a text, if there is one, and what follows it. -/
def nameOf (cs : List Char) : Option String × List Char :=
  match word? (cs.dropWhile isSpace) with
  | none => (none, cs)
  | some (w, rest) =>
    let (more, rest) := wordsFrom rest.length rest
    (some (String.ofList (w ++ more)), rest)

/-! ## Addresses -/

/-- Further pieces after dots, at most so many. -/
def piecesFrom : Nat → List Char → List Char × List Char
  | n + 1, '.' :: cs =>
    match cs.span Domain.isWordChar with
    | ([], _) => ([], '.' :: cs)
    | (piece, rest) =>
      let (more, rest) := piecesFrom n rest
      ('.' :: piece ++ more, rest)
  | _, cs => ([], cs)

/-- Pieces joined by dots. -/
def pieces? (cs : List Char) : Option (List Char × List Char) :=
  (bareWord? cs).map fun (w, rest) =>
    let (more, rest) := piecesFrom rest.length rest
    (w ++ more, rest)

/-- An address at the start of a text, and what follows it. Blanks before user and domain do not count. -/
def address? (cs : List Char) : Option (String × String × List Char) := do
  let cs := cs.dropWhile isSpace
  let (user, rest) ← pieces? cs <|> quoted? cs
  match rest with
  | '@' :: rest => do
    let (domain, rest) ← pieces? (rest.dropWhile isSpace)
    some (String.ofList user, String.ofList domain, rest)
  | _ => none

/-- A name and an address between brackets, and what follows them. -/
def named? (cs : List Char) : Option (Mailbox × List Char) := do
  let (name, rest) := nameOf cs
  match Text.dropBlanks rest with
  | '<' :: rest => do
    let (user, domain, rest) ← address? rest
    match rest with
    | '>' :: rest => some (⟨name, user, domain⟩, Text.dropBlanks rest)
    | _ => none
  | _ => none

/-- An address alone, and what follows it. -/
def bare? (cs : List Char) : Option (Mailbox × List Char) :=
  (address? cs).map fun (user, domain, rest) => (⟨none, user, domain⟩, Text.dropBlanks rest)

/-! ## Mailboxes -/

/-- A mailbox at the start of a text, and what follows it. -/
def next? (cs : List Char) : Option (Mailbox × List Char) :=
  let cs := Text.dropBlanks cs
  named? cs <|> bare? cs

/-- Whether characters may stand between the quotes of a user. -/
def isQuotedUser : List Char → Bool
  | [] => true
  | ['\\'] => false
  | '\\' :: c :: cs => 33 ≤ c.toNat && c.toNat < 127 && isQuotedUser cs
  | c :: cs => (isSpace c || (32 < c.toNat && c != '"' && c.toNat != 127)) && isQuotedUser cs

/-- Whether a user can be written to. -/
def isUser (s : String) : Bool :=
  s.utf8ByteSize ≤ 64 &&
    if s.startsWith "\"" && s.endsWith "\"" then
      2 < s.utf8ByteSize && isQuotedUser (s.toList.drop 1).dropLast
    else (s.splitOn ".").all fun p => p != "" && p.toList.all Domain.isWordChar

/-- A mailbox whose user and domain can be written to. -/
def checked (m : Mailbox) : Except Fault Mailbox :=
  if !isUser m.user then .error .user
  else if !Domain.isReachable m.domain then .error .domain
  else .ok m

/-- **Reading a mailbox.** -/
def ofText (s : String) : Except Fault Mailbox :=
  match next? s.toList with
  | some (m, []) => m.checked
  | _ => .error .form

/-- Further mailboxes after commas, at most so many. -/
def listFrom? : Nat → List Char → Option (List Mailbox)
  | n + 1, ',' :: cs => do
    let (m, rest) ← next? cs
    let m ← m.checked.toOption
    some (m :: (← listFrom? n rest))
  | _, [] => some []
  | _, _ => none

/-- **Reading mailboxes** with commas between them. -/
def listOfText? (s : String) : Option (List Mailbox) := listFrom? (s.length + 1) (',' :: s.toList)

/-- **The address** of a mailbox, without the name. -/
def address (m : Mailbox) : String := m.user ++ "@" ++ m.domain

/-- A character between quotes. -/
def quoteChar (c : Char) : List Char := if isQuotable c || isSpace c then [c] else ['\\', c]

/-- A name as it stands before an address: bare if it is made of bare words. -/
def nameText (name : String) : String :=
  if name.toList.all fun c => Domain.isWordChar c || isSpace c then name
  else String.ofList ('"' :: name.toList.flatMap quoteChar ++ ['"'])

/-- **The text of a mailbox.** A name that is blank is left out. -/
def text (m : Mailbox) : String :=
  match m.name.map Text.trim with
  | none => m.address
  | some "" => m.address
  | some name => nameText name ++ " <" ++ m.address ++ ">"

/-- **The text of mailboxes.** -/
def listText (ms : List Mailbox) : String := ", ".intercalate (ms.map text)

end Mailbox

end MapExport
