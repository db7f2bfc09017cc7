import MapExport.Mail.Folding
import MapExport.Mail.Mailbox

/-!
# The head of a letter

The head is written in ASCII, in fields that are folded. A name that is more than one word is quoted, and
one that has more than letters, digits, dots, blanks, quotes and backslashes is encoded as a whole. In a
subject only those words are encoded that cannot stand as they are, neighbours together.
-/

set_option autoImplicit false

namespace MapExport.Head

/-- Whether a character of a name needs no quotes. -/
def isBare (c : Char) : Bool := c.isAlphanum || c == '.'

/-- Whether a character of a name needs a backslash between quotes. -/
def isEscaped (c : Char) : Bool := c == '"' || c == '\\'

/-- Writes a character between quotes. -/
def quotedChar (f : Folding) (c : Char) : Folding :=
  if c = ' ' then f.blank
  else f.word (String.ofList (if isEscaped c then ['\\', c] else [c]))

/-- Writes a name. -/
def name (f : Folding) (s : String) : Folding :=
  let cs := s.toList
  if cs.all isBare then f.write s
  else if cs.all fun c => isBare c || c == ' ' then ((f.write "\"").text s).write "\""
  else if cs.all fun c => isBare c || c == ' ' || isEscaped c then
    (cs.foldl quotedChar (f.write "\"")).write "\""
  else f.encode s

/-- Writes a mailbox. -/
def mailbox (f : Folding) (m : Mailbox) : Folding :=
  match m.name with
  | some n => (name f n).blank.write ("<" ++ m.address ++ ">")
  | none => f.write m.address

/-- Writes mailboxes, with commas between them. -/
def mailboxes (f : Folding) : List Mailbox → Folding
  | [] => f
  | [m] => mailbox f m
  | m :: ms => mailboxes ((mailbox f m).write ",").blank ms

/-- Whether a character may stand in a subject as it is. -/
def isPlain (c : Char) : Bool :=
  let n := c.toNat
  n != 0 && n != 10 && n != 13 && n < 128

/-- Encodes words; the blanks after them are due. -/
def encoded (f : Folding) (held : List Char) : Folding :=
  let body := (held.reverse.dropWhile (· == ' ')).reverse
  if body.isEmpty then f
  else
    let f := f.encode (String.ofList body)
    { f with blanks := f.blanks + (held.length - body.length) }

/-- Writes words; those that cannot stand as they are are gathered in `held`. -/
def wordsFrom (f : Folding) (held : List Char) : List String → Folding
  | [] => encoded f held
  | w :: ws =>
    let w := if ws.isEmpty then w else w ++ " "
    if w.toList.all isPlain then wordsFrom ((encoded f held).text w) [] ws
    else wordsFrom f (held ++ w.toList) ws

/-- Writes a subject. -/
def subject (f : Folding) (s : String) : Folding := wordsFrom f [] (s.splitOn " ")

/-- **A field that names mailboxes,** line by line. -/
def mailboxField (title : String) (ms : List Mailbox) : List String :=
  (mailboxes (.start title) ms).lines

/-- **A field that holds a subject,** line by line. -/
def subjectField (title s : String) : List String := (subject (.start title) s).lines

end MapExport.Head
