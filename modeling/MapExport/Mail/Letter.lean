import MapExport.Failure
import MapExport.Mail.Head

/-!
# Mails and letters

A mail to people has a plain and a marked-up form that say the same. It becomes a letter when its
addresses have been read: there are people to whom it goes and one from whom it comes. The head of a
letter holds the addresses as text, and where the letter goes is read from that text; a user that was
quoted twice is quoted once there.
-/

set_option autoImplicit false

namespace MapExport

/-- **A mail.** -/
structure Mail where
  subject : String
  plain : String
  marked : String
  sender : String
  recipients : List String
  deriving DecidableEq, Repr

/-- **A letter:** what its head says, who it goes to and comes from, and its two forms. -/
structure Letter where
  sender : Mailbox
  recipients : List Mailbox
  subject : String
  plain : String
  marked : String
  sentBy : String
  sentTo : List String
  deriving DecidableEq, Repr

namespace Letter

/-- The mailbox of an address that a mail names. -/
def mailbox (address : String) : Except Failure Mailbox :=
  (Mailbox.ofText address).mapError fun e => .mail (address ++ ": " ++ e.message)

/-- One more recipient after those that the head names. If those cannot be read there, they are lost. -/
def join : List Mailbox → Mailbox → List Mailbox
  | [], m => [m]
  | ms, m => ((Mailbox.listOfText? (Mailbox.listText ms)).getD []) ++ [m]

/-- The addresses that the head names. -/
def addresses (ms : List Mailbox) : List String :=
  match ms with
  | [] => []
  | ms => ((Mailbox.listOfText? (Mailbox.listText ms)).getD []).map Mailbox.address

/-- **The letter of a mail.** The sender is read first, and there has to be a recipient. -/
def ofMail (m : Mail) : Except Failure Letter := do
  let sender ← mailbox m.sender
  let recipients := (← m.recipients.mapM mailbox).foldl join []
  match addresses [sender], addresses recipients with
  | [], _ => .error (.mail "missing source address, invalid envelope")
  | _, [] => .error (.mail "missing destination address, invalid envelope")
  | sentBy :: _, sentTo => .ok ⟨sender, recipients, m.subject, m.plain, m.marked, sentBy, sentTo⟩

/-- **The head of a letter,** field by field and line by line. -/
def head (l : Letter) : List (List String) :=
  [Head.mailboxField "From" [l.sender], Head.mailboxField "To" l.recipients,
    Head.subjectField "Subject" l.subject]

/-- Whether a text is ASCII. -/
def isAscii (s : String) : Bool := s.toList.all fun c => c.toNat < 128

/-- Whether all the addresses that the letter is sent by and to are ASCII. -/
def goesByAscii (l : Letter) : Bool := (l.sentBy :: l.sentTo).all isAscii

/-- Whether all of a letter is ASCII; outside of addresses all is. -/
def isAllAscii (l : Letter) : Bool := (l.sender :: l.recipients).all fun m => isAscii m.address

end Letter

end MapExport
