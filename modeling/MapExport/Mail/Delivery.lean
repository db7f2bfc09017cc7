import MapExport.Mail.Letter
import MapExport.Mail.Login
import MapExport.Settings.Basic
import MapExport.Workflow

/-!
# Delivery

Letters are handed to a mail server in a conversation: we say who we are and, if we are told to, show a
password; we name the sender and each recipient; and then the letter follows. The server answers
everything with a code, and a code of four hundred or more ends the conversation. What the server says
beyond an answer is taken for the next one.
-/

set_option autoImplicit false

namespace MapExport

/-- **How the conversation with the mail server is kept secret.** -/
inductive Secrecy where
  | none
  | asked
  | throughout
  deriving DecidableEq, Repr

/-- **The mail server,** and what it is told about us. -/
structure MailServer where
  host : String
  port : Nat
  secrecy : Secrecy
  login : Option MailLogin
  deriving DecidableEq, Repr

/-- **What is done with a mail server:** a connection is opened, it is made secret, a line is said, a letter
is sent. -/
inductive MailCall where
  | connect (host : String) (port : Nat)
  | conceal (host : String)
  | say (line : String)
  | send (letter : Letter)
  deriving DecidableEq, Repr

/-- What the server says to it, or why nothing is heard. -/
abbrev MailReply (_ : MailCall) : Type := Except String String

/-- A conversation with a mail server; what has been heard and not yet read goes with it. -/
abbrev MailFlow := StateT (List Char) (ExceptT DeliveryFault (Workflow MailCall MailReply))

namespace MailServer

/-- The usual port. -/
def usualPort : Nat := 587

/-- The port on which conversations are secret throughout. -/
def secretPort : Nat := 465

/-- **The mail server of the settings.** -/
def ofSettings (s : Settings) : Except Failure MailServer :=
  match s.smtpHost with
  | none => .error (.configuration "SMTP_HOST is not set")
  | some host =>
    let port := s.smtpPort.getD usualPort
    .ok
      { host, port
        secrecy := if port = secretPort then .throughout else if s.smtpTls then .asked else .none
        login := do some ⟨← s.smtpUsername, ← s.smtpPassword⟩ }

/-- Makes a call and hears what is said to it. -/
def hear (c : MailCall) : MailFlow Unit := fun unread =>
  ExceptT.mk (.call c fun reply =>
    .done
      (match (reply : Except String String) with
        | .error cause => .error (.connection cause)
        | .ok said => .ok ((), unread ++ said.toList)))

/-- The next answer, which must not be a refusal. -/
def answer : MailFlow MailAnswer := do
  match MailAnswer.read (← get) with
  | .error e => throw (.garbled e.message)
  | .ok (a, unread) =>
    set unread
    if a.isRefusal then throw (.refused a) else return a

/-- Makes a call that is answered. -/
def ask (c : MailCall) : MailFlow MailAnswer := do
  hear c
  answer

/-- Says a line. -/
def say (line : String) : MailFlow MailAnswer := ask (.say line)

/-- Says who we are; the server says who it is and what it offers. -/
def introduce (self : String) : MailFlow MailAnswer := do
  let a ← say ("EHLO " ++ self)
  if a.firstWord?.isNone then throw (.garbled "Could not read server name")
  return a

/-- What a server offers by a word: what stands after that in a line of its greeting. -/
def offered (greeting : MailAnswer) (what : String) : List (List String) :=
  greeting.lines.filterMap fun l =>
    match MailAnswer.words l with
    | w :: more => if w == what then some more else none
    | [] => none

/-- Whether the server offers something. -/
def offers (greeting : MailAnswer) (what : String) : Bool := !(offered greeting what).isEmpty

/-- Makes the conversation secret, if that has to be asked for. -/
def conceal (s : MailServer) (self : String) (greeting : MailAnswer) : MailFlow MailAnswer := do
  if s.secrecy = .asked then
    if !offers greeting "STARTTLS" then throw (.ours "STARTTLS is not supported on this server")
    let _ ← say "STARTTLS"
    hear (.conceal s.host)
    introduce self
  else return greeting

/-- How often the server may ask something during a login. -/
def patience : Nat := 10

/-- Answers what the server asks during a login, at most so often. -/
def answerQuestions (l : MailLogin) (way : MailLogin.Way) : Nat → MailAnswer → MailFlow Unit
  | 0, _ => throw (.garbled "Unexpected number of challenges")
  | n + 1, a => do
    if a.code = 334 then
      match l.continuation way a with
      | .error e => throw e
      | .ok line => answerQuestions l way n (← say line)

/-- Shows the password, in the first way that the server knows. -/
def showPassword (l : MailLogin) (greeting : MailAnswer) : MailFlow Unit := do
  let known := (offered greeting "AUTH").flatten
  match MailLogin.ways.find? fun w => known.contains w.name with
  | none => throw (.ours "No compatible authentication mechanism was found")
  | some way => answerQuestions l way patience (← say (l.opening way))

/-- Names the recipients to the server. -/
def nameRecipients : List String → MailFlow Unit
  | [] => pure ()
  | address :: rest => do
    let _ ← say ("RCPT TO:<" ++ address ++ ">")
    nameRecipients rest

/-- What is to be said about a letter that is not ASCII. -/
def specials (greeting : MailAnswer) (l : Letter) : Except DeliveryFault (List String) := do
  if !l.goesByAscii ∧ !offers greeting "SMTPUTF8" then
    .error (.ours "Envelope contains non-ascii chars but server does not support SMTPUTF8")
  if !l.isAllAscii ∧ !offers greeting "8BITMIME" then
    .error (.ours "Message contains non-ascii chars but server does not support 8BITMIME")
  .ok ((if l.goesByAscii then [] else [" SMTPUTF8"]) ++
    (if l.isAllAscii then [] else [" BODY=8BITMIME"]))

/-- Hands over a letter. -/
def handOver (greeting : MailAnswer) (l : Letter) : MailFlow Unit := do
  match specials greeting l with
  | .error e => throw e
  | .ok more =>
    let _ ← say ("MAIL FROM:<" ++ l.sentBy ++ ">" ++ String.join more)
    nameRecipients l.sentTo
    let _ ← say "DATA"
    let _ ← ask (.send l)

/-- What is said once there is a connection. -/
def discuss (s : MailServer) (self : String) (l : Letter) : MailFlow Unit := do
  let _ ← answer
  let greeting ← s.conceal self (← introduce self)
  match s.login with
  | none => pure ()
  | some login => showPassword login greeting
  handOver greeting l

/-- Ends the conversation; what the server says to that is of no interest. -/
def leave : Workflow MailCall MailReply Unit := .call (.say "QUIT") fun _ => .done ()

/-- **The conversation.** Once there is a connection it is ended in any case. -/
def converse (s : MailServer) (self : String) (l : Letter) :
    Workflow MailCall MailReply (Except DeliveryFault Unit) := do
  match ← ((hear (.connect s.host s.port)).run []).run with
  | .error e => return .error e
  | .ok (_, said) =>
    let result ← ((s.discuss self l).run said).run
    leave
    return result.map fun _ => ()

/-- **Delivering a mail** under our own name. -/
def deliver (s : MailServer) (self : String) (m : Mail) :
    Workflow MailCall MailReply (Except Failure Unit) :=
  match Letter.ofMail m with
  | .error e => pure (.error e)
  | .ok l => do
    let result ← s.converse self l
    return result.mapError fun e => Failure.mail e.message

end MailServer

end MapExport
