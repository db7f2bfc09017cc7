import MapExport.Mail.Answer
import MapExport.Text.Base64
import MapExport.Text.Utf8

/-!
# Showing a password

There are two ways of showing user and password to a mail server: both at once in one word, or each of
them when the server asks for it. Which ones the server knows it says in its greeting; the first is
preferred.
-/

set_option autoImplicit false

namespace MapExport

/-- **Why a letter was not delivered.** -/
inductive DeliveryFault where
  | connection (cause : String)
  | ours (reason : String)
  | garbled (reason : String)
  | refused (answer : MailAnswer)
  deriving DecidableEq, Repr

/-- The text of a fault. -/
def DeliveryFault.message : DeliveryFault → String
  | .connection cause => "Connection error: " ++ cause
  | .ours reason => "internal client error: " ++ reason
  | .garbled reason => "response error: " ++ reason
  | .refused a => a.text

/-- **A login.** -/
structure MailLogin where
  user : String
  password : String
  deriving DecidableEq, Repr

namespace MailLogin

/-- **A way of showing** user and password. -/
inductive Way where
  | plain
  | asked
  deriving DecidableEq, Repr

/-- The ways, the preferred one first. -/
def ways : List Way := [.plain, .asked]

/-- The name of a way. -/
def Way.name : Way → String
  | .plain => "PLAIN"
  | .asked => "LOGIN"

/-- Text as it is shown. -/
def shown (s : String) : String := String.ofList (Text.base64Chars (Text.bytesOfText s))

/-- User and password in one word. -/
def credentials (l : MailLogin) : String :=
  String.ofList (Text.base64Chars (0 :: Text.bytesOfText l.user ++ 0 :: Text.bytesOfText l.password))

/-- The first line of a login. -/
def opening (l : MailLogin) : Way → String
  | .plain => "AUTH " ++ Way.plain.name ++ " " ++ l.credentials
  | .asked => "AUTH " ++ Way.asked.name

/-- The questions for the user, in small letters. -/
def userQuestions : List String := ["user name", "username:", "username", "user name\x00"]

/-- The questions for the password, in small letters. -/
def passwordQuestions : List String := ["password", "password:", "password\x00"]

/-- What is answered to a question. -/
def answerTo (l : MailLogin) (question : String) : Way → Except DeliveryFault String
  | .plain => .error (.ours "This mechanism does not expect a challenge")
  | .asked =>
    let small := question.map Char.toLower
    if userQuestions.contains small then .ok l.user
    else if passwordQuestions.contains small then .ok l.password
    else .error (.ours "Unrecognized challenge")

/-- The question that the server asks. -/
def question (a : MailAnswer) : Except DeliveryFault String :=
  match a.firstWord? with
  | none => .error (.garbled "Could not read auth challenge")
  | some word => do
    let bytes ← (Text.readBase64 (Text.bytesOfText word)).mapError (.garbled ·.message)
    (Text.readUtf8 bytes).mapError (.garbled ·.message)

/-- **The next line** of a login, after the server has asked something. -/
def continuation (l : MailLogin) (way : Way) (a : MailAnswer) : Except DeliveryFault String := do
  return shown (← l.answerTo (← question a) way)

end MailLogin

end MapExport
