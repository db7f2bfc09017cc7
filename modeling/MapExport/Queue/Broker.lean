import MapExport.Failure
import MapExport.Instant.Print
import MapExport.Json.Print
import MapExport.Json.Record
import MapExport.Queue.Place
import MapExport.Workflow

/-!
# The broker

For each job that was created a message is put into the queue, with which those who carry out jobs find
it. The queue is kept by a broker. A connection is opened for everything that is said to it: first the
password and the database, if the address asks for them, then the one command. That the broker is there is
tried out when the queue is opened; what it says to a message is of no interest unless it refuses.
-/

set_option autoImplicit false

namespace MapExport.Queue

/-- **A message:** which job is to be carried out, and since when it waits. -/
structure Message where
  job : Uid
  enqueuedAt : Instant

open Json in
/-- Messages in documents. -/
def Message.codec : Codec Message :=
  Codec.record "DispatchMessage"
    (.cons (.required "job_uid" .uid) (.cons (.required "enqueued_at" .instant) .nil))
    (fun m => (m.job, m.enqueuedAt, ())) (fun (job, enqueuedAt, ()) => ⟨job, enqueuedAt⟩)

/-- The text of a message. -/
def Message.text (m : Message) : String := (codec.print m).render

/-- The list that messages are put into, behind the prefix of the installation. -/
def listName (listPrefix : String) : String := listPrefix ++ "queue:export_jobs"

/-- **What can be asked of a broker:** a connection, and that it does what the words of a command say. -/
inductive BrokerCall where
  | connect (endpoint : Endpoint)
  | command (words : List String)

/-- What a call gives if it succeeds: a connection, or the bytes of a reply. -/
def BrokerCall.Result : BrokerCall → Type
  | connect _ => Unit
  | command _ => List UInt8

/-- What a call is answered, or why it cannot be. -/
abbrev BrokerCall.Reply (c : BrokerCall) : Type := Except String c.Result

/-- **What can go wrong** with a broker. -/
inductive BrokerFault where
  | place (fault : PlaceFault)
  | connection (cause : String)
  | unreadable
  | refused (refusal : Refusal)
  | notText (reply : Reply)
  | notEncoded
  | login
  | database

/-- The text of a fault. -/
def BrokerFault.message : BrokerFault → String
  | .place e => e.message
  | .connection cause => cause
  | .unreadable => "parse error- ResponseError"
  | .refused r => r.message
  | .notText r =>
    "Response was of incompatible type - TypeError: \"Response type not string compatible.\" " ++
      "(response was " ++ r.words ++ ")"
  | .notEncoded => "Invalid UTF-8- TypeError"
  | .login => "Password authentication failed- AuthenticationFailed"
  | .database => "Redis server refused to switch database- ResponseError"

/-- The failure that a fault amounts to. -/
def BrokerFault.failure (e : BrokerFault) : Failure := .queue e.message

/-- A conversation with a broker. -/
abbrev BrokerFlow := ExceptT BrokerFault (Workflow BrokerCall BrokerCall.Reply)

/-- Makes a call. -/
def ask (c : BrokerCall) : BrokerFlow c.Result :=
  ExceptT.mk (.call c fun reply => .done ((reply : Except String c.Result).mapError .connection))

/-- The reply in bytes that the broker sent. -/
def replyOf (bytes : List UInt8) : Except BrokerFault Reply :=
  match Reply.read? bytes with
  | none => .error .unreadable
  | some r => r.mapError .refused

/-- Gives a command. -/
def command (words : List String) : BrokerFlow Reply := do
  let bytes ← ask (.command words)
  ExceptT.mk (pure (replyOf bytes))

/-- Gives a command and goes on in any case. -/
def tryCommand (words : List String) : BrokerFlow (Except BrokerFault Reply) :=
  ExceptT.lift (command words).run

/-- Whether a reply agrees. -/
def agrees : Except BrokerFault Reply → Bool
  | .ok .okay => true
  | _ => false

/-- Whether a broker refused because it knows no users. -/
def knowsNoUsers : Except BrokerFault Reply → Bool
  | .error (.refused ⟨_, some d⟩) =>
    1 < (d.splitOn "wrong number of arguments for 'auth' command").length
  | _ => false

/-- Shows the password. A broker that knows no users is shown the password alone. -/
def login (user : Option String) (password : String) : BrokerFlow Unit := do
  let reply ← tryCommand ("AUTH" :: user.toList ++ [password])
  if agrees reply then return
  if knowsNoUsers reply then
    if agrees (← tryCommand ["AUTH", password]) then return
  throw .login

/-- Opens a connection that can be used. -/
def openAt (p : Place) : BrokerFlow Unit := do
  ask (.connect p.endpoint)
  match p.password with
  | some password => login p.user password
  | none => pure ()
  if p.database != 0 then
    if !agrees (← tryCommand ["SELECT", toString p.database]) then throw .database

/-- What a broker says when it is there has to be text. -/
def textReply : Reply → Except BrokerFault Unit
  | .okay | .status _ => .ok ()
  | .bytes bs => if (Text.textOfBytes? bs).isSome then .ok () else .error .notEncoded
  | r => .error (.notText r)

/-- **Opening the queue:** the broker is tried out. -/
def start (url : String) : BrokerFlow Place := do
  let place ← ExceptT.mk (pure ((Place.ofText url).mapError .place))
  openAt place
  ExceptT.mk (pure (textReply (← command ["PING"])))
  return place

/-- **Putting a message** into the queue. -/
def publish (place : Place) (listPrefix : String) (m : Message) : BrokerFlow Unit := do
  openAt place
  let _ ← command ["LPUSH", listName listPrefix, m.text]

end MapExport.Queue
