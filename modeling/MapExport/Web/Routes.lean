import MapExport.Instant.Print
import MapExport.Job.Creation
import MapExport.Web.MediaType
import MapExport.Web.Message

/-!
# What can be asked over the web

Two things can be asked for: a new job, and whether the service is well. A new job is ordered in the name
of an owner, who is named in a header; the body is read before the owner is looked at. Whatever goes
wrong is answered with a status and a document, except that what is not there is answered with a status
alone.
-/

set_option autoImplicit false

namespace MapExport.Web

/-- The header that names the owner. -/
def ownerHeader : String := "X-User-Id"

/-- The largest body that is accepted, in bytes. -/
def bodyLimit : Nat := 2097152

/-- The version of the service. -/
def version : String := "0.1.0"

/-- An identifier that a client gave, blanks around it ignored. -/
def clientUid (s : String) : Except Failure Uid :=
  match Uid.ofText (Text.trim s) with
  | .ok u => .ok u
  | .error _ => .error (.badRequest ("Invalid UUID: " ++ s))

/-- **The owner** that a request names. -/
def Request.owner (r : Request) : Except Failure Uid :=
  match r.header? ownerHeader with
  | none => .error (.badRequest (ownerHeader ++ " header is required"))
  | some bytes =>
    match visibleText? bytes with
    | none => .error (.badRequest (ownerHeader ++ " header is not valid text"))
    | some s => clientUid s

/-- Whether the body of a request is said to be a document. -/
def Request.isDocument (r : Request) : Bool :=
  (((r.header? "Content-Type").bind visibleText?).bind MediaType.ofText?).any MediaType.isDocument

/-- **The order** in the body of a request. -/
def Request.order (r : Request) : Except Failure JobRequest :=
  if !r.isDocument then .error (.badRequest "Content type error")
  else if bodyLimit < r.body.length then
    .error (.badRequest ("JSON payload (" ++ toString r.body.length ++
      " bytes) is larger than allowed (limit: " ++ toString bodyLimit ++ " bytes)."))
  else
    match JobRequest.codec.decode (Text.decodeBytes r.body) with
    | .ok order => .ok order
    | .error e => .error (.badRequest ("Json deserialize error: " ++ e.message))

/-- The answer to a failure. -/
def failed (e : Failure) : Response := ⟨e.status, some e.payload⟩

/-- An answer without a document. -/
def bare (status : Nat) : Response := ⟨status, none⟩

/-- **What a request asks for.** -/
inductive Route where
  | order
  | health
  | notAllowed
  | notFound
  deriving DecidableEq, Repr

/-- What a request asks for, by its path and method. -/
def Request.route (r : Request) : Route :=
  if r.path = "/api/jobs" ∧ r.method = "POST" then .order
  else if r.path = "/health" then if r.method = "GET" then .health else .notAllowed
  else .notFound

/-- How the service is, and where and when it says so. -/
def healthDocument (runMode : Option String) (now : Instant) : Json :=
  .record [("status", .text "healthy"), ("version", .text version),
    ("timestamp", .text now.text), ("environment", .text (runMode.getD "production"))]

/-- **The order of a job:** the body, then the owner, then the job. -/
def orderJob (rules : JobRules) (stamp : Stamp) (r : Request) : JobFlow JobDetail := do
  let order ← JobFlow.ofExcept r.order
  let owner ← JobFlow.ofExcept r.owner
  Job.create rules stamp owner order

/-- The answer to the order of a job. -/
def ordered : Except Failure JobDetail → Response
  | .ok detail => ⟨202, some detail.print⟩
  | .error e => failed e

/-- **Answering a request.** -/
def respond (rules : JobRules) (stamp : Stamp) (runMode : Option String) (r : Request) :
    Workflow JobCall JobCall.Reply Response :=
  match r.route with
  | .order => do return ordered (← (orderJob rules stamp r).run)
  | .health => pure ⟨200, some (healthDocument runMode stamp.createdAt)⟩
  | .notAllowed => pure (bare 405)
  | .notFound => pure (bare 404)

end MapExport.Web
