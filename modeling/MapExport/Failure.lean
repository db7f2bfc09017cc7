import MapExport.Json.Print
import MapExport.Text.Quoted
import MapExport.Uid

/-!
# Failures

Whatever the service is asked for can fail in a fixed number of ways. A failure keeps its cause; how it
is worded, which status it answers a client with, and what of it the client is told follow from the
cause. Failures of the machinery behind the service are not told to clients.
-/

set_option autoImplicit false

namespace MapExport

/-- **A complaint** about one field of a request: a code, and a text for people. -/
structure Complaint where
  code : String
  message : Option String
  deriving DecidableEq, Repr

/-- The complaints about a request, field by field. -/
abbrev Complaints := List (String × List Complaint)

/-- **One more complaint** about a field, after those that it already has. -/
def Complaints.add (self : Complaints) (field : String) (c : Complaint) : Complaints :=
  if self.any (·.1 == field) then
    self.map fun (name, cs) => (name, if name == field then cs ++ [c] else cs)
  else self ++ [(field, [c])]

/-- **A failure** of the service, by its cause. -/
inductive Failure where
  | invalid (complaints : Complaints)
  | unknownFormats (slugs : List String)
  | badPreset (reason : String)
  | badRequest (reason : String)
  | notFound (what : String)
  | creation (reason : String)
  | dispatch (job : Uid) (reason : String)
  | database (reason : String)
  | queue (reason : String)
  | mail (reason : String)
  | external (reason : String)
  | unreadable (reason : String)
  | unprintable (reason : String)
  | file (reason : String)
  | configuration (reason : String)
  | internal
  deriving DecidableEq, Repr

namespace Failure

/-- **The text of a failure.** -/
def message : Failure → String
  | invalid _ => "Validation failed"
  | unknownFormats slugs => "Invalid format uid(s): " ++ Text.quoteList slugs
  | badPreset reason => "Invalid preset: " ++ reason
  | badRequest reason => "Bad request: " ++ reason
  | notFound what => what ++ " not found"
  | creation reason => reason
  | dispatch job reason => "Could not dispatch job " ++ job.text ++ ": " ++ reason
  | database reason => "Database error: " ++ reason
  | queue reason => "Redis error: " ++ reason
  | mail reason => "Email error: " ++ reason
  | external reason => "External service error: " ++ reason
  | unreadable reason => "Parse error: " ++ reason
  | unprintable reason => "Serialize error: " ++ reason
  | file reason => "IO error: " ++ reason
  | configuration reason => "Configuration error: " ++ reason
  | internal => "Internal server error"

/-- **The status** that a client is answered with. -/
def status : Failure → Nat
  | invalid _ | unknownFormats _ | badPreset _ | badRequest _ => 400
  | notFound _ => 404
  | _ => 500

/-- What a client is told about a field: the texts of the complaints, or their codes. -/
def told (complaints : List Complaint) : Json :=
  .texts (complaints.map fun c => c.message.getD c.code)

/-- An answer that names the kind of failure and describes it. -/
def titled (id description : String) : Json :=
  .record [("id", .text id), ("message", .text description)]

/-- **What a client is told** of a failure. -/
def payload : Failure → Json
  | invalid complaints => .record (complaints.map fun (field, cs) => (field, told cs))
  | unknownFormats _ => .record [("formats", .texts ["Invalid format uid(s)."])]
  | badPreset reason => .record [("preset", .texts [reason])]
  | badRequest reason => titled "bad_request" reason
  | notFound what => titled "not_found" (message (notFound what))
  | creation reason => titled "server_error" reason
  | dispatch job reason => titled "dispatch_error" (message (dispatch job reason))
  | _ => titled "server_error" "Internal server error"

end Failure

end MapExport
