import MapExport.Failure
import MapExport.Json.Record
import MapExport.Web.Fetch

/-!
# The token of the geocoder

The geocoder wants a token with every request. A token is fetched when it is first needed and kept; it is
fetched anew only when that is asked for, and a failure to do so leaves the one that is kept. Without
an address to fetch it from there is no token and none is needed.

Who wants a token looks whether one is kept, sends a request, and has what comes back kept. These are steps
of their own, and others who share the token may come in between. The one who is alone keeps it himself.
-/

set_option autoImplicit false

namespace MapExport.Geocoding

open Json Web

/-- A token in documents. -/
def tokenCodec : Codec String :=
  Codec.record "TokenResponse" (.cons (.required "access_token" .text) .nil)
    (fun token => (token, ())) (fun (token, ()) => token)

/-- The token in the body of an answer. -/
def ofBody (body : List UInt8) : Except Failure String :=
  (tokenCodec.decode (Text.decodeBytes body)).mapError fun e =>
    .unreadable ("geocoding auth response: error decoding response body: " ++ e.message)

/-- Fetches a token. -/
def fetchToken (url : String) : ExceptT Failure FetchFlow String := do
  let answer ← (fetchGood "GET" url "").adapt fun e => Failure.external e.message
  ExceptT.mk (pure (ofBody answer.body))

/-- Whether a character may stand in a header. -/
def isHeaderChar (c : Char) : Bool := (32 ≤ c.toNat && c.toNat != 127) || c == '\t'

/-- The headers that show a token. -/
def headersOf (token : String) : Except Failure (List (String × String)) :=
  if token.toList.all isHeaderChar then .ok [("authorization", "Bearer " ++ token)]
  else .error (.external "invalid geocoding token: failed to parse header value")

/-! ## Step by step -/

/-- **What is asked for** on the way to a token: which one is kept, that another one is kept, and what a service
answers. -/
inductive TokenCall where
  | kept
  | keep (token : String)
  | fetch (f : Fetch)

/-- What a call is answered. -/
def TokenCall.Reply : TokenCall → Type
  | kept => Option String
  | keep _ => Unit
  | fetch f => FetchReply f

/-- The steps to a token. -/
abbrev TokenSteps := ExceptT Failure (Workflow TokenCall TokenCall.Reply)

namespace Steps

/-- Makes a call. -/
def ask (c : TokenCall) : TokenSteps c.Reply := ExceptT.lift (Workflow.ask c)

/-- Requests to a service as steps. -/
def relay {α : Type} : FetchFlow α → Workflow TokenCall TokenCall.Reply α
  | .done a => .done a
  | .call f next => .call (.fetch f) fun reply => relay (next reply)

/-- **A new token,** which is kept. -/
def refresh (url : Option String) : TokenSteps (Option String) :=
  match url with
  | none => return none
  | some url => do
    let token ← ExceptT.mk (relay (fetchToken url).run)
    ask (.keep token)
    return some token

/-- **The token:** the one that is kept, or else a new one. -/
def token (url : Option String) : TokenSteps (Option String) :=
  match url with
  | none => return none
  | some url => do
    match (← ask .kept : Option String) with
    | some kept => return some kept
    | none => refresh (some url)

/-- **The headers** for a request to the geocoder. -/
def headers (url : Option String) : TokenSteps (List (String × String)) := do
  match ← token url with
  | none => return []
  | some t => ExceptT.mk (pure (headersOf t))

end Steps

/-! ## Alone -/

/-- **The token that is kept,** if any, while others are fetched. -/
abbrev TokenFlow := ExceptT Failure (StateT (Option String) FetchFlow)

/-- The answers for the one who keeps the token himself. -/
def answerAlone : (c : TokenCall) → StateT (Option String) FetchFlow c.Reply
  | .kept => fun kept => pure (kept, kept)
  | .keep token => fun _ => pure ((), some token)
  | .fetch f => StateT.lift (Workflow.ask f)

/-- Taking steps alone. -/
def alone {α : Type} (steps : TokenSteps α) : TokenFlow α := ExceptT.mk (steps.run.run answerAlone)

/-- A new token, which is kept. -/
def refresh (url : Option String) : TokenFlow (Option String) := alone (Steps.refresh url)

/-- The token: the one that is kept, or else a new one. -/
def token (url : Option String) : TokenFlow (Option String) := alone (Steps.token url)

/-- The headers for a request to the geocoder. -/
def headers (url : Option String) : TokenFlow (List (String × String)) := alone (Steps.headers url)

end MapExport.Geocoding
