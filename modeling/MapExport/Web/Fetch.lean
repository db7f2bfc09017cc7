import MapExport.Address.Read
import MapExport.Workflow

/-!
# Asking other services

A request to another service is sent to an address, which has to be one on the web. What comes back has a
status and a body. Whatever keeps the request from being sent or answered is a fault of the fetch; a
status, even a bad one, is an answer, and whoever asked decides what to make of it.
-/

set_option autoImplicit false

namespace MapExport.Web

/-- **A request** to another service. -/
structure Fetch where
  method : String
  address : Address
  body : String

/-- **What comes back.** -/
structure Fetched where
  status : Nat
  body : List UInt8

/-- What the network answers to a request, or why it does not. -/
abbrev FetchReply (_ : Fetch) : Type := Except String Fetched

/-- A workflow of requests to other services. -/
abbrev FetchFlow := Workflow Fetch FetchReply

/-- **Why there is no answer.** -/
inductive FetchFault where
  | noAddress (fault : Address.Fault)
  | otherScheme (address : Address)
  | unsent (address : Address) (cause : String)
  | badStatus (address : Address) (found : Nat)

/-- The words for statuses that tell of a failure. -/
def statusWords : List (Nat × String) :=
  [ (400, "Bad Request"), (401, "Unauthorized"), (402, "Payment Required"), (403, "Forbidden"),
    (404, "Not Found"), (405, "Method Not Allowed"), (406, "Not Acceptable"),
    (407, "Proxy Authentication Required"), (408, "Request Timeout"), (409, "Conflict"),
    (410, "Gone"), (411, "Length Required"), (412, "Precondition Failed"),
    (413, "Payload Too Large"), (414, "URI Too Long"), (415, "Unsupported Media Type"),
    (416, "Range Not Satisfiable"), (417, "Expectation Failed"), (418, "I'm a teapot"),
    (421, "Misdirected Request"), (422, "Unprocessable Entity"), (423, "Locked"),
    (424, "Failed Dependency"), (426, "Upgrade Required"), (428, "Precondition Required"),
    (429, "Too Many Requests"), (431, "Request Header Fields Too Large"),
    (451, "Unavailable For Legal Reasons"), (500, "Internal Server Error"),
    (501, "Not Implemented"), (502, "Bad Gateway"), (503, "Service Unavailable"),
    (504, "Gateway Timeout"), (505, "HTTP Version Not Supported"),
    (506, "Variant Also Negotiates"), (507, "Insufficient Storage"), (508, "Loop Detected"),
    (510, "Not Extended"), (511, "Network Authentication Required") ]

/-- A status with its words. -/
def statusText (status : Nat) : String :=
  toString status ++ " " ++
    (((statusWords.find? (·.1 == status)).map (·.2)).getD "<unknown status code>")

/-- Whose failure a status tells of. -/
def statusSide (status : Nat) : String := if status < 500 then "client" else "server"

/-- **The text of a fault.** -/
def FetchFault.message : FetchFault → String
  | .noAddress e => "builder error: " ++ e.message
  | .otherScheme a => "builder error for url (" ++ a.text ++ "): URL scheme is not allowed"
  | .unsent a cause => "error sending request for url (" ++ a.text ++ "): " ++ cause
  | .badStatus a found =>
    "HTTP status " ++ statusSide found ++ " error (" ++ statusText found ++ ") for url (" ++
      a.text ++ ")"

/-- The address of a service on the web. User and password are told to the service and are no part of it. -/
def serviceAddress (url : String) : Except FetchFault Address :=
  match Address.ofText url with
  | .error e => .error (.noAddress e)
  | .ok a =>
    let a := a.withoutLogin
    if a.scheme = "http" ∨ a.scheme = "https" then .ok a else .error (.otherScheme a)

/-- The statuses that come without a body. What follows them is not read. -/
def bodiless : List Nat := [204, 304]

/-- An answer as it is read. -/
def Fetched.asRead (f : Fetched) : Fetched :=
  if bodiless.contains f.status then { f with body := [] } else f

theorem Fetched.status_asRead (f : Fetched) : f.asRead.status = f.status := by
  unfold asRead
  split <;> rfl

/-- Sends a request to an address. -/
def send (method : String) (address : Address) (body : String) : ExceptT FetchFault FetchFlow Fetched :=
  ExceptT.mk (.call ⟨method, address, body⟩ fun reply =>
    .done (((reply : Except String Fetched).mapError (.unsent address)).map Fetched.asRead))

/-- **Sending a request** and getting what comes back, whatever its status. -/
def fetch (method url body : String) : ExceptT FetchFault FetchFlow Fetched := do
  let address ← ExceptT.mk (pure (serviceAddress url))
  send method address body

/-- Whether a status tells of a failure. -/
def isFailure (status : Nat) : Bool := 400 ≤ status && status < 600

/-- **Sending a request** whose answer must not tell of a failure. -/
def fetchGood (method url body : String) : ExceptT FetchFault FetchFlow Fetched := do
  let address ← ExceptT.mk (pure (serviceAddress url))
  let answer ← send method address body
  if isFailure answer.status then throw (.badStatus address answer.status)
  return answer

end MapExport.Web
