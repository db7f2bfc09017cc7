import MapExport.Address.Read
import MapExport.Queue.Reply

/-!
# Where the broker is

The broker is reached over the network or through a socket, and may want a password and a database to be
chosen. All of that is said by its address.
-/

set_option autoImplicit false

namespace MapExport.Queue

/-- **Where the broker listens.** -/
inductive Endpoint where
  | host (name : String) (port : Nat)
  | socket (path : String)
  deriving DecidableEq, Repr

/-- **Where the broker is** and what it wants before it can be used. -/
structure Place where
  endpoint : Endpoint
  user : Option String
  password : Option String
  database : Int
  deriving DecidableEq, Repr

/-- **What is wrong** with an address of a broker. -/
inductive PlaceFault where
  | noAddress
  | noHost
  | noPath
  | encrypted
  | database
  | user
  | password
  deriving DecidableEq, Repr

/-- The text of a fault. -/
def PlaceFault.message : PlaceFault → String
  | .noAddress => "Redis URL did not parse- InvalidClientConfig"
  | .noHost => "Missing hostname- InvalidClientConfig"
  | .noPath => "Missing path- InvalidClientConfig"
  | .encrypted => "can't connect with TLS, the feature is not enabled- InvalidClientConfig"
  | .database => "Invalid database number- InvalidClientConfig"
  | .user => "Username is not valid UTF-8 string- InvalidClientConfig"
  | .password => "Password is not valid UTF-8 string- InvalidClientConfig"

/-- The usual port. -/
def usualPort : Nat := 6379

/-- The number of a database, which has sixty-four bits. -/
def databaseNumber? (s : String) : Option Int :=
  (signed? s).filter fun n => -(Nat.pow 2 63 : Int) ≤ n && n < (Nat.pow 2 63 : Int)

/-- The database that a path names; without a name it is the first. -/
def databaseOf (s : String) : Except PlaceFault Int :=
  if s = "" then .ok 0
  else
    match databaseNumber? s with
    | some n => .ok n
    | none => .error .database

/-- A text without the slashes around it. -/
def trimSlashes (s : String) : String :=
  String.ofList ((s.toList.dropWhile (· == '/')).reverse.dropWhile (· == '/')).reverse

/-- A broker on the network. -/
def Place.onNetwork (a : Address) : Except PlaceFault Place :=
  match a.hostName? with
  | none => .error .noHost
  | some host =>
    if a.scheme = "rediss" then .error .encrypted
    else do
      let database ← databaseOf (trimSlashes a.path)
      let user ← (Address.readEscaped a.user).mapError fun _ => .user
      let password ← a.password.mapM fun p => (Address.readEscaped p).mapError fun _ => .password
      .ok
        { endpoint := .host host (a.port.getD usualPort)
          user := if user = "" then none else some user
          password
          database }

/-- A broker behind a socket. -/
def Place.onSocket (a : Address) : Except PlaceFault Place :=
  let field (name : String) : Option String := (a.fields.reverse.find? (·.1 == name)).map (·.2)
  if !a.path.startsWith "/" ∨ !(a.hostName?.isNone ∨ a.hostName? = some "localhost") then
    .error .noPath
  else
    match (field "db").map databaseNumber? with
    | some none => .error .database
    | database =>
      .ok
        { endpoint := .socket (Address.unescape a.path)
          user := field "user"
          password := field "pass"
          database := (database.bind id).getD 0 }

/-- **Where the broker is,** by its address. -/
def Place.ofText (url : String) : Except PlaceFault Place :=
  match Address.ofText url with
  | .error _ => .error .noAddress
  | .ok a =>
    if a.scheme = "redis" ∨ a.scheme = "rediss" then Place.onNetwork a
    else if a.scheme = "redis+unix" ∨ a.scheme = "unix" then Place.onSocket a
    else .error .noAddress

end MapExport.Queue
