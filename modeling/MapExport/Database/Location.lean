import MapExport.Address.Read
import MapExport.Failure
import MapExport.Text.Number
import MapExport.Text.Quoted

/-!
# Where the database is

The database is reached over the network or through a socket in a directory. The address says which, and
its query may say it again, the last word counting. Connections that have to be encrypted are not
possible, so an address that asks for one is refused after it has been reached.
-/

set_option autoImplicit false

namespace MapExport.Database

/-- **Whether a connection is to be encrypted.** -/
inductive Encryption where
  | never
  | ifPossible
  | always
  deriving DecidableEq, Repr

/-- The ways to ask for encryption. -/
def Encryption.names : List (String × Encryption) :=
  [("disable", .never), ("allow", .never), ("prefer", .ifPossible), ("require", .always),
    ("verify-ca", .always), ("verify-full", .always)]

/-- **Where the database is:** a host or the directory of a socket, and the port, which also names the
socket. -/
structure Location where
  host : String
  isDirectory : Bool
  port : Nat
  user : String
  database : Option String
  encryption : Encryption
  deriving DecidableEq, Repr

/-- The usual port. -/
def usualPort : Nat := 5432

/-- A failure to understand where the database is. -/
def misplaced (reason : String) : Failure := .database ("error with configuration: " ++ reason)

/-- What is wrong with a text that is no whole number of so many bits. -/
def numberFault (bits : Nat) (s : String) : String :=
  let digits := match s.toList with
    | '+' :: rest => rest
    | cs => cs
  if s = "" then "cannot parse integer from empty string"
  else if digits.isEmpty || !digits.all Char.isDigit then "invalid digit found in string"
  else if Text.maxBits bits < (Text.digitsNumber? digits).getD 0 then
    "number too large to fit in target type"
  else ""

/-- A host, or the directory of a socket if it begins with a slash. -/
def Location.at_ (l : Location) (host : String) : Location :=
  { l with host, isDirectory := host.startsWith "/" }

/-- Takes a field of the query. Unknown ones are passed over. -/
def Location.take (l : Location) (field : String × String) : Except Failure Location :=
  match field with
  | ("sslmode", v) | ("ssl-mode", v) =>
    match Encryption.names.find? (·.1 == v.map Char.toLower) with
    | some (_, e) => .ok { l with encryption := e }
    | none =>
      .error (misplaced ("error with configuration: unknown value " ++ Text.quote v ++
        " for `ssl_mode`"))
  | ("host", v) => .ok (l.at_ v)
  | ("hostaddr", v) => .ok { l with host := v, isDirectory := false }
  | ("port", v) =>
    match Text.number? (Text.maxBits 16) v with
    | some n => .ok { l with port := n }
    | none => .error (misplaced (numberFault 16 v))
  | ("dbname", v) => .ok { l with database := some v }
  | ("user", v) => .ok { l with user := v }
  | ("statement-cache-capacity", v) =>
    match Text.number? (Text.maxBits 64) v with
    | some _ => .ok l
    | none => .error (misplaced (numberFault 64 v))
  | _ => .ok l

/-- A part of an address without its escapes. -/
def partOf (s : String) : Except Failure String :=
  (Address.readEscaped s).mapError fun e => misplaced e.message

/-- A host is taken as it is written unless it is a directory. -/
def hostOf (host : String) : Except Failure String :=
  if (Address.unescape host).startsWith "/" then partOf host else .ok host

/-- The place that an address names, without its query. -/
def Location.ofAddress (a : Address) : Except Failure Location := do
  let host ← hostOf (a.hostName?.getD "localhost")
  let user ← partOf a.user
  let _ ← partOf (a.password.getD "")
  let path := String.ofList (a.path.toList.dropWhile (· == '/'))
  let base : Location := ⟨"", false, a.port.getD usualPort, user,
    if path = "" then none else some path, .ifPossible⟩
  .ok (base.at_ host)

/-- **Where the database is,** by its address. -/
def Location.ofText (url : String) : Except Failure Location :=
  match Address.ofText url with
  | .error e => .error (misplaced e.message)
  | .ok a => do a.fields.foldlM Location.take (← Location.ofAddress a)

/-- The socket of a database in a directory. -/
def Location.socket? (l : Location) : Option String :=
  if l.isDirectory then some (l.host ++ "/.s.PGSQL." ++ toString l.port) else none

/-- **Why there is no connection:** the place cannot be reached, or it refuses. -/
inductive ConnectFault where
  | unreachable (cause : String)
  | refused (text : String)
  deriving DecidableEq, Repr

/-- The failure to connect. -/
def ConnectFault.failure : ConnectFault → Failure
  | .unreachable cause => .database ("error communicating with database: " ++ cause)
  | .refused text => .database ("error returned from database: " ++ text)

/-- The failure to have a connection encrypted. -/
def notEncrypted : Failure :=
  .database ("error occurred while attempting to establish a TLS connection: TLS upgrade required " ++
    "by connect options but SQLx was built without TLS support enabled")

/-- **Whether a connection can be made:** the place is reached first, then encryption is looked at, and
then the database may refuse. -/
def Location.check (l : Location) (reach : Location → Except ConnectFault Unit)
    (accept : Location → Except ConnectFault Unit) : Except Failure Unit := do
  (reach l).mapError ConnectFault.failure
  if l.encryption = .always then .error notEncrypted
  (accept l).mapError ConnectFault.failure

/-- **Connecting** to the database at an address. -/
def connect (url : String) (reach accept : Location → Except ConnectFault Unit) :
    Except Failure Unit := do
  (← Location.ofText url).check reach accept

end MapExport.Database
