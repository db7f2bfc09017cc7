import MapExport.Address.Host

/-!
# Reading addresses

An address is read from left to right: the protocol, then what is behind two slashes up to the path, and
there the login up to the last at sign, the host and the port; then the path, in which dots are steps,
the query and the fragment. For the protocols of the web a backslash is a slash, a host has to be there,
and slashes between protocol and host may be missing or too many.
-/

set_option autoImplicit false

namespace MapExport.Address

/-- The protocols of the web, with their usual ports. -/
def webPorts : List (String × Nat) :=
  [("http", 80), ("https", 443), ("ws", 80), ("wss", 443), ("ftp", 21)]

/-- The protocol of files, whose addresses are written like those of the web and may lack a host. -/
def fileScheme : String := "file"

/-- Whether addresses of a protocol are written like those of the web. -/
def isWeb (scheme : String) : Bool := webPorts.any (·.1 == scheme) || scheme == fileScheme

/-- Whether a character is a slash of a protocol. -/
def isSlash (web : Bool) (c : Char) : Bool := c == '/' || (web && c == '\\')

/-- Whether a character ends what stands between protocol and path. -/
def endsAuthority (web : Bool) (c : Char) : Bool := isSlash web c || c == '?' || c == '#'

/-- What is left of a text without controls and blanks around it and line ends inside. -/
def clean (s : String) : List Char :=
  let outer (c : Char) : Bool := c.toNat ≤ 32
  let body := ((s.toList.dropWhile outer).reverse.dropWhile outer).reverse
  body.filter fun c => c != '\t' && c != '\n' && c != '\r'

/-- The protocol and what follows its colon. -/
def scheme? (cs : List Char) : Option (String × List Char) :=
  let isRest (c : Char) : Bool := c.isAlphanum || c == '+' || c == '-' || c == '.'
  match cs.span isRest with
  | (c :: name, ':' :: rest) =>
    if c.isAlpha then some (String.ofList ((c :: name).map Char.toLower), rest) else none
  | _ => none

/-- Splits at the last character that fits. -/
def splitLast? (fits : Char → Bool) (cs : List Char) : Option (List Char × List Char) :=
  match cs.reverse.span (fun c => !fits c) with
  | (_, []) => none
  | (after, _ :: before) => some (before.reverse, after.reverse)

/-- Characters that have no place in a login. -/
def badInLogin : List Char := " \"<>`#?\x7b\x7d/:;=@[\\]^|".toList

/-- The user and the password of a login. -/
def loginOf (cs : List Char) : String × Option String :=
  let part (cs : List Char) : String := String.ofList (escape badInLogin cs)
  match cs.span (· != ':') with
  | (user, _ :: password) =>
    (part user, if password.isEmpty then none else some (part password))
  | (user, []) => (part user, none)

/-- The host at the start of a text, and what follows it. A colon between brackets belongs to it. -/
def spanHost : Bool → List Char → List Char × List Char
  | _, [] => ([], [])
  | inside, c :: cs =>
    if c = ':' ∧ !inside then ([], c :: cs)
    else
      let (host, rest) := spanHost (if c = '[' then true else if c = ']' then false else inside) cs
      (c :: host, rest)

/-- A port after its colon; the usual one counts as none. -/
def portOf (scheme : String) (cs : List Char) : Except Fault (Option Nat) :=
  match cs with
  | [] => .ok none
  | _ :: [] => .ok none
  | _ :: digits =>
    match (Text.digitsNumber? digits).filter (· ≤ Text.maxBits 16) with
    | none => .error .port
    | some n => .ok (if webPorts.contains (scheme, n) then none else some n)

/-- A host of a protocol. -/
def hostOf (web : Bool) (cs : List Char) : Except Fault String :=
  if web then webHost cs else plainHost cs

/-- **What stands between protocol and path:** login, host and port. -/
def readAuthority (scheme : String) (cs : List Char) :
    Except Fault (String × Option String × String × Option Nat) := do
  let web := isWeb scheme
  let (login, place) := (splitLast? (· == '@') cs).getD ([], cs)
  let (user, password) := loginOf login
  let (host, port) := spanHost false place
  if host.isEmpty ∧ (web ∨ !port.isEmpty ∨ login ≠ []) then .error .noHost
  let name ← hostOf web host
  .ok (user, password, name, ← portOf scheme port)

/-- Characters that have no place in a path. -/
def badInPath : List Char := " \"<>`#?\x7b\x7d".toList

/-- A step of a path that stays, spelt with or without escapes. -/
def isDot (s : String) : Bool := s == "." || s.map Char.toLower == "%2e"

/-- A step of a path that goes up. -/
def isTwoDots (s : String) : Bool :=
  ["..", ".%2e", "%2e.", "%2e%2e"].contains (s.map Char.toLower)

/-- Takes the steps of a path; a dot at its end leaves a slash there. -/
def walk : List String → List String → List String
  | done, [] => done
  | done, [s] =>
    if isTwoDots s then done.dropLast ++ [""] else if isDot s then done ++ [""] else done ++ [s]
  | done, s :: rest =>
    if isTwoDots s then walk done.dropLast rest
    else if isDot s then walk done rest
    else walk (done ++ [s]) rest

/-- **The path** in its usual form. -/
def pathOf (web : Bool) (cs : List Char) : String :=
  match cs with
  | [] => if web then "/" else ""
  | c :: rest =>
    let steps := if isSlash web c then rest else c :: rest
    let slashed := steps.map fun c => if isSlash web c then '/' else c
    "/" ++ "/".intercalate
      (walk [] ((String.ofList (escape badInPath slashed)).splitOn "/"))

/-- A path that is no list of steps. -/
def opaquePath (cs : List Char) : String := String.ofList (escape [] cs)

/-- The query, with the characters escaped that have no place in it. -/
def queryOf (web : Bool) (cs : List Char) : String :=
  String.ofList (escape (" \"#<>".toList ++ if web then ['\''] else []) cs)

/-- Splits what follows the host into path, query and fragment. -/
def splitTarget (cs : List Char) : List Char × Option (List Char) × Option (List Char) :=
  let (front, fragment) := cs.span (· != '#')
  let (path, query) := front.span (· != '?')
  (path, if query.isEmpty then none else some (query.drop 1),
    if fragment.isEmpty then none else some (fragment.drop 1))

/-- An address of its parts. -/
def assemble (scheme : String) (place : String × Option String × Option String × Option Nat)
    (path : List Char → String) (rest : List Char) : Address :=
  let (steps, query, fragment) := splitTarget rest
  let (user, password, host, port) := place
  { scheme, user, password, host, port
    path := path steps
    query := query.map (queryOf (isWeb scheme))
    fragment := fragment.map fun f => String.ofList (escape " \"<>`".toList f) }

/-- An address with a host. -/
def withHost (scheme : String) (cs : List Char) : Except Fault Address := do
  let web := isWeb scheme
  let (front, rest) := cs.span fun c => !endsAuthority web c
  let (user, password, host, port) ← readAuthority scheme front
  .ok (assemble scheme (user, password, some host, port) (pathOf web) rest)

/-- The host of a file: none, and so is the machine itself. -/
def fileHost (cs : List Char) : Except Fault String := do
  if cs.isEmpty then .ok ""
  else
    let host ← webHost cs
    .ok (if host = "localhost" then "" else host)

/-- The address of a file. Only behind two slashes there is a host. -/
def fileAddress (cs : List Char) : Except Fault Address := do
  let (front, rest) :=
    match cs with
    | a :: b :: rest =>
      if isSlash true a && isSlash true b then rest.span fun c => !endsAuthority true c else ([], cs)
    | _ => ([], cs)
  let host ← fileHost front
  .ok (assemble fileScheme ("", none, some host, none) (pathOf true) rest)

/-- **Reading an address.** -/
def ofText (s : String) : Except Fault Address :=
  match scheme? (clean s) with
  | none => .error .relative
  | some (scheme, rest) =>
    if scheme = fileScheme then fileAddress rest
    else if isWeb scheme then withHost scheme (rest.dropWhile (isSlash true))
    else
      match rest with
      | '/' :: '/' :: rest => withHost scheme rest
      | '/' :: _ => .ok (assemble scheme ("", none, none, none) (pathOf false) rest)
      | _ => .ok (assemble scheme ("", none, none, none) opaquePath rest)

end MapExport.Address
