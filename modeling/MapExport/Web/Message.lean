import MapExport.Json.Print
import MapExport.Json.Scan.Symbol
import MapExport.Text.Number
import MapExport.Text.Utf8

/-!
# Messages on the web

Requests as they arrive and answers as they leave. The path of a request is compared after its escapes
have been undone, except those that stand for characters with a meaning in paths, and without its query
and its fragment.
-/

set_option autoImplicit false

namespace MapExport.Web

/-- **A request.** Header values and the body are bytes. -/
structure Request where
  method : String
  target : String
  headers : List (String × List UInt8)
  body : List UInt8

/-- **An answer.** One without a document has an empty body. -/
structure Response where
  status : Nat
  body : Option Json

/-- The type of the body of an answer. -/
def Response.contentType (r : Response) : Option String := r.body.map fun _ => "application/json"

/-- Characters that keep their escapes in a path. -/
def isKept (n : Nat) : Bool := n == '%'.toNat || n == '/'.toNat || n == '+'.toNat

/-- Undoes the escapes of a path. -/
def unescape : List Char → List Char
  | '%' :: a :: b :: rest =>
    match Text.hexNumber? [a, b] with
    | some n =>
      if isKept n || 128 ≤ n then '%' :: a :: b :: unescape rest
      else Char.ofNat n :: unescape rest
    | none => '%' :: unescape (a :: b :: rest)
  | c :: rest => c :: unescape rest
  | [] => []

/-- The path that a request asks for. -/
def Request.path (r : Request) : String :=
  String.ofList (unescape (r.target.toList.takeWhile fun c => c != '?' && c != '#'))

/-- Names of headers are compared without regard to case. -/
def asciiLower (s : String) : String := s.map Char.toLower

/-- The value of a header; of several with one name the last counts. -/
def Request.header? (r : Request) (name : String) : Option (List UInt8) :=
  (r.headers.reverse.find? fun (n, _) => asciiLower n == asciiLower name).map (·.2)

/-- A header value that is visible text. -/
def visibleText? (bytes : List UInt8) : Option String :=
  if bytes.all fun b => (32 ≤ b && b < 127) || b == 9 then
    some (String.ofList (bytes.map fun b => Char.ofNat b.toNat))
  else none

end MapExport.Web
