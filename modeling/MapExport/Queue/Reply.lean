import MapExport.Text.Number
import MapExport.Text.Quoted
import MapExport.Text.Utf8

/-!
# Replies of the broker

The broker that keeps the queue replies in lines. The first character says what a reply is: a status, a
refusal, a number, bytes with their length, or a list with its length; a length of minus one stands for
nothing.
-/

set_option autoImplicit false

namespace MapExport.Queue

/-- **A refusal** by the broker: a code, and what it has to say. -/
structure Refusal where
  code : String
  detail : Option String
  deriving DecidableEq, Repr

/-- **A reply** of the broker. -/
inductive Reply where
  | nothing
  | okay
  | status (s : String)
  | whole (n : Int)
  | bytes (bs : List UInt8)
  | list (items : List Reply)

/-- A whole number with its sign. -/
def signed? (s : String) : Option Int :=
  match s.toList with
  | '-' :: cs => (Text.digitsNumber? cs).map fun n => -(n : Int)
  | '+' :: cs => (Text.digitsNumber? cs).map Int.ofNat
  | cs => (Text.digitsNumber? cs).map Int.ofNat

/-- A line of a reply, and what follows it. -/
def line? : List UInt8 → Option (List UInt8 × List UInt8)
  | [] => none
  | b :: rest =>
    if b = 13 ∧ rest.head? = some 10 then some ([], rest.drop 1)
    else (line? rest).map fun (l, rest) => (b :: l, rest)

/-- The refusal that a line tells of. -/
def Refusal.ofLine (l : String) : Refusal :=
  match l.toList.span (· != ' ') with
  | (code, []) => ⟨String.ofList code, none⟩
  | (code, _ :: detail) => ⟨String.ofList code, some (String.ofList detail)⟩

/-- So many replies after one another; the first refusal stands for all. -/
def readMany (one : List UInt8 → Option (Except Refusal Reply × List UInt8)) :
    Nat → List UInt8 → Option (Except Refusal (List Reply) × List UInt8)
  | 0, bs => some (.ok [], bs)
  | n + 1, bs => do
    let (r, bs) ← one bs
    let (rs, bs) ← readMany one n bs
    some ((do .ok ((← r) :: (← rs))), bs)

/-- Bytes of a known length, and the line end after them. -/
def sized? (n : Nat) (bs : List UInt8) : Option (List UInt8 × List UInt8) :=
  if n + 2 ≤ bs.length then some (bs.take n, bs.drop (n + 2)) else none

/-- Reads a reply in which lists are nested at most so deep. -/
def readNested : Nat → List UInt8 → Option (Except Refusal Reply × List UInt8)
  | _, [] => none
  | depth, b :: bs => do
    let (l, rest) ← line? bs
    let text ← Text.textOfBytes? l
    match Char.ofNat b.toNat, depth with
    | '+', _ => some (.ok (if text = "OK" then .okay else .status text), rest)
    | '-', _ => some (.error (.ofLine text), rest)
    | ':', _ => some (.ok (.whole (← signed? text)), rest)
    | '$', _ =>
      match ← signed? text with
      | .ofNat n => do
        let (data, rest) ← sized? n rest
        some (.ok (.bytes data), rest)
      | _ => some (.ok .nothing, rest)
    | '*', d + 1 =>
      match ← signed? text with
      | .ofNat n => do
        let (items, rest) ← readMany (readNested d) n rest
        some (items.map .list, rest)
      | _ => some (.ok .nothing, rest)
    | _, _ => none

/-- **Reading a reply,** if there is a whole one. -/
def Reply.read? (bs : List UInt8) : Option (Except Refusal Reply) :=
  (readNested bs.length bs).map (·.1)

mutual

/-- **What a reply was,** in words. -/
def Reply.words : Reply → String
  | .nothing => "nil"
  | .okay => "ok"
  | .status s => "status(" ++ Text.quote s ++ ")"
  | .whole n => "int(" ++ toString n ++ ")"
  | .bytes bs =>
    match Text.textOfBytes? bs with
    | some s => "string-data('" ++ Text.quote s ++ "')"
    | none => "binary-data([" ++ ", ".intercalate (bs.map fun b => toString b.toNat) ++ "])"
  | .list items => "bulk(" ++ ", ".intercalate (Reply.manyWords items) ++ ")"

@[inherit_doc Reply.words]
def Reply.manyWords : List Reply → List String
  | [] => []
  | r :: rs => r.words :: manyWords rs

end

/-- The codes of refusals that have a name of their own. -/
def refusalNames : List (String × String) :=
  [ ("ERR", "ResponseError"), ("EXECABORT", "ExecAbortError"), ("LOADING", "BusyLoadingError"),
    ("NOSCRIPT", "NoScriptError"), ("MOVED", "Moved"), ("ASK", "Ask"), ("TRYAGAIN", "TryAgain"),
    ("CLUSTERDOWN", "ClusterDown"), ("CROSSSLOT", "CrossSlot"), ("MASTERDOWN", "MasterDown"),
    ("READONLY", "ReadOnly") ]

/-- The text of a refusal. -/
def Refusal.message (r : Refusal) : String :=
  match refusalNames.find? (·.1 == r.code), r.detail with
  | some (_, name), some d => "An error was signalled by the server - " ++ name ++ ": " ++ d
  | some (_, name), none => "An error was signalled by the server- " ++ name
  | none, some d => r.code ++ ": " ++ d
  | none, none => r.code ++ ": Unknown extension error encountered"

end MapExport.Queue
