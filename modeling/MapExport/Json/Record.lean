import MapExport.Json.Codec

/-!
# Records with named fields

The fields of a record are listed once, in order, and the list gives its codec. A record is written with
a member for each field, and may also be given as a list of the fields in order. Members with other
names are passed over, a name must not come twice, and of the fields that are missing the first one
is reported, after everything that is present has been read.
-/

set_option autoImplicit false

namespace MapExport.Json

/-- **Whether a field may be left out.** An optional one may be missing from a record but not from a
list; one with a default may be missing from both. -/
inductive Presence (α : Type) where
  | required
  | optional (absent : α)
  | defaulted (absent : α)

/-- **A field** of a record. One that is not `shown` is read and never printed. -/
structure Field (α : Type) where
  name : String
  codec : Codec α
  presence : Presence α
  shown : Bool

namespace Field

/-- A field that has to be there. -/
def required {α : Type} (name : String) (codec : Codec α) : Field α := ⟨name, codec, .required, true⟩

/-- A field that may be absent. -/
def optional {α : Type} (name : String) (codec : Codec α) : Field (Option α) :=
  ⟨name, codec.option, .optional none, true⟩

/-- A field that has a default. -/
def defaulted {α : Type} (name : String) (codec : Codec α) (absent : α) : Field α :=
  ⟨name, codec, .defaulted absent, true⟩

/-- The same field, left out when the record is printed. -/
def unshown {α : Type} (f : Field α) : Field α := ⟨f.name, f.codec, f.presence, false⟩

/-- What stands for the field in a record without it. -/
def ofMissing {α : Type} (f : Field α) : Except Fault α :=
  match f.presence with
  | .required => .error (.missingField f.name)
  | .optional a => .ok a
  | .defaulted a => .ok a

/-- What stands for the field in a list that ends before it. -/
def ofShort {α : Type} (f : Field α) (short : Fault) : Except Fault α :=
  match f.presence with
  | .defaulted a => .ok a
  | _ => .error short

end Field

/-- The values of the fields of a record. -/
def Row : List Type → Type
  | [] => Unit
  | α :: αs => α × Row αs

/-- The fields that have been read so far. -/
def Slots : List Type → Type
  | [] => Unit
  | α :: αs => Option α × Slots αs

/-- **The fields** of a record, in order. -/
inductive Fields : List Type → Type 1 where
  | nil : Fields []
  | cons {α : Type} {αs : List Type} (f : Field α) (fs : Fields αs) : Fields (α :: αs)

namespace Fields

/-- The number of fields. -/
def size {αs : List Type} : Fields αs → Nat
  | nil => 0
  | cons _ fs => fs.size + 1

/-- No field read yet. -/
def empty : (αs : List Type) → Slots αs
  | [] => ()
  | _ :: αs => (none, empty αs)

/-- The members that a record is printed with. -/
def members {αs : List Type} : Fields αs → Row αs → List (String × Json)
  | nil, () => []
  | cons f fs, (a, row) =>
    if f.shown then (f.name, f.codec.print a) :: fs.members row else fs.members row

/-- Reads the value of a named field from a text into its slot, if there is such a field. A second
value is refused before it is read. -/
def readInto {αs : List Type} (levels : Nat) (name : String) (cs : Symbols) :
    Fields αs → Slots αs → Option (Except Fault (Slots αs × Symbols))
  | nil, () => none
  | cons f fs, (slot, slots) =>
    if f.name = name then
      some (match slot with
        | some _ => .error (.duplicateField name)
        | none => do
          let (a, rest) ← f.codec.read levels (← readColon cs)
          .ok ((some a, slots), rest))
    else (fs.readInto levels name cs slots).map fun r => r.map fun (slots, rest) =>
      ((slot, slots), rest)

/-- A member of the record in a text: a field, or something to pass over. -/
def readMember {αs : List Type} (fs : Fields αs) (levels : Nat) (slots : Slots αs) (name : String)
    (cs : Symbols) : Except Fault (Slots αs × Symbols) :=
  match fs.readInto levels name cs slots with
  | some result => result
  | none => do .ok (slots, ← skipValue (← readColon cs))

/-- Takes the value of a named field from a document into its slot, if there is such a field. -/
def takeInto {αs : List Type} (source : Source) (name : String) (j : Json) :
    Fields αs → Slots αs → Except Fault (Slots αs)
  | nil, () => .ok ()
  | cons f fs, (slot, slots) =>
    if f.name = name then (f.codec.take source j).map fun a => (some a, slots)
    else (fs.takeInto source name j slots).map fun slots => (slot, slots)

/-- The row of the fields that were read; missing ones are replaced or reported in order. -/
def close {αs : List Type} : Fields αs → Slots αs → Except Fault (Row αs)
  | nil, () => .ok ()
  | cons f fs, (slot, slots) => do
    let a ← match slot with
      | some a => .ok a
      | none => f.ofMissing
    .ok (a, ← fs.close slots)

/-- Reads the fields from a list in a text, up to its end. `place` is the number of items already
read, and `short` the fault of a list that ends after so many. -/
def readList {αs : List Type} (levels : Nat) (short : Nat → Fault) :
    (place : Nat) → Fields αs → Symbols → Except Fault (Row αs × Symbols)
  | _, nil, cs => do .ok ((), ← endList cs)
  | place, cons f fs, cs => do
    match ← nextItem (place == 0) cs with
    | (true, rest) =>
      let (a, rest) ← f.codec.read levels rest
      let (row, rest) ← fs.readList levels short (place + 1) rest
      .ok ((a, row), rest)
    | (false, _) =>
      let a ← f.ofShort (short place)
      let (row, rest) ← fs.readList levels short (place + 1) cs
      .ok ((a, row), rest)

/-- Takes the fields from the items of a list, and gives what is left of it. -/
def takeList {αs : List Type} (source : Source) (short : Nat → Fault) :
    (place : Nat) → Fields αs → List Json → Except Fault (Row αs × List Json)
  | _, nil, js => .ok ((), js)
  | place, cons f fs, js => do
    let (a, js) ← match js with
      | j :: js => (f.codec.take source j).map fun a => (a, js)
      | [] => (f.ofShort (short place)).map fun a => (a, [])
    let (row, js) ← fs.takeList source short (place + 1) js
    .ok ((a, row), js)

end Fields

/-- **The codec of a record** with the given fields. `row` takes the values of the fields from a
record and `build` puts them together again. -/
def Codec.record {αs : List Type} {ρ : Type} (name : String) (fs : Fields αs) (row : ρ → Row αs)
    (build : Row αs → ρ) : Codec ρ where
  print r := .record (fs.members (row r))
  read levels cs := do
    match ← atValue cs, levels with
    | some '[' :: _, 0 => .error .recursionLimit
    | some '\x7b' :: _, 0 => .error .recursionLimit
    | some '[' :: rest, n + 1 =>
      let (r, rest) ← fs.readList n (fun i => .wrongLength i (.record name fs.size)) 0 rest
      .ok (build r, rest)
    | some '\x7b' :: rest, n + 1 =>
      let (slots, rest) ← readMembers (fs.readMember n) (rest.length + 1) true (Fields.empty αs) rest
      .ok (build (← fs.close slots), rest)
    | rest, _ => .error (misread (.record name) rest)
  take source j :=
    match j with
    | .list js => do
      let (r, left) ← fs.takeList source (fun i => .wrongLength i (.record name fs.size)) 0 js
      if left.isEmpty then .ok (build r)
      else .error (.wrongLength js.length (source.limit fs.size))
    | .record members => do
      let slots ← members.foldlM (fun slots (n, j) => fs.takeInto source n j slots) (Fields.empty αs)
      .ok (build (← fs.close slots))
    | j => .error (misfit (.record name) j)

end MapExport.Json
