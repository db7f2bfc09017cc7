/-!
# Documents

The values that requests, presets, replies and stored geometries are made of. Numbers are kept in two
kinds, because a count must be a whole number and a coordinate need not be. The members of a record
keep the order in which they are listed; a document that was read lists them by name, each name once.
-/

set_option autoImplicit false

namespace MapExport

/-- **A document.** -/
inductive Json where
  | null
  | bool (b : Bool)
  | whole (n : Int)
  | real (x : Float)
  | text (s : String)
  | list (items : List Json)
  | record (members : List (String × Json))

namespace Json

instance : Inhabited Json := ⟨.null⟩

/-- Puts a member among others that are ordered by name; of two with one name the later stays. -/
def putMember (name : String) (value : Json) : List (String × Json) → List (String × Json)
  | [] => [(name, value)]
  | (n, v) :: rest =>
    if name < n then (name, value) :: (n, v) :: rest
    else if name = n then (name, value) :: rest
    else (n, v) :: putMember name value rest

/-- The members ordered by name, the last of each name. -/
def sortMembers (members : List (String × Json)) : List (String × Json) :=
  members.foldl (fun acc (n, v) => putMember n v acc) []

/-- The member of a name. -/
def member? (name : String) : Json → Option Json
  | .record members => (members.find? (·.1 == name)).map (·.2)
  | _ => none

/-- The item at a position. -/
def item? (i : Nat) : Json → Option Json
  | .list items => items[i]?
  | _ => none

/-- A list of texts. -/
def texts (items : List String) : Json := .list (items.map .text)

mutual

/-- **Every text** of a document changed, the names of members aside. -/
def mapTexts (f : String → String) : Json → Json
  | .text s => .text (f s)
  | .list items => .list (mapTextItems f items)
  | .record members => .record (mapTextMembers f members)
  | j => j

@[inherit_doc mapTexts]
def mapTextItems (f : String → String) : List Json → List Json
  | [] => []
  | j :: js => mapTexts f j :: mapTextItems f js

@[inherit_doc mapTexts]
def mapTextMembers (f : String → String) : List (String × Json) → List (String × Json)
  | [] => []
  | (n, j) :: rest => (n, mapTexts f j) :: mapTextMembers f rest

end

mutual

/-- **Normal order.** The same document with the members of every record ordered by name. -/
def sorted : Json → Json
  | .list items => .list (sortedItems items)
  | .record members => .record (sortMembers (sortedMembers members))
  | j => j

@[inherit_doc sorted]
def sortedItems : List Json → List Json
  | [] => []
  | j :: js => sorted j :: sortedItems js

@[inherit_doc sorted]
def sortedMembers : List (String × Json) → List (String × Json)
  | [] => []
  | (n, j) :: rest => (n, sorted j) :: sortedMembers rest

end

end Json

end MapExport
