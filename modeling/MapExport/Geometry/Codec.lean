import MapExport.Geometry.Basic
import MapExport.Json.Codec
import MapExport.Json.Print

/-!
# Geometries in documents

A geometry is written as a record of its type and its coordinates, and may also be given as a list of
the two. In a record they may come in either order: coordinates that come first are put aside until
the type is known. Other members are passed over.
-/

set_option autoImplicit false

namespace MapExport

open Json

/-- Positions, written as longitude and latitude. -/
def Position.codec : Codec Position :=
  Codec.real.pair.via (fun (x, y) => ⟨x, y⟩) (fun p => (p.lon, p.lat))

namespace Geometry

/-- The two types of geometries. -/
inductive Variety where
  | polygon
  | multiPolygon
  deriving DecidableEq, Repr

/-- The names of the types. -/
def varieties : List (String × Variety) :=
  [("Polygon", .polygon), ("MultiPolygon", .multiPolygon)]

/-- The name of a type. -/
def Variety.name : Variety → String
  | .polygon => "Polygon"
  | .multiPolygon => "MultiPolygon"

/-- The type of a geometry, as it stands in documents. -/
def varietyCodec : Codec Variety := Codec.choice varieties Variety.name

/-- The coordinates of a polygon. -/
def polygonCodec : Codec (List (Ring Position)) := Position.codec.list.list

/-- The coordinates of a geometry of a known type. -/
def contentCodec : Variety → Codec (Geometry Position)
  | .polygon => polygonCodec.via .polygon fun g => g.polygons.head?.getD []
  | .multiPolygon => polygonCodec.list.via .multiPolygon polygons

/-- What a geometry is, as the record it is written as. -/
def print (g : Geometry Position) : Json :=
  match g with
  | .polygon rings =>
    .record [("type", .text "Polygon"), ("coordinates", polygonCodec.print rings)]
  | .multiPolygon polygons =>
    .record [("type", .text "MultiPolygon"), ("coordinates", polygonCodec.list.print polygons)]

/-- What has been read of a geometry: its type, its coordinates put aside, or all of it. -/
inductive Progress where
  | nothing
  | typed (variety : Variety)
  | aside (coordinates : Json)
  | whole (g : Geometry Position)

/-- Takes in the type. -/
def Progress.withType : Progress → Variety → Except Fault Progress
  | .nothing, v => .ok (.typed v)
  | .aside j, v => do .ok (.whole (← (contentCodec v).take .aside j))
  | p, _ => .ok p

/-- A second member of the same name is refused. -/
def Progress.refuse? (name : String) : Progress → Option Fault
  | .nothing => none
  | .typed _ => if name = "type" then some (.duplicateField name) else none
  | .aside _ => if name = "coordinates" then some (.duplicateField name) else none
  | .whole _ => some (.duplicateField name)

/-- A member of the record in a text. -/
def readMember (levels : Nat) (p : Progress) (name : String) (cs : Symbols) :
    Except Fault (Progress × Symbols) :=
  if name = "type" ∨ name = "coordinates" then
    match p.refuse? name with
    | some e => .error e
    | none => do
      let cs ← readColon cs
      if name = "type" then
        let (v, rest) ← varietyCodec.read levels cs
        .ok (← p.withType v, rest)
      else
        match p with
        | .typed v =>
          let (g, rest) ← (contentCodec v).read levels cs
          .ok (.whole g, rest)
        | _ =>
          let (j, rest) ← readValue levels cs
          .ok (.aside j, rest)
  else do .ok (p, ← skipValue (← readColon cs))

/-- A member of the record in a document. -/
def takeMember (source : Source) (p : Progress) (name : String) (j : Json) :
    Except Fault Progress :=
  if name = "type" then do p.withType (← varietyCodec.take source j)
  else if name = "coordinates" then
    match p with
    | .typed v => (contentCodec v).take source j |>.map .whole
    | _ => .ok (.aside j)
  else .ok p

/-- What has been read has to be all of a geometry. -/
def Progress.close : Progress → Except Fault (Geometry Position)
  | .nothing => .error (.missingField "type")
  | .typed _ => .error (.missingField "coordinates")
  | .aside _ => .error (.missingField "type")
  | .whole g => .ok g

/-- How a geometry is called where another thing was found. -/
def shape : Shape := .tagged "Geometry"

/-- A list that is too short for a geometry. -/
def tooShort (n : Nat) : Fault := .wrongLength n (.tagged "Geometry")

/-- A geometry given as a list, its bracket having been read. -/
def readList (levels : Nat) (cs : Symbols) : Except Fault (Geometry Position × Symbols) := do
  match ← nextItem true cs with
  | (false, _) => .error (tooShort 0)
  | (true, rest) =>
    let (v, rest) ← varietyCodec.read levels rest
    match ← nextItem false rest with
    | (false, _) => .error (tooShort 1)
    | (true, rest) =>
      let (g, rest) ← (contentCodec v).read levels rest
      .ok (g, ← endList rest)

/-- A geometry given as the items of a list. -/
def takeList (source : Source) : List Json → Except Fault (Geometry Position)
  | [] => .error (tooShort 0)
  | t :: js => do
    let v ← varietyCodec.take source t
    match js with
    | [] => .error (tooShort 1)
    | j :: more =>
      let g ← (contentCodec v).take source j
      if more.isEmpty then .ok g
      else .error (.wrongLength (more.length + 2) (source.limit 2))

/-- **The codec of geometries.** -/
def codec : Codec (Geometry Position) where
  print := print
  read levels cs := do
    match ← atValue cs, levels with
    | some '[' :: _, 0 => .error .recursionLimit
    | some '\x7b' :: _, 0 => .error .recursionLimit
    | some '[' :: rest, n + 1 => readList n rest
    | some '\x7b' :: rest, n + 1 =>
      let (p, rest) ← readMembers (readMember n) (rest.length + 1) true .nothing rest
      .ok (← p.close, rest)
    | rest, _ => .error (misread shape rest)
  take source j :=
    match j with
    | .list js => takeList source js
    | .record members => do
      (← members.foldlM (fun p (n, j) => takeMember source p n j) .nothing).close
    | j => .error (misfit shape j)

/-- The text of a geometry in the form that maps exchange. -/
def geoText (g : Geometry Position) : String := g.print.render

end Geometry

end MapExport
