import MapExport.Decimal.Layout
import MapExport.Failure
import MapExport.Geometry.Basic
import MapExport.Text.Blank
import MapExport.Text.Number

/-!
# Asking for a feature count

The counter is asked for the features within the outer ring of a geometry. It takes positions as latitude
and longitude, all numbers in one line with a blank between two.

The count stands at a fixed place in the reply, as a number or as a text. It has to be a whole number of
sixty-four bits.
-/

set_option autoImplicit false

namespace MapExport

/-! ## Queries -/

namespace FeatureCount

/-- A position with its two numbers exchanged. -/
def swap (p : Position) : Position := ⟨p.lat, p.lon⟩

/-- The numbers of positions in order, with a blank between two. -/
def line (ps : List Position) : String :=
  " ".intercalate (ps.map fun p =>
    Decimal.Layout.plain.render p.lon ++ " " ++ Decimal.Layout.plain.render p.lat)

/-- The query for the features within a ring. -/
def ringQuery (ring : Ring Position) : String :=
  "[out:json];(node(poly:\"" ++ line (ring.map swap) ++ "\");<;);out count;"

/-- **The query for the features of a geometry,** which needs an outer ring with a position. -/
def query (g : Geometry Position) : Except Failure String :=
  match g.outerRing? with
  | some (p :: ps) => .ok (ringQuery (p :: ps))
  | _ => .error (.badRequest "Geometry should be a polygon type")

end FeatureCount

/-! ## Replies -/

/-- The part of a document that a step leads to: a member by name, or an item by its place, which is
written without needless zeros. -/
def Json.step? (j : Json) (step : String) : Option Json :=
  match j with
  | .record _ => j.member? step
  | .list items =>
    if step.startsWith "+" || (step.startsWith "0" && step != "0") then none
    else (Text.number? (Text.maxBits 64) step).bind (items[·]?)
  | _ => none

/-- The part of a document that a path leads to. -/
def Json.path? (j : Json) (steps : List String) : Option Json := steps.foldlM Json.step? j

namespace FeatureCount

/-- Where in the reply the count stands. -/
def totalPath : List String := ["elements", "0", "tags", "total"]

/-- What is said of a reply that cannot be understood. -/
def unreadable : Failure := .unreadable "Could not parse response from OSM server"

/-- The count that a document holds. -/
def number? : Json → Option Nat
  | .whole n => n.toNat?.filter (· ≤ Text.maxBits 64)
  | .text s => Text.number? (Text.maxBits 64) (Text.trim s)
  | _ => none

/-- **The count in a reply.** -/
def ofReply (j : Json) : Except Failure Nat :=
  match j.path? totalPath with
  | none => .error unreadable
  | some total =>
    match number? total with
    | some n => .ok n
    | none => .error (.unreadable ("Invalid feature count: " ++ total.render))

end FeatureCount

end MapExport
