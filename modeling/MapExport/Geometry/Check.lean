import MapExport.Geometry.Area

/-!
# Usable geometries

An export needs a geometry that covers something: at least one polygon with rings that are long enough,
closed and on the globe, and an area that is not zero. The first thing that is wrong is reported, the
rings being looked at in order.
-/

set_option autoImplicit false

namespace MapExport.Geometry

/-- What makes a geometry unusable. -/
inductive Defect where
  | noPolygon
  | shortRing
  | openRing
  | offGlobe
  | noArea
  deriving DecidableEq, Repr

/-- The text of a defect. -/
def Defect.message : Defect → String
  | .noPolygon => "La géométrie doit contenir au moins un polygone"
  | .shortRing => "Chaque anneau doit contenir au moins 4 positions"
  | .openRing => "Les anneaux doivent être fermés"
  | .offGlobe => "Coordonnées hors de l'emprise EPSG:4326"
  | .noArea => "La géométrie doit avoir une surface non nulle"

/-- Whether two positions are the same; what is no number is never the same. -/
def samePlace (p q : Position) : Bool := p.lon == q.lon && p.lat == q.lat

/-- Whether a position is on the globe. -/
def onGlobe (p : Position) : Bool :=
  decide (-180.0 ≤ p.lon) && decide (p.lon ≤ 180.0) && decide (-90.0 ≤ p.lat) && decide (p.lat ≤ 90.0)

/-- Whether the last position of a ring repeats the first. -/
def isClosed (ring : Ring Position) : Bool :=
  match ring.head?, ring.getLast? with
  | some p, some q => samePlace p q
  | _, _ => true

/-- What is wrong with a ring. -/
def ringDefect? (ring : Ring Position) : Option Defect :=
  if ring.length < 4 then some .shortRing
  else if !isClosed ring then some .openRing
  else if !ring.all onGlobe then some .offGlobe
  else none

/-- What is wrong with a geometry whose area is measured on some map, if anything is. -/
def defectOn? (project : Position → Float × Float) (g : Geometry Position) : Option Defect :=
  if g.polygons.isEmpty || g.polygons.any List.isEmpty then some .noPolygon
  else
    match g.rings.findSome? ringDefect? with
    | some d => some d
    | none => if g.area project ≤ 0.0 then some .noArea else none

/-- **What is wrong with a geometry** on the web map, if anything is. -/
def defect? (g : Geometry Position) : Option Defect := g.defectOn? WebMap.project

end MapExport.Geometry
