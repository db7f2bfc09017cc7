/-!
# Geometries

The area that an export covers: one polygon or several, each an outer ring followed by its holes, each
ring a list of positions of which the last repeats the first. What a position is made of is left open
here; stored geometries have longitudes and latitudes in degrees.
-/

set_option autoImplicit false

namespace MapExport

/-- **A position** on the globe, in degrees. -/
structure Position where
  lon : Float
  lat : Float

/-- The positions around an area. -/
abbrev Ring (P : Type) := List P

/-- **A geometry.** -/
inductive Geometry (P : Type) where
  | polygon (rings : List (Ring P))
  | multiPolygon (polygons : List (List (Ring P)))

namespace Geometry

/-- The polygons, each with its outer ring first. -/
def polygons {P : Type} : Geometry P → List (List (Ring P))
  | polygon rings => [rings]
  | multiPolygon polygons => polygons

/-- All rings, holes included. -/
def rings {P : Type} (g : Geometry P) : List (Ring P) := g.polygons.flatten

/-- The outer ring of the first polygon. -/
def outerRing? {P : Type} (g : Geometry P) : Option (Ring P) :=
  match g.polygons with
  | (ring :: _) :: _ => some ring
  | _ => none

/-- The rectangle between two corners, its ring starting at the lower left one. -/
def ofBox (xmin ymin xmax ymax : Float) : Geometry Position :=
  .polygon [[⟨xmin, ymin⟩, ⟨xmin, ymax⟩, ⟨xmax, ymax⟩, ⟨xmax, ymin⟩, ⟨xmin, ymin⟩]]

end Geometry

end MapExport
