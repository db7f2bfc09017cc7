import MapExport.Geometry.Basic

/-!
# Areas

The area of a geometry is measured on the plane of the web map: positions are projected, the area of a
ring is half the magnitude of the sum of its cross products, holes are taken off their polygon, and a
polygon never counts for less than nothing.

The sums are written for any arithmetic, because what they say does not depend on how numbers are
rounded; the service measures with doubles.
-/

set_option autoImplicit false

namespace MapExport

/-- **The arithmetic of measuring.** What the area formula does with numbers. -/
class Measuring (R : Type) extends Add R, Sub R, Mul R where
  /-- The sum of no terms. -/
  emptySum : R
  zero : R
  half : R → R
  magnitude : R → R
  positivePart : R → R

/-- Doubles: an empty sum is the zero that leaves every other one as it is, and a value that is no
number has no positive part. -/
instance : Measuring Float where
  emptySum := -0.0
  zero := 0.0
  half x := x / 2.0
  magnitude := Float.abs
  positivePart x := if x > 0.0 then x else 0.0

/-- A sum from left to right. -/
def Measuring.sum {R : Type} [Measuring R] (xs : List R) : R := xs.foldl (· + ·) emptySum

open Measuring (sum half magnitude positivePart)

/-- The cross product of two vectors. -/
def cross {R : Type} [Measuring R] (p q : R × R) : R := p.1 * q.2 - q.1 * p.2

/-- The cross products of consecutive points. -/
def crossings {R : Type} [Measuring R] : List (R × R) → List R
  | p :: q :: rest => cross p q :: crossings (q :: rest)
  | _ => []

/-- **The area of a ring.** -/
def Ring.area {P R : Type} [Measuring R] (project : P → R × R) (ring : Ring P) : R :=
  half (magnitude (sum (crossings (ring.map project))))

namespace Geometry

/-- The area of a polygon: its outer ring less its holes. -/
def polygonArea {P R : Type} [Measuring R] (project : P → R × R) : List (Ring P) → R
  | [] => positivePart (Measuring.zero - sum ([] : List R))
  | outer :: holes =>
    positivePart (Ring.area project outer - sum (holes.map (Ring.area project)))

/-- **The area of a geometry.** -/
def area {P R : Type} [Measuring R] (project : P → R × R) (g : Geometry P) : R :=
  sum (g.polygons.map (polygonArea project))

end Geometry

namespace WebMap

/-- The radius of the globe that the web map is drawn for, in metres. -/
def radius : Float := 6378137.0

/-- The latitude at which the web map ends. -/
def maxLatitude : Float := 85.05112877980659

/-- Half the circumference of the unit circle. -/
def pi : Float := 3.141592653589793

/-- Degrees to radians. -/
def radians (degrees : Float) : Float := degrees * (pi / 180.0)

/-- A latitude within the map. What is no number stays as it is. -/
def clampLatitude (lat : Float) : Float :=
  if lat < -maxLatitude then -maxLatitude else if lat > maxLatitude then maxLatitude else lat

/-- **The projection** of a position onto the web map, in metres. -/
def project (p : Position) : Float × Float :=
  let lon := radians p.lon
  let lat := radians (clampLatitude p.lat)
  (radius * lon, radius * Float.log (Float.tan (pi / 4.0 + lat / 2.0)))

end WebMap

/-- The area of a geometry on the web map, in square metres. -/
def Geometry.mapArea (g : Geometry Position) : Float := g.area WebMap.project

end MapExport
