import Mathlib.Data.List.Basic
import MapExport.Geometry.Check
import MapExport.Proofs.Decimal.Finite

/-!
# What makes a geometry usable

The check of a geometry looks for the first defect. Here it is said what there is when none is found: polygons and
rings, each ring long enough, closed and on the globe, and an area (`Geometry.usable_iff`). Being on the globe rules out
whatever is no number, because such a coordinate does not lie between two others.
-/

set_option autoImplicit false

namespace MapExport.Geometry

/-- **On the globe:** a longitude of half a turn at most, a latitude of a quarter at most. -/
structure OnGlobe (p : Position) : Prop where
  lon : -180.0 ≤ p.lon ∧ p.lon ≤ 180.0
  lat : -90.0 ≤ p.lat ∧ p.lat ≤ 90.0

/-- **A usable ring:** four positions at least, the last one equal to the first, and all of them on the globe. -/
structure UsableRing (ring : Ring Position) : Prop where
  long : 4 ≤ ring.length
  closed : ∃ first ∈ ring.head?, ∃ last ∈ ring.getLast?, (first.lon == last.lon) = true ∧ (first.lat == last.lat) = true
  onGlobe : ∀ p ∈ ring, OnGlobe p

/-- **A usable geometry:** polygons, with rings that are usable, holes included, and an area. -/
structure Usable (g : Geometry Position) : Prop where
  polygons : g.polygons ≠ []
  rings : ∀ polygon ∈ g.polygons, polygon ≠ [] ∧ ∀ ring ∈ polygon, UsableRing ring
  area : ¬ g.mapArea ≤ 0.0

/-- All coordinates of a geometry. -/
def coordinates (g : Geometry Position) : List Float := g.rings.flatten.flatMap fun p => [p.lon, p.lat]

/-- A coordinate is the longitude or the latitude of some position. -/
theorem mem_coordinates_iff {g : Geometry Position} {x : Float} :
    x ∈ g.coordinates ↔ ∃ polygon ∈ g.polygons, ∃ ring ∈ polygon, ∃ p ∈ ring, x = p.lon ∨ x = p.lat := by
  rw [coordinates, List.mem_flatMap]
  constructor
  · rintro ⟨p, hp, hx⟩
    obtain ⟨ring, hring, hp⟩ := List.mem_flatten.mp hp
    obtain ⟨polygon, hpolygon, hring⟩ := List.mem_flatten.mp hring
    exact ⟨polygon, hpolygon, ring, hring, p, hp, List.mem_pair.mp hx⟩
  · rintro ⟨polygon, hpolygon, ring, hring, p, hp, hx⟩
    have hring : ring ∈ g.rings := List.mem_flatten.mpr ⟨polygon, hpolygon, hring⟩
    exact ⟨p, List.mem_flatten.mpr ⟨ring, hring, hp⟩, List.mem_pair.mpr hx⟩

theorem onGlobe_iff {p : Position} : onGlobe p = true ↔ OnGlobe p := by
  simp only [onGlobe, Bool.and_eq_true, decide_eq_true_eq]
  constructor
  · rintro ⟨⟨⟨hwest, heast⟩, hsouth⟩, hnorth⟩
    exact ⟨⟨hwest, heast⟩, ⟨hsouth, hnorth⟩⟩
  · rintro ⟨⟨hwest, heast⟩, ⟨hsouth, hnorth⟩⟩
    exact ⟨⟨⟨hwest, heast⟩, hsouth⟩, hnorth⟩

/-- A position on the globe has numbers for coordinates. -/
theorem OnGlobe.isFinite {p : Position} (h : OnGlobe p) : p.lon.isFinite = true ∧ p.lat.isFinite = true := by
  constructor
  · exact Decimal.isFinite_of_between (by decide) (by decide) h.lon.1 h.lon.2
  · exact Decimal.isFinite_of_between (by decide) (by decide) h.lat.1 h.lat.2

/-- A ring that is not empty is closed if its last position is its first. -/
theorem isClosed_iff {ring : Ring Position} (hne : ring ≠ []) : isClosed ring = true ↔
    ∃ first ∈ ring.head?, ∃ last ∈ ring.getLast?, (first.lon == last.lon) = true ∧ (first.lat == last.lat) = true := by
  obtain ⟨first, hfirst⟩ := Option.ne_none_iff_exists'.mp (mt List.head?_eq_none_iff.mp hne)
  obtain ⟨last, hlast⟩ := Option.ne_none_iff_exists'.mp (mt List.getLast?_eq_none_iff.mp hne)
  rw [isClosed, hfirst, hlast]
  simp only [samePlace, Bool.and_eq_true, Option.mem_some_iff, exists_eq_left']

theorem ringDefect?_eq_none_iff {ring : Ring Position} : ringDefect? ring = none ↔ UsableRing ring := by
  have honGlobe : ring.all onGlobe = true ↔ ∀ p ∈ ring, OnGlobe p := by
    simp only [List.all_eq_true, onGlobe_iff]
  rw [ringDefect?]
  by_cases hlong : ring.length < 4
  · rw [if_pos hlong]
    refine iff_of_false (Option.some_ne_none _) ?_
    intro h
    exact Nat.not_lt.mpr h.long hlong
  have hne : ring ≠ [] := by
    rintro rfl
    exact hlong (by decide)
  rw [if_neg hlong]
  by_cases hclosed : isClosed ring = true
  · rw [if_neg (by rw [hclosed]; exact Bool.false_ne_true)]
    by_cases hall : ring.all onGlobe = true
    · rw [if_neg (by rw [hall]; exact Bool.false_ne_true)]
      exact iff_of_true rfl ⟨Nat.not_lt.mp hlong, (isClosed_iff hne).mp hclosed, honGlobe.mp hall⟩
    · rw [if_pos (by rw [Bool.eq_false_iff.mpr hall]; rfl)]
      refine iff_of_false (Option.some_ne_none _) ?_
      intro h
      exact hall (honGlobe.mpr h.onGlobe)
  · rw [if_pos (by rw [Bool.eq_false_iff.mpr hclosed]; rfl)]
    refine iff_of_false (Option.some_ne_none _) ?_
    intro h
    exact hclosed ((isClosed_iff hne).mpr h.closed)

/-- No ring of any polygon has a defect. -/
theorem findSome?_ringDefect?_eq_none_iff {g : Geometry Position} :
    g.rings.findSome? ringDefect? = none ↔ ∀ polygon ∈ g.polygons, ∀ ring ∈ polygon, UsableRing ring := by
  rw [List.findSome?_eq_none_iff, rings]
  simp only [List.mem_flatten, ringDefect?_eq_none_iff]
  constructor
  · intro h polygon hpolygon ring hring
    exact h ring ⟨polygon, hpolygon, hring⟩
  · rintro h ring ⟨polygon, hpolygon, hring⟩
    exact h polygon hpolygon ring hring

/-- **The check finds nothing wrong** with a geometry just if it has polygons, with rings that are usable, and an area
on the map. -/
theorem defectOn?_eq_none_iff {g : Geometry Position} {project : Position → Float × Float} :
    g.defectOn? project = none ↔ g.polygons ≠ [] ∧
      (∀ polygon ∈ g.polygons, polygon ≠ [] ∧ ∀ ring ∈ polygon, UsableRing ring) ∧ ¬ g.area project ≤ 0.0 := by
  have hpresent : (g.polygons.isEmpty || g.polygons.any List.isEmpty) = true ↔
      ¬ (g.polygons ≠ [] ∧ ∀ polygon ∈ g.polygons, polygon ≠ []) := by
    rw [Bool.or_eq_true, List.isEmpty_iff, List.any_eq_true]
    simp only [List.isEmpty_iff, not_and_or, not_forall, not_not, exists_prop]
  -- The check stops at the first defect, so each step is looked at where those before it have found none.
  rw [defectOn?]
  by_cases hsome : g.polygons ≠ [] ∧ ∀ polygon ∈ g.polygons, polygon ≠ []
  · rw [if_neg (fun h => hpresent.mp h hsome)]
    cases hrings : g.rings.findSome? ringDefect? with
    | some d =>
      refine iff_of_false (Option.some_ne_none d) ?_
      rintro ⟨-, hpolygons, -⟩
      have hnone := findSome?_ringDefect?_eq_none_iff.mpr fun polygon hpolygon => (hpolygons polygon hpolygon).2
      rw [hrings] at hnone
      cases hnone
    | none =>
      have husable := findSome?_ringDefect?_eq_none_iff.mp hrings
      by_cases harea : g.area project ≤ 0.0
      · rw [if_pos harea]
        exact iff_of_false (Option.some_ne_none _) fun h => h.2.2 harea
      · rw [if_neg harea]
        refine iff_of_true rfl ⟨hsome.1, ?_, harea⟩
        intro polygon hpolygon
        exact ⟨hsome.2 polygon hpolygon, husable polygon hpolygon⟩
  · rw [if_pos (hpresent.mpr hsome)]
    refine iff_of_false (Option.some_ne_none _) ?_
    rintro ⟨hne, hpolygons, -⟩
    exact hsome ⟨hne, fun polygon hpolygon => (hpolygons polygon hpolygon).1⟩

/-- **A geometry is usable** just if the check finds nothing wrong with it. -/
theorem usable_iff {g : Geometry Position} : g.Usable ↔ g.defect? = none := by
  rw [defect?, defectOn?_eq_none_iff]
  constructor
  · intro h
    exact ⟨h.polygons, h.rings, h.area⟩
  · rintro ⟨hpolygons, hrings, harea⟩
    exact ⟨hpolygons, hrings, harea⟩

/-- **The coordinates of a usable geometry** are numbers. -/
theorem Usable.isFinite {g : Geometry Position} (h : g.Usable) {x : Float} (hx : x ∈ g.coordinates) :
    x.isFinite = true := by
  obtain ⟨polygon, hpolygon, ring, hring, p, hp, hx⟩ := mem_coordinates_iff.mp hx
  have hfinite := (((h.rings polygon hpolygon).2 ring hring).onGlobe p hp).isFinite
  rcases hx with rfl | rfl
  · exact hfinite.1
  · exact hfinite.2

end MapExport.Geometry
