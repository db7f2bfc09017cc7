import Mathlib
import MapExport.Geometry.Area

/-!
# Drawing a geometry anew

The same ground can be drawn in many ways: a ring in either direction and from any of its corners, the holes of a
polygon in any order, and so the polygons of a geometry. The area is that of the ground. It does not change when a
geometry is drawn anew in these ways, and it is never negative (`area_is_as_drawn`).

The cross products are summed along the list of points, and the list can be cut at any point into two that both hold
it (`doubleArea_cut`). That a ring is closed is what it takes for its two halves to fit the other way round.

The sums are exact here. With doubles another order of the terms rounds in another way.
-/

set_option autoImplicit false

namespace MapExport

open Relation (ReflTransGen)

/-- **Measuring without rounding,** in an ordered field. -/
@[reducible] def Measuring.exact (K : Type) [Field K] [LinearOrder K] : Measuring K where
  emptySum := 0
  zero := 0
  half x := x / 2
  magnitude x := |x|
  positivePart x := max x 0

namespace Ring

variable {P : Type}

/-- The ring around some corners. -/
def close (corners : List P) : Ring P := corners ++ corners.head?.toList

/-- **A ring from another corner:** without the position that closes it, turned, and closed again. -/
def startAt (n : Nat) (ring : Ring P) : Ring P := close (ring.dropLast.rotate n)

/-- **A closed ring:** on the map it ends where it begins. -/
def IsClosed {K : Type} (project : P → K × K) (ring : Ring P) : Prop :=
  ring.head?.map project = ring.getLast?.map project

/-- **Drawing a ring anew,** in the other direction or from another corner. -/
inductive Redraw : Ring P → Ring P → Prop where
  | reversed (ring : Ring P) : Redraw ring ring.reverse
  | started (ring : Ring P) (n : Nat) : Redraw ring (ring.startAt n)

theorem isClosed_of_head?_eq {K : Type} (project : P → K × K) {ring : Ring P} (h : ring.head? = ring.getLast?) :
    ring.IsClosed project := congrArg _ h

theorem isClosed_close {K : Type} (project : P → K × K) (corners : List P) : (close corners).IsClosed project := by
  cases corners with
  | nil => rfl
  | cons p rest =>
    apply isClosed_of_head?_eq
    have hlast : (close (p :: rest)).getLast? = some p := List.getLast?_concat
    rw [hlast]
    rfl

theorem map_close {Q : Type} (f : P → Q) (corners : List P) : (close corners).map f = close (corners.map f) := by
  cases corners with
  | nil => rfl
  | cons p rest => exact List.map_append

end Ring

namespace Geometry

variable {P : Type}

/-- **Drawing a polygon anew:** one of its rings is, or its holes change places. -/
inductive PolygonRedraw : List (Ring P) → List (Ring P) → Prop where
  | ring (before : List (Ring P)) {ring ring' : Ring P} (after : List (Ring P)) :
    ring.Redraw ring' → PolygonRedraw (before ++ ring :: after) (before ++ ring' :: after)
  | holes (outer : Ring P) {holes holes' : List (Ring P)} :
    holes.Perm holes' → PolygonRedraw (outer :: holes) (outer :: holes')

/-- **Drawing a geometry anew:** one of its polygons is, or its polygons change places. -/
inductive Redraw : Geometry P → Geometry P → Prop where
  | single {rings rings' : List (Ring P)} :
    PolygonRedraw rings rings' → Redraw (.polygon rings) (.polygon rings')
  | part (before : List (List (Ring P))) {rings rings' : List (Ring P)} (after : List (List (Ring P))) :
    PolygonRedraw rings rings' →
      Redraw (.multiPolygon (before ++ rings :: after)) (.multiPolygon (before ++ rings' :: after))
  | parts {polygons polygons' : List (List (Ring P))} :
    polygons.Perm polygons' → Redraw (.multiPolygon polygons) (.multiPolygon polygons')

end Geometry

/-! ## Cutting and turning -/

section

variable {K : Type} [Field K]

/-- **Twice the area to the left** of a line of points, seen from the origin: the sum of its cross products. -/
def doubleArea : List (K × K) → K
  | p :: q :: rest => p.1 * q.2 - q.1 * p.2 + doubleArea (q :: rest)
  | _ => 0

/-- **A line of points can be cut** at any of them. -/
theorem doubleArea_cut (front : List (K × K)) (p : K × K) (back : List (K × K)) :
    doubleArea (front ++ p :: back) = doubleArea (front ++ [p]) + doubleArea (p :: back) := by
  induction front with
  | nil => simp [doubleArea]
  | cons a front ih =>
    cases front with
    | nil => simp [doubleArea]
    | cons b front =>
      simp only [List.cons_append, doubleArea] at ih ⊢
      rw [ih, add_assoc]

/-- **The other direction** turns the sign. -/
theorem doubleArea_reverse (points : List (K × K)) : doubleArea points.reverse = -doubleArea points := by
  induction points with
  | nil => simp [doubleArea]
  | cons p points ih =>
    cases points with
    | nil => simp [doubleArea]
    | cons q rest =>
      rw [List.reverse_cons] at ih
      rw [List.reverse_cons, List.reverse_cons, List.append_assoc, List.singleton_append, doubleArea_cut, ih]
      simp only [doubleArea]
      ring

/-- **Another corner** to start at: the two parts between which the loop is cut change places. -/
theorem doubleArea_close_rotate (corners : List (K × K)) (n : Nat) :
    doubleArea (Ring.close (corners.rotate n)) = doubleArea (Ring.close corners) := by
  rw [List.rotate_eq_drop_append_take_mod]
  conv_rhs => rw [← List.take_append_drop (n % corners.length) corners]
  generalize corners.take (n % corners.length) = front
  generalize corners.drop (n % corners.length) = back
  -- Where one part is empty nothing is turned. Otherwise the loop is cut at the first corner of each part.
  cases front with
  | nil => rw [List.append_nil, List.nil_append]
  | cons a front =>
    cases back with
    | nil => rw [List.append_nil, List.nil_append]
    | cons b back =>
      have hturned : Ring.close (b :: back ++ a :: front) = (b :: back) ++ a :: (front ++ [b]) := by
        simp [Ring.close]
      have hstraight : Ring.close (a :: front ++ b :: back) = (a :: front) ++ b :: (back ++ [a]) := by
        simp [Ring.close]
      rw [hturned, hstraight, doubleArea_cut, doubleArea_cut (a :: front), add_comm]
      rfl

/-- A loop that was opened is closed again. -/
theorem doubleArea_close_dropLast {points : List (K × K)} (hclosed : points.head? = points.getLast?) :
    doubleArea (Ring.close points.dropLast) = doubleArea points := by
  cases points with
  | nil => rfl
  | cons p rest =>
    cases rest with
    | nil => rfl
    | cons q rest =>
      have hwhole : (p :: q :: rest).dropLast ++ [p] = p :: q :: rest :=
        List.dropLast_append_getLast? p (Option.mem_def.mpr hclosed.symm)
      have hclose : Ring.close (p :: q :: rest).dropLast = (p :: q :: rest).dropLast ++ [p] := rfl
      rw [hclose, hwhole]

end

/-! ## Areas without rounding -/

section

variable {P K : Type} [Field K] [LinearOrder K] (project : P → K × K)

/-- The area of a ring, without rounding. -/
def Ring.exactArea (ring : Ring P) : K := @Ring.area P K (.exact K) project ring

/-- The area of a polygon, without rounding. -/
def Geometry.exactPolygonArea (rings : List (Ring P)) : K := @Geometry.polygonArea P K (.exact K) project rings

/-- **The area of a geometry, without rounding.** -/
def Geometry.exactArea (g : Geometry P) : K := @Geometry.area P K (.exact K) project g

/-- What is summed without rounding. -/
theorem exact_sum_eq (xs : List K) : @Measuring.sum K (.exact K) xs = xs.sum := by
  rw [List.sum_eq_foldl]
  rfl

theorem sum_crossings_eq (points : List (K × K)) : (@crossings K (.exact K) points).sum = doubleArea points := by
  induction points with
  | nil => rfl
  | cons p points ih =>
    cases points with
    | nil => rfl
    | cons q rest => exact congrArg (p.1 * q.2 - q.1 * p.2 + ·) ih

theorem Ring.exactArea_eq (ring : Ring P) : ring.exactArea project = |doubleArea (ring.map project)| / 2 := by
  rw [← sum_crossings_eq, ← exact_sum_eq]
  rfl

theorem Geometry.exactPolygonArea_nil : exactPolygonArea project [] = 0 := by
  have hempty : exactPolygonArea project [] = max (0 - 0) 0 := rfl
  rw [hempty, sub_zero, max_self]

theorem Geometry.exactPolygonArea_cons (outer : Ring P) (holes : List (Ring P)) :
    exactPolygonArea project (outer :: holes) =
      max (outer.exactArea project - (holes.map (Ring.exactArea project)).sum) 0 := by
  rw [← exact_sum_eq]
  rfl

/-- Of its rings a polygon only needs the areas. -/
theorem Geometry.exactPolygonArea_congr {rings rings' : List (Ring P)}
    (h : rings'.map (Ring.exactArea project) = rings.map (Ring.exactArea project)) :
    exactPolygonArea project rings' = exactPolygonArea project rings := by
  cases rings with
  | nil => rw [List.map_eq_nil_iff.mp h]
  | cons outer holes =>
    obtain ⟨outer', holes', rfl, houter, hholes⟩ := List.map_eq_cons_iff.mp h
    rw [exactPolygonArea_cons, exactPolygonArea_cons, houter, hholes]

theorem Geometry.exactPolygonArea_nonneg (rings : List (Ring P)) : 0 ≤ exactPolygonArea project rings := by
  cases rings with
  | nil => exact (exactPolygonArea_nil project).ge
  | cons outer holes =>
    rw [exactPolygonArea_cons]
    exact le_max_right _ _

theorem Geometry.exactArea_eq (g : Geometry P) :
    g.exactArea project = (g.polygons.map (exactPolygonArea project)).sum := by
  rw [← exact_sum_eq]
  rfl

end

/-! ## Drawing anew -/

section

variable {P K : Type} [Field K] [LinearOrder K] {project : P → K × K}

/-- **A ring that is drawn anew** is closed and has the area that it had. -/
theorem Ring.Redraw.same {ring ring' : Ring P} (h : ring.Redraw ring') (hclosed : ring.IsClosed project) :
    ring'.IsClosed project ∧ ring'.exactArea project = ring.exactArea project := by
  cases h with
  | reversed =>
    constructor
    · rw [IsClosed, List.head?_reverse, List.getLast?_reverse]
      exact hclosed.symm
    · rw [exactArea_eq, exactArea_eq, List.map_reverse, doubleArea_reverse, abs_neg]
  | started n =>
    refine ⟨isClosed_close project _, ?_⟩
    have hpoints : (ring.startAt n).map project = close ((ring.map project).dropLast.rotate n) := by
      rw [startAt, map_close, List.map_rotate, List.map_dropLast]
    have hloop : (ring.map project).head? = (ring.map project).getLast? := by
      rw [List.head?_map, List.getLast?_map]
      exact hclosed
    rw [exactArea_eq, exactArea_eq, hpoints, doubleArea_close_rotate, doubleArea_close_dropLast hloop]

namespace Geometry

/-- **A polygon that is drawn anew.** -/
theorem PolygonRedraw.same {rings rings' : List (Ring P)} (h : PolygonRedraw rings rings')
    (hclosed : ∀ ring ∈ rings, ring.IsClosed project) :
    (∀ ring ∈ rings', ring.IsClosed project) ∧ exactPolygonArea project rings' = exactPolygonArea project rings := by
  cases h with
  | @ring before ring ring' after hring =>
    obtain ⟨hclosed', harea⟩ := hring.same (hclosed ring (List.mem_append_right _ List.mem_cons_self))
    constructor
    · intro r hr
      rcases List.mem_append.mp hr with hr | hr
      · exact hclosed r (List.mem_append_left _ hr)
      rcases List.mem_cons.mp hr with rfl | hr
      · exact hclosed'
      · exact hclosed r (List.mem_append_right _ (List.mem_cons_of_mem _ hr))
    · apply exactPolygonArea_congr
      rw [List.map_append, List.map_append, List.map_cons, List.map_cons, harea]
  | holes outer hholes =>
    constructor
    · intro r hr
      exact hclosed r ((hholes.cons outer).mem_iff.mpr hr)
    · rw [exactPolygonArea_cons, exactPolygonArea_cons, (hholes.map _).sum_eq]

/-- **A geometry that is drawn anew.** -/
theorem Redraw.same {g h : Geometry P} (hredraw : Redraw g h) (hclosed : ∀ ring ∈ g.rings, ring.IsClosed project) :
    (∀ ring ∈ h.rings, ring.IsClosed project) ∧ h.exactArea project = g.exactArea project := by
  have hrings (g : Geometry P) : (∀ ring ∈ g.rings, ring.IsClosed project) ↔
      ∀ polygon ∈ g.polygons, ∀ ring ∈ polygon, ring.IsClosed project := by
    rw [rings, List.forall_mem_flatten]
  rw [hrings] at hclosed ⊢
  rw [exactArea_eq, exactArea_eq]
  cases hredraw with
  | @single rings rings' h =>
    obtain ⟨hclosed', harea⟩ := h.same (hclosed rings (List.mem_singleton_self _))
    constructor
    · intro polygon hpolygon
      obtain rfl := List.mem_singleton.mp hpolygon
      exact hclosed'
    · simp only [polygons, List.map_cons, List.map_nil, harea]
  | @part before rings rings' after h =>
    obtain ⟨hclosed', harea⟩ := h.same (hclosed rings (List.mem_append_right _ List.mem_cons_self))
    constructor
    · intro polygon hpolygon
      rcases List.mem_append.mp hpolygon with hpolygon | hpolygon
      · exact hclosed polygon (List.mem_append_left _ hpolygon)
      rcases List.mem_cons.mp hpolygon with rfl | hpolygon
      · exact hclosed'
      · exact hclosed polygon (List.mem_append_right _ (List.mem_cons_of_mem _ hpolygon))
    · simp only [polygons, List.map_append, List.map_cons, harea]
  | parts h =>
    constructor
    · intro polygon hpolygon
      exact hclosed polygon (h.mem_iff.mpr hpolygon)
    · exact (h.symm.map _).sum_eq

/-- However often a geometry is drawn anew. -/
theorem same_of_redraws {g h : Geometry P} (hredraws : ReflTransGen Redraw g h)
    (hclosed : ∀ ring ∈ g.rings, ring.IsClosed project) :
    (∀ ring ∈ h.rings, ring.IsClosed project) ∧ h.exactArea project = g.exactArea project := by
  -- That the rings are closed is carried along, because one that is not has another area when it is turned.
  induction hredraws with
  | refl => exact ⟨hclosed, rfl⟩
  | tail _ hredraw ih =>
    obtain ⟨hclosed', harea⟩ := hredraw.same ih.1
    exact ⟨hclosed', harea.trans ih.2⟩

/-- **The area is as drawn.** It is never negative, and a geometry of closed rings keeps it when rings are drawn in the
other direction or from another corner and when holes or polygons change places, as often as one likes. -/
theorem area_is_as_drawn [IsStrictOrderedRing K] (project : P → K × K) (g : Geometry P) :
    0 ≤ g.exactArea project ∧
      ((∀ ring ∈ g.rings, ring.IsClosed project) →
        ∀ h, ReflTransGen Redraw g h → h.exactArea project = g.exactArea project) := by
  constructor
  · rw [exactArea_eq]
    apply List.sum_nonneg
    intro area harea
    obtain ⟨rings, -, rfl⟩ := List.mem_map.mp harea
    exact exactPolygonArea_nonneg project rings
  · intro hclosed h hredraws
    exact (same_of_redraws hredraws hclosed).2

/-- Two polygons on a map that is drawn twice as wide, the first of them with two holes. In the second drawing the
polygons and the holes have changed places, the outer ring goes the other way round, and one hole starts at the opposite
corner. -/
theorem trial_area_is_as_drawn :
    let project (p : ℚ × ℚ) : ℚ × ℚ := (2 * p.1, p.2)
    let outer : Ring (ℚ × ℚ) := [(0, 0), (4, 0), (4, 4), (0, 4), (0, 0)]
    let square : Ring (ℚ × ℚ) := [(1, 1), (2, 1), (2, 2), (1, 2), (1, 1)]
    let corner : Ring (ℚ × ℚ) := [(3, 2), (3, 3), (2, 3), (3, 2)]
    let island : Ring (ℚ × ℚ) := [(5, 0), (7, 0), (5, 2), (5, 0)]
    let g : Geometry (ℚ × ℚ) := .multiPolygon [[outer, square, corner], [island]]
    let h : Geometry (ℚ × ℚ) := .multiPolygon [[island],
      [[(0, 0), (0, 4), (4, 4), (4, 0), (0, 0)], corner, [(2, 2), (1, 2), (1, 1), (2, 1), (2, 2)]]]
    (∀ ring ∈ g.rings, ring.IsClosed project) ∧ ReflTransGen Redraw g h ∧ h.exactArea project = 33 := by
  intro project outer square corner island g h
  have hclosed : ∀ ring ∈ g.rings, ring.IsClosed project := by
    intro ring hring
    apply Ring.isClosed_of_head?_eq
    revert ring
    decide +kernel
  have hredraws : ReflTransGen Redraw g h := by
    let drawn (rings : List (Ring (ℚ × ℚ))) : Geometry (ℚ × ℚ) := .multiPolygon [[island], rings]
    have hplaces : Redraw g (drawn [outer, square, corner]) := .parts (.swap _ _ _)
    have hrings {rings rings' : List (Ring (ℚ × ℚ))} (h : PolygonRedraw rings rings') :
        Redraw (drawn rings) (drawn rings') := .part [[island]] [] h
    have houter := hrings (.ring [] [square, corner] (.reversed outer))
    have hsquare := hrings (.ring [outer.reverse] [corner] (.started square 2))
    have hholes := hrings (.holes outer.reverse (.swap corner (square.startAt 2) []))
    exact (((ReflTransGen.single hplaces).tail houter).tail hsquare).tail hholes
  have harea : g.exactArea project = 33 := by decide +kernel
  exact ⟨hclosed, hredraws, ((area_is_as_drawn project g).2 hclosed h hredraws).trans harea⟩

end Geometry

end

end MapExport
