import Mathlib
import MapExport.FeatureCount.Query
import MapExport.Proofs.Decimal.Shape
import MapExport.Proofs.Geometry.Usable

/-!
# What the counter is asked about

A query holds the outer ring as words with a blank between two. No word has a blank or a quotation mark in it, so the
words can be told apart and the ring read off them (`words?_ringQuery`): a latitude, a longitude, and so on round the
ring. A usable geometry has a ring to send, and the ring ends where it begins, up to the sign of a zero.
-/

set_option autoImplicit false

namespace MapExport.FeatureCount

open Decimal (Layout)

/-- **The words of a polygon** in a query: what stands behind the first `poly:"` up to the next quotation mark, taken
apart at each blank. -/
def words? (q : String) : Option (List String) :=
  (q.toList.tails.find? "poly:\"".toList.isPrefixOf).map fun rest =>
    (((rest.drop "poly:\"".toList.length).takeWhile (· != '"')).splitOn ' ').map String.ofList

/-- The words of a ring, a latitude and a longitude for each position. -/
def ringWords (ring : Ring Position) : List String :=
  ring.flatMap fun p => [Layout.plain.render p.lat, Layout.plain.render p.lon]

/-- The outer ring of the first polygon as it is printed. -/
def printedRing? (g : Geometry Position) : Option (List (String × String)) :=
  g.outerRing?.map (List.map fun p => (Layout.plain.render p.lon, Layout.plain.render p.lat))

/-- **Words that are alike:** the same, or both a zero. -/
def Alike (a b : String) : Prop := a = b ∨ a ∈ ["0", "-0"] ∧ b ∈ ["0", "-0"]

/-- **Polygons without a ring to send:** there is no polygon, or no ring in the first, or no position in that ring. -/
inductive LacksRing : List (List (Ring Position)) → Prop
  | noPolygon : LacksRing []
  | noRing {polygons : List (List (Ring Position))} : LacksRing ([] :: polygons)
  | noPosition {holes : List (Ring Position)} {polygons : List (List (Ring Position))} :
      LacksRing (([] :: holes) :: polygons)

/-! ## Words -/

@[simp] theorem ringWords_nil : ringWords [] = [] := rfl

@[simp] theorem ringWords_cons (p : Position) (ring : Ring Position) :
    ringWords (p :: ring) = Layout.plain.render p.lat :: Layout.plain.render p.lon :: ringWords ring := rfl

theorem ringWords_append (ring ring' : Ring Position) : ringWords (ring ++ ring') = ringWords ring ++ ringWords ring' :=
  List.flatMap_append

theorem length_ringWords (ring : Ring Position) : (ringWords ring).length = 2 * ring.length := by
  induction ring with
  | nil => rfl
  | cons p ring ih => simp only [ringWords_cons, List.length_cons, ih]; omega

theorem ringWords_ne_nil {ring : Ring Position} (h : ring ≠ []) : ringWords ring ≠ [] := by
  obtain ⟨p, rest, rfl⟩ := List.exists_cons_of_ne_nil h
  exact List.cons_ne_nil _ _

/-- A line of positions is a line of their words. -/
theorem line_map_swap (ring : Ring Position) : line (ring.map swap) = " ".intercalate (ringWords ring) := by
  rw [line]
  induction ring with
  | nil => rfl
  | cons p ring ih =>
    rw [ringWords_cons, List.map_cons, List.map_cons, String.intercalate_cons_cons]
    by_cases hring : ring = []
    · subst hring
      rw [ringWords_nil, List.map_nil, List.map_nil, String.intercalate_singleton, String.intercalate_singleton]
      rfl
    · have hline : (ring.map swap).map (fun p => Layout.plain.render p.lon ++ " " ++ Layout.plain.render p.lat) ≠ [] :=
        mt List.map_eq_nil_iff.mp (mt List.map_eq_nil_iff.mp hring)
      rw [String.intercalate_cons_of_ne_nil hline, ih, String.intercalate_cons_of_ne_nil (ringWords_ne_nil hring)]
      simp only [String.append_assoc]
      rfl

/-- A word has neither a blank nor a quotation mark in it. -/
theorem ne_of_mem_word {ring : Ring Position} {word : String} (h : word ∈ ringWords ring) {c : Char}
    (hc : c ∈ word.toList) : c ≠ ' ' ∧ c ≠ '"' := by
  obtain ⟨p, -, hword⟩ := List.mem_flatMap.mp h
  rcases List.mem_pair.mp hword with rfl | rfl <;>
    · rw [Layout.render, String.toList_ofList] at hc
      exact Decimal.ne_of_mem_plain_chars hc

/-- What stands in a line stands in one of its words, or between two. -/
theorem mem_or_exists_mem_of_mem_intercalate {separator : String} {words : List String} {c : Char}
    (h : c ∈ (separator.intercalate words).toList) : c ∈ separator.toList ∨ ∃ word ∈ words, c ∈ word.toList := by
  induction words with
  | nil =>
    rw [String.intercalate_nil] at h
    cases h
  | cons word words ih =>
    by_cases hwords : words = []
    · rw [hwords, String.intercalate_singleton] at h
      exact .inr ⟨word, List.mem_cons_self, h⟩
    · rw [String.intercalate_cons_of_ne_nil hwords, String.toList_append, String.toList_append] at h
      rcases List.mem_append.mp h with h | h
      · rcases List.mem_append.mp h with h | h
        · exact .inr ⟨word, List.mem_cons_self, h⟩
        · exact .inl h
      · exact (ih h).imp_right fun ⟨other, hmem, hc⟩ => ⟨other, List.mem_cons_of_mem word hmem, hc⟩

/-- There is no quotation mark in a line. -/
theorem ne_quote_of_mem_line {ring : Ring Position} {c : Char} (hc : c ∈ (line (ring.map swap)).toList) : c ≠ '"' := by
  rw [line_map_swap] at hc
  rcases mem_or_exists_mem_of_mem_intercalate hc with hblank | ⟨word, hword, hc⟩
  · rw [List.mem_singleton.mp hblank]
    decide
  · exact (ne_of_mem_word hword hc).2

/-- The words in a line can be told apart. -/
theorem splitOn_line {ring : Ring Position} (h : ring ≠ []) :
    (line (ring.map swap)).toList.splitOn ' ' = (ringWords ring).map String.toList := by
  rw [line_map_swap, String.toList_intercalate]
  refine List.splitOn_intercalate ' ' ?_ (mt List.map_eq_nil_iff.mp (ringWords_ne_nil h))
  intro chars hchars hblank
  obtain ⟨word, hword, rfl⟩ := List.mem_map.mp hchars
  exact (ne_of_mem_word hword hblank).1 rfl

/-- Nothing before the polygon looks like the beginning of one. -/
theorem find?_tails_append (text : List Char) :
    ("[out:json];(node(poly:\"".toList ++ text).tails.find? "poly:\"".toList.isPrefixOf =
      some ("poly:\"".toList ++ text) := rfl

/-- **The words of a query** are those of the ring. -/
theorem words?_ringQuery {ring : Ring Position} (h : ring ≠ []) : words? (ringQuery ring) = some (ringWords ring) := by
  have hparts (a b c : String) : (a ++ b ++ c).toList = a.toList ++ (b.toList ++ c.toList) := by
    rw [String.toList_append, String.toList_append, List.append_assoc]
  have hquery : (ringQuery ring).toList =
      "[out:json];(node(poly:\"".toList ++ ((line (ring.map swap)).toList ++ "\");<;);out count;".toList) :=
    hparts _ _ _
  -- The polygon ends at the first quotation mark behind it, because there is none in the line.
  have hline : ∀ c ∈ (line (ring.map swap)).toList, (c != '"') = true := fun c hc =>
    bne_iff_ne.mpr (ne_quote_of_mem_line hc)
  have hdrop (text : List Char) : ("poly:\"".toList ++ text).drop "poly:\"".toList.length = text := List.drop_left
  have htail : "\");<;);out count;".toList.takeWhile (· != '"') = [] := rfl
  have hword (word : String) : (String.ofList ∘ String.toList) word = word := String.ofList_toList
  rw [words?, hquery, find?_tails_append, Option.map_some, hdrop, List.takeWhile_append_of_pos hline, htail,
    List.append_nil, splitOn_line h, List.map_map, List.map_congr_left fun word _ => hword word, List.map_id']

/-! ## Words and positions -/

theorem getElem?_ringWords (ring : Ring Position) (i : Nat) :
    (ringWords ring)[2 * i]? = ring[i]?.map (fun p => Layout.plain.render p.lat) ∧
      (ringWords ring)[2 * i + 1]? = ring[i]?.map (fun p => Layout.plain.render p.lon) := by
  induction ring generalizing i with
  | nil => exact ⟨rfl, rfl⟩
  | cons p ring ih => cases i with
    | zero => exact ⟨rfl, rfl⟩
    | succ i => exact ih i

/-- Rings with the same words have the same numbers. -/
theorem map_render_of_ringWords_eq {ring ring' : Ring Position} (h : ringWords ring = ringWords ring') :
    (ring.map fun p => (Layout.plain.render p.lon, Layout.plain.render p.lat)) =
      ring'.map fun p => (Layout.plain.render p.lon, Layout.plain.render p.lat) := by
  induction ring generalizing ring' with
  | nil => cases ring' with
    | nil => rfl
    | cons p' ring' => cases h
  | cons p ring ih => cases ring' with
    | nil => cases h
    | cons p' ring' =>
      obtain ⟨hlat, htail⟩ := List.cons.inj h
      obtain ⟨hlon, hrest⟩ := List.cons.inj htail
      rw [List.map_cons, List.map_cons, hlat, hlon, ih hrest]

/-- **Equal doubles are printed alike.** They are the same double, or the two zeros. -/
theorem alike_of_beq {x y : Float} (h : (x == y) = true) : Alike (Layout.plain.render x) (Layout.plain.render y) := by
  obtain ⟨-, -, rfl | ⟨rfl, rfl⟩ | ⟨rfl, rfl⟩⟩ := Float.beq_iff_ne_nan_and_eq.mp h
  · exact .inl rfl
  · exact .inr (by decide +kernel)
  · exact .inr (by decide +kernel)

/-- **A ring that is closed** has words at its end like those at its beginning. -/
theorem alike_of_usableRing {ring : Ring Position} (h : Geometry.UsableRing ring) :
    List.Forall₂ Alike ((ringWords ring).take 2) ((ringWords ring).drop (2 * ring.length - 2)) := by
  obtain ⟨first, hfirst, last, hlast, hlon, hlat⟩ := h.closed
  -- The ring is looked at from both ends, because its first pair of words is the front of one list and its last pair
  -- the end of another.
  obtain ⟨rest, rfl⟩ := List.head?_eq_some_iff.mp hfirst
  obtain ⟨before, hbefore⟩ := List.getLast?_eq_some_iff.mp hlast
  have htake : (ringWords (first :: rest)).take 2 =
      [Layout.plain.render first.lat, Layout.plain.render first.lon] := rfl
  have hdrop : (ringWords (first :: rest)).drop (2 * (first :: rest).length - 2) =
      [Layout.plain.render last.lat, Layout.plain.render last.lon] := by
    have hlength : 2 * (before ++ [last]).length - 2 = (ringWords before).length := by
      rw [length_ringWords, List.length_append, List.length_singleton]
      omega
    rw [hbefore, hlength, ringWords_append, List.drop_left]
    rfl
  rw [htake, hdrop]
  exact .cons (alike_of_beq hlat) (.cons (alike_of_beq hlon) .nil)

/-! ## Geometries with a query -/

/-- There is no query for polygons without a ring, and the geometry is to blame. -/
theorem query_of_lacksRing {g : Geometry Position} (h : LacksRing g.polygons) :
    query g = .error (.badRequest "Geometry should be a polygon type") := by
  rw [query, Geometry.outerRing?]
  generalize g.polygons = polygons at h
  cases h <;> rfl

/-- There is one for all others. -/
theorem query_of_not_lacksRing {g : Geometry Position} (h : ¬ LacksRing g.polygons) :
    ∃ ring, g.outerRing? = some ring ∧ ring ≠ [] ∧ query g = .ok (ringQuery ring) := by
  rw [query, Geometry.outerRing?]
  generalize g.polygons = polygons at h
  match polygons, h with
  | [], h => exact absurd .noPolygon h
  | [] :: _, h => exact absurd .noRing h
  | ([] :: _) :: _, h => exact absurd .noPosition h
  | ((p :: ring) :: _) :: _, _ => exact ⟨p :: ring, rfl, List.cons_ne_nil p ring, rfl⟩

/-- The outer ring of a geometry without defects is usable. -/
theorem usableRing_of_defectOn? {g : Geometry Position} {project : Position → Float × Float}
    (h : g.defectOn? project = none) : ¬ LacksRing g.polygons ∧ ∀ ring, g.outerRing? = some ring →
      Geometry.UsableRing ring := by
  obtain ⟨hne, hpolygons, -⟩ := Geometry.defectOn?_eq_none_iff.mp h
  rw [Geometry.outerRing?]
  generalize g.polygons = polygons at hne hpolygons
  match polygons, hne, hpolygons with
  | [], hne, _ => exact absurd rfl hne
  | [] :: _, _, hpolygons => exact absurd rfl (hpolygons _ List.mem_cons_self).1
  | (ring :: _) :: _, _, hpolygons =>
    have husable : Geometry.UsableRing ring := (hpolygons _ List.mem_cons_self).2 _ List.mem_cons_self
    refine ⟨?_, ?_⟩
    · rintro ⟨⟩
      exact absurd husable.long (by decide)
    · rintro _ ⟨⟩
      exact husable

/-- **The query for a geometry without defects** has the words of its outer ring, which is usable. -/
theorem query_of_defectOn? {g : Geometry Position} {project : Position → Float × Float}
    (h : g.defectOn? project = none) : ∃ ring q, g.outerRing? = some ring ∧ Geometry.UsableRing ring ∧
      query g = .ok q ∧ words? q = some (ringWords ring) := by
  obtain ⟨hring, husable⟩ := usableRing_of_defectOn? h
  obtain ⟨ring, houter, hne, hquery⟩ := query_of_not_lacksRing hring
  exact ⟨ring, ringQuery ring, houter, husable ring houter, hquery, words?_ringQuery hne⟩

end FeatureCount

open FeatureCount Decimal in
/-- **The polygon of a query can be read off it.** A geometry without defects, on whatever map its area is measured, has
a query, and its words are the latitudes and the longitudes of the outer ring of the first polygon, position after
position. The last two words are like the first two. So geometries whose first outer rings differ in what is printed of
them have different queries. For any geometry, there is no query just where there is no ring to send, and then the
request is said to be bad. -/
theorem polygon_is_sent (project : Position → Float × Float) :
    (∀ g : Geometry Position, g.defectOn? project = none → ∃ ring q words,
      g.outerRing? = some ring ∧ query g = .ok q ∧ words? q = some words ∧ words.length = 2 * ring.length ∧
      (∀ (i : Nat) (h : i < ring.length), words[2 * i]? = some (Layout.plain.render ring[i].lat) ∧
        words[2 * i + 1]? = some (Layout.plain.render ring[i].lon)) ∧
      List.Forall₂ Alike (words.take 2) (words.drop (2 * ring.length - 2))) ∧
    (∀ g g' : Geometry Position, g.defectOn? project = none → g'.defectOn? project = none →
      printedRing? g ≠ printedRing? g' → query g ≠ query g') ∧
    ∀ g : Geometry Position, ((∃ e, query g = .error e) ↔ LacksRing g.polygons) ∧
      ∀ e, query g = .error e → ∃ reason, e = .badRequest reason := by
  refine ⟨?_, ?_, ?_⟩
  · intro g hg
    obtain ⟨ring, q, houter, husable, hquery, hwords⟩ := query_of_defectOn? hg
    refine ⟨ring, q, ringWords ring, houter, hquery, hwords, length_ringWords ring, ?_, alike_of_usableRing husable⟩
    intro i hi
    have hentries := getElem?_ringWords ring i
    rw [List.getElem?_eq_getElem hi] at hentries
    exact hentries
  · intro g g' hg hg' hdifferent hsame
    obtain ⟨ring, q, houter, -, hquery, hwords⟩ := query_of_defectOn? hg
    obtain ⟨ring', q', houter', -, hquery', hwords'⟩ := query_of_defectOn? hg'
    rw [hquery, hquery', Except.ok.injEq] at hsame
    rw [hsame, hwords', Option.some.injEq] at hwords
    rw [printedRing?, printedRing?, houter, houter'] at hdifferent
    exact hdifferent (congrArg some (map_render_of_ringWords_eq hwords.symm))
  · intro g
    by_cases hring : LacksRing g.polygons
    · rw [query_of_lacksRing hring]
      refine ⟨iff_of_true ⟨_, rfl⟩ hring, ?_⟩
      rintro e ⟨⟩
      exact ⟨_, rfl⟩
    · obtain ⟨ring, -, -, hquery⟩ := query_of_not_lacksRing hring
      rw [hquery]
      refine ⟨iff_of_false ?_ hring, ?_⟩
      · rintro ⟨e, he⟩
        cases he
      · intro e he
        cases he

/-- What the web map makes of the positions in the trials, at latitudes of zero and of forty-five degrees. -/
def FeatureCount.trialProjection (p : Position) : Float × Float :=
  (WebMap.radius * WebMap.radians p.lon, if p.lat == 0.0 then -7.081154551613622e-10 else 5621521.486192066)

open FeatureCount in
/-- A ring that begins at one zero and ends at the other is taken for closed, but its last pair of words is not its
first. -/
theorem trial_zeros_are_told_apart :
    let g : Geometry Position := .polygon [[⟨0.0, 0.0⟩, ⟨45.0, 0.0⟩, ⟨45.0, 45.0⟩, ⟨-0.0, 0.0⟩]]
    g.defectOn? trialProjection = none ∧ ∃ q words, query g = .ok q ∧ words? q = some words ∧ words.length = 8 ∧
      words.take 2 = ["0", "0"] ∧ words.drop 6 = ["0", "-0"] ∧ words.take 2 ≠ words.drop 6 := by
  intro g
  have hwords : words? (ringQuery [⟨0.0, 0.0⟩, ⟨45.0, 0.0⟩, ⟨45.0, 45.0⟩, ⟨-0.0, 0.0⟩]) =
      some ["0", "0", "0", "45", "45", "45", "0", "-0"] := by decide +kernel
  exact ⟨by decide +kernel, _, _, rfl, hwords, rfl, rfl, rfl, by decide⟩

open FeatureCount in
/-- The query for a triangle has eight words, the same triangle begun at another corner has another query, and without a
polygon there is no query. -/
theorem trial_polygon_is_sent :
    let g : Geometry Position := .polygon [[⟨0.0, 0.0⟩, ⟨45.0, 0.0⟩, ⟨45.0, 45.0⟩, ⟨0.0, 0.0⟩]]
    let g' : Geometry Position := .polygon [[⟨45.0, 0.0⟩, ⟨45.0, 45.0⟩, ⟨0.0, 0.0⟩, ⟨45.0, 0.0⟩]]
    (∃ q words, query g = .ok q ∧ words? q = some words ∧ words.length = 8) ∧ query g ≠ query g' ∧
      ∃ reason, query (.multiPolygon []) = .error (.badRequest reason) := by
  intro g g'
  obtain ⟨hsent, hdifferent, hnone⟩ := polygon_is_sent trialProjection
  have hg : g.defectOn? trialProjection = none := by decide +kernel
  have hg' : g'.defectOn? trialProjection = none := by decide +kernel
  refine ⟨?_, hdifferent g g' hg hg' (by decide +kernel), ?_⟩
  · obtain ⟨ring, q, words, houter, hquery, hwords, hlength, -, -⟩ := hsent g hg
    obtain rfl := Option.some.inj houter
    exact ⟨q, words, hquery, hwords, hlength⟩
  · obtain ⟨e, he⟩ := (hnone (.multiPolygon [])).1.mpr .noPolygon
    obtain ⟨reason, rfl⟩ := (hnone (.multiPolygon [])).2 e he
    exact ⟨reason, he⟩

end MapExport
