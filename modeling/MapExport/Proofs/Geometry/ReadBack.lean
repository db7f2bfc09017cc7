import MapExport.Database.Transaction
import MapExport.Proofs.Geometry.Usable
import MapExport.Proofs.Json.Documents
import MapExport.Proofs.Json.Numeral

/-!
# Geometries that are read back

Reading a geometry from its text comes to reading each of its coordinates alone (`Geometry.ofText_geoText`): the type
tells how deep the lists are, and the lists keep the coordinates apart. So a geometry is read back if its coordinates
are, and with a coordinate that is no number it is not, because such a one is written as a null.
-/

set_option autoImplicit false

namespace MapExport

open Json

/-! ## Positions -/

/-- **What is read of a position,** each of its coordinates alone. -/
def Position.alone (p : Position) : Except Fault Position := do
  let lon ← Codec.realAlone p.lon
  let lat ← Codec.realAlone p.lat
  .ok ⟨lon, lat⟩

theorem Position.gives (p : Position) : Position.codec.Gives 1 (Position.codec.print p) p.alone := by
  intro levels rest hdepth
  obtain ⟨levels, rfl⟩ := Nat.exists_eq_add_one_of_ne_zero (Nat.ne_zero_of_lt hdepth)
  have hprint : Position.codec.print p = .list [.real p.lon, .real p.lat] := rfl
  have hsymbols : (Json.list [.real p.lon, .real p.lat]).symbols ++ rest =
      some '[' :: ((Json.real p.lon).symbols ++ some ',' :: ((Json.real p.lat).symbols ++ some ']' :: rest)) := by
    rw [Codec.symbols_list_cons, Codec.symbols_moreItems_cons]
    rfl
  have hlon : Codec.readPairItem Codec.real levels 0
      ((Json.real p.lon).symbols ++ some ',' :: ((Json.real p.lat).symbols ++ some ']' :: rest)) =
        (Codec.realAlone p.lon).map fun x => (x, some ',' :: ((Json.real p.lat).symbols ++ some ']' :: rest)) := by
    rw [Codec.readPairItem]
    change (nextItem true _ >>= _) = _
    rw [Codec.nextItem_first (begins_real p.lon)]
    exact Codec.read_real p.lon levels (.cons (by decide) _)
  have hlat : Codec.readPairItem Codec.real levels 1
      (some ',' :: ((Json.real p.lat).symbols ++ some ']' :: rest)) =
        (Codec.realAlone p.lat).map fun x => (x, some ']' :: rest) := by
    rw [Codec.readPairItem]
    change (nextItem false _ >>= _) = _
    rw [Codec.nextItem_comma (begins_real p.lat)]
    exact Codec.read_real p.lat levels (.cons (by decide) rest)
  have hend : endList (some ']' :: rest) = .ok rest := by
    rw [endList, skipSpaces_cons (by decide)]
    rfl
  rw [hprint, hsymbols, Position.codec, Position.alone]
  unfold Codec.via Codec.pair
  dsimp only
  rw [atValue_cons (by decide)]
  simp only [bind, Except.bind]
  rw [hlon]
  cases Codec.realAlone p.lon with
  | error e => rfl
  | ok lon =>
    simp only [Except.map, hlat]
    cases Codec.realAlone p.lat with
    | error e => rfl
    | ok lat =>
      simp only [hend]

/-! ## Rings, polygons and geometries -/

theorem Json.Codec.Gives.via {α β : Type} {c : Codec α} {depth : Nat} {j : Json} {result : Except Fault α}
    (h : c.Gives depth j result) (forth : α → β) (back : β → α) :
    (c.via forth back).Gives depth j (result.map forth) := by
  intro levels rest hdepth
  change (c.read levels (j.symbols ++ rest)).map _ = _
  rw [h levels rest hdepth]
  cases result <;> rfl

namespace Geometry

/-- What is read of the rings of a polygon, each coordinate alone. -/
def polygonAlone (rings : List (Ring Position)) : Except Fault (List (Ring Position)) :=
  rings.mapM fun ring : List Position => ring.mapM Position.alone

/-- **What is read of a geometry,** each of its coordinates alone. -/
def alone : Geometry Position → Except Fault (Geometry Position)
  | polygon rings => (polygonAlone rings).map polygon
  | multiPolygon polygons => (polygons.mapM polygonAlone).map multiPolygon

/-- The type of a geometry. -/
def variety : Geometry Position → Variety
  | polygon _ => .polygon
  | multiPolygon _ => .multiPolygon

/-- The coordinates of a geometry, as they are printed. -/
def printContent : Geometry Position → Json
  | polygon rings => polygonCodec.print rings
  | multiPolygon polygons => polygonCodec.list.print polygons

theorem print_eq (g : Geometry Position) :
    g.print = .record [("type", .text g.variety.name), ("coordinates", g.printContent)] := by
  cases g <;> rfl

theorem gives_polygon (rings : List (Ring Position)) :
    polygonCodec.Gives 3 (polygonCodec.print rings) (polygonAlone rings) := by
  refine Codec.gives_list fun ring _ => ⟨?_, begins_list _⟩
  exact Codec.gives_list fun p _ => ⟨p.gives, begins_list _⟩

theorem gives_content (g : Geometry Position) : (contentCodec g.variety).Gives 4 g.printContent g.alone := by
  cases g with
  | polygon rings =>
    have hrings := (gives_polygon rings).via polygon fun g => g.polygons.head?.getD []
    intro levels rest hdepth
    exact hrings levels rest (Nat.le_of_succ_le hdepth)
  | multiPolygon polygons =>
    have hpolygons : polygonCodec.list.Gives 4 (polygonCodec.list.print polygons) (polygons.mapM polygonAlone) :=
      Codec.gives_list fun rings _ => ⟨gives_polygon rings, begins_list _⟩
    exact hpolygons.via multiPolygon Geometry.polygons

theorem names_varieties : Keyed.Names Variety.name varieties where
  distinct := by decide
  own v := by cases v <;> decide
  only := by decide

theorem readMember_type (v : Variety) (levels : Nat) (rest : Symbols) :
    readMember levels .nothing "type" (some ':' :: ((Json.text v.name).symbols ++ rest)) = .ok (.typed v, rest) := by
  have hread : varietyCodec.read levels ((Json.text v.name).symbols ++ rest) = .ok (v, rest) :=
    Codec.readsBack_choice names_varieties v levels rest (Nat.zero_le levels)
  rw [readMember, if_pos (.inl rfl)]
  simp only [Progress.refuse?, readColon_cons, bind, Except.bind, if_true, hread, Progress.withType]

theorem readMember_coordinates (g : Geometry Position) {levels : Nat} (hlevels : 4 ≤ levels) (rest : Symbols) :
    readMember levels (.typed g.variety) "coordinates" (some ':' :: (g.printContent.symbols ++ rest)) =
      g.alone.map fun g => (.whole g, rest) := by
  have hread := gives_content g levels rest hlevels
  have hname : ("coordinates" : String) ≠ "type" := by decide
  rw [readMember, if_pos (.inr rfl)]
  simp only [Progress.refuse?, readColon_cons, bind, Except.bind, if_neg hname, hread]
  cases g.alone <;> rfl

/-- The two members are read one after the other, and there is no third. -/
theorem readMembers_print (g : Geometry Position) {levels : Nat} (hlevels : 4 ≤ levels) (fuel : Nat)
    (rest : Symbols) :
    readMembers (readMember levels) (fuel + 3) true .nothing ((Json.text "type").symbols ++
      some ':' :: ((Json.text g.variety.name).symbols ++ some ',' :: ((Json.text "coordinates").symbols ++
        some ':' :: (g.printContent.symbols ++ some '\x7d' :: rest)))) =
      g.alone.map fun g => (.whole g, rest) := by
  have hnone : nextName false (some '\x7d' :: rest) = .ok (none, some '\x7d' :: rest) := by
    rw [nextName, skipSpaces_cons (by decide)]
    rfl
  rw [readMembers, nextName_first]
  simp only [bind, Except.bind, readMember_type]
  rw [readMembers, nextName_comma]
  simp only [bind, Except.bind, readMember_coordinates g hlevels]
  cases g.alone with
  | error e => rfl
  | ok g =>
    simp only [Except.map]
    rw [readMembers, hnone]
    rfl

/-- **What the codec gives for a geometry** is what is read of it alone. -/
theorem gives_alone (g : Geometry Position) : codec.Gives 5 g.print g.alone := by
  intro levels rest hdepth
  obtain ⟨levels, rfl⟩ := Nat.exists_eq_add_one_of_ne_zero (Nat.ne_zero_of_lt hdepth)
  have hlevels : 4 ≤ levels := Nat.le_of_succ_le_succ hdepth
  have hsymbols : g.print.symbols ++ rest = some '\x7b' :: ((Json.text "type").symbols ++
      some ':' :: ((Json.text g.variety.name).symbols ++ some ',' :: ((Json.text "coordinates").symbols ++
        some ':' :: (g.printContent.symbols ++ some '\x7d' :: rest)))) := by
    rw [print_eq, symbols_record_cons, symbols_moreMembers_cons]
    rfl
  have hread := readMembers_print g hlevels
  -- There are enough symbols for the walk, whatever the coordinates are.
  have hfuel (cs : Symbols) : ((Json.text "type").symbols ++ some ':' :: cs).length + 1 =
      ((Json.text "type").symbols ++ cs).length - 1 + 3 := by
    have htype : (Json.text "type").symbols.length = 6 := by decide
    rw [List.length_append, List.length_append, List.length_cons, htype]
    omega
  rw [hsymbols]
  unfold codec
  dsimp only
  rw [atValue_cons (by decide)]
  simp only [bind, Except.bind]
  rw [hfuel, hread]
  cases g.alone <;> rfl

/-- **A geometry is read from its text** as its coordinates are read alone. -/
theorem ofText_geoText (g : Geometry Position) : codec.ofText g.geoText = g.alone := by
  have hread := gives_alone g maxLevels [] (by decide)
  rw [List.append_nil] at hread
  rw [geoText, Codec.ofText_render, readWhole, hread]
  cases g.alone <;> rfl

/-! ## Which geometries are read back -/

/-- **A geometry is read back** if its coordinates are. -/
theorem alone_eq_self {g : Geometry Position} (h : ∀ x ∈ g.coordinates, Codec.realAlone x = .ok x) :
    g.alone = .ok g := by
  have hrings : ∀ rings ∈ g.polygons, polygonAlone rings = .ok rings := by
    intro rings hrings
    refine mapM_eq_ok_self fun ring hring => mapM_eq_ok_self fun p hp => ?_
    have hlon := h p.lon (mem_coordinates_iff.mpr ⟨rings, hrings, ring, hring, p, hp, .inl rfl⟩)
    have hlat := h p.lat (mem_coordinates_iff.mpr ⟨rings, hrings, ring, hring, p, hp, .inr rfl⟩)
    simp only [Position.alone, hlon, hlat, bind, Except.bind]
  cases g with
  | polygon rings =>
    rw [alone, hrings rings List.mem_cons_self]
    rfl
  | multiPolygon polygons =>
    have hall : polygons.mapM polygonAlone = .ok polygons := mapM_eq_ok_self hrings
    rw [alone, hall]
    rfl

/-- What is read of a geometry is read of each of its polygons. -/
theorem exists_polygonAlone {g read : Geometry Position} (h : g.alone = .ok read) :
    ∀ rings ∈ g.polygons, ∃ rings', polygonAlone rings = .ok rings' := by
  intro rings hrings
  cases g with
  | polygon rings' =>
    obtain rfl := List.mem_singleton.mp hrings
    cases hread : polygonAlone rings with
    | error e =>
      rw [alone, hread] at h
      cases h
    | ok rings' => exact ⟨rings', rfl⟩
  | multiPolygon polygons =>
    cases hread : polygons.mapM polygonAlone with
    | error e =>
      rw [alone, hread] at h
      cases h
    | ok polygons' => exact exists_ok_of_mapM hread hrings

/-- **What is read at all** has numbers for coordinates. -/
theorem isFinite_of_alone {g read : Geometry Position} (h : g.alone = .ok read) {x : Float} (hx : x ∈ g.coordinates) :
    x.isFinite = true := by
  have hfinite {y z : Float} (h : Codec.realAlone y = .ok z) : y.isFinite = true := by
    by_contra hnot
    rw [Codec.realAlone_of_not_finite (Bool.eq_false_iff.mpr hnot)] at h
    cases h
  obtain ⟨rings, hrings, ring, hring, p, hp, hx⟩ := mem_coordinates_iff.mp hx
  obtain ⟨rings', hreadRings⟩ := exists_polygonAlone h rings hrings
  obtain ⟨ring', hreadRing⟩ := exists_ok_of_mapM hreadRings hring
  obtain ⟨q, hq⟩ := exists_ok_of_mapM hreadRing hp
  obtain ⟨lon, hlon, hq⟩ := bind_eq_ok_iff.mp hq
  obtain ⟨lat, hlat, -⟩ := bind_eq_ok_iff.mp hq
  rcases hx with rfl | rfl
  · exact hfinite hlon
  · exact hfinite hlat

end Geometry

/-! ## In the database -/

namespace Database

/-- What is written is one command, whatever is answered to it. -/
theorem trace_write {statement : Statement} {params : List Value} {log : List (Workflow.Event Command Reply)}
    {result : Except Failure Unit} (h : Workflow.Trace (write statement params) log result) :
    log.map (·.call) = [⟨statement, params⟩] := by
  have hexecute {log : List (Workflow.Event Command Reply)} {r : Except Failure Answer}
      (h : Workflow.Trace (execute statement params) log r) : log.map (·.call) = [⟨statement, params⟩] := by
    obtain ⟨reply, rest, rfl, hrest⟩ := Workflow.course_call_iff.mp h
    obtain ⟨rfl, -⟩ := Workflow.course_done_iff.mp hrest
    rfl
  rcases Workflow.trace_bind_iff.mp h with ⟨e, -, hfirst⟩ | ⟨first, second, answer, rfl, hfirst, hsecond⟩
  · exact hexecute hfirst
  · obtain ⟨rfl, -⟩ := Workflow.trace_pure_iff.mp hsecond
    rw [List.append_nil]
    exact hexecute hfirst

/-- **Writing a job** gives one command, with the geometry as a document among its parameters. -/
theorem trace_insertJob {job : Job} {log : List (Workflow.Event Command Reply)} {result : Except Failure Unit}
    (h : Workflow.Trace (insertJob job) log result) : ∃ params, log.map (·.call) = [⟨.insertJob, params⟩] ∧
      params[3]? = some (.document job.geometry.print) :=
  ⟨_, trace_write h, rfl⟩

/-- **A footprint** is read from the document of a geometry that is read back. -/
theorem footprintOfRow_document {g : Geometry Position} (h : Geometry.codec.ofText g.geoText = .ok g) (run : Uid) :
    footprintOfRow [.uid run, .document g.print] = .ok ⟨run, g⟩ := by
  have hgeometry : Row.geometry [.uid run, .document g.print] 1 = .ok g := by
    change (Geometry.codec.ofText g.geoText).mapError _ = _
    rw [h]
    rfl
  rw [footprintOfRow, hgeometry]
  rfl

end Database

/-- **Geometries are read back.** A geometry with a coordinate that is no number cannot be read from its text, whatever
the other coordinates are. Where reading a finite double from its text gives the double, for each of the coordinates, a
geometry of finite coordinates is read from its text as it is; and a geometry without a defect is read from what is
written of a job with this geometry, when the database gives it back. -/
theorem geometries_read_back (g : Geometry Position) :
    ((∃ x ∈ g.coordinates, x.isFinite = false) → ∃ e, Geometry.codec.ofText g.geoText = .error e) ∧
    ((∀ x ∈ g.coordinates, x.isFinite = true → Codec.real.ofText (Json.real x).render = .ok x) →
      ((∀ x ∈ g.coordinates, x.isFinite = true) → Geometry.codec.ofText g.geoText = .ok g) ∧
      (g.defect? = none → ∀ (job : Job) log result, job.geometry = g →
        Workflow.Trace (Database.insertJob job) log result → ∃ params bound,
          log.map (·.call) = [⟨.insertJob, params⟩] ∧ params[3]? = some bound ∧
          ∀ run, Database.footprintOfRow [.uid run, bound] = .ok ⟨run, g⟩)) := by
  constructor
  · rintro ⟨x, hx, hinfinite⟩
    cases hread : Geometry.codec.ofText g.geoText with
    | error e => exact ⟨e, rfl⟩
    | ok read =>
      rw [Geometry.ofText_geoText] at hread
      rw [Geometry.isFinite_of_alone hread hx] at hinfinite
      cases hinfinite
  · intro hinverse
    have hback : (∀ x ∈ g.coordinates, x.isFinite = true) → Geometry.codec.ofText g.geoText = .ok g := by
      intro hfinite
      rw [Geometry.ofText_geoText]
      exact Geometry.alone_eq_self fun x hx => hinverse x hx (hfinite x hx)
    refine ⟨hback, ?_⟩
    rintro hsound job log result rfl htrace
    obtain ⟨params, hlog, hbound⟩ := Database.trace_insertJob htrace
    have husable := Geometry.usable_iff.mpr hsound
    exact ⟨params, _, hlog, hbound, Database.footprintOfRow_document (hback fun x hx => husable.isFinite hx)⟩

/-- An empty polygon and one with a short ring are read back together; with a longitude that is no number they are
not. -/
theorem trial_geometries_read_back :
    let g (lon : Float) : Geometry Position := .multiPolygon [[], [[⟨8.25, 53.5⟩, ⟨lon, 44.75⟩]]]
    Geometry.codec.ofText (g (-0.5)).geoText = .ok (g (-0.5)) ∧
      ∃ e, Geometry.codec.ofText (g (0.0 / 0.0)).geoText = .error e := by
  intro g
  have hcoordinates : (g (-0.5)).coordinates = [8.25, 53.5, -0.5, 44.75] := rfl
  have hinverse : ∀ x ∈ (g (-0.5)).coordinates, x.isFinite = true →
      Codec.real.ofText (Json.real x).render = .ok x := by
    rw [hcoordinates]
    simp only [List.forall_mem_cons, Codec.ofText_render, List.not_mem_nil, false_implies, implies_true, and_true]
    exact ⟨fun _ => rfl, fun _ => rfl, fun _ => rfl, fun _ => rfl⟩
  have hfinite : ∀ x ∈ (g (-0.5)).coordinates, x.isFinite = true := by
    rw [hcoordinates]
    decide
  exact ⟨((geometries_read_back (g (-0.5))).2 hinverse).1 hfinite,
    (geometries_read_back (g (0.0 / 0.0))).1 ⟨0.0 / 0.0, .tail _ (.tail _ List.mem_cons_self), by decide⟩⟩

end MapExport
