import Mathlib.Data.List.Basic
import MapExport.Database.Answers
import MapExport.Proofs.Slug
import MapExport.Proofs.Store.Keys
import MapExport.Proofs.Workflow.Course
import MapExport.Store.Answers

/-!
# Rows that are asked for by slug

Both stores are asked for formats and providers by their slugs. The store in memory walks along the slugs and looks
each of them up. The database gives the rows that it has for them in any order it likes, and they are sorted by the
places of their slugs afterwards. Where a table has no slug twice, both come to the same rows in the same order
(`stores_resolve_alike`), because there is only one order in which the places ascend.
-/

set_option autoImplicit false

namespace MapExport

variable {α : Type} {slug : α → String} {slugs : List String} {table rows : List α}

/-! ## The two ways to the rows -/

/-- **The rows of a table that are asked for:** all whose slug is among the given ones, in whatever order. -/
def Selected (slugs : List String) (slug : α → String) (table rows : List α) : Prop :=
  rows.Perm (table.filter fun a => slugs.contains (slug a))

/-- The rows that are found by walking along the slugs. -/
def foundBySlug (slug : α → String) (table : List α) (slugs : List String) : List α :=
  slugs.filterMap fun s => table.find? (slug · == s)

theorem mem_foundBySlug_iff (distinct : (table.map slug).Nodup) {a : α} :
    a ∈ foundBySlug slug table slugs ↔ a ∈ table ∧ slug a ∈ slugs := by
  rw [foundBySlug, List.mem_filterMap]
  constructor
  · rintro ⟨s, hs, hfind⟩
    have hslug : slug a = s := by simpa using List.find?_some hfind
    rw [hslug]
    exact ⟨List.mem_of_find?_eq_some hfind, hs⟩
  · rintro ⟨ha, hs⟩
    exact ⟨slug a, hs, Keyed.find?_own distinct ha⟩

/-- No row is found twice. -/
theorem nodup_foundBySlug (hslugs : slugs.Nodup) : (foundBySlug slug table slugs).Nodup := by
  apply List.Nodup.of_map slug
  exact Keyed.nodup_map_key_found slug table hslugs

/-- **Walking along the slugs finds what is asked for.** -/
theorem Selected.perm_found (h : Selected slugs slug table rows) (distinct : (table.map slug).Nodup)
    (hslugs : slugs.Nodup) : rows.Perm (foundBySlug slug table slugs) := by
  apply h.trans
  have hfilter : (table.filter fun a => slugs.contains (slug a)).Nodup := (List.Nodup.of_map slug distinct).filter _
  rw [List.perm_ext_iff_of_nodup hfilter (nodup_foundBySlug hslugs)]
  intro a
  rw [List.mem_filter, List.contains_iff_mem, mem_foundBySlug_iff distinct]

/-! ## The order of the slugs -/

/-- The places of slugs ascend along them. -/
theorem pairwise_idxOf (hslugs : slugs.Nodup) : slugs.Pairwise fun s t => slugs.idxOf s ≤ slugs.idxOf t := by
  -- The slug at a place is not found before it, because no slug comes twice.
  rw [List.pairwise_iff_getElem]
  intro i j hi hj hij
  rw [hslugs.idxOf_getElem i hi, hslugs.idxOf_getElem j hj]
  exact Nat.le_of_lt hij

/-- What is found along the slugs comes in their order. -/
theorem pairwise_foundBySlug (hslugs : slugs.Nodup) :
    (foundBySlug slug table slugs).Pairwise fun a b => slugs.idxOf (slug a) ≤ slugs.idxOf (slug b) := by
  apply List.Pairwise.filterMap _ _ (pairwise_idxOf hslugs)
  intro s t hle a ha b hb
  have hs : slug a = s := by simpa using List.find?_some ha
  have ht : slug b = t := by simpa using List.find?_some hb
  rw [hs, ht]
  exact hle

/-- Sorted rows come in the order of the slugs. -/
theorem Database.pairwise_inRequestOrder (slugs : List String) (slug : α → String) (rows : List α) :
    (Database.inRequestOrder slugs slug rows).Pairwise fun a b => slugs.idxOf (slug a) ≤ slugs.idxOf (slug b) := by
  have htrans (a b c : α) (hab : decide (slugs.idxOf (slug a) ≤ slugs.idxOf (slug b)) = true)
      (hbc : decide (slugs.idxOf (slug b) ≤ slugs.idxOf (slug c)) = true) :
      decide (slugs.idxOf (slug a) ≤ slugs.idxOf (slug c)) = true := by
    rw [decide_eq_true_eq] at hab hbc ⊢
    exact Nat.le_trans hab hbc
  have htotal (a b : α) : (decide (slugs.idxOf (slug a) ≤ slugs.idxOf (slug b)) ||
      decide (slugs.idxOf (slug b) ≤ slugs.idxOf (slug a))) = true := by
    rw [Bool.or_eq_true, decide_eq_true_eq, decide_eq_true_eq]
    exact Nat.le_total _ _
  apply (List.pairwise_mergeSort htrans htotal rows).imp
  intro a b hle
  exact of_decide_eq_true hle

/-- **Sorting the rows by the places of their slugs** comes to the rows that are found along the slugs. -/
theorem Database.inRequestOrder_eq_found (distinct : (table.map slug).Nodup) (hslugs : slugs.Nodup)
    (h : Selected slugs slug table rows) :
    Database.inRequestOrder slugs slug rows = foundBySlug slug table slugs := by
  have hperm : (Database.inRequestOrder slugs slug rows).Perm (foundBySlug slug table slugs) :=
    (List.mergeSort_perm rows _).trans (h.perm_found distinct hslugs)
  -- Of two rows at the same place the slugs are the same, and so are the rows.
  refine List.Perm.eq_of_pairwise ?_ (Database.pairwise_inRequestOrder slugs slug rows)
    (pairwise_foundBySlug hslugs) hperm
  intro a b ha hb hab hba
  obtain ⟨hatable, haslug⟩ := (mem_foundBySlug_iff distinct).mp (hperm.mem_iff.mp ha)
  obtain ⟨hbtable, -⟩ := (mem_foundBySlug_iff distinct).mp hb
  have hsame : slug a = slug b := (List.idxOf_inj haslug).mp (Nat.le_antisymm hab hba)
  exact List.inj_on_of_nodup_map distinct hatable hbtable hsame

/-! ## Rows of the database -/

/-- The row of a format. -/
def Format.row (f : Format) : Database.Row := [.text f.slug, .text f.name, .text f.description]

/-- The row of a provider. -/
def Provider.row (p : Provider) : Database.Row :=
  [.uid p.uid, .text p.name, .text p.slug, p.sizeEstimate.elim .null .real]

namespace Database

theorem formatOfRow_row (f : Format) : formatOfRow f.row = .ok f := rfl

theorem providerOfRow_row (p : Provider) : providerOfRow p.row = .ok p := by
  obtain ⟨uid, name, slug, size⟩ := p
  cases size <;> rfl

/-- Rows of values are read as these values. -/
theorem mapM_read_rows {read : Row → Except Failure α} {row : α → Row} (h : ∀ a, read (row a) = .ok a)
    (as : List α) : (as.map row).mapM read = .ok as := by
  have hread : read ∘ row = fun a => pure a := funext h
  rw [List.mapM_map, hread, List.mapM_pure, List.map_id']
  rfl

/-- A query whose rows can be read gives what they say. -/
theorem run_query {send : (c : Command) → Reply c} {statement : Statement} {params : List Value}
    {read : Row → Except Failure α} {answer : Answer} {as : List α} (hanswer : send ⟨statement, params⟩ = .ok answer)
    (hread : answer.rows.mapM read = .ok as) : (query statement params read).run.run (m := Id) send = .ok as := by
  have hexecute : (execute statement params).run.run (m := Id) send = .ok answer := by
    change (send ⟨statement, params⟩ : Except String Answer).mapError refusal = _
    rw [hanswer]
    rfl
  change Workflow.run (m := Id) send ((execute statement params).run >>= _) = _
  rw [Workflow.run_bind, hexecute]
  exact hread

/-- What is done with the result of a query is done with what it gives. -/
theorem run_arranged {send : (c : Command) → Reply c} {rows : FlowM (List α)} {as : List α}
    (h : rows.run.run (m := Id) send = .ok as) (arrange : List α → List α) :
    (do return arrange (← rows) : FlowM (List α)).run.run (m := Id) send = .ok (arrange as) := by
  change Workflow.run (m := Id) send (rows.run >>= _) = _
  rw [Workflow.run_bind, h]
  rfl

/-- **A database that holds the formats and providers of a store.** Asked for slugs, it gives the rows that it has for
them, in an order of its own. -/
structure Holds (send : (c : Command) → Reply c) (s : Store) : Prop where
  formats : ∀ slugs, ∃ rows n, Selected slugs Format.slug s.formats rows ∧
    send ⟨.formatsBySlugs, [.texts slugs]⟩ = .ok ⟨rows.map Format.row, n⟩
  providers : ∀ slugs, ∃ rows n, Selected slugs Provider.slug s.providers rows ∧
    send ⟨.providersBySlugs, [.texts slugs]⟩ = .ok ⟨rows.map Provider.row, n⟩

variable {send : (c : Command) → Reply c} {s : Store}

/-- The formats of slugs, as they are looked up in such a database. -/
theorem Holds.run_formatsBySlugs (h : Holds send s) (distinct : (s.formats.map Format.slug).Nodup)
    (hslugs : slugs.Nodup) :
    (formatsBySlugs slugs).run.run (m := Id) send = .ok (s.formatsBySlugs slugs) := by
  obtain ⟨rows, n, hselected, hanswer⟩ := h.formats slugs
  have hread : (rows.map Format.row).mapM formatOfRow = .ok rows := mapM_read_rows formatOfRow_row rows
  have hfound : inRequestOrder slugs Format.slug rows = s.formatsBySlugs slugs :=
    inRequestOrder_eq_found distinct hslugs hselected
  rw [← hfound]
  exact run_arranged (run_query hanswer hread) _

/-- The providers of slugs, as they are looked up in such a database. -/
theorem Holds.run_providersBySlugs (h : Holds send s) (distinct : (s.providers.map Provider.slug).Nodup)
    (hslugs : slugs.Nodup) :
    (providersBySlugs slugs).run.run (m := Id) send = .ok (s.providersBySlugs slugs) := by
  obtain ⟨rows, n, hselected, hanswer⟩ := h.providers slugs
  have hread : (rows.map Provider.row).mapM providerOfRow = .ok rows := mapM_read_rows providerOfRow_row rows
  have hfound : inRequestOrder slugs Provider.slug rows = s.providersBySlugs slugs :=
    inRequestOrder_eq_found distinct hslugs hselected
  rw [← hfound]
  exact run_arranged (run_query hanswer hread) _

end Database

/-! ## Both stores -/

open Database (Holds inRequestOrder)

/-- **Both stores resolve slugs alike.** Where no slug stands twice in a table, the rows that are asked for by slugs in
normal form are brought into the order in which the store in memory finds them, in whatever order they come. So the
creation of a job gets the same answer to both look-ups from either store. -/
theorem stores_resolve_alike (s : Store) (asked : List String) (hformats : (s.formats.map Format.slug).Nodup)
    (hproviders : (s.providers.map Provider.slug).Nodup) :
    let slugs := Slug.normalize asked
    (∀ rows, Selected slugs Format.slug s.formats rows →
      inRequestOrder slugs Format.slug rows = s.formatsBySlugs slugs ∧
        ∀ rows', rows'.Perm rows → inRequestOrder slugs Format.slug rows' = inRequestOrder slugs Format.slug rows) ∧
    (∀ rows, Selected slugs Provider.slug s.providers rows →
      inRequestOrder slugs Provider.slug rows = s.providersBySlugs slugs ∧
        ∀ rows', rows'.Perm rows →
          inRequestOrder slugs Provider.slug rows' = inRequestOrder slugs Provider.slug rows) ∧
    ∀ (send : (c : Database.Command) → Database.Reply c) (preset : String → Except Failure TagTable)
      (dispatch : Uid → Except Failure Unit), Holds send s →
      Database.answerJob (m := Id) send preset dispatch (.formatsBySlugs slugs) =
          ((Session.start s).answer (m := Id) preset dispatch (.formatsBySlugs slugs)).1 ∧
        Database.answerJob (m := Id) send preset dispatch (.providersBySlugs slugs) =
          ((Session.start s).answer (m := Id) preset dispatch (.providersBySlugs slugs)).1 := by
  intro slugs
  have hslugs : slugs.Nodup := Slug.nodup_normalize asked
  have hordered {α : Type} {slug : α → String} {table rows : List α} (distinct : (table.map slug).Nodup)
      (h : Selected slugs slug table rows) : inRequestOrder slugs slug rows = foundBySlug slug table slugs ∧
        ∀ rows', rows'.Perm rows → inRequestOrder slugs slug rows' = inRequestOrder slugs slug rows := by
    have hfound := Database.inRequestOrder_eq_found distinct hslugs h
    refine ⟨hfound, ?_⟩
    intro rows' hperm
    rw [hfound]
    exact Database.inRequestOrder_eq_found distinct hslugs (hperm.trans h)
  refine ⟨fun rows h => hordered hformats h, fun rows h => hordered hproviders h, ?_⟩
  intro send preset dispatch h
  exact ⟨h.run_formatsBySlugs hformats hslugs, h.run_providersBySlugs hproviders hslugs⟩

/-- A database for trials: it gives its rows from the last one to the first. -/
def Database.backwards (s : Store) (c : Database.Command) : Database.Reply c :=
  match c.statement, c.params with
  | .formatsBySlugs, [.texts slugs] =>
    .ok ⟨((s.formats.filter fun f => slugs.contains f.slug).reverse).map Format.row, 0⟩
  | .providersBySlugs, [.texts slugs] =>
    .ok ⟨((s.providers.filter fun p => slugs.contains p.slug).reverse).map Provider.row, 0⟩
  | _, _ => .error "out of use"

theorem trial_stores_resolve_alike :
    let s := Store.reference ⟨9⟩
    let slugs := Slug.normalize [" KML", "osm", "shp", "kml"]
    let format (slug name : String) : Format := ⟨slug, name, name⟩
    let rows := [format "shp" "ESRI Shapefile Format", format "kml" "KML Format"]
    (s.formats.map Format.slug).Nodup ∧ (s.providers.map Provider.slug).Nodup ∧
      Selected slugs Format.slug s.formats rows ∧ Holds (Database.backwards s) s ∧
      inRequestOrder slugs Format.slug rows = rows.reverse ∧
      Database.answerJob (m := Id) (Database.backwards s) (fun _ => .ok []) (fun _ => .ok ())
        (.formatsBySlugs slugs) = .ok rows.reverse := by
  intro s slugs format rows
  have hformats : (s.formats.map Format.slug).Nodup := by decide
  have hproviders : (s.providers.map Provider.slug).Nodup := by decide
  have hselected : Selected slugs Format.slug s.formats rows := by
    have hfilter : (s.formats.filter fun f => slugs.contains f.slug) = rows := by decide
    rw [Selected, hfilter]
  have hholds : Holds (Database.backwards s) s := by
    constructor
    · intro slugs
      exact ⟨_, 0, List.reverse_perm _, rfl⟩
    · intro slugs
      exact ⟨_, 0, List.reverse_perm _, rfl⟩
  have hfound : s.formatsBySlugs slugs = rows.reverse := by decide
  obtain ⟨horder, -, hanswer⟩ := stores_resolve_alike s [" KML", "osm", "shp", "kml"] hformats hproviders
  refine ⟨hformats, hproviders, hselected, hholds, ?_, ?_⟩
  · exact (horder rows hselected).1.trans hfound
  · refine (hanswer (Database.backwards s) (fun _ => .ok []) (fun _ => .ok ()) hholds).1.trans ?_
    exact congrArg Except.ok hfound

end MapExport
