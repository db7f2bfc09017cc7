import MapExport.Proofs.Job.Order
import MapExport.Store.Transaction

/-!
# The tables of jobs

What the store keeps of its jobs stands in five tables. An order amounts to tables of its own, with rows
for its job only, and the commit of its transaction appends these to the tables of the store, as long as the
identifier of the job is fresh. Everything else that the store keeps is left alone.
-/

set_option autoImplicit false

namespace MapExport

variable {α : Type}

/-! ## Tables -/

namespace Table

/-- **Fresh:** a key without an entry. -/
def Fresh (t : Table α) (key : Uid) : Prop := ∀ entry ∈ t, entry.1 ≠ key

instance (t : Table α) (key : Uid) : Decidable (t.Fresh key) :=
  inferInstanceAs (Decidable (∀ entry ∈ t, entry.1 ≠ key))

/-- The entry that a list of rows with one key makes; there is none without a row. -/
def entry (key : Uid) : List α → Table (List α)
  | [] => []
  | a :: rows => [(key, a :: rows)]

theorem Fresh.of_cons {t : Table α} {key : Uid} {e : Uid × α} (h : Fresh (e :: t) key) :
    e.1 ≠ key ∧ t.Fresh key :=
  ⟨h e List.mem_cons_self, fun e' he' => h e' (List.mem_cons_of_mem _ he')⟩

theorem fresh_append_iff {t u : Table α} {key : Uid} :
    Fresh (t ++ u) key ↔ t.Fresh key ∧ u.Fresh key := by
  simp only [Fresh, List.mem_append]
  exact ⟨fun h => ⟨fun e he => h e (.inl he), fun e he => h e (.inr he)⟩,
    fun h e he => he.elim (h.1 e) (h.2 e)⟩

theorem fresh_entry {key other : Uid} (h : key ≠ other) (rows : List α) :
    (entry key rows).Fresh other := by
  cases rows with
  | nil => exact fun e he => absurd he List.not_mem_nil
  | cons a rows =>
    intro e he
    rw [List.mem_singleton.mp he]
    exact h

/-- A new entry comes last. -/
theorem set_of_fresh {t : Table α} {key : Uid} (h : t.Fresh key) (a : α) :
    t.set key a = t ++ [(key, a)] := by
  induction t with
  | nil => rfl
  | cons e t ih =>
    obtain ⟨hhead, htail⟩ := h.of_cons
    rw [set, if_neg hhead, ih htail]
    rfl

theorem Fresh.find?_eq_none {t : Table α} {key : Uid} (h : t.Fresh key) :
    t.find? (·.1 == key) = none :=
  List.find?_eq_none.mpr fun e he => by simpa using h e he

theorem get?_eq_none {t : Table α} {key : Uid} (h : t.Fresh key) : t.get? key = none := by
  rw [get?, h.find?_eq_none]
  rfl

theorem get?_append_of_fresh {t : Table α} {key : Uid} (h : t.Fresh key) (u : Table α) :
    get? (t ++ u) key = u.get? key := by
  rw [get?, get?, List.find?_append, h.find?_eq_none, Option.none_or]

theorem get?_singleton (key : Uid) (a : α) : get? [(key, a)] key = some a := by
  simp [get?]

theorem getD_get?_entry (key : Uid) (rows : List α) : ((entry key rows).get? key).getD [] = rows := by
  cases rows with
  | nil => rfl
  | cons a rows => rw [entry, get?_singleton, Option.getD_some]

/-- The last entry is the one that is replaced, if no other has its key. -/
theorem set_append_singleton {t : Table α} {key : Uid} (h : t.Fresh key) (a b : α) :
    set (t ++ [(key, a)]) key b = t ++ [(key, b)] := by
  induction t with
  | nil => simp [set]
  | cons e t ih =>
    obtain ⟨hhead, htail⟩ := h.of_cons
    rw [List.cons_append, set, if_neg hhead, ih htail]
    rfl

/-- Rows of a key go to its entry, which comes last. -/
theorem push_append_entry {t : Table (List α)} {key : Uid} (h : t.Fresh key) (rows : List α)
    (a : α) : push (t ++ entry key rows) key a = t ++ entry key (rows ++ [a]) := by
  cases rows with
  | nil =>
    rw [entry, List.append_nil, push, get?_eq_none h, set_of_fresh h]
    rfl
  | cons b rows =>
    rw [push, get?_append_of_fresh h, entry, get?_singleton, set_append_singleton h]
    rfl

/-- **Rows of a fresh key** make one entry, which comes last. -/
theorem foldl_push {t : Table (List α)} {key : Uid} (h : t.Fresh key) (rows : List α) :
    rows.foldl (fun t a => push t key a) t = t ++ entry key rows := by
  -- From the second row on the entry is there already, so the rows that are done are generalized.
  have hfrom (done rows : List α) : rows.foldl (fun t a => push t key a) (t ++ entry key done) =
      t ++ entry key (done ++ rows) := by
    induction rows generalizing done with
    | nil => rw [List.foldl_nil, List.append_nil]
    | cons a rows ih => rw [List.foldl_cons, push_append_entry h, ih, List.append_assoc]; rfl
  simpa [entry] using hfrom [] rows

end Table

/-! ## The tables of jobs -/

/-- **The tables of jobs** of a store. -/
structure JobTables where
  jobs : Table Job
  formats : Table (List String)
  configs : Table (List (Int × Uid))
  providers : Table (List Uid)
  tags : List Tag

namespace JobTables

instance : Append JobTables where
  append t u := ⟨t.jobs ++ u.jobs, t.formats ++ u.formats, t.configs ++ u.configs,
    t.providers ++ u.providers, t.tags ++ u.tags⟩

instance : EmptyCollection JobTables := ⟨⟨[], [], [], [], []⟩⟩

theorem append_def (t u : JobTables) : t ++ u = ⟨t.jobs ++ u.jobs, t.formats ++ u.formats,
    t.configs ++ u.configs, t.providers ++ u.providers, t.tags ++ u.tags⟩ := rfl

theorem append_empty (t : JobTables) : t ++ ∅ = t := by
  simp only [append_def, EmptyCollection.emptyCollection, List.append_nil]

theorem append_assoc (t u v : JobTables) : t ++ u ++ v = t ++ (u ++ v) := by
  simp only [append_def, List.append_assoc]

/-- **Fresh:** an identifier of which no table of jobs knows anything. -/
structure Fresh (t : JobTables) (uid : Uid) : Prop where
  jobs : t.jobs.Fresh uid
  formats : t.formats.Fresh uid
  configs : t.configs.Fresh uid
  providers : t.providers.Fresh uid
  tags : ∀ tag ∈ t.tags, tag.job ≠ uid

instance (t : JobTables) (uid : Uid) : Decidable (t.Fresh uid) :=
  decidable_of_iff
    (t.jobs.Fresh uid ∧ t.formats.Fresh uid ∧ t.configs.Fresh uid ∧ t.providers.Fresh uid ∧
      ∀ tag ∈ t.tags, tag.job ≠ uid)
    ⟨fun ⟨hj, hf, hc, hp, ht⟩ => ⟨hj, hf, hc, hp, ht⟩,
      fun h => ⟨h.jobs, h.formats, h.configs, h.providers, h.tags⟩⟩

theorem Fresh.append {t u : JobTables} {uid : Uid} (ht : t.Fresh uid) (hu : u.Fresh uid) :
    (t ++ u).Fresh uid where
  jobs := Table.fresh_append_iff.mpr ⟨ht.jobs, hu.jobs⟩
  formats := Table.fresh_append_iff.mpr ⟨ht.formats, hu.formats⟩
  configs := Table.fresh_append_iff.mpr ⟨ht.configs, hu.configs⟩
  providers := Table.fresh_append_iff.mpr ⟨ht.providers, hu.providers⟩
  tags tag htag := (List.mem_append.mp htag).elim (ht.tags tag) (hu.tags tag)

end JobTables

namespace Store

/-- The tables of jobs of a store. -/
def jobTables (s : Store) : JobTables :=
  ⟨s.jobs, s.jobFormats, s.jobConfigs, s.jobProviders, s.tags⟩

/-- A store with other tables of jobs. -/
def withJobTables (s : Store) (t : JobTables) : Store :=
  { s with
    jobs := t.jobs
    jobFormats := t.formats
    jobConfigs := t.configs
    jobProviders := t.providers
    tags := t.tags }

/-- A fresh identifier for a job. -/
abbrev Fresh (s : Store) (uid : Uid) : Prop := s.jobTables.Fresh uid

@[simp] theorem jobTables_withJobTables (s : Store) (t : JobTables) :
    (s.withJobTables t).jobTables = t := rfl

end Store

/-- A store for trials. It has a provider, two configurations and a job, and refuses at some points. -/
def Store.trial (faults : List TrialFault) : Store :=
  { Store.reference ⟨9⟩ with
    configs := [(⟨7⟩, .trial ⟨7⟩ .preset), (⟨8⟩, .trial ⟨8⟩ .translation)]
    jobs := [(⟨3⟩, Job.ofRequest (.trial ⟨3⟩) ⟨2⟩ .trial)]
    jobFormats := [(⟨3⟩, ["shp", "kml"])]
    jobProviders := [(⟨3⟩, [⟨9⟩])]
    tags := Tag.ofTable (fun i => ⟨BitVec.ofNat 128 i⟩) ⟨3⟩ Preset.defaultTable
    faults }

/-! ## What an order amounts to -/

namespace Order

/-- The links of an order to its configurations, numbered from zero. -/
def links (o : Order) : List (Int × Uid) := o.configs.mapIdx fun i c => ((i : Int), c.uid)

/-- **The tables of an order:** the job, and the rows of all that belongs to it. -/
def tables (o : Order) : JobTables where
  jobs := [(o.job.uid, o.job)]
  formats := Table.entry o.job.uid (o.formats.map (·.slug))
  configs := Table.entry o.job.uid o.links
  providers := Table.entry o.job.uid (o.providers.map (·.uid))
  tags := o.tags

/-- **What the transaction of an order has staged** when it comes to the commit. -/
def staged (o : Order) : Staged where
  jobs := [o.job]
  formats := o.formats.map fun f => (o.job.uid, f.slug)
  tags := o.tags
  configs := o.links.map fun link => (o.job.uid, link)
  providers := o.providers.map fun p => (o.job.uid, p.uid)

/-- **The commit of an order** appends its tables, and changes nothing else. -/
theorem apply_staged {o : Order} {s : Store} (fresh : s.Fresh o.job.uid) :
    o.staged.apply s = s.withJobTables (s.jobTables ++ o.tables) := by
  have hjobs : s.jobs.set o.job.uid o.job = s.jobs ++ [(o.job.uid, o.job)] :=
    Table.set_of_fresh fresh.jobs o.job
  have hformats : (o.formats.map fun f => (o.job.uid, f.slug)).foldl
      (fun rows e => rows.push e.1 e.2) s.jobFormats =
        s.jobFormats ++ Table.entry o.job.uid (o.formats.map (·.slug)) := by
    rw [← Table.foldl_push (t := s.jobFormats) fresh.formats, List.foldl_map, List.foldl_map]
  have hconfigs : (o.links.map fun link => (o.job.uid, link)).foldl
      (fun rows e => rows.push e.1 e.2) s.jobConfigs =
        s.jobConfigs ++ Table.entry o.job.uid o.links := by
    rw [← Table.foldl_push (t := s.jobConfigs) fresh.configs, List.foldl_map]
  have hproviders : (o.providers.map fun p => (o.job.uid, p.uid)).foldl
      (fun rows e => rows.push e.1 e.2) s.jobProviders =
        s.jobProviders ++ Table.entry o.job.uid (o.providers.map (·.uid)) := by
    rw [← Table.foldl_push (t := s.jobProviders) fresh.providers, List.foldl_map, List.foldl_map]
  calc o.staged.apply s
      = s.withJobTables
          { jobs := s.jobs.set o.job.uid o.job
            formats := (o.formats.map fun f => (o.job.uid, f.slug)).foldl
              (fun rows e => rows.push e.1 e.2) s.jobFormats
            configs := (o.links.map fun link => (o.job.uid, link)).foldl
              (fun rows e => rows.push e.1 e.2) s.jobConfigs
            providers := (o.providers.map fun p => (o.job.uid, p.uid)).foldl
              (fun rows e => rows.push e.1 e.2) s.jobProviders
            tags := s.tags ++ o.tags } := rfl
    _ = s.withJobTables (s.jobTables ++ o.tables) := by
        rw [hjobs, hformats, hconfigs, hproviders]
        rfl

/-- The tables of an order know of no other job. -/
theorem tables_fresh {o : Order} {uid : Uid} (h : o.job.uid ≠ uid)
    (htags : ∀ tag ∈ o.tags, tag.job = o.job.uid) : o.tables.Fresh uid where
  jobs := by
    intro e he
    rw [List.mem_singleton.mp he]
    exact h
  formats := Table.fresh_entry h _
  configs := Table.fresh_entry h _
  providers := Table.fresh_entry h _
  tags tag htag := by
    rw [htags tag htag]
    exact h

end Order

end MapExport
