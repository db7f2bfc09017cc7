import Mathlib.Data.List.Nodup
import MapExport.Proofs.Job.Acceptance
import MapExport.Proofs.Job.Presets
import MapExport.Proofs.Job.ReadBack
import MapExport.Proofs.Slug
import MapExport.Proofs.Text.Trim

/-!
# Sound jobs

Whatever was requested, and whatever failed on the way, the jobs that a store comes to hold are sound: their texts
are tidy and of the right length, their geometries are usable, and the rows that belong to them name things that
exist, each once. Nothing of this is checked when the rows are written. It holds because the request is checked,
because slugs are brought into normal form, because a configuration is loaded once and because presets are read into
tables; and it stays, because a creation comes to nothing or to all of one order (`reached_jobs_are_sound`).
-/

set_option autoImplicit false

namespace MapExport

open Workflow (Trace trace_pure_iff trace_bind_ok_iff)

/-! ## The rows of a job -/

/-- **The rows that belong to a job:** the slugs of its formats, its tags, and the links to its configurations and
providers. -/
structure Rows where
  slugs : List String
  tags : List Tag
  links : List (Int × Uid)
  providers : List Uid

/-- The rows of the job with an identifier. -/
def JobTables.rowsOf (t : JobTables) (uid : Uid) : Rows where
  slugs := (t.formats.get? uid).getD []
  tags := t.tags.filter (·.job == uid)
  links := (t.configs.get? uid).getD []
  providers := (t.providers.get? uid).getD []

/-- What an order writes as the rows of its job. -/
def Order.rows (o : Order) : Rows where
  slugs := o.formats.map (·.slug)
  tags := o.tags
  links := o.links
  providers := o.providers.map (·.uid)

/-- **A sound job** in a store, by the rows that belong to it. The area of its geometry is measured on some map. -/
structure Store.Sound (s : Store) (project : Position → Float × Float) (job : Job) (rows : Rows) : Prop where
  name : Text.Tidy job.name ∧ 1 ≤ job.name.length ∧ job.name.length ≤ 100
  description : Text.Tidy job.description ∧ 1 ≤ job.description.length ∧ job.description.length ≤ 1000
  geometry : job.geometry.defectOn? project = none
  formats : rows.slugs ≠ [] ∧ rows.slugs.Nodup ∧ ∀ slug ∈ rows.slugs, ∃ f ∈ s.formats, f.slug = slug
  tags : rows.tags ≠ [] ∧ (rows.tags.map (·.name)).Nodup ∧
    ∀ tag ∈ rows.tags, Text.isBlankText tag.name = false ∧ tag.kinds ≠ []
  configs : (rows.links.map (·.2)).Nodup ∧ ∀ uid ∈ rows.links.map (·.2), s.configs.get? uid ≠ none
  places : rows.links.map (·.1) = (List.range rows.links.length).map Int.ofNat ∧ rows.links.length ≤ 3
  providers : rows.providers.Nodup ∧ ∀ uid ∈ rows.providers, ∃ p ∈ s.providers, p.uid = uid

variable {project : Position → Float × Float}

/-- Whether a job is sound is a matter of what formats, configurations and providers there are. -/
theorem Store.Sound.congr {s s' : Store} {job : Job} {rows : Rows} (h : s.Sound project job rows)
    (hformats : s'.formats = s.formats) (hconfigs : s'.configs = s.configs)
    (hproviders : s'.providers = s.providers) : s'.Sound project job rows where
  name := h.name
  description := h.description
  geometry := h.geometry
  formats := hformats ▸ h.formats
  tags := h.tags
  configs := hconfigs ▸ h.configs
  places := h.places
  providers := hproviders ▸ h.providers

namespace Table

variable {α β : Type}

/-- **All rows of a table,** each with its key. -/
def rows (t : Table (List α)) : List (Uid × α) := t.flatMap fun entry => entry.2.map (entry.1, ·)

theorem rows_append (t u : Table (List α)) : rows (t ++ u) = rows t ++ rows u := List.flatMap_append

theorem rows_entry (key : Uid) (as : List α) : (entry key as).rows = as.map (key, ·) := by
  cases as with
  | nil => rfl
  | cons a as => exact List.flatMap_singleton _ _

theorem Fresh.ne_of_mem_rows {t : Table (List α)} {key : Uid} (h : t.Fresh key) {row : Uid × α}
    (hrow : row ∈ t.rows) : row.1 ≠ key := by
  obtain ⟨entry, hentry, hrow⟩ := List.mem_flatMap.mp hrow
  obtain ⟨a, -, rfl⟩ := List.mem_map.mp hrow
  exact h entry hentry

/-- **No row twice:** distinct rows of a fresh key keep all rows distinct, by what is looked at of them. -/
theorem nodup_rows_append {t : Table (List α)} {key : Uid} (look : α → β) {as : List α} (fresh : t.Fresh key)
    (h : (t.rows.map fun row => (row.1, look row.2)).Nodup) (has : (as.map look).Nodup) :
    ((rows (t ++ entry key as)).map fun row => (row.1, look row.2)).Nodup := by
  rw [rows_append, rows_entry, List.map_append, List.nodup_append, List.map_map]
  refine ⟨h, ?_, ?_⟩
  · have hpairs : as.map ((fun row : Uid × α => (row.1, look row.2)) ∘ (key, ·)) =
        (as.map look).map (key, ·) := by
      rw [List.map_map]
      rfl
    rw [hpairs]
    exact has.map fun a b heq => (Prod.mk.inj heq).2
  · rintro _ hold _ hnew rfl
    obtain ⟨row, hrow, hrowKey⟩ := List.mem_map.mp hold
    obtain ⟨a, -, haKey⟩ := List.mem_map.mp hnew
    have hkey : row.1 = key := (Prod.mk.inj (hrowKey.trans haKey.symm)).1
    exact fresh.ne_of_mem_rows hrow hkey

/-- The same, where rows are looked at as they are. -/
theorem nodup_rows_append_self {t : Table (List α)} {key : Uid} {as : List α} (fresh : t.Fresh key)
    (h : t.rows.Nodup) (has : as.Nodup) : (rows (t ++ entry key as)).Nodup := by
  have hself (rows : List (Uid × α)) : rows.map (fun row => (row.1, id row.2)) = rows := List.map_id rows
  have hrows := nodup_rows_append id fresh ((hself _).symm ▸ h) ((List.map_id as).symm ▸ has)
  rwa [hself] at hrows

/-- An entry is not hidden by later ones of other keys. -/
theorem get?_append_of_fresh_right {t u : Table α} {key : Uid} (h : u.Fresh key) :
    get? (t ++ u) key = t.get? key := by
  rw [get?, get?, List.find?_append, h.find?_eq_none, Option.or_none]

end Table

/-- **All jobs of a store are sound,** and no row stands twice: of jobs by their identifier, of links by the job and
what is linked. -/
structure Store.SoundJobs (s : Store) (project : Position → Float × Float) : Prop where
  sound : ∀ entry ∈ s.jobs, entry.2.uid = entry.1 ∧ s.Sound project entry.2 (s.jobTables.rowsOf entry.1)
  jobs : (s.jobs.map (·.1)).Nodup
  formats : s.jobFormats.rows.Nodup
  configs : (s.jobConfigs.rows.map fun row => (row.1, row.2.2)).Nodup
  providers : s.jobProviders.rows.Nodup

namespace JobTables

variable {t u : JobTables} {uid : Uid}

/-- The rows of a job that was not there before. -/
theorem rowsOf_append_new (fresh : t.Fresh uid) : (t ++ u).rowsOf uid = u.rowsOf uid := by
  have htags : t.tags.filter (·.job == uid) = [] :=
    List.filter_eq_nil_iff.mpr fun tag htag => by simpa using fresh.tags tag htag
  rw [append_def]
  simp only [rowsOf, Table.get?_append_of_fresh fresh.formats, Table.get?_append_of_fresh fresh.configs,
    Table.get?_append_of_fresh fresh.providers, List.filter_append, htags, List.nil_append]

/-- The rows of a job that was there before. -/
theorem rowsOf_append_old (fresh : u.Fresh uid) : (t ++ u).rowsOf uid = t.rowsOf uid := by
  have htags : u.tags.filter (·.job == uid) = [] :=
    List.filter_eq_nil_iff.mpr fun tag htag => by simpa using fresh.tags tag htag
  rw [append_def]
  simp only [rowsOf, Table.get?_append_of_fresh_right fresh.formats,
    Table.get?_append_of_fresh_right fresh.configs, Table.get?_append_of_fresh_right fresh.providers,
    List.filter_append, htags, List.append_nil]

/-- The rows of the job of an order. -/
theorem rowsOf_tables {o : Order} (htags : ∀ tag ∈ o.tags, tag.job = o.job.uid) :
    o.tables.rowsOf o.job.uid = o.rows := by
  have hall : o.tags.filter (·.job == o.job.uid) = o.tags :=
    List.filter_eq_self.mpr fun tag htag => by simpa using htags tag htag
  simp only [rowsOf, Order.tables, Table.getD_get?_entry, hall]
  rfl

end JobTables

/-! ## One order -/

/-- **A fitting text** is of the right length after trimming too. -/
theorem Fitting.trim {most : Nat} {text : String} (h : Fitting most text) :
    Text.Tidy (Text.trim text) ∧ 1 ≤ (Text.trim text).length ∧ (Text.trim text).length ≤ most := by
  refine ⟨Text.tidy_trim text, Text.length_trim_pos (Text.isBlankText_eq_false_iff.mpr h.visible), ?_⟩
  exact Nat.le_trans (Text.length_trim_le text) h.length.2

variable {preset : String → Except Failure TagTable} {dispatch : Uid → Except Failure Unit}

/-- **What is gathered** for a request: it passes its check, and some format is known. -/
theorem usable_of_gather {r : JobRequest} {log : List JobEvent} {found : Job.Found}
    (h : Trace (Job.gather project r) log (.ok found)) : r.checkOn project = .ok () ∧ found.formats ≠ [] := by
  obtain ⟨_, _, _, -, hcheck, hlooked⟩ := trace_bind_ok_iff.mp h
  obtain ⟨-, hgranted⟩ := trace_ofExcept_iff.mp hcheck
  obtain ⟨_, _, formats, -, hformats, hlinked⟩ := trace_bind_ok_iff.mp hlooked
  obtain ⟨_, _, _, -, -, hloading⟩ := trace_bind_ok_iff.mp hlinked
  obtain ⟨_, _, _, -, -, hpure⟩ := trace_bind_ok_iff.mp hloading
  obtain ⟨-, hfound⟩ := trace_pure_iff.mp hpure
  cases hfound
  refine ⟨hgranted.symm, ?_⟩
  -- Of formats it is looked whether some were found before anything else is looked up.
  obtain ⟨_, _, answered, -, -, hsome⟩ := trace_bind_ok_iff.mp hformats
  change Trace (if List.isEmpty answered then _ else _) _ _ at hsome
  split at hsome
  · obtain ⟨-, hfail⟩ := trace_ofExcept_iff (r := .error _) |>.mp hsome
    cases hfail
  · next hsome' =>
    obtain ⟨-, hfound⟩ := trace_ofExcept_iff (r := .ok _) |>.mp hsome
    cases hfound
    exact fun hnil => hsome' (List.isEmpty_iff.mpr hnil)

/-- Each identifier adds one configuration at most. -/
theorem length_configsOf_le (find : Uid → Option Config) (known : List Config) (uids : List Uid) :
    (Job.configsOf find known uids).length ≤ known.length + uids.length := by
  induction uids generalizing known with
  | nil => exact Nat.le_refl _
  | cons uid uids ih =>
    rw [Job.configsOf]
    refine Nat.le_trans (ih _) ?_
    have hone : (find uid).toList.length ≤ 1 := by cases find uid <;> simp
    rw [List.length_cons]
    split
    · omega
    · rw [List.length_append]
      omega

/-- A request refers to three configurations, so no more than three are loaded for it. -/
theorem length_configsOf_referred_le (find : Uid → Option Config) (r : JobRequest) :
    (Job.configsOf find [] (Job.referredConfigs r)).length ≤ 3 := by
  have hone (uid? : Option Uid) : uid?.toList.length ≤ 1 := by cases uid? <;> simp
  have hpreset := hone r.preset
  have htranslation := hone r.translation
  have htransform := hone r.transform
  have hbound := length_configsOf_le find [] (Job.referredConfigs r)
  rw [List.length_nil, Job.referredConfigs, List.length_append, List.length_append] at hbound
  rw [Job.referredConfigs]
  omega

/-- **Tags made from a sound table** are sound, and bear its names. -/
theorem Tag.sound_ofTable {table : TagTable} (ids : Nat → Uid) (job : Uid) (hsome : table ≠ [])
    (h : table.Sound) :
    Tag.ofTable ids job table ≠ [] ∧ ((Tag.ofTable ids job table).map (·.name)).Nodup ∧
      ∀ tag ∈ Tag.ofTable ids job table, Text.isBlankText tag.name = false ∧ tag.kinds ≠ [] := by
  refine ⟨?_, Tag.map_name_ofTable ids job table ▸ h.names, fun tag htag => ?_⟩
  · rw [Tag.ofTable, Ne, List.mapIdx_eq_nil_iff]
    exact hsome
  · obtain ⟨i, hi, rfl⟩ := List.mem_mapIdx.mp htag
    have hentry := h.entries _ (List.getElem_mem hi)
    rw [Preset.isIdle, Bool.or_eq_false_iff] at hentry
    exact ⟨hentry.1, List.isEmpty_eq_false_iff.mp hentry.2⟩

/-- The places of the links are numbered from zero. -/
theorem Order.map_fst_links (o : Order) :
    o.links.map (·.1) = (List.range o.links.length).map Int.ofNat := by
  refine List.ext_getElem? fun i => ?_
  have hlength : o.links.length = o.configs.length := by rw [Order.links, List.length_mapIdx]
  rw [hlength]
  by_cases hi : i < o.configs.length
  · simp [Order.links, hi]
  · simp [Order.links, Nat.not_lt.mp hi]

namespace Order.Kept

variable {s : Store} {o : Order}

/-- **What is kept is there:** the rows name formats that the store has. -/
theorem format_known (h : o.Kept s) : ∀ slug ∈ o.rows.slugs, ∃ f ∈ s.formats, f.slug = slug := by
  intro slug hslug
  obtain ⟨f, hf, rfl⟩ := List.mem_map.mp hslug
  exact ⟨f, List.mem_of_find?_eq_some (h.formats f hf), rfl⟩

theorem config_known (h : o.Kept s) : ∀ uid ∈ o.rows.links.map (·.2), s.configs.get? uid ≠ none := by
  show ∀ uid ∈ o.links.map (·.2), _
  rw [o.map_snd_links]
  intro uid huid
  obtain ⟨c, hc, rfl⟩ := List.mem_map.mp huid
  rw [h.configs c hc]
  exact Option.some_ne_none c

theorem provider_mem (h : o.Kept s) {p : Provider} (hp : p ∈ o.providers) : p ∈ s.providers :=
  List.mem_of_find?_eq_some (h.providers p hp)

theorem provider_known (h : o.Kept s) : ∀ uid ∈ o.rows.providers, ∃ p ∈ s.providers, p.uid = uid := by
  intro uid huid
  obtain ⟨p, hp, rfl⟩ := List.mem_map.mp huid
  exact ⟨p, h.provider_mem hp, rfl⟩

/-- No two providers of a store have one identifier, so those of distinct slugs have distinct ones. -/
theorem nodup_providers (h : o.Kept s) (distinct : (s.providers.map (·.uid)).Nodup)
    (slugs : (o.providers.map Provider.slug).Nodup) : o.rows.providers.Nodup := by
  refine List.Nodup.map_on (fun p hp q hq huid => ?_) slugs.of_map
  exact List.inj_on_of_nodup_map distinct (h.provider_mem hp) (h.provider_mem hq) huid

end Order.Kept

/-- **The order of a request** is sound in the store that was looked into. -/
theorem sound_of_resolve {s : Store} {rules : JobRules} {stamp : Stamp} {owner : Uid} {r : JobRequest}
    {log : List JobEvent} {o : Order} (distinct : (s.providers.map (·.uid)).Nodup)
    (keyed : ∀ e ∈ s.configs, e.2.uid = e.1)
    (hpresets : ∀ path table, preset path = .ok table → TagTable.Sound table)
    (h : Trace (Job.resolve rules stamp owner r) log (.ok o))
    (hgives : ∀ e ∈ log, (Session.start s).Gives preset dispatch e) : s.Sound rules.project o.job o.rows := by
  obtain ⟨hkept, hformats, hproviders, -⟩ := kept_of_resolve distinct keyed h hgives
  have hloaded := nodup_of_resolve keyed h hgives
  obtain ⟨_, _, found, _, -, hgather, -, hfound⟩ := trace_resolve_ok h
  obtain ⟨hcheck, hsome⟩ := usable_of_gather hgather
  obtain ⟨hname, hdescription, hgeometry⟩ := JobRequest.checkOn_eq_ok_iff.mp hcheck
  obtain ⟨table, htable, horder⟩ := trace_resolve_given h hgives
  have hjob : o.job = Job.ofRequest stamp owner r := by rw [horder]; rfl
  have htags : o.rows.tags = Tag.ofTable stamp.tagIds stamp.uid table := by rw [horder]; rfl
  have hconfigs : o.configs = Job.configsOf s.configs.get? [] (Job.referredConfigs r) := by
    rw [horder]; rfl
  have hslugs : o.rows.slugs.Nodup := by
    show (o.formats.map Format.slug).Nodup
    rw [hformats]
    exact Keyed.nodup_map_key_found Format.slug s.formats (Slug.nodup_normalize _)
  have hproviderSlugs : (o.providers.map Provider.slug).Nodup := by
    rw [hproviders]
    exact Keyed.nodup_map_key_found Provider.slug s.providers (Slug.nodup_normalize _)
  have hlength : o.links.length ≤ 3 := by
    rw [Order.links, List.length_mapIdx, hconfigs]
    exact length_configsOf_referred_le s.configs.get? r
  have hlinks : (o.links.map (·.2)).Nodup := by
    rw [o.map_snd_links]
    exact hloaded
  refine ⟨?_, ?_, ?_, ⟨?_, hslugs, hkept.format_known⟩, ?_, ⟨hlinks, hkept.config_known⟩,
    ⟨o.map_fst_links, hlength⟩, ⟨hkept.nodup_providers distinct hproviderSlugs, hkept.provider_known⟩⟩
  · rw [hjob]
    exact hname.trim
  · rw [hjob]
    exact hdescription.trim
  · rw [hjob]
    exact hgeometry
  · intro hnil
    rw [hfound] at hnil
    exact hsome (List.map_eq_nil_iff.mp hnil)
  · obtain ⟨hentries, hsound⟩ := Job.sound_of_tagsOf hpresets htable
    rw [htags]
    exact Tag.sound_ofTable stamp.tagIds stamp.uid hentries hsound

/-! ## One attempt -/

/-- **An attempt** to create a job: a request with all that does not lie in the store, and where the store was told
to fail. -/
structure Attempt where
  faults : List TrialFault
  files : String → Except Failure (List UInt8)
  dispatch : Uid → Except Failure Unit
  rules : PresetRules
  stamp : Stamp
  owner : Uid
  request : JobRequest

/-- A store that is told to fail as in an attempt. -/
def Attempt.told (a : Attempt) (s : Store) : Store := { s with faults := a.faults }

namespace Store

/-- **Trying to create a job,** with presets read from files and areas measured on some map. -/
def attempt (s : Store) (project : Position → Float × Float) (a : Attempt) : Creation :=
  (a.told s).create (Preset.fromFiles a.files) a.dispatch ⟨a.rules, project⟩ a.stamp a.owner a.request

/-- The store after an attempt. -/
abbrev after (s : Store) (project : Position → Float × Float) (a : Attempt) : Store :=
  (s.attempt project a).state.store

variable {s : Store} {a : Attempt}

/-- **What an attempt makes of a store:** it leaves the store as it was, or appends the tables of one order that is
sound. -/
theorem after_cases (distinct : (s.providers.map (·.uid)).Nodup) (keyed : ∀ e ∈ s.configs, e.2.uid = e.1)
    (fresh : s.Fresh a.stamp.uid) :
    s.after project a = a.told s ∨
      ∃ o : Order, s.after project a = (a.told s).withJobTables (s.jobTables ++ o.tables) ∧
        o.job.uid = a.stamp.uid ∧ (∀ tag ∈ o.tags, tag.job = o.job.uid) ∧ s.Sound project o.job o.rows := by
  have distinct' : ((a.told s).providers.map (·.uid)).Nodup := distinct
  have keyed' : ∀ e ∈ (a.told s).configs, e.2.uid = e.1 := keyed
  rcases create_nothing_or_all (a.told s) (Preset.fromFiles a.files) a.dispatch ⟨a.rules, project⟩
    a.stamp a.owner a.request fresh with hnothing | ⟨reads, o, hreads, hgives, hall⟩
  · exact .inl hnothing.store
  · have hkept := (kept_of_resolve distinct' keyed' hreads hgives).1
    have hsound := sound_of_resolve distinct' keyed' Preset.sound_of_fromFiles hreads hgives
    exact .inr ⟨o, hall.store, uid_of_resolve hreads, hkept.tags, hsound.congr rfl rfl rfl⟩

/-- An attempt adds or changes no format, configuration or provider. -/
theorem after_catalogue (distinct : (s.providers.map (·.uid)).Nodup)
    (keyed : ∀ e ∈ s.configs, e.2.uid = e.1) (fresh : s.Fresh a.stamp.uid) :
    (s.after project a).formats = s.formats ∧ (s.after project a).configs = s.configs ∧
      (s.after project a).providers = s.providers := by
  rcases after_cases distinct keyed fresh with hsame | ⟨o, hadded, -⟩
  · rw [hsame]
    exact ⟨rfl, rfl, rfl⟩
  · rw [hadded]
    exact ⟨rfl, rfl, rfl⟩

/-- **Adding a sound job** keeps all jobs sound. -/
theorem SoundJobs.add (h : s.SoundJobs project) {o : Order} (fresh : s.Fresh o.job.uid)
    (htags : ∀ tag ∈ o.tags, tag.job = o.job.uid) (hsound : s.Sound project o.job o.rows) :
    (s.withJobTables (s.jobTables ++ o.tables)).SoundJobs project where
  sound := by
    intro entry hentry
    rcases List.mem_append.mp hentry with hold | hnew
    · obtain ⟨hkey, hjob⟩ := h.sound entry hold
      have hother : o.tables.Fresh entry.1 :=
        Order.tables_fresh (fresh.jobs entry hold).symm htags
      refine ⟨hkey, ?_⟩
      rw [jobTables_withJobTables, JobTables.rowsOf_append_old hother]
      exact hjob.congr rfl rfl rfl
    · rw [List.mem_singleton.mp hnew]
      refine ⟨rfl, ?_⟩
      rw [jobTables_withJobTables, JobTables.rowsOf_append_new fresh, JobTables.rowsOf_tables htags]
      exact hsound.congr rfl rfl rfl
  jobs := by
    show ((s.jobs ++ [(o.job.uid, o.job)]).map (·.1)).Nodup
    rw [List.map_append, List.nodup_append]
    refine ⟨h.jobs, List.pairwise_singleton _ _, ?_⟩
    rintro uid hold _ hnew rfl
    obtain ⟨entry, hentry, rfl⟩ := List.mem_map.mp hold
    exact fresh.jobs entry hentry (List.mem_singleton.mp hnew)
  formats := Table.nodup_rows_append_self fresh.formats h.formats hsound.formats.2.1
  configs := Table.nodup_rows_append Prod.snd fresh.configs h.configs hsound.configs.1
  providers := Table.nodup_rows_append_self fresh.providers h.providers hsound.providers.1

/-- **One attempt** keeps all jobs sound, however it ends. -/
theorem SoundJobs.after (h : s.SoundJobs project) (distinct : (s.providers.map (·.uid)).Nodup)
    (keyed : ∀ e ∈ s.configs, e.2.uid = e.1) (fresh : s.Fresh a.stamp.uid) : (s.after project a).SoundJobs project := by
  have htold : (a.told s).SoundJobs project :=
    ⟨fun entry hentry => ⟨(h.sound entry hentry).1, (h.sound entry hentry).2.congr rfl rfl rfl⟩,
      h.jobs, h.formats, h.configs, h.providers⟩
  rcases after_cases distinct keyed fresh with hsame | ⟨o, hadded, huid, htags, hsound⟩
  · rw [hsame]
    exact htold
  · rw [hadded]
    have hfresh : (a.told s).Fresh o.job.uid := huid ▸ fresh
    exact htold.add hfresh htags (hsound.congr rfl rfl rfl)

/-! ## All attempts -/

/-- **The stores that are reached** by attempts to create jobs, one after the other, each with an identifier that is
fresh by then. -/
inductive Reached (start : Store) (project : Position → Float × Float) : Store → Prop
  | start : Reached start project start
  | attempt {s : Store} (a : Attempt) (h : Reached start project s) (fresh : s.Fresh a.stamp.uid) :
    Reached start project (s.after project a)

/-- A store without jobs has no unsound ones. -/
theorem soundJobs_of_no_jobs (h : s.jobTables = ∅) : s.SoundJobs project := by
  have hjobs : s.jobs = [] := congrArg JobTables.jobs h
  have hformats : s.jobFormats = [] := congrArg JobTables.formats h
  have hconfigs : s.jobConfigs = [] := congrArg JobTables.configs h
  have hproviders : s.jobProviders = [] := congrArg JobTables.providers h
  constructor
  · rw [hjobs]
    exact fun _ hentry => absurd hentry List.not_mem_nil
  · rw [hjobs]
    exact List.nodup_nil
  · rw [hformats]
    exact List.nodup_nil
  · rw [hconfigs]
    exact List.nodup_nil
  · rw [hproviders]
    exact List.nodup_nil

/-- What is reached has the formats, configurations and providers of the start. -/
theorem Reached.sound {start : Store} (hstart : start.jobTables = ∅)
    (distinct : (start.providers.map (·.uid)).Nodup) (keyed : ∀ e ∈ start.configs, e.2.uid = e.1)
    (h : start.Reached project s) :
    s.SoundJobs project ∧ s.configs = start.configs ∧ s.providers = start.providers := by
  induction h with
  | start => exact ⟨soundJobs_of_no_jobs hstart, rfl, rfl⟩
  | attempt a h fresh ih =>
    obtain ⟨hsound, hconfigs, hproviders⟩ := ih
    have distinct' := hproviders ▸ distinct
    have keyed' := hconfigs ▸ keyed
    obtain ⟨-, hsameConfigs, hsameProviders⟩ := after_catalogue distinct' keyed' fresh
    exact ⟨hsound.after distinct' keyed' fresh, hsameConfigs.trans hconfigs,
      hsameProviders.trans hproviders⟩

end Store

/-- **The jobs of every store that is reached are sound,** and no key of their rows stands twice. And jobs there are:
an attempt that nothing stands in the way of adds one. -/
theorem reached_jobs_are_sound (start s : Store) (project : Position → Float × Float) (hstart : start.jobTables = ∅)
    (distinct : (start.providers.map (·.uid)).Nodup) (keyed : ∀ e ∈ start.configs, e.2.uid = e.1)
    (h : start.Reached project s) :
    s.SoundJobs project ∧ ∀ a : Attempt, s.Fresh a.stamp.uid →
      Unhindered (a.told s) (Preset.fromFiles a.files) ⟨a.rules, project⟩ a.request →
        ∃ job, (a.stamp.uid, job) ∈ (s.after project a).jobs := by
  refine ⟨(h.sound hstart distinct keyed).1, fun a fresh hunhindered => ?_⟩
  rcases create_nothing_or_all (a.told s) (Preset.fromFiles a.files) a.dispatch ⟨a.rules, project⟩
    a.stamp a.owner a.request fresh with hnothing | ⟨reads, o, hreads, -, hall⟩
  · exact absurd hnothing (hunhindered.not_nothing a.dispatch a.stamp a.owner)
  · refine ⟨o.job, ?_⟩
    rw [Store.after, Store.attempt, hall.store, ← uid_of_resolve hreads]
    exact List.mem_append_right _ (List.mem_singleton_self _)

/-- An attempt for trials; the file of its preset is missing, so it gets the default tags. -/
def Attempt.trial : Attempt where
  faults := []
  files := fun _ => .error (.file "missing")
  dispatch := fun _ => .error (.queue "no workers")
  rules := ⟨"uploads", .defaults⟩
  stamp := .trial ⟨1⟩
  owner := ⟨2⟩
  request := .trial

theorem trial_jobs_are_sound :
    let start : Store := { Store.reference ⟨9⟩ with configs := (Store.trial []).configs }
    let project := (JobRules.trial .defaults).project
    let s := start.after project .trial
    start.jobTables = ∅ ∧ (start.providers.map (·.uid)).Nodup ∧ (∀ e ∈ start.configs, e.2.uid = e.1) ∧
      start.Reached project s ∧ s.SoundJobs project ∧ ∃ job, (⟨1⟩, job) ∈ s.jobs := by
  intro start project s
  have distinct : (start.providers.map (·.uid)).Nodup := by decide
  have keyed : ∀ e ∈ start.configs, e.2.uid = e.1 := by decide
  have fresh : start.Fresh Attempt.trial.stamp.uid := by decide
  have reached : start.Reached project s := .attempt .trial .start fresh
  have hsound := (reached_jobs_are_sound start s project rfl distinct keyed reached).1
  have hadded := (reached_jobs_are_sound start start project rfl distinct keyed .start).2 .trial fresh
  have unhindered : Unhindered (Attempt.trial.told start) (Preset.fromFiles Attempt.trial.files)
      ⟨Attempt.trial.rules, project⟩ .trial :=
    ⟨JobRequest.checkOn_trial .defaults, by decide, by decide, keyed, ⟨Preset.defaultTable, rfl⟩, rfl⟩
  exact ⟨rfl, distinct, keyed, reached, hsound, hadded unhindered⟩

end MapExport
