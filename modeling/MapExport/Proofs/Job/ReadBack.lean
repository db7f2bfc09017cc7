import MapExport.Proofs.Job.Success
import MapExport.Proofs.Store.Keys

/-!
# Reading a job back

What the client is told of a new job is what the store gives for it from then on. The two are put together in
different ways: the one from the records that were looked up, the other from slugs, places and identifiers
in the tables of jobs, which are looked up once more. They agree because everything that an order holds is
what the store has under the key that the tables keep (`Order.Kept`).
-/

set_option autoImplicit false

namespace MapExport

open Workflow (Trace trace_pure_iff trace_bind_iff)

variable {α β γ : Type}

/-- What is found for every key. -/
theorem filterMap_map_eq_map {l : List α} {key : α → β} {find : β → Option γ} {f : α → γ}
    (h : ∀ a ∈ l, find (key a) = some (f a)) : (l.map key).filterMap find = l.map f := by
  induction l with
  | nil => rfl
  | cons a l ih =>
    rw [List.map_cons, List.filterMap_cons_some (h a List.mem_cons_self),
      ih fun a' ha' => h a' (List.mem_cons_of_mem _ ha'), List.map_cons]

/-! ## Orders that can be read back -/

/-- **Kept:** what an order holds is what the store has under its keys. -/
structure Order.Kept (o : Order) (s : Store) : Prop where
  formats : ∀ f ∈ o.formats, s.formats.find? (·.slug == f.slug) = some f
  tags : ∀ tag ∈ o.tags, tag.job = o.job.uid
  configs : ∀ c ∈ o.configs, s.configs.get? c.uid = some c
  providers : ∀ p ∈ o.providers, s.provider? p.uid = some p

namespace Order

/-- The places of the links are in order already. -/
theorem inPlaceOrder_links (o : Order) : Store.inPlaceOrder o.links = o.links := by
  refine List.mergeSort_of_pairwise (List.pairwise_iff_getElem.mpr fun i j hi hj hij => ?_)
  simp only [links, List.getElem_mapIdx, decide_eq_true_eq]
  omega

/-- What is linked are the configurations. -/
theorem map_snd_links (o : Order) : o.links.map (·.2) = o.configs.map (·.uid) := by
  refine List.ext_getElem? fun i => ?_
  simp [links, Function.comp_def]

theorem filterMap_links {o : Order} {find : Uid → Option Config}
    (h : ∀ c ∈ o.configs, find c.uid = some c) :
    (o.links.filterMap fun (_, c) => find c) = o.configs := by
  -- The places are not read, so the links may be looked up by their identifiers alone.
  have hfound := filterMap_map_eq_map (f := id) h
  rw [List.map_id, ← map_snd_links, List.filterMap_map] at hfound
  exact hfound

/-- **An order that was kept** is read back as the client was told. -/
theorem job?_of_kept {o : Order} {s : Store} (fresh : s.Fresh o.job.uid) (h : o.Kept s) :
    (s.withJobTables (s.jobTables ++ o.tables)).job? o.job.uid = some o.detail := by
  have hjob : Table.get? (s.jobs ++ [(o.job.uid, o.job)]) o.job.uid = some o.job := by
    rw [Table.get?_append_of_fresh (t := s.jobs) fresh.jobs, Table.get?_singleton]
  have hslugs : (Table.get? (s.jobFormats ++ o.tables.formats) o.job.uid).getD [] =
      o.formats.map (·.slug) := by
    rw [Table.get?_append_of_fresh (t := s.jobFormats) fresh.formats]
    exact Table.getD_get?_entry _ _
  have hlinks : (Table.get? (s.jobConfigs ++ o.tables.configs) o.job.uid).getD [] = o.links := by
    rw [Table.get?_append_of_fresh (t := s.jobConfigs) fresh.configs]
    exact Table.getD_get?_entry _ _
  have huids : (Table.get? (s.jobProviders ++ o.tables.providers) o.job.uid).getD [] =
      o.providers.map (·.uid) := by
    rw [Table.get?_append_of_fresh (t := s.jobProviders) fresh.providers]
    exact Table.getD_get?_entry _ _
  have hformats : s.formatsBySlugs (o.formats.map (·.slug)) = o.formats := by
    rw [Store.formatsBySlugs, filterMap_map_eq_map (f := id) h.formats, List.map_id]
  have htags : (s.tags ++ o.tags).filter (·.job == o.job.uid) = o.tags := by
    have hold : s.tags.filter (·.job == o.job.uid) = [] :=
      List.filter_eq_nil_iff.mpr fun tag htag => by simpa using fresh.tags tag htag
    have hnew : o.tags.filter (·.job == o.job.uid) = o.tags :=
      List.filter_eq_self.mpr fun tag htag => by simpa using h.tags tag htag
    rw [List.filter_append, hold, hnew, List.nil_append]
  have hproviders : ((o.providers.map (·.uid)).filterMap fun p =>
      (s.provider? p).map Provider.slug) = o.providers.map Provider.slug :=
    filterMap_map_eq_map fun p hp => by rw [h.providers p hp, Option.map_some]
  -- The store reads the job and its rows in one expression; each part of it is one of the facts above.
  show (Table.get? (s.jobs ++ [(o.job.uid, o.job)]) o.job.uid).map (fun job => JobDetail.mk job
    (s.formatsBySlugs ((Table.get? (s.jobFormats ++ o.tables.formats) o.job.uid).getD []))
    ((s.tags ++ o.tags).filter (·.job == o.job.uid))
    ((Store.inPlaceOrder ((Table.get? (s.jobConfigs ++ o.tables.configs) o.job.uid).getD [])).filterMap
      fun (_, c) => s.configs.get? c)
    (((Table.get? (s.jobProviders ++ o.tables.providers) o.job.uid).getD []).filterMap fun p =>
      (s.provider? p).map Provider.slug)) = some o.detail
  rw [hjob, hslugs, hlinks, huids, hformats, htags, inPlaceOrder_links, filterMap_links h.configs,
    hproviders]
  rfl

end Order

/-! ## The order of a request is kept -/

theorem find?_slug_eq_some {formats : List Format} {slug : String} {f : Format}
    (h : formats.find? (·.slug == slug) = some f) : formats.find? (·.slug == f.slug) = some f := by
  have hslug : f.slug = slug := by simpa using List.find?_some h
  rw [hslug, h]

theorem map_slug_providersBySlugs (s : Store) (slugs : List String) :
    (s.providersBySlugs slugs).map Provider.slug =
      slugs.filter fun slug => s.providers.any (·.slug == slug) :=
  Keyed.map_key_found Provider.slug s.providers slugs

variable {preset : String → Except Failure TagTable} {dispatch : Uid → Except Failure Unit}

/-- Where configurations are kept under their own identifiers, each is loaded once, in the order in which
they are first referred to. -/
theorem trace_loadConfigs_keyed {s : Session} {known : List Config} {uids : List Uid}
    {log : List JobEvent} {configs : List Config} (keyed : ∀ e ∈ s.store.configs, e.2.uid = e.1)
    (h : Trace (Job.loadConfigs known uids) log (.ok configs))
    (hgives : ∀ e ∈ log, s.Gives preset dispatch e) :
    configs.map some =
      known.map some ++ (unknownUids (known.map (·.uid)) uids).map s.store.configs.get? := by
  induction uids generalizing known log with
  | nil =>
    obtain ⟨-, hknown⟩ := trace_pure_iff.mp h
    cases hknown
    simp [unknownUids]
  | cons uid uids ih =>
    rcases trace_loadConfigs_cons_ok h with ⟨hknown, hrest⟩ | ⟨hnew, config, rest, rfl, hrest⟩
    · rw [unknownUids_cons_of_mem hknown]
      exact ih hrest hgives
    · have hfound : s.store.configs.get? uid = some config :=
        Session.gives_config (hgives _ List.mem_cons_self)
      rw [ih hrest fun e he => hgives e (List.mem_cons_of_mem _ he),
        unknownUids_cons_of_not_mem hnew, List.map_cons, hfound]
      simp [uid_of_get? keyed hfound]

/-- **The order of a request is kept.** -/
theorem kept_of_resolve {s : Store} {rules : JobRules} {stamp : Stamp} {owner : Uid}
    {r : JobRequest} {log : List JobEvent} {o : Order}
    (distinct : (s.providers.map (·.uid)).Nodup) (keyed : ∀ e ∈ s.configs, e.2.uid = e.1)
    (h : Trace (Job.resolve rules stamp owner r) log (.ok o))
    (hgives : ∀ e ∈ log, (Session.start s).Gives preset dispatch e) :
    o.Kept s ∧ o.formats = s.formatsBySlugs (Slug.normalize r.formats) ∧
      o.providers = s.providersBySlugs (Slug.normalize r.providers) ∧
      o.configs.map some = (Job.referredConfigs r).eraseDups.map s.configs.get? := by
  obtain ⟨looked, read, found, table, rfl, hgather, -, rfl⟩ := trace_resolve_ok h
  have hlooked : ∀ e ∈ looked, (Session.start s).Gives preset dispatch e := fun e he =>
    hgives e (List.mem_append_left _ he)
  have hfound : found = s.found r := trace_gather_given hgather hlooked
  obtain ⟨providersLog, configsLog, rfl, -, hload⟩ := trace_gather_ok hgather
  have hconfigs : found.configs.map some =
      (Job.referredConfigs r).eraseDups.map s.configs.get? := by
    rw [trace_loadConfigs_keyed keyed hload fun e he =>
      hlooked e (List.mem_cons_of_mem _ (List.mem_append_right _ he))]
    exact congrArg (List.map s.configs.get?) (unknownUids_nil _)
  have hformats : found.formats = s.formatsBySlugs (Slug.normalize r.formats) := by rw [hfound]; rfl
  have hproviders : found.providers = s.providersBySlugs (Slug.normalize r.providers) := by
    rw [hfound]; rfl
  refine ⟨⟨?_, ?_, ?_, ?_⟩, hformats, hproviders, hconfigs⟩
  · intro f hf
    change f ∈ found.formats at hf
    rw [hformats] at hf
    obtain ⟨slug, -, hslug⟩ := List.mem_filterMap.mp hf
    exact find?_slug_eq_some hslug
  · intro tag htag
    obtain ⟨i, hi, rfl⟩ := List.mem_mapIdx.mp htag
    rfl
  · intro c hc
    have hmem : some c ∈ (Job.referredConfigs r).eraseDups.map s.configs.get? :=
      hconfigs ▸ List.mem_map_of_mem hc
    obtain ⟨uid, -, hget⟩ := List.mem_map.mp hmem
    rw [uid_of_get? keyed hget, hget]
  · intro p hp
    change p ∈ found.providers at hp
    rw [hproviders] at hp
    obtain ⟨slug, -, hslug⟩ := List.mem_filterMap.mp hp
    exact Keyed.find?_own distinct (List.mem_of_find?_eq_some hslug)

/-! ## What the client is told -/

/-- **What the client is told of a new job can be read back,** and it is what the request asked for: the known
formats and providers in the order of their normalized slugs, and each configuration once. And the client is
told of one, if nothing stands in its way and the queue takes it. -/
theorem create_reads_back (s : Store) (preset : String → Except Failure TagTable)
    (dispatch : Uid → Except Failure Unit) (rules : JobRules) (stamp : Stamp) (owner : Uid)
    (r : JobRequest) (fresh : s.Fresh stamp.uid) (distinct : (s.providers.map (·.uid)).Nodup)
    (keyed : ∀ e ∈ s.configs, e.2.uid = e.1) :
    (∀ detail, (s.create preset dispatch rules stamp owner r).result = .ok detail →
      (s.create preset dispatch rules stamp owner r).state.store.job? detail.job.uid = some detail ∧
        detail.formats =
          ((Slug.normalize r.formats).filterMap fun slug => s.formats.find? (·.slug == slug)) ∧
        detail.providers =
          ((Slug.normalize r.providers).filter fun slug => s.providers.any (·.slug == slug)) ∧
        detail.configs.map some = (Job.referredConfigs r).eraseDups.map s.configs.get?) ∧
      (Unhindered s preset rules r → dispatch stamp.uid = .ok () →
        ∃ detail, (s.create preset dispatch rules stamp owner r).result = .ok detail) := by
  refine ⟨fun detail hdetail => ?_, fun h hdispatch => h.created hdispatch owner⟩
  rcases create_nothing_or_all s preset dispatch rules stamp owner r fresh with
    ⟨⟨e, hresult, -⟩, -, -⟩ | ⟨reads, o, hreads, hgives, hall⟩
  · rw [hdetail] at hresult
    cases hresult
  obtain ⟨hkept, hformats, hproviders, hconfigs⟩ := kept_of_resolve distinct keyed hreads hgives
  rcases hall.result with ⟨-, hresult⟩ | ⟨e, -, hresult⟩
  · rw [hdetail] at hresult
    cases hresult
    refine ⟨?_, hformats, ?_, hconfigs⟩
    · rw [hall.store]
      exact Order.job?_of_kept (uid_of_resolve hreads ▸ fresh) hkept
    · rw [← map_slug_providersBySlugs, ← hproviders]
      rfl
  · rw [hdetail] at hresult
    cases hresult

theorem trial_reads_back :
    let s := Store.trial []
    s.Fresh ⟨1⟩ ∧ (s.providers.map (·.uid)).Nodup ∧ (∀ e ∈ s.configs, e.2.uid = e.1) ∧
      let c := s.create (fun _ => .ok [("harbour", [.polygon])]) (fun _ => .ok ())
        (.trial .reject) (.trial ⟨1⟩) ⟨2⟩ .trial
      ∃ detail, c.result = .ok detail ∧
        c.state.store.job? detail.job.uid = some detail ∧
          detail.formats = ((Slug.normalize JobRequest.trial.formats).filterMap fun slug =>
            s.formats.find? (·.slug == slug)) ∧
          detail.providers = ((Slug.normalize JobRequest.trial.providers).filter fun slug =>
            s.providers.any (·.slug == slug)) ∧
          detail.configs.map some =
            (Job.referredConfigs .trial).eraseDups.map s.configs.get? := by
  have fresh : (Store.trial []).Fresh ⟨1⟩ := by decide
  have distinct : ((Store.trial []).providers.map (·.uid)).Nodup := by decide
  have keyed : ∀ e ∈ (Store.trial []).configs, e.2.uid = e.1 := by decide
  obtain ⟨hback, hcreated⟩ := create_reads_back (.trial [])
    (fun _ => .ok [("harbour", [.polygon])]) (fun _ => .ok ()) (.trial .reject) (.trial ⟨1⟩)
    ⟨2⟩ .trial fresh distinct keyed
  obtain ⟨detail, hdetail⟩ := hcreated .trial rfl
  exact ⟨fresh, distinct, keyed, detail, hdetail, hback detail hdetail⟩

end MapExport
