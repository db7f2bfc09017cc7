import MapExport.Proofs.Store.Sessions

/-!
# What a request comes to in a store

When the look-ups for a request are answered by a store, the order that they lead to can be told from the
store: `Store.found` says what is found, and `Job.tagsOf` which tags the preset gives.
-/

set_option autoImplicit false

namespace MapExport

open Workflow (Answers Trace trace_pure_iff trace_bind_iff)

/-! ## What is found -/

/-- **The configurations of identifiers,** each once, after those that are known; what is not found is left
out. -/
def Job.configsOf (find : Uid → Option Config) : List Config → List Uid → List Config
  | known, [] => known
  | known, uid :: rest =>
    configsOf find (if known.any (·.uid == uid) then known else known ++ (find uid).toList) rest

/-- **The table of tags,** where `read` tells what becomes of reading a preset. -/
def Job.tagsOf (rules : JobRules) (read : String → Except Failure TagTable) :
    Option Config → Except Failure TagTable
  | none => .ok Preset.defaultTable
  | some preset => tableOf rules preset (read (Upload.join rules.root preset.upload))

/-- **What is found** in a store for a request. -/
def Store.found (s : Store) (r : JobRequest) : Job.Found where
  formats := s.formatsBySlugs (Slug.normalize r.formats)
  providers := s.providersBySlugs (Slug.normalize r.providers)
  configs := Job.configsOf s.configs.get? [] (Job.referredConfigs r)

variable {preset : String → Except Failure TagTable} {dispatch : Uid → Except Failure Unit}

variable {rules : JobRules} {stamp : Stamp} {owner : Uid} {r : JobRequest}

/-! ## Answers to look-ups -/

/-- Whether an answer is the one that the store gives in a session. -/
def Session.Gives (preset : String → Except Failure TagTable) (dispatch : Uid → Except Failure Unit)
    (s : Session) (e : JobEvent) : Prop :=
  e.reply = (s.collaborate preset dispatch e.call).1

/-- All look-ups are answered in the same session. -/
theorem Session.gives_lookUps {s s' : Session} {log : List JobEvent}
    (h : Answers (Session.collaborate preset dispatch) s log s')
    (hlookUp : ∀ e ∈ log, e.call.isLookUp = true) : ∀ e ∈ log, s.Gives preset dispatch e := by
  induction log with
  | nil => simp
  | cons e log ih =>
    -- A look-up leaves the session as it is, so the rest is answered in the same one.
    obtain ⟨hreply, hlog⟩ := h
    have hfirst : e.call.isLookUp = true := hlookUp e List.mem_cons_self
    rw [collaborate_snd, after_eq_self _ _ (JobCall.not_isStaging hfirst)
      (JobCall.ne_commit (.inl hfirst))] at hlog
    intro e' he'
    rcases List.mem_cons.mp he' with rfl | he'
    · exact hreply.symm
    · exact ih hlog (fun e he => hlookUp e (List.mem_cons_of_mem _ he)) e' he'

/-- A configuration that is given is one that the store has. -/
theorem Session.gives_config {s : Session} {uid : Uid} {c : Config}
    (h : s.Gives preset dispatch ⟨.config uid, .ok c⟩) : s.store.configs.get? uid = some c := by
  have hconfig : Except.ok c = s.store.config uid := h
  rw [Store.config] at hconfig
  split at hconfig
  · cases hconfig
    assumption
  · cases hconfig

/-- A configuration that is found has the identifier that it was asked for by. -/
theorem uid_of_get? {configs : Table Config} {uid : Uid} {c : Config}
    (keyed : ∀ e ∈ configs, e.2.uid = e.1) (h : configs.get? uid = some c) : c.uid = uid := by
  obtain ⟨e, hfind, rfl⟩ := Option.map_eq_some_iff.mp h
  have hkey : e.1 = uid := by simpa using List.find?_some hfind
  rw [keyed e (List.mem_of_find?_eq_some hfind), hkey]

/-- A store that cannot answer says nothing of a job that exists. -/
theorem Session.gives_error {s : Session} {c : JobCall} {e : Failure} (hreads : c.readsStore = true)
    (h : s.Gives preset dispatch ⟨c, .error e⟩) : e.isDispatch = false := by
  cases c with
  | formatsBySlugs _ | providersBySlugs _ => cases h
  | config uid =>
    have hconfig : Except.error e = s.store.config uid := h
    rw [Store.config] at hconfig
    split at hconfig <;> cases hconfig
    rfl
  | _ => cases hreads

/-! ## The order of a request -/

theorem trace_loadConfigs_given {s : Session} {known : List Config} {uids : List Uid}
    {log : List JobEvent} {configs : List Config} (h : Trace (Job.loadConfigs known uids) log (.ok configs))
    (hgives : ∀ e ∈ log, s.Gives preset dispatch e) :
    configs = Job.configsOf s.store.configs.get? known uids := by
  induction uids generalizing known log with
  | nil =>
    obtain ⟨-, hknown⟩ := trace_pure_iff.mp h
    cases hknown
    rfl
  | cons uid uids ih =>
    rw [Job.configsOf]
    rcases trace_loadConfigs_cons_ok h with ⟨hknown, hrest⟩ | ⟨hnew, config, rest, rfl, hrest⟩
    · rw [if_pos (by simpa using hknown)]
      exact ih hrest hgives
    · have hfound : s.store.configs.get? uid = some config :=
        Session.gives_config (hgives _ List.mem_cons_self)
      rw [if_neg (by simpa using hnew), hfound]
      exact ih hrest fun e he => hgives e (List.mem_cons_of_mem _ he)

theorem trace_gather_given {s : Session} {project : Position → Float × Float} {r : JobRequest} {log : List JobEvent}
    {found : Job.Found} (h : Trace (Job.gather project r) log (.ok found)) (hgives : ∀ e ∈ log, s.Gives preset dispatch e) :
    found = s.store.found r := by
  obtain ⟨providersLog, configsLog, rfl, hproviders, hconfigs⟩ := trace_gather_ok h
  have hformats : found.formats = s.store.formatsBySlugs (Slug.normalize r.formats) :=
    Except.ok.inj (hgives _ List.mem_cons_self)
  have hlinked : found.providers = s.store.providersBySlugs (Slug.normalize r.providers) := by
    rcases trace_resolveProviders_ok hproviders with ⟨hnone, -, hproviders⟩ | ⟨-, rfl⟩
    · rw [hnone, hproviders]
      rfl
    · exact Except.ok.inj (hgives _ (List.mem_cons_of_mem _ List.mem_cons_self))
  have hloaded : found.configs = Job.configsOf s.store.configs.get? [] (Job.referredConfigs r) :=
    trace_loadConfigs_given hconfigs fun e he =>
      hgives e (List.mem_cons_of_mem _ (List.mem_append_right _ he))
  rw [Store.found, ← hformats, ← hlinked, ← hloaded]

/-- What becomes of the tags is told by what becomes of reading the preset. -/
theorem trace_resolveTags_given {s : Session} {rules : JobRules} {config : Option Config}
    {log : List JobEvent} {result : Except Failure TagTable}
    (h : Trace (Job.resolveTags rules config) log result)
    (hgives : ∀ e ∈ log, s.Gives preset dispatch e) : result = Job.tagsOf rules preset config := by
  cases config with
  | none => exact (trace_pure_iff.mp h).2
  | some c =>
    rw [Job.resolveTags_some] at h
    rcases trace_bind_iff.mp h with ⟨e, rfl, hfail⟩ | ⟨first, second, reply, rfl, hread, hgiven⟩
    · obtain ⟨_, -, hreply⟩ := trace_tryPreset_iff.mp hfail
      cases hreply
    · obtain ⟨answer, rfl, hanswer⟩ := trace_tryPreset_iff.mp hread
      obtain rfl := Except.ok.inj hanswer
      have hreply : reply = preset (Upload.join rules.root c.upload) := hgives _ List.mem_cons_self
      rw [(trace_ofExcept_iff.mp hgiven).2, hreply]
      rfl

/-- **The order of a request** is made of what is found in the store, and of the tags that the preset
gives. -/
theorem trace_resolve_given {s : Session} {log : List JobEvent} {o : Order}
    (h : Trace (Job.resolve rules stamp owner r) log (.ok o))
    (hgives : ∀ e ∈ log, s.Gives preset dispatch e) :
    ∃ table, Job.tagsOf rules preset ((s.store.found r).configs.find? (·.kind == .preset)) = .ok table ∧
      o = (s.store.found r).order stamp owner r table := by
  obtain ⟨looked, read, found, table, rfl, hgather, htags, rfl⟩ := trace_resolve_ok h
  obtain rfl := trace_gather_given hgather fun e he => hgives e (List.mem_append_left _ he)
  have hread := trace_resolveTags_given htags fun e he => hgives e (List.mem_append_right _ he)
  exact ⟨table, hread.symm, rfl⟩

end MapExport
