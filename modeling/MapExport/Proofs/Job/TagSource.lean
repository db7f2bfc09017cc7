import MapExport.Proofs.Job.Success

/-!
# Where the tags of a job come from

A request refers to up to three configurations: a preset, a translation and a transform. Which of them gives the tags
is not a matter of the place in which the request names it. It is the first of them that the store has as a preset, and
without one the tags are the default ones, whatever the request names as its preset (`tags_come_from_the_first_preset`).
So the preset that a client names gives the tags if the store has it as one, and else a configuration may give them that
the client named as something else.
-/

set_option autoImplicit false

namespace MapExport

open Workflow (Trace)

variable {root : String} {project : Position → Float × Float} {rules : JobRules} {stamp : Stamp} {owner : Uid} {r : JobRequest}

/-- **Tags of a configuration:** those in the table that was read from its upload. -/
def TagsOf (root : String) (stamp : Stamp) (log : List JobEvent) (tags : List Tag) (c : Config) : Prop :=
  ∃ table, ⟨.preset (Upload.join root c.upload), .ok table⟩ ∈ log ∧ table ≠ [] ∧
    tags = Tag.ofTable stamp.tagIds stamp.uid table

/-- **The tags of a job that was created,** where a preset that cannot be read is not put up with. -/
structure TaggedByKind (root : String) (stamp : Stamp) (r : JobRequest) (log : List JobEvent) (detail : JobDetail) :
    Prop where
  /-- The configurations of the job are those that were given, in their order. -/
  configs : detail.configs = log.filterMap JobEvent.config?
  /-- The one that the request names as its preset is the first. -/
  named : ∀ uid, r.preset = some uid → ∃ c rest, detail.configs = c :: rest ∧ ⟨.config uid, .ok c⟩ ∈ log
  /-- The first that is a preset gives the tags. -/
  read : ∀ c, detail.configs.find? (·.kind == .preset) = some c → TagsOf root stamp log detail.tags c
  /-- Without one the tags are the default ones. -/
  default : (∀ c ∈ detail.configs, c.kind ≠ .preset) →
    detail.tags = Tag.ofTable stamp.tagIds stamp.uid Preset.defaultTable

/-! ## From the calls -/

/-- Only look-ups give configurations. -/
theorem filterMap_config?_eq_nil {log : List JobEvent} (h : ∀ e ∈ log, e.call.isStaging = true) :
    log.filterMap JobEvent.config? = [] := by
  refine List.filterMap_eq_nil_iff.mpr fun e he => ?_
  obtain ⟨c, reply⟩ := e
  cases c with
  | config uid => exact absurd (h _ he) Bool.false_ne_true
  | _ => rfl

/-- A table that is put up with was read, and it is not empty. -/
theorem tableOf_reject {preset : Config} {reply : Except Failure TagTable} {table : TagTable}
    (h : Job.tableOf ⟨⟨root, .reject⟩, project⟩ preset reply = .ok table) : reply = .ok table ∧ table ≠ [] := by
  cases reply with
  | error e => cases h
  | ok read =>
    rw [Job.tableOf] at h
    split at h
    · cases h
    · next hsome =>
      obtain rfl := Except.ok.inj h
      exact ⟨rfl, fun hnil => hsome (List.isEmpty_iff.mpr hnil)⟩

/-- The configuration that a request names as its preset is loaded first. -/
theorem trace_gather_preset {uid : Uid} {looked : List JobEvent} {found : Job.Found}
    (h : Trace (Job.gather project r) looked (.ok found)) (hpreset : r.preset = some uid) :
    ∃ c rest, found.configs = c :: rest ∧ ⟨.config uid, .ok c⟩ ∈ looked := by
  obtain ⟨providersLog, configsLog, rfl, -, hload⟩ := trace_gather_ok h
  rw [Job.referredConfigs, hpreset, Option.toList_some, List.append_assoc, List.singleton_append] at hload
  rcases trace_loadConfigs_cons_ok hload with ⟨hknown, -⟩ | ⟨-, c, restLog, rfl, hrest⟩
  · exact absurd hknown List.not_mem_nil
  · refine ⟨c, restLog.filterMap JobEvent.config?, trace_loadConfigs_ok hrest, ?_⟩
    exact List.mem_cons_of_mem _ (List.mem_append_right _ List.mem_cons_self)

/-- **A creation that ends well** has resolved the request and had all its calls granted. -/
theorem trace_create_ok {log : List JobEvent} {detail : JobDetail}
    (h : Trace (Job.create rules stamp owner r) log (.ok detail)) :
    ∃ reads o writes, log = reads ++ writes ∧ Trace (Job.resolve rules stamp owner r) reads (.ok o) ∧
      detail = o.detail ∧ writes.filterMap JobEvent.config? = [] := by
  rcases trace_create h with ⟨e, hresult, -⟩ | ⟨reads, o, granted, hreads, hgranted, hend⟩
  · cases hresult
  rcases hend with ⟨e, -, hresult⟩ | ⟨reply, hlog, hresult⟩
  · cases hresult
  cases reply with
  | error e => cases hresult
  | ok _ =>
    refine ⟨reads, o, _, by rw [hlog, List.append_assoc], hreads, Except.ok.inj hresult, ?_⟩
    rw [List.filterMap_append, filterMap_config?_eq_nil hgranted.isStaging]
    rfl

/-- **The tags of every job** that is created, whoever the collaborators are. -/
theorem taggedByKind_of_create {log : List JobEvent} {detail : JobDetail}
    (h : Trace (Job.create ⟨⟨root, .reject⟩, project⟩ stamp owner r) log (.ok detail)) :
    TaggedByKind root stamp r log detail := by
  obtain ⟨reads, o, writes, rfl, hreads, rfl, hwrites⟩ := trace_create_ok h
  obtain ⟨looked, read, found, table, rfl, hgather, htags, rfl⟩ := trace_resolve_ok hreads
  have hread : read.filterMap JobEvent.config? = [] := by
    rcases trace_resolveTags htags with rfl | ⟨path, reply, rfl⟩ <;> rfl
  have htabled := trace_resolveTags_ok htags
  constructor
  -- Neither the reading of a preset nor what comes after it gives a configuration.
  · rw [List.filterMap_append, List.filterMap_append, hread, hwrites, List.append_nil, List.append_nil]
    exact configs_of_gather hgather
  · intro uid hpreset
    obtain ⟨c, rest, hconfigs, hmem⟩ := trace_gather_preset hgather hpreset
    exact ⟨c, rest, hconfigs, List.mem_append_left _ (List.mem_append_left _ hmem)⟩
  -- The reader is asked for the first that is a preset, and for nothing if there is none.
  · intro c hfirst
    have hfound : found.configs.find? (·.kind == .preset) = some c := hfirst
    rw [hfound] at htabled
    obtain ⟨reply, rfl, hreply⟩ := htabled
    obtain ⟨rfl, hsome⟩ := tableOf_reject hreply
    refine ⟨table, List.mem_append_left _ (List.mem_append_right _ (List.mem_singleton_self _)), hsome, rfl⟩
  · intro hnone
    have hfound : found.configs.find? (·.kind == .preset) = none :=
      List.find?_eq_none.mpr fun c hc => by simpa using hnone c hc
    rw [hfound] at htabled
    obtain ⟨-, rfl⟩ := htabled
    rfl

/-- **The tags of a job come from the first of its configurations that is a preset.** Whoever the collaborators are and
whatever they answer, where a preset that cannot be read is not put up with, the creation of a job fails or gives it
the tags of this configuration, and the default ones only if there is none. What the request names as its preset is the
first of the configurations; so it gives the tags if it is a preset. -/
theorem tags_come_from_the_first_preset {σ : Type} (answer : σ → (c : JobCall) → c.Reply × σ) (start : σ)
    (root : String) (project : Position → Float × Float) (stamp : Stamp) (owner : Uid) (r : JobRequest) :
    let created := (Job.create ⟨⟨root, .reject⟩, project⟩ stamp owner r).run.play answer start
    (∃ e, created.result = .error e) ∨ ∃ detail, created.result = .ok detail ∧
      TaggedByKind root stamp r created.log detail ∧
      ∀ uid, r.preset = some uid → ∃ c, ⟨.config uid, .ok c⟩ ∈ created.log ∧
        (c.kind = .preset → TagsOf root stamp created.log detail.tags c) := by
  intro created
  have htrace : Trace (Job.create ⟨⟨root, .reject⟩, project⟩ stamp owner r) created.log created.result :=
    (Workflow.course_play answer start _).1
  cases hresult : created.result with
  | error e => exact .inl ⟨e, rfl⟩
  | ok detail =>
    rw [hresult] at htrace
    have htagged := taggedByKind_of_create htrace
    refine .inr ⟨detail, rfl, htagged, fun uid hpreset => ?_⟩
    obtain ⟨c, rest, hconfigs, hmem⟩ := htagged.named uid hpreset
    refine ⟨c, hmem, fun hkind => htagged.read c ?_⟩
    rw [hconfigs, List.find?_cons_of_pos (by simpa using hkind)]

/-- **In a store** the tags of a job can be told beforehand. -/
theorem Unhindered.tagged {s : Store} {preset : String → Except Failure TagTable}
    {dispatch : Uid → Except Failure Unit} {table : TagTable} (h : Unhindered s preset rules r)
    (fresh : s.Fresh stamp.uid) (hdispatch : dispatch stamp.uid = .ok ())
    (htable : Job.tagsOf rules preset ((s.found r).configs.find? (·.kind == .preset)) = .ok table) :
    ∃ detail, (s.create preset dispatch rules stamp owner r).result = .ok detail ∧
      detail.tags = Tag.ofTable stamp.tagIds stamp.uid table := by
  rcases create_nothing_or_all s preset dispatch rules stamp owner r fresh with
    hnothing | ⟨reads, o, hreads, hgives, hall⟩
  · exact absurd hnothing (h.not_nothing dispatch stamp owner)
  obtain ⟨given, hgiven, rfl⟩ := trace_resolve_given hreads hgives
  obtain rfl := Except.ok.inj (htable.symm.trans hgiven)
  rcases hall.result with ⟨-, hresult⟩ | ⟨e, hrefused, -⟩
  · exact ⟨_, hresult, rfl⟩
  · have hrefused : dispatch stamp.uid = .error e := hrefused
    rw [hdispatch] at hrefused
    cases hrefused

/-- **A configuration that is no preset** is named as one, and the job gets the default tags, although the file could be
read; a preset is named as a translation, and its tags are those of the job. -/
theorem preset_named_as_translation :
    let s := Store.trial []
    let table : TagTable := [("harbour", [.polygon])]
    let named : JobRequest := { JobRequest.trial with preset := some ⟨8⟩, translation := none, transform := none }
    let unnamed : JobRequest := { JobRequest.trial with preset := none, translation := some ⟨7⟩, transform := none }
    let create := s.create (fun _ => .ok table) (fun _ => .ok ()) (.trial .reject) (.trial ⟨1⟩) ⟨2⟩
    let tags := Tag.ofTable (Stamp.trial ⟨1⟩).tagIds ⟨1⟩
    tags table ≠ tags Preset.defaultTable ∧
      (∃ detail, (create named).result = .ok detail ∧ detail.tags = tags Preset.defaultTable) ∧
      ∃ detail, (create unnamed).result = .ok detail ∧ detail.tags = tags table := by
  intro s table named unnamed create tags
  have fresh : s.Fresh ⟨1⟩ := by decide
  -- The check does not look at the configurations.
  have check := JobRequest.checkOn_trial .reject
  refine ⟨by decide, ?_, ?_⟩
  · have hunhindered : Unhindered s (fun _ => .ok table) (.trial .reject) named :=
      ⟨check, by decide, by decide, by decide, ⟨Preset.defaultTable, rfl⟩, rfl⟩
    exact hunhindered.tagged fresh rfl rfl
  · have hunhindered : Unhindered s (fun _ => .ok table) (.trial .reject) unnamed :=
      ⟨check, by decide, by decide, by decide, ⟨table, rfl⟩, rfl⟩
    exact hunhindered.tagged fresh rfl rfl

end MapExport
