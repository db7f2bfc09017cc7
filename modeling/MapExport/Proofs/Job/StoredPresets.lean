import MapExport.Proofs.Database.TagRows
import MapExport.Proofs.Job.CallOrder
import MapExport.Proofs.Job.PresetText

/-!
# Presets that are read and cannot be kept

A preset is read if each of its entries has a name and a kind; how long a name is, and whether it can be kept as a text,
is not asked then. The table of tags asks it. A job whose preset was read gets its tags and no others, so a name that
the table does not take ends the transaction of the job, whatever is to become of a preset that cannot be used
(`accepted_presets_need_not_fit`).
-/

set_option autoImplicit false

namespace MapExport

open Json (Ordered)
open Workflow (CallsOnly Trace callsOnly_call callsOnly_done callsOnly_pure trace_bind_iff)

variable {rules : JobRules} {stamp : Stamp} {owner : Uid} {r : JobRequest} {looked read log : List JobEvent}
  {path : String} {table : TagTable}

/-! ## When a preset is read -/

/-- **A workflow that only reads the store.** -/
abbrev OnlyReadsStore {α : Type} (x : JobFlow α) : Prop := CallsOnly (fun c => c.readsStore = true) x

theorem onlyReadsStore_ask {c : JobCall} (h : c.readsStore = true) : OnlyReadsStore (JobFlow.ask c) := callsOnly_call h

theorem onlyReadsStore_resolveFormats (requested : List String) : OnlyReadsStore (Job.resolveFormats requested) := by
  refine (onlyReadsStore_ask rfl).bind fun formats => ?_
  split
  · exact callsOnly_done _ (.error _)
  · exact callsOnly_pure _ _

theorem onlyReadsStore_resolveProviders (requested : List String) :
    OnlyReadsStore (Job.resolveProviders requested) := by
  cases requested with
  | nil => exact callsOnly_pure _ _
  | cons slug slugs => exact onlyReadsStore_ask rfl

theorem onlyReadsStore_loadConfigs (loaded : List Config) (uids : List Uid) :
    OnlyReadsStore (Job.loadConfigs loaded uids) := by
  induction uids generalizing loaded with
  | nil => exact callsOnly_pure _ loaded
  | cons uid uids ih =>
    rw [Job.loadConfigs]
    split
    · exact ih loaded
    · exact (onlyReadsStore_ask rfl).bind fun config => ih _

theorem onlyReadsStore_gather (project : Position → Float × Float) (r : JobRequest) :
    OnlyReadsStore (Job.gather project r) :=
  (callsOnly_done _ (r.checkOn project)).bind fun _ => (onlyReadsStore_resolveFormats _).bind fun _ =>
    (onlyReadsStore_resolveProviders _).bind fun _ => (onlyReadsStore_loadConfigs _ _).bind fun _ =>
      callsOnly_pure _ _

/-- So a preset that was read was read after everything else was looked up. -/
theorem mem_read_of_gather {result : Except Failure Job.Found} (h : Trace (Job.gather rules.project r) looked result)
    (hmem : ⟨.preset path, .ok table⟩ ∈ looked ++ read) : ⟨.preset path, .ok table⟩ ∈ read := by
  refine (List.mem_append.mp hmem).resolve_left fun hlooked => ?_
  cases onlyReadsStore_gather _ r _ _ h _ hlooked

/-! ## The tags of a preset that was read -/

/-- What was read is the table, unless it is empty. -/
theorem tableOf_of_ne_nil {preset : Config} (hsome : table ≠ []) : Job.tableOf rules preset (.ok table) = .ok table :=
  if_neg fun hempty => hsome (List.isEmpty_iff.mp hempty)

theorem TabledBy.read_or_default {preset : Option Config} (h : TabledBy rules preset read table) :
    table = Preset.defaultTable ∨ ∃ path, ⟨.preset path, .ok table⟩ ∈ read := by
  cases preset with
  | none => exact .inl h.2
  | some c =>
    obtain ⟨reply, rfl, hgiven⟩ := h
    refine (read_of_tableOf hgiven).imp_right ?_
    rintro ⟨rfl, -⟩
    exact ⟨_, List.mem_singleton_self _⟩

theorem TabledBy.eq_of_read {preset : Option Config} {given : TagTable} (h : TabledBy rules preset read given)
    (hmem : ⟨.preset path, .ok table⟩ ∈ read) (hsome : table ≠ []) : given = table := by
  cases preset with
  | none =>
    rw [h.1] at hmem
    cases hmem
  | some c =>
    obtain ⟨reply, rfl, hgiven⟩ := h
    cases List.mem_singleton.mp hmem
    exact Except.ok.inj (hgiven.symm.trans (tableOf_of_ne_nil hsome))

/-- **A preset that was read, and is not empty,** does not keep the request from being resolved. -/
theorem not_error_of_read {e : Failure} (h : Trace (Job.resolve rules stamp owner r) log (.error e))
    (hmem : ⟨.preset path, .ok table⟩ ∈ log) (hsome : table ≠ []) : False := by
  rcases trace_resolve_error h with hgather | ⟨looked, read, found, rfl, hgather, htags⟩
  · rw [← List.append_nil log] at hmem
    exact List.not_mem_nil (mem_read_of_gather hgather hmem)
  · obtain ⟨c, reply, -, rfl, hfail⟩ := trace_resolveTags_error htags
    cases List.mem_singleton.mp (mem_read_of_gather hgather hmem)
    cases hfail.symm.trans (tableOf_of_ne_nil hsome)

/-- The tags of such a preset are those of the order. -/
theorem tags_of_read {o : Order} (h : Trace (Job.resolve rules stamp owner r) log (.ok o))
    (hmem : ⟨.preset path, .ok table⟩ ∈ log) (hsome : table ≠ []) :
    o.tags = Tag.ofTable stamp.tagIds stamp.uid table := by
  obtain ⟨looked, read, found, given, rfl, hgather, htags, rfl⟩ := trace_resolve_ok h
  obtain rfl : given = table := (trace_resolveTags_ok htags).eq_of_read (mem_read_of_gather hgather hmem) hsome
  rfl

/-! ## The tags that are written -/

/-- Placing an order writes the tags of the order. -/
theorem tag_of_place {o : Order} {result : Except Failure JobDetail} {tag : Tag} {reply : Except Failure Unit}
    (h : Trace o.place log result) (hmem : ⟨.insertTag tag, reply⟩ ∈ log) : tag ∈ o.tags := by
  have hcall : JobCall.insertTag tag ∈ o.transaction := by
    rcases trace_place h with ⟨e, -, hrefused⟩ | ⟨granted, answer, rfl, hgranted, -⟩
    · exact hrefused.call_mem hmem
    · rcases List.mem_append.mp hmem with hmem | hmem
      · exact hgranted.call_mem hmem
      · cases List.mem_singleton.mp hmem
  simpa [Order.transaction, Order.writes, Order.linkCall] using hcall

/-- **Every tag that is written** is one of a preset that was read, or a default one. -/
theorem tag_of_create {result : Except Failure JobDetail} {tag : Tag} {reply : Except Failure Unit}
    (h : Trace (Job.create rules stamp owner r) log result) (hmem : ⟨.insertTag tag, reply⟩ ∈ log) :
    ∃ table, tag ∈ Tag.ofTable stamp.tagIds stamp.uid table ∧
      (table = Preset.defaultTable ∨ ∃ path, ⟨.preset path, .ok table⟩ ∈ log) := by
  have hreads := onlyLooksUp_resolve rules stamp owner r
  rw [Job.create_eq_resolve_bind_place] at h
  rcases trace_bind_iff.mp h with ⟨e, rfl, hfail⟩ | ⟨reads, writes, o, rfl, hresolve, hplace⟩
  · cases hreads.calls _ _ hfail _ hmem
  have hwrites : ⟨.insertTag tag, reply⟩ ∈ writes := by
    refine (List.mem_append.mp hmem).resolve_left fun hlooked => ?_
    cases hreads.calls _ _ hresolve _ hlooked
  have htag : tag ∈ o.tags := tag_of_place hplace hwrites
  obtain ⟨looked, read, found, table, rfl, hgather, htags, rfl⟩ := trace_resolve_ok hresolve
  refine ⟨table, htag, (trace_resolveTags_ok htags).read_or_default.imp_right ?_⟩
  rintro ⟨path, hread⟩
  exact ⟨path, List.mem_append_left _ (List.mem_append_right _ hread)⟩

/-- **Of a preset that was read no tag is left out:** if one of them is not written, the job is not created, and neither
the commit nor the handing over comes. -/
theorem trace_create_of_unwritten {result : Except Failure JobDetail} {tag : Tag}
    (h : Trace (Job.create rules stamp owner r) log result) (hmem : ⟨.preset path, .ok table⟩ ∈ log)
    (htag : tag ∈ Tag.ofTable stamp.tagIds stamp.uid table)
    (hunwritten : (⟨.insertTag tag, .ok ()⟩ : JobEvent) ∉ log) :
    ∃ e, result = .error (Job.creationFailure e) ∧
      ∀ event ∈ log, event.call ≠ .commit ∧ ∀ job, event.call ≠ .dispatch job := by
  have hsome : table ≠ [] := by
    rintro rfl
    exact List.not_mem_nil htag
  rcases trace_create h with ⟨e, rfl, hearly, hreason⟩ | ⟨reads, o, granted, hreads, hgranted, hend⟩
  · rcases hreason with hunresolved | ⟨e, rfl⟩
    · exact (not_error_of_read hunresolved hmem hsome).elim
    · exact ⟨e, rfl, fun event hevent =>
        ⟨JobCall.ne_commit (hearly event hevent), JobCall.ne_dispatch (hearly event hevent)⟩⟩
  -- If all that the order stages was granted, the tag was written.
  refine absurd ?_ hunwritten
  obtain ⟨rest, hlog, hrest⟩ : ∃ rest, log = reads ++ granted ++ rest ∧ ∀ e ∈ rest, e.call.isLookUp = false := by
    rcases hend with ⟨e, hlog, -⟩ | ⟨reply, hlog, -⟩
    · exact ⟨_, hlog, by simp [JobCall.isLookUp, JobCall.readsStore]⟩
    · exact ⟨_, hlog, by simp [JobCall.isLookUp, JobCall.readsStore]⟩
  have hread : ⟨.preset path, .ok table⟩ ∈ reads := by
    rw [hlog, List.append_assoc, List.mem_append, List.mem_append] at hmem
    refine hmem.resolve_right fun hlater => ?_
    rcases hlater with hlater | hlater
    · cases hgranted.isStaging _ hlater
    · cases hrest _ hlater
  have hstaged : JobCall.insertTag tag ∈ o.staging := by
    rw [← tags_of_read hreads hread hsome] at htag
    simp [Order.staging, Order.writes, htag]
  obtain ⟨a, hgrant⟩ := hgranted.mem hstaged
  rw [hlog]
  exact List.mem_append_left _ (List.mem_append_right _ hgrant)

/-! ## With a database -/

section

open Database

variable {σ : Type} {send : σ → (c : Command) → Database.Reply c × σ} {files : String → Except Failure (List UInt8)}
  {dispatch : σ → Uid → Except Failure Unit × σ} {reason : Row → String} {s : σ}

/-- The default names fit. -/
theorem Preset.fits_of_mem_defaultTable : ∀ entry ∈ Preset.defaultTable, Fits entry.1 := by
  have hall : (Preset.defaultTable.all fun entry => isText entry.1 && LengthRule.whole 100 entry.1) = true := by
    decide +kernel
  exact fun entry hentry => fits_iff.mpr (List.all_eq_true.mp hall entry hentry)

/-- **The rows of a table of tags** can be kept as they are if and only if its names fit. -/
theorem forall_admits_ofTable_iff {ids : Nat → Uid} {job : Uid} :
    (∀ tag ∈ Tag.ofTable ids job table, tags.admits .whole (tagRow tag) = true) ↔ ∀ entry ∈ table, Fits entry.1 := by
  have hrow (tag : Tag) : tags.admits .whole (tagRow tag) = true ↔ Fits tag.name := by
    rw [admits_tagRow, fits_iff]
  simp only [hrow]
  exact Tag.forall_mem_ofTable_iff

/-- **With presets whose names are all taken** the limits of the database change nothing. -/
theorem createOver_limited
    (h : ∀ path (table : TagTable), ⟨.preset path, .ok table⟩ ∈
      (createOver send (Preset.fromFiles files) dispatch rules stamp owner r s).log → ∀ entry ∈ table, Taken entry.1) :
    createOver (limited reason send) (Preset.fromFiles files) dispatch rules stamp owner r s =
      createOver send (Preset.fromFiles files) dispatch rules stamp owner r s := by
  refine Workflow.play_congr (P := fun c => ∀ tag, c = .insertTag tag → Taken tag.name)
    (fun s c hc => answerCreation_limited s c hc) ?_
  rintro ⟨c, reply⟩ hevent tag rfl
  obtain ⟨table, htag, hsource⟩ := tag_of_create (Workflow.course_play _ _ _).1 hevent
  refine Tag.forall_mem_ofTable_iff.mpr ?_ tag htag
  rcases hsource with rfl | ⟨path, hread⟩
  · exact fun entry hentry => (Preset.fits_of_mem_defaultTable entry hentry).taken
  · exact h path table hread

/-- **A preset that was read with a name that is not taken** is what its file holds, and it ends the transaction. -/
theorem createOver_limited_of_not_taken {entry : String × List FeatureKind}
    (hmem : ⟨.preset path, .ok table⟩ ∈
      (createOver (limited reason send) (Preset.fromFiles files) dispatch rules stamp owner r s).log)
    (hentry : entry ∈ table) (hfull : ¬ Taken entry.1) :
    Preset.fromFiles files path = .ok table ∧ ∃ e,
      (createOver (limited reason send) (Preset.fromFiles files) dispatch rules stamp owner r s).result =
        .error (Job.creationFailure e) ∧
      ∀ event ∈ (createOver (limited reason send) (Preset.fromFiles files) dispatch rules stamp owner r s).log,
        event.call ≠ .commit ∧ ∀ job, event.call ≠ .dispatch job := by
  obtain ⟨hcourse, hanswers⟩ := Workflow.course_play (answerCreation (limited reason send) (Preset.fromFiles files)
    dispatch) s (Job.create rules stamp owner r).run
  obtain ⟨tag, htag, hname⟩ : ∃ tag ∈ Tag.ofTable stamp.tagIds stamp.uid table, ¬ Taken tag.name := by
    by_contra hall
    push Not at hall
    exact hfull (Tag.forall_mem_ofTable_iff.mp hall entry hentry)
  constructor
  · obtain ⟨t, hreply⟩ := hanswers.exists_state _ hmem
    exact hreply.symm
  · refine trace_create_of_unwritten hcourse hmem htag fun hwritten => ?_
    obtain ⟨t, hreply⟩ := hanswers.exists_state _ hwritten
    cases hreply.trans (refused_of_not_taken hname t)

end

/-! ### A database for trials -/

/-- **A database for trials.** It has one format, and a preset for every identifier, and writes down what it is told. -/
def Database.trial (given : List Statement) (c : Command) : Database.Reply c × List Statement :=
  let rows : List Row :=
    match c.statement, c.params with
    | .formatsBySlugs, _ => [[.text "shp", .text "Shapefile", .text ""]]
    | .config, [.uid uid] => [[.uid uid, .text "harbours", .text "PRESET", .text "presets/harbours.json", .bool true,
        .instant .epoch]]
    | _, _ => []
  (.ok ⟨rows, 1⟩, given ++ [c.statement])

/-- A file with a preset of one name. -/
def Preset.trialFile (name : String) : List UInt8 := ("\x7b\"" ++ name ++ "\": [\"polygon\"]\x7d").toUTF8.toList

/-- A preset that was read, with the path of its file. -/
def JobEvent.preset? : JobEvent → Option (String × TagTable)
  | ⟨.preset path, reply⟩ => (reply : Except Failure TagTable).toOption.map (path, ·)
  | _ => none

theorem JobEvent.mem_of_preset? (h : (path, table) ∈ log.filterMap JobEvent.preset?) :
    ⟨.preset path, .ok table⟩ ∈ log := by
  obtain ⟨⟨c, reply⟩, hmem, hpreset⟩ := List.mem_filterMap.mp h
  cases c with
  | preset path' =>
    obtain ⟨table', hreply, hpair⟩ := Option.map_eq_some_iff.mp hpreset
    obtain ⟨rfl, rfl⟩ := Prod.mk.inj hpair
    obtain rfl : reply = .ok table' := eq_ok_of_toOption hreply
    exact hmem
  | _ => cases hpreset

open Database in
/-- **A preset that is accepted need not fit.** A text that spells a table is accepted if each entry has a name and a
kind, whereas the rows of a table can be kept as they are only if each name has a hundred characters at most and holds
no `U+0000`. While each name of a preset that was read is taken, the creation of a job is the same as without these
limits. If one is not taken, then the preset was accepted all the same, and, whatever is to become of a preset that
cannot be used, the creation fails within the transaction: it is a failure of the service, and nothing is committed or
handed over. -/
theorem accepted_presets_need_not_fit {σ : Type} (files : String → Except Failure (List UInt8)) (reason : Row → String)
    (send : σ → (c : Command) → Database.Reply c × σ) (dispatch : σ → Uid → Except Failure Unit × σ)
    (rules : JobRules) (stamp : Stamp) (owner : Uid) (r : JobRequest) (s : σ) :
    let unlimited := createOver send (Preset.fromFiles files) dispatch rules stamp owner r s
    let created := createOver (limited reason send) (Preset.fromFiles files) dispatch rules stamp owner r s
    (tags.lines <:+: schemaLines ∧ tags.insertion = Statement.insertTag.text) ∧
    (∀ table : TagTable, Ordered table →
      (Preset.ofText (TagTable.codec.print table).render = .ok table ↔ ∀ entry ∈ table, Preset.Selects entry)) ∧
    (∀ (ids : Nat → Uid) (job : Uid) (table : TagTable),
      (∀ tag ∈ Tag.ofTable ids job table, tags.admits .whole (tagRow tag) = true) ↔ ∀ entry ∈ table, Fits entry.1) ∧
    ((∀ path (table : TagTable), ⟨.preset path, .ok table⟩ ∈ unlimited.log → ∀ entry ∈ table, Taken entry.1) →
      created = unlimited) ∧
    ∀ path (table : TagTable), ⟨.preset path, .ok table⟩ ∈ created.log → (∃ entry ∈ table, ¬ Taken entry.1) →
      Preset.fromFiles files path = .ok table ∧ ∃ e, created.result = .error (Job.creationFailure e) ∧
        (Job.creationFailure e).status = 500 ∧
        ∀ event ∈ created.log, event.call ≠ .commit ∧ ∀ job, event.call ≠ .dispatch job := by
  intro unlimited created
  refine ⟨tags_declared, fun table hordered => ?_, fun ids job table => forall_admits_ofTable_iff, createOver_limited,
    ?_⟩
  · have hread : TagTable.codec.ofText (TagTable.codec.print table).render = .ok table :=
      (TagTable.readsBack hordered).ofText_render (by decide)
    rw [Preset.ofText_eq_ok_iff]
    exact and_iff_right hread
  · rintro path table hmem ⟨entry, hentry, hfull⟩
    obtain ⟨hfile, e, hresult, hcalls⟩ := createOver_limited_of_not_taken hmem hentry hfull
    exact ⟨hfile, e, hresult, rfl, hcalls⟩

open Database in
/-- A preset with a short name is kept as without the limits. One with a name of a hundred and one letters is read, and
the job is not created. -/
theorem trial_presets_need_not_fit :
    let long := String.ofList (List.replicate 101 'a')
    let create (send : List Statement → (c : Command) → Database.Reply c × List Statement) (name : String)
        (policy : PresetPolicy) :=
      createOver send (Preset.fromFiles fun _ => .ok (Preset.trialFile name)) (fun given _ => (.ok (), given))
        (.trial policy) (.trial ⟨1⟩) ⟨2⟩ .trial []
    let limits := limited (fun _ => "value too long for type character varying(100)") Database.trial
    Ordered [(long, [FeatureKind.polygon])] ∧ ¬ Taken long ∧
      Preset.ofText (TagTable.codec.print [(long, [.polygon])]).render = .ok [(long, [.polygon])] ∧
      create limits "harbour" .reject = create Database.trial "harbour" .reject ∧
      ∀ policy,
        ⟨.preset "uploads/presets/harbours.json", .ok [(long, [.polygon])]⟩ ∈ (create limits long policy).log ∧
        ∃ e, (create limits long policy).result = .error (Job.creationFailure e) := by
  intro long create limits
  have hordered : Ordered [(long, [FeatureKind.polygon])] := List.pairwise_singleton _ _
  have hfull : ¬ Taken long := by
    rw [taken_iff]
    decide +kernel
  have hselects : ∀ entry ∈ [(long, [FeatureKind.polygon])], Preset.Selects entry := by
    intro entry hentry
    rw [List.mem_singleton.mp hentry]
    exact ⟨Text.isBlankText_eq_false_iff.mp (by decide +kernel), nofun⟩
  -- The file is the same at every path.
  have hfiles (name : String) (h : Preset.fromFiles (fun _ => .ok (Preset.trialFile name)) "" =
      .ok [(name, [.polygon])]) : (Preset.fromFiles fun _ => .ok (Preset.trialFile name)) =
        fun _ => .ok [(name, [.polygon])] := funext fun _ => h
  have hshort := hfiles "harbour" (by decide +kernel)
  have hlong := hfiles long (by decide +kernel)
  have hgeneral (name : String) (policy : PresetPolicy) := accepted_presets_need_not_fit
    (fun _ => .ok (Preset.trialFile name)) (fun _ => "value too long for type character varying(100)") Database.trial
    (fun given _ => (.ok (), given)) (.trial policy) (.trial ⟨1⟩) ⟨2⟩ .trial []
  refine ⟨hordered, hfull, ((hgeneral long .reject).2.1 _ hordered).mpr hselects, ?_, fun policy => ?_⟩
  · refine (hgeneral "harbour" .reject).2.2.2.1 fun path table hmem entry hentry => ?_
    obtain ⟨_, hreply⟩ := (Workflow.course_play _ _ _).2.exists_state _ hmem
    cases hreply.trans (congrFun hshort path)
    rw [List.mem_singleton.mp hentry]
    exact (fits_iff.mpr (by decide +kernel)).taken
  · have hread : (create limits long policy).log.filterMap JobEvent.preset? =
        [("uploads/presets/harbours.json", [(long, [.polygon])])] := by
      unfold create createOver Job.create
      rw [JobRequest.checkOn_trial, hlong]
      cases policy with
      | reject => decide +kernel
      | defaults => decide +kernel
    have hmem := JobEvent.mem_of_preset? (hread ▸ List.mem_singleton_self _)
    obtain ⟨-, e, hresult, -⟩ := (hgeneral long policy).2.2.2.2 _ _ hmem ⟨_, List.mem_singleton_self _, hfull⟩
    exact ⟨hmem, e, hresult⟩

open Database in
/-- A name of a hundred and one letters, and one that holds `U+0000`: presets with them are accepted, their rows cannot
be kept, and the transaction that writes them is given up. -/
theorem long_name_ends_the_transaction :
    let names := [String.ofList (List.replicate 101 'a'), "har\x00bour"]
    let table (name : String) : TagTable := [(name, [.polygon])]
    let written (name : String) := Tag.ofTable (Stamp.trial ⟨1⟩).tagIds ⟨1⟩ (table name)
    let persisted (name : String) :=
      (Job.persist (.ofRequest (.trial ⟨1⟩) ⟨2⟩ .trial) [] (written name) [] []).run.play
        (answerCreation (limited (fun _ => "cannot be kept") Database.trial) (fun _ => .ok (table name))
          fun given _ => (.ok (), given)) []
    (∀ name ∈ names, Preset.ofText (TagTable.codec.print (table name)).render = .ok (table name)) ∧
      (∀ name ∈ names, ∀ tag ∈ written name, tags.admits .whole (tagRow tag) = false) ∧
      ∀ name ∈ names, (persisted name).result = .error (refusal "cannot be kept") ∧
        (persisted name).state = [.begin, .insertJob, .rollback] := by
  decide +kernel

end MapExport
