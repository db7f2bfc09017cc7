import MapExport.Proofs.Job.Order

/-!
# The calls of the creation of a job

What the creation of a job asks its collaborators for, and in which order, whoever they are and whatever
they answer. Look-ups come first. Then comes the transaction of the order that they have led to, cut off
after the first call that fails, and the handing over follows a commit that was granted and nothing else.
-/

set_option autoImplicit false

namespace MapExport

open Workflow (Trace trace_pure_iff trace_bind_iff trace_bind_ok_iff trace_adapt_iff)

variable {α β : Type}

variable {project : Position → Float × Float} {rules : JobRules} {stamp : Stamp} {owner : Uid} {r : JobRequest}

/-! ## Kinds of calls -/

namespace JobCall

/-- Whether a call only reads the store. -/
def readsStore : JobCall → Bool
  | formatsBySlugs _ | providersBySlugs _ | config _ => true
  | _ => false

/-- Whether a call only looks something up, in the store or in a preset. -/
def isLookUp : JobCall → Bool
  | preset _ => true
  | c => c.readsStore

theorem isLookUp_of_readsStore {c : JobCall} (h : c.readsStore = true) : c.isLookUp = true := by
  cases c <;> first | rfl | exact h

/-- Whether a call belongs to a transaction before its commit. -/
def isStaging : JobCall → Bool
  | begin | insertJob _ | attachFormats _ _ | insertTag _ | attachConfig _ _ _
  | attachProviders _ _ => true
  | _ => false

end JobCall

/-- Whether what was asked for was granted. -/
def JobEvent.Granted (e : JobEvent) : Prop := ∃ a, e.reply = .ok a

/-- Whether a configuration that was asked for is the one of the identifier. -/
def JobEvent.Honest : JobEvent → Prop
  | ⟨.config uid, reply⟩ => ∀ c : Config, reply = .ok c → c.uid = uid
  | _ => True

/-- The configuration that was found, if that is what happened. -/
def JobEvent.config? : JobEvent → Option Config
  | ⟨.config _, reply⟩ => (reply : Except Failure Config).toOption
  | _ => none

/-- **All granted:** the calls were made one after another, and none of them failed. -/
def AllGranted (calls : List JobCall) (log : List JobEvent) : Prop :=
  log.map (·.call) = calls ∧ ∀ e ∈ log, JobEvent.Granted e

/-- **Cut off:** the calls were made one after another, up to and including the first that failed with
`e`. -/
def Refused (calls : List JobCall) (log : List JobEvent) (e : Failure) : Prop :=
  ∃ done c rest granted, calls = done ++ c :: rest ∧ AllGranted done granted ∧
    log = granted ++ [⟨c, .error e⟩]

/-- The calls were made one after another, and there is nothing after the first that failed. -/
def CutOff (calls : List JobCall) (log : List JobEvent) : Prop :=
  AllGranted calls log ∨ ∃ e, Refused calls log e

theorem allGranted_nil : AllGranted [] [] := ⟨rfl, by simp⟩

theorem AllGranted.cons {calls : List JobCall} {log : List JobEvent} {c : JobCall} (a : c.Result)
    (h : AllGranted calls log) : AllGranted (c :: calls) (⟨c, .ok a⟩ :: log) := by
  refine ⟨by rw [List.map_cons, h.1], fun e he => ?_⟩
  rcases List.mem_cons.mp he with rfl | he
  · exact ⟨a, rfl⟩
  · exact h.2 e he

theorem Refused.cons {calls : List JobCall} {log : List JobEvent} {e : Failure} {c : JobCall}
    (a : c.Result) (h : Refused calls log e) : Refused (c :: calls) (⟨c, .ok a⟩ :: log) e := by
  obtain ⟨done, refused, rest, granted, rfl, hgranted, rfl⟩ := h
  exact ⟨c :: done, refused, rest, ⟨c, .ok a⟩ :: granted, rfl, hgranted.cons a, rfl⟩

/-- No other calls were made. -/
theorem AllGranted.call_mem {calls : List JobCall} {log : List JobEvent} (h : AllGranted calls log) {ev : JobEvent}
    (hev : ev ∈ log) : ev.call ∈ calls := by
  rw [← h.1]
  exact List.mem_map_of_mem hev

theorem Refused.call_mem {calls : List JobCall} {log : List JobEvent} {e : Failure} (h : Refused calls log e)
    {ev : JobEvent} (hev : ev ∈ log) : ev.call ∈ calls := by
  obtain ⟨done, c, rest, granted, rfl, hgranted, rfl⟩ := h
  rcases List.mem_append.mp hev with hev | hev
  · exact List.mem_append_left _ (hgranted.call_mem hev)
  · rw [List.mem_singleton.mp hev]
    exact List.mem_append_right _ List.mem_cons_self

/-! ## Traces of the building blocks -/

theorem trace_ask_iff {c : JobCall} {log : List JobEvent} {result : Except Failure c.Result} :
    Trace (JobFlow.ask c) log result ↔ log = [⟨c, result⟩] := by
  have hcall : Trace (JobFlow.ask c) log result ↔ ∃ reply : c.Reply, log = [⟨c, reply⟩] ∧ result = reply :=
    Workflow.trace_call_iff
  rw [hcall, exists_eq_right']

theorem trace_tryPreset_iff {path : String} {log : List JobEvent}
    {result : Except Failure (Except Failure TagTable)} :
    Trace (JobFlow.tryPreset path) log result ↔
      ∃ reply, log = [⟨.preset path, reply⟩] ∧ result = .ok reply :=
  Workflow.trace_call_iff

theorem trace_ofExcept_iff {r : Except Failure α} {log : List JobEvent}
    {result : Except Failure α} :
    Trace (JobFlow.ofExcept r) log result ↔ log = [] ∧ result = r := by
  rw [eq_comm (b := r)]
  exact Workflow.course_done_iff

/-- A script ends where its first failure is. -/
theorem trace_script {calls : List JobCall} {log : List JobEvent} {result : Except Failure Unit}
    (h : Trace (JobFlow.script calls) log result) :
    result = .ok () ∧ AllGranted calls log ∨ ∃ e, result = .error e ∧ Refused calls log e := by
  induction calls generalizing log with
  | nil =>
    obtain ⟨rfl, rfl⟩ := trace_pure_iff.mp h
    exact .inl ⟨rfl, allGranted_nil⟩
  | cons c calls ih =>
    rcases trace_bind_iff.mp h with ⟨e, rfl, hfail⟩ | ⟨first, second, a, rfl, hfirst, hsecond⟩
    · obtain rfl := trace_ask_iff.mp hfail
      exact .inr ⟨e, rfl, [], c, calls, [], rfl, allGranted_nil, rfl⟩
    · obtain rfl := trace_ask_iff.mp hfirst
      rcases ih hsecond with ⟨rfl, hgranted⟩ | ⟨e, rfl, hrefused⟩
      · exact .inl ⟨rfl, hgranted.cons a⟩
      · exact .inr ⟨e, rfl, hrefused.cons a⟩

/-- What comes of the answer to the handing over. -/
def Order.handedOver (o : Order) : Except Failure Unit → Except Failure JobDetail
  | .ok () => .ok o.detail
  | .error e => .error (Job.dispatchFailure o.job.uid e)

/-- **Placing an order** ends in the transaction, or with the answer to the handing over. -/
theorem trace_place {o : Order} {log : List JobEvent} {result : Except Failure JobDetail}
    (h : Trace o.place log result) :
    (∃ e, result = .error (Job.creationFailure e) ∧ Refused o.transaction log e) ∨
      ∃ granted reply, log = granted ++ [⟨.dispatch o.job.uid, reply⟩] ∧
        AllGranted o.transaction granted ∧ result = o.handedOver reply := by
  rcases trace_bind_iff.mp h with ⟨e, rfl, hfail⟩ | ⟨first, second, _, rfl, hfirst, hsecond⟩
  · obtain ⟨r, hr, hword⟩ := trace_adapt_iff.mp hfail
    rcases trace_script hr with ⟨rfl, -⟩ | ⟨e', rfl, hrefused⟩
    · cases hword
    · cases hword
      exact .inl ⟨e', rfl, hrefused⟩
  · obtain ⟨r, hr, hword⟩ := trace_adapt_iff.mp hfirst
    -- That the transaction is worded anew when it fails does not hide that it did not fail here.
    have hgranted : AllGranted o.transaction first := by
      rcases trace_script hr with ⟨-, hgranted⟩ | ⟨e', rfl, -⟩
      · exact hgranted
      · cases hword
    right
    rcases trace_bind_iff.mp hsecond with ⟨e, rfl, hfail⟩ | ⟨third, fourth, _, rfl, hthird, hfourth⟩
    · obtain ⟨reply, hreply, hsent⟩ := trace_adapt_iff.mp hfail
      obtain rfl := trace_ask_iff.mp hreply
      cases reply with
      | ok _ => cases hsent
      | error e' =>
        cases hsent
        exact ⟨first, .error e', rfl, hgranted, rfl⟩
    · obtain ⟨reply, hreply, hsent⟩ := trace_adapt_iff.mp hthird
      obtain rfl := trace_ask_iff.mp hreply
      obtain ⟨rfl, rfl⟩ := trace_pure_iff.mp hfourth
      cases reply with
      | ok _ => exact ⟨first, .ok (), by rw [List.append_nil], hgranted, rfl⟩
      | error e' => cases hsent

/-! ## Look-ups -/

/-- Whether a failure says that a job exists and was not handed over. -/
def Failure.isDispatch : Failure → Bool
  | dispatch _ _ => true
  | _ => false

/-- **A workflow that only looks things up.** It fails with a failure of the store, or else with one that says
nothing of a job that exists. -/
structure OnlyLooksUp (x : JobFlow α) : Prop where
  calls : ∀ log result, Trace x log result → ∀ e ∈ log, e.call.isLookUp = true
  failure : ∀ log e, Trace x log (.error e) →
    e.isDispatch = false ∨ ∃ c, c.readsStore = true ∧ ⟨c, .error e⟩ ∈ log

theorem OnlyLooksUp.bind {x : JobFlow α} {k : α → JobFlow β} (hx : OnlyLooksUp x)
    (hk : ∀ a, OnlyLooksUp (k a)) : OnlyLooksUp (x >>= k) where
  calls := Workflow.CallsOnly.bind (P := fun c : JobCall => c.isLookUp = true) hx.calls fun a => (hk a).calls
  failure log e h := by
    rcases trace_bind_iff.mp h with ⟨_, ⟨⟩, hfail⟩ | ⟨first, second, a, rfl, -, hsecond⟩
    · exact hx.failure log e hfail
    · refine ((hk a).failure second e hsecond).imp_right ?_
      rintro ⟨c, hc, hmem⟩
      exact ⟨c, hc, List.mem_append_right _ hmem⟩

theorem onlyLooksUp_ask {c : JobCall} (h : c.readsStore = true) : OnlyLooksUp (JobFlow.ask c) where
  calls log result htrace e he := by
    obtain rfl := trace_ask_iff.mp htrace
    rw [List.mem_singleton.mp he]
    exact JobCall.isLookUp_of_readsStore h
  failure log e htrace := by
    obtain rfl := trace_ask_iff.mp htrace
    exact .inr ⟨c, h, List.mem_singleton_self _⟩

theorem onlyLooksUp_tryPreset (path : String) : OnlyLooksUp (JobFlow.tryPreset path) where
  calls log result htrace e he := by
    obtain ⟨reply, rfl, -⟩ := trace_tryPreset_iff.mp htrace
    rw [List.mem_singleton.mp he]
    rfl
  failure log e htrace := by
    obtain ⟨reply, -, hreply⟩ := trace_tryPreset_iff.mp htrace
    cases hreply

theorem onlyLooksUp_ofExcept {r : Except Failure α} (h : ∀ e, r = .error e → e.isDispatch = false) :
    OnlyLooksUp (JobFlow.ofExcept r) where
  calls log result htrace e he := by
    obtain ⟨rfl, -⟩ := trace_ofExcept_iff.mp htrace
    exact absurd he List.not_mem_nil
  failure log e htrace := .inl (h e (trace_ofExcept_iff.mp htrace).2.symm)

theorem onlyLooksUp_pure (a : α) : OnlyLooksUp (pure a) := onlyLooksUp_ofExcept (r := .ok a) nofun

theorem onlyLooksUp_check (project : Position → Float × Float) (r : JobRequest) :
    OnlyLooksUp (JobFlow.ofExcept (r.checkOn project)) := by
  refine onlyLooksUp_ofExcept fun e he => ?_
  rw [JobRequest.checkOn] at he
  split at he <;> cases he
  rfl

theorem onlyLooksUp_resolveFormats (requested : List String) :
    OnlyLooksUp (Job.resolveFormats requested) := by
  refine (onlyLooksUp_ask rfl).bind fun formats => ?_
  split
  · refine onlyLooksUp_ofExcept (r := .error _) fun e he => ?_
    cases he
    rfl
  · exact onlyLooksUp_pure _

theorem onlyLooksUp_resolveProviders (requested : List String) :
    OnlyLooksUp (Job.resolveProviders requested) := by
  cases requested with
  | nil => exact onlyLooksUp_pure _
  | cons slug slugs => exact onlyLooksUp_ask rfl

theorem onlyLooksUp_loadConfigs (loaded : List Config) (uids : List Uid) :
    OnlyLooksUp (Job.loadConfigs loaded uids) := by
  induction uids generalizing loaded with
  | nil => exact onlyLooksUp_pure _
  | cons uid uids ih =>
    rw [Job.loadConfigs]
    split
    · exact ih loaded
    · exact (onlyLooksUp_ask rfl).bind fun config => ih _

/-- Without a usable preset there is nothing to hand over. -/
theorem tableOf_error {rules : JobRules} {preset : Config} {reply : Except Failure TagTable}
    {e : Failure} (h : Job.tableOf rules preset reply = .error e) : e.isDispatch = false := by
  have hwithout (reason : String)
      (h : Job.withoutPreset rules.policy preset reason = .error e) : e.isDispatch = false := by
    unfold Job.withoutPreset at h
    split at h <;> cases h
    rfl
  cases reply with
  | ok table =>
    rw [Job.tableOf] at h
    split at h
    · exact hwithout _ h
    · cases h
  | error e => exact hwithout _ h

/-- The table of the tags is the default one, or the one that was read, which is not empty. -/
theorem read_of_tableOf {rules : JobRules} {preset : Config} {reply : Except Failure TagTable} {table : TagTable}
    (h : Job.tableOf rules preset reply = .ok table) :
    table = Preset.defaultTable ∨ reply = .ok table ∧ table ≠ [] := by
  have hwithout {reason : String} (h : Job.withoutPreset rules.policy preset reason = .ok table) :
      table = Preset.defaultTable := by
    unfold Job.withoutPreset at h
    split at h
    · cases h
    · exact (Except.ok.inj h).symm
  cases reply with
  | error e => exact .inl (hwithout h)
  | ok read =>
    rw [Job.tableOf] at h
    split at h
    · exact .inl (hwithout h)
    · next hsome =>
      obtain rfl := Except.ok.inj h
      exact .inr ⟨rfl, fun hnil => hsome (List.isEmpty_iff.mpr hnil)⟩

theorem onlyLooksUp_resolveTags (rules : JobRules) (preset : Option Config) :
    OnlyLooksUp (Job.resolveTags rules preset) := by
  cases preset with
  | none => exact onlyLooksUp_pure _
  | some preset =>
    rw [Job.resolveTags_some]
    exact (onlyLooksUp_tryPreset _).bind fun reply => onlyLooksUp_ofExcept fun e => tableOf_error

theorem onlyLooksUp_resolve (rules : JobRules) (stamp : Stamp) (owner : Uid) (r : JobRequest) :
    OnlyLooksUp (Job.resolve rules stamp owner r) :=
  ((onlyLooksUp_check rules.project r).bind fun _ => (onlyLooksUp_resolveFormats _).bind fun _ =>
    (onlyLooksUp_resolveProviders _).bind fun _ => (onlyLooksUp_loadConfigs _ _).bind fun _ =>
      onlyLooksUp_pure _).bind fun _ =>
        (onlyLooksUp_resolveTags _ _).bind fun _ => onlyLooksUp_pure _

/-! ## What the look-ups lead to -/

/-- **How a table of tags is found:** it is the default one without a preset, and else what comes of
having the preset read once. -/
def TabledBy (rules : JobRules) (preset : Option Config) (log : List JobEvent)
    (table : TagTable) : Prop :=
  match preset with
  | none => log = [] ∧ table = Preset.defaultTable
  | some c => ∃ reply, log = [⟨.preset (Upload.join rules.root c.upload), reply⟩] ∧
      Job.tableOf rules c reply = .ok table

/-- **What an order is made of.** The look-ups `looked`, and what was asked of the reader of presets in
`read`, give an order all that it holds. -/
structure ResolvedBy (rules : JobRules) (stamp : Stamp) (owner : Uid) (r : JobRequest)
    (looked read : List JobEvent) (o : Order) : Prop where
  job : o.job = Job.ofRequest stamp owner r
  formats : ⟨.formatsBySlugs (Slug.normalize r.formats), .ok o.formats⟩ ∈ looked
  providers : r.providers = [] ∧ o.providers = [] ∨
    ⟨.providersBySlugs (Slug.normalize r.providers), .ok o.providers⟩ ∈ looked
  configs : o.configs = looked.filterMap JobEvent.config?
  tags : ∃ table, o.tags = Tag.ofTable stamp.tagIds stamp.uid table ∧
    TabledBy rules (o.configs.find? (·.kind == .preset)) read table

theorem trace_resolveFormats_ok {requested : List String} {log : List JobEvent}
    {formats : List Format} (h : Trace (Job.resolveFormats requested) log (.ok formats)) :
    log = [⟨.formatsBySlugs (Slug.normalize requested), .ok formats⟩] := by
  obtain ⟨first, second, found, rfl, hfirst, hsecond⟩ := trace_bind_ok_iff.mp h
  obtain rfl := trace_ask_iff.mp hfirst
  change Trace (if List.isEmpty found then _ else _) _ _ at hsecond
  split at hsecond
  · obtain ⟨-, hfail⟩ := trace_ofExcept_iff (r := .error _) |>.mp hsecond
    cases hfail
  · obtain ⟨rfl, hfound⟩ := trace_ofExcept_iff (r := .ok _) |>.mp hsecond
    cases hfound
    rfl

theorem trace_resolveProviders_ok {requested : List String} {log : List JobEvent}
    {providers : List Provider} (h : Trace (Job.resolveProviders requested) log (.ok providers)) :
    requested = [] ∧ log = [] ∧ providers = [] ∨
      requested ≠ [] ∧ log = [⟨.providersBySlugs (Slug.normalize requested), .ok providers⟩] := by
  cases requested with
  | nil =>
    obtain ⟨rfl, hnone⟩ := trace_pure_iff.mp h
    cases hnone
    exact .inl ⟨rfl, rfl, rfl⟩
  | cons slug slugs => exact .inr ⟨List.cons_ne_nil _ _, trace_ask_iff.mp h⟩

/-- **Loading goes on** past an identifier that is known, or with the configuration that was found for it. -/
theorem trace_loadConfigs_cons_ok {known : List Config} {uid : Uid} {uids : List Uid}
    {log : List JobEvent} {configs : List Config}
    (h : Trace (Job.loadConfigs known (uid :: uids)) log (.ok configs)) :
    uid ∈ known.map (·.uid) ∧ Trace (Job.loadConfigs known uids) log (.ok configs) ∨
      uid ∉ known.map (·.uid) ∧ ∃ (config : Config) (rest : List JobEvent),
        log = ⟨.config uid, .ok config⟩ :: rest ∧
        Trace (Job.loadConfigs (known ++ [config]) uids) rest (.ok configs) := by
  rw [Job.loadConfigs] at h
  by_cases hknown : uid ∈ known.map (·.uid)
  · rw [if_pos (by simpa using hknown)] at h
    exact .inl ⟨hknown, h⟩
  · rw [if_neg (by simpa using hknown)] at h
    obtain ⟨first, rest, config, rfl, hfirst, hrest⟩ := trace_bind_ok_iff.mp h
    obtain rfl := trace_ask_iff.mp hfirst
    exact .inr ⟨hknown, config, rest, rfl, hrest⟩

theorem trace_loadConfigs_ok {loaded : List Config} {uids : List Uid} {log : List JobEvent}
    {configs : List Config} (h : Trace (Job.loadConfigs loaded uids) log (.ok configs)) :
    configs = loaded ++ log.filterMap JobEvent.config? := by
  induction uids generalizing loaded log with
  | nil =>
    obtain ⟨rfl, hloaded⟩ := trace_pure_iff.mp h
    cases hloaded
    simp
  | cons uid uids ih =>
    rcases trace_loadConfigs_cons_ok h with ⟨-, hrest⟩ | ⟨-, config, rest, rfl, hrest⟩
    · exact ih hrest
    · rw [ih hrest, List.append_assoc]
      rfl

/-- Gathering asks for formats, then for providers if there are any, then for configurations. -/
theorem trace_gather_ok {r : JobRequest} {log : List JobEvent} {found : Job.Found}
    (h : Trace (Job.gather project r) log (.ok found)) :
    ∃ providersLog configsLog,
      log = ⟨.formatsBySlugs (Slug.normalize r.formats), .ok found.formats⟩ ::
        (providersLog ++ configsLog) ∧
      Trace (Job.resolveProviders r.providers) providersLog (.ok found.providers) ∧
      Trace (Job.loadConfigs [] (Job.referredConfigs r)) configsLog (.ok found.configs) := by
  obtain ⟨_, afterCheck, _, rfl, hcheck, hlooked⟩ := trace_bind_ok_iff.mp h
  obtain ⟨rfl, -⟩ := trace_ofExcept_iff.mp hcheck
  obtain ⟨_, afterFormats, formats, rfl, hformats, hlinked⟩ := trace_bind_ok_iff.mp hlooked
  obtain rfl := trace_resolveFormats_ok hformats
  obtain ⟨providersLog, afterProviders, providers, rfl, hproviders, hloading⟩ :=
    trace_bind_ok_iff.mp hlinked
  obtain ⟨configsLog, afterConfigs, configs, rfl, hconfigs, hpure⟩ := trace_bind_ok_iff.mp hloading
  obtain ⟨rfl, hfound⟩ := trace_pure_iff.mp hpure
  cases hfound
  exact ⟨providersLog, configsLog, by simp, hproviders, hconfigs⟩

theorem trace_resolveTags_ok {rules : JobRules} {preset : Option Config} {log : List JobEvent}
    {table : TagTable} (h : Trace (Job.resolveTags rules preset) log (.ok table)) :
    TabledBy rules preset log table := by
  cases preset with
  | none =>
    obtain ⟨rfl, htable⟩ := trace_pure_iff.mp h
    cases htable
    exact ⟨rfl, rfl⟩
  | some c =>
    rw [Job.resolveTags_some] at h
    obtain ⟨_, _, reply, rfl, hread, htable⟩ := trace_bind_ok_iff.mp h
    obtain ⟨read, rfl, hreply⟩ := trace_tryPreset_iff.mp hread
    cases hreply
    obtain ⟨rfl, hgiven⟩ := trace_ofExcept_iff.mp htable
    exact ⟨reply, rfl, hgiven.symm⟩

/-- A preset is read at most once, however that ends. -/
theorem trace_resolveTags {rules : JobRules} {preset : Option Config} {log : List JobEvent}
    {result : Except Failure TagTable} (h : Trace (Job.resolveTags rules preset) log result) :
    log = [] ∨ ∃ path reply, log = [⟨.preset path, reply⟩] := by
  cases preset with
  | none => exact .inl (trace_pure_iff.mp h).1
  | some c =>
    rw [Job.resolveTags_some] at h
    rcases trace_bind_iff.mp h with ⟨e, rfl, hfail⟩ | ⟨first, second, reply, rfl, hread, hgiven⟩
    · obtain ⟨reply, rfl, -⟩ := trace_tryPreset_iff.mp hfail
      exact .inr ⟨_, reply, rfl⟩
    · obtain ⟨reply, rfl, -⟩ := trace_tryPreset_iff.mp hread
      obtain ⟨rfl, -⟩ := trace_ofExcept_iff.mp hgiven
      exact .inr ⟨_, reply, rfl⟩

/-- The tags that a request gets, by what was found for it. -/
def Job.Found.tags (found : Job.Found) (rules : JobRules) : JobFlow TagTable :=
  resolveTags rules (found.configs.find? (·.kind == .preset))

/-- **A request that is resolved** has an order, with what was found and the table of its tags. -/
theorem trace_resolve_ok
    {log : List JobEvent} {o : Order} (h : Trace (Job.resolve rules stamp owner r) log (.ok o)) :
    ∃ looked read found table, log = looked ++ read ∧ Trace (Job.gather rules.project r) looked (.ok found) ∧
      Trace (found.tags rules) read (.ok table) ∧ o = found.order stamp owner r table := by
  obtain ⟨looked, rest, found, rfl, hgather, hrest⟩ := trace_bind_ok_iff.mp h
  obtain ⟨read, _, table, rfl, htags, hpure⟩ := trace_bind_ok_iff.mp hrest
  obtain ⟨rfl, horder⟩ := trace_pure_iff.mp hpure
  cases horder
  exact ⟨looked, read, found, table, by rw [List.append_nil], hgather, htags, rfl⟩

/-- The job of an order has the identifier that it was stamped with. -/
theorem uid_of_resolve {log : List JobEvent} {o : Order}
    (h : Trace (Job.resolve rules stamp owner r) log (.ok o)) : o.job.uid = stamp.uid := by
  obtain ⟨_, _, _, _, -, -, -, rfl⟩ := trace_resolve_ok h
  rfl

/-- **A request that is not resolved** fails with what it names, or with its preset. -/
theorem trace_resolve_error
    {log : List JobEvent} {e : Failure} (h : Trace (Job.resolve rules stamp owner r) log (.error e)) :
    Trace (Job.gather rules.project r) log (.error e) ∨
      ∃ looked read found, log = looked ++ read ∧ Trace (Job.gather rules.project r) looked (.ok found) ∧
        Trace (found.tags rules) read (.error e) := by
  rcases trace_bind_iff.mp h with ⟨_, ⟨⟩, hfail⟩ | ⟨looked, rest, found, rfl, hgather, hrest⟩
  · exact .inl hfail
  rcases trace_bind_iff.mp hrest with ⟨_, ⟨⟩, hfail⟩ | ⟨_, _, _, rfl, _, hpure⟩
  · exact .inr ⟨looked, rest, found, rfl, hgather, hfail⟩
  · cases (trace_pure_iff.mp hpure).2

/-- **A workflow that fails only with a call:** what it fails with is the answer to one of its calls. -/
def FailsByCall (x : JobFlow α) : Prop :=
  ∀ log e, Trace x log (.error e) → ∃ c, ⟨c, .error e⟩ ∈ log

theorem FailsByCall.bind {x : JobFlow α} {k : α → JobFlow β} (hx : FailsByCall x)
    (hk : ∀ a, FailsByCall (k a)) : FailsByCall (x >>= k) := by
  intro log e h
  rcases trace_bind_iff.mp h with ⟨_, ⟨⟩, hfail⟩ | ⟨first, second, a, rfl, -, hsecond⟩
  · exact hx log e hfail
  · obtain ⟨c, hmem⟩ := hk a second e hsecond
    exact ⟨c, List.mem_append_right _ hmem⟩

theorem failsByCall_ask (c : JobCall) : FailsByCall (JobFlow.ask c) := by
  intro log e h
  obtain rfl := trace_ask_iff.mp h
  exact ⟨c, List.mem_singleton_self _⟩

theorem failsByCall_pure (a : α) : FailsByCall (pure a) := by
  intro log e h
  cases (trace_pure_iff.mp h).2

theorem failsByCall_resolveProviders (requested : List String) :
    FailsByCall (Job.resolveProviders requested) := by
  cases requested with
  | nil => exact failsByCall_pure []
  | cons slug slugs => exact failsByCall_ask _

theorem failsByCall_loadConfigs (known : List Config) (uids : List Uid) :
    FailsByCall (Job.loadConfigs known uids) := by
  induction uids generalizing known with
  | nil => exact failsByCall_pure known
  | cons uid uids ih =>
    rw [Job.loadConfigs]
    split
    · exact ih known
    · exact (failsByCall_ask (.config uid)).bind fun config => ih _

/-- **What keeps a request from an order:** it does not pass its check, none of its formats is known, a
look-up failed, or its preset cannot be used. -/
inductive StoppedBy (rules : JobRules) (r : JobRequest) (looked read : List JobEvent) : Prop where
  | check {e : Failure} (h : r.checkOn rules.project = .error e) (hlooked : looked = []) (hread : read = [])
  | formats (hlooked : looked = [⟨.formatsBySlugs (Slug.normalize r.formats), .ok []⟩])
      (hread : read = [])
  | lookUp {c : JobCall} {e : Failure} (hlooked : ⟨c, .error e⟩ ∈ looked) (hread : read = [])
  | preset {c : Config} {reply : Except Failure TagTable} {e : Failure}
      (hconfig : (looked.filterMap JobEvent.config?).find? (·.kind == .preset) = some c)
      (hread : read = [⟨.preset (Upload.join rules.root c.upload), reply⟩])
      (h : Job.tableOf rules c reply = .error e)

theorem trace_resolveFormats_error {requested : List String} {log : List JobEvent} {e : Failure}
    (h : Trace (Job.resolveFormats requested) log (.error e)) :
    log = [⟨.formatsBySlugs (Slug.normalize requested), .ok []⟩] ∨ ∃ c, ⟨c, .error e⟩ ∈ log := by
  rcases trace_bind_iff.mp h with ⟨_, ⟨⟩, hfail⟩ | ⟨first, second, found, rfl, hfirst, hsecond⟩
  · exact .inr (failsByCall_ask _ log e hfail)
  obtain rfl := trace_ask_iff.mp hfirst
  change Trace (if List.isEmpty found then _ else _) _ _ at hsecond
  split at hsecond
  case isTrue hempty =>
    obtain ⟨rfl, -⟩ := trace_ofExcept_iff (r := .error _) |>.mp hsecond
    obtain rfl := List.isEmpty_iff.mp hempty
    exact .inl rfl
  case isFalse =>
    obtain ⟨-, hfound⟩ := trace_ofExcept_iff (r := .ok _) |>.mp hsecond
    cases hfound

theorem stoppedBy_gather {log : List JobEvent} {e : Failure}
    (h : Trace (Job.gather rules.project r) log (.error e)) : StoppedBy rules r log [] := by
  rcases trace_bind_iff.mp h with ⟨_, ⟨⟩, hcheck⟩ | ⟨first, afterCheck, _, rfl, hfirst, hlooked⟩
  · obtain ⟨rfl, hfail⟩ := trace_ofExcept_iff.mp hcheck
    exact .check hfail.symm rfl rfl
  obtain ⟨rfl, -⟩ := trace_ofExcept_iff.mp hfirst
  rcases trace_bind_iff.mp hlooked with ⟨_, ⟨⟩, hformats⟩ | ⟨formatsLog, rest, formats, rfl, -, hrest⟩
  · rcases trace_resolveFormats_error hformats with rfl | ⟨c, hmem⟩
    · exact .formats rfl rfl
    · exact .lookUp hmem rfl
  -- From here on only the store can stand in the way.
  have hcalls : ∃ c, ⟨c, .error e⟩ ∈ rest :=
    ((failsByCall_resolveProviders _).bind fun _ => (failsByCall_loadConfigs _ _).bind fun _ =>
      failsByCall_pure _) rest e hrest
  obtain ⟨c, hmem⟩ := hcalls
  exact .lookUp (List.mem_append_right _ (List.mem_append_right _ hmem)) rfl

theorem trace_resolveTags_error {preset : Option Config} {log : List JobEvent} {e : Failure}
    (h : Trace (Job.resolveTags rules preset) log (.error e)) :
    ∃ c reply, preset = some c ∧ log = [⟨.preset (Upload.join rules.root c.upload), reply⟩] ∧
      Job.tableOf rules c reply = .error e := by
  cases preset with
  | none => cases (trace_pure_iff.mp h).2
  | some c =>
    rw [Job.resolveTags_some] at h
    rcases trace_bind_iff.mp h with ⟨_, ⟨⟩, hfail⟩ | ⟨first, second, reply, rfl, hread, hgiven⟩
    · obtain ⟨_, -, hreply⟩ := trace_tryPreset_iff.mp hfail
      cases hreply
    · obtain ⟨answer, rfl, hanswer⟩ := trace_tryPreset_iff.mp hread
      obtain rfl := Except.ok.inj hanswer
      obtain ⟨rfl, hfail⟩ := trace_ofExcept_iff.mp hgiven
      exact ⟨c, reply, rfl, rfl, hfail.symm⟩

/-- The configurations of a request are those that were found for it. -/
theorem configs_of_gather {looked : List JobEvent} {found : Job.Found}
    (h : Trace (Job.gather project r) looked (.ok found)) :
    found.configs = looked.filterMap JobEvent.config? := by
  obtain ⟨providersLog, configsLog, rfl, hproviders, hconfigs⟩ := trace_gather_ok h
  have hloaded : found.configs = configsLog.filterMap JobEvent.config? :=
    trace_loadConfigs_ok hconfigs
  rcases trace_resolveProviders_ok hproviders with ⟨-, rfl, -⟩ | ⟨-, rfl⟩ <;> exact hloaded

/-- **A request that is not resolved** was stopped by something. -/
theorem stoppedBy_tags {looked read : List JobEvent} {found : Job.Found} {e : Failure}
    (hgather : Trace (Job.gather rules.project r) looked (.ok found))
    (htags : Trace (found.tags rules) read (.error e)) : StoppedBy rules r looked read := by
  obtain ⟨c, reply, hpreset, hread, hfail⟩ := trace_resolveTags_error htags
  rw [configs_of_gather hgather] at hpreset
  exact .preset hpreset hread hfail

theorem resolvedBy_order {looked read : List JobEvent} {found : Job.Found} {table : TagTable}
    (hgather : Trace (Job.gather rules.project r) looked (.ok found))
    (htags : Trace (found.tags rules) read (.ok table)) :
    ResolvedBy rules stamp owner r looked read (found.order stamp owner r table) := by
  have hloaded := configs_of_gather hgather
  obtain ⟨providersLog, configsLog, rfl, hproviders, -⟩ := trace_gather_ok hgather
  have htabled := trace_resolveTags_ok htags
  rcases trace_resolveProviders_ok hproviders with ⟨hnone, rfl, hempty⟩ | ⟨-, rfl⟩
  · exact ⟨rfl, List.mem_cons_self, .inl ⟨hnone, hempty⟩, hloaded, table, rfl, htabled⟩
  · exact ⟨rfl, List.mem_cons_self, .inr (List.mem_cons_of_mem _ List.mem_cons_self), hloaded, table,
      rfl, htabled⟩

/-! ## The order of the look-ups

Here it matters that the store is honest, because a configuration is taken for known by the identifier it
was found with. -/

theorem AllGranted.append {calls more : List JobCall} {log log' : List JobEvent}
    (h : AllGranted calls log) (h' : AllGranted more log') :
    AllGranted (calls ++ more) (log ++ log') := by
  refine ⟨by rw [List.map_append, h.1, h'.1], fun e he => ?_⟩
  rcases List.mem_append.mp he with he | he
  · exact h.2 e he
  · exact h'.2 e he

theorem AllGranted.append_cutOff {calls more : List JobCall} {log log' : List JobEvent}
    (h : AllGranted calls log) (h' : CutOff more log') : CutOff (calls ++ more) (log ++ log') := by
  rcases h' with h' | ⟨e, done, c, rest, granted, rfl, hgranted, rfl⟩
  · exact .inl (h.append h')
  · exact .inr ⟨e, calls ++ done, c, rest, log ++ granted, by simp, h.append hgranted, by simp⟩

/-- **Looking up in order:** all of the calls are made if it ends well, and else the first of them, where
nothing follows a call that failed. -/
def LooksUp (x : JobFlow α) (calls : List JobCall) : Prop :=
  ∀ log result, (∀ e ∈ log, JobEvent.Honest e) → Trace x log result →
    (∃ made, made <+: calls ∧ CutOff made log) ∧ ∀ a, result = .ok a → AllGranted calls log

theorem LooksUp.bind {x : JobFlow α} {k : α → JobFlow β} {calls more : List JobCall}
    (hx : LooksUp x calls) (hk : ∀ a, LooksUp (k a) more) : LooksUp (x >>= k) (calls ++ more) := by
  intro log result honest h
  rcases trace_bind_iff.mp h with ⟨e, rfl, hfail⟩ | ⟨first, second, a, rfl, hfirst, hsecond⟩
  · obtain ⟨made, hmade, hcut⟩ := (hx log _ honest hfail).1
    exact ⟨⟨made, hmade.trans (List.prefix_append _ _), hcut⟩, nofun⟩
  · have hgranted : AllGranted calls first :=
      (hx first _ (fun e he => honest e (List.mem_append_left _ he)) hfirst).2 a rfl
    obtain ⟨⟨made, hmade, hcut⟩, hall⟩ :=
      hk a second result (fun e he => honest e (List.mem_append_right _ he)) hsecond
    exact ⟨⟨calls ++ made, (List.prefix_append_right_inj _).mpr hmade, hgranted.append_cutOff hcut⟩,
      fun b hb => hgranted.append (hall b hb)⟩

theorem looksUp_ask (c : JobCall) : LooksUp (JobFlow.ask c) [c] := by
  intro log result _ h
  obtain rfl := trace_ask_iff.mp h
  cases result with
  | ok a =>
    have hgranted : AllGranted [c] [⟨c, .ok a⟩] := allGranted_nil.cons a
    exact ⟨⟨[c], List.prefix_rfl, .inl hgranted⟩, fun _ _ => hgranted⟩
  | error e =>
    have hrefused : Refused [c] [⟨c, .error e⟩] e := ⟨[], c, [], [], rfl, allGranted_nil, rfl⟩
    exact ⟨⟨[c], List.prefix_rfl, .inr ⟨e, hrefused⟩⟩, nofun⟩

theorem looksUp_ofExcept (r : Except Failure α) : LooksUp (JobFlow.ofExcept r) [] := by
  intro log result _ h
  obtain ⟨rfl, -⟩ := trace_ofExcept_iff.mp h
  exact ⟨⟨[], List.prefix_rfl, .inl allGranted_nil⟩, fun _ _ => allGranted_nil⟩

theorem looksUp_resolveFormats (requested : List String) :
    LooksUp (Job.resolveFormats requested) [.formatsBySlugs (Slug.normalize requested)] := by
  -- The check that some format was found makes no call; it stands for the empty list.
  show LooksUp _ ([.formatsBySlugs (Slug.normalize requested)] ++ [])
  refine (looksUp_ask (.formatsBySlugs (Slug.normalize requested))).bind fun formats => ?_
  split
  · exact looksUp_ofExcept (.error _)
  · exact looksUp_ofExcept (.ok _)

/-- The identifiers that are not known yet, each once. -/
def unknownUids (known uids : List Uid) : List Uid := (uids.filter (· ∉ known)).eraseDups

theorem unknownUids_cons_of_mem {known : List Uid} {uid : Uid} (h : uid ∈ known) (uids : List Uid) :
    unknownUids known (uid :: uids) = unknownUids known uids := by
  simp [unknownUids, h]

/-- What is found becomes known. -/
theorem unknownUids_cons_of_not_mem {known : List Uid} {uid : Uid} (h : uid ∉ known)
    (uids : List Uid) :
    unknownUids known (uid :: uids) = uid :: unknownUids (known ++ [uid]) uids := by
  have hfilter : (fun u => decide (u ∉ known ++ [uid])) =
      fun u => !u == uid && decide (u ∉ known) := by
    funext u
    by_cases hu : u = uid <;> simp [hu]
  rw [unknownUids, unknownUids, List.filter_cons_of_pos (by simpa using h), List.eraseDups_cons,
    List.filter_filter, hfilter]

theorem unknownUids_nil (uids : List Uid) : unknownUids [] uids = uids.eraseDups := by
  rw [unknownUids, List.filter_eq_self.mpr (by simp)]

theorem looksUp_loadConfigs (loaded : List Config) (uids : List Uid) :
    LooksUp (Job.loadConfigs loaded uids)
      ((unknownUids (loaded.map (·.uid)) uids).map .config) := by
  induction uids generalizing loaded with
  | nil => exact looksUp_ofExcept (.ok loaded)
  | cons uid uids ih =>
    rw [Job.loadConfigs]
    by_cases hknown : uid ∈ loaded.map (·.uid)
    · rw [if_pos (by simpa using hknown), unknownUids_cons_of_mem hknown]
      exact ih loaded
    · rw [if_neg (by simpa using hknown), unknownUids_cons_of_not_mem hknown, List.map_cons]
      -- `LooksUp.bind` does not apply: what is left to look up depends on what was found. By honesty it has
      -- the identifier that was asked for, and so this one is known from now on.
      intro log result honest h
      rcases trace_bind_iff.mp h with ⟨e, rfl, hfail⟩ | ⟨first, second, config, rfl, hfirst, hsecond⟩
      · obtain rfl := trace_ask_iff.mp hfail
        have hrefused : Refused [.config uid] [⟨.config uid, .error e⟩] e :=
          ⟨[], .config uid, [], [], rfl, allGranted_nil, rfl⟩
        exact ⟨⟨[.config uid], List.cons_prefix_cons.mpr ⟨rfl, List.nil_prefix⟩,
          .inr ⟨e, hrefused⟩⟩, nofun⟩
      · obtain rfl := trace_ask_iff.mp hfirst
        have hfound : Config.uid config = uid := honest _ List.mem_cons_self config rfl
        have hgranted : AllGranted [.config uid] [⟨.config uid, .ok config⟩] :=
          allGranted_nil.cons (c := .config uid) config
        obtain ⟨⟨made, hmade, hcut⟩, hall⟩ := ih (loaded ++ [config]) second result
          (fun e he => honest e (List.mem_cons_of_mem _ he)) hsecond
        rw [List.map_append, List.map_cons, List.map_nil, hfound] at hmade hall
        exact ⟨⟨.config uid :: made, List.cons_prefix_cons.mpr ⟨rfl, hmade⟩,
          hgranted.append_cutOff hcut⟩, fun b hb => hgranted.append (hall b hb)⟩

/-- **The look-ups** of a request, in their order: formats, then providers if there are any, then each
configuration once. -/
def Job.lookUps (r : JobRequest) : List JobCall :=
  .formatsBySlugs (Slug.normalize r.formats) ::
    ((if r.providers = [] then [] else [.providersBySlugs (Slug.normalize r.providers)]) ++
      (Job.referredConfigs r).eraseDups.map .config)

theorem looksUp_resolveProviders (requested : List String) :
    LooksUp (Job.resolveProviders requested)
      (if requested = [] then [] else [.providersBySlugs (Slug.normalize requested)]) := by
  cases requested with
  | nil => exact looksUp_ofExcept (.ok [])
  | cons slug slugs => exact looksUp_ask (.providersBySlugs (Slug.normalize (slug :: slugs)))

theorem looksUp_gather (project : Position → Float × Float) (r : JobRequest) :
    LooksUp (Job.gather project r) (Job.lookUps r) := by
  have hconfigs : LooksUp (Job.loadConfigs [] (Job.referredConfigs r))
      ((Job.referredConfigs r).eraseDups.map .config) := by
    have hload := looksUp_loadConfigs [] (Job.referredConfigs r)
    rwa [List.map_nil, unknownUids_nil] at hload
  have hall := (looksUp_ofExcept (r.checkOn project)).bind fun _ =>
    (looksUp_resolveFormats r.formats).bind fun formats =>
      (looksUp_resolveProviders r.providers).bind fun providers =>
        hconfigs.bind fun configs => looksUp_ofExcept (.ok (Job.Found.mk formats providers configs))
  simp only [List.nil_append, List.append_nil, List.cons_append] at hall
  exact hall

end MapExport
