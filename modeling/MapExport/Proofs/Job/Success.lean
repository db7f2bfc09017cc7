import MapExport.Proofs.Job.Atomicity

/-!
# When a job is created

Of nothing and all, a creation comes to all unless something stands in its way that can be named beforehand:
what the request says and refers to, its preset, and points where the store was told to fail (`Unhindered`). In
particular the transaction does not fail by itself. The one thing that a store refuses without having been told
to is to link a configuration twice to the same job, and an order never holds the same configuration twice.
-/

set_option autoImplicit false

namespace MapExport

open Workflow (Answers Trace trace_pure_iff trace_bind_iff)

variable {α β : Type} {preset : String → Except Failure TagTable}
  {dispatch : Uid → Except Failure Unit}

/-- **Nothing stands in the way** of a job. -/
structure Unhindered (s : Store) (preset : String → Except Failure TagTable) (rules : JobRules)
    (r : JobRequest) : Prop where
  check : r.checkOn rules.project = .ok ()
  formats : s.formatsBySlugs (Slug.normalize r.formats) ≠ []
  configs : ∀ uid ∈ Job.referredConfigs r, s.configs.get? uid ≠ none
  keyed : ∀ e ∈ s.configs, e.2.uid = e.1
  tags : ∃ table,
    Job.tagsOf rules preset ((s.found r).configs.find? (·.kind == .preset)) = .ok table
  faults : s.faults = []

/-! ## Looking up -/

/-- **Granted:** a workflow that does not fail as long as the store answers in a session. -/
def Session.Grants (preset : String → Except Failure TagTable) (dispatch : Uid → Except Failure Unit)
    (s : Session) (x : JobFlow α) : Prop :=
  ∀ log e, (∀ ev ∈ log, s.Gives preset dispatch ev) → ¬ Trace x log (.error e)

namespace Session

variable {s : Session}

/-- The second part need not fail only where the first one leads. -/
theorem Grants.bind {x : JobFlow α} {k : α → JobFlow β} (hx : s.Grants preset dispatch x)
    (hk : ∀ first a, Trace x first (.ok a) → (∀ ev ∈ first, s.Gives preset dispatch ev) →
      s.Grants preset dispatch (k a)) : s.Grants preset dispatch (x >>= k) := by
  intro log e hgives h
  rcases trace_bind_iff.mp h with ⟨_, -, hfail⟩ | ⟨first, second, a, rfl, hfirst, hsecond⟩
  · exact hx _ _ hgives hfail
  · have hgivesFirst : ∀ ev ∈ first, s.Gives preset dispatch ev := fun ev hev =>
      hgives ev (List.mem_append_left _ hev)
    exact hk first a hfirst hgivesFirst _ _ (fun ev hev => hgives ev (List.mem_append_right _ hev))
      hsecond

theorem grants_ask {c : JobCall} {a : c.Result} (h : (s.collaborate preset dispatch c).1 = .ok a) :
    s.Grants preset dispatch (JobFlow.ask c) := by
  intro log e hgives htrace
  obtain rfl := trace_ask_iff.mp htrace
  have hreply : Except.error e = (s.collaborate preset dispatch c).1 :=
    hgives _ (List.mem_singleton_self _)
  rw [h] at hreply
  cases hreply

theorem grants_ofExcept {r : Except Failure α} {a : α} (h : r = .ok a) :
    s.Grants preset dispatch (JobFlow.ofExcept r) := by
  intro log e _ htrace
  obtain ⟨-, hresult⟩ := trace_ofExcept_iff.mp htrace
  rw [h] at hresult
  cases hresult

theorem grants_resolveFormats {requested : List String}
    (h : s.store.formatsBySlugs (Slug.normalize requested) ≠ []) :
    s.Grants preset dispatch (Job.resolveFormats requested) := by
  refine Grants.bind (grants_ask rfl) fun first formats hfirst hgives => ?_
  obtain rfl := trace_ask_iff.mp hfirst
  have hformats : formats = s.store.formatsBySlugs (Slug.normalize requested) :=
    Except.ok.inj (hgives _ (List.mem_singleton_self _))
  have hsome : List.isEmpty formats = false := by
    rw [hformats]
    exact List.isEmpty_eq_false_iff.mpr h
  rw [if_neg (by rw [hsome]; exact Bool.false_ne_true)]
  exact grants_ofExcept (a := formats) rfl

theorem grants_resolveProviders (requested : List String) :
    s.Grants preset dispatch (Job.resolveProviders requested) := by
  cases requested with
  | nil => exact grants_ofExcept (a := []) rfl
  | cons slug slugs => exact grants_ask rfl

theorem grants_loadConfigs {known : List Config} {uids : List Uid}
    (h : ∀ uid ∈ uids, s.store.configs.get? uid ≠ none) :
    s.Grants preset dispatch (Job.loadConfigs known uids) := by
  induction uids generalizing known with
  | nil => exact grants_ofExcept (a := known) rfl
  | cons uid uids ih =>
    have hrest : ∀ uid ∈ uids, s.store.configs.get? uid ≠ none := fun uid huid =>
      h uid (List.mem_cons_of_mem _ huid)
    rw [Job.loadConfigs]
    split
    · exact ih hrest
    · obtain ⟨config, hfound⟩ := Option.ne_none_iff_exists'.mp (h uid List.mem_cons_self)
      have hreply : (s.collaborate preset dispatch (.config uid)).1 = .ok config := by
        show s.store.config uid = _
        rw [Store.config, hfound]
        rfl
      exact Grants.bind (grants_ask (c := .config uid) hreply) fun _ _ _ _ => ih hrest

end Session

theorem Unhindered.grants_resolve {s : Store} {rules : JobRules} {r : JobRequest}
    (h : Unhindered s preset rules r) (stamp : Stamp) (owner : Uid) :
    (Session.start s).Grants preset dispatch (Job.resolve rules stamp owner r) := by
  have hgather : (Session.start s).Grants preset dispatch (Job.gather rules.project r) := by
    refine Session.Grants.bind (Session.grants_ofExcept h.check) fun _ _ _ _ => ?_
    refine Session.Grants.bind (Session.grants_resolveFormats h.formats) fun _ _ _ _ => ?_
    refine Session.Grants.bind (Session.grants_resolveProviders _) fun _ _ _ _ => ?_
    refine Session.Grants.bind (Session.grants_loadConfigs h.configs) fun _ configs _ _ => ?_
    exact Session.grants_ofExcept rfl
  refine Session.Grants.bind hgather fun first found hfirst hgives => ?_
  obtain ⟨table, htable⟩ := h.tags
  refine Session.Grants.bind (fun log e hread htags => ?_) fun _ table _ _ => Session.grants_ofExcept rfl
  have hresult := trace_resolveTags_given htags hread
  rw [trace_gather_given hfirst hgives] at hresult
  rw [show (Session.start s).store = s from rfl, htable] at hresult
  cases hresult

/-! ## Writing -/

/-- Honest answers never give the same configuration twice. -/
theorem trace_loadConfigs_nodup {known : List Config} {uids : List Uid} {log : List JobEvent}
    {configs : List Config} (h : Trace (Job.loadConfigs known uids) log (.ok configs))
    (honest : ∀ e ∈ log, JobEvent.Honest e) (hknown : (known.map (·.uid)).Nodup) :
    (configs.map (·.uid)).Nodup := by
  induction uids generalizing known log with
  | nil =>
    obtain ⟨-, hloaded⟩ := trace_pure_iff.mp h
    cases hloaded
    exact hknown
  | cons uid uids ih =>
    rcases trace_loadConfigs_cons_ok h with ⟨-, hrest⟩ | ⟨hnew, config, rest, rfl, hrest⟩
    · exact ih hrest honest hknown
    · have huid : Config.uid config = uid := honest _ List.mem_cons_self config rfl
      refine ih hrest (fun e he => honest e (List.mem_cons_of_mem _ he)) ?_
      rw [List.map_append, List.nodup_append]
      refine ⟨hknown, by simp, fun u hu v hv heq => hnew ?_⟩
      have hlast : v = uid := by simpa [huid] using hv
      rw [← hlast, ← heq]
      exact hu

/-- **An order never holds the same configuration twice,** where each is kept under its own identifier. -/
theorem nodup_of_resolve {s : Store} {rules : JobRules} {stamp : Stamp} {owner : Uid}
    {r : JobRequest} {log : List JobEvent} {o : Order} (keyed : ∀ e ∈ s.configs, e.2.uid = e.1)
    (h : Trace (Job.resolve rules stamp owner r) log (.ok o))
    (hgives : ∀ e ∈ log, (Session.start s).Gives preset dispatch e) :
    (o.configs.map (·.uid)).Nodup := by
  obtain ⟨looked, read, found, table, rfl, hgather, -, rfl⟩ := trace_resolve_ok h
  obtain ⟨providersLog, configsLog, rfl, -, hload⟩ := trace_gather_ok hgather
  refine trace_loadConfigs_nodup hload (fun e he => ?_) List.nodup_nil
  have hgiven := hgives e (List.mem_append_left _ (List.mem_cons_of_mem _
    (List.mem_append_right _ he)))
  obtain ⟨c, reply⟩ := e
  cases c with
  | config uid =>
    intro config hconfig
    have hreply : reply = .ok config := hconfig
    rw [hreply] at hgiven
    exact uid_of_get? keyed (Session.gives_config hgiven)
  | _ => trivial

namespace JobCall

/-- The configuration that a call links, if it links one. -/
def linked? : JobCall → Option Uid
  | .attachConfig _ c _ => some c.uid
  | _ => none

end JobCall

/-- Every link that is staged was asked for. -/
theorem mem_configs_foldl_note {calls : List JobCall} {t : Staged} {link : Uid × Int × Uid}
    (h : link ∈ (calls.foldl Staged.note t).configs) :
    link ∈ t.configs ∨ link.2.2 ∈ calls.filterMap JobCall.linked? := by
  induction calls generalizing t with
  | nil => exact .inl h
  | cons c calls ih =>
    rw [List.foldl_cons] at h
    rcases ih h with hmem | hmem
    · cases c with
      | begin => exact absurd hmem List.not_mem_nil
      | attachConfig job config place =>
        rcases List.mem_append.mp hmem with hmem | hmem
        · exact .inl hmem
        · rw [List.mem_singleton.mp hmem]
          exact .inr List.mem_cons_self
      | _ => exact .inl hmem
    · rw [List.filterMap_cons]
      split
      · exact .inr hmem
      · exact .inr (List.mem_cons_of_mem _ hmem)

namespace Order

theorem linked_links (job : Uid) (place : Nat → Nat) (configs : List Config) :
    (configs.mapIdx fun i c => linkCall job (place i) c).filterMap JobCall.linked? =
      configs.map (·.uid) := by
  induction configs generalizing place with
  | nil => rfl
  | cons c cs ih =>
    have hfirst : (linkCall job (place 0) c).linked? = some c.uid := rfl
    rw [List.mapIdx_cons, List.filterMap_cons_some hfirst, ih fun i => place (i + 1), List.map_cons]

/-- An order links each of its configurations once. -/
theorem linked_staging (o : Order) :
    o.staging.filterMap JobCall.linked? = o.configs.map (·.uid) := by
  have htags : (o.tags.map JobCall.insertTag).filterMap JobCall.linked? = [] := by
    simp [List.filterMap_map, Function.comp_def, JobCall.linked?]
  have hlinks := linked_links o.job.uid id o.configs
  simp only [staging, writes, List.filterMap_cons, List.filterMap_append, htags, JobCall.linked?,
    List.filterMap_nil, List.append_nil, List.nil_append]
  exact hlinks

end Order

namespace Session

theorem foldl_after_faults (s : Session) (log : List JobEvent) :
    (log.foldl after s).store.faults = s.store.faults := by
  induction log generalizing s with
  | nil => rfl
  | cons e log ih =>
    rw [List.foldl_cons, ih, after]
    cases JobEvent.committed e <;> rfl

/-- **What is refused** by a store that was not told to fail anywhere is a link that is staged already. -/
theorem linked_of_refused {s : Session} {c : JobCall} {e : Failure} (hfaults : s.store.faults = [])
    (hwrites : c.isStaging = true ∨ c = .commit)
    (h : (s.collaborate preset dispatch c).1 = .error e) :
    ∃ uid, c.linked? = some uid ∧ ∃ link ∈ s.staged.configs, link.2.2 = uid := by
  have hguard (point : TrialFault) : s.store.guard point = .ok () := by
    rw [Store.guard, hfaults, if_neg List.not_mem_nil]
  cases c with
  | begin => cases h
  | insertJob job =>
    change (s.stage (s.staged.insertJob s.store job)).1 = _ at h
    rw [Staged.insertJob, hguard] at h
    cases h
  | attachFormats job formats =>
    change (s.stage (s.staged.attachFormats s.store job formats)).1 = _ at h
    rw [Staged.attachFormats, hguard] at h
    cases h
  | insertTag tag =>
    change (s.stage (s.staged.insertTag s.store tag)).1 = _ at h
    rw [Staged.insertTag, hguard] at h
    cases h
  | attachConfig job config place =>
    change (s.stage (s.staged.attachConfig s.store job config place)).1 = _ at h
    rw [Staged.attachConfig, hguard] at h
    split at h
    case isTrue hany =>
      obtain ⟨link, hlink, hsame⟩ := List.any_eq_true.mp hany
      simp only [Bool.and_eq_true, beq_iff_eq] at hsame
      exact ⟨config.uid, rfl, link, hlink, hsame.2⟩
    case isFalse => cases h
  | attachProviders job providers =>
    change (s.stage (s.staged.attachProviders s.store job providers)).1 = _ at h
    rw [Staged.attachProviders, hguard] at h
    cases h
  | commit =>
    change s.commit.1 = _ at h
    rw [Session.commit, Staged.commit, hguard] at h
    cases h
  | _ => rcases hwrites with hwrites | hwrites <;> cases hwrites

/-- The same, for the last one of several calls. -/
theorem linked_of_refused_last {s s' : Session} {log : List JobEvent} {c : JobCall} {e : Failure}
    (hfaults : s.store.faults = []) (hwrites : c.isStaging = true ∨ c = .commit)
    (h : Answers (collaborate preset dispatch) s (log ++ [⟨c, .error e⟩]) s') :
    ∃ uid, c.linked? = some uid ∧
      ∃ link ∈ (log.foldl Staged.after s.staged).configs, link.2.2 = uid := by
  obtain ⟨mid, hlog, hreply, -⟩ := Workflow.answers_append_iff.mp h
  obtain rfl := eq_foldl_after preset dispatch hlog
  have hnone : (log.foldl after s).store.faults = [] := by rw [foldl_after_faults, hfaults]
  rw [← foldl_after_staged]
  exact linked_of_refused hnone hwrites hreply

/-- **The transaction of an order is granted,** if the order never holds the same configuration twice. -/
theorem not_refused {s s' : Session} {o : Order} {log : List JobEvent} {e : Failure}
    (hfaults : s.store.faults = []) (hstaged : s.staged.configs = [])
    (hnodup : (o.configs.map (·.uid)).Nodup)
    (hanswers : Answers (collaborate preset dispatch) s log s') : ¬ Refused o.transaction log e := by
  intro h
  rw [Order.transaction_eq_staging_concat] at h
  rcases h.concat_inv with ⟨done, c, rest, granted, hcalls, hgranted, rfl⟩ | ⟨granted, -, rfl⟩
  · have hstaging : ∀ d ∈ done ++ c :: rest, d.isStaging = true := by
      intro d hd
      rw [← hcalls] at hd
      exact Order.isStaging_of_mem hd
    have hc : c.isStaging = true := hstaging c (List.mem_append_right _ List.mem_cons_self)
    have hcommit : .commit ∉ done := fun hmem =>
      JobCall.ne_commit (.inr (hstaging _ (List.mem_append_left _ hmem))) rfl
    obtain ⟨uid, hlinked, link, hlink, rfl⟩ := linked_of_refused_last hfaults (.inl hc) hanswers
    rw [hgranted.foldl_after hcommit] at hlink
    -- The configuration was linked by an earlier call too, although the order holds it once.
    rw [← o.linked_staging, hcalls, List.filterMap_append, List.filterMap_cons_some hlinked,
      List.nodup_append] at hnodup
    rcases mem_configs_foldl_note hlink with hmem | hmem
    · rw [hstaged] at hmem
      cases hmem
    · exact hnodup.2.2 _ hmem _ List.mem_cons_self rfl
  · obtain ⟨uid, hlinked, -⟩ := linked_of_refused_last hfaults (.inr rfl) hanswers
    cases hlinked

end Session

/-! ## Success -/

section

variable {s : Store} {rules : JobRules} {r : JobRequest}

/-- **If nothing stands in the way,** an order is handed over, and the client is told how that went. -/
theorem Unhindered.handedOver (h : Unhindered s preset rules r)
    (dispatch : Uid → Except Failure Unit) (stamp : Stamp) (owner : Uid) :
    ∃ o : Order, (s.create preset dispatch rules stamp owner r).result =
      o.handedOver (dispatch stamp.uid) := by
  obtain ⟨htrace, hanswers⟩ := s.course_create preset dispatch rules stamp owner r
  rw [Job.create_eq_resolve_bind_place] at htrace
  have hlookUps := onlyLooksUp_resolve rules stamp owner r
  rcases trace_bind_iff.mp htrace with
    ⟨e, -, hfail⟩ | ⟨reads, writes, o, hlog, hresolve, hplace⟩
  · have hgives := Session.gives_lookUps hanswers (hlookUps.calls _ _ hfail)
    exact absurd hfail (h.grants_resolve stamp owner _ _ hgives)
  rw [hlog] at hanswers
  obtain ⟨mid, hreads, hwrites⟩ := Workflow.answers_append_iff.mp hanswers
  -- The transaction begins in a store that is as it was and in which nothing is staged.
  have hcalls := hlookUps.calls _ _ hresolve
  have hmid := Session.eq_foldl_after preset dispatch hreads
  have hfaults : mid.store.faults = [] := by
    rw [hmid, Session.foldl_after_faults]
    exact h.faults
  have hstaged : mid.staged.configs = [] := by
    rw [hmid, Session.foldl_after_staged, Staged.foldl_after_lookUps _ hcalls]
    rfl
  have hnodup := nodup_of_resolve h.keyed hresolve (Session.gives_lookUps hreads hcalls)
  rcases trace_place hplace with ⟨e, -, hrefused⟩ | ⟨granted, reply, rfl, -, hresult⟩
  · exact absurd hrefused (Session.not_refused hfaults hstaged hnodup hwrites)
  · obtain ⟨last, -, hreply, -⟩ := Workflow.answers_append_iff.mp hwrites
    have hdispatch : dispatch o.job.uid = reply := hreply
    rw [uid_of_resolve hresolve] at hdispatch
    rw [← hdispatch] at hresult
    exact ⟨o, hresult⟩

/-- If nothing stands in the way and the queue takes the job, the client is told of it. -/
theorem Unhindered.created (h : Unhindered s preset rules r) {stamp : Stamp}
    (hdispatch : dispatch stamp.uid = .ok ()) (owner : Uid) :
    ∃ detail, (s.create preset dispatch rules stamp owner r).result = .ok detail := by
  obtain ⟨o, hresult⟩ := h.handedOver dispatch stamp owner
  rw [hdispatch] at hresult
  exact ⟨o.detail, hresult⟩

/-- **If nothing stands in the way, the creation does not come to nothing.** -/
theorem Unhindered.not_nothing (h : Unhindered s preset rules r)
    (dispatch : Uid → Except Failure Unit) (stamp : Stamp) (owner : Uid) :
    ¬ (s.create preset dispatch rules stamp owner r).Nothing s := by
  rintro ⟨⟨e, hnothing, hother⟩, -, -⟩
  obtain ⟨o, hresult⟩ := h.handedOver dispatch stamp owner
  rw [hnothing] at hresult
  cases hdispatch : dispatch stamp.uid with
  | ok a =>
    rw [hdispatch] at hresult
    cases hresult
  | error e' =>
    -- A failure of the queue is told as one, and so it is not what is told of nothing.
    rw [hdispatch] at hresult
    cases hresult
    cases hother

end

/-- **All or nothing.** For an identifier that is fresh, the creation of a job comes to nothing, or to all
that the request orders; and it does not come to nothing if nothing stands in its way. -/
theorem create_all_or_nothing (s : Store) (preset : String → Except Failure TagTable)
    (dispatch : Uid → Except Failure Unit) (rules : JobRules) (stamp : Stamp) (owner : Uid)
    (r : JobRequest) (fresh : s.Fresh stamp.uid) :
    ((s.create preset dispatch rules stamp owner r).Nothing s ∨
      ∃ table, Job.tagsOf rules preset ((s.found r).configs.find? (·.kind == .preset)) = .ok table ∧
        (s.create preset dispatch rules stamp owner r).All s dispatch
          ((s.found r).order stamp owner r table)) ∧
      (Unhindered s preset rules r →
        ¬ (s.create preset dispatch rules stamp owner r).Nothing s) := by
  refine ⟨?_, fun h => h.not_nothing dispatch stamp owner⟩
  rcases create_nothing_or_all s preset dispatch rules stamp owner r fresh with
    hnothing | ⟨reads, o, hreads, hgives, hall⟩
  · exact .inl hnothing
  · obtain ⟨table, htags, rfl⟩ := trace_resolve_given hreads hgives
    exact .inr ⟨table, htags, hall⟩

/-- Nothing stands in the way of the request for trials. Its area is measured in degrees, because no proof computes the
logarithm and the tangent of the web map. -/
theorem Unhindered.trial :
    Unhindered (.trial []) (fun _ => .ok [("harbour", [.polygon])]) (.trial .reject) .trial where
  check := JobRequest.checkOn_trial .reject
  formats := by decide
  configs := by decide
  keyed := by decide
  tags := ⟨[("harbour", [.polygon])], rfl⟩
  faults := rfl

theorem trial_all_or_nothing :
    (Store.trial []).Fresh ⟨1⟩ ∧
      let s := Store.trial []
      let preset : String → Except Failure TagTable := fun _ => .ok [("harbour", [.polygon])]
      let dispatch : Uid → Except Failure Unit := fun _ => .error (.queue "no workers")
      let c := s.create preset dispatch (.trial .reject) (.trial ⟨1⟩) ⟨2⟩ .trial
      ¬ c.Nothing s ∧ ∃ table, Job.tagsOf (.trial .reject) preset
        ((s.found .trial).configs.find? (·.kind == .preset)) = .ok table ∧
          c.All s dispatch ((s.found .trial).order (.trial ⟨1⟩) ⟨2⟩ .trial table) := by
  have fresh : (Store.trial []).Fresh ⟨1⟩ := by decide
  obtain ⟨heither, hall⟩ := create_all_or_nothing (.trial [])
    (fun _ => .ok [("harbour", [.polygon])]) (fun _ => .error (.queue "no workers"))
    (.trial .reject) (.trial ⟨1⟩) ⟨2⟩ .trial fresh
  have hsome := hall .trial
  exact ⟨fresh, hsome, heither.resolve_left hsome⟩

end MapExport
