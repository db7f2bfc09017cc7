import MapExport.Proofs.Job.Calls

/-!
# The order of the calls

The creation of a job keeps to one order of calls, whatever its collaborators answer. It looks things up,
runs through the transaction of the order, and hands the job over, and it stops where a call of the
transaction fails. That nothing is seen of a job before its commit, and that a job is handed over only when
it is kept for good, rests on this order alone, and so for every store there is.
-/

set_option autoImplicit false

namespace MapExport

open Workflow (Trace trace_bind_iff trace_pure_iff)

variable {rules : JobRules} {stamp : Stamp} {owner : Uid} {r : JobRequest}

/-! ## The last call of a script -/

theorem AllGranted.concat_inv {calls : List JobCall} {last : JobCall} {log : List JobEvent}
    (h : AllGranted (calls ++ [last]) log) :
    ∃ granted a, AllGranted calls granted ∧ log = granted ++ [⟨last, .ok a⟩] := by
  obtain ⟨hcalls, hall⟩ := h
  obtain ⟨granted, tail, rfl, hgranted, htail⟩ := List.map_eq_append_iff.mp hcalls
  obtain ⟨⟨c, reply⟩, rfl, rfl⟩ := List.map_eq_singleton_iff.mp htail
  obtain ⟨a, ha⟩ := hall _ (List.mem_append_right _ (List.mem_singleton_self _))
  have hreply : reply = .ok a := ha
  refine ⟨granted, a, ⟨hgranted, fun e he => hall e (List.mem_append_left _ he)⟩, ?_⟩
  rw [hreply]

theorem Refused.append {calls : List JobCall} {log : List JobEvent} {e : Failure}
    (h : Refused calls log e) (more : List JobCall) : Refused (calls ++ more) log e := by
  obtain ⟨done, c, rest, granted, rfl, hgranted, rfl⟩ := h
  exact ⟨done, c, rest ++ more, granted, by simp, hgranted, rfl⟩

/-- What is refused is the last call, or one before it. -/
theorem Refused.concat_inv {calls : List JobCall} {last : JobCall} {log : List JobEvent}
    {e : Failure} (h : Refused (calls ++ [last]) log e) :
    Refused calls log e ∨
      ∃ granted, AllGranted calls granted ∧ log = granted ++ [⟨last, .error e⟩] := by
  obtain ⟨done, c, rest, granted, hcalls, hgranted, rfl⟩ := h
  -- Whether anything is left after the refused call tells whether this is the last one.
  rcases List.eq_nil_or_concat rest with rfl | ⟨rest, last', rfl⟩
  · obtain ⟨rfl, hlast⟩ := List.append_inj' hcalls rfl
    cases hlast
    exact .inr ⟨granted, hgranted, rfl⟩
  · rw [List.concat_eq_append, ← List.cons_append, ← List.append_assoc] at hcalls
    obtain ⟨rfl, -⟩ := List.append_inj' hcalls rfl
    exact .inl ⟨done, c, rest, granted, rfl, hgranted, rfl⟩

/-! ## The transaction -/

namespace Order

/-- **What an order stages:** all calls of its transaction but the commit. -/
def staging (o : Order) : List JobCall := .begin :: o.writes

theorem transaction_eq_staging_concat (o : Order) : o.transaction = o.staging ++ [.commit] := rfl

theorem isStaging_of_mem {o : Order} {c : JobCall} (h : c ∈ o.staging) : c.isStaging = true := by
  simp only [staging, writes, List.mem_cons, List.mem_append, List.mem_map, List.mem_mapIdx,
    List.not_mem_nil, or_false, linkCall] at h
  rcases h with rfl | rfl | rfl | ⟨_, _, rfl⟩ | ⟨_, _, rfl⟩ | rfl <;> rfl

end Order

theorem AllGranted.isStaging {o : Order} {log : List JobEvent} (h : AllGranted o.staging log) :
    ∀ e ∈ log, e.call.isStaging = true := by
  intro e he
  exact Order.isStaging_of_mem (h.call_mem he)

theorem Refused.isStaging {o : Order} {log : List JobEvent} {e : Failure}
    (h : Refused o.staging log e) : ∀ e ∈ log, e.call.isStaging = true := by
  intro e he
  exact Order.isStaging_of_mem (h.call_mem he)

/-- **The three ways in which the creation of a job ends:** before the commit, with a commit that was
refused, or with the answer to the handing over. -/
theorem trace_create {log : List JobEvent} {result : Except Failure JobDetail}
    (h : Trace (Job.create rules stamp owner r) log result) :
    (∃ e, result = .error e ∧
      (∀ ev ∈ log, ev.call.isLookUp = true ∨ ev.call.isStaging = true) ∧
      (Trace (Job.resolve rules stamp owner r) log (.error e) ∨ ∃ e', e = Job.creationFailure e')) ∨
    ∃ reads o granted, Trace (Job.resolve rules stamp owner r) reads (.ok o) ∧
      AllGranted o.staging granted ∧
      ((∃ e, log = reads ++ granted ++ [⟨.commit, .error e⟩] ∧
          result = .error (Job.creationFailure e)) ∨
        ∃ reply, log = reads ++ granted ++ [⟨.commit, .ok ()⟩, ⟨.dispatch o.job.uid, reply⟩] ∧
          result = o.handedOver reply) := by
  have hreads := onlyLooksUp_resolve rules stamp owner r
  rw [Job.create_eq_resolve_bind_place] at h
  rcases trace_bind_iff.mp h with ⟨e, rfl, hfail⟩ | ⟨reads, writes, o, rfl, hresolve, hplace⟩
  · exact .inl ⟨e, rfl, fun ev hev => .inl (hreads.calls _ _ hfail ev hev), .inl hfail⟩
  rcases trace_place hplace with ⟨e, rfl, hrefused⟩ | ⟨granted, reply, rfl, hgranted, rfl⟩
  · rw [Order.transaction_eq_staging_concat] at hrefused
    rcases hrefused.concat_inv with hstaging | ⟨granted, hgranted, rfl⟩
    · refine .inl ⟨_, rfl, fun ev hev => ?_, .inr ⟨e, rfl⟩⟩
      rcases List.mem_append.mp hev with hev | hev
      · exact .inl (hreads.calls _ _ hresolve ev hev)
      · exact .inr (hstaging.isStaging ev hev)
    · exact .inr ⟨reads, o, granted, hresolve, hgranted, .inl ⟨e, by simp, rfl⟩⟩
  · rw [Order.transaction_eq_staging_concat] at hgranted
    obtain ⟨staged, ⟨⟩, hstaged, rfl⟩ := hgranted.concat_inv
    exact .inr ⟨reads, o, staged, hresolve, hstaged, .inr ⟨reply, by simp, rfl⟩⟩

/-! ## The phases -/

/-- **Calls in order:** what the creation of a job has asked for. -/
structure CallOrder (rules : JobRules) (stamp : Stamp) (owner : Uid) (r : JobRequest)
    (log : List JobEvent) : Prop where
  /-- First come look-ups, up to the first that fails, and after them at most one reading of a preset; then,
  unless one of these stood in the way, the transaction of the order that they have led to and the handing
  over, up to the first call that fails. -/
  phases : ∃ looked read writes, log = looked ++ read ++ writes ∧
    (∃ made, made <+: Job.lookUps r ∧ CutOff made looked) ∧
    (read = [] ∨ AllGranted (Job.lookUps r) looked ∧
      ∃ path reply, read = [⟨.preset path, reply⟩]) ∧
    (writes = [] ∧ StoppedBy rules r looked read ∨ AllGranted (Job.lookUps r) looked ∧
      ∃ o, ResolvedBy rules stamp owner r looked read o ∧
        CutOff (o.transaction ++ [.dispatch o.job.uid]) writes)
  /-- A commit comes at most once, and after nothing that was refused in the transaction. -/
  commit : ∀ before reply after, log = before ++ ⟨.commit, reply⟩ :: after →
    (∀ e ∈ before, e.call.isStaging = true → JobEvent.Granted e) ∧
      ∀ e ∈ before ++ after, e.call ≠ .commit
  /-- A job is handed over if and only if it was committed. -/
  dispatch_iff : (∃ uid reply, ⟨.dispatch uid, reply⟩ ∈ log) ↔ ⟨.commit, .ok ()⟩ ∈ log
  /-- The handing over is the last call; it comes after the commit, and concerns the job that was
  written. -/
  dispatch : ∀ before uid reply after, log = before ++ ⟨.dispatch uid, reply⟩ :: after →
    after = [] ∧ ⟨.commit, .ok ()⟩ ∈ before ∧
      ∃ job : Job, ⟨.insertJob job, .ok ()⟩ ∈ before ∧ job.uid = uid

theorem trace_create_phases {log : List JobEvent} {result : Except Failure JobDetail}
    (honest : ∀ e ∈ log, JobEvent.Honest e)
    (h : Trace (Job.create rules stamp owner r) log result) :
    ∃ looked read writes, log = looked ++ read ++ writes ∧
      (∃ made, made <+: Job.lookUps r ∧ CutOff made looked) ∧
      (read = [] ∨ AllGranted (Job.lookUps r) looked ∧
        ∃ path reply, read = [⟨.preset path, reply⟩]) ∧
      (writes = [] ∧ StoppedBy rules r looked read ∨ AllGranted (Job.lookUps r) looked ∧
        ∃ o, ResolvedBy rules stamp owner r looked read o ∧
          CutOff (o.transaction ++ [.dispatch o.job.uid]) writes) := by
  have hgathers := looksUp_gather rules.project r
  -- A log splits where the request is resolved. Up to there honesty decides the order, and from there on the
  -- order that was found does.
  rw [Job.create_eq_resolve_bind_place] at h
  rcases trace_bind_iff.mp h with ⟨e, rfl, hfail⟩ | ⟨reads, writes, o, rfl, hresolve, hplace⟩
  · rcases trace_resolve_error hfail with hmissing | ⟨looked, read, found, rfl, hgather, htags⟩
    · exact ⟨log, [], [], by simp, (hgathers _ _ honest hmissing).1, .inl rfl,
        .inl ⟨rfl, stoppedBy_gather hmissing⟩⟩
    · have hall : AllGranted (Job.lookUps r) looked :=
        (hgathers _ _ (fun e he => honest e (List.mem_append_left _ he)) hgather).2 found rfl
      exact ⟨looked, read, [], by rw [List.append_nil], ⟨_, List.prefix_rfl, .inl hall⟩,
        (trace_resolveTags htags).imp_right fun h => ⟨hall, h⟩,
        .inl ⟨rfl, stoppedBy_tags hgather htags⟩⟩
  obtain ⟨looked, read, found, table, rfl, hgather, htags, rfl⟩ := trace_resolve_ok hresolve
  have hall : AllGranted (Job.lookUps r) looked :=
    (hgathers _ _ (fun e he => honest e (List.mem_append_left _ (List.mem_append_left _ he)))
      hgather).2 found rfl
  refine ⟨looked, read, writes, rfl, ⟨_, List.prefix_rfl, .inl hall⟩,
    (trace_resolveTags htags).imp_right fun h => ⟨hall, h⟩,
    .inr ⟨hall, _, resolvedBy_order hgather htags, ?_⟩⟩
  rcases trace_place hplace with ⟨e, -, hrefused⟩ | ⟨granted, reply, rfl, hgranted, -⟩
  · exact .inr ⟨e, hrefused.append _⟩
  · cases reply with
    | ok a => exact .inl (hgranted.append (allGranted_nil.cons (c := .dispatch _) a))
    | error e => exact .inr ⟨e, _, .dispatch _, [], granted, rfl, hgranted, rfl⟩

/-! ## Commit and handing over -/

theorem JobCall.ne_commit {c : JobCall} (h : c.isLookUp = true ∨ c.isStaging = true) :
    c ≠ .commit := by
  rintro rfl
  rcases h with h | h <;> cases h

theorem JobCall.ne_dispatch {c : JobCall} (h : c.isLookUp = true ∨ c.isStaging = true) (uid : Uid) :
    c ≠ .dispatch uid := by
  rintro rfl
  rcases h with h | h <;> cases h

theorem JobCall.not_isStaging {c : JobCall} (h : c.isLookUp = true) : c.isStaging = false := by
  cases c <;> first | rfl | cases h

/-- What cannot stand in the first part of a list stands in the second. -/
theorem exists_split_of_not_mem {ε : Type} {first second before after : List ε} {x : ε}
    (hfirst : x ∉ first) (h : first ++ second = before ++ x :: after) :
    ∃ mid, before = first ++ mid ∧ second = mid ++ x :: after := by
  rcases List.append_eq_append_iff.mp h with ⟨mid, rfl, hsecond⟩ | ⟨mid, rfl, hafter⟩
  · exact ⟨mid, rfl, hsecond⟩
  · cases mid with
    | nil => exact ⟨[], by simp, by simpa using hafter.symm⟩
    | cons y mid =>
      obtain ⟨rfl, -⟩ := List.cons.inj hafter
      exact absurd (List.mem_append_right _ List.mem_cons_self) hfirst

/-- What comes before the commit are look-ups and granted calls of the transaction. -/
theorem calls_before_commit {reads granted : List JobEvent} {o : Order}
    (hreads : Trace (Job.resolve rules stamp owner r) reads (.ok o))
    (hgranted : AllGranted o.staging granted) :
    ∀ e ∈ reads ++ granted, (e.call.isLookUp = true ∨ e.call.isStaging = true) ∧
      (e.call.isStaging = true → JobEvent.Granted e) := by
  intro e he
  rcases List.mem_append.mp he with he | he
  · have hlookUp := (onlyLooksUp_resolve rules stamp owner r).calls _ _ hreads e he
    exact ⟨.inl hlookUp, fun h => by rw [JobCall.not_isStaging hlookUp] at h; cases h⟩
  · exact ⟨.inr (hgranted.isStaging e he), fun _ => hgranted.2 e he⟩

/-- **When it comes to the commit,** an order was found, and all that it stages was granted. -/
theorem trace_create_at_commit
    {log before after : List JobEvent} {result : Except Failure JobDetail}
    {reply : JobCall.Reply .commit} (h : Trace (Job.create rules stamp owner r) log result)
    (hlog : log = before ++ ⟨.commit, reply⟩ :: after) :
    ∃ reads o granted, before = reads ++ granted ∧
      Trace (Job.resolve rules stamp owner r) reads (.ok o) ∧ AllGranted o.staging granted ∧
      ∀ e ∈ after, e.call ≠ .commit := by
  rcases trace_create h with ⟨e, -, hearly, -⟩ | ⟨reads, o, granted, hreads, hgranted, hend⟩
  · have hcommit := hearly ⟨.commit, reply⟩ (by simp [hlog])
    exact absurd rfl (JobCall.ne_commit hcommit)
  -- Both endings are a commit, followed by calls that are none.
  obtain ⟨reply', rest, hends, hrest⟩ : ∃ reply' rest,
      log = reads ++ granted ++ ⟨.commit, reply'⟩ :: rest ∧
        ∀ e ∈ rest, e.call ≠ .commit := by
    rcases hend with ⟨e, hends, -⟩ | ⟨reply', hends, -⟩
    · exact ⟨.error e, [], hends, by simp⟩
    · exact ⟨.ok (), [⟨.dispatch o.job.uid, reply'⟩], hends, by simp⟩
  have hfirst : (⟨.commit, reply⟩ : JobEvent) ∉ reads ++ granted := fun hmem =>
    JobCall.ne_commit (calls_before_commit hreads hgranted _ hmem).1 rfl
  obtain ⟨mid, rfl, hmid⟩ := exists_split_of_not_mem hfirst (hends ▸ hlog)
  cases mid with
  | nil =>
    obtain ⟨-, rfl⟩ := List.cons.inj hmid
    exact ⟨reads, o, granted, List.append_nil _, hreads, hgranted, hrest⟩
  | cons x mid =>
    obtain ⟨-, rfl⟩ := List.cons.inj hmid
    exact absurd rfl (hrest _ (List.mem_append_right _ List.mem_cons_self))

theorem trace_create_commit {log before after : List JobEvent} {result : Except Failure JobDetail}
    {reply : JobCall.Reply .commit} (h : Trace (Job.create rules stamp owner r) log result)
    (hlog : log = before ++ ⟨.commit, reply⟩ :: after) :
    (∀ e ∈ before, e.call.isStaging = true → JobEvent.Granted e) ∧
      ∀ e ∈ before ++ after, e.call ≠ .commit := by
  obtain ⟨reads, o, granted, rfl, hreads, hgranted, hafter⟩ := trace_create_at_commit h hlog
  have hbefore := calls_before_commit hreads hgranted
  refine ⟨fun e he => (hbefore e he).2, fun e he => ?_⟩
  rcases List.mem_append.mp he with he | he
  · exact JobCall.ne_commit (hbefore e he).1
  · exact hafter e he

theorem AllGranted.mem {calls : List JobCall} {log : List JobEvent} {c : JobCall}
    (h : AllGranted calls log) (hc : c ∈ calls) : ∃ a, ⟨c, .ok a⟩ ∈ log := by
  rw [← h.1] at hc
  obtain ⟨⟨c, reply⟩, he, rfl⟩ := List.mem_map.mp hc
  obtain ⟨a, ha⟩ := h.2 _ he
  have hreply : reply = .ok a := ha
  exact ⟨a, hreply ▸ he⟩

theorem trace_create_dispatch
    {log before after : List JobEvent} {result : Except Failure JobDetail} {uid : Uid}
    {reply : JobCall.Reply (.dispatch uid)} (h : Trace (Job.create rules stamp owner r) log result)
    (hlog : log = before ++ ⟨.dispatch uid, reply⟩ :: after) :
    after = [] ∧ ⟨.commit, .ok ()⟩ ∈ before ∧
      ∃ job : Job, ⟨.insertJob job, .ok ()⟩ ∈ before ∧ job.uid = uid := by
  rcases trace_create h with ⟨e, -, hearly, -⟩ | ⟨reads, o, granted, hreads, hgranted, hend⟩
  · have hdispatch := hearly ⟨.dispatch uid, reply⟩ (by simp [hlog])
    exact absurd rfl (JobCall.ne_dispatch hdispatch uid)
  have hbefore := calls_before_commit hreads hgranted
  have hfirst (reply' : JobCall.Reply .commit) :
      (⟨.dispatch uid, reply⟩ : JobEvent) ∉ reads ++ granted ++ [⟨.commit, reply'⟩] := by
    intro hmem
    rcases List.mem_append.mp hmem with hmem | hmem
    · exact JobCall.ne_dispatch (hbefore _ hmem).1 uid rfl
    · cases List.mem_singleton.mp hmem
  rcases hend with ⟨e, hends, -⟩ | ⟨reply', hends, -⟩
  · have hmem : (⟨.dispatch uid, reply⟩ : JobEvent) ∈ log := by simp [hlog]
    exact absurd (hends ▸ hmem) (hfirst (.error e))
  · have hsplit : reads ++ granted ++ [⟨.commit, .ok ()⟩] ++ [⟨.dispatch o.job.uid, reply'⟩] =
        before ++ ⟨.dispatch uid, reply⟩ :: after := by
      rw [← hlog, hends]
      simp
    -- The handing over cannot come earlier than the last call, so it is the last call.
    obtain ⟨mid, rfl, hmid⟩ := exists_split_of_not_mem (hfirst (.ok ())) hsplit
    cases mid with
    | nil =>
      obtain ⟨hlast, rfl⟩ := List.cons.inj hmid
      cases hlast
      obtain ⟨⟨⟩, hinsert⟩ := hgranted.mem (c := .insertJob o.job) (by simp [Order.staging, Order.writes])
      exact ⟨rfl, by simp, o.job, by simp [hinsert], rfl⟩
    | cons x mid => simp at hmid

theorem trace_create_dispatch_iff {log : List JobEvent} {result : Except Failure JobDetail}
    (h : Trace (Job.create rules stamp owner r) log result) :
    (∃ uid reply, ⟨.dispatch uid, reply⟩ ∈ log) ↔ ⟨.commit, .ok ()⟩ ∈ log := by
  constructor
  · rintro ⟨uid, reply, hmem⟩
    obtain ⟨before, after, hlog⟩ := List.append_of_mem hmem
    rw [hlog]
    exact List.mem_append_left _ (trace_create_dispatch h hlog).2.1
  · intro hmem
    rcases trace_create h with ⟨e, -, hearly, -⟩ | ⟨reads, o, granted, hreads, hgranted, hend⟩
    · exact absurd rfl (JobCall.ne_commit (hearly _ hmem))
    rcases hend with ⟨e, rfl, -⟩ | ⟨reply, rfl, -⟩
    · rcases List.mem_append.mp hmem with hmem | hmem
      · exact absurd rfl (JobCall.ne_commit (calls_before_commit hreads hgranted _ hmem).1)
      · cases List.mem_singleton.mp hmem
    · exact ⟨o.job.uid, reply, by simp⟩

/-! ## Every creation of a job -/

/-- **The creation of a job keeps to the order of calls,** whoever its collaborators are, and however their
answers depend on what happened before. Only a configuration that is found has to be the one that was
asked for. -/
theorem create_keeps_call_order {σ : Type} (rules : JobRules) (stamp : Stamp) (owner : Uid)
    (r : JobRequest) (answer : σ → (c : JobCall) → c.Reply × σ) (s : σ)
    (honest : ∀ s uid, ∀ c : Config, (answer s (.config uid)).1 = .ok c → c.uid = uid) :
    CallOrder rules stamp owner r ((Job.create rules stamp owner r).run.play answer s).log := by
  obtain ⟨hcourse, hanswers⟩ := Workflow.course_play answer s (Job.create rules stamp owner r).run
  -- Only answers that were given matter, and each of them was given in some state.
  have hhonest : ∀ e ∈ ((Job.create rules stamp owner r).run.play answer s).log,
      JobEvent.Honest e := by
    intro e he
    obtain ⟨t, hreply⟩ := hanswers.exists_state e he
    obtain ⟨c, reply⟩ := e
    cases c with
    | config uid => exact fun c hc => honest t uid c (hreply ▸ hc)
    | _ => trivial
  exact {
    phases := trace_create_phases hhonest hcourse
    commit := fun before reply after h => trace_create_commit hcourse h
    dispatch_iff := trace_create_dispatch_iff hcourse
    dispatch := fun before uid reply after h => trace_create_dispatch hcourse h }

/-- Collaborators for trials, whose state is how many calls they still grant. They know one format and
every configuration, and cannot read presets. -/
def JobCall.trialReply (left : Nat) (c : JobCall) : c.Reply × Nat :=
  let reply : c.Reply :=
    match left, c with
    | 0, _ => .error (.database "connection lost")
    | _, .formatsBySlugs _ => .ok [⟨"shp", "ESRI Shapefile Format", "ESRI Shapefile Format"⟩]
    | _, .providersBySlugs _ => .ok []
    | _, .config uid => .ok (.trial uid .preset)
    | _, .preset path => .error (.external ("no such file: " ++ path))
    | _, .begin => .ok ()
    | _, .insertJob _ => .ok ()
    | _, .attachFormats _ _ => .ok ()
    | _, .insertTag _ => .ok ()
    | _, .attachConfig _ _ _ => .ok ()
    | _, .attachProviders _ _ => .ok ()
    | _, .commit => .ok ()
    | _, .dispatch _ => .ok ()
  (reply, left - 1)

theorem trial_keeps_call_order :
    (∀ left uid, ∀ c : Config, (JobCall.trialReply left (.config uid)).1 = .ok c → c.uid = uid) ∧
      CallOrder (.trial .defaults) (.trial ⟨1⟩) ⟨2⟩ .trial
        ((Job.create (.trial .defaults) (.trial ⟨1⟩) ⟨2⟩ .trial).run.play
          JobCall.trialReply 12).log := by
  have honest : ∀ left uid, ∀ c : Config,
      (JobCall.trialReply left (.config uid)).1 = .ok c → c.uid = uid := by
    intro left uid c hc
    cases left with
    | zero => cases hc
    | succ left =>
      cases hc
      rfl
  exact ⟨honest, create_keeps_call_order _ _ _ _ _ _ honest⟩

end MapExport
