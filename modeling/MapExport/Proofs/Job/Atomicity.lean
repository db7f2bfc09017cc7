import MapExport.Proofs.Job.Resolution

/-!
# All or nothing

Whatever fails in the creation of a job, the store is afterwards as it was, or it has one more job, with
everything that belongs to it. In the first case nothing was handed over; in the second the new job was, once,
and whether that went well is what the client is told. A store may be told to refuse at any points, and
presets and the handing over may fail as they like.
-/

set_option autoImplicit false

namespace MapExport

open Workflow (Played Answers Trace)

variable {rules : JobRules} {stamp : Stamp} {owner : Uid} {r : JobRequest}

/-- The job that was handed over, if that is what happened. -/
def JobEvent.handedOver? : JobEvent → Option Uid
  | ⟨.dispatch job, _⟩ => some job
  | _ => none

/-- What the creation of a job in a store comes to. -/
abbrev Creation := Played JobCall JobCall.Reply Session (Except Failure JobDetail)

/-- **Creating a job in a store,** where the outcome of reading a preset and of handing over a job is
given. -/
def Store.create (s : Store) (preset : String → Except Failure TagTable)
    (dispatch : Uid → Except Failure Unit) (rules : JobRules) (stamp : Stamp) (owner : Uid)
    (r : JobRequest) : Creation :=
  (Job.create rules stamp owner r).run.play (Session.collaborate preset dispatch) (.start s)

namespace Creation

/-- **Nothing:** the client is told of a failure, the store is as it was, and nothing was handed over. -/
structure Nothing (s : Store) (c : Creation) : Prop where
  result : ∃ e, c.result = .error e ∧ e.isDispatch = false
  store : c.state.store = s
  handedOver : c.log.filterMap JobEvent.handedOver? = []

/-- **All:** the store has all that an order amounts to and is else as it was, the job was handed over once,
and the client is told how that went. -/
structure All (s : Store) (dispatch : Uid → Except Failure Unit) (o : Order) (c : Creation) :
    Prop where
  result : dispatch o.job.uid = .ok () ∧ c.result = .ok o.detail ∨
    ∃ e, dispatch o.job.uid = .error e ∧ c.result = .error (.dispatch o.job.uid e.message)
  store : c.state.store = s.withJobTables (s.jobTables ++ o.tables)
  handedOver : c.log.filterMap JobEvent.handedOver? = [o.job.uid]

end Creation

theorem filterMap_handedOver?_eq_nil {log : List JobEvent}
    (h : ∀ e ∈ log, e.call.isLookUp = true ∨ e.call.isStaging = true) :
    log.filterMap JobEvent.handedOver? = [] := by
  refine List.filterMap_eq_nil_iff.mpr fun e he => ?_
  obtain ⟨c, reply⟩ := e
  cases c with
  | dispatch job => exact absurd rfl (JobCall.ne_dispatch (h _ he) job)
  | _ => rfl

theorem not_committed {e : JobEvent} (h : e.call.isLookUp = true ∨ e.call.isStaging = true) :
    JobEvent.committed e = false :=
  JobEvent.committed_eq_false e.reply (JobCall.ne_commit h)

/-- **When it comes to the commit,** the order is staged and nothing else. -/
theorem staged_before_commit {reads granted : List JobEvent} {o : Order}
    (hreads : Trace (Job.resolve rules stamp owner r) reads (.ok o))
    (hgranted : AllGranted o.staging granted) :
    (reads ++ granted).foldl Staged.after .empty = o.staged := by
  have hlookUps := (onlyLooksUp_resolve rules stamp owner r).calls _ _ hreads
  have hcommit : .commit ∉ o.staging := fun h =>
    JobCall.ne_commit (.inr (Order.isStaging_of_mem h)) rfl
  rw [List.foldl_append, Staged.foldl_after_lookUps _ hlookUps, hgranted.foldl_after hcommit,
    o.foldl_note_staging]

/-- The store is then still as it was. -/
theorem session_before_commit {reads granted : List JobEvent} {o : Order} (s : Store)
    (hreads : Trace (Job.resolve rules stamp owner r) reads (.ok o))
    (hgranted : AllGranted o.staging granted) :
    (reads ++ granted).foldl Session.after (.start s) = ⟨s, o.staged⟩ := by
  have hstore : ((reads ++ granted).foldl Session.after (.start s)).store = s :=
    Session.foldl_after_store fun e he => not_committed (calls_before_commit hreads hgranted e he).1
  have hstaged : ((reads ++ granted).foldl Session.after (.start s)).staged = o.staged := by
    rw [Session.foldl_after_staged]
    exact staged_before_commit hreads hgranted
  calc (reads ++ granted).foldl Session.after (.start s)
      = ⟨((reads ++ granted).foldl Session.after (.start s)).store,
          ((reads ++ granted).foldl Session.after (.start s)).staged⟩ := rfl
    _ = ⟨s, o.staged⟩ := by rw [hstore, hstaged]

/-- Carrying out the creation with the store as its collaborator leads to that result and that state. -/
theorem Store.run_create (s : Store) (preset : String → Except Failure TagTable)
    (dispatch : Uid → Except Failure Unit) (rules : JobRules) (stamp : Stamp) (owner : Uid)
    (r : JobRequest) :
    ((Job.create rules stamp owner r).run.run (m := StateM Session) fun c session =>
        session.answer (m := Id) preset dispatch c).run (.start s) =
      ((s.create preset dispatch rules stamp owner r).result,
        (s.create preset dispatch rules stamp owner r).state) :=
  Workflow.run_eq_play (Session.collaborate preset dispatch) _ _

/-- The creation of a job in a store is a course, in which the store answers. -/
theorem Store.course_create (s : Store) (preset : String → Except Failure TagTable)
    (dispatch : Uid → Except Failure Unit) (rules : JobRules) (stamp : Stamp) (owner : Uid)
    (r : JobRequest) :
    Trace (Job.create rules stamp owner r) (s.create preset dispatch rules stamp owner r).log
        (s.create preset dispatch rules stamp owner r).result ∧
      Answers (Session.collaborate preset dispatch) (.start s)
        (s.create preset dispatch rules stamp owner r).log
        (s.create preset dispatch rules stamp owner r).state :=
  Workflow.course_play _ _ _

/-- What the client is told after the commit. -/
theorem Order.handedOver_cases {o : Order} {dispatch : Uid → Except Failure Unit}
    {result : Except Failure JobDetail} (h : result = o.handedOver (dispatch o.job.uid)) :
    dispatch o.job.uid = .ok () ∧ result = .ok o.detail ∨
      ∃ e, dispatch o.job.uid = .error e ∧ result = .error (.dispatch o.job.uid e.message) := by
  cases hdispatch : dispatch o.job.uid with
  | ok a =>
    rw [hdispatch] at h
    exact .inl ⟨rfl, h⟩
  | error e =>
    rw [hdispatch] at h
    exact .inr ⟨e, rfl, h⟩

/-- **What the creation of a job comes to:** nothing, or all of the order that its look-ups led to. -/
theorem create_nothing_or_all (s : Store) (preset : String → Except Failure TagTable)
    (dispatch : Uid → Except Failure Unit) (rules : JobRules) (stamp : Stamp) (owner : Uid)
    (r : JobRequest) (fresh : s.Fresh stamp.uid) :
    (s.create preset dispatch rules stamp owner r).Nothing s ∨
      ∃ reads o, Trace (Job.resolve rules stamp owner r) reads (.ok o) ∧
        (∀ e ∈ reads, (Session.start s).Gives preset dispatch e) ∧
        (s.create preset dispatch rules stamp owner r).All s dispatch o := by
  obtain ⟨htrace, hanswers⟩ := s.course_create preset dispatch rules stamp owner r
  have hstate := Session.eq_foldl_after preset dispatch hanswers
  have hlookUps := onlyLooksUp_resolve rules stamp owner r
  rcases trace_create htrace with
    ⟨e, hresult, hcalls, hfail⟩ | ⟨reads, o, granted, hreads, hgranted, hend⟩
  · -- Nothing but look-ups and staging happened, and neither touches the store.
    have hother : e.isDispatch = false := by
      rcases hfail with hfail | ⟨e', rfl⟩
      · rcases hlookUps.failure _ e hfail with hother | ⟨c, hreads, hmem⟩
        · exact hother
        · exact Session.gives_error hreads
            (Session.gives_lookUps hanswers (hlookUps.calls _ _ hfail) _ hmem)
      · rfl
    have hstore : (s.create preset dispatch rules stamp owner r).state.store = s := by
      rw [hstate, Session.foldl_after_store fun e he => not_committed (hcalls e he)]
      rfl
    exact .inl ⟨⟨e, hresult, hother⟩, hstore, filterMap_handedOver?_eq_nil hcalls⟩
  have hbefore := session_before_commit s hreads hgranted
  have hnone : (reads ++ granted).filterMap JobEvent.handedOver? = [] :=
    filterMap_handedOver?_eq_nil fun e he => (calls_before_commit hreads hgranted e he).1
  rcases hend with ⟨e, hlog, hresult⟩ | ⟨reply, hlog, hresult⟩
  · -- The commit was refused, and nothing that was staged is left.
    refine .inl ⟨⟨_, hresult, rfl⟩, ?_, ?_⟩
    · rw [hstate, hlog, List.foldl_append, hbefore]
      rfl
    · rw [hlog, List.filterMap_append, hnone]
      rfl
  · -- The commit was granted, and the handing over was answered.
    rw [hlog] at hanswers
    obtain ⟨mid, hfirst, -, hdispatch, -⟩ := Workflow.answers_append_iff.mp hanswers
    obtain ⟨_, hlooked, -⟩ := Workflow.answers_append_iff.mp hfirst
    have hreply : reply = dispatch o.job.uid := hdispatch.symm
    have huid : o.job.uid = stamp.uid := uid_of_resolve hreads
    refine .inr ⟨reads, o, hreads, Session.gives_lookUps hlooked (hlookUps.calls _ _ hreads), ?_, ?_, ?_⟩
    · rw [hreply] at hresult
      exact Order.handedOver_cases hresult
    · rw [hstate, hlog, List.foldl_append, hbefore, ← Order.apply_staged (huid ▸ fresh)]
      rfl
    · rw [hlog, List.filterMap_append, hnone]
      rfl

end MapExport
