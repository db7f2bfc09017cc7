import MapExport.Proofs.Job.Success
import MapExport.Web.Routes

/-!
# What an answer tells of a job

A client that orders a job sees the answer and nothing else, and by the answer it decides whether to order again. So
the answer has to tell whether the job exists, whatever the request says and whatever goes wrong. It does: a job exists
just if the answer is that it was accepted or that it could not be handed over, and it was handed over just if it was
accepted (`answer_tells_whether_the_job_exists`). Every other answer is about a request that left no trace, and one
with which the client is blamed was given before anything was written.
-/

set_option autoImplicit false

namespace MapExport

open Workflow (Answers Played Trace)

/-! ## Answers to failures -/

/-- **The kind of failure** that the document of an answer names, if it names one. -/
def Web.Response.failureId? (a : Web.Response) : Option String :=
  match a.body.bind (Json.member? "id") with
  | some (.text id) => some id
  | _ => none

/-- **Whether the client is blamed** for a failure. -/
def Failure.isClients (e : Failure) : Bool := e.status = 400 || e.status = 404

namespace Failure

/-- The complaints about a request are lists of texts, and so they name no kind of failure. -/
theorem failureId?_invalid (complaints : Complaints) :
    (Web.failed (.invalid complaints)).failureId? = none := by
  have hmember : ∀ told, (payload (.invalid complaints)).member? "id" = some told → ∃ texts, told = .texts texts := by
    intro told htold
    obtain ⟨entry, hfind, rfl⟩ := Option.map_eq_some_iff.mp htold
    obtain ⟨⟨field, cs⟩, -, rfl⟩ := List.mem_map.mp (List.mem_of_find?_eq_some hfind)
    exact ⟨_, rfl⟩
  have hbody : (Web.failed (.invalid complaints)).body = some (payload (.invalid complaints)) := rfl
  unfold Web.Response.failureId?
  rw [hbody, Option.bind_some]
  cases htold : (payload (.invalid complaints)).member? "id" with
  | none => rfl
  | some told =>
    obtain ⟨texts, rfl⟩ := hmember told htold
    rfl

/-- **What the document of an answer to a failure names.** -/
theorem failureId?_failed (e : Failure) : (Web.failed e).failureId? =
    match e with
    | invalid _ | unknownFormats _ | badPreset _ => none
    | badRequest _ => some "bad_request"
    | notFound _ => some "not_found"
    | dispatch _ _ => some "dispatch_error"
    | _ => some "server_error" := by
  cases e with
  | invalid complaints => exact failureId?_invalid complaints
  | _ => rfl

/-- A failure to hand over a job is told as one, and no other failure is. -/
theorem failureId?_eq_dispatch_iff {e : Failure} :
    (Web.failed e).failureId? = some "dispatch_error" ↔ e.isDispatch = true := by
  rw [failureId?_failed]
  cases e <;> simp [isDispatch]

/-- **Where the client is not blamed** and the job was not written, the answer is a failure of the service. -/
theorem status_cases {e : Failure} (h : e.isDispatch = false) :
    e.status = 400 ∨ e.status = 404 ∨ e.status = 500 ∧ (Web.failed e).failureId? = some "server_error" := by
  cases e with
  | dispatch job reason => cases h
  | invalid _ | unknownFormats _ | badPreset _ | badRequest _ => exact .inl rfl
  | notFound _ => exact .inr (.inl rfl)
  | _ => exact .inr (.inr ⟨rfl, rfl⟩)

end Failure

/-- **The client is blamed early:** such a failure ends the creation of a job before its transaction begins, whoever the
collaborators are. -/
theorem early_of_isClients {rules : JobRules} {stamp : Stamp} {owner : Uid} {r : JobRequest} {log : List JobEvent}
    {e : Failure} (h : Trace (Job.create rules stamp owner r) log (.error e)) (hclients : e.isClients = true) :
    ∀ ev ∈ log, ev.call.isLookUp = true := by
  rcases trace_create h with ⟨e', hresult, -, hfail⟩ | ⟨reads, o, granted, -, -, hend⟩
  · obtain rfl := Except.error.inj hresult
    rcases hfail with hfail | ⟨e', rfl⟩
    · exact (onlyLooksUp_resolve rules stamp owner r).calls _ _ hfail
    · cases hclients
  · -- From the transaction on a failure is worded as one of the service.
    rcases hend with ⟨e', -, hresult⟩ | ⟨reply, -, hresult⟩
    · cases hresult
      cases hclients
    · cases reply with
      | ok _ => cases hresult
      | error e' =>
        cases hresult
        cases hclients

namespace Web.Request

variable {r : Web.Request} {e : Failure}

/-- What cannot be read of a request is the client's fault. -/
theorem order_error (h : r.order = .error e) : ∃ reason, e = .badRequest reason := by
  unfold order at h
  split at h
  · exact ⟨_, (Except.error.inj h).symm⟩
  split at h
  · exact ⟨_, (Except.error.inj h).symm⟩
  split at h
  · cases h
  · exact ⟨_, (Except.error.inj h).symm⟩

theorem owner_error (h : r.owner = .error e) : ∃ reason, e = .badRequest reason := by
  unfold owner at h
  split at h
  · exact ⟨_, (Except.error.inj h).symm⟩
  split at h
  · exact ⟨_, (Except.error.inj h).symm⟩
  · unfold clientUid at h
    split at h
    · cases h
    · exact ⟨_, (Except.error.inj h).symm⟩

end Web.Request

/-! ## Answering with a store -/

/-- What answering a request comes to. -/
abbrev Answered := Played JobCall JobCall.Reply Session Web.Response

/-- **One job more:** the store has all that one order amounts to, under the identifier, and is else as it was. -/
def Store.Gains (s : Store) (uid : Uid) (t : Store) : Prop :=
  ∃ o : Order, o.job.uid = uid ∧ t = s.withJobTables (s.jobTables ++ o.tables)

theorem Store.Gains.jobs {s t : Store} {uid : Uid} (h : s.Gains uid t) :
    ∃ job : Job, job.uid = uid ∧ t.jobs = s.jobs ++ [(uid, job)] := by
  obtain ⟨o, rfl, rfl⟩ := h
  exact ⟨o.job, rfl, rfl⟩

theorem Store.Gains.ne {s t : Store} {uid : Uid} (h : s.Gains uid t) : t ≠ s := by
  rintro rfl
  obtain ⟨job, -, hjobs⟩ := h.jobs
  have hlength := congrArg List.length hjobs
  rw [List.length_append, List.length_singleton] at hlength
  omega

namespace Answered

/-- **No job:** the answer is about a failure, the store is as it was, and nothing was handed over. -/
structure NoJob (s : Store) (a : Answered) : Prop where
  result : ∃ e : Failure, a.result = Web.failed e ∧ e.isDispatch = false ∧
    (e.isClients = true → ∀ ev ∈ a.log, ev.call.isLookUp = true)
  store : a.state.store = s
  handedOver : a.log.filterMap JobEvent.handedOver? = []

/-- **A job:** the store has it, it was handed over once, and the answer says how that went. -/
structure OneJob (s : Store) (uid : Uid) (a : Answered) : Prop where
  result : ⟨.dispatch uid, .ok ()⟩ ∈ a.log ∧ (∃ detail : JobDetail, a.result = ⟨202, some detail.print⟩) ∨
    ⟨.dispatch uid, .ok ()⟩ ∉ a.log ∧ ∃ reason, a.result = Web.failed (.dispatch uid reason)
  store : s.Gains uid a.state.store
  handedOver : a.log.filterMap JobEvent.handedOver? = [uid]

/-- **An answer that tells whether a job exists.** -/
structure TellsOfJob (s : Store) (uid : Uid) (a : Answered) : Prop where
  job_iff : a.result.status = 202 ∨ a.result.failureId? = some "dispatch_error" ↔ s.Gains uid a.state.store
  accepted_iff : a.result.status = 202 ↔ s.Gains uid a.state.store ∧ ⟨.dispatch uid, .ok ()⟩ ∈ a.log
  /-- Every other answer is about a request that left no trace. -/
  other : a.result.status ≠ 202 → a.result.failureId? ≠ some "dispatch_error" →
    (a.result.status = 400 ∨ a.result.status = 404 ∨
      a.result.status = 500 ∧ a.result.failureId? = some "server_error") ∧
    a.state.store = s ∧ a.log.filterMap JobEvent.handedOver? = []
  /-- The client is blamed only for what happened before the transaction. -/
  early : a.result.status = 400 ∨ a.result.status = 404 → ∀ ev ∈ a.log, ev.call.isLookUp = true

variable {s : Store} {uid : Uid} {a : Answered}

theorem NoJob.tells (h : NoJob s a) : TellsOfJob s uid a := by
  obtain ⟨⟨e, hresult, hother, hearly⟩, hstore, hhanded⟩ := h
  -- A store that is as it was has not gained a job, so both equivalences are between what is false.
  have hno : ¬ s.Gains uid a.state.store := fun hgains => hgains.ne hstore
  have hstatus := Failure.status_cases hother
  have hid : a.result.failureId? ≠ some "dispatch_error" := by
    rw [hresult, Ne, Failure.failureId?_eq_dispatch_iff, hother]
    exact Bool.false_ne_true
  have hrejected : a.result.status ≠ 202 := by
    rw [hresult]
    show e.status ≠ 202
    rcases hstatus with h | h | ⟨h, -⟩ <;> rw [h] <;> decide
  have hblamed : a.result.status = 400 ∨ a.result.status = 404 → e.isClients = true := by
    rw [hresult]
    intro hclients
    have hclients : e.status = 400 ∨ e.status = 404 := hclients
    simpa [Failure.isClients] using hclients
  exact
    { job_iff := ⟨fun h => (h.elim hrejected hid).elim, fun h => absurd h hno⟩
      accepted_iff := ⟨fun h => absurd h hrejected, fun h => absurd h.1 hno⟩
      other := fun _ _ => ⟨by rwa [hresult], hstore, hhanded⟩
      early := fun hclients => hearly (hblamed hclients) }

theorem OneJob.tells (h : OneJob s uid a) : TellsOfJob s uid a := by
  obtain ⟨hresult, hgains, -⟩ := h
  rcases hresult with ⟨htaken, detail, hresult⟩ | ⟨htaken, reason, hresult⟩
  · have haccepted : a.result.status = 202 := by rw [hresult]
    exact
      { job_iff := ⟨fun _ => hgains, fun _ => .inl haccepted⟩
        accepted_iff := ⟨fun _ => ⟨hgains, htaken⟩, fun _ => haccepted⟩
        other := fun h => absurd haccepted h
        early := fun h => by omega }
  · have hstatus : a.result.status = 500 := by
      rw [hresult]
      rfl
    have hid : a.result.failureId? = some "dispatch_error" := by
      rw [hresult]
      rfl
    exact
      { job_iff := ⟨fun _ => hgains, fun _ => .inr hid⟩
        accepted_iff := ⟨fun h => by omega, fun h => absurd h.2 htaken⟩
        other := fun _ h => absurd hid h
        early := fun h => by omega }

end Answered

namespace Store

/-- **Answering a request** with a store, where the outcome of reading a preset and of handing over a job is given. -/
def respond (s : Store) (preset : String → Except Failure TagTable) (dispatch : Uid → Except Failure Unit)
    (rules : JobRules) (stamp : Stamp) (runMode : Option String) (r : Web.Request) : Answered :=
  (Web.respond rules stamp runMode r).play (Session.collaborate preset dispatch) (.start s)

/-- Carrying out the answering with the store as its collaborator leads to that answer and that state. -/
theorem run_respond (s : Store) (preset : String → Except Failure TagTable) (dispatch : Uid → Except Failure Unit)
    (rules : JobRules) (stamp : Stamp) (runMode : Option String) (r : Web.Request) :
    ((Web.respond rules stamp runMode r).run (m := StateM Session) fun c session =>
        session.answer (m := Id) preset dispatch c).run (.start s) =
      ((s.respond preset dispatch rules stamp runMode r).result,
        (s.respond preset dispatch rules stamp runMode r).state) :=
  Workflow.run_eq_play (Session.collaborate preset dispatch) _ _

/-- The calls of the answering are answered by the store. -/
theorem answers_respond (s : Store) (preset : String → Except Failure TagTable) (dispatch : Uid → Except Failure Unit)
    (rules : JobRules) (stamp : Stamp) (runMode : Option String) (r : Web.Request) :
    Answers (Session.collaborate preset dispatch) (.start s) (s.respond preset dispatch rules stamp runMode r).log
      (s.respond preset dispatch rules stamp runMode r).state :=
  (Workflow.course_play _ _ _).2

variable {s : Store} {preset : String → Except Failure TagTable} {dispatch : Uid → Except Failure Unit}
  {rules : JobRules} {stamp : Stamp} {owner : Uid} {order : JobRequest} {runMode : Option String}
  {r : Web.Request}

/-- **The order of a job** is answered at once if it cannot be read, and else as the creation of the job ends. -/
theorem respond_cases (s : Store) (preset : String → Except Failure TagTable) (dispatch : Uid → Except Failure Unit)
    (rules : JobRules) (stamp : Stamp) (runMode : Option String) (posted : r.route = .order) :
    (∃ reason, s.respond preset dispatch rules stamp runMode r = ⟨[], Web.failed (.badRequest reason), .start s⟩ ∧
        ∀ order owner, r.order = .ok order → r.owner ≠ .ok owner) ∨
      ∃ order owner, r.order = .ok order ∧ r.owner = .ok owner ∧
        let c := s.create preset dispatch rules stamp owner order
        s.respond preset dispatch rules stamp runMode r = ⟨c.log, Web.ordered c.result, c.state⟩ := by
  have hrespond : s.respond preset dispatch rules stamp runMode r =
      let c := (Web.orderJob rules stamp r).run.play (Session.collaborate preset dispatch) (.start s)
      ⟨c.log ++ [], Web.ordered c.result, c.state⟩ := by
    rw [respond, Web.respond, posted, Workflow.play_bind]
    rfl
  rw [hrespond, Web.orderJob]
  -- The body is read before the owner, and with either missing nothing is asked for.
  cases horder : r.order with
  | error e =>
    obtain ⟨reason, rfl⟩ := Web.Request.order_error horder
    exact .inl ⟨reason, rfl, nofun⟩
  | ok order =>
    cases howner : r.owner with
    | error e =>
      obtain ⟨reason, rfl⟩ := Web.Request.owner_error howner
      exact .inl ⟨reason, rfl, fun _ _ _ => nofun⟩
    | ok owner =>
      refine .inr ⟨order, owner, rfl, rfl, ?_⟩
      simp only [List.append_nil]
      rfl

/-- Whether a job is taken is a matter of the queue alone. -/
theorem dispatch_eq_of_mem {session session' : Session} {log : List JobEvent} {uid : Uid} {reply : Except Failure Unit}
    (h : Answers (Session.collaborate preset dispatch) session log session') (hmem : ⟨.dispatch uid, reply⟩ ∈ log) :
    dispatch uid = reply := by
  obtain ⟨t, hreply⟩ := h.exists_state _ hmem
  exact hreply.symm

theorem dispatch_mem_iff {session session' : Session} {log : List JobEvent} {uid : Uid}
    (h : Answers (Session.collaborate preset dispatch) session log session')
    (hhanded : log.filterMap JobEvent.handedOver? = [uid]) :
    ⟨.dispatch uid, .ok ()⟩ ∈ log ↔ dispatch uid = .ok () := by
  refine ⟨dispatch_eq_of_mem h, fun htaken => ?_⟩
  have huid : uid ∈ log.filterMap JobEvent.handedOver? := by
    rw [hhanded]
    exact List.mem_singleton_self uid
  obtain ⟨⟨c, reply⟩, hmem, hjob⟩ := List.mem_filterMap.mp huid
  -- Only a handing over hands over a job; its answer is that of the queue.
  cases c with
  | dispatch job =>
    obtain rfl := Option.some.inj hjob
    have hreply : reply = .ok () := (dispatch_eq_of_mem h hmem).symm.trans htaken
    rwa [hreply] at hmem
  | _ => cases hjob

/-- **The answer to an order that can be read** is about no job, and then something stood in its way, or it is about the
one that the store has now. -/
theorem create_noJob_or_oneJob (s : Store) (preset : String → Except Failure TagTable)
    (dispatch : Uid → Except Failure Unit) (rules : JobRules) (owner : Uid) (order : JobRequest)
    (fresh : s.Fresh stamp.uid) :
    let c := s.create preset dispatch rules stamp owner order
    Answered.NoJob s ⟨c.log, Web.ordered c.result, c.state⟩ ∧ ¬ Unhindered s preset rules order ∨
      Answered.OneJob s stamp.uid ⟨c.log, Web.ordered c.result, c.state⟩ := by
  intro c
  obtain ⟨htrace, hanswers⟩ := s.course_create preset dispatch rules stamp owner order
  rcases create_nothing_or_all s preset dispatch rules stamp owner order fresh with
    hnothing | ⟨reads, o, hreads, -, hall⟩
  · obtain ⟨e, hresult, hother⟩ := hnothing.result
    rw [hresult] at htrace
    refine .inl ⟨⟨⟨e, ?_, hother, early_of_isClients htrace⟩, hnothing.store, hnothing.handedOver⟩,
      fun h => h.not_nothing dispatch stamp owner hnothing⟩
    exact congrArg Web.ordered hresult
  · have huid : o.job.uid = stamp.uid := uid_of_resolve hreads
    have hhanded : c.log.filterMap JobEvent.handedOver? = [stamp.uid] := by rw [← huid, hall.handedOver]
    have htaken := dispatch_mem_iff hanswers hhanded
    refine .inr ⟨?_, ⟨o, huid, hall.store⟩, hhanded⟩
    rcases hall.result with ⟨hdispatch, hresult⟩ | ⟨e, hdispatch, hresult⟩
    · rw [huid] at hdispatch
      exact .inl ⟨htaken.mpr hdispatch, o.detail, congrArg Web.ordered hresult⟩
    · rw [huid] at hdispatch hresult
      refine .inr ⟨fun hmem => ?_, e.message, congrArg Web.ordered hresult⟩
      have hok := htaken.mp hmem
      rw [hdispatch] at hok
      cases hok

/-- **The answer to the order of a job** is about no job, or about the one that the store has now. -/
theorem respond_noJob_or_oneJob (s : Store) (preset : String → Except Failure TagTable)
    (dispatch : Uid → Except Failure Unit) (rules : JobRules) (runMode : Option String)
    (posted : r.route = .order) (fresh : s.Fresh stamp.uid) :
    let a := s.respond preset dispatch rules stamp runMode r
    a.NoJob s ∧ (∀ order owner, r.order = .ok order → r.owner = .ok owner → ¬ Unhindered s preset rules order) ∨
      a.OneJob s stamp.uid := by
  intro a
  rcases s.respond_cases preset dispatch rules stamp runMode posted with
    ⟨reason, hresponse, hunread⟩ | ⟨order, owner, horder, howner, hresponse⟩
  · have ha : a = ⟨[], Web.failed (.badRequest reason), .start s⟩ := hresponse
    rw [ha]
    exact .inl ⟨⟨⟨.badRequest reason, rfl, rfl, fun _ ev hev => absurd hev List.not_mem_nil⟩, rfl, rfl⟩,
      fun order owner horder howner => absurd howner (hunread order owner horder)⟩
  · let c := s.create preset dispatch rules stamp owner order
    have ha : a = ⟨c.log, Web.ordered c.result, c.state⟩ := hresponse
    rw [ha]
    refine (s.create_noJob_or_oneJob preset dispatch rules owner order fresh).imp_left ?_
    rintro ⟨hnoJob, hhindered⟩
    refine ⟨hnoJob, fun order' _ horder' _ => ?_⟩
    obtain rfl := Except.ok.inj (horder.symm.trans horder')
    exact hhindered

/-- Where the queue does not take a job that exists, the answer says so. -/
theorem dispatch_error_of_refused
    (h : (s.respond preset dispatch rules stamp runMode r).TellsOfJob s stamp.uid)
    (hrefused : dispatch stamp.uid ≠ .ok ())
    (hgains : s.Gains stamp.uid (s.respond preset dispatch rules stamp runMode r).state.store) :
    (s.respond preset dispatch rules stamp runMode r).result.failureId? = some "dispatch_error" := by
  refine (h.job_iff.mpr hgains).resolve_left fun haccepted => hrefused ?_
  exact dispatch_eq_of_mem (s.answers_respond ..) (h.accepted_iff.mp haccepted).2

end Store

/-- **The answer tells whether the job exists.** For an identifier that is fresh, the answer to the order of a job is
that it was accepted, or that it could not be handed over, just if the store has the job now; and the first of these
just if the job was handed over as well. After every other answer the store is as it was. If the request can be read
and nothing stands in its way, the job exists. -/
theorem answer_tells_whether_the_job_exists (s : Store) (preset : String → Except Failure TagTable)
    (dispatch : Uid → Except Failure Unit) (rules : JobRules) (stamp : Stamp) (runMode : Option String)
    (r : Web.Request) (posted : r.path = "/api/jobs" ∧ r.method = "POST") (fresh : s.Fresh stamp.uid) :
    (s.respond preset dispatch rules stamp runMode r).TellsOfJob s stamp.uid ∧
      ∀ order owner, r.order = .ok order → r.owner = .ok owner → Unhindered s preset rules order →
        s.Gains stamp.uid (s.respond preset dispatch rules stamp runMode r).state.store := by
  have hroute : r.route = .order := if_pos posted
  rcases s.respond_noJob_or_oneJob preset dispatch rules runMode hroute fresh with ⟨hnoJob, hhindered⟩ | honeJob
  · exact ⟨hnoJob.tells, fun order owner horder howner h => absurd h (hhindered order owner horder howner)⟩
  · exact ⟨honeJob.tells, fun _ _ _ _ _ => honeJob.store⟩

/-- A request for trials. Its order refers to nothing but a format. -/
def Web.Request.trial : Web.Request where
  method := "POST"
  target := "/api/jobs?from=app"
  headers := [("Content-Type", "application/json".toUTF8.toList),
    ("X-User-Id", "00000000-0000-0000-0000-000000000002".toUTF8.toList)]
  body := String.toUTF8 "\x7b\"name\":\"Harbour\",\"description\":\"The harbour\",\"formats\":[\"shp\"],
    \"geometry\":\x7b\"type\":\"Polygon\",\"coordinates\":[[[8,53],[9,53],[9,54],[8,53]]]\x7d\x7d" |>.toList

/-- It can be read, and nothing stands in the way of its order. -/
theorem Web.Request.trial_read : ∃ order owner, Web.Request.trial.order = .ok order ∧
    Web.Request.trial.owner = .ok owner ∧
    ∀ preset policy, Unhindered (.trial []) preset (.trial policy) order := by
  have horder : Web.Request.trial.order.toOption.map (fun order =>
      ((order.complaints fun p => (p.lon, p.lat)).isEmpty, order.formats, Job.referredConfigs order)) =
        some (true, ["shp"], []) := by decide +kernel
  have howner : Web.Request.trial.owner.toOption = some ⟨2⟩ := by decide +kernel
  obtain ⟨order, hread, hrefers⟩ := Option.map_eq_some_iff.mp horder
  obtain ⟨hnone, hnamed⟩ := Prod.mk.inj hrefers
  obtain ⟨hformats, hconfigs⟩ := Prod.mk.inj hnamed
  refine ⟨order, ⟨2⟩, eq_ok_of_toOption hread, eq_ok_of_toOption howner, fun preset policy => ?_⟩
  refine ⟨if_pos hnone, ?_, ?_, by decide, ⟨Preset.defaultTable, ?_⟩, rfl⟩
  · rw [hformats]
    decide
  · rw [hconfigs]
    exact fun _ h => absurd h List.not_mem_nil
  · unfold Store.found
    rw [hconfigs]
    rfl

/-- Nobody takes jobs, and so the answer is that the job exists and could not be handed over. -/
theorem trial_answer_tells :
    let s := Store.trial []
    let a := s.respond (fun _ => .error (.file "gone")) (fun _ => .error (.queue "no workers")) (.trial .reject)
      (.trial ⟨1⟩) none .trial
    (Web.Request.trial.path = "/api/jobs" ∧ Web.Request.trial.method = "POST") ∧ s.Fresh ⟨1⟩ ∧ a.TellsOfJob s ⟨1⟩ ∧
      a.result.failureId? = some "dispatch_error" ∧ s.Gains ⟨1⟩ a.state.store := by
  intro s a
  have posted : Web.Request.trial.path = "/api/jobs" ∧ Web.Request.trial.method = "POST" := by decide +kernel
  have fresh : s.Fresh ⟨1⟩ := by decide
  obtain ⟨order, owner, horder, howner, hunhindered⟩ := Web.Request.trial_read
  obtain ⟨htells, hmade⟩ := answer_tells_whether_the_job_exists s (fun _ => .error (.file "gone"))
    (fun _ => .error (.queue "no workers")) (.trial .reject) (.trial ⟨1⟩) none .trial posted fresh
  have hgains := hmade order owner horder howner (hunhindered _ _)
  exact ⟨posted, fresh, htells, Store.dispatch_error_of_refused htells nofun hgains, hgains⟩

end MapExport
