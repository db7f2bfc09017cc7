import Mathlib.Logic.Function.Basic
import MapExport.Geocoding.Token
import MapExport.Proofs.Workflow.Course

/-!
# Sharing a token

Any number of callers want a token, a new token or the headers that show one, all at the same time. Each of them looks
whether a token is kept, sends a request and has the answer kept, and between any two of these steps anything may
happen in the others. So several may find that nothing is kept, and their answers come in any order.

Where one caller stands is told by its own log (`Standing`): it has something kept only after an answer that gave it,
and it ends with a token only after such an answer or after a look that found one. With all logs together, what is
kept and what is found was given by some answer before (`Trusted`).
-/

set_option autoImplicit false

namespace MapExport.Geocoding

open Web
open Workflow (Course)

/-! ## Taking turns -/

/-- **What a caller wants.** -/
inductive Errand where
  | token
  | refresh
  | headers

/-- **What a caller gets.** -/
inductive Gain where
  | token (t : Option String)
  | headers (shown : List (String × String))

/-- What is left to do for a caller. -/
abbrev ErrandFlow := Workflow TokenCall TokenCall.Reply (Except Failure Gain)

/-- A call on the way to a token, with its answer. -/
abbrev TokenEvent := Workflow.Event TokenCall TokenCall.Reply

/-- **What a caller does.** -/
def Errand.flow (url : Option String) : Errand → ErrandFlow
  | token => (Gain.token <$> Steps.token url).run
  | refresh => (Gain.token <$> Steps.refresh url).run
  | headers => (Gain.headers <$> Steps.headers url).run

/-- **A caller:** what is left to do, and what was asked for so far. -/
structure Caller where
  todo : ErrandFlow
  log : List TokenEvent

/-- **A token that is shared** by callers. -/
structure SharedToken (ι : Type) where
  kept : Option String
  callers : ι → Caller

/-- **A turn of a caller.** It makes its next call, and if that is a request, the network answers what it likes. -/
structure TokenTurn (ι : Type) where
  caller : ι
  network : (f : Fetch) → FetchReply f

/-- What a call is answered, and what is kept after it. -/
def answerShared (network : (f : Fetch) → FetchReply f) (kept : Option String) :
    (c : TokenCall) → c.Reply × Option String
  | .kept => (kept, kept)
  | .keep token => ((), some token)
  | .fetch f => (network f, kept)

namespace SharedToken

variable {ι : Type}

/-- **The beginning:** nothing is kept, and no caller has made a call yet. -/
def start (url : Option String) (errands : ι → Errand) : SharedToken ι :=
  ⟨none, fun i => ⟨(errands i).flow url, []⟩⟩

/-- **After a call** of a caller, with what is then left to do. -/
def afterCall [DecidableEq ι] (st : SharedToken ι) (i : ι) (e : TokenEvent) (todo : ErrandFlow)
    (kept : Option String) : SharedToken ι :=
  ⟨kept, Function.update st.callers i ⟨todo, (st.callers i).log ++ [e]⟩⟩

/-- **Taking a turn.** A caller with nothing left to do leaves everything as it is. -/
def take [DecidableEq ι] (st : SharedToken ι) (turn : TokenTurn ι) : SharedToken ι :=
  match (st.callers turn.caller).todo with
  | .done _ => st
  | .call c next =>
    let answered := answerShared turn.network st.kept c
    st.afterCall turn.caller ⟨c, answered.1⟩ (next answered.1) answered.2

/-- Taking one turn after another. -/
def run [DecidableEq ι] (st : SharedToken ι) (turns : List (TokenTurn ι)) : SharedToken ι := turns.foldl take st

end SharedToken

/-! ## Where a caller stands -/

/-- **What an answer of the service gives.** -/
def received (address : Address) : Except String Fetched → Except Failure String
  | .error cause => .error (.external (FetchFault.unsent address cause).message)
  | .ok answer =>
    if isFailure answer.status then .error (.external (FetchFault.badStatus address answer.status).message)
    else ofBody answer.asRead.body

/-- **An event that gives a token:** a request was answered, the status tells of no failure, and the token is in the
body. -/
def TokenEvent.Grants (e : TokenEvent) (t : String) : Prop :=
  ∃ (f : Fetch) (answer : Fetched), e = ⟨.fetch f, (.ok answer : Except String Fetched)⟩ ∧
    isFailure answer.status = false ∧ ofBody answer.asRead.body = .ok t

theorem TokenEvent.Grants.answer {f : Fetch} {reply : Except String Fetched} {t : String}
    (h : TokenEvent.Grants ⟨.fetch f, reply⟩ t) :
    ∃ answer, reply = .ok answer ∧ isFailure answer.status = false ∧ ofBody answer.asRead.body = .ok t := by
  obtain ⟨f', answer, heq, hstatus, hbody⟩ := h
  injection heq with hcall hreply
  cases hcall
  exact ⟨answer, hreply, hstatus, hbody⟩

theorem received_eq_ok_iff {address : Address} {reply : Except String Fetched} {t : String} :
    received address reply = .ok t ↔
      ∃ answer, reply = .ok answer ∧ isFailure answer.status = false ∧ ofBody answer.asRead.body = .ok t := by
  cases reply with
  | error cause => simp [received]
  | ok answer => by_cases hfailure : isFailure answer.status <;> simp [received, hfailure]

/-- The request for a token, call by call. -/
theorem relay_fetchToken (url : String) :
    Steps.relay (fetchToken url).run =
      match serviceAddress url with
      | .error fault => .done (.error (.external fault.message))
      | .ok address => .call (.fetch ⟨"GET", address, ""⟩) fun reply => .done (received address reply) := by
  unfold fetchToken fetchGood
  cases serviceAddress url with
  | error fault => rfl
  | ok address =>
    refine congrArg (Workflow.call (TokenCall.fetch ⟨"GET", address, ""⟩)) (funext fun reply => ?_)
    cases reply with
    | error cause => rfl
    | ok answer =>
      rw [received, ← Fetched.status_asRead]
      dsimp [Workflow.bind, ExceptT.bindCont, Except.map, Except.mapError]
      cases isFailure answer.asRead.status with
      | false => rfl
      | true => rfl

/-- What is left to do once the answer is there. -/
def renewalAfter {α : Type} (finish : String → Except Failure α) :
    Except Failure String → Workflow TokenCall TokenCall.Reply (Except Failure α)
  | .error e => .done (.error e)
  | .ok t => .call (.keep t) fun _ => .done (finish t)

/-- **Getting a new token,** call by call, and what is made of it at the end. -/
def renewal {α : Type} (url : String) (finish : String → Except Failure α) :
    Workflow TokenCall TokenCall.Reply (Except Failure α) :=
  match serviceAddress url with
  | .error fault => .done (.error (.external fault.message))
  | .ok address => .call (.fetch ⟨"GET", address, ""⟩) fun reply => renewalAfter finish (received address reply)

theorem run_refresh (url : String) : (Steps.refresh (some url)).run = renewal url fun t => .ok (some t) := by
  show (do
    let token ← ExceptT.mk (Steps.relay (fetchToken url).run)
    Steps.ask (.keep token)
    return some token : TokenSteps (Option String)).run = _
  simp only [ExceptT.run_bind, ExceptT.run_mk, relay_fetchToken, renewal]
  cases serviceAddress url with
  | error fault => rfl
  | ok address =>
    refine congrArg (Workflow.call (TokenCall.fetch ⟨"GET", address, ""⟩)) (funext fun reply => ?_)
    dsimp
    cases received address reply with
    | error e => rfl
    | ok t => rfl

theorem renewal_bind {α β : Type} (url : String) (finish : String → Except Failure α)
    (k : α → Except Failure β) :
    (renewal url finish >>= fun result => .done (result.bind k)) = renewal url fun t => (finish t).bind k := by
  unfold renewal
  cases serviceAddress url with
  | error fault => rfl
  | ok address =>
    refine congrArg (Workflow.call (TokenCall.fetch ⟨"GET", address, ""⟩)) (funext fun reply => ?_)
    dsimp
    cases received address reply with
    | error e => rfl
    | ok t => rfl

/-- What a caller gets from a token. -/
def Errand.gain : Errand → String → Except Failure Gain
  | token, t => .ok (.token (some t))
  | refresh, t => .ok (.token (some t))
  | headers, t => (headersOf t).map .headers

/-- What a caller gets where no token is needed. -/
def Errand.nothing : Errand → Gain
  | token => .token none
  | refresh => .token none
  | headers => .headers []

/-- What a caller makes of a token, or of having none. -/
def Errand.finish (errand : Errand) : Option String → Except Failure Gain
  | some t => errand.gain t
  | none => .ok errand.nothing

/-- Whether a caller looks first. -/
def Errand.looks : Errand → Bool
  | token => true
  | refresh => false
  | headers => true

/-- **A caller comes to a token,** and makes of it what is wanted. -/
theorem flow_eq_bind (url : Option String) (errand : Errand) :
    errand.flow url = (if errand.looks then Steps.token url else Steps.refresh url).run >>= fun found =>
      .done (found.bind errand.finish) := by
  cases errand with
  | token =>
    rw [Errand.flow, ExceptT.run_map, map_eq_pure_bind]
    refine congrArg ((Steps.token url).run >>= ·) (funext fun found => ?_)
    rcases found with e | t | t <;> rfl
  | refresh =>
    rw [Errand.flow, ExceptT.run_map, map_eq_pure_bind]
    refine congrArg ((Steps.refresh url).run >>= ·) (funext fun found => ?_)
    rcases found with e | t | t <;> rfl
  | headers =>
    rw [Errand.flow, ExceptT.run_map, map_eq_pure_bind, Steps.headers, ExceptT.run_bind, bind_assoc]
    refine congrArg ((Steps.token url).run >>= ·) (funext fun found => ?_)
    rcases found with e | t | t <;> rfl

theorem flow_without_url (errand : Errand) : errand.flow none = .done (.ok errand.nothing) := by
  cases errand <;> rfl

theorem flow_of_not_looks {errand : Errand} (url : String) (h : errand.looks = false) :
    errand.flow (some url) = renewal url errand.gain := by
  rw [flow_eq_bind, h, if_neg Bool.false_ne_true, run_refresh, renewal_bind]
  rfl

theorem flow_of_looks {errand : Errand} (url : String) (h : errand.looks = true) :
    errand.flow (some url) = .call .kept fun found =>
      match (found : Option String) with
      | some t => .done (errand.gain t)
      | none => renewal url errand.gain := by
  rw [flow_eq_bind, h, if_pos rfl]
  refine congrArg (Workflow.call TokenCall.kept) (funext fun found => ?_)
  cases (found : Option String) with
  | some t => rfl
  | none =>
    show ((Steps.refresh (some url)).run >>= fun found => .done (found.bind errand.finish)) = _
    rw [run_refresh, renewal_bind]
    rfl

/-- **Where a caller stands** who gets a new token. -/
inductive Renewing (gain : String → Except Failure Gain) : List TokenEvent → ErrandFlow → Prop where
  | unsent (e : Failure) : Renewing gain [] (.done (.error e))
  | ahead (f : Fetch) (next : FetchReply f → ErrandFlow) : Renewing gain [] (.call (.fetch f) next)
  | refused (f : Fetch) (reply : FetchReply f) (e : Failure) :
      (∀ t, ¬ TokenEvent.Grants ⟨.fetch f, reply⟩ t) → Renewing gain [⟨.fetch f, reply⟩] (.done (.error e))
  | given (f : Fetch) (reply : FetchReply f) (t : String) (next : Unit → ErrandFlow) :
      TokenEvent.Grants ⟨.fetch f, reply⟩ t → Renewing gain [⟨.fetch f, reply⟩] (.call (.keep t) next)
  | renewed (f : Fetch) (reply : FetchReply f) (t : String) :
      TokenEvent.Grants ⟨.fetch f, reply⟩ t → Renewing gain [⟨.fetch f, reply⟩, ⟨.keep t, ()⟩] (.done (gain t))

/-- **Where a caller stands.** -/
inductive Standing (errand : Errand) : List TokenEvent → ErrandFlow → Prop where
  | looking (next : Option String → ErrandFlow) : Standing errand [] (.call .kept next)
  | found (t : String) : Standing errand [⟨.kept, some t⟩] (.done (errand.gain t))
  | missed {log : List TokenEvent} {todo : ErrandFlow} :
      Renewing errand.gain log todo → Standing errand (⟨.kept, none⟩ :: log) todo
  | straight {log : List TokenEvent} {todo : ErrandFlow} : Renewing errand.gain log todo → Standing errand log todo

theorem renewing_of_course {url : String} {gain : String → Except Failure Gain} {log : List TokenEvent}
    {todo : ErrandFlow} (h : Course (renewal url gain) log todo) : Renewing gain log todo := by
  unfold renewal at h
  split at h
  · cases h
    exact .unsent _
  · next address haddress =>
    cases h with
    | start => exact .ahead _ _
    | @answered _ _ log _ reply h =>
      have hrest : Course (renewalAfter gain (received address reply)) log todo := h
      cases hreceived : received address reply with
      | error e =>
        rw [hreceived] at hrest
        cases hrest
        refine .refused _ reply e ?_
        intro t hgrants
        rw [received_eq_ok_iff.mpr hgrants.answer] at hreceived
        cases hreceived
      | ok t =>
        obtain ⟨answer, rfl, hstatus, hbody⟩ := received_eq_ok_iff.mp hreceived
        have hgrants : TokenEvent.Grants ⟨.fetch ⟨"GET", address, ""⟩, (.ok answer : Except String Fetched)⟩ t :=
          ⟨_, answer, rfl, hstatus, hbody⟩
        rw [hreceived] at hrest
        cases hrest with
        | start => exact .given _ _ t _ hgrants
        | answered _ hend =>
          cases hend
          exact .renewed _ _ t hgrants

/-- **Every caller stands somewhere,** if there is an address to fetch a token from. -/
theorem standing_of_course {url : String} {errand : Errand} {log : List TokenEvent} {todo : ErrandFlow}
    (h : Course (errand.flow (some url)) log todo) : Standing errand log todo := by
  by_cases hlooks : errand.looks
  · rw [flow_of_looks url hlooks] at h
    cases h with
    | start => exact .looking _
    | answered found h =>
      cases (found : Option String) with
      | some t =>
        cases h
        exact .found t
      | none => exact .missed (renewing_of_course h)
  · rw [flow_of_not_looks url (eq_false_of_ne_true hlooks)] at h
    exact .straight (renewing_of_course h)

section

variable {gain : String → Except Failure Gain} {errand : Errand} {log : List TokenEvent} {t : String}

/-- What a caller is about to have kept was given to it. -/
theorem Renewing.grants_of_keep {next : Unit → ErrandFlow} (h : Renewing gain log (.call (.keep t) next)) :
    ∃ e ∈ log, e.Grants t := by
  cases h with
  | given f reply _ _ hgrants => exact ⟨_, List.mem_cons_self, hgrants⟩

/-- What a caller ends with was given to it. -/
theorem Renewing.grants_of_ok {g : Gain} (h : Renewing gain log (.done (.ok g))) :
    ∃ t, (∃ e ∈ log, e.Grants t) ∧ gain t = .ok g := by
  generalize htodo : Workflow.done (Except.ok g) = todo at h
  cases h with
  | renewed f reply t hgrants =>
    injection htodo with hg
    exact ⟨t, ⟨_, List.mem_cons_self, hgrants⟩, hg.symm⟩
  | _ => cases htodo

/-- Who gets a new token does not look. -/
theorem Renewing.not_found {todo : ErrandFlow} (h : Renewing gain log todo) (found : Option String) :
    ⟨.kept, found⟩ ∉ log := by
  intro hmem
  cases h with
  | unsent e => cases hmem
  | ahead f next => cases hmem
  | refused f reply e _ => cases List.mem_singleton.mp hmem
  | given f reply t next _ => cases List.mem_singleton.mp hmem
  | renewed f reply t _ =>
    rcases List.mem_cons.mp hmem with heq | hmem
    · cases heq
    · cases List.mem_singleton.mp hmem

/-- **What a caller has kept** is what the answer to its request gave. -/
theorem Renewing.grants_of_kept {todo : ErrandFlow} {f : Fetch} {reply : FetchReply f} (h : Renewing gain log todo)
    (hfetch : ⟨.fetch f, reply⟩ ∈ log) (hkept : ⟨.keep t, ()⟩ ∈ log) : TokenEvent.Grants ⟨.fetch f, reply⟩ t := by
  cases h with
  | unsent e => cases hkept
  | ahead f next => cases hkept
  | refused f' reply' e hnone => cases List.mem_singleton.mp hkept
  | given f' reply' t' next hgrants => cases List.mem_singleton.mp hkept
  | renewed f' reply' t' hgrants =>
    rcases List.mem_cons.mp hkept with heq | hkept
    · cases heq
    · cases List.mem_singleton.mp hkept
      rcases List.mem_cons.mp hfetch with heq | hfetch
      · cases heq
        exact hgrants
      · cases List.mem_singleton.mp hfetch

theorem Standing.grants_of_keep {next : Unit → ErrandFlow} (h : Standing errand log (.call (.keep t) next)) :
    ∃ e ∈ log, e.Grants t := by
  generalize htodo : (Workflow.call (TokenCall.keep t) next : ErrandFlow) = todo at h
  cases h with
  | looking next => cases htodo
  | found t => cases htodo
  | missed h =>
    subst htodo
    obtain ⟨e, he, hgrants⟩ := h.grants_of_keep
    exact ⟨e, List.mem_cons_of_mem _ he, hgrants⟩
  | straight h => exact (htodo ▸ h).grants_of_keep

/-- **What a caller ends with** was found, or was given to it. -/
theorem Standing.source_of_ok {g : Gain} (h : Standing errand log (.done (.ok g))) :
    ∃ t, (⟨.kept, some t⟩ ∈ log ∨ ∃ e ∈ log, e.Grants t) ∧ errand.gain t = .ok g := by
  generalize htodo : Workflow.done (Except.ok g) = todo at h
  cases h with
  | looking next => cases htodo
  | found t =>
    injection htodo with hg
    exact ⟨t, .inl List.mem_cons_self, hg.symm⟩
  | missed h =>
    subst htodo
    obtain ⟨t, ⟨e, he, hgrants⟩, hg⟩ := h.grants_of_ok
    exact ⟨t, .inr ⟨e, List.mem_cons_of_mem _ he, hgrants⟩, hg⟩
  | straight h =>
    obtain ⟨t, hgrants, hg⟩ := (htodo ▸ h).grants_of_ok
    exact ⟨t, .inr hgrants, hg⟩

/-- **Who finds a token** is done with it. -/
theorem Standing.eq_of_found {todo : ErrandFlow} (h : Standing errand log todo) (hfound : ⟨.kept, some t⟩ ∈ log) :
    log = [⟨.kept, some t⟩] ∧ todo = .done (errand.gain t) := by
  cases h with
  | looking next => cases hfound
  | found t' =>
    cases List.mem_singleton.mp hfound
    exact ⟨rfl, rfl⟩
  | missed h =>
    rcases List.mem_cons.mp hfound with heq | hfound
    · cases heq
    · exact absurd hfound (h.not_found _)
  | straight h => exact absurd hfound (h.not_found _)

theorem Standing.grants_of_kept {todo : ErrandFlow} {f : Fetch} {reply : FetchReply f} (h : Standing errand log todo)
    (hfetch : ⟨.fetch f, reply⟩ ∈ log) (hkept : ⟨.keep t, ()⟩ ∈ log) : TokenEvent.Grants ⟨.fetch f, reply⟩ t := by
  cases h with
  | looking next => cases hkept
  | found t' => cases List.mem_singleton.mp hkept
  | missed h =>
    rcases List.mem_cons.mp hfetch with heq | hfetch
    · cases heq
    · rcases List.mem_cons.mp hkept with heq | hkept
      · cases heq
      · exact h.grants_of_kept hfetch hkept
  | straight h => exact h.grants_of_kept hfetch hkept

end

/-! ## All together -/

section

variable {ι : Type} {url : Option String} {errands : ι → Errand} {st : SharedToken ι} {t : String}

/-- **A token that was given** by an answer that some caller has had by now. -/
def SharedToken.Granted (st : SharedToken ι) (t : String) : Prop := ∃ i, ∃ e ∈ (st.callers i).log, e.Grants t

/-- **A consistent moment** of callers that share a token. -/
structure SharedToken.Consistent (url : Option String) (errands : ι → Errand) (st : SharedToken ι) : Prop where
  course : ∀ i, Course ((errands i).flow url) (st.callers i).log (st.callers i).todo
  /-- What is kept was given. -/
  kept : ∀ t, st.kept = some t → st.Granted t
  /-- What was found was given. -/
  found : ∀ i t, ⟨.kept, some t⟩ ∈ (st.callers i).log → st.Granted t

/-- **A shared token that can be trusted.** -/
structure SharedToken.Trusted (errands : ι → Errand) (st : SharedToken ι) : Prop where
  /-- What is kept was given by some answer before. -/
  kept : ∀ t, st.kept = some t → st.Granted t
  /-- Whoever gets something, gets it from a token that was given by some answer before. -/
  gained : ∀ i g, (st.callers i).todo = .done (.ok g) → ∃ t, st.Granted t ∧ (errands i).gain t = .ok g
  /-- Who finds a token sends no request, and gets what comes of this token. -/
  found : ∀ i t, ⟨.kept, some t⟩ ∈ (st.callers i).log →
    (st.callers i).log = [⟨.kept, some t⟩] ∧ (st.callers i).todo = .done ((errands i).gain t)
  /-- What a caller has had kept is what the answer to its request gave, so after a failure there is nothing. -/
  own : ∀ i t (f : Fetch) (reply : FetchReply f), ⟨.fetch f, reply⟩ ∈ (st.callers i).log →
    ⟨.keep t, ()⟩ ∈ (st.callers i).log → TokenEvent.Grants ⟨.fetch f, reply⟩ t

/-- **What a call can do** to what is kept. -/
inductive AfterEvent (kept : Option String) : TokenEvent → Option String → Prop where
  | looked : AfterEvent kept ⟨.kept, kept⟩ kept
  | changed (t : String) : AfterEvent kept ⟨.keep t, ()⟩ (some t)
  | fetched (f : Fetch) (reply : FetchReply f) : AfterEvent kept ⟨.fetch f, reply⟩ kept

theorem afterEvent_answerShared (network : (f : Fetch) → FetchReply f) (kept : Option String) (c : TokenCall) :
    AfterEvent kept ⟨c, (answerShared network kept c).1⟩ (answerShared network kept c).2 := by
  cases c with
  | kept => exact .looked
  | keep t => exact .changed t
  | fetch f => exact .fetched f (network f)

/-- Without an address to fetch a token from, nothing is left to do from the beginning. -/
theorem eq_of_course_without_url {errand : Errand} {log : List TokenEvent} {todo : ErrandFlow}
    (h : Course (errand.flow none) log todo) : log = [] ∧ todo = .done (.ok errand.nothing) := by
  rw [flow_without_url] at h
  cases h
  exact ⟨rfl, rfl⟩

namespace SharedToken

theorem consistent_start (url : Option String) (errands : ι → Errand) :
    (start url errands).Consistent url errands where
  course _ := .start _
  kept _ h := by cases h
  found _ _ h := absurd h List.not_mem_nil

/-- **What is kept after a call** was given before it. -/
theorem Consistent.granted_after (h : st.Consistent url errands) {i : ι} {e : TokenEvent} {todo : ErrandFlow}
    {kept : Option String} (hnext : Course (st.callers i).todo [e] todo) (hcall : AfterEvent st.kept e kept)
    (hkept : kept = some t) : st.Granted t := by
  cases hcall with
  | looked => exact h.kept t hkept
  | fetched f reply => exact h.kept t hkept
  | changed t' =>
    cases hkept
    have hcourse := h.course i
    cases url with
    | none =>
      rw [(eq_of_course_without_url hcourse).2] at hnext
      cases hnext
    | some url =>
      have hstanding := standing_of_course hcourse
      generalize (st.callers i).todo = before at hnext hstanding
      cases hnext with
      | answered reply _ =>
        obtain ⟨e, he, hgrants⟩ := hstanding.grants_of_keep
        exact ⟨i, e, he, hgrants⟩

theorem Consistent.trusted {url : String} (h : st.Consistent (some url) errands) : st.Trusted errands := by
  have hstanding := fun i => standing_of_course (h.course i)
  constructor
  case kept => exact h.kept
  case gained =>
    intro i g hdone
    obtain ⟨t, hsource, hgain⟩ := (hdone ▸ hstanding i).source_of_ok
    refine ⟨t, ?_, hgain⟩
    rcases hsource with hfound | ⟨e, he, hgrants⟩
    · exact h.found i t hfound
    · exact ⟨i, e, he, hgrants⟩
  case found =>
    intro i t hfound
    exact (hstanding i).eq_of_found hfound
  case own =>
    intro i t f reply hfetch hkept
    exact (hstanding i).grants_of_kept hfetch hkept

variable [DecidableEq ι]

/-- **In its turn** a caller makes one call, if it has anything left to do. -/
theorem take_cases (st : SharedToken ι) (turn : TokenTurn ι) :
    st.take turn = st ∨ ∃ e todo kept, Course (st.callers turn.caller).todo [e] todo ∧
      AfterEvent st.kept e kept ∧ st.take turn = st.afterCall turn.caller e todo kept := by
  unfold take
  cases htodo : (st.callers turn.caller).todo with
  | done result => exact .inl rfl
  | call c next =>
    right
    have hanswered := afterEvent_answerShared turn.network st.kept c
    exact ⟨_, _, _, .answered _ (.start _), hanswered, rfl⟩

theorem afterCall_log (st : SharedToken ι) (i : ι) (e : TokenEvent) (todo : ErrandFlow) (kept : Option String)
    (j : ι) :
    ((st.afterCall i e todo kept).callers j).log = (st.callers j).log ++ if j = i then [e] else [] := by
  by_cases hj : j = i
  · subst hj
    simp [afterCall]
  · simp [afterCall, hj]

/-- What was given stays given. -/
theorem Granted.afterCall (h : st.Granted t) (i : ι) (e : TokenEvent) (todo : ErrandFlow)
    (kept : Option String) : (st.afterCall i e todo kept).Granted t := by
  obtain ⟨j, e', he', hgrants⟩ := h
  refine ⟨j, e', ?_, hgrants⟩
  rw [afterCall_log]
  exact List.mem_append_left _ he'

/-- **A call leaves a consistent moment.** -/
theorem Consistent.afterCall (h : st.Consistent url errands) {i : ι} {e : TokenEvent} {todo : ErrandFlow}
    {kept : Option String} (hnext : Course (st.callers i).todo [e] todo) (hcall : AfterEvent st.kept e kept) :
    (st.afterCall i e todo kept).Consistent url errands := by
  constructor
  case course =>
    intro j
    by_cases hj : j = i
    · subst hj
      simp only [SharedToken.afterCall, Function.update_self]
      exact (h.course j).append hnext
    · simp only [SharedToken.afterCall, Function.update_of_ne hj]
      exact h.course j
  case kept =>
    intro t hkept
    exact (h.granted_after hnext hcall hkept).afterCall i e todo kept
  case found =>
    intro j t hfound
    refine Granted.afterCall ?_ i e todo kept
    rw [afterCall_log] at hfound
    rcases List.mem_append.mp hfound with hbefore | hnow
    · exact h.found j t hbefore
    · -- What is found now is what was kept.
      by_cases hj : j = i
      · rw [if_pos hj] at hnow
        generalize hst : st.kept = before at hcall
        cases List.mem_singleton.mp hnow
        cases hcall
        exact h.kept t hst
      · rw [if_neg hj] at hnow
        cases hnow

theorem Consistent.take (h : st.Consistent url errands) (turn : TokenTurn ι) :
    (st.take turn).Consistent url errands := by
  rcases st.take_cases turn with hsame | ⟨e, todo, kept, hnext, hcall, htake⟩
  · rw [hsame]
    exact h
  · rw [htake]
    exact h.afterCall hnext hcall

theorem Consistent.run (h : st.Consistent url errands) (turns : List (TokenTurn ι)) :
    (st.run turns).Consistent url errands := by
  induction turns generalizing st with
  | nil => exact h
  | cons turn turns ih => exact ih (h.take turn)

/-- **What a turn does** to what is kept: nothing, unless its caller has a token kept. -/
theorem kept_take (st : SharedToken ι) (turn : TokenTurn ι) :
    (st.take turn).kept = st.kept ∨ ∃ t, (st.take turn).kept = some t ∧
      ((st.take turn).callers turn.caller).log = (st.callers turn.caller).log ++ [⟨.keep t, ()⟩] := by
  rcases st.take_cases turn with hsame | ⟨e, todo, kept, hnext, hcall, htake⟩
  · rw [hsame]
    exact .inl rfl
  · rw [htake]
    cases hcall with
    | looked => exact .inl rfl
    | fetched f reply => exact .inl rfl
    | changed t => exact .inr ⟨t, rfl, by rw [afterCall_log, if_pos rfl]⟩

/-- Once a token is kept, there is always one. -/
theorem kept_run (st : SharedToken ι) (turns : List (TokenTurn ι)) (h : st.kept ≠ none) :
    (st.run turns).kept ≠ none := by
  induction turns generalizing st with
  | nil => exact h
  | cons turn turns ih =>
    refine ih (st.take turn) ?_
    rcases st.kept_take turn with hsame | ⟨t, hkept, -⟩
    · rw [hsame]
      exact h
    · rw [hkept]
      exact Option.some_ne_none t

end SharedToken

/-- **Callers that take turns** share a token that can be trusted, whatever the network answers. Once a token is kept,
there is always one, and only a caller who has another one kept changes it. Where no token is needed, no caller makes
any call, and each of them ends with nothing. -/
theorem tokens_in_turns [DecidableEq ι] (url : Option String) (errands : ι → Errand)
    (turns : List (TokenTurn ι)) :
    let st := (SharedToken.start url errands).run turns
    (url ≠ none → st.Trusted errands) ∧
      (st.kept ≠ none → ∀ more, (st.run more).kept ≠ none) ∧
      (∀ turn, (st.take turn).kept = st.kept ∨ ∃ t, (st.take turn).kept = some t ∧
        ((st.take turn).callers turn.caller).log = (st.callers turn.caller).log ++ [⟨.keep t, ()⟩]) ∧
      (url = none → st.kept = none ∧
        ∀ i, (st.callers i).log = [] ∧ (st.callers i).todo = .done (.ok (errands i).nothing)) := by
  intro st
  have hconsistent : st.Consistent url errands := (SharedToken.consistent_start url errands).run turns
  refine ⟨?_, ?_, st.kept_take, ?_⟩
  · intro hurl
    obtain ⟨address, rfl⟩ := Option.ne_none_iff_exists'.mp hurl
    exact hconsistent.trusted
  · intro hkept more
    exact st.kept_run more hkept
  · rintro rfl
    have hnothing := fun i => eq_of_course_without_url (hconsistent.course i)
    refine ⟨?_, hnothing⟩
    -- A token that were kept would have been given to somebody, but nobody has made a call.
    rw [Option.eq_none_iff_forall_ne_some]
    intro t hkept
    obtain ⟨i, e, he, -⟩ := hconsistent.kept t hkept
    rw [(hnothing i).1] at he
    cases he

/-- Three callers for trials, the last of which wants headers. -/
def Errand.trial : Fin 3 → Errand
  | 0 => token
  | 1 => token
  | 2 => headers

/-- Their turns. Two of them find nothing; one is given a token, which is kept before the other one is refused, and
found by the last caller. -/
def TokenTurn.trial : List (TokenTurn (Fin 3)) :=
  let given := "\x7b\"access_token\":\"secret\"\x7d".toList.map fun c => UInt8.ofNat c.toNat
  let turn (caller : Fin 3) (status : Nat) : TokenTurn (Fin 3) := ⟨caller, fun _ => .ok ⟨status, given⟩⟩
  [turn 0 503, turn 1 200, turn 1 200, turn 1 200, turn 0 503, turn 2 200]

theorem trial_tokens_in_turns :
    let st := (SharedToken.start (some "http://[::1]") Errand.trial).run TokenTurn.trial
    st.kept = some "secret" ∧ st.Trusted Errand.trial ∧ ∀ more, (st.run more).kept ≠ none := by
  intro st
  have hkept : st.kept = some "secret" := by decide +kernel
  have hsome : st.kept ≠ none := by
    rw [hkept]
    exact Option.some_ne_none _
  obtain ⟨htrusted, hstays, -, -⟩ := tokens_in_turns (some "http://[::1]") Errand.trial TokenTurn.trial
  exact ⟨hkept, htrusted (Option.some_ne_none _), hstays hsome⟩

end

end MapExport.Geocoding
