import Mathlib.Data.ENat.Lattice
import MapExport.FeatureCount.Counter
import MapExport.Proofs.FeatureCount.Reply
import MapExport.Proofs.Workflow.Course

/-!
# How often the counter is asked

The counter answers a query, or does not, or says that it is asked too often. Only the last makes the service ask
again, after a pause, and only so many times. Whatever the network replies, and in whatever order, the number of queries
is told by how many replies at the beginning are of the last kind (`leadingRefusals`), and the result by the
first reply that is not.
-/

set_option autoImplicit false

namespace MapExport.FeatureCount

open Web

/-- A call on the way to a count, with its answer. -/
abbrev CounterEvent := Workflow.Event CounterCall CounterCall.Reply

/-- **The network,** which gives its replies one after another; the state is how many it has given. -/
def serve (replies : Nat → Except String Fetched) : Nat → (c : CounterCall) → c.Reply × Nat
  | n, .fetch _ => (replies n, n + 1)
  | n, .pause _ => ((), n)

/-- **A refusal:** the counter says that it is asked too often. -/
def Refuses : Except String Fetched → Prop
  | .ok answer => answer.status = tooMany
  | .error _ => False

instance : DecidablePred Refuses
  | .ok answer => inferInstanceAs (Decidable (answer.status = tooMany))
  | .error _ => inferInstanceAs (Decidable False)

open Classical in
/-- **How many replies at the beginning are refusals.** There is no end to them if all are. -/
noncomputable def leadingRefusals (replies : Nat → Except String Fetched) : ℕ∞ :=
  if h : ∃ i, ¬ Refuses (replies i) then (Nat.find h : ℕ∞) else ⊤

/-- **The calls of a query that is repeated:** it is sent, and then as many times as is said there is a pause, after
which it is sent again. -/
def asked (f : Fetch) (pause : Nat) (replies : Nat → Except String Fetched) (again : Nat) : List CounterEvent :=
  ⟨.fetch f, replies 0⟩ ::
    (List.range again).flatMap fun i => [⟨.pause pause, ()⟩, ⟨.fetch f, replies (i + 1)⟩]

/-- **What a reply that is no refusal comes to.** -/
def verdict (address : Address) : Except String Fetched → Except Failure Nat
  | .error cause => .error (.external ("Overpass query failed: " ++ (FetchFault.unsent address cause).message))
  | .ok answer =>
    match Json.ofSymbols (Text.decodeBytes answer.asRead.body) with
    | .error _ => .error (.unreadable "Could not parse response from OSM server")
    | .ok j => ofReply j

/-! ## Refusals at the beginning -/

section

variable {replies : Nat → Except String Fetched}

theorem refuses_of_lt_leadingRefusals {i : Nat} (h : i < leadingRefusals replies) : Refuses (replies i) := by
  rw [leadingRefusals] at h
  split at h
  · next hsome =>
    by_contra hnot
    exact absurd (Nat.cast_lt.mp h) (Nat.not_lt.mpr (Nat.find_min' hsome hnot))
  · next hnone =>
    by_contra hnot
    exact hnone ⟨i, hnot⟩

theorem not_refuses_of_leadingRefusals {i : Nat} (h : leadingRefusals replies = i) : ¬ Refuses (replies i) := by
  rw [leadingRefusals] at h
  split at h
  · next hsome =>
    rw [← Nat.cast_inj.mp h]
    exact Nat.find_spec hsome
  · exact absurd h.symm (ENat.natCast_ne_top i)

theorem leadingRefusals_eq {k : Nat} (h : ∀ i < k, Refuses (replies i)) (h' : ¬ Refuses (replies k)) :
    leadingRefusals replies = k := by
  have hsome : ∃ i, ¬ Refuses (replies i) := ⟨k, h'⟩
  rw [leadingRefusals, dif_pos hsome, Nat.cast_inj, Nat.find_eq_iff]
  exact ⟨h', fun i hi => not_not_intro (h i hi)⟩

end

/-! ## Call by call -/

namespace Steps

/-- What a reply to a query gives. -/
def heard (address : Address) : Except String Fetched → Except Failure Fetched
  | .error cause => .error (unanswered (.unsent address cause))
  | .ok answer => .ok answer.asRead

theorem run_post_of_error {url : String} {fault : FetchFault} (h : serviceAddress url = .error fault) (q : String) :
    (post url q).run = .done (.error (unanswered fault)) := by
  unfold post fetch
  rw [h]
  rfl

theorem run_post {url : String} {address : Address} (h : serviceAddress url = .ok address) (q : String) :
    (post url q).run = .call (.fetch ⟨"POST", address, q⟩) fun reply => .done (heard address reply) := by
  unfold post fetch
  rw [h]
  refine congrArg (Workflow.call (CounterCall.fetch ⟨"POST", address, q⟩)) (funext fun reply => ?_)
  cases (reply : Except String Fetched) <;> rfl

theorem run_askAgain {url : String} {address : Address} (h : serviceAddress url = .ok address) (q : String)
    (wait left made : Nat) :
    (askAgain url q wait left made).run = .call (.fetch ⟨"POST", address, q⟩) fun reply =>
      match heard address reply with
      | .error e => .done (.error e)
      | .ok answer =>
        if answer.status = tooMany then
          match left with
          | 0 => .done (.error (stillLimited made))
          | n + 1 => .call (.pause wait) fun _ => (askAgain url q wait n (made + 1)).run
        else .done (.ok answer) := by
  rw [askAgain.eq_def, ExceptT.run_bind, run_post h]
  refine congrArg (Workflow.call (CounterCall.fetch ⟨"POST", address, q⟩)) (funext fun reply => ?_)
  dsimp
  cases heard address reply with
  | error e => rfl
  | ok answer =>
    dsimp [Workflow.bind]
    by_cases hstatus : answer.status = tooMany
    · rw [if_pos hstatus, if_neg (by simp [hstatus])]
      cases left with
      | zero => rfl
      | succ n => rfl
    · rw [if_neg hstatus, if_pos (by simp [hstatus])]
      rfl

variable {url : String} {address : Address} {replies : Nat → Except String Fetched}

/-- After a refusal it is asked again, unless that was the last time. -/
theorem play_askAgain_of_refuses (h : serviceAddress url = .ok address) (q : String) (wait left made first : Nat)
    (hrefuses : Refuses (replies first)) :
    (askAgain url q wait left made).run.play (serve replies) first =
      match left with
      | 0 => ⟨[⟨.fetch ⟨"POST", address, q⟩, replies first⟩], .error (stillLimited made), first + 1⟩
      | n + 1 =>
        let rest := (askAgain url q wait n (made + 1)).run.play (serve replies) (first + 1)
        { rest with log := ⟨.fetch ⟨"POST", address, q⟩, replies first⟩ :: ⟨.pause wait, ()⟩ :: rest.log } := by
  rw [run_askAgain h, Workflow.play]
  dsimp only [serve]
  cases hreply : replies first with
  | error cause =>
    rw [hreply] at hrefuses
    cases hrefuses
  | ok answer =>
    rw [hreply] at hrefuses
    have hstatus : answer.asRead.status = tooMany := answer.status_asRead.trans hrefuses
    rw [heard]
    dsimp only
    rw [if_pos hstatus]
    cases left with
    | zero => rfl
    | succ n => rfl

/-- After any other reply it is not asked again. -/
theorem play_askAgain_of_not_refuses (h : serviceAddress url = .ok address) (q : String) (wait left made first : Nat)
    (hother : ¬ Refuses (replies first)) :
    (askAgain url q wait left made).run.play (serve replies) first =
      ⟨[⟨.fetch ⟨"POST", address, q⟩, replies first⟩], heard address (replies first), first + 1⟩ := by
  rw [run_askAgain h, Workflow.play]
  dsimp only [serve]
  cases hreply : replies first with
  | error cause => rfl
  | ok answer =>
    rw [hreply] at hother
    have hstatus : ¬ answer.asRead.status = tooMany :=
      fun hlimited => hother (answer.status_asRead.symm.trans hlimited)
    rw [heard]
    dsimp only
    rw [if_neg hstatus]
    rfl

theorem asked_succ (f : Fetch) (pause : Nat) (replies : Nat → Except String Fetched) (again : Nat) :
    asked f pause replies (again + 1) =
      ⟨.fetch f, replies 0⟩ :: ⟨.pause pause, ()⟩ :: asked f pause (fun i => replies (i + 1)) again := by
  rw [asked, List.range_succ_eq_map, List.flatMap_cons, List.flatMap_map]
  rfl

/-- **Asking again and again.** It goes on while refusals come and it may be asked once more. -/
theorem play_askAgain (h : serviceAddress url = .ok address) (q : String) (wait : Nat) {left again : Nat}
    (hagain : again ≤ left) (made first : Nat) (hrefusals : ∀ i < again, Refuses (replies (first + i)))
    (hstop : again < left → ¬ Refuses (replies (first + again))) :
    (askAgain url q wait left made).run.play (serve replies) first =
      ⟨asked ⟨"POST", address, q⟩ wait (fun i => replies (first + i)) again,
        if Refuses (replies (first + again)) then .error (stillLimited (made + again))
        else heard address (replies (first + again)), first + again + 1⟩ := by
  -- Each time round one more reply is used up, one time less is left, and one more has been made.
  induction again generalizing left made first with
  | zero =>
    by_cases hrefuses : Refuses (replies first)
    · -- After a refusal it stops only where no more tries are left.
      obtain rfl : left = 0 := by
        by_contra hne
        exact hstop (Nat.pos_of_ne_zero hne) hrefuses
      rw [play_askAgain_of_refuses h q wait 0 made first hrefuses,
        if_pos (show Refuses (replies (first + 0)) from hrefuses)]
      rfl
    · rw [play_askAgain_of_not_refuses h q wait left made first hrefuses,
        if_neg (show ¬ Refuses (replies (first + 0)) from hrefuses)]
      rfl
  | succ again ih =>
    obtain ⟨left, rfl⟩ := Nat.exists_eq_add_one_of_ne_zero (Nat.ne_zero_of_lt hagain)
    have hnext (i : Nat) : first + (i + 1) = first + 1 + i := by omega
    have hmade : made + (again + 1) = made + 1 + again := by omega
    have hshift : (fun i => replies (first + (i + 1))) = fun i => replies (first + 1 + i) :=
      funext fun i => congrArg replies (hnext i)
    have hrest := ih (Nat.le_of_succ_le_succ hagain) (made + 1) (first + 1)
      (fun i hi => hnext i ▸ hrefusals (i + 1) (Nat.succ_lt_succ hi))
      (fun hlt => hnext again ▸ hstop (Nat.succ_lt_succ hlt))
    rw [play_askAgain_of_refuses h q wait (left + 1) made first (hrefusals 0 (Nat.succ_pos again))]
    dsimp only
    rw [hrest, asked_succ, hshift, hnext again, hmade]
    rfl

/-- **Counting** is asking and then reading what came back. -/
theorem run_count {g : Geometry Position} {q : String} (hq : query g = .ok q) (url : String) (rules : RetryRules) :
    (count url rules g).run = (askAgain url q rules.pause rules.most 0).run >>= fun answer =>
      .done (answer.bind fun answer => ofBody answer.body) := by
  unfold count
  rw [hq]
  refine congrArg ((askAgain url q rules.pause rules.most 0).run >>= ·) (funext fun answer => ?_)
  cases answer <;> rfl

/-- Without a query nothing is asked. -/
theorem run_count_of_error {g : Geometry Position} {e : Failure} (h : query g = .error e) (url : String)
    (rules : RetryRules) : (count url rules g).run = .done (.error e) := by
  unfold count
  rw [h]
  rfl

/-- Without a service to ask nothing is asked. -/
theorem run_count_of_fault {g : Geometry Position} {q : String} (hq : query g = .ok q) {url : String}
    {fault : FetchFault} (h : serviceAddress url = .error fault) (rules : RetryRules) :
    (count url rules g).run = .done (.error (unanswered fault)) := by
  rw [run_count hq, askAgain.eq_def, ExceptT.run_bind, run_post_of_error h]
  rfl

theorem heard_bind (address : Address) (reply : Except String Fetched) :
    (heard address reply).bind (fun answer => ofBody answer.body) = verdict address reply := by
  cases reply <;> rfl

/-- **Counting with a network** that gives one reply after another. -/
theorem play_count {g : Geometry Position} {q : String} (hq : query g = .ok q)
    (h : serviceAddress url = .ok address) (rules : RetryRules) {again : Nat} (hagain : again ≤ rules.most)
    (hrefusals : ∀ i < again, Refuses (replies i)) (hstop : again < rules.most → ¬ Refuses (replies again)) :
    (count url rules g).run.play (serve replies) 0 =
      ⟨asked ⟨"POST", address, q⟩ rules.pause replies again,
        if Refuses (replies again) then .error (stillLimited again) else verdict address (replies again),
        again + 1⟩ := by
  have hzero (i : Nat) : 0 + i = i := Nat.zero_add i
  have hrefusals' : ∀ i < again, Refuses (replies (0 + i)) := fun i hi => (hzero i).symm ▸ hrefusals i hi
  have hstop' : again < rules.most → ¬ Refuses (replies (0 + again)) := fun hlt => (hzero again).symm ▸ hstop hlt
  have hplay := play_askAgain h q rules.pause hagain 0 0 hrefusals' hstop'
  simp only [hzero] at hplay
  rw [run_count hq, Workflow.play_bind, hplay]
  dsimp only
  by_cases hrefuses : Refuses (replies again)
  · rw [if_pos hrefuses, if_pos hrefuses, Workflow.play, List.append_nil]
    rfl
  · rw [if_neg hrefuses, if_neg hrefuses, Workflow.play, List.append_nil, heard_bind]

end Steps

/-- An unanswered query is told apart from a counter that refuses by the tenth letter of its text. -/
theorem unanswered_ne_stillLimited (fault : FetchFault) (retries : Nat) : unanswered fault ≠ stillLimited retries := by
  intro h
  have htexts := Failure.external.inj h
  have hleft : ("Overpass query failed: " ++ fault.message).toList[9]? = some 'q' := by
    rw [String.toList_append, List.getElem?_append_left (by decide)]
    decide
  have hright : ("Overpass still rate limited after " ++ toString retries ++ " retries").toList[9]? = some 's' := by
    rw [String.append_assoc, String.toList_append, List.getElem?_append_left (by decide)]
    decide
  rw [htexts, hright] at hleft
  exact absurd hleft (by decide)

/-- What a reply comes to is never that the counter still refuses. -/
theorem verdict_ne_stillLimited (address : Address) (reply : Except String Fetched) (retries : Nat) :
    verdict address reply ≠ .error (stillLimited retries) := by
  intro h
  cases reply with
  | error cause => exact unanswered_ne_stillLimited _ _ (Except.error.inj h)
  | ok answer =>
    rw [verdict] at h
    split at h
    · exact nomatch Except.error.inj h
    · obtain ⟨reason, hreason⟩ := ofReply_eq_error h
      exact nomatch hreason

/-- **How many times it is asked again:** once for each refusal at the beginning, but not more often than is
allowed. -/
theorem exists_again (replies : Nat → Except String Fetched) (most : Nat) : ∃ again : Nat,
    (again : ℕ∞) = min (leadingRefusals replies) most ∧ again ≤ most ∧ (∀ i < again, Refuses (replies i)) ∧
      (Refuses (replies again) ↔ most < leadingRefusals replies) := by
  -- Few refusals are a number, whose reply is the first other one; many are enough for all the tries.
  rcases le_or_gt (leadingRefusals replies) most with hfew | hmany
  · obtain ⟨again, hagain⟩ := ENat.ne_top_iff_exists.mp (ne_top_of_le_ne_top (ENat.natCast_ne_top _) hfew)
    rw [← hagain] at hfew
    refine ⟨again, by rw [← hagain, min_eq_left hfew], Nat.cast_le.mp hfew, ?_, ?_⟩
    · intro i hi
      exact refuses_of_lt_leadingRefusals (hagain ▸ Nat.cast_lt.mpr hi)
    · exact iff_of_false (not_refuses_of_leadingRefusals hagain.symm) (by rw [← hagain]; exact not_lt.mpr hfew)
  · refine ⟨most, (min_eq_right hmany.le).symm, le_rfl, ?_, iff_of_true (refuses_of_lt_leadingRefusals hmany) hmany⟩
    intro i hi
    exact refuses_of_lt_leadingRefusals (lt_trans (Nat.cast_lt.mpr hi) hmany)

end MapExport.FeatureCount

namespace MapExport

open Web FeatureCount

/-- **How often the counter is asked,** and what comes of it. Where there is no query, or no service to send it to,
nothing is sent. Otherwise the query is sent once, and again after a pause for each refusal at the beginning of the
replies, but not more often than is allowed; so the calls are told by the replies from beginning to end. That the
counter still refuses is the result just where there are more refusals than that, and otherwise the result is what the
first other reply comes to, whatever the replies after it. -/
theorem counter_is_asked_again (url : String) (rules : RetryRules) (g : Geometry Position)
    (replies : Nat → Except String Fetched) :
    let played := (Steps.count url rules g).run.play (serve replies) 0
    (∀ e, query g = .error e → played.log = [] ∧ played.result = .error e) ∧
    ∀ q, query g = .ok q →
      (∀ fault, serviceAddress url = .error fault → played.log = [] ∧ played.result = .error (unanswered fault)) ∧
      ∀ address, serviceAddress url = .ok address → ∃ again : Nat,
        (again : ℕ∞) = min (leadingRefusals replies) rules.most ∧
        played.log = asked ⟨"POST", address, q⟩ rules.pause replies again ∧
        (played.result = .error (stillLimited rules.most) ↔ rules.most < leadingRefusals replies) ∧
        (leadingRefusals replies ≤ rules.most →
          leadingRefusals replies = again ∧ played.result = verdict address (replies again)) := by
  intro played
  refine ⟨?_, fun q hq => ⟨?_, ?_⟩⟩
  · intro e he
    have hrun : played = ⟨[], .error e, 0⟩ := by
      simp only [played, Steps.run_count_of_error he, Workflow.play]
    rw [hrun]
    exact ⟨rfl, rfl⟩
  · intro fault hfault
    have hrun : played = ⟨[], .error (unanswered fault), 0⟩ := by
      simp only [played, Steps.run_count_of_fault hq hfault, Workflow.play]
    rw [hrun]
    exact ⟨rfl, rfl⟩
  · intro address haddress
    obtain ⟨again, hagain, hmost, hrefusals, hlast⟩ := exists_again replies rules.most
    -- It is asked less often than is allowed only if there are no more refusals.
    have hstop : again < rules.most → ¬ Refuses (replies again) := by
      intro hlt hrefuses
      rw [min_eq_right (hlast.mp hrefuses).le, Nat.cast_inj] at hagain
      exact absurd hagain (Nat.ne_of_lt hlt)
    have hplay : played = _ := Steps.play_count hq haddress rules hmost hrefusals hstop
    rw [hplay]
    refine ⟨again, hagain, rfl, ?_, ?_⟩
    · rw [← hlast]
      by_cases hrefuses : Refuses (replies again)
      · rw [min_eq_right (hlast.mp hrefuses).le, Nat.cast_inj] at hagain
        rw [if_pos hrefuses, hagain]
        exact iff_of_true rfl (hagain ▸ hrefuses)
      · rw [if_neg hrefuses]
        exact iff_of_false (verdict_ne_stillLimited address _ _) hrefuses
    · intro hfew
      rw [min_eq_left hfew] at hagain
      rw [if_neg (fun hrefuses => absurd (hlast.mp hrefuses) (not_lt.mpr hfew))]
      exact ⟨hagain.symm, rfl⟩

/-- A reply with a count, as it is sent. -/
def FeatureCount.trialBody : List UInt8 :=
  "\x7b\"elements\":[\x7b\"tags\":\x7b\"total\":\"12\"\x7d\x7d]\x7d".toList.map fun c => UInt8.ofNat c.toNat

/-- Two refusals, and then a count. -/
def FeatureCount.trialReplies (i : Nat) : Except String Fetched :=
  if i < 2 then .ok ⟨429, []⟩ else .ok ⟨200, trialBody⟩

/-- Where it may be asked again twice, the query is sent three times, with a pause before the second and the third time,
and the count is twelve. -/
theorem trial_asked_again :
    let g : Geometry Position := .polygon [[⟨8.25, 53.5⟩]]
    let played := (Steps.count "http://[::1]" ⟨2, 5⟩ g).run.play (serve trialReplies) 0
    played.log.map (fun e => match e.call with
      | .fetch _ => none
      | .pause n => some n) = [none, some 5, none, some 5, none] ∧ played.result = .ok 12 := by
  intro g played
  have hleading : leadingRefusals trialReplies = 2 := leadingRefusals_eq (by decide) (by decide)
  obtain ⟨q, hq⟩ : ∃ q, query g = .ok q := ⟨_, rfl⟩
  obtain ⟨address, haddress⟩ : ∃ address, serviceAddress "http://[::1]" = .ok address := ⟨_, rfl⟩
  obtain ⟨again, hagain, hlog, -, hfew⟩ :=
    ((counter_is_asked_again "http://[::1]" ⟨2, 5⟩ g trialReplies).2 q hq).2 address haddress
  obtain ⟨hcount, hresult⟩ := hfew (by rw [hleading]; exact le_rfl)
  obtain rfl : 2 = again := Nat.cast_inj.mp (hleading.symm.trans hcount)
  refine ⟨by rw [hlog]; rfl, ?_⟩
  have hcounted : ofBody trialBody = .ok 12 := by decide +kernel
  rw [hresult]
  exact hcounted

end MapExport
