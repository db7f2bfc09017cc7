import Mathlib.Logic.Function.Basic
import MapExport.Proofs.Job.Atomicity

/-!
# Creations that take turns

Any number of jobs are created at the same time in one store, while runs expire and averages are computed.
Between two calls of one of them anything may happen in the others; only a single call is never interrupted.
Whatever the order, the tables of jobs are at every moment those from the beginning with the tables of
certain orders behind them (`Consistent`): these are the orders of the creations whose commit was granted, in
the order of the commits. So a job is seen whole or not at all, and stays as it was written.

The invariant needs no word about the other creations. What one of them has staged can be read off its own
calls, and no identifier that is fresh at the beginning is used by two. One that is known at the beginning is not
protected like this: the job that has it is overwritten (`known_job_is_overwritten`).
-/

set_option autoImplicit false

namespace MapExport

open Workflow (Course)

/-! ## Taking turns -/

/-- **A request that is handed in:** under which rules, with which stamp, by whom, and for what. -/
structure Submission where
  rules : JobRules
  stamp : Stamp
  owner : Uid
  request : JobRequest

/-- The creation of the job that is asked for. -/
def Submission.flow (sub : Submission) : JobFlow JobDetail :=
  Job.create sub.rules sub.stamp sub.owner sub.request

/-- **A creation under way:** what is left to do, what is staged, and what was asked for so far. -/
structure UnderWay where
  todo : Workflow JobCall JobCall.Reply (Except Failure JobDetail)
  staged : Staged
  log : List JobEvent

/-- **A store that is shared** by creations of jobs, sweeps and computations of averages. -/
structure SharedStore (ι κ μ : Type) where
  store : Store
  creations : ι → UnderWay
  sweeps : κ → SweepFlow (Except SweepFault SweepReport)
  averages : μ → Workflow EstimateCall EstimateCall.Reply (Except Failure EstimateReport)

/-- **A turn.** One of those that share the store makes its next call, where the outcome of what concerns
others is given; or the store is told to fail at one more point. -/
inductive Turn (ι κ μ : Type) where
  | creation (i : ι) (preset : String → Except Failure TagTable) (dispatch : Uid → Except Failure Unit)
  | sweep (k : κ) (send : Mail → Except Failure Unit)
  | averages (l : μ) (count : Geometry Position → Except Failure Nat)
  | failAt (point : TrialFault)

namespace SharedStore

variable {ι κ μ : Type}

/-- **The beginning,** where nobody has made a call yet. -/
def start (s : Store) (subs : ι → Submission) (sweeps : κ → WarningRules × Instant) :
    SharedStore ι κ μ where
  store := s
  creations i := ⟨(subs i).flow.run, .empty, []⟩
  sweeps k := Sweep.sweep (sweeps k).1 (sweeps k).2
  averages _ := Estimate.aggregate.run

/-- **Taking a turn.** Who has nothing left to do leaves everything as it is. -/
def take [DecidableEq ι] [DecidableEq κ] [DecidableEq μ] (st : SharedStore ι κ μ) :
    Turn ι κ μ → SharedStore ι κ μ
  | .creation i preset dispatch =>
    let u := st.creations i
    match u.todo with
    | .done _ => st
    | .call c next =>
      let answered := Session.collaborate preset dispatch ⟨st.store, u.staged⟩ c
      { st with
        store := answered.2.store
        creations := Function.update st.creations i
          ⟨next answered.1, answered.2.staged, u.log ++ [⟨c, answered.1⟩]⟩ }
  | .sweep k send =>
    match st.sweeps k with
    | .done _ => st
    | .call c next =>
      let answered := st.store.answerSweep (m := Id) send c
      { st with
        store := answered.2
        sweeps := Function.update st.sweeps k (next answered.1) }
  | .averages l count =>
    match st.averages l with
    | .done _ => st
    | .call c next =>
      let answered := st.store.answerEstimate (m := Id) count c
      { st with
        store := answered.2
        averages := Function.update st.averages l (next answered.1) }
  | .failAt point => { st with store := st.store.failAt point }

/-- Taking one turn after another. -/
def run [DecidableEq ι] [DecidableEq κ] [DecidableEq μ] (st : SharedStore ι κ μ)
    (turns : List (Turn ι κ μ)) : SharedStore ι κ μ :=
  turns.foldl take st

/-- **After a call** of a creation, with what is then left to do. -/
def afterCall [DecidableEq ι] (st : SharedStore ι κ μ) (i : ι) (e : JobEvent)
    (todo : Workflow JobCall JobCall.Reply (Except Failure JobDetail)) : SharedStore ι κ μ :=
  let u := st.creations i
  { st with
    store := (Session.after ⟨st.store, u.staged⟩ e).store
    creations := Function.update st.creations i ⟨todo, u.staged.after e, u.log ++ [e]⟩ }

theorem afterCall_self [DecidableEq ι] (st : SharedStore ι κ μ) (i : ι) (e : JobEvent)
    (todo : Workflow JobCall JobCall.Reply (Except Failure JobDetail)) :
    (st.afterCall i e todo).creations i =
      ⟨todo, (st.creations i).staged.after e, (st.creations i).log ++ [e]⟩ :=
  Function.update_self ..

theorem afterCall_of_ne [DecidableEq ι] (st : SharedStore ι κ μ) {i j : ι} (h : j ≠ i) (e : JobEvent)
    (todo : Workflow JobCall JobCall.Reply (Except Failure JobDetail)) :
    (st.afterCall i e todo).creations j = st.creations j :=
  Function.update_of_ne h ..

/-- In its turn a creation makes one call, if it has anything left to do. -/
theorem take_creation [DecidableEq ι] [DecidableEq κ] [DecidableEq μ] (st : SharedStore ι κ μ) (i : ι)
    (preset : String → Except Failure TagTable) (dispatch : Uid → Except Failure Unit) :
    st.take (.creation i preset dispatch) = st ∨
      ∃ e todo, Course (st.creations i).todo [e] todo ∧
        st.take (.creation i preset dispatch) = st.afterCall i e todo := by
  cases htodo : (st.creations i).todo with
  | done a =>
    left
    rw [take, htodo]
  | call c next =>
    refine .inr ⟨_, _, .answered (Session.collaborate preset dispatch
      ⟨st.store, (st.creations i).staged⟩ c).1 (.start _), ?_⟩
    rw [take, htodo]
    simp only [Session.collaborate_snd]
    rfl

end SharedStore

/-! ## What the others do -/

namespace Store

theorem change_jobTables {s : Store} {step : Except Failure Store}
    (h : ∀ t, step = .ok t → t.jobTables = s.jobTables) : (s.change step).2.jobTables = s.jobTables := by
  cases step with
  | ok t => exact h t rfl
  | error e => rfl

/-- A sweep leaves the tables of jobs alone. -/
theorem answerSweep_jobTables (send : Mail → Except Failure Unit) (s : Store) (c : SweepCall) :
    (s.answerSweep (m := Id) send c).2.jobTables = s.jobTables := by
  cases c with
  | listRuns => rfl
  | sendMail mail => rfl
  | deleteRun run =>
    refine change_jobTables fun t h => ?_
    have hrest := of_guard h
    split at hrest <;> cases hrest
    rfl
  | markNotified run now =>
    refine change_jobTables fun t h => ?_
    have hrest := of_guard h
    split at hrest <;> cases hrest
    rfl

/-- A computation of averages leaves the tables of jobs alone. -/
theorem answerEstimate_jobTables (count : Geometry Position → Except Failure Nat) (s : Store)
    (c : EstimateCall) : (s.answerEstimate (m := Id) count c).2.jobTables = s.jobTables := by
  cases c with
  | setSizeEstimate provider value =>
    refine change_jobTables fun t h => ?_
    rw [setSizeEstimate] at h
    split at h <;> cases h
    rfl
  | _ => rfl

end Store

/-! ## The invariant -/

/-- **The order behind a commit.** A creation that made these calls looked up what the order is made of, staged
all of the order and nothing else, and had its commit granted. -/
def Submission.Ordered (sub : Submission) (log : List JobEvent) (o : Order) : Prop :=
  ∃ looked read granted rest, log = looked ++ read ++ granted ++ ⟨.commit, .ok ()⟩ :: rest ∧
    ResolvedBy sub.rules sub.stamp sub.owner sub.request looked read o ∧
    AllGranted o.staging granted ∧
    (looked ++ read ++ granted).foldl Staged.after .empty = o.staged

theorem Submission.Ordered.append {sub : Submission} {log : List JobEvent} {o : Order}
    (h : sub.Ordered log o) (more : List JobEvent) : sub.Ordered (log ++ more) o := by
  obtain ⟨looked, read, granted, rest, rfl, hresolved, hgranted, hstaged⟩ := h
  exact ⟨looked, read, granted, rest ++ more, by simp, hresolved, hgranted, hstaged⟩

theorem Submission.Ordered.uid {sub : Submission} {log : List JobEvent} {o : Order}
    (h : sub.Ordered log o) : o.job.uid = sub.stamp.uid := by
  obtain ⟨_, _, _, _, -, hresolved, -⟩ := h
  rw [hresolved.job]
  rfl

/-- No table of the order knows of another job. -/
theorem Submission.Ordered.tables_fresh {sub : Submission} {log : List JobEvent} {o : Order}
    (h : sub.Ordered log o) {uid : Uid} (hne : sub.stamp.uid ≠ uid) : o.tables.Fresh uid := by
  have huid := h.uid
  obtain ⟨_, _, _, _, -, hresolved, -⟩ := h
  obtain ⟨table, htags, -⟩ := hresolved.tags
  refine Order.tables_fresh (huid ▸ hne) fun tag htag => ?_
  rw [htags] at htag
  obtain ⟨i, hi, rfl⟩ := List.mem_mapIdx.mp htag
  exact huid.symm

section

variable {ι κ μ : Type}

/-- **On course:** what each creation did is a course of it, and what it has staged can be read off its own calls. -/
structure SharedStore.OnCourse (subs : ι → Submission) (st : SharedStore ι κ μ) : Prop where
  course : ∀ i, Course (subs i).flow.run (st.creations i).log (st.creations i).todo
  staged : ∀ i, (st.creations i).staged = (st.creations i).log.foldl Staged.after .empty

/-- A call goes on with the course of its creation, and is noted there. -/
theorem SharedStore.OnCourse.afterCall [DecidableEq ι] {subs : ι → Submission} {st : SharedStore ι κ μ}
    (h : st.OnCourse subs) {i : ι} {e : JobEvent}
    {todo : Workflow JobCall JobCall.Reply (Except Failure JobDetail)}
    (hcourse : Course (st.creations i).todo [e] todo) : (st.afterCall i e todo).OnCourse subs := by
  constructor
  · intro j
    by_cases hj : j = i
    · subst hj
      rw [SharedStore.afterCall_self]
      exact (h.course j).append hcourse
    · rw [SharedStore.afterCall_of_ne st hj]
      exact h.course j
  · intro j
    by_cases hj : j = i
    · subst hj
      rw [SharedStore.afterCall_self, List.foldl_append, ← h.staged j]
      rfl
    · rw [SharedStore.afterCall_of_ne st hj]
      exact h.staged j

/-- **Consistent:** what a store that is shared has become since it was `s`, if the commits of these orders
were granted, one after another. -/
structure Consistent (s : Store) (subs : ι → Submission) (st : SharedStore ι κ μ)
    (committed : List (ι × Order)) : Prop where
  /-- The tables of jobs are those from the beginning, with the tables of the orders behind them. -/
  tables : st.store.jobTables = committed.foldl (fun t e => t ++ e.2.tables) s.jobTables
  /-- No creation has two orders. -/
  nodup : (committed.map (·.1)).Nodup
  /-- The orders are those of the creations whose commit was granted. -/
  mem_iff : ∀ i, i ∈ committed.map (·.1) ↔ ⟨.commit, .ok ()⟩ ∈ (st.creations i).log
  /-- Each order is all that its creation has staged. -/
  ordered : ∀ e ∈ committed, (subs e.1).Ordered (st.creations e.1).log e.2
  /-- What each creation did is a course of it. -/
  course : ∀ i, Course (subs i).flow.run (st.creations i).log (st.creations i).todo
  /-- What each creation has staged can be read off its own calls. -/
  staged : ∀ i, (st.creations i).staged = (st.creations i).log.foldl Staged.after .empty

variable {s : Store} {subs : ι → Submission} {st st' : SharedStore ι κ μ}
  {committed : List (ι × Order)}

theorem consistent_start (s : Store) (subs : ι → Submission) (sweeps : κ → WarningRules × Instant) :
    Consistent s subs (SharedStore.start s subs sweeps : SharedStore ι κ μ) [] where
  tables := rfl
  nodup := List.nodup_nil
  mem_iff i := by simp [SharedStore.start]
  ordered e he := absurd he List.not_mem_nil
  course i := .start _
  staged i := rfl

/-- Only the creations and the tables of jobs matter. -/
theorem Consistent.congr (h : Consistent s subs st committed) (hcreations : st'.creations = st.creations)
    (htables : st'.store.jobTables = st.store.jobTables) : Consistent s subs st' committed where
  tables := htables.trans h.tables
  nodup := h.nodup
  mem_iff i := by rw [hcreations]; exact h.mem_iff i
  ordered e he := by rw [hcreations]; exact h.ordered e he
  course i := by rw [hcreations]; exact h.course i
  staged i := by rw [hcreations]; exact h.staged i

theorem foldl_tables_fresh {uid : Uid} {t : JobTables} {committed : List (ι × Order)}
    (ht : t.Fresh uid) (h : ∀ e ∈ committed, e.2.tables.Fresh uid) :
    (committed.foldl (fun t e => t ++ e.2.tables) t).Fresh uid := by
  induction committed generalizing t with
  | nil => exact ht
  | cons e committed ih =>
    exact ih (ht.append (h e List.mem_cons_self)) fun e' he' => h e' (List.mem_cons_of_mem _ he')

/-- An identifier stays fresh until the commit of its creation. -/
theorem Consistent.fresh (h : Consistent s subs st committed)
    (distinct : ∀ i j, (subs i).stamp.uid = (subs j).stamp.uid → i = j)
    (fresh : ∀ i, s.Fresh (subs i).stamp.uid) {i : ι} (hi : i ∉ committed.map (·.1)) :
    st.store.Fresh (subs i).stamp.uid := by
  -- The rows that were added since the beginning belong to other creations.
  rw [Store.Fresh, h.tables]
  refine foldl_tables_fresh (fresh i) fun e he => (h.ordered e he).tables_fresh fun huid => hi ?_
  rw [← distinct _ _ huid]
  exact List.mem_map_of_mem he

/-- Each creation of a consistent store is on course. -/
theorem Consistent.onCourse (h : Consistent s subs st committed) : st.OnCourse subs := ⟨h.course, h.staged⟩

/-- An order stays the one of its creation, whatever is asked for later. -/
theorem Consistent.ordered_afterCall [DecidableEq ι] (h : Consistent s subs st committed) (i : ι)
    (e : JobEvent) (todo : Workflow JobCall JobCall.Reply (Except Failure JobDetail)) :
    ∀ c ∈ committed, (subs c.1).Ordered ((st.afterCall i e todo).creations c.1).log c.2 := by
  intro c hc
  by_cases hi : c.1 = i
  · rw [hi, SharedStore.afterCall_self, ← hi]
    exact (h.ordered c hc).append [e]
  · rw [SharedStore.afterCall_of_ne st hi]
    exact h.ordered c hc

/-- A call that is not a commit that is granted leaves the tables alone. -/
theorem Consistent.asked [DecidableEq ι] (h : Consistent s subs st committed) {i : ι} {e : JobEvent}
    {todo : Workflow JobCall JobCall.Reply (Except Failure JobDetail)}
    (hcourse : Course (st.creations i).todo [e] todo) (he : JobEvent.committed e = false) :
    Consistent s subs (st.afterCall i e todo) committed where
  tables := by
    rw [SharedStore.afterCall, Session.after, he]
    exact h.tables
  nodup := h.nodup
  mem_iff j := by
    have hne : (⟨.commit, .ok ()⟩ : JobEvent) ≠ e := by
      rintro rfl
      cases he
    by_cases hj : j = i
    · rw [hj, SharedStore.afterCall_self, h.mem_iff i, List.mem_append, List.mem_singleton]
      exact ⟨.inl, fun h => h.resolve_right hne⟩
    · rw [SharedStore.afterCall_of_ne st hj]
      exact h.mem_iff j
  ordered := h.ordered_afterCall i e todo
  course := (h.onCourse.afterCall hcourse).course
  staged := (h.onCourse.afterCall hcourse).staged

theorem JobEvent.eq_of_committed {e : JobEvent} (h : JobEvent.committed e = true) :
    e = ⟨.commit, .ok ()⟩ := by
  obtain ⟨c, reply⟩ := e
  cases c with
  | commit =>
    cases (reply : Except Failure Unit) with
    | ok a => rfl
    | error e => cases h
  | _ => cases h

theorem JobEvent.mem_commit_iff {log : List JobEvent} :
    ⟨.commit, .ok ()⟩ ∈ log ↔ log.any JobEvent.committed = true := by
  rw [List.any_eq_true]
  constructor
  · intro h
    exact ⟨_, h, rfl⟩
  · rintro ⟨e, he, hcommitted⟩
    exact JobEvent.eq_of_committed hcommitted ▸ he

/-- **Up to its commit** a creation has found an order and staged it. -/
theorem Submission.ordered_at_commit {sub : Submission} {log : List JobEvent}
    {todo : Workflow JobCall JobCall.Reply (Except Failure JobDetail)}
    (hcourse : Course sub.flow.run (log ++ [⟨.commit, .ok ()⟩]) todo) :
    ⟨.commit, .ok ()⟩ ∉ log ∧ ∃ o, sub.Ordered (log ++ [⟨.commit, .ok ()⟩]) o ∧
      log.foldl Staged.after .empty = o.staged := by
  -- What the creation has found does not depend on how it goes on, so it may go on in any way.
  obtain ⟨tail, result, htail⟩ := Workflow.exists_course (fun _ => .error .internal) todo
  have htrace : Workflow.Trace sub.flow (log ++ ⟨.commit, .ok ()⟩ :: tail) result := by
    have hall := hcourse.append htail
    rwa [List.append_assoc] at hall
  obtain ⟨reads, o, granted, rfl, hreads, hgranted, -⟩ := trace_create_at_commit htrace rfl
  have hstaged := staged_before_commit hreads hgranted
  have hnone : (⟨.commit, .ok ()⟩ : JobEvent) ∉ reads ++ granted := fun hmem =>
    JobCall.ne_commit (calls_before_commit hreads hgranted _ hmem).1 rfl
  obtain ⟨looked, read, found, table, rfl, hgather, htags, rfl⟩ := trace_resolve_ok hreads
  exact ⟨hnone, _, ⟨looked, read, granted, [], rfl, resolvedBy_order hgather htags, hgranted, hstaged⟩,
    hstaged⟩

/-- A commit that is granted puts an order behind the tables. -/
theorem Consistent.commit [DecidableEq ι] (h : Consistent s subs st committed)
    (distinct : ∀ i j, (subs i).stamp.uid = (subs j).stamp.uid → i = j)
    (fresh : ∀ i, s.Fresh (subs i).stamp.uid) {i : ι}
    {todo : Workflow JobCall JobCall.Reply (Except Failure JobDetail)}
    (hcourse : Course (st.creations i).todo [⟨.commit, .ok ()⟩] todo) :
    ∃ o, Consistent s subs (st.afterCall i ⟨.commit, .ok ()⟩ todo) (committed ++ [(i, o)]) := by
  obtain ⟨hnone, o, hordered, hstaged⟩ :=
    Submission.ordered_at_commit ((h.course i).append hcourse)
  -- Its commit was not granted before, so its identifier is still fresh whatever the others have committed.
  have hi : i ∉ committed.map (·.1) := fun hmem => hnone ((h.mem_iff i).mp hmem)
  have hgoing := h.onCourse.afterCall hcourse
  refine ⟨o, ?_, ?_, ?_, ?_, hgoing.course, hgoing.staged⟩
  · have hfresh : st.store.Fresh o.job.uid := hordered.uid ▸ h.fresh distinct fresh hi
    have hstore : (st.afterCall i ⟨.commit, .ok ()⟩ todo).store =
        st.store.withJobTables (st.store.jobTables ++ o.tables) := by
      rw [← Order.apply_staged hfresh, ← hstaged, ← h.staged i]
      rfl
    rw [hstore, Store.jobTables_withJobTables, h.tables, List.foldl_append]
    rfl
  · rw [List.map_append, List.nodup_append]
    refine ⟨h.nodup, by simp, fun j hj k hk => ?_⟩
    have hk : k = i := List.mem_singleton.mp hk
    exact fun heq => hi (hk ▸ heq ▸ hj)
  · intro j
    rw [List.map_append, List.mem_append]
    by_cases hj : j = i
    · rw [hj, SharedStore.afterCall_self]
      exact ⟨fun _ => List.mem_append_right _ (List.mem_singleton_self _),
        fun _ => .inr (List.mem_singleton_self _)⟩
    · rw [SharedStore.afterCall_of_ne st hj, ← h.mem_iff j]
      exact ⟨fun hmem => hmem.resolve_right fun hlast => hj (List.mem_singleton.mp hlast), .inl⟩
  · intro c hc
    rcases List.mem_append.mp hc with hc | hc
    · exact h.ordered_afterCall i _ todo c hc
    · rw [List.mem_singleton.mp hc, SharedStore.afterCall_self]
      exact hordered

section

variable [DecidableEq ι] [DecidableEq κ] [DecidableEq μ]

/-- **A turn keeps what was committed,** and adds at most one order. -/
theorem Consistent.take (h : Consistent s subs st committed)
    (distinct : ∀ i j, (subs i).stamp.uid = (subs j).stamp.uid → i = j)
    (fresh : ∀ i, s.Fresh (subs i).stamp.uid) (t : Turn ι κ μ) :
    ∃ rest, Consistent s subs (st.take t) (committed ++ rest) := by
  cases t with
  | creation i preset dispatch =>
    rcases st.take_creation i preset dispatch with hidle | ⟨e, todo, hcourse, htake⟩
    · exact ⟨[], by rwa [hidle, List.append_nil]⟩
    rw [htake]
    cases he : JobEvent.committed e with
    | false => exact ⟨[], by rw [List.append_nil]; exact h.asked hcourse he⟩
    | true =>
      cases JobEvent.eq_of_committed he
      obtain ⟨o, hcommit⟩ := h.commit distinct fresh hcourse
      exact ⟨[(i, o)], hcommit⟩
  | sweep k send =>
    refine ⟨[], ?_⟩
    rw [List.append_nil, SharedStore.take]
    split
    · exact h
    · exact h.congr rfl (Store.answerSweep_jobTables send _ _)
  | averages l count =>
    refine ⟨[], ?_⟩
    rw [List.append_nil, SharedStore.take]
    split
    · exact h
    · exact h.congr rfl (Store.answerEstimate_jobTables count _ _)
  | failAt point => exact ⟨[], by rw [List.append_nil]; exact h.congr rfl rfl⟩

theorem Consistent.run (h : Consistent s subs st committed)
    (distinct : ∀ i j, (subs i).stamp.uid = (subs j).stamp.uid → i = j)
    (fresh : ∀ i, s.Fresh (subs i).stamp.uid) (turns : List (Turn ι κ μ)) :
    ∃ rest, Consistent s subs (st.run turns) (committed ++ rest) := by
  induction turns generalizing st committed with
  | nil => exact ⟨[], by rwa [List.append_nil]⟩
  | cons t turns ih =>
    obtain ⟨first, hfirst⟩ := h.take distinct fresh t
    obtain ⟨rest, hrest⟩ := ih hfirst
    exact ⟨first ++ rest, by rwa [← List.append_assoc]⟩

omit [DecidableEq ι] [DecidableEq κ] [DecidableEq μ] in
/-- Orders only add to the tables. -/
theorem exists_foldl_tables (t : JobTables) (committed : List (ι × Order)) :
    ∃ more, committed.foldl (fun t e => t ++ e.2.tables) t = t ++ more := by
  induction committed generalizing t with
  | nil => exact ⟨∅, (JobTables.append_empty t).symm⟩
  | cons e committed ih =>
    obtain ⟨more, hmore⟩ := ih (t ++ e.2.tables)
    exact ⟨e.2.tables ++ more, by rw [List.foldl_cons, hmore, JobTables.append_assoc]⟩

/-- **Creations that take turns** with each other, with sweeps and with computations of averages leave a
consistent store at every moment, and what was committed by one moment stays as it is at every later one. -/
theorem creations_in_turns (s : Store) (subs : ι → Submission) (sweeps : κ → WarningRules × Instant)
    (distinct : ∀ i j, (subs i).stamp.uid = (subs j).stamp.uid → i = j)
    (fresh : ∀ i, s.Fresh (subs i).stamp.uid) (turns more : List (Turn ι κ μ)) :
    let now := (SharedStore.start s subs sweeps).run turns
    let later := (SharedStore.start s subs sweeps).run (turns ++ more)
    ∃ committed rest, Consistent s subs now committed ∧ Consistent s subs later (committed ++ rest) ∧
      ∃ new, later.store.jobTables = now.store.jobTables ++ new := by
  intro now later
  obtain ⟨committed, hnow⟩ := (consistent_start s subs sweeps).run distinct fresh turns
  rw [List.nil_append] at hnow
  obtain ⟨rest, hlater⟩ := hnow.run distinct fresh more
  have hruns : now.run more = later := (List.foldl_append ..).symm
  rw [hruns] at hlater
  obtain ⟨new, hnew⟩ := exists_foldl_tables now.store.jobTables rest
  have htables : later.store.jobTables = now.store.jobTables ++ new := by
    rw [hlater.tables, List.foldl_append, ← hnow.tables, hnew]
  exact ⟨committed, rest, hnow, hlater, new, htables⟩

end

end

/-- Three requests for trials, which differ in their identifiers. -/
def Submission.trial (i : Fin 3) : Submission :=
  ⟨.trial .reject, .trial ⟨BitVec.ofNat 128 (10 + i)⟩, ⟨2⟩, .trial⟩

/-- A turn of a creation for trials. Presets have one tag, and jobs are taken. -/
def Turn.trial (i : Fin 3) : Turn (Fin 3) Unit Unit :=
  .creation i (fun _ => .ok [("harbour", [.polygon])]) fun _ => .ok ()

/-- Two creations take turns. At first both have staged all of their orders and one commit was granted; later the other
one was granted too, and from then on the store refuses to commit, which the third creation finds. -/
theorem trial_in_turns :
    let s := Store.trial []
    let turns : List (Turn (Fin 3) Unit Unit) :=
      .sweep () (fun _ => .ok ()) :: (List.replicate 12 [Turn.trial 1, Turn.trial 0]).flatten ++
        [.averages () fun _ => .ok 0, .trial 1]
    let more : List (Turn (Fin 3) Unit Unit) :=
      [.trial 0, .trial 1, .sweep () fun _ => .ok (), .trial 0, .failAt .commit] ++ List.replicate 14 (.trial 2)
    let start : SharedStore (Fin 3) Unit Unit := .start s .trial fun _ => (⟨"http://localhost", "noreply"⟩, .epoch)
    let now := start.run turns
    let later := start.run (turns ++ more)
    (∀ i j, (Submission.trial i).stamp.uid = (Submission.trial j).stamp.uid → i = j) ∧
      (∀ i, s.Fresh (Submission.trial i).stamp.uid) ∧
      ∃ committed rest, Consistent s .trial now committed ∧ Consistent s .trial later (committed ++ rest) ∧
        (∃ new, later.store.jobTables = now.store.jobTables ++ new) ∧
        (∀ i, i ∈ committed.map (·.1) ↔ i = 1) ∧ ∀ i, i ∈ (committed ++ rest).map (·.1) ↔ i ≠ 2 := by
  intro s turns more start now later
  have distinct : ∀ i j, (Submission.trial i).stamp.uid = (Submission.trial j).stamp.uid → i = j := by
    decide
  have fresh : ∀ i, s.Fresh (Submission.trial i).stamp.uid := by decide
  obtain ⟨committed, rest, hnow, hlater, hnew⟩ := creations_in_turns s .trial
    (fun _ => (⟨"http://localhost", "noreply"⟩, .epoch)) distinct fresh turns more
  have hfirst : ∀ i, (now.creations i).log.any JobEvent.committed = decide (i = 1) := by decide +kernel
  have hboth : ∀ i, (later.creations i).log.any JobEvent.committed = decide (i ≠ 2) := by decide +kernel
  refine ⟨distinct, fresh, committed, rest, hnow, hlater, hnew, fun i => ?_, fun i => ?_⟩
  · rw [hnow.mem_iff, JobEvent.mem_commit_iff, hfirst, decide_eq_true_iff]
  · rw [hlater.mem_iff, JobEvent.mem_commit_iff, hboth, decide_eq_true_iff]

/-- An identifier that the store knows at the beginning: the job that has it is lost when another one is committed under
it, so the tables are no longer those from the beginning with others behind them. -/
theorem known_job_is_overwritten :
    let s := Store.trial []
    let subs (i : Fin 3) : Submission :=
      { Submission.trial i with
        stamp := .trial ⟨BitVec.ofNat 128 (3 + i)⟩
        request := { JobRequest.trial with name := "Castle" } }
    let start : SharedStore (Fin 3) Unit Unit := .start s subs fun _ => (⟨"http://localhost", "noreply"⟩, .epoch)
    let now := start.run (List.replicate 13 (.trial 0))
    (∀ i j, (subs i).stamp.uid = (subs j).stamp.uid → i = j) ∧
      s.jobs.map (fun e => (e.1, e.2.name)) = [(⟨3⟩, "Harbour")] ∧
      now.store.jobs.map (fun e => (e.1, e.2.name)) = [(⟨3⟩, "Castle")] ∧
      (∀ more, now.store.jobTables ≠ s.jobTables ++ more) ∧ ∀ committed, ¬ Consistent s subs now committed := by
  intro s subs start now
  have hbefore : s.jobs.map (fun e => (e.1, e.2.name)) = [(⟨3⟩, "Harbour")] := by decide
  have hafter : now.store.jobs.map (fun e => (e.1, e.2.name)) = [(⟨3⟩, "Castle")] := by decide +kernel
  have hlost : ∀ more, now.store.jobTables ≠ s.jobTables ++ more := by
    intro more htables
    have hjobs : now.store.jobs = s.jobs ++ more.jobs := congrArg JobTables.jobs htables
    rw [hjobs, List.map_append, hbefore] at hafter
    exact absurd (List.cons.inj hafter).1 (by decide)
  refine ⟨by decide, hbefore, hafter, hlost, fun committed h => ?_⟩
  obtain ⟨more, hmore⟩ := exists_foldl_tables s.jobTables committed
  exact hlost more (h.tables.trans hmore)

end MapExport
