import Mathlib.Data.List.Forall2
import MapExport.Proofs.Job.Interleaving

/-!
# The newest runs of a provider

Averages are computed from the newest completed runs of a provider and the geometries of their jobs. The store cuts its
list of runs at the limit before it looks up any job, so a run without its job would be lost, and no other one would
take its place. That every job which is linked to providers is there (`Store.LinksResolve`) is an invariant of all that
can happen to a store: additions from outside, and the calls of creations of jobs, sweeps and computations of averages
in any order. For the creations it holds because a commit writes the links of an order together with its job, and up to
the commit nothing is written.

What is left is a fact about sorting. A stable sort keeps the runs of each date in their order, so cutting it gives
the newest runs and, of those of one date, the earliest that came in (`newest_take`).
-/

set_option autoImplicit false

namespace MapExport

open Workflow (Course)

/-! ## What happens to a store -/

/-- **An addition** to a store from outside. -/
inductive Addition where
  | user (u : User)
  | format (f : Format)
  | config (c : Config)
  | provider (p : Provider)
  | job (j : Job) (providers : List Uid)
  | run (r : Run)
  | record (r : TaskRecord)

/-- A store after an addition. -/
def Store.add (s : Store) : Addition → Store
  | .user u => s.addUser u
  | .format f => s.addFormat f
  | .config c => s.addConfig c
  | .provider p => s.addProvider p
  | .job j providers => s.addJob j providers
  | .run r => s.addRun r
  | .record r => s.addRecord r

/-- **What happens to a store that is shared:** one of those that share it takes a turn, or something is added. -/
inductive Happening (ι κ μ : Type) where
  | turn (t : Turn ι κ μ)
  | added (a : Addition)

namespace SharedStore

variable {ι κ μ : Type} [DecidableEq ι] [DecidableEq κ] [DecidableEq μ]

/-- A store that is shared, after something happened to it. -/
def undergo (st : SharedStore ι κ μ) : Happening ι κ μ → SharedStore ι κ μ
  | .turn t => st.take t
  | .added a => { st with store := st.store.add a }

/-- One thing happens after another. -/
def undergoAll (st : SharedStore ι κ μ) (happenings : List (Happening ι κ μ)) : SharedStore ι κ μ :=
  happenings.foldl undergo st

end SharedStore

/-! ## Links to jobs -/

namespace Table

variable {α : Type}

theorem get?_cons (e : Uid × α) (t : Table α) (key : Uid) :
    get? (e :: t) key = if e.1 = key then some e.2 else t.get? key := by
  unfold get?
  by_cases h : e.1 = key
  · rw [List.find?_cons_of_pos (by simpa using h), if_pos h]
    rfl
  · rw [List.find?_cons_of_neg (by simpa using h), if_neg h]

/-- **What was set** is found under its key, and all else as before. -/
theorem get?_set (t : Table α) (key other : Uid) (a : α) :
    (t.set key a).get? other = if key = other then some a else t.get? other := by
  induction t with
  | nil => rw [set, get?_cons]
  | cons e t ih =>
    rw [set]
    by_cases hkey : e.1 = key
    · rw [if_pos hkey, get?_cons, get?_cons, hkey]
      by_cases hother : key = other
      · rw [if_pos hother, if_pos hother]
      · rw [if_neg hother, if_neg hother, if_neg hother]
    · rw [if_neg hkey, get?_cons, get?_cons, ih]
      by_cases hother : key = other
      · rw [if_pos hother, if_neg (hother ▸ hkey), if_pos hother]
      · rw [if_neg hother, if_neg hother]

/-- Rows of one key make no entry of another. -/
theorem get?_foldl_push {key other : Uid} (h : key ≠ other) (rows : List α) (t : Table (List α)) :
    (rows.foldl (fun t a => t.push key a) t).get? other = t.get? other := by
  induction rows generalizing t with
  | nil => rfl
  | cons a rows ih => rw [List.foldl_cons, ih, push, get?_set, if_neg h]

end Table

namespace Store

/-- **Links resolve:** every job that is linked to providers is there. -/
def LinksResolve (s : Store) : Prop := ∀ uid, s.jobProviders.get? uid ≠ none → s.jobs.get? uid ≠ none

variable {s t : Store}

theorem linksResolve_empty : Store.empty.LinksResolve := fun _ h => absurd rfl h

/-- Whether links resolve depends on the tables of jobs alone. -/
theorem LinksResolve.congr (h : s.LinksResolve) (htables : t.jobTables = s.jobTables) : t.LinksResolve := by
  have hjobs : t.jobs = s.jobs := congrArg JobTables.jobs htables
  have hlinks : t.jobProviders = s.jobProviders := congrArg JobTables.providers htables
  intro uid
  rw [hjobs, hlinks]
  exact h uid

/-- **The commit of an order** writes its links and its job at once, whether its identifier is fresh or not. -/
theorem LinksResolve.commit (h : s.LinksResolve) (o : Order) : (o.staged.apply s).LinksResolve := by
  intro uid hlinked
  have hjobs : (o.staged.apply s).jobs = s.jobs.set o.job.uid o.job := rfl
  have hlinks : (o.staged.apply s).jobProviders =
      (o.providers.map Provider.uid).foldl (fun t p => t.push o.job.uid p) s.jobProviders := by
    rw [List.foldl_map]
    simp only [Staged.apply, Order.staged, List.foldl_map]
  rw [hjobs, Table.get?_set]
  by_cases hown : o.job.uid = uid
  · rw [if_pos hown]
    exact Option.some_ne_none o.job
  · rw [hlinks, Table.get?_foldl_push hown] at hlinked
    rw [if_neg hown]
    exact h uid hlinked

/-- **An addition** adds no link without its job. -/
theorem LinksResolve.add (h : s.LinksResolve) (a : Addition) : (s.add a).LinksResolve := by
  cases a with
  | job j providers =>
    intro uid hlinked
    have hjobs : (s.add (.job j providers)).jobs = s.jobs.set j.uid j := rfl
    have hlinks : (s.add (.job j providers)).jobProviders = s.jobProviders.set j.uid providers := rfl
    rw [hjobs, Table.get?_set]
    rw [hlinks, Table.get?_set] at hlinked
    by_cases hown : j.uid = uid
    · rw [if_pos hown]
      exact Option.some_ne_none j
    · rw [if_neg hown] at hlinked ⊢
      exact h uid hlinked
  | _ => exact h.congr rfl

end Store

namespace SharedStore

variable {ι κ μ : Type} [DecidableEq ι] [DecidableEq κ] [DecidableEq μ] {subs : ι → Submission}
  {st : SharedStore ι κ μ}

/-- **A turn** keeps links resolved, and creations on course. -/
theorem OnCourse.take (h : st.OnCourse subs) (hlinks : st.store.LinksResolve) (t : Turn ι κ μ) :
    (st.take t).OnCourse subs ∧ (st.take t).store.LinksResolve := by
  cases t with
  | creation i preset dispatch =>
    rcases st.take_creation i preset dispatch with hidle | ⟨e, todo, hcourse, htake⟩
    · rw [hidle]
      exact ⟨h, hlinks⟩
    · rw [htake]
      refine ⟨h.afterCall hcourse, ?_⟩
      by_cases he : JobEvent.committed e = true
      · -- Only a commit writes anything, and what it writes is an order.
        cases JobEvent.eq_of_committed he
        obtain ⟨-, o, -, hstaged⟩ := Submission.ordered_at_commit ((h.course i).append hcourse)
        have hstore : (st.afterCall i ⟨.commit, .ok ()⟩ todo).store = o.staged.apply st.store := by
          rw [← hstaged, ← h.staged i]
          rfl
        rw [hstore]
        exact hlinks.commit o
      · have hstore : (st.afterCall i e todo).store = st.store := by
          simp only [SharedStore.afterCall, Session.after, if_neg he]
        rw [hstore]
        exact hlinks
  | sweep k send =>
    rw [SharedStore.take]
    split
    · exact ⟨h, hlinks⟩
    · exact ⟨⟨h.course, h.staged⟩, hlinks.congr (Store.answerSweep_jobTables send _ _)⟩
  | averages l count =>
    rw [SharedStore.take]
    split
    · exact ⟨h, hlinks⟩
    · exact ⟨⟨h.course, h.staged⟩, hlinks.congr (Store.answerEstimate_jobTables count _ _)⟩
  | failAt point => exact ⟨⟨h.course, h.staged⟩, hlinks.congr rfl⟩

/-- **Whatever happens,** links keep resolved. -/
theorem OnCourse.linksResolve_undergoAll (h : st.OnCourse subs) (hlinks : st.store.LinksResolve)
    (happenings : List (Happening ι κ μ)) : (st.undergoAll happenings).store.LinksResolve := by
  induction happenings generalizing st with
  | nil => exact hlinks
  | cons happening happenings ih =>
    cases happening with
    | turn t =>
      obtain ⟨hnext, hnextLinks⟩ := h.take hlinks t
      exact ih hnext hnextLinks
    | added a =>
      have hnext : (st.undergo (.added a)).OnCourse subs := ⟨h.course, h.staged⟩
      exact ih hnext (hlinks.add a)

end SharedStore

/-! ## The newest of some runs -/

/-- **The newest runs** of some that are listed as they came in, at most `limit` of them, and the rest. -/
structure Newest (limit : Nat) (runs newest rest : List Run) : Prop where
  /-- Every run is among the newest or among the rest. -/
  all : (newest ++ rest).Perm runs
  /-- As many are given as the limit allows. -/
  length : newest.length = min limit runs.length
  /-- None of the rest is newer than one that is given. -/
  newer : ∀ r ∈ newest, ∀ left ∈ rest, left.createdAt ≤ r.createdAt
  /-- The newer ones come first. -/
  order : newest.Pairwise fun r next => next.createdAt ≤ r.createdAt
  /-- Of one date the earliest are given, in the order in which they came in. -/
  ties : ∀ time, (newest.filter (·.createdAt == time)) <+: runs.filter (·.createdAt == time)

theorem Instant.le_trans {a b c : Instant} (h : a ≤ b) (h' : b ≤ c) : a ≤ c := by
  change Instant.le a b at h
  change Instant.le b c at h'
  change Instant.le a c
  unfold Instant.le at h h' ⊢
  omega

theorem Instant.le_total (a b : Instant) : a ≤ b ∨ b ≤ a := by
  change Instant.le a b ∨ Instant.le b a
  unfold Instant.le
  omega

theorem Instant.le_refl (a : Instant) : a ≤ a := (Instant.le_total a a).elim id id

/-- Whether a run is to come before another one: it is at least as new. -/
def Run.isBefore (r r' : Run) : Bool := decide (r'.createdAt ≤ r.createdAt)

theorem Run.isBefore_trans (a b c : Run) (hab : a.isBefore b = true) (hbc : b.isBefore c = true) :
    a.isBefore c = true := by
  rw [isBefore, decide_eq_true_eq] at hab hbc ⊢
  exact Instant.le_trans hbc hab

theorem Run.isBefore_total (a b : Run) : (a.isBefore b || b.isBefore a) = true := by
  rw [isBefore, isBefore, Bool.or_eq_true, decide_eq_true_eq, decide_eq_true_eq]
  exact Instant.le_total b.createdAt a.createdAt

/-- **The runs of one date** keep their order when all are sorted. -/
theorem filter_mergeSort_isBefore (runs : List Run) (time : Instant) :
    (runs.mergeSort Run.isBefore).filter (·.createdAt == time) = runs.filter (·.createdAt == time) := by
  have hsame : (runs.filter (·.createdAt == time)).Pairwise fun r r' => r.isBefore r' = true := by
    refine List.pairwise_of_forall_mem_list fun r hr r' hr' => ?_
    have htime : r.createdAt = time := by simpa using (List.mem_filter.mp hr).2
    have htime' : r'.createdAt = time := by simpa using (List.mem_filter.mp hr').2
    rw [Run.isBefore, htime, htime', decide_eq_true_eq]
    exact Instant.le_refl time
  have hsub : (runs.filter (·.createdAt == time)).Sublist (runs.mergeSort Run.isBefore) :=
    List.sublist_mergeSort Run.isBefore_trans Run.isBefore_total hsame List.filter_sublist
  -- They stand in the sorted list in this order, and no others of that date do.
  have hsub' := hsub.filter (·.createdAt == time)
  rw [List.filter_filter] at hsub'
  simp only [Bool.and_self] at hsub'
  have hlength := ((List.mergeSort_perm runs Run.isBefore).filter (·.createdAt == time)).length_eq
  exact (hsub'.eq_of_length hlength.symm).symm

/-- **Cutting the sorted list** gives the newest runs. -/
theorem newest_take (limit : Nat) (runs : List Run) :
    Newest limit runs ((runs.mergeSort Run.isBefore).take limit) ((runs.mergeSort Run.isBefore).drop limit) := by
  have hperm := List.mergeSort_perm runs Run.isBefore
  have hsorted : (runs.mergeSort Run.isBefore).Pairwise fun r r' => r'.createdAt ≤ r.createdAt := by
    refine (List.pairwise_mergeSort Run.isBefore_trans Run.isBefore_total runs).imp fun h => ?_
    simpa [Run.isBefore] using h
  constructor
  · rw [List.take_append_drop]
    exact hperm
  · rw [List.length_take, hperm.length_eq]
  · intro r hr left hleft
    rw [← List.take_append_drop limit (runs.mergeSort Run.isBefore), List.pairwise_append] at hsorted
    exact hsorted.2.2 r hr left hleft
  · exact hsorted.sublist (List.take_sublist limit _)
  · intro time
    rw [← filter_mergeSort_isBefore runs time]
    exact (List.take_prefix limit _).filter _

/-! ## All together -/

namespace Store

/-- Whether a run counts for a provider: it is completed, and its job is linked to the provider. -/
def counts (s : Store) (provider : Uid) (r : Run) : Bool := r.status == .completed && s.usesProvider r.job provider

/-- **What is told of a run:** its identifier, and the geometry of its own job. -/
def Tells (s : Store) (r : Run) (f : Footprint) : Prop :=
  ∃ job, s.jobs.get? r.job = some job ∧ f = ⟨r.uid, job.geometry⟩

/-- A run that counts has its job. -/
theorem LinksResolve.exists_job {s : Store} (h : s.LinksResolve) {provider : Uid} {r : Run}
    (hr : s.counts provider r = true) : ∃ job, s.jobs.get? r.job = some job := by
  rw [counts, Bool.and_eq_true, usesProvider] at hr
  refine Option.ne_none_iff_exists'.mp (h r.job fun hnone => ?_)
  rw [hnone] at hr
  simp at hr

/-- Where all jobs are found, each run is told of. -/
theorem forall₂_tells {s : Store} {runs : List Run} (h : ∀ r ∈ runs, ∃ job, s.jobs.get? r.job = some job) :
    List.Forall₂ s.Tells runs
      (runs.filterMap fun r => (s.jobs.get? r.job).map fun job => (⟨r.uid, job.geometry⟩ : Footprint)) := by
  induction runs with
  | nil => exact .nil
  | cons r runs ih =>
    obtain ⟨job, hjob⟩ := h r List.mem_cons_self
    rw [List.filterMap_cons, hjob]
    exact .cons ⟨job, hjob, rfl⟩ (ih fun r' hr' => h r' (List.mem_cons_of_mem _ hr'))

end Store

/-- **The newest completed runs of a provider** are what a store gives, each with the geometry of its own job, whatever
happened to the store before. No run is lost: of those that count, as many are given as the limit allows. -/
theorem recent_runs_are_the_newest {ι κ μ : Type} [DecidableEq ι] [DecidableEq κ] [DecidableEq μ]
    (subs : ι → Submission) (sweeps : κ → WarningRules × Instant) (happenings : List (Happening ι κ μ))
    (provider : Uid) (limit : Nat) :
    let s := ((SharedStore.start .empty subs sweeps : SharedStore ι κ μ).undergoAll happenings).store
    .recentRuns provider ∉ s.faults → ∃ footprints newest rest,
      s.recentRuns provider limit = .ok footprints ∧
        footprints.length = min limit (s.runs.filter (s.counts provider)).length ∧
        Newest limit (s.runs.filter (s.counts provider)) newest rest ∧ List.Forall₂ s.Tells newest footprints := by
  intro s hfaults
  have hstart : (SharedStore.start .empty subs sweeps : SharedStore ι κ μ).OnCourse subs :=
    ⟨fun i => .start _, fun i => rfl⟩
  have hlinks : s.LinksResolve := hstart.linksResolve_undergoAll Store.linksResolve_empty happenings
  have hnewest := newest_take limit (s.runs.filter (s.counts provider))
  have hfound : ∀ r ∈ ((s.runs.filter (s.counts provider)).mergeSort Run.isBefore).take limit,
      ∃ job, s.jobs.get? r.job = some job := by
    intro r hr
    have hcounts := List.mem_mergeSort.mp (List.mem_of_mem_take hr)
    exact hlinks.exists_job (List.mem_filter.mp hcounts).2
  have htold := Store.forall₂_tells hfound
  refine ⟨_, _, _, ?_, ?_, hnewest, htold⟩
  · rw [Store.recentRuns, Store.guard, if_neg hfaults]
    rfl
  · rw [← htold.length_eq]
    exact hnewest.length

/-- What happens to a store for trials. A run comes in before its job does, one is a day newer than the others, one
has failed, and one is deleted by a sweep in between. -/
def Happening.trial : List (Happening Empty Unit Empty) :=
  let nextDay : Instant := ⟨Calendar.yearStart 1970 + 1, 0, 0, by decide⟩
  let run (uid : Uid) (status : RunStatus) (createdAt expiration : Instant) : Happening Empty Unit Empty :=
    .added (.run ⟨uid, ⟨3⟩, ⟨2⟩, status, createdAt, expiration, none⟩)
  [run ⟨11⟩ .completed .epoch nextDay, .added (.job (Job.ofRequest (.trial ⟨3⟩) ⟨2⟩ .trial) [⟨9⟩]),
    run ⟨12⟩ .completed nextDay .epoch, run ⟨13⟩ .failed nextDay nextDay, run ⟨14⟩ .completed .epoch nextDay] ++
    List.replicate 9 (.turn (.sweep () fun _ => .ok ())) ++ [run ⟨15⟩ .completed nextDay nextDay]

theorem trial_recent_runs :
    let sweeps (_ : Unit) : WarningRules × Instant := (⟨"http://localhost", "noreply"⟩, .epoch)
    let s := ((SharedStore.start .empty Empty.elim sweeps : SharedStore Empty Unit Empty).undergoAll Happening.trial).store
    .recentRuns ⟨9⟩ ∉ s.faults ∧ (s.runs.filter (s.counts ⟨9⟩)).map (·.uid) = [⟨11⟩, ⟨14⟩, ⟨15⟩] ∧
      ∃ footprints newest rest, s.recentRuns ⟨9⟩ 2 = .ok footprints ∧
        footprints.length = min 2 (s.runs.filter (s.counts ⟨9⟩)).length ∧
        Newest 2 (s.runs.filter (s.counts ⟨9⟩)) newest rest ∧ List.Forall₂ s.Tells newest footprints := by
  intro sweeps s
  have hfaults : .recentRuns ⟨9⟩ ∉ s.faults := by decide +kernel
  have hcounting : (s.runs.filter (s.counts ⟨9⟩)).map (·.uid) = [⟨11⟩, ⟨14⟩, ⟨15⟩] := by decide +kernel
  exact ⟨hfaults, hcounting, recent_runs_are_the_newest Empty.elim sweeps Happening.trial ⟨9⟩ 2 hfaults⟩

end MapExport
