import Mathlib.Logic.Function.Basic
import MapExport.Proofs.Expiration.Accounting
import MapExport.Proofs.Expiration.Grounds
import MapExport.Proofs.Store.Sessions

/-!
# Sweeps that overlap

Any number of sweeps go through the runs of one store at the same time, each with its own time and with the list that
it was given at its start. Between two calls of one of them anything may happen in the others, so a list may be out of
date when it is used; and any call may fail.

The store itself sees to it that no run is deleted twice, as it refuses to delete what is not there. All else follows
from the grounds that each sweep has for its calls (`Sweep.exists_grounds`): a list may be out of date, but when a run
expires and who owns it never changes. So what the sweeps do together is what each of them had reason to do
(`sweeps_in_turns`).
-/

set_option autoImplicit false

namespace MapExport

open Workflow (Course)

/-! ## Taking turns -/

/-- **A sweep to be made:** by which rules and at what time. -/
structure SweepPlan where
  rules : WarningRules
  now : Instant

/-- The sweep that is to be made. -/
def SweepPlan.flow (plan : SweepPlan) : SweepFlow (Except SweepFault SweepReport) :=
  Sweep.sweep plan.rules plan.now

/-- **A sweep under way:** what is left to do, and what was asked for so far. -/
structure SweepUnderWay where
  todo : SweepFlow (Except SweepFault SweepReport)
  log : List SweepEvent

/-- **Runs that are shared** by sweeps. -/
structure SharedRuns (κ : Type) where
  store : Store
  sweeps : κ → SweepUnderWay

/-- **A turn of a sweep.** It makes its next call, which may be refused for whatever reason. -/
structure SweepTurn (κ : Type) where
  sweep : κ
  refusal : Option Failure

/-- **A call that is not refused** is answered by the store, and its mail is sent. -/
def Store.grant (s : Store) (c : SweepCall) : c.Reply × Store := s.answerSweep (m := Id) (fun _ => .ok ()) c

namespace SharedRuns

variable {κ : Type}

/-- **The beginning,** where no sweep has made a call yet. -/
def start (s : Store) (plans : κ → SweepPlan) : SharedRuns κ := ⟨s, fun k => ⟨(plans k).flow, []⟩⟩

/-- **After a call** of a sweep, with what is then left to do. -/
def afterCall [DecidableEq κ] (st : SharedRuns κ) (k : κ) (e : SweepEvent)
    (todo : SweepFlow (Except SweepFault SweepReport)) (store : Store) : SharedRuns κ :=
  ⟨store, Function.update st.sweeps k ⟨todo, (st.sweeps k).log ++ [e]⟩⟩

/-- **Taking a turn.** A sweep with nothing left to do leaves everything as it is. -/
def take [DecidableEq κ] (st : SharedRuns κ) (turn : SweepTurn κ) : SharedRuns κ :=
  match (st.sweeps turn.sweep).todo with
  | .done _ => st
  | .call c next =>
    let answered : c.Reply × Store := match turn.refusal with
      | some e => (.error e, st.store)
      | none => st.store.grant c
    st.afterCall turn.sweep ⟨c, answered.1⟩ (next answered.1) answered.2

/-- Taking one turn after another. -/
def run [DecidableEq κ] (st : SharedRuns κ) (turns : List (SweepTurn κ)) : SharedRuns κ := turns.foldl take st

/-- **The runs that a sweep has deleted** so far. -/
def deletedBy (st : SharedRuns κ) (k : κ) : List Uid := (st.sweeps k).log.filterMap SweepCall.deleted?

/-- The report of a sweep, if it has come to one. -/
def report? (st : SharedRuns κ) (k : κ) : Option SweepReport :=
  match (st.sweeps k).todo with
  | .done (.ok report) => some report
  | _ => none

/-- Whether a sweep has nothing left to do. -/
def isDone (st : SharedRuns κ) (k : κ) : Bool :=
  match (st.sweeps k).todo with
  | .done _ => true
  | .call _ _ => false

end SharedRuns

/-! ## What a call does -/

namespace Store

/-- A store without a run. -/
def withoutRun (t : Store) (uid : Uid) : Store :=
  { t with
    runs := t.runs.filter (·.uid != uid)
    records := t.records.filter (·.run != uid) }

/-- A store that keeps when the owner of a run was warned. -/
def stamped (t : Store) (uid : Uid) (time : Instant) : Store :=
  { t with runs := modifyFirst (·.uid == uid) (fun run => { run with notified := some time }) t.runs }

/-- **What a call of a sweep can do** to a store. -/
inductive AfterCall (t : Store) : SweepEvent → Store → Prop where
  | listed : AfterCall t ⟨.listRuns, .ok t.listRuns⟩ t
  | sent (mail : Mail) : AfterCall t ⟨.sendMail mail, .ok ()⟩ t
  | refused (c : SweepCall) (e : Failure) : AfterCall t ⟨c, .error e⟩ t
  | deleted (uid : Uid) : uid ∈ t.runs.map (·.uid) → AfterCall t ⟨.deleteRun uid, .ok ()⟩ (t.withoutRun uid)
  | marked (uid : Uid) (time : Instant) : AfterCall t ⟨.markNotified uid time, .ok ()⟩ (t.stamped uid time)

/-- **Every call that the store answers** does one of these things. -/
theorem afterCall_grant (t : Store) (c : SweepCall) : t.AfterCall ⟨c, (t.grant c).1⟩ (t.grant c).2 := by
  cases c with
  | listRuns => exact .listed
  | sendMail mail => exact .sent mail
  | deleteRun uid =>
    show t.AfterCall ⟨.deleteRun uid, (t.change (t.deleteRun uid)).1⟩ (t.change (t.deleteRun uid)).2
    cases hstep : t.deleteRun uid with
    | error e => exact .refused _ e
    | ok t' =>
      have hthere := of_guard hstep
      split at hthere
      · next hany =>
        cases hthere
        obtain ⟨run, hrun, huid⟩ := List.any_eq_true.mp hany
        exact .deleted uid (List.mem_map.mpr ⟨run, hrun, eq_of_beq huid⟩)
      · cases hthere
  | markNotified uid time =>
    show t.AfterCall ⟨.markNotified uid time, (t.change (t.markNotified uid time)).1⟩
      (t.change (t.markNotified uid time)).2
    cases hstep : t.markNotified uid time with
    | error e => exact .refused _ e
    | ok t' =>
      have hthere := of_guard hstep
      split at hthere
      · cases hthere
        exact .marked uid time
      · cases hthere

theorem map_uid_stamped (t : Store) (uid : Uid) (time : Instant) :
    (t.stamped uid time).runs.map (·.uid) = t.runs.map (·.uid) := by
  refine map_modifyFirst ?_ t.runs
  intro run
  rfl

theorem mem_map_uid_withoutRun {t : Store} {uid other : Uid} :
    other ∈ (t.withoutRun uid).runs.map (·.uid) ↔ other ∈ t.runs.map (·.uid) ∧ other ≠ uid := by
  simp only [withoutRun, List.mem_map, List.mem_filter, bne_iff_ne]
  constructor
  · rintro ⟨run, ⟨hrun, hne⟩, rfl⟩
    exact ⟨⟨run, hrun, rfl⟩, hne⟩
  · rintro ⟨⟨run, hrun, rfl⟩, hne⟩
    exact ⟨run, ⟨hrun, hne⟩, rfl⟩

/-- **Only the runs and their task records** are touched by a sweep. -/
theorem AfterCall.rest {t t' : Store} {e : SweepEvent} (h : t.AfterCall e t') :
    t' = { t with runs := t'.runs, records := t'.records } := by
  cases h <;> rfl

end Store

namespace SharedRuns

variable {κ : Type} [DecidableEq κ] {st : SharedRuns κ} {k : κ} {e : SweepEvent}
  {todo : SweepFlow (Except SweepFault SweepReport)} {store : Store}

/-- **In its turn** a sweep makes one call, if it has anything left to do. -/
theorem take_cases (st : SharedRuns κ) (turn : SweepTurn κ) :
    st.take turn = st ∨ ∃ e todo store, Course (st.sweeps turn.sweep).todo [e] todo ∧
      st.store.AfterCall e store ∧ st.take turn = st.afterCall turn.sweep e todo store := by
  unfold take
  cases htodo : (st.sweeps turn.sweep).todo with
  | done result => exact .inl rfl
  | call c next =>
    right
    cases turn.refusal with
    | some e => exact ⟨_, _, _, .answered (.error e) (.start _), .refused c e, rfl⟩
    | none => exact ⟨_, _, _, .answered (st.store.grant c).1 (.start _), st.store.afterCall_grant c, rfl⟩

theorem afterCall_log (st : SharedRuns κ) (k : κ) (e : SweepEvent)
    (todo : SweepFlow (Except SweepFault SweepReport)) (store : Store) (j : κ) :
    ((st.afterCall k e todo store).sweeps j).log = (st.sweeps j).log ++ if j = k then [e] else [] := by
  by_cases hj : j = k
  · subst hj
    simp [afterCall]
  · simp [afterCall, hj]

/-- No call is forgotten. -/
theorem mem_log_afterCall {j : κ} {e' : SweepEvent} (h : e' ∈ (st.sweeps j).log) :
    e' ∈ ((st.afterCall k e todo store).sweeps j).log := by
  rw [afterCall_log]
  exact List.mem_append_left _ h

theorem deletedBy_afterCall (st : SharedRuns κ) (k : κ) (e : SweepEvent)
    (todo : SweepFlow (Except SweepFault SweepReport)) (store : Store) (j : κ) :
    (st.afterCall k e todo store).deletedBy j =
      st.deletedBy j ++ if j = k then (SweepCall.deleted? e).toList else [] := by
  unfold deletedBy
  rw [afterCall_log, List.filterMap_append]
  by_cases hj : j = k
  · cases hdeleted : SweepCall.deleted? e <;> simp [hj, hdeleted]
  · simp [hj]

end SharedRuns

/-! ## The invariants -/

section

variable {κ : Type} {s : Store} {plans : κ → SweepPlan} {st st' : SharedRuns κ}

/-- **What the sweeps have deleted** since the store was `s`. -/
structure Deletions (s : Store) (st : SharedRuns κ) : Prop where
  /-- No sweep has deleted a run twice, and no two sweeps have deleted the same run. -/
  once : ∀ k, (st.deletedBy k).Nodup
  apart : ∀ k l, ∀ uid ∈ st.deletedBy k, uid ∈ st.deletedBy l → k = l
  /-- What was deleted is gone, and nothing else is. -/
  gone : ∀ k, ∀ uid ∈ st.deletedBy k, uid ∉ st.store.runs.map (·.uid)
  missing : ∀ uid ∈ s.runs.map (·.uid), uid ∉ st.store.runs.map (·.uid) → ∃ k, uid ∈ st.deletedBy k
  /-- Its task records are gone with it, and no others are. -/
  records : ∀ record, record ∈ st.store.records ↔ record ∈ s.records ∧ ∀ k, record.run ∉ st.deletedBy k

/-- **What the sweeps have left** since the store was `s`. -/
structure Remaining (s : Store) (st : SharedRuns κ) : Prop where
  /-- Only runs and their task records were touched. -/
  rest : st.store = { s with runs := st.store.runs, records := st.store.records }
  /-- A run is what it was, or some sweep has kept when its owner was warned. -/
  origin : ∀ left ∈ st.store.runs, ∃ run ∈ s.runs, ∃ notified, left = { run with notified } ∧
    (notified = run.notified ∨ ∃ k time, notified = some time ∧
      ⟨.markNotified run.uid time, .ok ()⟩ ∈ (st.sweeps k).log)
  /-- Every list that a sweep was given is one of these runs, as they were at some time. -/
  listed : ∀ k, ∀ runs : List ExpiringRun, ⟨.listRuns, .ok runs⟩ ∈ (st.sweeps k).log →
    ∀ listed ∈ runs, ∃ run ∈ s.runs, ∃ notified, listed = s.expiring { run with notified }

/-- **A consistent moment** of sweeps that share their runs. -/
structure SweptTogether (s : Store) (plans : κ → SweepPlan) (st : SharedRuns κ) : Prop where
  course : ∀ k, Course (plans k).flow (st.sweeps k).log (st.sweeps k).todo
  deletions : Deletions s st
  remaining : Remaining s st

theorem sweptTogether_start (s : Store) (plans : κ → SweepPlan) : SweptTogether s plans (.start s plans) where
  course k := .start _
  deletions := by constructor <;> simp [SharedRuns.start, SharedRuns.deletedBy]
  remaining := by
    refine ⟨rfl, ?_, ?_⟩
    · intro run hrun
      exact ⟨run, hrun, run.notified, rfl, .inl rfl⟩
    · intro k runs h
      exact absurd h List.not_mem_nil

/-- Where the same runs are there, with the same task records, and no other deletion was made. -/
theorem Deletions.congr (h : Deletions s st)
    (huids : st'.store.runs.map (·.uid) = st.store.runs.map (·.uid))
    (hrecords : st'.store.records = st.store.records) (hdeleted : ∀ k, st'.deletedBy k = st.deletedBy k) :
    Deletions s st' where
  once k := by rw [hdeleted]; exact h.once k
  apart k l uid := by rw [hdeleted, hdeleted]; exact h.apart k l uid
  gone k uid := by rw [hdeleted, huids]; exact h.gone k uid
  missing uid := by simp only [hdeleted, huids]; exact h.missing uid
  records record := by simp only [hdeleted, hrecords]; exact h.records record

variable [DecidableEq κ] {k : κ} {e : SweepEvent} {todo : SweepFlow (Except SweepFault SweepReport)}
  {store : Store}

/-- A call that deletes nothing. -/
theorem Deletions.kept (h : Deletions s st) (hnone : SweepCall.deleted? e = none)
    (huids : store.runs.map (·.uid) = st.store.runs.map (·.uid)) (hrecords : store.records = st.store.records) :
    Deletions s (st.afterCall k e todo store) :=
  h.congr huids hrecords fun j => by simp [SharedRuns.deletedBy_afterCall, hnone]

/-- **Who has deleted what** after one more deletion. -/
theorem SharedRuns.mem_deletedBy_of_deletion {uid other : Uid} {j : κ} :
    other ∈ (st.afterCall k ⟨.deleteRun uid, .ok ()⟩ todo store).deletedBy j ↔
      other ∈ st.deletedBy j ∨ j = k ∧ other = uid := by
  rw [deletedBy_afterCall]
  by_cases hj : j = k <;> simp [hj, SweepCall.deleted?]

/-- **A run that is deleted** was there until now, so nobody had deleted it before. -/
theorem Deletions.deleted (h : Deletions s st) {uid : Uid} (hthere : uid ∈ st.store.runs.map (·.uid)) :
    Deletions s (st.afterCall k ⟨.deleteRun uid, .ok ()⟩ todo (st.store.withoutRun uid)) := by
  have hfresh : ∀ j, uid ∉ st.deletedBy j := fun j hmem => h.gone j uid hmem hthere
  constructor
  case once =>
    intro j
    rw [SharedRuns.deletedBy_afterCall]
    by_cases hj : j = k
    · rw [if_pos hj]
      have hnew : (st.deletedBy j ++ [uid]).Nodup := by
        rw [List.nodup_append]
        refine ⟨h.once j, List.nodup_singleton uid, ?_⟩
        rintro other hother _ hsame rfl
        exact hfresh j (List.mem_singleton.mp hsame ▸ hother)
      exact hnew
    · rw [if_neg hj, List.append_nil]
      exact h.once j
  case apart =>
    -- Two sweeps with the same run would have one that had deleted it before this call.
    intro j l other hj hl
    rcases SharedRuns.mem_deletedBy_of_deletion.mp hj with hbefore | ⟨rfl, rfl⟩
    · rcases SharedRuns.mem_deletedBy_of_deletion.mp hl with hbefore' | ⟨-, hsame⟩
      · exact h.apart j l other hbefore hbefore'
      · exact absurd (hsame ▸ hbefore) (hfresh j)
    · rcases SharedRuns.mem_deletedBy_of_deletion.mp hl with hbefore' | ⟨rfl, -⟩
      · exact absurd hbefore' (hfresh l)
      · rfl
  case gone =>
    intro j other hother hleft
    obtain ⟨hleft, hne⟩ := Store.mem_map_uid_withoutRun.mp hleft
    rcases SharedRuns.mem_deletedBy_of_deletion.mp hother with hbefore | ⟨-, rfl⟩
    · exact h.gone j other hbefore hleft
    · exact hne rfl
  case missing =>
    intro other hother hmissing
    by_cases hsame : other = uid
    · exact ⟨k, SharedRuns.mem_deletedBy_of_deletion.mpr (.inr ⟨rfl, hsame⟩)⟩
    · have hgone : other ∉ st.store.runs.map (·.uid) := fun hleft =>
        hmissing (Store.mem_map_uid_withoutRun.mpr ⟨hleft, hsame⟩)
      obtain ⟨j, hj⟩ := h.missing other hother hgone
      exact ⟨j, SharedRuns.mem_deletedBy_of_deletion.mpr (.inl hj)⟩
  case records =>
    intro record
    have hrecord : record ∈ (st.store.withoutRun uid).records ↔
        record ∈ st.store.records ∧ record.run ≠ uid := by
      simp [Store.withoutRun]
    show record ∈ (st.store.withoutRun uid).records ↔ _
    simp only [hrecord, h.records, SharedRuns.mem_deletedBy_of_deletion, and_assoc]
    -- It is kept just if nobody had deleted its run, and its run is not the one that is deleted now.
    refine and_congr_right fun _ => ?_
    constructor
    · rintro ⟨hkept, hne⟩ j (hbefore | ⟨-, hsame⟩)
      · exact hkept j hbefore
      · exact hne hsame
    · intro hkept
      exact ⟨fun j hj => hkept j (.inl hj), fun hsame => hkept k (.inr ⟨rfl, hsame⟩)⟩

/-- **One call** keeps what the sweeps have deleted consistent. -/
theorem Deletions.afterCall (h : Deletions s st) (hcall : st.store.AfterCall e store) :
    Deletions s (st.afterCall k e todo store) := by
  cases hcall with
  | listed => exact h.kept rfl rfl rfl
  | sent mail => exact h.kept rfl rfl rfl
  | refused c e => exact h.kept (by cases c <;> rfl) rfl rfl
  | deleted uid hthere => exact h.deleted hthere
  | marked uid time => exact h.kept rfl (st.store.map_uid_stamped uid time) rfl

/-- A run that was what it was, or kept when its owner was warned, is so after any other call. -/
theorem Remaining.origin_afterCall (h : Remaining s st) {left : Run} (hleft : left ∈ st.store.runs) :
    ∃ run ∈ s.runs, ∃ notified, left = { run with notified } ∧
      (notified = run.notified ∨ ∃ j time, notified = some time ∧
        ⟨.markNotified run.uid time, .ok ()⟩ ∈ ((st.afterCall k e todo store).sweeps j).log) := by
  obtain ⟨run, hrun, notified, hchange, hkept | ⟨j, time, htime, hmem⟩⟩ := h.origin left hleft
  · exact ⟨run, hrun, notified, hchange, .inl hkept⟩
  · exact ⟨run, hrun, notified, hchange, .inr ⟨j, time, htime, SharedRuns.mem_log_afterCall hmem⟩⟩

/-- **One call** keeps what the sweeps have left consistent. -/
theorem Remaining.afterCall (h : Remaining s st) (hcall : st.store.AfterCall e store) :
    Remaining s (st.afterCall k e todo store) := by
  constructor
  case rest =>
    show store = { s with runs := store.runs, records := store.records }
    rw [hcall.rest, h.rest]
  case origin =>
    intro left hleft
    have hleft : left ∈ store.runs := hleft
    cases hcall with
    | listed => exact h.origin_afterCall hleft
    | sent mail => exact h.origin_afterCall hleft
    | refused c e => exact h.origin_afterCall hleft
    | deleted uid hthere => exact h.origin_afterCall (List.mem_filter.mp hleft).1
    | marked uid time =>
      rcases Store.mem_modifyFirst hleft with hbefore | ⟨before, hbefore, hfits, rfl⟩
      · exact h.origin_afterCall hbefore
      · -- Whatever stamp the run had, it has the one of this call now.
        obtain ⟨run, hrun, notified, rfl, -⟩ := h.origin before hbefore
        refine ⟨run, hrun, some time, rfl, .inr ⟨k, time, rfl, ?_⟩⟩
        obtain rfl : run.uid = uid := eq_of_beq hfits
        rw [SharedRuns.afterCall_log, if_pos rfl]
        exact List.mem_append_right _ (List.mem_singleton_self _)
  case listed =>
    intro j runs hlisted
    rw [SharedRuns.afterCall_log] at hlisted
    rcases List.mem_append.mp hlisted with hbefore | hnow
    · exact h.listed j runs hbefore
    · -- The list is given in this very call, so it is the runs that are there now.
      have hnow : (⟨.listRuns, .ok runs⟩ : SweepEvent) = e := by
        by_cases hj : j = k
        · simpa [hj] using hnow
        · simp [hj] at hnow
      subst hnow
      cases hcall with
      | listed =>
        intro listed hmem
        obtain ⟨left, hleft, rfl⟩ := List.mem_map.mp hmem
        obtain ⟨run, hrun, notified, rfl, -⟩ := h.origin left hleft
        refine ⟨run, hrun, notified, ?_⟩
        rw [h.rest]
        rfl

/-- **Taking a turn** leads from one consistent moment to another. -/
theorem SweptTogether.take (h : SweptTogether s plans st) (turn : SweepTurn κ) :
    SweptTogether s plans (st.take turn) := by
  rcases st.take_cases turn with hsame | ⟨e, todo, store, hcourse, hcall, htake⟩
  · rw [hsame]
    exact h
  · rw [htake]
    refine ⟨?_, h.deletions.afterCall hcall, h.remaining.afterCall hcall⟩
    intro k
    -- Only the sweep whose turn it is has gone on.
    by_cases hk : k = turn.sweep
    · subst hk
      simpa [SharedRuns.afterCall] using (h.course turn.sweep).append hcourse
    · simpa [SharedRuns.afterCall, hk] using h.course k

/-- **All moments are consistent.** -/
theorem SweptTogether.run (h : SweptTogether s plans st) (turns : List (SweepTurn κ)) :
    SweptTogether s plans (st.run turns) := by
  induction turns generalizing st with
  | nil => exact h
  | cons turn turns ih => exact ih (h.take turn)

/-! ## What each sweep had reason to do -/

omit [DecidableEq κ]

/-- **A run that a sweep has deleted** had expired at the time of this sweep, however old its list was. -/
theorem SweptTogether.expired (h : SweptTogether s plans st) {k : κ} {uid : Uid}
    (hdeleted : uid ∈ st.deletedBy k) : ∃ run ∈ s.runs, run.uid = uid ∧ run.expiration ≤ (plans k).now := by
  obtain ⟨e, he, hevent⟩ := List.mem_filterMap.mp hdeleted
  rcases Sweep.exists_grounds (h.course k) with hlisting | ⟨runs, rest, hlog, hgrounded⟩
  · obtain ⟨reply, rfl⟩ := hlisting e he
    cases hevent
  · obtain ⟨reply, rfl⟩ := SweepCall.eq_of_deleted? hevent
    obtain ⟨listed, hlisted, huid, hexpired⟩ := hgrounded.deletion uid reply he
    -- When a run expires is the same in every list.
    obtain ⟨run, hrun, notified, rfl⟩ := h.remaining.listed k runs (hlog ▸ List.mem_cons_self) listed hlisted
    exact ⟨run, hrun, huid, hexpired⟩

/-- **A warning to the owner of a run,** which a sweep has sent. -/
def SharedRuns.Warned (s : Store) (plans : κ → SweepPlan) (st : SharedRuns κ) (k : κ) (run : Run) : Prop :=
  ∃ email threshold, s.emailOf run.owner = some email ∧
    ⟨.sendMail (Warning.compose (plans k).rules.site (plans k).rules.sender (s.expiring run) email threshold),
      .ok ()⟩ ∈ (st.sweeps k).log

/-- **A sweep that kept that an owner was warned** has sent the warning, and kept its own time. -/
theorem SweptTogether.warned (h : SweptTogether s plans st) (distinct : (s.runs.map (·.uid)).Nodup) {k : κ}
    {run : Run} (hrun : run ∈ s.runs) {time : Instant} {reply : Except Failure Unit}
    (hmarked : ⟨.markNotified run.uid time, reply⟩ ∈ (st.sweeps k).log) :
    time = (plans k).now ∧ st.Warned s plans k run := by
  rcases Sweep.exists_grounds (h.course k) with hlisting | ⟨runs, rest, hlog, hgrounded⟩
  · obtain ⟨reply', hevent⟩ := hlisting _ hmarked
    cases hevent
  · obtain ⟨htime, listed, hlisted, huid, email, threshold, hemail, -, hsent⟩ :=
      hgrounded.stamp run.uid time reply hmarked
    obtain ⟨other, hother, notified, rfl⟩ := h.remaining.listed k runs (hlog ▸ List.mem_cons_self) listed hlisted
    obtain rfl := List.inj_on_of_nodup_map distinct hother hrun huid
    -- How a warning reads does not depend on when the owner was warned before.
    exact ⟨htime, email, threshold, hemail, hsent⟩

/-- **A report** lists what its sweep has deleted. -/
theorem SweptTogether.deleted_of_report (h : SweptTogether s plans st) {k : κ} {report : SweepReport}
    (hreport : st.report? k = some report) : report.deleted = st.deletedBy k := by
  have hcourse := h.course k
  unfold SharedRuns.report? at hreport
  split at hreport
  · next hdone =>
    cases hreport
    rw [hdone] at hcourse
    exact (Sweep.goesBy_sweep hcourse).deleted
  · cases hreport

/-- **A sweep that has ended** has a report or was refused its list, where it can be told of every run what is due. -/
theorem SweptTogether.report_or_refused (h : SweptTogether s plans st) {k : κ} (ended : st.isDone k = true)
    (told : ∀ run ∈ s.runs, run.nextAction? (plans k).now ≠ none) :
    (∃ report, st.report? k = some report) ∨ st.deletedBy k = [] := by
  have hcourse := h.course k
  unfold SharedRuns.isDone at ended
  split at ended
  case h_2 => cases ended
  next result hdone =>
  rw [hdone] at hcourse
  cases result with
  | ok report => exact .inl ⟨report, by simp only [SharedRuns.report?, hdone]⟩
  | error fault =>
    right
    rcases Sweep.untold_of_fault hcourse with ⟨e, hlog⟩ | ⟨runs, hlisted, listed, hmem, hnone⟩
    · rw [SharedRuns.deletedBy, hlog]
      rfl
    · obtain ⟨run, hrun, notified, rfl⟩ := h.remaining.listed k runs hlisted listed hmem
      exact absurd hnone (Run.told_of_notified notified (told run hrun))

/-! ## Stamps -/

/-- **From one moment to a later one** no run is added, and none loses the stamp of its warning. -/
def Store.KeepsStamps (t t' : Store) : Prop :=
  ∀ left' ∈ t'.runs, ∃ left ∈ t.runs, ∃ notified, left' = { left with notified } ∧
    (left.notified ≠ none → notified ≠ none)

theorem Store.KeepsStamps.refl (t : Store) : t.KeepsStamps t :=
  fun left hleft => ⟨left, hleft, left.notified, rfl, fun h => h⟩

theorem Store.KeepsStamps.trans {t t' t'' : Store} (h : t.KeepsStamps t') (h' : t'.KeepsStamps t'') :
    t.KeepsStamps t'' := by
  intro left'' hleft''
  obtain ⟨left', hleft', notified', rfl, hkept'⟩ := h' left'' hleft''
  obtain ⟨left, hleft, notified, rfl, hkept⟩ := h left' hleft'
  exact ⟨left, hleft, notified', rfl, fun hsome => hkept' (hkept hsome)⟩

/-- **No call takes a stamp away.** -/
theorem Store.AfterCall.keepsStamps {t t' : Store} {e : SweepEvent} (h : t.AfterCall e t') : t.KeepsStamps t' := by
  cases h with
  | listed => exact .refl t
  | sent mail => exact .refl t
  | refused c e => exact .refl t
  | deleted uid hthere =>
    intro left hleft
    exact ⟨left, (List.mem_filter.mp hleft).1, left.notified, rfl, fun h => h⟩
  | marked uid time =>
    intro left hleft
    rcases mem_modifyFirst hleft with hbefore | ⟨before, hbefore, -, rfl⟩
    · exact ⟨left, hbefore, left.notified, rfl, fun h => h⟩
    · exact ⟨before, hbefore, some time, rfl, fun _ => Option.some_ne_none time⟩

theorem SharedRuns.keepsStamps_run [DecidableEq κ] (st : SharedRuns κ) (turns : List (SweepTurn κ)) :
    st.store.KeepsStamps (st.run turns).store := by
  induction turns generalizing st with
  | nil => exact .refl st.store
  | cons turn turns ih =>
    have hturn : st.store.KeepsStamps (st.take turn).store := by
      rcases st.take_cases turn with hsame | ⟨e, todo, store, -, hcall, htake⟩
      · rw [hsame]
        exact .refl st.store
      · rw [htake]
        exact hcall.keepsStamps
    exact hturn.trans (ih (st.take turn))

/-! ## All together -/

/-- **Sweeps that overlap safely:** what they have made of a store, and what they say about it. -/
structure SafeOverlap (s : Store) (plans : κ → SweepPlan) (st : SharedRuns κ) : Prop where
  /-- No run was deleted twice, by one sweep or by two, and just the runs that were deleted are missing. -/
  deletions : Deletions s st
  /-- A report lists what its sweep has deleted. -/
  reports : ∀ k report, st.report? k = some report → report.deleted = st.deletedBy k
  /-- Each of these runs had expired at the time of the sweep that deleted it. -/
  expired : ∀ k, ∀ uid ∈ st.deletedBy k, ∃ run ∈ s.runs, run.uid = uid ∧ run.expiration ≤ (plans k).now
  /-- A run that is left is what it was, or its owner was warned by some sweep, with the time of that sweep. -/
  remaining : ∀ left ∈ st.store.runs, ∃ run ∈ s.runs, ∃ notified, left = { run with notified } ∧
    (notified = run.notified ∨ ∃ k, notified = some (plans k).now ∧ st.Warned s plans k run)
  /-- Nothing else was touched. -/
  rest : st.store = { s with runs := st.store.runs, records := st.store.records }

theorem SweptTogether.safe (h : SweptTogether s plans st) (distinct : (s.runs.map (·.uid)).Nodup) :
    SafeOverlap s plans st := by
  refine ⟨h.deletions, fun _ _ => h.deleted_of_report, fun _ _ => h.expired, ?_, h.remaining.rest⟩
  intro left hleft
  obtain ⟨run, hrun, notified, hchange, hkept | ⟨k, time, htime, hmarked⟩⟩ := h.remaining.origin left hleft
  · exact ⟨run, hrun, notified, hchange, .inl hkept⟩
  · obtain ⟨rfl, hwarned⟩ := h.warned distinct hrun hmarked
    exact ⟨run, hrun, notified, hchange, .inr ⟨k, htime, hwarned⟩⟩

/-- **Sweeps that take turns are safe** at every moment, whatever fails. Stamps are never taken away. And at the end,
where it can be told of every run what is due, the runs that are missing are those that the reports list as deleted. -/
theorem sweeps_in_turns [DecidableEq κ] (s : Store) (plans : κ → SweepPlan)
    (distinct : (s.runs.map (·.uid)).Nodup) (turns : List (SweepTurn κ)) :
    let st := (SharedRuns.start s plans).run turns
    SafeOverlap s plans st ∧ (∀ more, st.store.KeepsStamps (st.run more).store) ∧
      ((∀ run ∈ s.runs, ∀ k, run.nextAction? (plans k).now ≠ none) → (∀ k, st.isDone k = true) →
        ∀ run ∈ s.runs, run.uid ∉ st.store.runs.map (·.uid) ↔
          ∃ k report, st.report? k = some report ∧ run.uid ∈ report.deleted) := by
  intro st
  have htogether : SweptTogether s plans st := (sweptTogether_start s plans).run turns
  refine ⟨htogether.safe distinct, st.keepsStamps_run, ?_⟩
  intro told ended run hrun
  constructor
  · intro hmissing
    obtain ⟨k, hk⟩ := htogether.deletions.missing run.uid (List.mem_map_of_mem hrun) hmissing
    have htold : ∀ run ∈ s.runs, run.nextAction? (plans k).now ≠ none := fun run hrun => told run hrun k
    rcases htogether.report_or_refused (ended k) htold with ⟨report, hreport⟩ | hnone
    · exact ⟨k, report, hreport, htogether.deleted_of_report hreport ▸ hk⟩
    · rw [hnone] at hk
      exact absurd hk List.not_mem_nil
  · rintro ⟨k, report, hreport, hlisted⟩
    rw [htogether.deleted_of_report hreport] at hlisted
    exact htogether.deletions.gone k run.uid hlisted

end

/-- Two sweeps for trials. The second one comes a day later, and gets its list before the first one does anything. -/
theorem trial_sweeps_in_turns :
    let plans (second : Bool) : SweepPlan :=
      ⟨⟨"http://localhost", "noreply"⟩, .trialDay (if second then 4 else 3)⟩
    let refused (second : Bool) : SweepTurn Bool := ⟨second, some (.database "down")⟩
    let granted (second : Bool) : SweepTurn Bool := ⟨second, none⟩
    let turns := [granted false, granted true, granted true, granted false, refused false, granted true] ++
      List.replicate 9 (granted false) ++ List.replicate 9 (granted true)
    let st := (SharedRuns.start Store.trialRuns plans).run turns
    (Store.trialRuns.runs.map (·.uid)).Nodup ∧
      (∀ run ∈ Store.trialRuns.runs, ∀ k, run.nextAction? (plans k).now ≠ none) ∧ (∀ k, st.isDone k = true) ∧
      SafeOverlap .trialRuns plans st ∧ st.deletedBy false = [] ∧ st.deletedBy true = [⟨1⟩, ⟨2⟩] ∧
      ∀ run ∈ Store.trialRuns.runs, run.uid ∉ st.store.runs.map (·.uid) ↔
        ∃ k report, st.report? k = some report ∧ run.uid ∈ report.deleted := by
  intro plans refused granted turns st
  have distinct : (Store.trialRuns.runs.map (·.uid)).Nodup := by decide
  have told : ∀ run ∈ Store.trialRuns.runs, ∀ k, run.nextAction? (plans k).now ≠ none := by decide
  have ended : ∀ k, st.isDone k = true := by decide +kernel
  have hst : (SharedRuns.start Store.trialRuns plans).run turns = st := rfl
  obtain ⟨hsafe, -, hreported⟩ := sweeps_in_turns Store.trialRuns plans distinct turns
  rw [hst] at hsafe hreported
  exact ⟨distinct, told, ended, hsafe, by decide +kernel, by decide +kernel, hreported told ended⟩

/-- On the first day of the calendar a sweep deletes a run that has expired, and is broken off at the next run. The
first one is missing then, and there is no report that lists it. -/
theorem deletion_without_a_report :
    let start : Instant := ⟨Calendar.firstDay, 0, 0, by decide⟩
    let noon : Instant := ⟨Calendar.firstDay, 43200, 0, by decide⟩
    let s := { Store.empty with runs := [.trial ⟨1⟩ ⟨1⟩ start, .trial ⟨2⟩ ⟨1⟩ noon] }
    let plans (_ : Unit) : SweepPlan := ⟨⟨"http://localhost", "noreply"⟩, start⟩
    let st := (SharedRuns.start s plans).run [⟨(), none⟩, ⟨(), none⟩]
    (s.runs.map (·.uid)).Nodup ∧ (∀ k, st.isDone k = true) ∧ ⟨1⟩ ∉ st.store.runs.map (·.uid) ∧
      ¬ ∃ k report, st.report? k = some report ∧ ⟨1⟩ ∈ report.deleted := by
  intro start noon s plans st
  have ended : st.isDone () = true := by decide +kernel
  have unreported : st.report? () = none := by decide +kernel
  refine ⟨by decide, fun _ => ended, by decide +kernel, ?_⟩
  rintro ⟨⟨⟩, report, hreport, -⟩
  rw [unreported] at hreport
  cases hreport

end MapExport
