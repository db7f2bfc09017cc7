import MapExport.Proofs.Job.CallOrder
import MapExport.Proofs.Store.JobTables
import MapExport.Store.Answers

/-!
# Sessions of the store

How the store answers the creation of a job. What a call does to the session is told by the call and its
answer alone (`Session.collaborate_snd`): a call of the transaction that is granted adds to what is staged, a
commit that is granted puts it in its place, and nothing else does anything. So what is staged can be read
off the calls that were made, whatever else goes on in the store.
-/

set_option autoImplicit false

namespace MapExport

open Workflow (Answers Trace)

/-! ## What a call does -/

/-- What a call of a transaction adds to what is staged. -/
def Staged.note (t : Staged) : JobCall → Staged
  | .begin => .empty
  | .insertJob job => { t with jobs := t.jobs ++ [job] }
  | .attachFormats job formats => { t with formats := t.formats ++ formats.map fun f => (job, f.slug) }
  | .insertTag tag => { t with tags := t.tags ++ [tag] }
  | .attachConfig job config place => { t with configs := t.configs ++ [(job, place, config.uid)] }
  | .attachProviders job providers =>
    { t with providers := t.providers ++ providers.map fun p => (job, p.uid) }
  | _ => t

/-- **What is staged after a call:** what was granted is added, and a commit leaves nothing behind. -/
def Staged.after (t : Staged) : JobEvent → Staged
  | ⟨.commit, _⟩ => .empty
  | ⟨c, reply⟩ => if reply.isOk then t.note c else t

/-- Whether a commit was granted. -/
def JobEvent.committed : JobEvent → Bool
  | ⟨.commit, reply⟩ => reply.isOk
  | _ => false

theorem JobEvent.committed_eq_false {c : JobCall} (reply : c.Reply) (h : c ≠ .commit) :
    JobEvent.committed ⟨c, reply⟩ = false := by
  cases c <;> first | rfl | exact absurd rfl h

namespace Staged

/-- What does not belong to a transaction stages nothing. -/
theorem after_eq_self (t : Staged) {c : JobCall} (reply : c.Reply) (h : c.isStaging = false)
    (hcommit : c ≠ .commit) : t.after ⟨c, reply⟩ = t := by
  cases c with
  | commit => exact absurd rfl hcommit
  | formatsBySlugs _ | providersBySlugs _ | config _ | preset _ | dispatch _ => exact ite_self _
  | _ => cases h

theorem after_granted (t : Staged) {c : JobCall} (a : c.Result) (h : c ≠ .commit) :
    t.after ⟨c, .ok a⟩ = t.note c := by
  cases c <;> first | rfl | exact absurd rfl h

end Staged

/-- What comes after a point where the store does not refuse. -/
theorem Store.of_guard {α : Type} {s : Store} {point : TrialFault} {x : Except Failure α} {a : α}
    (h : (do s.guard point; x) = .ok a) : x = .ok a := by
  cases hguard : s.guard point with
  | ok u =>
    rw [hguard] at h
    exact h
  | error e =>
    rw [hguard] at h
    cases h

namespace Session

/-- **The session after a call.** Only a commit that was granted changes the store. -/
def after (s : Session) (e : JobEvent) : Session where
  store := if JobEvent.committed e then s.staged.apply s.store else s.store
  staged := s.staged.after e

variable (preset : String → Except Failure TagTable) (dispatch : Uid → Except Failure Unit)

/-- The store as a collaborator, where the outcome of reading a preset and of handing over a job is
given. -/
def collaborate (s : Session) (c : JobCall) : c.Reply × Session :=
  s.answer (m := Id) preset dispatch c

theorem stage_snd {s : Session} {step : Except Failure Staged} {t : Staged}
    (h : ∀ u, step = .ok u → Except.ok t = (.ok u : Except Failure Staged)) :
    (s.stage step).2 = ⟨s.store, if (s.stage step).1.isOk then t else s.staged⟩ := by
  cases step with
  | ok u =>
    cases h u rfl
    rfl
  | error e => rfl

/-- What does not belong to a transaction changes nothing. -/
theorem after_eq_self (s : Session) {c : JobCall} (reply : c.Reply) (h : c.isStaging = false)
    (hcommit : c ≠ .commit) : s.after ⟨c, reply⟩ = s := by
  rw [after, JobEvent.committed_eq_false reply hcommit, Staged.after_eq_self _ reply h hcommit]
  rfl

/-- **What a call does to the session** is told by the call and its answer. -/
theorem collaborate_snd (s : Session) (c : JobCall) :
    (s.collaborate preset dispatch c).2 =
      s.after ⟨c, (s.collaborate preset dispatch c).1⟩ := by
  cases c with
  | begin => rfl
  | insertJob job => exact stage_snd fun u h => Store.of_guard h
  | attachFormats job formats => exact stage_snd fun u h => Store.of_guard h
  | insertTag tag => exact stage_snd fun u h => Store.of_guard h
  | attachConfig job config place =>
    -- Only here can the store refuse what it was not told to refuse.
    refine stage_snd fun u h => ?_
    simp only [Staged.attachConfig] at h
    split at h
    · cases Store.of_guard h
    · exact Store.of_guard h
  | attachProviders job providers => exact stage_snd fun u h => Store.of_guard h
  | commit =>
    show s.commit.2 = s.after ⟨.commit, s.commit.1⟩
    cases hcommit : s.staged.commit s.store with
    | ok store =>
      cases Store.of_guard hcommit
      simp only [commit, hcommit, after]
      rfl
    | error e =>
      simp only [commit, hcommit, after]
      rfl
  | formatsBySlugs slugs => exact (after_eq_self s (c := .formatsBySlugs slugs) _ rfl nofun).symm
  | providersBySlugs slugs => exact (after_eq_self s (c := .providersBySlugs slugs) _ rfl nofun).symm
  | config uid => exact (after_eq_self s (c := .config uid) _ rfl nofun).symm
  | preset path => exact (after_eq_self s (c := .preset path) _ rfl nofun).symm
  | dispatch job => exact (after_eq_self s (c := .dispatch job) _ rfl nofun).symm

/-- Where the answers of the store lead. -/
theorem eq_foldl_after {s s' : Session} {log : List JobEvent}
    (h : Answers (collaborate preset dispatch) s log s') : s' = log.foldl after s := by
  induction log generalizing s with
  | nil => exact h.symm
  | cons e log ih =>
    obtain ⟨hreply, hlog⟩ := h
    rw [collaborate_snd, hreply] at hlog
    exact ih hlog

/-! ## What several calls do -/

theorem foldl_after_staged (s : Session) (log : List JobEvent) :
    (log.foldl after s).staged = log.foldl Staged.after s.staged := by
  induction log generalizing s with
  | nil => rfl
  | cons e log ih => exact ih (s.after e)

/-- The store stays as it is until a commit is granted. -/
theorem foldl_after_store {s : Session} {log : List JobEvent}
    (h : ∀ e ∈ log, JobEvent.committed e = false) : (log.foldl after s).store = s.store := by
  induction log generalizing s with
  | nil => rfl
  | cons e log ih =>
    rw [List.foldl_cons, ih fun e' he' => h e' (List.mem_cons_of_mem _ he'), after,
      h e List.mem_cons_self]
    rfl

end Session

/-- Looking up stages nothing. -/
theorem Staged.foldl_after_lookUps (t : Staged) {log : List JobEvent}
    (h : ∀ e ∈ log, e.call.isLookUp = true) : log.foldl Staged.after t = t := by
  induction log with
  | nil => rfl
  | cons e log ih =>
    have hlookUp : e.call.isLookUp = true := h e List.mem_cons_self
    rw [List.foldl_cons, after_eq_self t e.reply (JobCall.not_isStaging hlookUp)
      (JobCall.ne_commit (.inl hlookUp))]
    exact ih fun e' he' => h e' (List.mem_cons_of_mem _ he')

/-- Calls that are granted add what they say. -/
theorem AllGranted.foldl_after {calls : List JobCall} {log : List JobEvent}
    (h : AllGranted calls log) (hcommit : .commit ∉ calls) (t : Staged) :
    log.foldl Staged.after t = calls.foldl Staged.note t := by
  induction log generalizing calls t with
  | nil =>
    obtain ⟨rfl, -⟩ := h
    rfl
  | cons e log ih =>
    obtain ⟨rfl, hgranted⟩ := h
    obtain ⟨c, reply⟩ := e
    obtain ⟨a, ha⟩ := hgranted _ List.mem_cons_self
    have hreply : reply = .ok a := ha
    have hne : c ≠ .commit := fun h => hcommit (h ▸ List.mem_cons_self)
    have hrest : AllGranted (log.map (·.call)) log :=
      ⟨rfl, fun e he => hgranted e (List.mem_cons_of_mem _ he)⟩
    rw [List.foldl_cons, List.map_cons, List.foldl_cons, hreply,
      Staged.after_granted t a hne]
    exact ih hrest (fun h => hcommit (List.mem_cons_of_mem _ h)) _

namespace Order

theorem foldl_note_tags (tags : List Tag) (t : Staged) :
    (tags.map JobCall.insertTag).foldl Staged.note t = { t with tags := t.tags ++ tags } := by
  induction tags generalizing t with
  | nil => simp
  | cons tag tags ih => simp [ih, Staged.note]

/-- The places count on from the first one. -/
theorem foldl_note_links (job : Uid) (first : Nat) (configs : List Config) (t : Staged) :
    (configs.mapIdx fun i c => linkCall job (first + i) c).foldl Staged.note t =
      { t with configs := t.configs ++
          configs.mapIdx fun i c => (job, ((first + i : Nat) : Int), c.uid) } := by
  induction configs generalizing first t with
  | nil => simp
  | cons c cs ih =>
    have hcalls : (cs.mapIdx fun i c => linkCall job (first + (i + 1)) c) =
        cs.mapIdx fun i c => linkCall job (first + 1 + i) c := by
      simp only [Nat.add_assoc, Nat.add_comm 1]
    rw [List.mapIdx_cons, List.foldl_cons, hcalls, ih, List.mapIdx_cons]
    simp [Staged.note, linkCall, Nat.add_assoc, Nat.add_comm 1]

theorem links_eq (o : Order) : (o.links.map fun link => (o.job.uid, link)) =
    o.configs.mapIdx fun i c => (o.job.uid, (i : Int), c.uid) := by
  refine (List.mapIdx_eq_iff.mpr fun i => ?_).symm
  simp [links, Function.comp_def]

/-- **The transaction of an order stages the order,** whatever was staged before. -/
theorem foldl_note_staging (o : Order) (t : Staged) : o.staging.foldl Staged.note t = o.staged := by
  -- The first call drops whatever was staged before; the rest adds field by field.
  have hlinks := foldl_note_links o.job.uid 0 o.configs
  simp only [Nat.zero_add] at hlinks
  simp only [staging, writes, List.foldl_cons, List.foldl_append, List.foldl_nil, foldl_note_tags,
    hlinks, staged, links_eq]
  simp [Staged.note, Staged.empty]

end Order

end MapExport
