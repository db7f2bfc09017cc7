import MapExport.Proofs.Expiration.Rounds

/-!
# Warnings over time

However often a store is swept, at whatever times and whatever fails, the owner of a run is recorded as warned at
most twice, and in order: seven days before, and two days before. What can still be recorded is told by the stamp of
the last warning alone, because a stamp from the last two days can only be that of the last warning
(`warnings_in_order`).

And where sweeps come often enough, each has its report and nothing fails for a run, its owner is recorded as warned
a last time before it is deleted (`last_warning_before_deletion`). Without the reports this is not so in the first days
of the calendar (`deleted_without_a_last_warning`).
-/

set_option autoImplicit false

namespace MapExport

/-! ## Fates and what is due -/

namespace Store

variable {s : Store} {round : Round} {run : Run} {threshold : Threshold}

/-- A warning that was recorded was due. -/
theorem due_of_notified (h : s.fate round run = .notified threshold) :
    run.nextAction? round.now = some (.notify threshold) := by
  rw [fate] at h
  split at h
  · split at h <;> cases h
  · next due hdue =>
    split at h
    · cases h
    · split at h
      · rw [hdue, RunOutcome.notified.inj h]
      · cases h
  · cases h

/-- A run that was deleted had expired. -/
theorem expired_of_deleted (h : s.fate round run = .deleted) : run.expiration ≤ round.now := by
  rw [fate] at h
  split at h
  · next hdue => exact Run.delete_is_due_iff.mp hdue
  · split at h
    · cases h
    · split at h <;> cases h
  · cases h

/-- Where a warning is due and the owner can be written to, it is recorded, or something fails. -/
theorem fate_of_due (hdue : run.nextAction? round.now = some (.notify threshold))
    (email : s.emailOf run.owner ≠ none) :
    s.fate round run = .notified threshold ∨ s.fate round run = .failed := by
  obtain ⟨address, haddress⟩ := Option.ne_none_iff_exists'.mp email
  have hwarning : s.warning? round run = some (Warning.compose round.rules.site round.rules.sender
      (s.expiring run) address threshold) := by simp only [warning?, hdue, haddress, Option.map_some]
  simp only [fate, hdue, hwarning]
  split
  · exact .inl rfl
  · exact .inr rfl

end Store

/-! ## What can still be recorded -/

namespace Run

/-- **The warnings that can still be recorded** for a run: both, if there was none; none, if there was one in the
last two days; else the last one. -/
def remaining (run : Run) : List Threshold :=
  if run.notified = none then [.sevenDay, .twoDay]
  else if run.lastDays?.any run.notifiedSince then []
  else [.twoDay]

/-- At most both can still be recorded, in their order. -/
theorem remaining_sublist (run : Run) : run.remaining.Sublist [.sevenDay, .twoDay] := by
  rw [remaining]
  split
  · exact .refl _
  · split
    · exact List.nil_sublist _
    · exact .cons _ (.refl _)

/-- After a first warning the last one remains. -/
theorem remaining_after_sevenDay {run : Run} {now : Instant}
    (early : ∀ start, run.lastDays? = some start → now < start) :
    remaining { run with notified := some now } = [.twoDay] := by
  have hany : (run.lastDays?.any fun start => decide (start ≤ now)) = false := by
    cases hstart : run.lastDays? with
    | none => rfl
    | some start => exact decide_eq_false (early start hstart)
  rw [remaining, if_neg (Option.some_ne_none now)]
  exact if_neg (Bool.eq_false_iff.mp hany)

/-- After a last warning none remains. -/
theorem remaining_after_twoDay {run : Run} {now start : Instant} (hstart : run.lastDays? = some start)
    (late : start ≤ now) : remaining { run with notified := some now } = [] := by
  have hany : (run.lastDays?.any fun start => decide (start ≤ now)) = true := by
    rw [hstart]
    exact decide_eq_true late
  rw [remaining, if_neg (Option.some_ne_none now)]
  exact if_pos hany

/-- Before a last warning it remains. -/
theorem twoDay_remains {run : Run} {start : Instant} (hstart : run.lastDays? = some start)
    (hnotified : run.notifiedSince start = false) : List.Sublist [.twoDay] run.remaining := by
  have hany : run.lastDays?.any run.notifiedSince = false := by rw [hstart]; exact hnotified
  rw [remaining]
  split
  · exact .cons _ (.refl _)
  · rw [if_neg (Bool.eq_false_iff.mp hany)]

end Run

/-- **One sweep:** what is recorded for a run and what remains after it is part of what remained before. -/
theorem Store.recorded_and_remaining {s : Store} {round : Round} {run : Run}
    (hexpiration : run.expiration.isLeap = false) (hnow : round.now.isLeap = false) :
    ((s.fate round run).threshold?.toList ++
      ((s.fate round run).leave round.now run).elim [] Run.remaining).Sublist run.remaining := by
  cases hfate : s.fate round run with
  | deleted => exact List.nil_sublist _
  | untouched => exact List.Sublist.refl _
  | skipped => exact List.Sublist.refl _
  | failed => exact List.Sublist.refl _
  | notified threshold =>
    have hdue := due_of_notified hfate
    cases threshold with
    | sevenDay =>
      -- A stamp from before the last two days does not count as one of the last warning.
      obtain ⟨hnone, hearly⟩ := Run.of_sevenDay_due hexpiration hnow hdue
      have hafter := Run.remaining_after_sevenDay hearly
      have hbefore : run.remaining = [.sevenDay, .twoDay] := if_pos hnone
      rw [hbefore]
      show (.sevenDay :: Run.remaining { run with notified := some round.now }).Sublist _
      rw [hafter]
    | twoDay =>
      obtain ⟨start, hstart, hlate, hnotified⟩ := Run.of_twoDay_due hexpiration hnow hdue
      have hafter := Run.remaining_after_twoDay hstart hlate
      show (.twoDay :: Run.remaining { run with notified := some round.now }).Sublist _
      rw [hafter]
      exact Run.twoDay_remains hstart hnotified

namespace Stage

variable {stage : Stage}

/-- The same for a stage, with or without the run, and with or without a report. -/
theorem recorded_and_remaining (orderly : stage.store.Orderly) (hnow : stage.round.now.isLeap = false) (uid : Uid) :
    (stage.warnings uid ++ (stage.after.run? uid).elim [] Run.remaining).Sublist
      ((stage.store.run? uid).elim [] Run.remaining) := by
  cases hrun : stage.store.run? uid with
  | none =>
    have hwarnings : stage.warnings uid = [] := by
      by_cases hreport : stage.report?.isSome = true
      · rw [warnings_eq orderly.distinct hreport, hrun]
        rfl
      · exact warnings_of_no_report hreport uid
    rw [hwarnings, run?_after_of_gone orderly.distinct hrun]
    exact List.Sublist.refl _
  | some run =>
    have hstep := Store.recorded_and_remaining (s := stage.store)
      (orderly.ordinary run (List.mem_of_find?_eq_some hrun)) hnow
    by_cases hreport : stage.report?.isSome = true
    · rw [warnings_eq orderly.distinct hreport, run?_after orderly.distinct hreport, hrun]
      exact hstep
    · -- Nothing is recorded, though the run may have been reached before the sweep ended.
      rw [warnings_of_no_report hreport, List.nil_append]
      rcases run?_after_cases orderly.distinct hrun with hafter | hafter
      · rw [hafter]
        exact (List.sublist_append_right _ _).trans hstep
      · rw [hafter]

/-- A run that is deleted is not warned about in the same stage. -/
theorem warnings_of_deletes (orderly : stage.store.Orderly) {uid : Uid} (h : stage.Deletes uid) :
    stage.warnings uid = [] := by
  by_cases hreport : stage.report?.isSome = true
  · have hgone := h.2
    rw [run?_after orderly.distinct hreport] at hgone
    rw [warnings_eq orderly.distinct hreport]
    cases hrun : stage.store.run? uid with
    | none => rfl
    | some run =>
      rw [hrun, Option.bind_some] at hgone
      rw [Option.bind_some]
      cases hfate : stage.store.fate stage.round run with
      | notified threshold =>
        rw [hfate] at hgone
        cases hgone
      | _ => rfl
  · exact warnings_of_no_report hreport uid

end Stage

namespace Store

variable {s : Store} {rounds : List Round} {uid : Uid}

/-- **What is recorded for a run** in all rounds is part of what could still be recorded at their start. -/
theorem recorded_sublist_remaining (orderly : s.Orderly)
    (ordinary : ∀ round ∈ rounds, round.now.isLeap = false) (uid : Uid) :
    ((s.stages rounds).flatMap (·.warnings uid)).Sublist ((s.run? uid).elim [] Run.remaining) := by
  -- What remains after the first round bounds what is recorded in the others, and the step lemma joins the two.
  induction rounds generalizing s with
  | nil => exact List.nil_sublist _
  | cons round rounds ih =>
    rw [stages_cons, List.flatMap_cons]
    have horderly : (Stage.mk s round).store.Orderly := orderly
    have hfirst := Stage.recorded_and_remaining horderly (ordinary round List.mem_cons_self) uid
    have hrest := ih (Stage.orderly_after horderly) fun r hr => ordinary r (List.mem_cons_of_mem _ hr)
    exact ((List.Sublist.refl _).append hrest).trans hfirst

/-- Of a run that is gone nothing is recorded any more. -/
theorem warnings_of_gone (orderly : s.Orderly) (ordinary : ∀ round ∈ rounds, round.now.isLeap = false)
    (hgone : s.run? uid = none) : ∀ stage ∈ s.stages rounds, stage.warnings uid = [] := by
  have hsublist := recorded_sublist_remaining orderly ordinary uid
  rw [hgone] at hsublist
  exact List.flatMap_eq_nil_iff.mp (List.sublist_nil.mp hsublist)

/-- **After a run is deleted** nothing is recorded of it, and neither is in the stage that deletes it. -/
theorem warnings_from_deletion (orderly : s.Orderly) (ordinary : ∀ round ∈ rounds, round.now.isLeap = false)
    {earlier later : List Stage} {stage : Stage} (h : s.stages rounds = earlier ++ stage :: later)
    (hdeletes : stage.Deletes uid) : ∀ t ∈ stage :: later, t.warnings uid = [] := by
  obtain ⟨hstage, more, hmore, hlater⟩ := stages_from orderly h
  intro t ht
  rcases List.mem_cons.mp ht with rfl | ht
  · exact Stage.warnings_of_deletes hstage hdeletes
  · rw [hlater] at ht
    exact warnings_of_gone (Stage.orderly_after hstage) (fun r hr => ordinary r (hmore r hr)) hdeletes.2 t ht

end Store

/-- **Warnings come in order.** Whatever fails and whenever the sweeps are, no round is left out, the reports record at
most one first and one last warning for a run, in this order, and none from the deletion of the run on. That there was a
warning is never forgotten. And as long as it can be told what is due, each sweep has its report. -/
theorem warnings_in_order (s : Store) (rounds : List Round) (uid : Uid) (orderly : s.Orderly)
    (ordinary : ∀ round ∈ rounds, round.now.isLeap = false) :
    (s.stages rounds).map Stage.round = rounds ∧
      ((s.stages rounds).flatMap (·.warnings uid)).Sublist [.sevenDay, .twoDay] ∧
      (∀ earlier stage later, s.stages rounds = earlier ++ stage :: later →
        ∀ report, stage.report? = some report → uid ∈ report.deleted →
          ∀ t ∈ stage :: later, t.warnings uid = []) ∧
      (s.moments rounds).Pairwise (Store.Keeps uid) ∧
      ((∀ run ∈ s.runs, ∀ round ∈ rounds, run.nextAction? round.now ≠ none) →
        ∀ stage ∈ s.stages rounds, stage.report? ≠ none) := by
  refine ⟨s.map_round_stages rounds, ?_, ?_, Store.pairwise_keeps orderly uid, Store.reports_of_told orderly⟩
  · have hremaining : ((s.run? uid).elim [] Run.remaining).Sublist [.sevenDay, .twoDay] := by
      cases s.run? uid with
      | none => exact List.nil_sublist _
      | some run => exact run.remaining_sublist
    exact (Store.recorded_sublist_remaining orderly ordinary uid).trans hremaining
  · intro earlier stage later h report hreport hmem
    have hstage := (Store.stages_from orderly h).1
    exact Store.warnings_from_deletion orderly ordinary h
      ((Stage.mem_deleted_iff hstage.distinct hreport uid).mp hmem)

/-- Rounds for trials, on days counted from the epoch, in which all mails are sent or none. -/
def Round.trialOn (sends : Bool) (day : Nat) : Round where
  now := .trialDay day
  rules := ⟨"http://localhost", "noreply"⟩
  mailer := fun _ _ => if sends then .ok () else .error (.mail "refused")
  faults := []

/-- The clock steps back in between, and the first attempt at a last warning fails. -/
theorem trial_in_order :
    let rounds : List Round :=
      [.trialOn true 3, .trialOn false 8, .trialOn true 9, .trialOn true 5, .trialOn true 10]
    Store.trialRuns.Orderly ∧ (∀ round ∈ rounds, round.now.isLeap = false) ∧
      let stages := Store.trialRuns.stages rounds
      stages.flatMap (·.warnings ⟨4⟩) = [.sevenDay, .twoDay] ∧
        (stages.flatMap (·.warnings ⟨4⟩)).Sublist [.sevenDay, .twoDay] ∧
        (Store.trialRuns.moments rounds).Pairwise (Store.Keeps ⟨4⟩) ∧
        stages.map Stage.round = rounds ∧ ∀ stage ∈ stages, stage.report? ≠ none := by
  intro rounds
  have orderly : Store.trialRuns.Orderly := ⟨by decide, by decide⟩
  have ordinary : ∀ round ∈ rounds, round.now.isLeap = false := by decide
  obtain ⟨hrounds, hsublist, -, hkeeps, hreports⟩ := warnings_in_order .trialRuns rounds ⟨4⟩ orderly ordinary
  exact ⟨orderly, ordinary, rfl, hsublist, hkeeps, hrounds, hreports (by decide)⟩

/-! ## A last warning before deletion -/

namespace Stage

/-- The fate of a run in a stage, if it is there. -/
def fate? (stage : Stage) (uid : Uid) : Option RunOutcome :=
  (stage.store.run? uid).map fun run => stage.store.fate stage.round run

variable {stage : Stage} {uid : Uid} {run : Run}

/-- Where an owner can be written to is not changed by a stage. -/
theorem emailOf_after (orderly : stage.store.Orderly) (owner : Uid) :
    stage.after.emailOf owner = stage.store.emailOf owner := by
  obtain ⟨dealt, rest, -, hswept⟩ := stage.store.swept_sweep stage.round orderly.distinct
  rw [after, hswept.state]
  rfl

/-- **Before it expires** a run is not deleted: it is left as it was, or with a stamp of now. -/
theorem run?_before_expiration (orderly : stage.store.Orderly) (hrun : stage.store.run? uid = some run)
    (early : stage.round.now < run.expiration) :
    ∃ left, stage.after.run? uid = some left ∧
      (left = run ∨ left = { run with notified := some stage.round.now }) := by
  rcases run?_after_cases orderly.distinct hrun with hafter | hafter
  · cases hleave : (stage.store.fate stage.round run).leave stage.round.now run with
    | some left => exact ⟨left, hafter.trans hleave, RunOutcome.eq_of_leave hleave⟩
    | none =>
      have hfate : stage.store.fate stage.round run = .deleted := by
        cases hfate : stage.store.fate stage.round run <;> rw [hfate] at hleave <;> cases hleave
      exact absurd (Store.expired_of_deleted hfate) early
  · exact ⟨run, hafter, .inl rfl⟩

theorem not_deletes (orderly : stage.store.Orderly) (hrun : stage.store.run? uid = some run)
    (early : stage.round.now < run.expiration) : ¬ stage.Deletes uid := by
  obtain ⟨left, hleft, -⟩ := run?_before_expiration orderly hrun early
  intro hdeletes
  rw [hdeletes.2] at hleft
  cases hleft

end Stage

namespace Store

variable {s : Store} {rounds : List Round} {uid : Uid} {run : Run} {start : Instant}

/-- **Sweeps that come often enough:** each at most two days after the one before. -/
def OftenEnough (rounds : List Round) : Prop :=
  rounds.IsChain fun round next => next.now.since round.now ≤ Instant.ofDays Threshold.twoDay.days

/-- **Nothing fails for a run** in any stage. -/
def Unharmed (s : Store) (rounds : List Round) (uid : Uid) : Prop :=
  ∀ stage ∈ s.stages rounds, stage.fate? uid ≠ some .failed

/-- A stage in the last two days of a run records a last warning, if there was none in them. -/
theorem twoDay_recorded {round : Round} (orderly : s.Orderly) (hnow : round.now.isLeap = false)
    (hrun : s.run? uid = some run) (hstart : run.lastDays? = some start)
    (hnotified : run.notifiedSince start = false) (email : s.emailOf run.owner ≠ none)
    (early : round.now < run.expiration) (late : start ≤ round.now)
    (unharmed : (Stage.mk s round).fate? uid ≠ some .failed) (hreport : (Stage.mk s round).report?.isSome = true) :
    .twoDay ∈ (Stage.mk s round).warnings uid := by
  have hordinary := orderly.ordinary run (List.mem_of_find?_eq_some hrun)
  have hdue := Run.twoDay_is_due hordinary hnow hstart hnotified early late
  have hharm : s.fate round run ≠ .failed := by
    intro hfailed
    refine unharmed ?_
    show (s.run? uid).map (s.fate round) = some .failed
    rw [hrun, Option.map_some, hfailed]
  have hfate : s.fate round run = .notified .twoDay := (fate_of_due hdue email).resolve_right hharm
  have hdistinct : ((Stage.mk s round).store.runs.map (·.uid)).Nodup := orderly.distinct
  rw [Stage.warnings_eq hdistinct hreport]
  show _ ∈ ((s.run? uid).bind fun run => (s.fate round run).threshold?).toList
  rw [hrun, Option.bind_some, hfate]
  exact List.mem_singleton_self _

/-- Before its last two days a run is left with these as they are, and without a warning in them. -/
theorem unwarned_after {round : Round} (orderly : s.Orderly) (hrun : s.run? uid = some run)
    (hstart : run.lastDays? = some start) (hnotified : run.notifiedSince start = false)
    (early : round.now < run.expiration) (hlate : ¬ start ≤ round.now) :
    ∃ left, (Stage.mk s round).after.run? uid = some left ∧ left.lastDays? = some start ∧
      left.expiration = run.expiration ∧ left.owner = run.owner ∧ left.notifiedSince start = false := by
  have horderly : (Stage.mk s round).store.Orderly := orderly
  have hstamp : decide (start ≤ round.now) = false := decide_eq_false hlate
  obtain ⟨left, hleft, rfl | rfl⟩ := Stage.run?_before_expiration horderly hrun early
  · exact ⟨left, hleft, hstart, rfl, rfl, hnotified⟩
  · exact ⟨_, hleft, hstart, rfl, rfl, hstamp⟩

/-- The induction goes over the rounds, and what carries it is that the next one comes before the run expires and that
no warning was sent in its last two days. -/
theorem last_warning_earlier (orderly : s.Orderly) (ordinary : ∀ round ∈ rounds, round.now.isLeap = false)
    (hrun : s.run? uid = some run) (hstart : run.lastDays? = some start)
    (hnotified : run.notifiedSince start = false) (email : s.emailOf run.owner ≠ none)
    (early : ∀ round ∈ rounds.head?, round.now < run.expiration) (often : OftenEnough rounds)
    (unharmed : s.Unharmed rounds uid) (reported : ∀ stage ∈ s.stages rounds, stage.report? ≠ none)
    {earlier later : List Stage} {stage : Stage} (h : s.stages rounds = earlier ++ stage :: later)
    (hdeletes : stage.Deletes uid) :
    ∃ t ∈ earlier, .twoDay ∈ t.warnings uid := by
  induction rounds generalizing s run earlier with
  | nil => exact absurd h (by simp [stages])
  | cons round rounds ih =>
    have horderly : (Stage.mk s round).store.Orderly := orderly
    have hearly : round.now < run.expiration := early round rfl
    cases earlier with
    | nil =>
      obtain ⟨rfl, -⟩ := List.cons.inj h
      exact absurd hdeletes (Stage.not_deletes horderly hrun hearly)
    | cons first earlier =>
      obtain ⟨rfl, hrest⟩ := List.cons.inj h
      have hnow : round.now.isLeap = false := ordinary round List.mem_cons_self
      have hharm := unharmed ⟨s, round⟩ List.mem_cons_self
      have hreport := Option.isSome_iff_ne_none.mpr (reported ⟨s, round⟩ List.mem_cons_self)
      by_cases hlate : start ≤ round.now
      · have hrecorded := twoDay_recorded orderly hnow hrun hstart hnotified email hearly hlate hharm hreport
        exact ⟨_, List.mem_cons_self, hrecorded⟩
      -- It is too early for a last warning, so the next sweep still comes in time.
      obtain ⟨left, hleft, hdays, hexpiration, howner, hnone⟩ :=
        unwarned_after orderly hrun hstart hnotified hearly hlate
      have hordinary := orderly.ordinary run (List.mem_of_find?_eq_some hrun)
      have hnext : ∀ next ∈ rounds.head?, next.now < left.expiration := by
        intro next hnext
        obtain ⟨rest, rfl⟩ := List.head?_eq_some_iff.mp hnext
        have hgap := (List.isChain_cons_cons.mp often).1
        rw [hexpiration]
        exact Run.before_expiration hordinary hnow
          (ordinary next (List.mem_cons_of_mem _ List.mem_cons_self)) hstart hlate hgap
      obtain ⟨t, ht, hwarned⟩ := ih (Stage.orderly_after horderly)
        (fun r hr => ordinary r (List.mem_cons_of_mem _ hr)) hleft hdays hnone
        (by rwa [Stage.emailOf_after horderly, howner]) hnext often.of_cons
        (fun t ht => unharmed t (List.mem_cons_of_mem _ ht)) (fun t ht => reported t (List.mem_cons_of_mem _ ht))
        hrest
      exact ⟨t, List.mem_cons_of_mem _ ht, hwarned⟩

end Store

/-- **No run is deleted without a last warning,** if the owner can be written to and was not warned in the last two
days, the first sweep comes before these, each other one at most two days after the one before, nothing fails for the
run, and each sweep has its report. And before it expires it is not deleted at all. -/
theorem last_warning_before_deletion (s : Store) (rounds : List Round) (run : Run) (start : Instant)
    (orderly : s.Orderly) (ordinary : ∀ round ∈ rounds, round.now.isLeap = false) (hrun : run ∈ s.runs)
    (hstart : run.lastDays? = some start) (notified : ∀ stamp, run.notified = some stamp → stamp < start)
    (email : s.emailOf run.owner ≠ none) (early : ∀ round ∈ rounds.head?, round.now < start)
    (often : Store.OftenEnough rounds) (unharmed : s.Unharmed rounds run.uid) :
    ((∀ stage ∈ s.stages rounds, stage.report? ≠ none) →
      ∀ earlier stage later, s.stages rounds = earlier ++ stage :: later → stage.Deletes run.uid →
        ∃ t ∈ earlier, .twoDay ∈ t.warnings run.uid) ∧
    ∀ stage ∈ s.stages rounds, stage.round.now < run.expiration → ¬ stage.Deletes run.uid := by
  have hfound := Store.run?_of_mem orderly.distinct hrun
  constructor
  · intro reported earlier stage later h hdeletes
    have hnotified : run.notifiedSince start = false := by
      rw [Run.notifiedSince]
      split
      · next stamp hstamp => exact decide_eq_false (notified stamp hstamp)
      · rfl
    have hearly : ∀ round ∈ rounds.head?, round.now < run.expiration := fun round hround =>
      Run.before_expiration_of_early (orderly.ordinary run hrun)
        (ordinary round (List.mem_of_mem_head? hround)) hstart (early round hround)
    exact Store.last_warning_earlier orderly ordinary hfound hstart hnotified email hearly often unharmed reported h
      hdeletes
  · intro stage hstage hearly hdeletes
    obtain ⟨hthere, hkeeps⟩ := Store.keeps_stage orderly run.uid stage hstage
    -- The run may have been stamped by then, but it still expires when it did at the start.
    obtain ⟨r, hr⟩ := Option.ne_none_iff_exists'.mp hdeletes.1
    obtain ⟨first, hfirst, hexpiration, -⟩ := hkeeps r hr
    obtain rfl := Option.some.inj (hfound.symm.trans hfirst)
    exact Stage.not_deletes hthere hr (hexpiration ▸ hearly) hdeletes

/-- A run that expires on the tenth day is warned about on the ninth, and then deleted. -/
theorem trial_last_warning :
    let s := Store.trialRuns
    let rounds : List Round :=
      [.trialOn true 3, .trialOn true 5, .trialOn true 7, .trialOn true 9, .trialOn true 10]
    let run : Run := .trial ⟨4⟩ ⟨1⟩ (.trialDay 10)
    s.Orderly ∧ (∀ round ∈ rounds, round.now.isLeap = false) ∧ run ∈ s.runs ∧
      run.lastDays? = some (.trialDay 8) ∧ (∀ stamp, run.notified = some stamp → stamp < .trialDay 8) ∧
      s.emailOf run.owner ≠ none ∧ (∀ round ∈ rounds.head?, round.now < .trialDay 8) ∧
      Store.OftenEnough rounds ∧ s.Unharmed rounds run.uid ∧ (∀ stage ∈ s.stages rounds, stage.report? ≠ none) ∧
      ∃ earlier stage, s.stages rounds = earlier ++ [stage] ∧ stage.Deletes run.uid ∧
        ∃ t ∈ earlier, .twoDay ∈ t.warnings run.uid := by
  intro s rounds run
  have orderly : s.Orderly := ⟨by decide, by decide⟩
  have ordinary : ∀ round ∈ rounds, round.now.isLeap = false := by decide
  have hrun : run ∈ s.runs := by decide
  have hstart : run.lastDays? = some (.trialDay 8) := by decide
  have notified : ∀ stamp, run.notified = some stamp → stamp < .trialDay 8 := fun stamp hstamp =>
    absurd hstamp (Option.some_ne_none stamp).symm
  have email : s.emailOf run.owner ≠ none := by decide
  have early : ∀ round ∈ rounds.head?, round.now < .trialDay 8 := by decide
  have often : Store.OftenEnough rounds := by
    rw [Store.OftenEnough]
    decide
  have unharmed : s.Unharmed rounds run.uid := by
    rw [Store.Unharmed]
    decide
  have reported : ∀ stage ∈ s.stages rounds, stage.report? ≠ none := Store.reports_of_told orderly (by decide)
  obtain ⟨hwarned, -⟩ := last_warning_before_deletion s rounds run (.trialDay 8) orderly ordinary hrun
    hstart notified email early often unharmed
  refine ⟨orderly, ordinary, hrun, hstart, notified, email, early, often, unharmed, reported, ?_⟩
  have hdeletes : ((s.stages rounds).getLast (List.cons_ne_nil _ _)).Deletes run.uid := by
    rw [Stage.Deletes]
    decide
  have hsplit := (List.dropLast_append_getLast (List.cons_ne_nil _ _ : s.stages rounds ≠ [])).symm
  exact ⟨_, _, hsplit, hdeletes, hwarned reported _ _ [] hsplit hdeletes⟩

/-- Two runs in the first days of the calendar. The last two days of the first one begin before the calendar does, so
the sweeps that come before it expires end there, and the other run is deleted by the first sweep that reaches it. -/
theorem deleted_without_a_last_warning :
    let first : Run := .trial ⟨1⟩ ⟨1⟩ ⟨Calendar.firstDay + 1, 43200, 0, by decide⟩
    let run : Run := .trial ⟨2⟩ ⟨1⟩ ⟨Calendar.firstDay + 2, 3600, 0, by decide⟩
    let start : Instant := ⟨Calendar.firstDay, 3600, 0, by decide⟩
    let sweeps : List Instant := [⟨Calendar.firstDay, 0, 0, by decide⟩, ⟨Calendar.firstDay, 7200, 0, by decide⟩,
      ⟨Calendar.firstDay + 2, 3600, 0, by decide⟩]
    let s := { Store.trialRuns with runs := [first, run] }
    let rounds := sweeps.map fun now => { Round.trialOn true 0 with now }
    s.Orderly ∧ (∀ round ∈ rounds, round.now.isLeap = false) ∧ run ∈ s.runs ∧ run.lastDays? = some start ∧
      run.notified = none ∧ s.emailOf run.owner ≠ none ∧ sweeps.Pairwise (· ≤ ·) ∧
      (∀ round ∈ rounds.head?, round.now < start) ∧ Store.OftenEnough rounds ∧ s.Unharmed rounds run.uid ∧
      (s.stages rounds).map (·.report?.isSome) = [false, false, true] ∧
      ∃ earlier stage, s.stages rounds = earlier ++ [stage] ∧ stage.Deletes run.uid ∧
        ∀ t ∈ earlier, .twoDay ∉ t.warnings run.uid := by
  intro first run start sweeps s rounds
  have often : Store.OftenEnough rounds := by
    rw [Store.OftenEnough]
    decide
  have unharmed : s.Unharmed rounds run.uid := by
    rw [Store.Unharmed]
    decide +kernel
  have hreports : (s.stages rounds).map (·.report?.isSome) = [false, false, true] := by decide +kernel
  refine ⟨⟨by decide, by decide⟩, by decide, by decide, by decide, rfl, by decide, by decide, by decide, often,
    unharmed, hreports, ?_⟩
  have hsplit := (List.dropLast_append_getLast (List.cons_ne_nil _ _ : s.stages rounds ≠ [])).symm
  refine ⟨_, _, hsplit, ?_, ?_⟩
  · rw [Stage.Deletes]
    decide +kernel
  · decide +kernel

end MapExport
