import MapExport.Proofs.Expiration.Accounting
import MapExport.Proofs.Expiration.Due

/-!
# Sweeping again and again

A store is swept in rounds, one after the other, at any times, and in each round mails and the store may fail
anew. A sweep that cannot tell of some run what is due has no report; what it did before is done, and the next
round goes on with it.

Of a run the rounds change nothing but when its owner was last warned, and a run that is gone does not come back.
So its course through the rounds is told by its fates alone.
-/

set_option autoImplicit false

namespace MapExport

/-- **A stage** of sweeping again and again: a round, and the store as it is before it. -/
structure Stage where
  store : Store
  round : Round

namespace Stage

/-- The report of the sweep, if it has one. -/
def report? (stage : Stage) : Option SweepReport := (stage.store.sweep stage.round).result.toOption

/-- **The store after the sweep.** -/
def after (stage : Stage) : Store := (stage.store.sweep stage.round).state.store

/-- **The warnings about a run** that the report lists. -/
def warnings (stage : Stage) (uid : Uid) : List Threshold :=
  match stage.report? with
  | some report => report.notified.filterMap fun warned => if warned.1 = uid then some warned.2 else none
  | none => []

/-- **A stage deletes a run** that is in the store before it and not after it. -/
def Deletes (stage : Stage) (uid : Uid) : Prop :=
  stage.store.run? uid ≠ none ∧ stage.after.run? uid = none

end Stage

namespace Store

/-- **Sweeping in rounds,** whether the sweeps have reports or not. -/
def stages (s : Store) : List Round → List Stage
  | [] => []
  | round :: rounds =>
    let stage : Stage := ⟨s, round⟩
    stage :: stage.after.stages rounds

/-- **What a store is at the start and after each stage.** -/
def moments (s : Store) (rounds : List Round) : List Store := s :: (s.stages rounds).map Stage.after

/-- **A store of distinct runs** that expire at ordinary instants. -/
structure Orderly (s : Store) : Prop where
  distinct : (s.runs.map (·.uid)).Nodup
  ordinary : ∀ run ∈ s.runs, run.expiration.isLeap = false

end Store

/-! ## One stage -/

namespace RunOutcome

/-- **Of a run nothing is changed** but when its owner was warned. -/
theorem eq_of_leave {outcome : RunOutcome} {now : Instant} {run left : Run}
    (h : outcome.leave now run = some left) : left = run ∨ left = { run with notified := some now } := by
  cases outcome <;> cases h
  case notified => exact .inr rfl
  all_goals exact .inl rfl

end RunOutcome

namespace Stage

variable {stage : Stage}

/-- **The runs after a stage.** Each was reached and met its fate, or it was not reached and is as before; where
there is a report all were reached. -/
theorem runs_after (distinct : (stage.store.runs.map (·.uid)).Nodup) :
    ∃ reached : List Run, (stage.report?.isSome = true → reached = stage.store.runs) ∧
      stage.after.runs = stage.store.runs.filterMap fun run =>
        if run ∈ reached then (stage.store.fate stage.round run).leave stage.round.now run
        else some run := by
  obtain ⟨dealt, rest, hruns, hswept⟩ := stage.store.swept_sweep stage.round distinct
  refine ⟨dealt, fun hreport => ?_, ?_⟩
  · rcases hswept.result with ⟨rfl, -⟩ | ⟨run, later, -, -, herror⟩
    · rw [hruns, List.append_nil]
    · rw [report?, herror] at hreport
      cases hreport
  · have hrest : ∀ run ∈ rest, run ∉ dealt := by
      intro run hrun hdealt
      rw [hruns, List.map_append, List.nodup_append] at distinct
      exact distinct.2.2 run.uid (List.mem_map_of_mem hdealt) run.uid (List.mem_map_of_mem hrun) rfl
    have hreached : (dealt.filterMap fun run =>
        if run ∈ dealt then (stage.store.fate stage.round run).leave stage.round.now run
        else some run) = stage.store.left stage.round dealt :=
      List.filterMap_congr fun run hrun => if_pos hrun
    have hunreached : (rest.filterMap fun run =>
        if run ∈ dealt then (stage.store.fate stage.round run).leave stage.round.now run
        else some run) = rest := by
      rw [List.filterMap_congr fun run hrun => if_neg (hrest run hrun), List.filterMap_some]
    rw [after, hswept.state, hruns, List.filterMap_append, hreached, hunreached]
    rfl

/-- What was not reached keeps its identifier, and so does what was. -/
theorem uid_of_reached {reached : List Run} {run left : Run}
    (h : (if run ∈ reached then (stage.store.fate stage.round run).leave stage.round.now run
      else some run) = some left) : left.uid = run.uid := by
  split at h
  · exact RunOutcome.uid_of_leave h
  · rw [Option.some.inj h]

/-- **Every run after a stage was there before,** and nothing is changed of it but when its owner was warned. -/
theorem origin_of_mem_after (distinct : (stage.store.runs.map (·.uid)).Nodup) {left : Run}
    (hleft : left ∈ stage.after.runs) :
    ∃ run ∈ stage.store.runs, left = run ∨ left = { run with notified := some stage.round.now } := by
  obtain ⟨reached, -, hruns⟩ := runs_after distinct
  rw [hruns] at hleft
  obtain ⟨run, hrun, hchange⟩ := List.mem_filterMap.mp hleft
  refine ⟨run, hrun, ?_⟩
  split at hchange
  · exact RunOutcome.eq_of_leave hchange
  · exact .inl (Option.some.inj hchange).symm

/-- **A stage keeps a store orderly.** -/
theorem orderly_after (h : stage.store.Orderly) : stage.after.Orderly := by
  constructor
  · obtain ⟨reached, -, hruns⟩ := runs_after h.distinct
    have hsublist : (stage.after.runs.map (·.uid)).Sublist (stage.store.runs.map (·.uid)) := by
      rw [hruns]
      -- Which runs were reached is about all runs of the store, so the list is generalized before the induction.
      generalize stage.store.runs = runs
      induction runs with
      | nil => exact .slnil
      | cons run runs ih =>
        rw [List.filterMap_cons, List.map_cons]
        split
        · exact .cons _ ih
        · next left hleft =>
          rw [List.map_cons, uid_of_reached hleft]
          exact .cons_cons _ ih
    exact hsublist.nodup h.distinct
  · intro left hleft
    obtain ⟨run, hrun, rfl | rfl⟩ := origin_of_mem_after h.distinct hleft
    · exact h.ordinary left hrun
    · exact h.ordinary run hrun

/-- **What can be told before a stage** can be told after it: what is due for a run is told or not told whenever its
owner was warned. -/
theorem told_after (orderly : stage.store.Orderly) {now : Instant}
    (told : ∀ run ∈ stage.store.runs, run.nextAction? now ≠ none) :
    ∀ left ∈ stage.after.runs, left.nextAction? now ≠ none := by
  intro left hleft
  obtain ⟨run, hrun, rfl | rfl⟩ := origin_of_mem_after orderly.distinct hleft
  · exact told left hrun
  · exact Run.told_of_notified _ (told run hrun)

/-- **What becomes of a run** in a stage with a report is its fate. -/
theorem run?_after (distinct : (stage.store.runs.map (·.uid)).Nodup)
    (hreport : stage.report?.isSome = true) (uid : Uid) :
    stage.after.run? uid = (stage.store.run? uid).bind fun run =>
      (stage.store.fate stage.round run).leave stage.round.now run := by
  obtain ⟨reached, hreached, hruns⟩ := runs_after distinct
  rw [Store.run?, hruns, Keyed.find?_filterMap (fun _ _ => uid_of_reached) distinct uid,
    ← Store.run?]
  cases hrun : stage.store.run? uid with
  | none => rfl
  | some run =>
    have hmem : run ∈ reached := hreached hreport ▸ List.mem_of_find?_eq_some hrun
    rw [Option.bind_some, Option.bind_some, if_pos hmem]

/-- What becomes of a run in any stage is its fate, or nothing happens to it. -/
theorem run?_after_cases (distinct : (stage.store.runs.map (·.uid)).Nodup) {uid : Uid} {run : Run}
    (hrun : stage.store.run? uid = some run) :
    stage.after.run? uid = (stage.store.fate stage.round run).leave stage.round.now run ∨
      stage.after.run? uid = some run := by
  obtain ⟨reached, -, hruns⟩ := runs_after distinct
  rw [Store.run?, hruns, Keyed.find?_filterMap (fun _ _ => uid_of_reached) distinct uid,
    ← Store.run?, hrun, Option.bind_some]
  split
  · exact .inl rfl
  · exact .inr rfl

/-- A run that is gone does not come back. -/
theorem run?_after_of_gone (distinct : (stage.store.runs.map (·.uid)).Nodup) {uid : Uid}
    (hgone : stage.store.run? uid = none) : stage.after.run? uid = none := by
  obtain ⟨reached, -, hruns⟩ := runs_after distinct
  rw [Store.run?, hruns, Keyed.find?_filterMap (fun _ _ => uid_of_reached) distinct uid,
    ← Store.run?, hgone, Option.bind_none]

/-- A stage with a report is a sweep in which it can be told of every run what is due. -/
theorem told_of_report (distinct : (stage.store.runs.map (·.uid)).Nodup) {report : SweepReport}
    (hreport : stage.report? = some report) :
    (∀ run ∈ stage.store.runs, run.nextAction? stage.round.now ≠ none) ∧
      report = stage.store.addFates stage.round .empty stage.store.runs := by
  obtain ⟨dealt, rest, hruns, hswept⟩ := stage.store.swept_sweep stage.round distinct
  rcases hswept.result with ⟨rfl, hresult⟩ | ⟨run, later, -, -, herror⟩
  · rw [report?, hresult] at hreport
    rw [hruns, List.append_nil]
    exact ⟨hswept.told, (Option.some.inj hreport).symm⟩
  · rw [report?, herror] at hreport
    cases hreport

/-- **The warnings about a run** are what its fate tells, where there is a report. -/
theorem warnings_eq (distinct : (stage.store.runs.map (·.uid)).Nodup)
    (hreport : stage.report?.isSome = true) (uid : Uid) :
    stage.warnings uid = ((stage.store.run? uid).bind fun run =>
      (stage.store.fate stage.round run).threshold?).toList := by
  obtain ⟨report, hsome⟩ := Option.isSome_iff_exists.mp hreport
  have hnotified : report.notified = stage.store.notifiedAmong stage.round stage.store.runs := by
    rw [(told_of_report distinct hsome).2, Store.addFates_eq]
    rfl
  -- Of what the report lists only that of this run is looked at, so only its own fate matters.
  have hpick : (fun run : Run => ((stage.store.fate stage.round run).threshold?.map (run.uid, ·)).bind
      fun warned => if warned.1 = uid then some warned.2 else none) =
        fun run => if (run.uid == uid) = true then (stage.store.fate stage.round run).threshold?
          else none := by
    funext run
    cases (stage.store.fate stage.round run).threshold? <;> simp
  rw [warnings, hsome]
  simp only [hnotified, Store.notifiedAmong, List.filterMap_filterMap]
  rw [hpick, ← List.filterMap_filter, Keyed.filter_eq_toList distinct, ← Store.run?]
  cases stage.store.run? uid with
  | none => rfl
  | some run => cases hthreshold : (stage.store.fate stage.round run).threshold? <;> simp [hthreshold]

/-- Without a report there are no warnings in it. -/
theorem warnings_of_no_report (h : ¬ stage.report?.isSome = true) (uid : Uid) :
    stage.warnings uid = [] := by
  rw [warnings, Option.not_isSome_iff_eq_none.mp h]

/-- **The report lists as deleted** the runs that the stage deletes. -/
theorem mem_deleted_iff (distinct : (stage.store.runs.map (·.uid)).Nodup) {report : SweepReport}
    (hreport : stage.report? = some report) (uid : Uid) :
    uid ∈ report.deleted ↔ stage.Deletes uid := by
  have hsome : stage.report?.isSome = true := by rw [hreport]; rfl
  have hdeleted : report.deleted = stage.store.deletedAmong stage.round stage.store.runs := by
    rw [(told_of_report distinct hreport).2, Store.addFates_eq]
    rfl
  rw [hdeleted, Deletes, run?_after distinct hsome]
  cases hrun : stage.store.run? uid with
  | none =>
    simp only [ne_eq, not_true, false_and, iff_false]
    intro hmem
    obtain ⟨run, hrun', rfl⟩ := List.mem_map.mp hmem
    rw [Store.run?_of_mem distinct (List.mem_filter.mp hrun').1] at hrun
    cases hrun
  | some run =>
    have huid : run.uid = uid := by simpa using List.find?_some hrun
    rw [← huid, Store.mem_deletedAmong_iff stage.round distinct (List.mem_of_find?_eq_some hrun)]
    cases hfate : stage.store.fate stage.round run <;> simp [hfate, RunOutcome.leave]

end Stage

/-! ## All stages -/

namespace Store

variable {s : Store}

theorem stages_cons (s : Store) (round : Round) (rounds : List Round) :
    s.stages (round :: rounds) = ⟨s, round⟩ :: (Stage.mk s round).after.stages rounds := rfl

/-- **No round is left out.** -/
theorem map_round_stages (s : Store) (rounds : List Round) : (s.stages rounds).map Stage.round = rounds := by
  induction rounds generalizing s with
  | nil => rfl
  | cons round rounds ih => rw [stages_cons, List.map_cons, ih]

/-- **From a stage on** the rounds go on with the store that it leaves. -/
theorem stages_from {rounds : List Round} {earlier later : List Stage} {stage : Stage}
    (orderly : s.Orderly) (h : s.stages rounds = earlier ++ stage :: later) :
    stage.store.Orderly ∧ ∃ more, (∀ round ∈ more, round ∈ rounds) ∧ later = stage.after.stages more := by
  induction earlier generalizing s rounds with
  | nil =>
    cases rounds with
    | nil => cases h
    | cons round rounds =>
      obtain ⟨rfl, hlater⟩ := List.cons.inj h
      exact ⟨orderly, rounds, fun r hr => List.mem_cons_of_mem _ hr, hlater.symm⟩
  | cons first earlier ih =>
    cases rounds with
    | nil => cases h
    | cons round rounds =>
      obtain ⟨rfl, hrest⟩ := List.cons.inj h
      obtain ⟨hstage, more, hmore, hlater⟩ := ih (Stage.orderly_after orderly) hrest
      exact ⟨hstage, more, fun r hr => List.mem_cons_of_mem _ (hmore r hr), hlater⟩

/-- **From one moment to a later one:** a run that is there then was there before, it expires when it did, and if its
owner had been warned this is still known. -/
def Keeps (uid : Uid) (t t' : Store) : Prop :=
  ∀ run', t'.run? uid = some run' → ∃ run, t.run? uid = some run ∧ run'.expiration = run.expiration ∧
    (run.notified ≠ none → run'.notified ≠ none)

variable {uid : Uid} {rounds : List Round}

theorem Keeps.refl (uid : Uid) (t : Store) : Keeps uid t t :=
  fun run hrun => ⟨run, hrun, rfl, fun h => h⟩

theorem Keeps.trans {t t' t'' : Store} (h : Keeps uid t t') (h' : Keeps uid t' t'') : Keeps uid t t'' := by
  intro run'' hrun''
  obtain ⟨run', hrun', hexpiration', hnotified'⟩ := h' run'' hrun''
  obtain ⟨run, hrun, hexpiration, hnotified⟩ := h run' hrun'
  exact ⟨run, hrun, hexpiration'.trans hexpiration, fun hsome => hnotified' (hnotified hsome)⟩

end Store

/-- **A stage keeps** what it does not delete. -/
theorem Stage.keeps_after {stage : Stage} (orderly : stage.store.Orderly) (uid : Uid) :
    Store.Keeps uid stage.store stage.after := by
  intro left hleft
  cases hrun : stage.store.run? uid with
  | none =>
    rw [run?_after_of_gone orderly.distinct hrun] at hleft
    cases hleft
  | some run =>
    refine ⟨run, rfl, ?_⟩
    rcases run?_after_cases orderly.distinct hrun with hafter | hafter
    · rw [hafter] at hleft
      rcases RunOutcome.eq_of_leave hleft with rfl | rfl
      · exact ⟨rfl, fun h => h⟩
      · exact ⟨rfl, fun _ => Option.some_ne_none _⟩
    · obtain rfl := Option.some.inj (hafter.symm.trans hleft)
      exact ⟨rfl, fun h => h⟩

namespace Store

variable {s : Store} {rounds : List Round}

/-- **All stages keep** what was there at the start, as long as it is there. -/
theorem keeps_stage (orderly : s.Orderly) (uid : Uid) :
    ∀ stage ∈ s.stages rounds, stage.store.Orderly ∧ Keeps uid s stage.store := by
  induction rounds generalizing s with
  | nil => exact fun _ h => absurd h List.not_mem_nil
  | cons round rounds ih =>
    intro stage hstage
    rw [stages_cons] at hstage
    rcases List.mem_cons.mp hstage with rfl | hstage
    · exact ⟨orderly, .refl uid s⟩
    · have horderly : (Stage.mk s round).store.Orderly := orderly
      obtain ⟨hthere, hkeeps⟩ := ih (Stage.orderly_after horderly) stage hstage
      exact ⟨hthere, (Stage.keeps_after horderly uid).trans hkeeps⟩

/-- So from each moment to each later one nothing is lost that was not deleted. -/
theorem pairwise_keeps (orderly : s.Orderly) (uid : Uid) :
    (s.moments rounds).Pairwise (Keeps uid) := by
  induction rounds generalizing s with
  | nil => exact List.pairwise_singleton _ s
  | cons round rounds ih =>
    refine List.pairwise_cons.mpr ⟨fun t ht => ?_, ?_⟩
    · obtain ⟨stage, hstage, rfl⟩ := List.mem_map.mp ht
      obtain ⟨hthere, hkeeps⟩ := keeps_stage orderly uid stage hstage
      exact hkeeps.trans (Stage.keeps_after hthere uid)
    · have horderly : (Stage.mk s round).store.Orderly := orderly
      exact ih (Stage.orderly_after horderly)

/-- Where it can always be told of every run what is due, **each sweep has its report.** -/
theorem reports_of_told (orderly : s.Orderly)
    (told : ∀ run ∈ s.runs, ∀ round ∈ rounds, run.nextAction? round.now ≠ none) :
    ∀ stage ∈ s.stages rounds, stage.report? ≠ none := by
  induction rounds generalizing s with
  | nil => exact fun _ h => absurd h List.not_mem_nil
  | cons round rounds ih =>
    have horderly : (Stage.mk s round).store.Orderly := orderly
    have hresult := (sweep_of_told orderly.distinct fun run hrun =>
      told run hrun round List.mem_cons_self).1
    have hreport : (Stage.mk s round).report? = some (s.addFates round .empty s.runs) := by
      rw [Stage.report?, hresult]
      rfl
    have hreports := ih (Stage.orderly_after horderly) fun left hleft r hr =>
      Stage.told_after horderly (fun run hrun => told run hrun r (List.mem_cons_of_mem _ hr)) left hleft
    intro stage hstage
    rcases List.mem_cons.mp hstage with rfl | hstage
    · rw [hreport]
      exact Option.some_ne_none _
    · exact hreports stage hstage

end Store

end MapExport
