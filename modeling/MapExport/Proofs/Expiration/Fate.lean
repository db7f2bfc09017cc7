import MapExport.Proofs.Store.Keys
import MapExport.Proofs.Workflow.Course
import MapExport.Store.Answers

/-!
# The fates of runs

A sweep lists the runs of a store and then changes the same store, run by run. What it does with a run can be
told beforehand and from that run alone: its *fate* depends on what is due for it, on where its owner can be
written to, on what the mailer says to its own mail, and on the two points where the store may refuse this very
run. So whatever happens to other runs does not matter, and a sweep of the whole store is a sweep of each run for
itself (`Store.swept_sweep`).

Only one thing ends a sweep early, a run of which it cannot be told what is due. What was done before stays
done then, and nothing is done from that run on.
-/

set_option autoImplicit false

namespace MapExport

open Workflow (Played)

/-! ## Sweeping a store -/

/-- **A mailer:** what becomes of a mail, by the mails that it was given before in the same sweep. -/
abbrev Mailer := List Mail → Mail → Except Failure Unit

/-- **A round** of sweeping: all of a sweep that does not lie in the store, and where the store was told to
fail. -/
structure Round where
  now : Instant
  rules : WarningRules
  mailer : Mailer
  faults : List TrialFault

/-- **A sweep under way:** the store, and the mails that the mailer was given so far. -/
structure Sweeping where
  store : Store
  mails : List Mail

/-- How the store and the mailer answer a call of a sweep. -/
def Sweeping.answer (mailer : Mailer) (s : Sweeping) (c : SweepCall) : c.Reply × Sweeping :=
  let send (mail : Mail) : StateM (List Mail) (Except Failure Unit) := fun earlier =>
    (mailer earlier mail, earlier ++ [mail])
  let answered := (s.store.answerSweep send c).run s.mails
  (answered.1.1, ⟨answered.1.2, answered.2⟩)

/-- **Sweeping a store.** -/
def Store.sweep (s : Store) (round : Round) :
    Played SweepCall SweepCall.Reply Sweeping (Except SweepFault SweepReport) :=
  (Sweep.sweep round.rules round.now).play (Sweeping.answer round.mailer)
    ⟨{ s with faults := round.faults }, []⟩

/-- Carrying out a sweep with the store as its collaborator leads to that result and that state. -/
theorem Store.run_sweep (s : Store) (round : Round) :
    ((Sweep.sweep round.rules round.now).run (m := StateM Sweeping) fun c sweeping =>
        sweeping.answer round.mailer c).run ⟨{ s with faults := round.faults }, []⟩ =
      ((s.sweep round).result, (s.sweep round).state) :=
  Workflow.run_eq_play (Sweeping.answer round.mailer) _ _

/-- A mail that was given to the mailer, with the answer. -/
def SweepCall.mailed? : Workflow.Event SweepCall SweepCall.Reply → Option (Mail × Except Failure Unit)
  | ⟨.sendMail mail, reply⟩ => some (mail, reply)
  | _ => none

/-! ## Fates -/

namespace Store

/-- **The warning that is due** for a run, if its owner can be written to. -/
def warning? (s : Store) (round : Round) (run : Run) : Option Mail :=
  match run.nextAction? round.now with
  | some (.notify threshold) => (s.emailOf run.owner).map fun email =>
    Warning.compose round.rules.site round.rules.sender (s.expiring run) email threshold
  | _ => none

/-- **The runs that are listed before** a run. -/
def listedBefore (s : Store) (run : Run) : List Run := s.runs.takeWhile (·.uid != run.uid)

/-- **What the mailer answers** to the mail about a run. It was given the warnings about the runs that are listed
before, whatever became of them. -/
def mailed (s : Store) (round : Round) (run : Run) (mail : Mail) : Except Failure Unit :=
  round.mailer ((s.listedBefore run).filterMap (s.warning? round)) mail

/-- **The fate of a run** in a sweep. -/
def fate (s : Store) (round : Round) (run : Run) : RunOutcome :=
  match run.nextAction? round.now with
  | some .delete => if .deleteRun run.uid ∈ round.faults then .failed else .deleted
  | some (.notify threshold) =>
    match s.warning? round run with
    | none => .skipped
    | some mail =>
      if (s.mailed round run mail).isOk ∧ .markNotified run.uid ∉ round.faults then .notified threshold
      else .failed
  | _ => .untouched

end Store

/-- **What a run is afterwards,** if it is still there. -/
def RunOutcome.leave (now : Instant) (run : Run) : RunOutcome → Option Run
  | .deleted => none
  | .notified _ => some { run with notified := some now }
  | _ => some run

namespace Store

/-- **What is left of runs.** -/
def left (s : Store) (round : Round) (runs : List Run) : List Run :=
  runs.filterMap fun run => (s.fate round run).leave round.now run

/-- **The runs that are deleted,** by their identifiers. -/
def deletedAmong (s : Store) (round : Round) (runs : List Run) : List Uid :=
  (runs.filter fun run => s.fate round run = .deleted).map (·.uid)

/-- Adds the fates of runs to a report. -/
def addFates (s : Store) (round : Round) (report : SweepReport) (runs : List Run) : SweepReport :=
  runs.foldl (fun report run => report.add run.uid (s.fate round run)) report

/-- **In the middle of a sweep:** these runs are dealt with, and those are not. -/
def sweptTo (s : Store) (round : Round) (dealt rest : List Run) : Sweeping where
  store :=
    { s with
      faults := round.faults
      runs := s.left round dealt ++ rest
      records := s.records.filter fun record => record.run ∉ s.deletedAmong round dealt }
  mails := dealt.filterMap (s.warning? round)

theorem sweptTo_nil (s : Store) (round : Round) :
    s.sweptTo round [] s.runs = ⟨{ s with faults := round.faults }, []⟩ := by
  simp [sweptTo, left, deletedAmong]

/-! ## One run -/

/-- The runs that were dealt with are those that are listed before the next one. -/
theorem listedBefore_of_distinct {s : Store} {dealt rest : List Run} {run : Run}
    (hruns : s.runs = dealt ++ run :: rest) (distinct : (s.runs.map (·.uid)).Nodup) :
    s.listedBefore run = dealt := by
  rw [hruns, List.map_append, List.map_cons, List.nodup_append] at distinct
  have hdealt : ∀ r ∈ dealt, (r.uid != run.uid) = true := by
    intro r hr
    have hne := distinct.2.2 r.uid (List.mem_map_of_mem hr) run.uid List.mem_cons_self
    simpa using hne
  rw [listedBefore, hruns, List.takeWhile_append_of_pos hdealt, List.takeWhile_cons]
  simp

end Store

/-- A run keeps its identifier. -/
theorem RunOutcome.uid_of_leave {outcome : RunOutcome} {now : Instant} {run left : Run}
    (h : outcome.leave now run = some left) : left.uid = run.uid := by
  cases outcome <;> cases h <;> rfl

namespace Store

/-- What is left of the runs that were dealt with is none of the others. -/
theorem uid_ne_of_left {s : Store} (round : Round) {dealt rest : List Run} {run : Run}
    (hruns : s.runs = dealt ++ run :: rest) (distinct : (s.runs.map (·.uid)).Nodup) :
    (∀ r ∈ s.left round dealt, r.uid ≠ run.uid) ∧ ∀ r ∈ rest, r.uid ≠ run.uid := by
  rw [hruns, List.map_append, List.map_cons, List.nodup_append, List.nodup_cons] at distinct
  obtain ⟨-, ⟨hrest, -⟩, hdealt⟩ := distinct
  constructor
  · intro r hr
    obtain ⟨before, hbefore, hleave⟩ := List.mem_filterMap.mp hr
    rw [RunOutcome.uid_of_leave hleave]
    exact hdealt before.uid (List.mem_map_of_mem hbefore) run.uid List.mem_cons_self
  · intro r hr heq
    exact hrest (heq ▸ List.mem_map_of_mem hr)

/-- Where the store was told to fail, it fails and stays as it is. -/
theorem change_guard (t : Store) (point : TrialFault) (step : Except Failure Store) :
    t.change (do t.guard point; step) =
      if point ∈ t.faults then (.error (.database ("injected failure at " ++ point.name)), t)
      else t.change step := by
  rw [guard]
  split <;> rfl

/-- **A run that is there is deleted,** unless the store was told to refuse that. -/
theorem change_deleteRun {t : Store} {uid : Uid} (h : t.runs.any (·.uid == uid) = true) :
    t.change (t.deleteRun uid) =
      if .deleteRun uid ∈ t.faults then
        (.error (.database ("injected failure at " ++ (TrialFault.deleteRun uid).name)), t)
      else (.ok (), { t with
        runs := t.runs.filter (·.uid != uid)
        records := t.records.filter (·.run != uid) }) := by
  rw [deleteRun, change_guard, if_pos h]
  rfl

/-- **Of a run that is there it is kept that its owner was warned,** unless the store was told to refuse
that. -/
theorem change_markNotified {t : Store} {uid : Uid} (now : Instant)
    (h : t.runs.any (·.uid == uid) = true) :
    t.change (t.markNotified uid now) =
      if .markNotified uid ∈ t.faults then
        (.error (.database ("injected failure at " ++ (TrialFault.markNotified uid).name)), t)
      else (.ok (), { t with
        runs := modifyFirst (·.uid == uid) (fun r => { r with notified := some now }) t.runs }) := by
  rw [markNotified, change_guard, if_pos h]
  rfl

variable {s : Store} {round : Round} {dealt rest : List Run} {run : Run}

theorem left_concat (s : Store) (round : Round) (dealt : List Run) (run : Run) :
    s.left round (dealt ++ [run]) =
      s.left round dealt ++ ((s.fate round run).leave round.now run).toList := by
  rw [left, List.filterMap_append]
  cases hleave : (s.fate round run).leave round.now run <;> simp [hleave, left]

theorem deletedAmong_concat (s : Store) (round : Round) (dealt : List Run) (run : Run) :
    s.deletedAmong round (dealt ++ [run]) =
      s.deletedAmong round dealt ++ if s.fate round run = .deleted then [run.uid] else [] := by
  rw [deletedAmong, List.filter_append]
  by_cases hfate : s.fate round run = .deleted <;> simp [hfate, deletedAmong]

theorem sweptTo_mails (s : Store) (round : Round) (dealt rest : List Run) (run : Run) :
    (s.sweptTo round (dealt ++ [run]) rest).mails =
      (s.sweptTo round dealt (run :: rest)).mails ++ (s.warning? round run).toList := by
  rw [sweptTo, List.filterMap_append]
  cases hwarning : s.warning? round run <;> simp [hwarning, sweptTo]

/-- A run that stays as it is. -/
theorem sweptTo_store_of_kept (hleave : (s.fate round run).leave round.now run = some run) :
    (s.sweptTo round (dealt ++ [run]) rest).store = (s.sweptTo round dealt (run :: rest)).store := by
  have hfate : s.fate round run ≠ .deleted := by
    intro hdeleted
    rw [hdeleted] at hleave
    cases hleave
  simp [sweptTo, left_concat, deletedAmong_concat, hleave, hfate]

/-- A run that is deleted. -/
theorem sweptTo_store_of_deleted (hruns : s.runs = dealt ++ run :: rest)
    (distinct : (s.runs.map (·.uid)).Nodup) (hfate : s.fate round run = .deleted) :
    (s.sweptTo round (dealt ++ [run]) rest).store =
      { (s.sweptTo round dealt (run :: rest)).store with
        runs := (s.sweptTo round dealt (run :: rest)).store.runs.filter (·.uid != run.uid)
        records := (s.sweptTo round dealt (run :: rest)).store.records.filter (·.run != run.uid) } := by
  obtain ⟨hdealt, hrest⟩ := uid_ne_of_left round hruns distinct
  -- The store deletes by identifier, which takes nothing else away on either side of the run.
  have hleft : (s.left round dealt).filter (·.uid != run.uid) = s.left round dealt :=
    List.filter_eq_self.mpr fun r hr => by simpa using hdealt r hr
  have hkept : rest.filter (·.uid != run.uid) = rest :=
    List.filter_eq_self.mpr fun r hr => by simpa using hrest r hr
  have hruns : (s.left round dealt ++ run :: rest).filter (·.uid != run.uid) =
      s.left round dealt ++ rest := by
    simp [List.filter_append, hleft, hkept]
  have hrecords : (s.records.filter fun record => record.run ∉ s.deletedAmong round (dealt ++ [run])) =
      (s.records.filter fun record => record.run ∉ s.deletedAmong round dealt).filter
        (·.run != run.uid) := by
    rw [List.filter_filter, deletedAmong_concat, if_pos hfate]
    refine List.filter_congr fun record _ => ?_
    by_cases hrecord : record.run = run.uid <;> simp [hrecord]
  simp only [sweptTo, left_concat, hfate, RunOutcome.leave, Option.toList_none, List.append_nil, hruns,
    hrecords]

/-- A run whose owner was warned. -/
theorem sweptTo_store_of_notified (hruns : s.runs = dealt ++ run :: rest)
    (distinct : (s.runs.map (·.uid)).Nodup) {threshold : Threshold}
    (hfate : s.fate round run = .notified threshold) :
    (s.sweptTo round (dealt ++ [run]) rest).store =
      { (s.sweptTo round dealt (run :: rest)).store with
        runs := modifyFirst (·.uid == run.uid) (fun r => { r with notified := some round.now })
          (s.sweptTo round dealt (run :: rest)).store.runs } := by
  obtain ⟨hdealt, -⟩ := uid_ne_of_left round hruns distinct
  have hmodified : modifyFirst (·.uid == run.uid) (fun r => { r with notified := some round.now })
      (s.left round dealt ++ run :: rest) =
        s.left round dealt ++ { run with notified := some round.now } :: rest :=
    modifyFirst_append_cons (fun r hr => beq_eq_false_iff_ne.mpr (hdealt r hr)) (beq_self_eq_true run.uid)
  simp [sweptTo, left_concat, deletedAmong_concat, hfate, RunOutcome.leave, hmodified]

/-- A run that is not dealt with yet is still in the store. -/
theorem any_sweptTo (s : Store) (round : Round) (dealt rest : List Run) (run : Run) :
    (s.sweptTo round dealt (run :: rest)).store.runs.any (·.uid == run.uid) = true :=
  List.any_eq_true.mpr ⟨run, List.mem_append_right _ List.mem_cons_self, beq_self_eq_true run.uid⟩

/-- **Dealt with:** what becomes of the next run is its fate, and no other run is touched. -/
structure DealtWith (s : Store) (round : Round) (dealt : List Run) (run : Run) (rest : List Run)
    (p : Played SweepCall SweepCall.Reply Sweeping RunOutcome) : Prop where
  result : p.result = s.fate round run
  state : p.state = s.sweptTo round (dealt ++ [run]) rest
  mailed : p.log.filterMap SweepCall.mailed? =
    ((s.warning? round run).map fun mail => (mail, s.mailed round run mail)).toList

theorem sweptTo_concat {t : Store} (h : (s.sweptTo round (dealt ++ [run]) rest).store = t) :
    s.sweptTo round (dealt ++ [run]) rest =
      ⟨t, (s.sweptTo round dealt (run :: rest)).mails ++ (s.warning? round run).toList⟩ := by
  rw [← h, ← sweptTo_mails]

/-- A run for which nothing is due. -/
theorem dealtWith_nothing (haction : run.nextAction? round.now = some .nothing) :
    DealtWith s round dealt run rest ((Sweep.carryOut round.rules round.now (s.expiring run) .nothing).play
      (Sweeping.answer round.mailer) (s.sweptTo round dealt (run :: rest))) := by
  have hfate : s.fate round run = .untouched := by rw [fate, haction]
  have hwarning : s.warning? round run = none := by rw [warning?, haction]
  refine ⟨hfate.symm, ?_, by rw [hwarning]; rfl⟩
  rw [sweptTo_concat (sweptTo_store_of_kept (by rw [hfate]; rfl)), hwarning,
    Option.toList_none, List.append_nil]
  rfl

/-- **Deleting** a run that has expired comes to its fate. -/
theorem deleteRun_sweptTo (hruns : s.runs = dealt ++ run :: rest) (distinct : (s.runs.map (·.uid)).Nodup)
    (haction : run.nextAction? round.now = some .delete) :
    let store := (s.sweptTo round dealt (run :: rest)).store
    Sweep.outcome (store.change (store.deleteRun run.uid)).1 .deleted = s.fate round run ∧
      (store.change (store.deleteRun run.uid)).2 = (s.sweptTo round (dealt ++ [run]) rest).store := by
  intro store
  have hfaults : store.faults = round.faults := rfl
  have hchange := change_deleteRun (s.any_sweptTo round dealt rest run)
  rw [hfaults] at hchange
  by_cases hfault : .deleteRun run.uid ∈ round.faults
  · have hfate : s.fate round run = .failed := by simp only [fate, haction, if_pos hfault]
    rw [hchange, if_pos hfault, hfate]
    exact ⟨rfl, (sweptTo_store_of_kept (by rw [hfate]; rfl)).symm⟩
  · have hfate : s.fate round run = .deleted := by simp only [fate, haction, if_neg hfault]
    rw [hchange, if_neg hfault, hfate]
    exact ⟨rfl, (sweptTo_store_of_deleted hruns distinct hfate).symm⟩

/-- A run that has expired. -/
theorem dealtWith_delete (hruns : s.runs = dealt ++ run :: rest) (distinct : (s.runs.map (·.uid)).Nodup)
    (haction : run.nextAction? round.now = some .delete) :
    DealtWith s round dealt run rest ((Sweep.carryOut round.rules round.now (s.expiring run) .delete).play
      (Sweeping.answer round.mailer) (s.sweptTo round dealt (run :: rest))) := by
  have hwarning : s.warning? round run = none := by rw [warning?, haction]
  obtain ⟨hresult, hstore⟩ := deleteRun_sweptTo hruns distinct haction
  refine ⟨hresult, ?_, by rw [hwarning]; rfl⟩
  rw [sweptTo_concat hstore.symm, hwarning, Option.toList_none, List.append_nil]
  rfl

/-- **Keeping that the owner was warned** comes to the fate of a run whose mail was sent. -/
theorem markNotified_sweptTo (hruns : s.runs = dealt ++ run :: rest)
    (distinct : (s.runs.map (·.uid)).Nodup) {threshold : Threshold} {mail : Mail}
    (haction : run.nextAction? round.now = some (.notify threshold))
    (hwarning : s.warning? round run = some mail) (hsent : s.mailed round run mail = .ok ()) :
    let store := (s.sweptTo round dealt (run :: rest)).store
    Sweep.outcome (store.change (store.markNotified run.uid round.now)).1 (.notified threshold) =
        s.fate round run ∧
      (store.change (store.markNotified run.uid round.now)).2 =
        (s.sweptTo round (dealt ++ [run]) rest).store := by
  intro store
  have hchange := change_markNotified round.now (s.any_sweptTo round dealt rest run)
  have hfaults : store.faults = round.faults := rfl
  rw [hfaults] at hchange
  have hok : (s.mailed round run mail).isOk = true := by rw [hsent]; rfl
  by_cases hfault : .markNotified run.uid ∈ round.faults
  · have hfate : s.fate round run = .failed := by simp [fate, haction, hwarning, hfault]
    rw [hchange, if_pos hfault, hfate]
    exact ⟨rfl, (sweptTo_store_of_kept (by rw [hfate]; rfl)).symm⟩
  · have hfate : s.fate round run = .notified threshold := by
      simp [fate, haction, hwarning, hok, hfault]
    rw [hchange, if_neg hfault, hfate]
    exact ⟨rfl, (sweptTo_store_of_notified hruns distinct hfate).symm⟩

/-- A run whose owner is to be warned. -/
theorem dealtWith_notify (hruns : s.runs = dealt ++ run :: rest) (distinct : (s.runs.map (·.uid)).Nodup)
    {threshold : Threshold} (haction : run.nextAction? round.now = some (.notify threshold)) :
    DealtWith s round dealt run rest ((Sweep.carryOut round.rules round.now (s.expiring run)
      (.notify threshold)).play (Sweeping.answer round.mailer) (s.sweptTo round dealt (run :: rest))) := by
  rw [Sweep.carryOut, Sweep.warn]
  cases hemail : s.emailOf run.owner with
  | none =>
    have hwarning : s.warning? round run = none := by simp only [warning?, haction, hemail, Option.map_none]
    have hfate : s.fate round run = .skipped := by simp only [fate, haction, hwarning]
    have hnobody : (s.expiring run).email = none := hemail
    simp only [hnobody]
    refine ⟨hfate.symm, ?_, by rw [hwarning]; rfl⟩
    rw [sweptTo_concat (sweptTo_store_of_kept (by rw [hfate]; rfl)), hwarning,
      Option.toList_none, List.append_nil]
    rfl
  | some email =>
    have hwarning : s.warning? round run = some (Warning.compose round.rules.site round.rules.sender
        (s.expiring run) email threshold) := by simp only [warning?, haction, hemail, Option.map_some]
    have hsomebody : (s.expiring run).email = some email := hemail
    simp only [hsomebody]
    generalize Warning.compose round.rules.site round.rules.sender (s.expiring run) email threshold = mail
      at hwarning
    -- The mailer was given the warnings about the runs before this one, and now it is given this one.
    have hmailed : round.mailer (s.sweptTo round dealt (run :: rest)).mails mail =
        s.mailed round run mail := by
      rw [mailed, listedBefore_of_distinct hruns distinct]
      rfl
    have hanswer : Sweeping.answer round.mailer (s.sweptTo round dealt (run :: rest)) (.sendMail mail) =
        (s.mailed round run mail, ⟨(s.sweptTo round dealt (run :: rest)).store,
          (s.sweptTo round dealt (run :: rest)).mails ++ [mail]⟩) := by
      rw [← hmailed]
      rfl
    have hmails : (s.sweptTo round dealt (run :: rest)).mails ++ [mail] =
        (s.sweptTo round dealt (run :: rest)).mails ++ (s.warning? round run).toList := by
      rw [hwarning, Option.toList_some]
    cases hsent : s.mailed round run mail with
    | error e =>
      have hfate : s.fate round run = .failed := by
        simp [fate, haction, hwarning, hsent, Except.isOk, Except.toBool]
      simp only [Workflow.play, hanswer, hsent]
      refine ⟨hfate.symm, ?_, by rw [hwarning, Option.map_some, hsent]; rfl⟩
      rw [sweptTo_concat (sweptTo_store_of_kept (by rw [hfate]; rfl)), hmails]
    | ok u =>
      obtain ⟨hresult, hstore⟩ := markNotified_sweptTo hruns distinct haction hwarning hsent
      simp only [Workflow.play, hanswer, hsent]
      refine ⟨hresult, ?_, by rw [hwarning, Option.map_some, hsent]; rfl⟩
      rw [sweptTo_concat hstore.symm, ← hmails]
      rfl

/-- **What a sweep does with a run** is its fate, and of the other runs it touches none. -/
theorem dealtWith_carryOut (hruns : s.runs = dealt ++ run :: rest)
    (distinct : (s.runs.map (·.uid)).Nodup) {action : RunAction}
    (haction : run.nextAction? round.now = some action) :
    DealtWith s round dealt run rest ((Sweep.carryOut round.rules round.now (s.expiring run) action).play
      (Sweeping.answer round.mailer) (s.sweptTo round dealt (run :: rest))) := by
  cases action with
  | nothing => exact dealtWith_nothing haction
  | delete => exact dealtWith_delete hruns distinct haction
  | notify threshold => exact dealtWith_notify hruns distinct haction

/-! ## All runs -/

/-- **Swept:** after some runs that were dealt with before, more runs are dealt with in their order, each for itself,
to the last one or up to the first of which it cannot be told what is due. -/
structure Swept (s : Store) (round : Round) (dealt more left : List Run) (report : SweepReport)
    (p : Played SweepCall SweepCall.Reply Sweeping (Except SweepFault SweepReport)) : Prop where
  told : ∀ run ∈ more, run.nextAction? round.now ≠ none
  result : left = [] ∧ p.result = .ok (s.addFates round report more) ∨
    ∃ run later, left = run :: later ∧ run.nextAction? round.now = none ∧
      p.result = .error (.beforeCalendar run.uid)
  state : p.state = s.sweptTo round (dealt ++ more) left
  mailed : p.log.filterMap SweepCall.mailed? = more.filterMap fun run =>
    (s.warning? round run).map fun mail => (mail, s.mailed round run mail)

variable {report : SweepReport}

/-- Nothing is left to do. -/
theorem swept_through_nil : Swept s round dealt [] [] report ((Sweep.through round.rules round.now
    ([].map s.expiring) report).play (Sweeping.answer round.mailer) (s.sweptTo round dealt [])) := by
  have hdone : Sweep.through round.rules round.now ([].map s.expiring) report = .done (.ok report) := rfl
  rw [hdone, Workflow.play]
  exact ⟨fun _ h => absurd h List.not_mem_nil, .inl ⟨rfl, rfl⟩, by rw [List.append_nil], rfl⟩

/-- It cannot be told what is due. -/
theorem swept_through_of_untold (haction : run.nextAction? round.now = none) :
    Swept s round dealt [] (run :: rest) report ((Sweep.through round.rules round.now
      ((run :: rest).map s.expiring) report).play (Sweeping.answer round.mailer)
        (s.sweptTo round dealt (run :: rest))) := by
  have hexpiring : (s.expiring run).run.nextAction? round.now = none := haction
  rw [List.map_cons, Sweep.through, hexpiring, Workflow.pure_eq_done, Workflow.play]
  exact ⟨fun _ h => absurd h List.not_mem_nil, .inr ⟨run, rest, rfl, haction, rfl⟩,
    by rw [List.append_nil], rfl⟩

/-- One run is dealt with, and then those that are left. -/
theorem swept_through_cons (hruns : s.runs = dealt ++ run :: rest)
    (distinct : (s.runs.map (·.uid)).Nodup) {action : RunAction}
    (haction : run.nextAction? round.now = some action) {more left : List Run}
    (h : Swept s round (dealt ++ [run]) more left (report.add run.uid (s.fate round run))
      ((Sweep.through round.rules round.now (rest.map s.expiring)
        (report.add run.uid (s.fate round run))).play (Sweeping.answer round.mailer)
          (s.sweptTo round (dealt ++ [run]) rest))) :
    Swept s round dealt (run :: more) left report ((Sweep.through round.rules round.now
      ((run :: rest).map s.expiring) report).play (Sweeping.answer round.mailer)
        (s.sweptTo round dealt (run :: rest))) := by
  obtain ⟨hresult, hstate, hmailed⟩ := dealtWith_carryOut hruns distinct haction
  have hexpiring : (s.expiring run).run.nextAction? round.now = some action := haction
  rw [List.map_cons, Sweep.through, hexpiring]
  simp only [Workflow.play_bind, hresult, hstate]
  refine ⟨?_, h.result, by rw [List.append_cons dealt run more]; exact h.state, ?_⟩
  · intro r hr
    rcases List.mem_cons.mp hr with rfl | hr
    · rw [haction]
      exact Option.some_ne_none action
    · exact h.told r hr
  · have hmails := h.mailed
    rw [List.filterMap_append, hmailed, List.filterMap_cons]
    cases hwarning : s.warning? round run with
    | none => exact hmails
    | some mail => exact congrArg _ hmails

/-- **The runs that are left are swept,** whatever was done before. -/
theorem swept_through (round : Round) (distinct : (s.runs.map (·.uid)).Nodup) {todo : List Run}
    (hruns : s.runs = dealt ++ todo) (report : SweepReport) :
    ∃ more left, todo = more ++ left ∧ Swept s round dealt more left report
      ((Sweep.through round.rules round.now (todo.map s.expiring) report).play
        (Sweeping.answer round.mailer) (s.sweptTo round dealt todo)) := by
  -- The invariant is the state: wherever the sweep is, the store is `sweptTo` there.
  induction todo generalizing dealt report with
  | nil => exact ⟨[], [], rfl, swept_through_nil⟩
  | cons run todo ih =>
    cases haction : run.nextAction? round.now with
    | none => exact ⟨[], run :: todo, rfl, swept_through_of_untold haction⟩
    | some action =>
      obtain ⟨more, left, htodo, hmore⟩ := ih (by rw [hruns, List.append_cons])
        (report.add run.uid (s.fate round run))
      exact ⟨run :: more, left, by rw [htodo]; rfl, swept_through_cons hruns distinct haction hmore⟩

/-- The list that the store gives is taken before anything is done. -/
theorem sweep_eq_through (s : Store) (round : Round) :
    s.sweep round =
      let p := (Sweep.through round.rules round.now (s.runs.map s.expiring) .empty).play
        (Sweeping.answer round.mailer) (s.sweptTo round [] s.runs)
      { p with log := ⟨.listRuns, .ok (s.runs.map s.expiring)⟩ :: p.log } := by
  rw [sweptTo_nil]
  rfl

/-- **A sweep of the whole store is a sweep of each run for itself.** -/
theorem swept_sweep (s : Store) (round : Round) (distinct : (s.runs.map (·.uid)).Nodup) :
    ∃ dealt left, s.runs = dealt ++ left ∧ Swept s round [] dealt left .empty (s.sweep round) := by
  obtain ⟨dealt, left, hruns, h⟩ := swept_through round distinct (List.nil_append s.runs).symm .empty
  rw [sweep_eq_through]
  exact ⟨dealt, left, hruns, h.told, h.result, h.state, h.mailed⟩

end Store

end MapExport
