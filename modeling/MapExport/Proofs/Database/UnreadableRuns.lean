import Mathlib.Data.List.Basic
import MapExport.Database.Answers
import MapExport.Proofs.Workflow.Course

/-!
# Rows that hold no run

The database keeps the status of a run as a text, and does not mind which. A sweep has all rows read before it looks at
the first run, and a row that holds no run fails the reading as a whole. So one such row is the end of the sweep: no run
is deleted and no owner is warned, although the other runs could be dealt with, and are where the row is missing
(`unreadable_run_stops_the_sweep`).
-/

set_option autoImplicit false

namespace MapExport.Database

open Workflow (Played)

/-! ## Reading rows -/

/-- The run of a row. -/
def runOfRow (row : Row) : Except Failure ExpiringRun := RunRow.ofRow row >>= RunRow.run

/-- **Whether a row holds a run.** -/
def isReadable (row : Row) : Bool := (runOfRow row).isOk

/-- **The runs of the rows that hold one.** -/
def runsAmong (rows : List Row) : List ExpiringRun := rows.filterMap fun row => (runOfRow row).toOption

/-- The columns of all rows are read before a run is made of any, and still each row is read for itself. -/
theorem runsOfRows_cons_eq_ok_iff {row : Row} {rows : List Row} {runs : List ExpiringRun} :
    runsOfRows (row :: rows) = .ok runs ↔
      ∃ run rest, runOfRow row = .ok run ∧ runsOfRows rows = .ok rest ∧ runs = run :: rest := by
  constructor
  · intro h
    obtain ⟨columns, hcolumns, hruns⟩ := bind_eq_ok_iff.mp h
    obtain ⟨c, cs, hc, hcs, rfl⟩ := mapM_cons_eq_ok_iff.mp hcolumns
    obtain ⟨run, rest, hrun, hrest, rfl⟩ := mapM_cons_eq_ok_iff.mp hruns
    exact ⟨run, rest, bind_eq_ok_iff.mpr ⟨c, hc, hrun⟩, bind_eq_ok_iff.mpr ⟨cs, hcs, hrest⟩, rfl⟩
  · rintro ⟨run, rest, hrun, hrest, rfl⟩
    obtain ⟨c, hc, hrun⟩ := bind_eq_ok_iff.mp hrun
    obtain ⟨cs, hcs, hrest⟩ := bind_eq_ok_iff.mp hrest
    exact bind_eq_ok_iff.mpr ⟨c :: cs, mapM_cons_eq_ok_iff.mpr ⟨c, cs, hc, hcs, rfl⟩,
      mapM_cons_eq_ok_iff.mpr ⟨run, rest, hrun, hrest, rfl⟩⟩

/-- **Every row has to hold a run,** or no runs are made of them. -/
theorem runsOfRows_eq_ok_iff {rows : List Row} {runs : List ExpiringRun} :
    runsOfRows rows = .ok runs ↔ (∀ row ∈ rows, isReadable row = true) ∧ runs = runsAmong rows := by
  induction rows generalizing runs with
  | nil => exact ⟨fun h => ⟨nofun, (Except.ok.inj h).symm⟩, fun h => h.2 ▸ rfl⟩
  | cons row rows ih =>
    rw [runsOfRows_cons_eq_ok_iff, List.forall_mem_cons]
    cases hrow : runOfRow row with
    | error e =>
      have hunread : isReadable row = false := by rw [isReadable, hrow]; rfl
      constructor
      · rintro ⟨_, _, ⟨⟩, -, -⟩
      · rintro ⟨⟨hread, -⟩, -⟩
        rw [hunread] at hread
        cases hread
    | ok run =>
      have hread : isReadable row = true := by rw [isReadable, hrow]; rfl
      have hruns : runsAmong (row :: rows) = run :: runsAmong rows := by
        rw [runsAmong, List.filterMap_cons_some (b := run) (by rw [hrow]; rfl), runsAmong]
      rw [hruns]
      constructor
      · rintro ⟨_, rest, ⟨⟩, hrest, rfl⟩
        obtain ⟨hall, rfl⟩ := ih.mp hrest
        exact ⟨⟨hread, hall⟩, rfl⟩
      · rintro ⟨⟨-, hall⟩, rfl⟩
        exact ⟨run, runsAmong rows, rfl, ih.mpr ⟨hall, rfl⟩, rfl⟩

/-- The rows that hold a run are read to the end. -/
theorem runsOfRows_filter (rows : List Row) : runsOfRows (rows.filter isReadable) = .ok (runsAmong rows) := by
  have hruns : runsAmong (rows.filter isReadable) = runsAmong rows := by
    unfold runsAmong
    rw [List.filterMap_filter]
    refine List.filterMap_congr fun row _ => ?_
    cases hrow : runOfRow row with
    | error e =>
      rw [isReadable, hrow]
      rfl
    | ok run =>
      rw [isReadable, hrow]
      rfl
  exact runsOfRows_eq_ok_iff.mpr ⟨fun row hrow => (List.mem_filter.mp hrow).2, hruns.symm⟩

theorem runsOfRows_error {rows : List Row} (h : ∃ row ∈ rows, isReadable row = false) :
    ∃ e, runsOfRows rows = .error e := by
  obtain ⟨row, hrow, hunread⟩ := h
  cases hruns : runsOfRows rows with
  | error e => exact ⟨e, rfl⟩
  | ok runs =>
    have hread := (runsOfRows_eq_ok_iff.mp hruns).1 row hrow
    rw [hunread] at hread
    cases hread

/-! ## Sweeping -/

variable {σ : Type}

/-- **A database that has these rows of runs,** and answers anything else as `send` says. -/
def holding (rows : List Row) (send : σ → (c : Command) → Reply c × σ) (s : σ) (c : Command) : Reply c × σ :=
  match c.statement with
  | .listRuns => (.ok ⟨rows, 0⟩, s)
  | _ => send s c

/-- How this database and a mailer answer a call of a sweep. -/
def answerHolding (rows : List Row) (send : σ → (c : Command) → Reply c × σ)
    (mail : σ → Mail → Except Failure Unit × σ) (s : σ) (c : SweepCall) : c.Reply × σ :=
  (answerSweep (m := StateM σ) (fun c s => holding rows send s c) (fun m s => mail s m) c).run s

/-- **A sweep** over a database that has these rows of runs. -/
def sweepOver (rows : List Row) (send : σ → (c : Command) → Reply c × σ) (mail : σ → Mail → Except Failure Unit × σ)
    (rules : WarningRules) (now : Instant) (s : σ) :
    Played SweepCall SweepCall.Reply σ (Except SweepFault SweepReport) :=
  (Sweep.sweep rules now).play (answerHolding rows send mail) s

section

variable (rows : List Row) (send : σ → (c : Command) → Reply c × σ) (mail : σ → Mail → Except Failure Unit × σ)
  (rules : WarningRules) (now : Instant) (s : σ)

/-- Carrying out the sweep with this database as its collaborator leads to that result and that state. -/
theorem run_sweepOver :
    ((Sweep.sweep rules now).run (m := StateM σ)
        (answerSweep (fun c s => holding rows send s c) fun m s => mail s m)).run s =
      ((sweepOver rows send mail rules now s).result, (sweepOver rows send mail rules now s).state) :=
  Workflow.run_eq_play _ _ _

/-- **A sweep goes through the runs of the rows,** and it is at its end where none are made of them. -/
theorem sweepOver_eq : sweepOver rows send mail rules now s =
    match runsOfRows rows with
    | .error e => ⟨[⟨.listRuns, .error e⟩], .error (.store e), s⟩
    | .ok runs =>
      let rest := (Sweep.through rules now runs .empty).play (answerHolding rows send mail) s
      ⟨⟨.listRuns, .ok runs⟩ :: rest.log, rest.result, rest.state⟩ := by
  -- The listing is the first call, and the database is left as it is by it.
  have hlist : answerHolding rows send mail s .listRuns = (runsOfRows rows, s) := rfl
  rw [sweepOver, Sweep.sweep, Workflow.play, hlist]
  cases runsOfRows rows <;> rfl

end

end MapExport.Database

namespace MapExport

open Database

/-- **A row that holds no run stops the sweep.** If only the rows that hold a run were there, the sweep would go through
their runs. With all rows it comes to the same if each of them holds one; and else there is no report, and nothing is
asked for but the rows. So what is done for the runs that can be read is what would be done without the other rows only
if there are no other rows, or nothing to do. -/
theorem unreadable_run_stops_the_sweep {σ : Type} (rows : List Row) (send : σ → (c : Command) → Reply c × σ)
    (mail : σ → Mail → Except Failure Unit × σ) (rules : WarningRules) (now : Instant) (s : σ) :
    let swept := sweepOver rows send mail rules now s
    let others := sweepOver (rows.filter isReadable) send mail rules now s
    let done := (Sweep.through rules now (runsAmong rows) .empty).play
      (answerHolding (rows.filter isReadable) send mail) s
    others = ⟨⟨.listRuns, .ok (runsAmong rows)⟩ :: done.log, done.result, done.state⟩ ∧
    ((∀ row ∈ rows, isReadable row = true) → swept = others) ∧
    ((∃ row ∈ rows, isReadable row = false) →
      ∃ e, swept = ⟨[⟨.listRuns, .error e⟩], .error (.store e), s⟩) ∧
    (swept.log.tail = others.log.tail ↔
      (∀ row ∈ rows, isReadable row = true) ∨ others.log.tail = []) := by
  intro swept others done
  have hothers : others = ⟨⟨.listRuns, .ok (runsAmong rows)⟩ :: done.log, done.result, done.state⟩ := by
    show sweepOver _ _ _ _ _ _ = _
    rw [sweepOver_eq, runsOfRows_filter]
  have hall : (∀ row ∈ rows, isReadable row = true) → swept = others := by
    intro hread
    show sweepOver _ _ _ _ _ _ = sweepOver _ _ _ _ _ _
    rw [List.filter_eq_self.mpr hread]
  have hsome : (∃ row ∈ rows, isReadable row = false) →
      ∃ e, swept = ⟨[⟨.listRuns, .error e⟩], .error (.store e), s⟩ := by
    intro hunread
    obtain ⟨e, herror⟩ := runsOfRows_error hunread
    refine ⟨e, ?_⟩
    show sweepOver _ _ _ _ _ _ = _
    rw [sweepOver_eq, herror]
  refine ⟨hothers, hall, hsome, ?_⟩
  -- With a row that cannot be read nothing is done, so the two agree only where nothing is to be done.
  by_cases hread : ∀ row ∈ rows, isReadable row = true
  · rw [hall hread]
    exact ⟨fun _ => .inl hread, fun _ => rfl⟩
  · obtain ⟨e, hswept⟩ := hsome (by simpa using hread)
    rw [hswept]
    exact ⟨fun h => .inr h.symm, fun h => (h.resolve_left hread).symm⟩

/-- Two runs have expired, and the status of one of them means nothing to the service. Neither is deleted; without the
row of this one, the other is. -/
theorem expired_run_is_kept :
    let row (uid : Uid) (status : String) : Row := [.uid uid, .uid ⟨9⟩, .uid ⟨2⟩, .text status, .instant .epoch,
      .instant .epoch, .null, .text "Harbour", .null]
    let rows := [row ⟨1⟩ "COMPLETED", row ⟨3⟩ "ARCHIVED"]
    let sweep (rows : List Row) := sweepOver rows (fun given c => (.ok ⟨[], 1⟩, given ++ [c.statement]))
      (fun given _ => (.ok (), given)) ⟨"http://localhost", "noreply"⟩ .epoch []
    (sweep (rows.filter isReadable)).result = .ok ⟨[⟨1⟩], [], 0, 0⟩ ∧
      (sweep (rows.filter isReadable)).state = [.deleteRun] ∧
      (sweep rows).result = .error (.store (.unreadable "Unknown run status: ARCHIVED")) ∧
      (sweep rows).state = [] := by
  decide +kernel

end MapExport
