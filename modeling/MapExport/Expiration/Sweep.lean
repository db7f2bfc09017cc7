import MapExport.Expiration.Decision
import MapExport.Expiration.Warning
import MapExport.Failure
import MapExport.Workflow

/-!
# The sweep

A sweep goes through all runs as they were when it began and does for each what is due: it deletes the
run, or mails a warning and then keeps that it was sent. A failure is counted and stays with its run; the
next run is treated as if nothing had happened.
-/

set_option autoImplicit false

namespace MapExport

/-- **What a sweep asks its collaborators for:** the store of runs, and the mailer. -/
inductive SweepCall where
  | listRuns
  | deleteRun (run : Uid)
  | sendMail (mail : Mail)
  | markNotified (run : Uid) (now : Instant)

/-- What a call gives if it succeeds. -/
def SweepCall.Result : SweepCall → Type
  | listRuns => List ExpiringRun
  | _ => Unit

/-- What a call is answered. -/
abbrev SweepCall.Reply (c : SweepCall) : Type := Except Failure c.Result

/-- A workflow of calls for a sweep. -/
abbrev SweepFlow := Workflow SweepCall SweepCall.Reply

/-- **What became of a run** in a sweep. -/
inductive RunOutcome where
  | untouched
  | deleted
  | notified (threshold : Threshold)
  | skipped
  | failed
  deriving DecidableEq, Repr

/-- **The report of a sweep.** Skipped are runs whose owner should be warned and cannot be written to. -/
structure SweepReport where
  deleted : List Uid
  notified : List (Uid × Threshold)
  skipped : Nat
  failures : Nat
  deriving DecidableEq, Repr

/-- **Why a sweep has no report:** the runs could not be listed, or what is due for one of them cannot
be told. -/
inductive SweepFault where
  | store (e : Failure)
  | beforeCalendar (run : Uid)
  deriving DecidableEq, Repr

namespace SweepReport

/-- Nothing was done. -/
def empty : SweepReport := ⟨[], [], 0, 0⟩

/-- Adds what became of a run. -/
def add (r : SweepReport) (run : Uid) : RunOutcome → SweepReport
  | .untouched => r
  | .deleted => { r with deleted := r.deleted ++ [run] }
  | .notified t => { r with notified := r.notified ++ [(run, t)] }
  | .skipped => { r with skipped := r.skipped + 1 }
  | .failed => { r with failures := r.failures + 1 }

end SweepReport

/-- Who signs the warnings, and the site they lead to. -/
structure WarningRules where
  site : String
  sender : String

namespace Sweep

/-- Whether a call went well. -/
def outcome (reply : Except Failure Unit) (done : RunOutcome) : RunOutcome :=
  match reply with
  | .ok () => done
  | .error _ => .failed

/-- Warns the owner of a run, and keeps that it was done. -/
def warn (rules : WarningRules) (now : Instant) (run : ExpiringRun) (threshold : Threshold) :
    SweepFlow RunOutcome :=
  match run.email with
  | none => pure .skipped
  | some email =>
    .call (.sendMail (Warning.compose rules.site rules.sender run email threshold)) fun sent =>
      match (sent : Except Failure Unit) with
      | .error _ => .done .failed
      | .ok () =>
        .call (.markNotified run.run.uid now) fun kept => .done (outcome kept (.notified threshold))

/-- Does what is due for a run. -/
def carryOut (rules : WarningRules) (now : Instant) (run : ExpiringRun) :
    RunAction → SweepFlow RunOutcome
  | .nothing => pure .untouched
  | .delete => .call (.deleteRun run.run.uid) fun reply => .done (outcome reply .deleted)
  | .notify threshold => warn rules now run threshold

/-- Goes through the runs and adds to a report. -/
def through (rules : WarningRules) (now : Instant) :
    List ExpiringRun → SweepReport → SweepFlow (Except SweepFault SweepReport)
  | [], report => pure (.ok report)
  | run :: rest, report =>
    match run.run.nextAction? now with
    | none => pure (.error (.beforeCalendar run.run.uid))
    | some action => do
      let outcome ← carryOut rules now run action
      through rules now rest (report.add run.run.uid outcome)

/-- **A sweep** at an instant. -/
def sweep (rules : WarningRules) (now : Instant) : SweepFlow (Except SweepFault SweepReport) :=
  .call .listRuns fun reply =>
    match (reply : Except Failure (List ExpiringRun)) with
    | .error e => .done (.error (.store e))
    | .ok runs => through rules now runs .empty

end Sweep

end MapExport
