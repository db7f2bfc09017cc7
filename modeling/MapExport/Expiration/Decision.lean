import MapExport.Run.Basic

/-!
# What is due for a run

An expired run is deleted. Two days before that its owner is warned, unless a warning was already sent
within those two days; seven days before, if no warning was sent at all.
-/

set_option autoImplicit false

namespace MapExport

/-- **What can be due** for a run. -/
inductive RunAction where
  | delete
  | notify (threshold : Threshold)
  | nothing
  deriving DecidableEq, Repr

namespace Run

/-- Whether a warning was already sent since the given instant. -/
def notifiedSince (run : Run) (start : Instant) : Bool :=
  match run.notified with
  | some at_ => decide (start ≤ at_)
  | none => false

/-- Whether the run expires within the days of a threshold. -/
def isWithin (run : Run) (threshold : Threshold) (now : Instant) : Bool :=
  decide (run.expiration.since now ≤ Instant.ofDays threshold.days)

/-- **What is due for a run.** There is no answer when the last two days of the run would have begun
before the calendar does. -/
def nextAction? (run : Run) (now : Instant) : Option RunAction :=
  if run.expiration ≤ now then some .delete
  else if run.isWithin .twoDay now then
    (run.expiration.daysBefore? Threshold.twoDay.days).map fun start =>
      if run.notifiedSince start then .nothing else .notify .twoDay
  else if run.isWithin .sevenDay now && run.notified.isNone then some (.notify .sevenDay)
  else some .nothing

end Run

end MapExport
