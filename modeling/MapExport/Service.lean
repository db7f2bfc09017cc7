import MapExport.Schedule
import MapExport.Settings.Basic
import MapExport.Store.Answers
import MapExport.Web.Routes

/-!
# The service

Everything together, with the store in memory: requests are answered one after another, and between two of
them the chores are done that have become due, the sweep of expired runs and the computation of averages.
Whatever lies outside, the files, the queue, the mailer and the counter, is given as surroundings.
-/

set_option autoImplicit false

namespace MapExport

/-- **What the service does again and again.** -/
inductive Chore where
  | sweep
  | averages
  deriving DecidableEq, Repr

/-- **What lies outside** of the service. -/
structure Surroundings (m : Type → Type) where
  preset : String → m (Except Failure TagTable)
  dispatch : Uid → m (Except Failure Unit)
  mail : Mail → m (Except Failure Unit)
  count : Geometry Position → m (Except Failure Nat)

/-- **The service** between two requests: its settings, its store, and what is due when. -/
structure Service where
  settings : Settings
  runMode : Option String
  session : Session
  agenda : Agenda Chore

namespace Service

variable {m : Type → Type} [Monad m]

/-- A service that has just been started, with both chores due at once. -/
def start (settings : Settings) (runMode : Option String) (store : Store) : Service :=
  { settings, runMode
    session := .start store
    agenda := (Agenda.add [] .sweep settings.sweepInterval 0).add .averages settings.averageInterval 0 }

/-- Where uploads lie, by the settings. -/
def presetRules (s : Service) : PresetRules := ⟨s.settings.uploadRoot, s.settings.presetPolicy⟩

/-- How warnings are written, by the settings. -/
def warningRules (s : Service) : WarningRules := ⟨s.settings.siteUrl, s.settings.defaultSender⟩

/-- Answers a call of the creation of a job. -/
def answerJob (out : Surroundings m) (c : JobCall) : StateT Service m c.Reply := do
  let s ← get
  let (reply, session) ← s.session.answer out.preset out.dispatch c
  set { s with session }
  return reply

/-- Answers a call of a sweep. -/
def answerSweep (out : Surroundings m) (c : SweepCall) : StateT Service m c.Reply := do
  let s ← get
  let (reply, store) ← s.session.store.answerSweep out.mail c
  set { s with session := { s.session with store } }
  return reply

/-- Answers a call of the estimates. -/
def answerEstimate (out : Surroundings m) (c : EstimateCall) : StateT Service m c.Reply := do
  let s ← get
  let (reply, store) ← s.session.store.answerEstimate out.count c
  set { s with session := { s.session with store } }
  return reply

/-- Does a chore once. Only a sweep that cannot tell what is due ends it for good. -/
def carryOut (out : Surroundings m) (now : Instant) : Chore → StateT Service m Bool
  | .sweep => do
    let rules := (← get).warningRules
    let report ← ((Sweep.sweep rules now).run (answerSweep out) :
      StateT Service m (Except SweepFault SweepReport))
    match report with
    | .error (.beforeCalendar _) => return false
    | _ => return true
  | .averages => do
    let _ ← (Estimate.aggregate.run.run (answerEstimate out) :
      StateT Service m (Except Failure EstimateReport))
    return true

/-- **Doing what has become due** so many seconds after the start. -/
def catchUp (out : Surroundings m) (now : Instant) (seconds : Nat) : StateT Service m Unit := do
  let agenda ← (← get).agenda.run seconds (carryOut out now)
  modify fun s => { s with agenda }

/-- **Answering a request.** -/
def respond (out : Surroundings m) (stamp : Stamp) (r : Web.Request) :
    StateT Service m Web.Response := do
  let s ← get
  (Web.respond s.presetRules stamp s.runMode r).run (answerJob out)

end Service

end MapExport
