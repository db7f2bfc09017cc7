import MapExport.Estimate.Aggregation
import MapExport.Expiration.Sweep
import MapExport.Job.Creation
import MapExport.Store.Runs
import MapExport.Store.Transaction

/-!
# The store as a collaborator

How the store in memory answers the calls of the workflows. Each call reads or changes the store once,
so workflows that take turns see each other's changes between two calls and never within one. What
concerns other collaborators is passed on.
-/

set_option autoImplicit false

namespace MapExport

/-- **The store as the creation of a job sees it,** with what its transaction has staged. -/
structure Session where
  store : Store
  staged : Staged

namespace Session

/-- A session in which nothing is staged. -/
def start (s : Store) : Session := ⟨s, .empty⟩

/-- Stages something, or refuses to. -/
def stage (s : Session) (step : Except Failure Staged) : Except Failure Unit × Session :=
  match step with
  | .ok staged => (.ok (), { s with staged })
  | .error e => (.error e, s)

/-- Commits what is staged. -/
def commit (s : Session) : Except Failure Unit × Session :=
  match s.staged.commit s.store with
  | .ok store => (.ok (), ⟨store, .empty⟩)
  | .error e => (.error e, { s with staged := .empty })

/-- **How the store answers** a call of the creation of a job. Presets and the queue are others'
business. -/
def answer {m : Type → Type} [Monad m] (preset : String → m (Except Failure TagTable))
    (dispatch : Uid → m (Except Failure Unit)) (s : Session) :
    (c : JobCall) → m (c.Reply × Session)
  | .formatsBySlugs slugs => pure (.ok (s.store.formatsBySlugs slugs), s)
  | .providersBySlugs slugs => pure (.ok (s.store.providersBySlugs slugs), s)
  | .config uid => pure (s.store.config uid, s)
  | .preset path => do return (← preset path, s)
  | .begin => pure (.ok (), { s with staged := .empty })
  | .insertJob job => pure (s.stage (s.staged.insertJob s.store job))
  | .attachFormats job formats => pure (s.stage (s.staged.attachFormats s.store job formats))
  | .insertTag tag => pure (s.stage (s.staged.insertTag s.store tag))
  | .attachConfig job config place =>
    pure (s.stage (s.staged.attachConfig s.store job config place))
  | .attachProviders job providers =>
    pure (s.stage (s.staged.attachProviders s.store job providers))
  | .commit => pure s.commit
  | .dispatch job => do return (← dispatch job, s)

end Session

namespace Store

/-- Changes the store, or refuses to. -/
def change (s : Store) (step : Except Failure Store) : Except Failure Unit × Store :=
  match step with
  | .ok store => (.ok (), store)
  | .error e => (.error e, s)

/-- **How the store answers** a call of a sweep. Mail is others' business. -/
def answerSweep {m : Type → Type} [Monad m] (send : Mail → m (Except Failure Unit)) (s : Store) :
    (c : SweepCall) → m (c.Reply × Store)
  | .listRuns => pure (.ok s.listRuns, s)
  | .deleteRun run => pure (s.change (s.deleteRun run))
  | .sendMail mail => do return (← send mail, s)
  | .markNotified run now => pure (s.change (s.markNotified run now))

/-- **How the store answers** a call of the estimates. Counting is others' business. -/
def answerEstimate {m : Type → Type} [Monad m] (count : Geometry Position → m (Except Failure Nat))
    (s : Store) : (c : EstimateCall) → m (c.Reply × Store)
  | .listProviders => pure (.ok s.providers, s)
  | .recentRuns provider limit => pure (s.recentRuns provider limit, s)
  | .taskRecords run => pure (.ok (s.taskRecords run), s)
  | .setSizeEstimate provider value => pure (s.change (s.setSizeEstimate provider value))
  | .count geometry => do return (← count geometry, s)

end Store

end MapExport
