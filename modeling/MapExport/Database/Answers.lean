import MapExport.Database.Transaction
import MapExport.Estimate.Aggregation
import MapExport.Expiration.Sweep
import MapExport.Job.Creation

/-!
# The database as a collaborator

How the database answers the calls of the workflows. Each call becomes commands; a call within a
transaction that fails gives the transaction up, because nothing follows it. What concerns other
collaborators is passed on.
-/

set_option autoImplicit false

namespace MapExport.Database

variable {m : Type → Type} [Monad m]

/-- **How the database answers** a call of the creation of a job. -/
def answerJob (send : (c : Command) → m (Reply c)) (preset : String → m (Except Failure TagTable))
    (dispatch : Uid → m (Except Failure Unit)) : (c : JobCall) → m c.Reply
  | .formatsBySlugs slugs => (formatsBySlugs slugs).run.run send
  | .providersBySlugs slugs => (providersBySlugs slugs).run.run send
  | .config uid => (config uid).run.run send
  | .preset path => preset path
  | .begin => begin.run.run send
  | .insertJob job => (orRollback (insertJob job)).run.run send
  | .attachFormats job formats => (orRollback (attachFormats job formats)).run.run send
  | .insertTag tag => (orRollback (insertTag tag)).run.run send
  | .attachConfig job config place => (orRollback (attachConfig job config place)).run.run send
  | .attachProviders job providers => (orRollback (attachProviders job providers)).run.run send
  | .commit => commit.run.run send
  | .dispatch job => dispatch job

/-- **How the database answers** a call of a sweep. -/
def answerSweep (send : (c : Command) → m (Reply c)) (mail : Mail → m (Except Failure Unit)) :
    (c : SweepCall) → m c.Reply
  | .listRuns => listRuns.run.run send
  | .deleteRun run => (deleteRun run).run.run send
  | .sendMail message => mail message
  | .markNotified run now => (markNotified run now).run.run send

/-- **How the database answers** a call of the estimates. -/
def answerEstimate (send : (c : Command) → m (Reply c))
    (count : Geometry Position → m (Except Failure Nat)) : (c : EstimateCall) → m c.Reply
  | .listProviders => listProviders.run.run send
  | .recentRuns provider limit => (recentRuns provider limit).run.run send
  | .taskRecords run => (taskRecords run).run.run send
  | .setSizeEstimate provider value => (setSizeEstimate provider value).run.run send
  | .count geometry => count geometry

end MapExport.Database
