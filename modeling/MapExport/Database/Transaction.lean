import MapExport.Database.Queries

/-!
# Transactions of the database

The commands that write a job. The database is told at once when a transaction is given up, also when it
could not be begun or committed.
-/

set_option autoImplicit false

namespace MapExport.Database

/-- Gives up a transaction; what the database says to it is of no interest. -/
def rollback : FlowM Unit := ExceptT.mk (.call ⟨.rollback, []⟩ fun _ => .done (.ok ()))

/-- Gives up the transaction if a step fails. -/
def orRollback {α : Type} (step : FlowM α) : FlowM α := do
  match ← ExceptT.lift step.run with
  | .ok a => return a
  | .error e =>
    rollback
    throw e

/-- Gives a command whose answer says nothing. -/
def write (statement : Statement) (params : List Value) : FlowM Unit := do
  let _ ← execute statement params

/-- Writes one row for each item. -/
def writeEach {α : Type} (statement : Statement) (params : α → List Value) : List α → FlowM Unit
  | [] => pure ()
  | a :: rest => do
    write statement (params a)
    writeEach statement params rest

/-- Begins a transaction. -/
def begin : FlowM Unit := orRollback (write .begin [])

/-- Writes a job. -/
def insertJob (job : Job) : FlowM Unit :=
  write .insertJob [.uid job.uid, .text job.name, .text job.description,
    .document job.geometry.print, .uid job.owner, .instant (kept job.createdAt),
    .bool job.published]

/-- Writes the formats of a job. -/
def attachFormats (job : Uid) (formats : List Format) : FlowM Unit :=
  writeEach .insertFormat (fun f => [.uid job, .text f.slug]) formats

/-- Writes a tag. -/
def insertTag (tag : Tag) : FlowM Unit :=
  write .insertTag
    [.uid tag.id, .uid tag.job, .text tag.name, .texts (tag.kinds.map FeatureKind.name)]

/-- Writes a configuration of a job. -/
def attachConfig (job : Uid) (config : Config) (place : Int) : FlowM Unit :=
  write .insertConfig [.uid job, .uid config.uid, .whole place]

/-- Writes the providers of a job. -/
def attachProviders (job : Uid) (providers : List Provider) : FlowM Unit :=
  writeEach .insertProvider (fun p => [.uid job, .uid p.uid]) providers

/-- Commits a transaction. -/
def commit : FlowM Unit := orRollback (write .commit [])

end MapExport.Database
