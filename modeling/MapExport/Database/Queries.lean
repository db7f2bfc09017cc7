import MapExport.Database.Column
import MapExport.Job.Codec
import MapExport.Provider.Basic
import MapExport.Run.Codec
import MapExport.Text.Blank

/-!
# Queries and changes

What the service reads from the database and changes there, outside of transactions. The rows of an
answer are read one by one and all of them before anything is made of them, so the first column that
cannot be read is reported even if an earlier row holds a name that means nothing.
-/

set_option autoImplicit false

namespace MapExport.Database

/-- Commands that may fail. -/
abbrev FlowM := ExceptT Failure Flow

/-- A refusal by the database. -/
def refusal (text : String) : Failure := .database ("error returned from database: " ++ text)

/-- Gives a command to the database. -/
def execute (statement : Statement) (params : List Value) : FlowM Answer :=
  ExceptT.mk (.call ⟨statement, params⟩ fun reply =>
    .done ((reply : Except String Answer).mapError refusal))

/-- A result that needs no command. -/
def ofExcept {α : Type} (r : Except Failure α) : FlowM α := ExceptT.mk (pure r)

/-- The rows of a query, each read. -/
def query {α : Type} (statement : Statement) (params : List Value)
    (read : Row → Except Failure α) : FlowM (List α) := do
  let answer ← execute statement params
  ofExcept (answer.rows.mapM read)

/-- A change that has to concern a row, or else something is not there. -/
def change (statement : Statement) (params : List Value) (missing : String) : FlowM Unit := do
  let answer ← execute statement params
  if answer.affected = 0 then throw (.notFound missing)

/-- **Rows in the order of a request.** Rows that were not asked for come last. -/
def inRequestOrder {α : Type} (slugs : List String) (slug : α → String) (rows : List α) : List α :=
  rows.mergeSort fun a b => decide (slugs.idxOf (slug a) ≤ slugs.idxOf (slug b))

/-- A format. -/
def formatOfRow (row : Row) : Except Failure Format := do
  .ok ⟨← row.required Value.text? 0, ← row.required Value.text? 1, ← row.required Value.text? 2⟩

/-- A provider. -/
def providerOfRow (row : Row) : Except Failure Provider := do
  .ok ⟨← row.required Value.uid? 0, ← row.required Value.text? 1, ← row.required Value.text? 2,
    ← row.optional Value.real? 3⟩

/-- The columns of a configuration, its kind still a name. -/
structure ConfigRow where
  uid : Uid
  name : String
  kind : String
  upload : String
  published : Bool
  createdAt : Instant

/-- The columns of a configuration. -/
def ConfigRow.ofRow (row : Row) : Except Failure ConfigRow := do
  .ok ⟨← row.required Value.uid? 0, ← row.required Value.text? 1, ← row.required Value.text? 2,
    ← row.required Value.text? 3, ← row.required Value.bool? 4, ← row.required Value.instant? 5⟩

/-- The configuration of its columns. -/
def ConfigRow.config (r : ConfigRow) : Except Failure Config := do
  .ok ⟨r.uid, r.name, ← ConfigKind.ofName r.kind, r.upload, r.published, r.createdAt⟩

/-- The columns of a run, its status still a name. -/
structure RunRow where
  uid : Uid
  job : Uid
  owner : Uid
  status : String
  createdAt : Instant
  expiration : Instant
  notified : Option Instant
  jobName : String
  email : Option String

/-- The columns of a run. -/
def RunRow.ofRow (row : Row) : Except Failure RunRow := do
  .ok ⟨← row.required Value.uid? 0, ← row.required Value.uid? 1, ← row.required Value.uid? 2,
    ← row.required Value.text? 3, ← row.required Value.instant? 4, ← row.required Value.instant? 5,
    ← row.optional Value.instant? 6, ← row.required Value.text? 7, ← row.optional Value.text? 8⟩

/-- The run of its columns. A blank address is none. -/
def RunRow.run (r : RunRow) : Except Failure ExpiringRun := do
  .ok ⟨⟨r.uid, r.job, r.owner, ← RunStatus.ofName r.status, r.createdAt, r.expiration, r.notified⟩,
    r.jobName, r.email.filter fun e => !Text.isBlankText e⟩

/-- **The runs of the rows** of an answer. -/
def runsOfRows (rows : List Row) : Except Failure (List ExpiringRun) := do
  (← rows.mapM RunRow.ofRow).mapM RunRow.run

/-- A run with the geometry of its job. -/
def footprintOfRow (row : Row) : Except Failure Footprint := do
  .ok ⟨← row.required Value.uid? 0, ← row.geometry 1⟩

/-- A task. -/
def taskOfRow (row : Row) : Except Failure Task := do
  let uid ← row.required Value.uid? 0
  let name ← row.required Value.text? 1
  let hasResult ← row.required Value.bool? 2
  let size ← row.optional Value.real? 3
  .ok ⟨uid, name, if hasResult then some ⟨size⟩ else none⟩

/-- A record of a run without its tasks. -/
def recordOfRow (run : Uid) (row : Row) : Except Failure TaskRecord := do
  .ok ⟨← row.required Value.uid? 0, run, ← row.required Value.text? 1, ← row.required Value.text? 2,
    ← row.required Value.instant? 3, []⟩

/-- The formats of slugs. -/
def formatsBySlugs (slugs : List String) : FlowM (List Format) := do
  return inRequestOrder slugs Format.slug (← query .formatsBySlugs [.texts slugs] formatOfRow)

/-- The providers of slugs. -/
def providersBySlugs (slugs : List String) : FlowM (List Provider) := do
  return inRequestOrder slugs Provider.slug (← query .providersBySlugs [.texts slugs] providerOfRow)

/-- The configuration of an identifier: that of the first row. -/
def config (uid : Uid) : FlowM Config := do
  let answer ← execute .config [.uid uid]
  match answer.rows with
  | [] => throw (.notFound ("Config " ++ uid.text))
  | row :: _ => ofExcept (ConfigRow.ofRow row >>= ConfigRow.config)

/-- All providers. -/
def listProviders : FlowM (List Provider) := query .listProviders [] providerOfRow

/-- The newest completed runs for a provider. -/
def recentRuns (provider : Uid) (limit : Int) : FlowM (List Footprint) :=
  query .recentRuns [.uid provider, .text RunStatus.completed.name, .whole limit] footprintOfRow

/-- Adds the tasks to records. -/
def withTasks : List TaskRecord → FlowM (List TaskRecord)
  | [] => pure []
  | r :: rs => do
    let tasks ← query .tasks [.uid r.uid] taskOfRow
    return { r with tasks } :: (← withTasks rs)

/-- The task records of a run. -/
def taskRecords (run : Uid) : FlowM (List TaskRecord) := do
  withTasks (← query .taskRecords [.uid run] (recordOfRow run))

/-- Keeps the average size of a provider. -/
def setSizeEstimate (provider : Uid) (value : Float) : FlowM Unit :=
  change .setSizeEstimate [.uid provider, .real value] ("Provider " ++ provider.text)

/-- All runs with what their owners are told. -/
def listRuns : FlowM (List ExpiringRun) := do
  let answer ← execute .listRuns []
  ofExcept (runsOfRows answer.rows)

/-- Deletes a run. -/
def deleteRun (run : Uid) : FlowM Unit := change .deleteRun [.uid run] ("Run " ++ run.text)

/-- Keeps when the owner of a run was warned. -/
def markNotified (run : Uid) (now : Instant) : FlowM Unit :=
  change .markNotified [.uid run, .instant (kept now)] ("Run " ++ run.text)

end MapExport.Database
