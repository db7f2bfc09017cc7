import MapExport.Database.Schema
import MapExport.Instant.Basic
import MapExport.Json.Basic
import MapExport.Uid
import MapExport.Workflow

/-!
# Statements

Everything the service says to its database, and what it is told back. A statement has a fixed text and
takes parameters by place; the answer is rows of columns for a query and a number of rows for a change.
-/

set_option autoImplicit false

namespace MapExport.Database

/-- **A value** that goes to the database or comes from it. -/
inductive Value where
  | null
  | uid (u : Uid)
  | text (s : String)
  | texts (ss : List String)
  | bool (b : Bool)
  | whole (n : Int)
  | real (x : Float)
  | instant (t : Instant)
  | document (j : Json)

/-- **The statements** of the service. -/
inductive Statement where
  | formatsBySlugs
  | providersBySlugs
  | listProviders
  | config
  | recentRuns
  | taskRecords
  | tasks
  | listRuns
  | insertJob
  | insertFormat
  | insertTag
  | insertConfig
  | insertProvider
  | setSizeEstimate
  | deleteRun
  | markNotified
  | schema
  | begin
  | commit
  | rollback
  deriving DecidableEq, Repr

/-- The name of a statement, by which it is told apart in a log. -/
def Statement.name : Statement → String
  | formatsBySlugs => "formats_by_slugs"
  | providersBySlugs => "providers_by_slugs"
  | listProviders => "list_providers"
  | config => "get_config"
  | recentRuns => "recent_completed_runs"
  | taskRecords => "provider_task_records"
  | tasks => "export_task_records"
  | listRuns => "list_runs"
  | insertJob => "insert_job"
  | insertFormat => "insert_format"
  | insertTag => "insert_tag"
  | insertConfig => "insert_config"
  | insertProvider => "insert_provider"
  | setSizeEstimate => "set_size_estimate"
  | deleteRun => "delete_run"
  | markNotified => "mark_notified"
  | schema => "migration"
  | begin => "begin"
  | commit => "commit"
  | rollback => "rollback"

/-- The text of a statement. -/
def Statement.text : Statement → String
  | formatsBySlugs => "SELECT slug, name, description FROM export_formats WHERE slug = ANY($1)"
  | providersBySlugs =>
    "SELECT uid, name, slug, size_estimate_constant FROM data_providers WHERE slug = ANY($1)"
  | listProviders =>
    "SELECT uid, name, slug, size_estimate_constant FROM data_providers ORDER BY name"
  | config =>
    "SELECT uid, name, config_type, upload, published, created_at FROM export_configs WHERE uid = $1"
  | recentRuns =>
    "SELECT r.uid, j.geometry FROM export_runs r JOIN jobs j ON j.uid = r.job_uid " ++
    "JOIN job_providers jp ON jp.job_uid = j.uid WHERE jp.provider_uid = $1 AND r.status = $2 " ++
    "ORDER BY r.created_at DESC LIMIT $3"
  | taskRecords =>
    "SELECT uid, name, slug, created_at FROM provider_task_records WHERE run_uid = $1 " ++
    "ORDER BY created_at ASC"
  | tasks =>
    "SELECT uid, name, has_result, result_size FROM export_task_records " ++
    "WHERE provider_task_uid = $1 ORDER BY position ASC"
  | listRuns =>
    "SELECT r.uid, r.job_uid, r.user_id, r.status, r.created_at, r.expiration, r.notified, " ++
    "j.name, u.email FROM export_runs r JOIN jobs j ON j.uid = r.job_uid " ++
    "LEFT JOIN users u ON u.id = r.user_id ORDER BY r.expiration ASC"
  | insertJob =>
    "INSERT INTO jobs (uid, name, description, geometry, user_id, created_at, published) " ++
    "VALUES ($1, $2, $3, $4, $5, $6, $7)"
  | insertFormat => "INSERT INTO job_formats (job_uid, format_slug) VALUES ($1, $2)"
  | insertTag => "INSERT INTO tags (id, job_uid, name, geom_types) VALUES ($1, $2, $3, $4)"
  | insertConfig => "INSERT INTO job_configs (job_uid, config_uid, position) VALUES ($1, $2, $3)"
  | insertProvider => "INSERT INTO job_providers (job_uid, provider_uid) VALUES ($1, $2)"
  | setSizeEstimate => "UPDATE data_providers SET size_estimate_constant = $2 WHERE uid = $1"
  | deleteRun => "DELETE FROM export_runs WHERE uid = $1"
  | markNotified => "UPDATE export_runs SET notified = $2 WHERE uid = $1"
  | schema => Database.schema
  | begin => "BEGIN"
  | commit => "COMMIT"
  | rollback => "ROLLBACK"

/-- The text of a statement on one line, with one space where any blanks were. -/
def Statement.line (self : Statement) : String :=
  let words := (self.text.map fun c => if c == '\n' then ' ' else c).splitOn " "
  " ".intercalate (words.filter (· != ""))

/-- **A statement with its parameters.** -/
structure Command where
  statement : Statement
  params : List Value

/-- The columns of a row. -/
abbrev Row := List Value

/-- **What the database answers:** the rows it found and how many it changed. -/
structure Answer where
  rows : List Row
  affected : Nat

/-- What the database answers to any command, or the text of its refusal. -/
abbrev Reply (_ : Command) : Type := Except String Answer

/-- A workflow of commands. -/
abbrev Flow := Workflow Command Reply

end MapExport.Database
