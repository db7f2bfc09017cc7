import MapExport.Database.Transaction

/-!
# Setting up the schema

The schema is put in place once. What has been put in place is on record, with whether it was finished;
a record of something else means that the database is not ours to change.
-/

set_option autoImplicit false

namespace MapExport.Database

/-- **What is on record:** versions put in place, each with whether it was as it is now, and one that
was left unfinished. -/
structure History where
  applied : List (Int × Bool)
  unfinished : Option Int

/-- A failure to set up the schema. -/
def migrationFailure (reason : String) : Failure := .database ("migration failed: " ++ reason)

/-- What a version on record has to do with the schema. -/
def versionText (version : Int) (state : String) : String :=
  "migration " ++ toString version ++ " " ++ state

/-- The failure to know a version on record. -/
def missingVersion (version : Int) : Failure :=
  migrationFailure
    (versionText version "was previously applied but is missing in the resolved migrations")

/-- **Whether the schema has to be put in place,** or what speaks against it. -/
def History.pending (h : History) : Except Failure Bool :=
  match h.unfinished with
  | some v =>
    .error (migrationFailure
      (versionText v "is partially applied; fix and remove row from `_sqlx_migrations` table"))
  | none =>
    match h.applied.find? (·.1 != schemaVersion) with
    | some (v, _) => .error (missingVersion v)
    | none =>
      match h.applied.find? (·.1 == schemaVersion) with
      | some (v, same) =>
        if same then .ok false
        else
          .error (migrationFailure (versionText v "was previously applied but has been modified"))
      | none => .ok true

/-- The failure of a command that sets up the schema. -/
def setupFailure : Failure → Failure
  | .database reason => migrationFailure ("while executing migrations: " ++ reason)
  | e => e

/-- **Setting up the schema,** in a transaction. -/
def migrate (h : History) : FlowM Unit := do
  if ← ofExcept h.pending then
    ExceptT.adapt setupFailure do
      begin
      orRollback (write .schema [])
      commit

end MapExport.Database
