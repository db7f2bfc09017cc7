import MapExport.Store.Basic
import MapExport.Text.Blank

/-!
# Runs and averages in the store

What the sweep of expired runs and the computation of averages read and write.
-/

set_option autoImplicit false

namespace MapExport.Store

/-- Where the owner of a run can be written to, if anywhere. -/
def emailOf (s : Store) (owner : Uid) : Option String :=
  ((s.users.get? owner).bind User.email).filter fun e => !Text.isBlankText e

/-- A run with what its owner is told. -/
def expiring (s : Store) (run : Run) : ExpiringRun :=
  ⟨run, ((s.jobs.get? run.job).map Job.name).getD "", s.emailOf run.owner⟩

/-- All runs with what their owners are told. -/
def listRuns (s : Store) : List ExpiringRun := s.runs.map s.expiring

/-- The failure to find a run. -/
def noRun (uid : Uid) : Failure := .notFound ("Run " ++ uid.text)

/-- **Deletes a run** with its task records. -/
def deleteRun (s : Store) (uid : Uid) : Except Failure Store := do
  s.guard (.deleteRun uid)
  if s.runs.any (·.uid == uid) then
    .ok { s with
      runs := s.runs.filter (·.uid != uid)
      records := s.records.filter (·.run != uid) }
  else .error (noRun uid)

/-- Changes the first item that fits. -/
def modifyFirst {α : Type} (fits : α → Bool) (change : α → α) : List α → List α
  | [] => []
  | a :: rest => if fits a then change a :: rest else a :: modifyFirst fits change rest

/-- **Keeps when the owner of a run was warned.** -/
def markNotified (s : Store) (uid : Uid) (now : Instant) : Except Failure Store := do
  s.guard (.markNotified uid)
  if s.runs.any (·.uid == uid) then
    .ok { s with runs := modifyFirst (·.uid == uid) (fun r => { r with notified := some now }) s.runs }
  else .error (noRun uid)

/-- Whether a job takes data from a provider. -/
def usesProvider (s : Store) (job provider : Uid) : Bool :=
  ((s.jobProviders.get? job).getD []).contains provider

/-- The completed runs for a provider, the newest first. -/
def completedRuns (s : Store) (provider : Uid) : List Run :=
  (s.runs.filter fun r => r.status == .completed && s.usesProvider r.job provider).mergeSort
    fun a b => decide (b.createdAt ≤ a.createdAt)

/-- **The newest completed runs for a provider** with the geometries of their jobs, at most `limit`. -/
def recentRuns (s : Store) (provider : Uid) (limit : Nat) : Except Failure (List Footprint) := do
  s.guard (.recentRuns provider)
  .ok (((s.completedRuns provider).take limit).filterMap fun r =>
    (s.jobs.get? r.job).map fun j => ⟨r.uid, j.geometry⟩)

/-- The task records of a run. -/
def taskRecords (s : Store) (run : Uid) : List TaskRecord := s.records.filter (·.run == run)

/-- **Keeps the average size** of a provider. -/
def setSizeEstimate (s : Store) (provider : Uid) (value : Float) : Except Failure Store :=
  if s.providers.any (·.uid == provider) then
    .ok { s with
      providers := modifyFirst (·.uid == provider) (fun p => { p with sizeEstimate := some value })
        s.providers }
  else .error (.notFound ("Provider " ++ provider.text))

end MapExport.Store
