import MapExport.Provider.Basic

/-!
# The size of what a run made

The size that a run tells about a provider is that of one file: of the first record with the name of the
provider, the first task that made a file, two kinds of files excepted that hold no map data. If that
file has no size or is too small to count, the run tells nothing.
-/

set_option autoImplicit false

namespace MapExport.Estimate

/-- The tasks whose files hold no map data. -/
def ignoredTasks : List String := ["Area of Interest (.geojson)", "Project file (.zip)"]

/-- The result of the first task that counts. -/
def decidingResult? (tasks : List Task) : Option TaskResult :=
  (tasks.filter fun t => !ignoredTasks.contains t.name).findSome? Task.result

/-- A size in megabytes that is large enough, in gigabytes. -/
def gigabytes (atLeast : Float) (size : Option Float) : Float :=
  match size with
  | some s => if s > 0.0 ∧ s ≥ atLeast then s * 0.001 else 0.0
  | none => 0.0

/-- **The size of a run's file,** in gigabytes; zero if there is none that counts. -/
def fileSize (records : List TaskRecord) (provider : String) (atLeast : Float) : Float :=
  match records.find? (·.name == provider) with
  | some record => gigabytes atLeast ((decidingResult? record.tasks).bind TaskResult.size)
  | none => 0.0

end MapExport.Estimate
