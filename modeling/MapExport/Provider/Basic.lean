import MapExport.Geometry.Basic
import MapExport.Instant.Basic
import MapExport.Uid

/-!
# Providers

A provider is a source of map data. For each it is kept how large its exports are on average, and the
averages are computed from the tasks of earlier runs: a run has a record for each provider, with the
tasks that were done and the files that they made.
-/

set_option autoImplicit false

namespace MapExport

/-- **A provider** of map data. The size is in gigabytes for each feature or square kilometre. -/
structure Provider where
  uid : Uid
  name : String
  slug : String
  sizeEstimate : Option Float

/-- **The file that a task made,** its size in megabytes. -/
structure TaskResult where
  size : Option Float

/-- **A task** of a run. Without a result it made no file. -/
structure Task where
  uid : Uid
  name : String
  result : Option TaskResult

/-- **The tasks of a run for one provider.** -/
structure TaskRecord where
  uid : Uid
  run : Uid
  name : String
  slug : String
  createdAt : Instant
  tasks : List Task

/-- **A completed run with the geometry of its job.** -/
structure Footprint where
  run : Uid
  geometry : Geometry Position

end MapExport
