import MapExport.Geometry.Basic
import MapExport.Instant.Basic
import MapExport.Uid

/-!
# Jobs

A job is an order for an export: a name, a description and a geometry, given by its owner. To it belong
the formats to export to, the configuration files to use, the tags that select the features, and the
providers to take the data from.
-/

set_option autoImplicit false

namespace MapExport

/-- **The kinds of features** that a tag can select. -/
inductive FeatureKind where
  | point
  | line
  | polygon
  deriving DecidableEq, Repr

/-- **The kinds of configuration files.** -/
inductive ConfigKind where
  | preset
  | translation
  | transform
  deriving DecidableEq, Repr

/-- **A format** that exports can be made in. -/
structure Format where
  slug : String
  name : String
  description : String
  deriving DecidableEq, Repr

/-- **A configuration file** that was uploaded; `upload` is its path below the root of uploads. -/
structure Config where
  uid : Uid
  name : String
  kind : ConfigKind
  upload : String
  published : Bool
  createdAt : Instant
  deriving DecidableEq

/-- The kinds of features that each name selects, ordered by name. -/
abbrev TagTable := List (String × List FeatureKind)

/-- **A tag** of a job. -/
structure Tag where
  id : Uid
  job : Uid
  name : String
  kinds : List FeatureKind
  deriving DecidableEq, Repr

/-- **A job.** -/
structure Job where
  uid : Uid
  name : String
  description : String
  geometry : Geometry Position
  owner : Uid
  createdAt : Instant
  published : Bool

/-- **A job with all that belongs to it.** Of the providers it shows the slugs. -/
structure JobDetail where
  job : Job
  formats : List Format
  tags : List Tag
  configs : List Config
  providers : List String

/-- **The tags of a job:** one for each entry of the table, in its order. `ids` gives the identifier
for each place. -/
def Tag.ofTable (ids : Nat → Uid) (job : Uid) (table : TagTable) : List Tag :=
  table.mapIdx fun i (name, kinds) => ⟨ids i, job, name, kinds⟩

end MapExport
