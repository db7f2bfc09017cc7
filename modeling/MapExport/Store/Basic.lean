import MapExport.Failure
import MapExport.Job.Basic
import MapExport.Provider.Basic
import MapExport.Run.Basic

/-!
# The store in memory

All that the service keeps, in one value. Users, configurations and jobs are kept once under their own
identifier; formats, providers, tags, runs and task records are kept in the order in which they came.
What belongs to a job is kept under the identifier of the job.

For trials a store can be told to fail at certain points. It then refuses the operation and changes
nothing.
-/

set_option autoImplicit false

namespace MapExport

/-- **Where a store can be told to fail.** -/
inductive TrialFault where
  | insertJob
  | attachFormats
  | insertTag
  | attachConfig
  | attachProviders
  | commit
  | deleteRun (run : Uid)
  | markNotified (run : Uid)
  | recentRuns (provider : Uid)
  deriving DecidableEq, Repr

/-- The name of a point of failure. -/
def TrialFault.name : TrialFault → String
  | .insertJob => "InsertJob"
  | .attachFormats => "AttachFormats"
  | .insertTag => "InsertTag"
  | .attachConfig => "AttachConfig"
  | .attachProviders => "AttachProviders"
  | .commit => "Commit"
  | .deleteRun u => "DeleteRun(" ++ u.text ++ ")"
  | .markNotified u => "MarkNotified(" ++ u.text ++ ")"
  | .recentRuns u => "RecentRuns(" ++ u.text ++ ")"

/-- The point of failure of a name; some concern one thing only. -/
def TrialFault.ofName? (name : String) (target : Uid) : Option TrialFault :=
  match name with
  | "InsertJob" => some .insertJob
  | "AttachFormats" => some .attachFormats
  | "InsertTag" => some .insertTag
  | "AttachConfig" => some .attachConfig
  | "AttachProviders" => some .attachProviders
  | "Commit" => some .commit
  | "DeleteRun" => some (.deleteRun target)
  | "MarkNotified" => some (.markNotified target)
  | "RecentRuns" => some (.recentRuns target)
  | _ => none

/-- **A table** with one entry for each key. -/
abbrev Table (α : Type) := List (Uid × α)

namespace Table

variable {α : Type}

/-- The entry of a key. -/
def get? (t : Table α) (key : Uid) : Option α := (t.find? (·.1 == key)).map (·.2)

/-- Sets the entry of a key. -/
def set (t : Table α) (key : Uid) (a : α) : Table α :=
  match t with
  | [] => [(key, a)]
  | (k, b) :: rest => if k = key then (key, a) :: rest else (k, b) :: set rest key a

end Table

/-- Adds to the entry of a key, which is empty as long as there is none. -/
def Table.push {α : Type} (t : Table (List α)) (key : Uid) (a : α) : Table (List α) :=
  t.set key ((t.get? key).getD [] ++ [a])

/-- **The store.** -/
structure Store where
  users : Table User
  formats : List Format
  configs : Table Config
  providers : List Provider
  jobs : Table Job
  jobFormats : Table (List String)
  jobConfigs : Table (List (Int × Uid))
  jobProviders : Table (List Uid)
  tags : List Tag
  runs : List Run
  records : List TaskRecord
  faults : List TrialFault

namespace Store

/-- Nothing is kept. -/
def empty : Store := ⟨[], [], [], [], [], [], [], [], [], [], [], []⟩

/-- The formats that exports can be made in. -/
def usualFormats : List Format :=
  [("shp", "ESRI Shapefile Format"), ("gpkg", "Geopackage"), ("kml", "KML Format"),
    ("sqlite", "SQLITE Format"), ("gpx", "GPX Format")].map fun (slug, name) => ⟨slug, name, name⟩

/-- A store with the usual formats and the one provider that is always there. -/
def reference (provider : Uid) : Store :=
  { empty with
    formats := usualFormats
    providers := [⟨provider, "OpenStreetMap Data", "osm", none⟩] }

/-- Refuses to go on where the store was told to fail. -/
def guard (s : Store) (point : TrialFault) : Except Failure Unit :=
  if point ∈ s.faults then .error (.database ("injected failure at " ++ point.name)) else .ok ()

/-- Tells the store to fail at a point. -/
def failAt (s : Store) (point : TrialFault) : Store := { s with faults := point :: s.faults }

/-- Keeps a user. -/
def addUser (s : Store) (u : User) : Store := { s with users := s.users.set u.id u }

/-- Keeps a format. -/
def addFormat (s : Store) (f : Format) : Store := { s with formats := s.formats ++ [f] }

/-- Keeps a configuration. -/
def addConfig (s : Store) (c : Config) : Store := { s with configs := s.configs.set c.uid c }

/-- Keeps a provider. -/
def addProvider (s : Store) (p : Provider) : Store := { s with providers := s.providers ++ [p] }

/-- Keeps a job and the providers it takes its data from. -/
def addJob (s : Store) (j : Job) (providers : List Uid) : Store :=
  { s with
    jobProviders := s.jobProviders.set j.uid providers
    jobs := s.jobs.set j.uid j }

/-- Keeps a run. -/
def addRun (s : Store) (r : Run) : Store := { s with runs := s.runs ++ [r] }

/-- Keeps the tasks of a run. -/
def addRecord (s : Store) (r : TaskRecord) : Store := { s with records := s.records ++ [r] }

/-- The formats of slugs, in their order; unknown ones are left out. -/
def formatsBySlugs (s : Store) (slugs : List String) : List Format :=
  slugs.filterMap fun slug => s.formats.find? (·.slug == slug)

/-- The providers of slugs, in their order; unknown ones are left out. -/
def providersBySlugs (s : Store) (slugs : List String) : List Provider :=
  slugs.filterMap fun slug => s.providers.find? (·.slug == slug)

/-- The configuration of an identifier. -/
def config (s : Store) (uid : Uid) : Except Failure Config :=
  match s.configs.get? uid with
  | some c => .ok c
  | none => .error (.notFound ("Config " ++ uid.text))

/-- The run of an identifier. -/
def run? (s : Store) (uid : Uid) : Option Run := s.runs.find? (·.uid == uid)

/-- The provider of an identifier. -/
def provider? (s : Store) (uid : Uid) : Option Provider := s.providers.find? (·.uid == uid)

/-- Configurations by place: links with their places, in the order of these. -/
def inPlaceOrder (links : List (Int × Uid)) : List (Int × Uid) :=
  links.mergeSort fun a b => decide (a.1 ≤ b.1)

/-- **A job with all that belongs to it.** -/
def job? (s : Store) (uid : Uid) : Option JobDetail :=
  (s.jobs.get? uid).map fun job =>
    { job
      formats := s.formatsBySlugs ((s.jobFormats.get? uid).getD [])
      tags := s.tags.filter (·.job == uid)
      configs := (inPlaceOrder ((s.jobConfigs.get? uid).getD [])).filterMap fun (_, c) =>
        s.configs.get? c
      providers := ((s.jobProviders.get? uid).getD []).filterMap fun p =>
        (s.provider? p).map Provider.slug }

end Store

end MapExport
