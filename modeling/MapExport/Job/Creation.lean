import MapExport.Job.Request
import MapExport.Preset
import MapExport.Provider.Basic
import MapExport.Settings.Choices
import MapExport.Slug
import MapExport.Upload
import MapExport.Workflow

/-!
# Creating a job

A job is created in three stages. First everything the request refers to is looked up and nothing is
written; then the job and all that belongs to it are written in one transaction; and when that has been
committed, and only then, the job is handed over to those who carry it out. A failure in the first stage
is reported as it is, one in the second as a job that could not be created, and one in the third as a
job that exists but was not handed over.
-/

set_option autoImplicit false

namespace MapExport

/-- **What the creation of a job asks its collaborators for:** the store, its transaction, the reader of
presets, and the queue of those who carry out jobs. -/
inductive JobCall where
  | formatsBySlugs (slugs : List String)
  | providersBySlugs (slugs : List String)
  | config (uid : Uid)
  | preset (path : String)
  | begin
  | insertJob (job : Job)
  | attachFormats (job : Uid) (formats : List Format)
  | insertTag (tag : Tag)
  | attachConfig (job : Uid) (config : Config) (place : Int)
  | attachProviders (job : Uid) (providers : List Provider)
  | commit
  | dispatch (job : Uid)

/-- What a call gives if it succeeds. -/
def JobCall.Result : JobCall → Type
  | formatsBySlugs _ => List Format
  | providersBySlugs _ => List Provider
  | config _ => Config
  | preset _ => TagTable
  | _ => Unit

/-- What a call is answered. -/
abbrev JobCall.Reply (c : JobCall) : Type := Except Failure c.Result

/-- A workflow of calls for the creation of jobs, which may fail. -/
abbrev JobFlow := ExceptT Failure (Workflow JobCall JobCall.Reply)

/-- **What a new job is stamped with:** its identifier, when it was made, and the identifiers of its
tags. -/
structure Stamp where
  uid : Uid
  createdAt : Instant
  tagIds : Nat → Uid

/-- Where uploads lie, and what becomes of a job whose preset cannot be read. -/
structure PresetRules where
  root : String
  policy : PresetPolicy

/-- **The rules for new jobs:** those for presets, and the map on which areas are measured. -/
structure JobRules extends PresetRules where
  project : Position → Float × Float

/-- Where no other map is named, areas are measured on the web map. -/
instance : Coe PresetRules JobRules := ⟨fun rules => ⟨rules, WebMap.project⟩⟩

namespace JobFlow

/-- Makes a call, and goes on only if it succeeds. -/
def ask (c : JobCall) : JobFlow c.Result := ExceptT.mk (Workflow.ask c)

/-- Has a preset read, and goes on in any case. -/
def tryPreset (path : String) : JobFlow (Except Failure TagTable) :=
  ExceptT.mk (Workflow.call (JobCall.preset path) fun r => .done (.ok r))

/-- A result that needs no call. -/
def ofExcept {α : Type} (r : Except Failure α) : JobFlow α := ExceptT.mk (pure r)

end JobFlow

namespace Job

/-- The formats that a request asks for; there has to be one that is known. -/
def resolveFormats (requested : List String) : JobFlow (List Format) := do
  let formats : List Format ← JobFlow.ask (.formatsBySlugs (Slug.normalize requested))
  if formats.isEmpty then throw (.unknownFormats requested)
  return formats

/-- The providers that a request asks for. -/
def resolveProviders (requested : List String) : JobFlow (List Provider) :=
  if requested.isEmpty then pure []
  else JobFlow.ask (.providersBySlugs (Slug.normalize requested))

/-- The configurations of identifiers, each once, after those that have been loaded. -/
def loadConfigs (loaded : List Config) : List Uid → JobFlow (List Config)
  | [] => pure loaded
  | uid :: rest => do
    if loaded.any (·.uid == uid) then loadConfigs loaded rest
    else
      let config : Config ← JobFlow.ask (.config uid)
      loadConfigs (loaded ++ [config]) rest

/-- The configurations that a request refers to, in the order preset, translation, transform. -/
def referredConfigs (r : JobRequest) : List Uid :=
  r.preset.toList ++ r.translation.toList ++ r.transform.toList

/-- What is said of a preset that cannot be used. -/
def badPreset (preset : Config) (reason : String) : Failure :=
  .badPreset ("Could not read preset '" ++ preset.name ++ "': " ++ reason)

/-- What becomes of a job whose preset cannot be used. -/
def withoutPreset (policy : PresetPolicy) (preset : Config) (reason : String) :
    Except Failure TagTable :=
  match policy with
  | .reject => .error (badPreset preset reason)
  | .defaults => .ok Preset.defaultTable

/-- **The tags of a job:** those of its preset, or the default ones if it has none. -/
def resolveTags (rules : JobRules) (preset : Option Config) : JobFlow TagTable :=
  match preset with
  | none => pure Preset.defaultTable
  | some preset => do
    match ← JobFlow.tryPreset (Upload.join rules.root preset.upload) with
    | .ok table =>
      if table.isEmpty then JobFlow.ofExcept (withoutPreset rules.policy preset "no tags found")
      else return table
    | .error e => JobFlow.ofExcept (withoutPreset rules.policy preset e.message)

/-- Writes the tags. -/
def insertTags : List Tag → JobFlow Unit
  | [] => pure ()
  | t :: ts => do
    JobFlow.ask (.insertTag t)
    insertTags ts

/-- Writes the links to the configurations, from a place on. -/
def attachConfigs (job : Uid) : Nat → List Config → JobFlow Unit
  | _, [] => pure ()
  | place, c :: cs => do
    JobFlow.ask (.attachConfig job c place)
    attachConfigs job (place + 1) cs

/-- **The transaction** that writes a job and all that belongs to it. -/
def persist (job : Job) (formats : List Format) (tags : List Tag) (configs : List Config)
    (providers : List Provider) : JobFlow Unit := do
  JobFlow.ask .begin
  JobFlow.ask (.insertJob job)
  JobFlow.ask (.attachFormats job.uid formats)
  insertTags tags
  attachConfigs job.uid 0 configs
  JobFlow.ask (.attachProviders job.uid providers)
  JobFlow.ask .commit

/-- The job that a request orders. -/
def ofRequest (stamp : Stamp) (owner : Uid) (r : JobRequest) : Job :=
  { uid := stamp.uid
    name := Text.trim r.name
    description := Text.trim r.description
    geometry := r.geometry
    owner
    createdAt := stamp.createdAt
    published := r.published }

/-- Names the cause of a failure to write a job. -/
def creationFailure (e : Failure) : Failure :=
  .creation ("Error creating export job: " ++ e.message)

/-- Names the cause of a failure to hand over a job. -/
def dispatchFailure (job : Uid) (e : Failure) : Failure := .dispatch job e.message

/-- **Creating a job.** -/
def create (rules : JobRules) (stamp : Stamp) (owner : Uid) (r : JobRequest) :
    JobFlow JobDetail := do
  JobFlow.ofExcept (r.checkOn rules.project)
  let formats ← resolveFormats r.formats
  let providers ← resolveProviders r.providers
  let configs ← loadConfigs [] (referredConfigs r)
  let job := ofRequest stamp owner r
  let table ← resolveTags rules (configs.find? (·.kind == .preset))
  let tags := Tag.ofTable stamp.tagIds job.uid table
  (persist job formats tags configs providers).adapt creationFailure
  (JobFlow.ask (.dispatch job.uid)).adapt (dispatchFailure job.uid)
  return { job, formats, tags, configs, providers := providers.map Provider.slug }

end Job

end MapExport
