import MapExport.Job.Creation
import MapExport.Proofs.Workflow.Course

/-!
# Orders

The creation of a job has two halves. The first looks everything up and ends with an *order*: the job as it
is to be kept, with the formats, tags, configurations and providers that belong to it. The second places
the order: a transaction whose calls the order determines from the first to the last, and after it the
handing over. `create_eq_resolve_bind_place` says that creating a job is the one after the other.
-/

set_option autoImplicit false

namespace MapExport

/-- **An order:** a job with all that was looked up for it. -/
structure Order where
  job : Job
  formats : List Format
  tags : List Tag
  configs : List Config
  providers : List Provider

/-- **An event** of the creation of a job. -/
abbrev JobEvent := Workflow.Event JobCall JobCall.Reply

namespace JobFlow

/-- Makes calls one after another, as long as they succeed. -/
def script : List JobCall → JobFlow Unit
  | [] => pure ()
  | c :: cs => do
    let _ ← ask c
    script cs

theorem script_append (cs ds : List JobCall) : script (cs ++ ds) = script cs >>= fun _ => script ds := by
  induction cs with
  | nil => simp [script]
  | cons c cs ih => simp [script, ih]

end JobFlow

namespace Order

/-- What the client is told of an order that was placed. -/
def detail (o : Order) : JobDetail :=
  { job := o.job
    formats := o.formats
    tags := o.tags
    configs := o.configs
    providers := o.providers.map Provider.slug }

/-- The link to a configuration at a place. -/
def linkCall (job : Uid) (place : Nat) (c : Config) : JobCall := .attachConfig job c place

/-- **What an order writes,** call by call. -/
def writes (o : Order) : List JobCall :=
  .insertJob o.job :: .attachFormats o.job.uid o.formats :: (o.tags.map .insertTag ++
    (o.configs.mapIdx (linkCall o.job.uid) ++ [.attachProviders o.job.uid o.providers]))

/-- **The transaction** of an order. -/
def transaction (o : Order) : List JobCall := .begin :: (o.writes ++ [.commit])

/-- **Placing an order:** its transaction, and then the handing over. -/
def place (o : Order) : JobFlow JobDetail := do
  (JobFlow.script o.transaction).adapt Job.creationFailure
  (JobFlow.ask (.dispatch o.job.uid)).adapt (Job.dispatchFailure o.job.uid)
  return o.detail

end Order

namespace Job

theorem insertTags_eq_script (tags : List Tag) :
    insertTags tags = JobFlow.script (tags.map .insertTag) := by
  induction tags with
  | nil => rfl
  | cons t ts ih =>
    rw [insertTags, ih]
    rfl

/-- The places count on from the first one. -/
theorem attachConfigs_eq_script (job : Uid) (first : Nat) (configs : List Config) :
    attachConfigs job first configs =
      JobFlow.script (configs.mapIdx fun i c => Order.linkCall job (first + i) c) := by
  induction configs generalizing first with
  | nil => rfl
  | cons c cs ih =>
    have hplaces : (cs.mapIdx fun i c => Order.linkCall job (first + 1 + i) c) =
        cs.mapIdx fun i c => Order.linkCall job (first + (i + 1)) c := by
      simp only [Nat.add_assoc, Nat.add_comm 1]
    rw [attachConfigs, ih, hplaces, List.mapIdx_cons]
    rfl

/-- What `persist` asks for is the transaction of the order. -/
theorem persist_eq_script (o : Order) :
    persist o.job o.formats o.tags o.configs o.providers = JobFlow.script o.transaction := by
  have hlinks : attachConfigs o.job.uid 0 o.configs =
      JobFlow.script (o.configs.mapIdx (Order.linkCall o.job.uid)) := by
    simpa only [Nat.zero_add] using attachConfigs_eq_script o.job.uid 0 o.configs
  have hcalls : o.transaction = .begin :: .insertJob o.job :: .attachFormats o.job.uid o.formats ::
      (o.tags.map .insertTag ++ (o.configs.mapIdx (Order.linkCall o.job.uid) ++
        [.attachProviders o.job.uid o.providers, .commit])) := by
    simp [Order.transaction, Order.writes]
  have hcommit : JobFlow.script [.commit] = JobFlow.ask .commit := bind_pure_unit
  rw [hcalls, persist, insertTags_eq_script, hlinks, ← hcommit]
  simp only [JobFlow.script, JobFlow.script_append]
  rfl

/-- **What was found** for a request. -/
structure Found where
  formats : List Format
  providers : List Provider
  configs : List Config

/-- The order that a request comes to, with what was found for it and the table of its tags. -/
def Found.order (found : Found) (stamp : Stamp) (owner : Uid) (r : JobRequest) (table : TagTable) :
    Order :=
  { job := ofRequest stamp owner r
    formats := found.formats
    tags := Tag.ofTable stamp.tagIds stamp.uid table
    configs := found.configs
    providers := found.providers }

/-- Looking up what a request names, if it passes its check. -/
def gather (project : Position → Float × Float) (r : JobRequest) : JobFlow Found := do
  JobFlow.ofExcept (r.checkOn project)
  let formats ← resolveFormats r.formats
  let providers ← resolveProviders r.providers
  let configs ← loadConfigs [] (referredConfigs r)
  return { formats, providers, configs }

/-- **Resolving a request:** looking up what it names, and then the tags. -/
def resolve (rules : JobRules) (stamp : Stamp) (owner : Uid) (r : JobRequest) :
    JobFlow Order := do
  let found ← gather rules.project r
  let table ← resolveTags rules (found.configs.find? (·.kind == .preset))
  return found.order stamp owner r table

/-- **Creating a job is resolving the request and placing the order.** -/
theorem create_eq_resolve_bind_place (rules : JobRules) (stamp : Stamp) (owner : Uid)
    (r : JobRequest) :
    create rules stamp owner r = resolve rules stamp owner r >>= Order.place := by
  have hpersist (job : Job) (formats : List Format) (tags : List Tag) (configs : List Config)
      (providers : List Provider) : persist job formats tags configs providers =
        JobFlow.script (Order.transaction ⟨job, formats, tags, configs, providers⟩) :=
    persist_eq_script ⟨job, formats, tags, configs, providers⟩
  simp only [create, resolve, gather, Found.order, Order.place, Order.detail, hpersist, bind_assoc,
    pure_bind]
  rfl

/-- The table of tags that the answer of the reader of presets comes to. -/
def tableOf (rules : JobRules) (preset : Config) :
    Except Failure TagTable → Except Failure TagTable
  | .ok table =>
    if table.isEmpty then withoutPreset rules.policy preset "no tags found" else .ok table
  | .error e => withoutPreset rules.policy preset e.message

/-- A preset is read once. -/
theorem resolveTags_some (rules : JobRules) (preset : Config) :
    resolveTags rules (some preset) =
      JobFlow.tryPreset (Upload.join rules.root preset.upload) >>= fun reply =>
        JobFlow.ofExcept (tableOf rules preset reply) := by
  simp only [resolveTags]
  congr 1
  funext reply
  cases reply with
  | ok table =>
    simp only [tableOf]
    split <;> rfl
  | error e => rfl

end Job

/-! ## A request for trials -/

/-- Rules for trials. Positions are measured as they stand, in degrees. -/
def JobRules.trial (policy : PresetPolicy) : JobRules := ⟨⟨"uploads", policy⟩, fun p => (p.lon, p.lat)⟩

/-- A stamp for trials, with tags numbered from zero. -/
def Stamp.trial (uid : Uid) : Stamp := ⟨uid, .epoch, fun i => ⟨BitVec.ofNat 128 i⟩⟩

/-- A request for trials. It names a format twice and one that is unknown, a provider, and the same
configuration as its preset and as its transform. -/
def JobRequest.trial : JobRequest where
  name := "Harbour"
  description := "The harbour and its piers"
  geometry := .ofBox 8.0 53.0 8.25 53.25
  formats := ["SHP", "shp", "tiff"]
  preset := some ⟨7⟩
  translation := some ⟨8⟩
  transform := some ⟨7⟩
  providers := ["osm"]
  published := false

/-- It passes its check. -/
theorem JobRequest.checkOn_trial (policy : PresetPolicy) :
    JobRequest.trial.checkOn (JobRules.trial policy).project = .ok () := by
  have hnone : (JobRequest.trial.complaints fun p => (p.lon, p.lat)).isEmpty = true := by decide +kernel
  exact if_pos hnone

/-- A configuration for trials. -/
def Config.trial (uid : Uid) (kind : ConfigKind) : Config :=
  ⟨uid, "harbours", kind, "presets/harbours.xml", true, .epoch⟩

end MapExport
