import MapExport.Estimate.FileSize
import MapExport.Estimate.Outliers
import MapExport.Failure
import MapExport.Workflow

/-!
# Average sizes

For each provider it is estimated how large an export gets: the average, over recent completed runs and
without outliers, of the size of the file for each square kilometre of the job, or, for the one provider
whose data is counted, for each feature. Runs that tell nothing are left out, and a provider without a
run that tells something keeps the average it has.
-/

set_option autoImplicit false

namespace MapExport

/-- **What the estimates ask their collaborators for:** the store of providers, and the counter of
features. -/
inductive EstimateCall where
  | listProviders
  | recentRuns (provider : Uid) (limit : Nat)
  | taskRecords (run : Uid)
  | setSizeEstimate (provider : Uid) (value : Float)
  | count (geometry : Geometry Position)

/-- What a call gives if it succeeds. -/
def EstimateCall.Result : EstimateCall → Type
  | listProviders => List Provider
  | recentRuns _ _ => List Footprint
  | taskRecords _ => List TaskRecord
  | setSizeEstimate _ _ => Unit
  | count _ => Nat

/-- What a call is answered. -/
abbrev EstimateCall.Reply (c : EstimateCall) : Type := Except Failure c.Result

/-- A workflow of calls for estimates, which may fail. -/
abbrev EstimateFlow := ExceptT Failure (Workflow EstimateCall EstimateCall.Reply)

/-- **The report of a computation of averages.** -/
structure EstimateReport where
  updated : List (Uid × Float)
  unchanged : List Uid
  failures : Nat

namespace Estimate

/-- Makes a call, and goes on only if it succeeds. -/
def ask (c : EstimateCall) : EstimateFlow c.Result := ExceptT.mk (Workflow.ask c)

/-- How many recent runs are looked at for each provider. -/
def sampleSize : Nat := 100

/-- The slug of the provider whose features are counted. -/
def countedSlug : String := "osm"

/-- The least size in megabytes that counts where features are counted. -/
def countedLeast : Float := 0.5

/-- The least size in megabytes that counts where areas are measured. -/
def measuredLeast : Float := 2.0

/-- How far from the median a value may lie, in standard deviations. -/
def deviations {R : Type} [Averaging R] : R := Averaging.ofNat 2

/-- The size of the file of a run. -/
def runSize (run : Uid) (provider : String) (atLeast : Float) : EstimateFlow Float := do
  let records : List TaskRecord ← ask (.taskRecords run)
  return fileSize records provider atLeast

/-- The size of the file of a run, if both the run and the provider are named. -/
def namedSize (run : Option Uid) (provider : Option String) (atLeast : Float) :
    EstimateFlow (Option Float) :=
  match run, provider with
  | some run, some provider => some <$> runSize run provider atLeast
  | _, _ => pure none

/-- Has the features of a geometry counted, and goes on in any case. -/
def tryCount (g : Geometry Position) : EstimateFlow (Except Failure Nat) :=
  ExceptT.mk (Workflow.call (EstimateCall.count g) fun r => .done (.ok r))

/-- The size for each feature, if the run tells it. -/
def ratioByCount (provider : Provider) (run : Footprint) : EstimateFlow (Option Float) := do
  match ← tryCount run.geometry with
  | .error _ => return none
  | .ok count =>
    if count = 0 then return none
    else
      let size ← runSize run.run provider.name countedLeast
      return if size > 0.0 then some (size / Float.ofNat count) else none

/-- The size for each square kilometre, if the run tells it. -/
def ratioByArea (provider : Provider) (run : Footprint) : EstimateFlow (Option Float) := do
  let area := run.geometry.mapArea * 0.000001
  let size ← runSize run.run provider.name measuredLeast
  return if size > 0.0 ∧ area > 0.0 then some (size / area) else none

/-- What a run tells about the size. -/
def ratio (provider : Provider) (run : Footprint) : EstimateFlow (Option Float) :=
  if provider.slug = countedSlug then ratioByCount provider run else ratioByArea provider run

/-- What the runs tell, in their order. -/
def ratios (provider : Provider) : List Footprint → EstimateFlow (List Float)
  | [] => pure []
  | run :: rest => do
    let r ← ratio provider run
    let rs ← ratios provider rest
    return r.toList ++ rs

/-- The average of what the runs tell, without outliers. -/
def average {R : Type} [Averaging R] (rs : List R) : Option R :=
  let kept := removeOutliers rs deviations
  if kept.isEmpty then none else some (mean kept)

/-- **The average size** for a provider, if there is one. -/
def estimate (provider : Provider) : EstimateFlow (Option Float) := do
  let runs : List Footprint ← ask (.recentRuns provider.uid sampleSize)
  if runs.isEmpty then return none
  else return average (← ratios provider runs)

/-- Keeps the average of a provider. -/
def update (provider : Provider) : EstimateFlow (Option Float) := do
  match ← estimate provider with
  | none => return none
  | some value =>
    ask (.setSizeEstimate provider.uid value)
    return some value

/-- Adds what became of a provider to a report. -/
def report (r : EstimateReport) (provider : Uid) : Except Failure (Option Float) → EstimateReport
  | .ok (some value) => { r with updated := r.updated ++ [(provider, value)] }
  | .ok none => { r with unchanged := r.unchanged ++ [provider] }
  | .error _ => { r with failures := r.failures + 1 }

/-- Goes through the providers and adds to a report. -/
def through : List Provider → EstimateReport → Workflow EstimateCall EstimateCall.Reply EstimateReport
  | [], r => pure r
  | p :: ps, r => do
    let result ← (update p).run
    through ps (report r p.uid result)

/-- **Computing all averages.** A failure with one provider leaves the others alone. -/
def aggregate : EstimateFlow EstimateReport := do
  let providers : List Provider ← ask .listProviders
  ExceptT.lift (through providers ⟨[], [], 0⟩)

end Estimate

end MapExport
