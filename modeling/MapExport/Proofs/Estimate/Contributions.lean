import MapExport.Proofs.Estimate.Guards

/-!
# Which runs matter for an estimate

An estimate looks at runs one by one, and what it comes to depends on the ones that contribute and on nothing else. A
run contributes if its file has a size and there is something to divide it by: where features are counted, a number of
them other than zero, and else an area. All other runs might as well not be there.

What is asked of the collaborators about a run, and what they answer, is kept together as a *sample*, so that the
counter need not say the same of a geometry each time. An estimate whose runs and records can be read is one of samples
(`exists_samples`), and what it comes to can be told from these.
-/

set_option autoImplicit false

namespace MapExport.Estimate

open Workflow (CallsOnly Trace callsOnly_call callsOnly_pure trace_bind_iff trace_pure_iff)

/-- **An event** of the estimates. -/
abbrev Event := Workflow.Event EstimateCall EstimateCall.Reply

/-- Runs and records that are asked for can be read. -/
def Event.Readable : Event → Prop
  | ⟨.recentRuns _ _, reply⟩ => ∃ runs, reply = .ok runs
  | ⟨.taskRecords _, reply⟩ => ∃ records, reply = .ok records
  | _ => True

/-- **A sample:** a run, what the counter says about its geometry, and the records of its tasks. -/
structure Sample where
  run : Footprint
  count : Except Failure Nat
  records : List TaskRecord

namespace Sample

/-- The area of the job of a sample, in square kilometres. -/
def area (s : Sample) : Float := s.run.geometry.mapArea * 0.000001

/-- **A sample contributes** if its file has a size and there is something to divide it by. -/
inductive Contributes (provider : Provider) (s : Sample) : Prop where
  | counted (n : Nat) : provider.slug = countedSlug → s.count = .ok n → n ≠ 0 →
    fileSize s.records provider.name countedLeast > 0.0 → Contributes provider s
  | measured : provider.slug ≠ countedSlug → fileSize s.records provider.name measuredLeast > 0.0 → s.area > 0.0 →
    Contributes provider s

/-- What a sample tells where features are counted. -/
def byCount? (name : String) (count : Except Failure Nat) (records : List TaskRecord) : Option Float :=
  match count with
  | .error _ => none
  | .ok n =>
    let size := fileSize records name countedLeast
    if n = 0 then none else if size > 0.0 then some (size / Float.ofNat n) else none

/-- What a sample tells where areas are measured. -/
def byArea? (name : String) (s : Sample) : Option Float :=
  let size := fileSize s.records name measuredLeast
  if size > 0.0 ∧ s.area > 0.0 then some (size / s.area) else none

/-- **What a sample tells,** if anything. -/
def ratio? (provider : Provider) (s : Sample) : Option Float :=
  if provider.slug = countedSlug then byCount? provider.name s.count s.records else s.byArea? provider.name

/-- What is asked about a sample, and answered. Where the features are counted, the records are only asked for if there
are any. -/
def log (provider : Provider) (s : Sample) : List Event :=
  let records : Event := ⟨.taskRecords s.run.run, .ok s.records⟩
  if provider.slug = countedSlug then
    ⟨.count s.run.geometry, s.count⟩ ::
      match s.count with
      | .error _ => []
      | .ok n => if n = 0 then [] else [records]
  else [records]

end Sample

/-- All that is asked for an estimate, and answered. -/
def sampledLog (provider : Provider) (samples : List Sample) : List Event :=
  ⟨.recentRuns provider.uid sampleSize, .ok (samples.map Sample.run)⟩ :: samples.flatMap (Sample.log provider)

/-- **What an estimate comes to:** the average of what the samples tell. -/
def sampledAverage (provider : Provider) (samples : List Sample) : Option Float :=
  average (samples.filterMap (Sample.ratio? provider))

/-- **Thinned out:** any of the samples that do not contribute are taken away. -/
inductive Thinned (provider : Provider) : List Sample → List Sample → Prop where
  | nil : Thinned provider [] []
  | kept (s : Sample) {samples rest : List Sample} : Thinned provider samples rest →
    Thinned provider (s :: samples) (s :: rest)
  | taken {s : Sample} {samples rest : List Sample} : ¬ s.Contributes provider → Thinned provider samples rest →
    Thinned provider (s :: samples) rest

/-! ## What samples tell -/

namespace Sample

variable {provider : Provider} {s : Sample}

/-- **A sample that does not contribute** tells nothing. -/
theorem ratio?_eq_none_iff : s.ratio? provider = none ↔ ¬ s.Contributes provider := by
  have htells : s.Contributes provider ↔ (s.ratio? provider).isSome = true := by
    constructor
    · rintro (⟨n, hslug, hcount, hn, hsize⟩ | ⟨hslug, hsize, harea⟩)
      · rw [ratio?, if_pos hslug, hcount]
        unfold byCount?
        dsimp only
        rw [if_neg hn, if_pos hsize]
        rfl
      · rw [ratio?, if_neg hslug, byArea?, if_pos ⟨hsize, harea⟩]
        rfl
    · intro h
      rw [ratio?] at h
      split at h
      · next hslug =>
        unfold byCount? at h
        split at h
        · cases h
        · next n hcount =>
          by_cases hn : n = 0
          · rw [if_pos hn] at h
            cases h
          · by_cases hsize : fileSize s.records provider.name countedLeast > 0.0
            · exact .counted n hslug hcount hn hsize
            · rw [if_neg hn, if_neg hsize] at h
              cases h
      · next hslug =>
        rw [byArea?] at h
        split at h
        · next hboth => exact .measured hslug hboth.1 hboth.2
        · cases h
  rw [htells, Bool.not_eq_true, Option.isSome_eq_false_iff, Option.isNone_iff_eq_none]

end Sample

variable {provider : Provider} {samples rest : List Sample}

theorem Thinned.filterMap_eq (h : Thinned provider samples rest) :
    rest.filterMap (Sample.ratio? provider) = samples.filterMap (Sample.ratio? provider) := by
  induction h with
  | nil => rfl
  | kept s _ ih => rw [List.filterMap_cons, List.filterMap_cons, ih]
  | taken hnone _ ih => rw [List.filterMap_cons, Sample.ratio?_eq_none_iff.mpr hnone, ih]

/-! ## Traces -/

theorem trace_ask_iff {c : EstimateCall} {log : List Event} {result : Except Failure c.Result} :
    Trace (ask c) log result ↔ log = [⟨c, result⟩] := by
  have hcall : Trace (ask c) log result ↔ ∃ reply : c.Reply, log = [⟨c, reply⟩] ∧ result = reply :=
    Workflow.trace_call_iff
  rw [hcall, exists_eq_right']

theorem trace_tryCount_iff {g : Geometry Position} {log : List Event} {result : Except Failure (Except Failure Nat)} :
    Trace (tryCount g) log result ↔ ∃ reply, log = [⟨.count g, reply⟩] ∧ result = .ok reply :=
  Workflow.trace_call_iff

/-- What is asked for and answered about the size of a file. -/
theorem trace_runSize_iff {run : Uid} {name : String} {atLeast : Float} {log : List Event}
    {result : Except Failure Float} :
    Trace (runSize run name atLeast) log result ↔
      ∃ reply, log = [⟨.taskRecords run, reply⟩] ∧ result = reply.map (fileSize · name atLeast) := by
  constructor
  · intro h
    rcases trace_bind_iff.mp h with ⟨e, rfl, hask⟩ | ⟨first, second, records, rfl, hask, hrest⟩
    · exact ⟨.error e, trace_ask_iff.mp hask, rfl⟩
    · obtain ⟨rfl, rfl⟩ := trace_pure_iff.mp hrest
      exact ⟨.ok records, (List.append_nil _).trans (trace_ask_iff.mp hask), rfl⟩
  · rintro ⟨reply, rfl, rfl⟩
    apply trace_bind_iff.mpr
    cases reply with
    | error e => exact .inl ⟨e, rfl, trace_ask_iff.mpr rfl⟩
    | ok records => exact .inr ⟨_, [], records, rfl, trace_ask_iff.mpr rfl, trace_pure_iff.mpr ⟨rfl, rfl⟩⟩

/-- What is asked for and answered where the size of a file is all that is missing. -/
theorem trace_sized_iff {α : Type} {f : Float → α} {run : Uid} {name : String} {atLeast : Float} {log : List Event}
    {result : Except Failure α} :
    Trace (runSize run name atLeast >>= fun size => pure (f size)) log result ↔
      ∃ reply, log = [⟨.taskRecords run, reply⟩] ∧
        result = reply.map fun records => f (fileSize records name atLeast) := by
  rw [trace_bind_iff]
  constructor
  · rintro (⟨e, rfl, hsize⟩ | ⟨first, second, size, rfl, hsize, hrest⟩)
    · obtain ⟨reply, rfl, hreply⟩ := trace_runSize_iff.mp hsize
      cases reply <;> cases hreply
      exact ⟨_, rfl, rfl⟩
    · obtain ⟨rfl, rfl⟩ := trace_pure_iff.mp hrest
      obtain ⟨reply, rfl, hreply⟩ := trace_runSize_iff.mp hsize
      cases reply <;> cases hreply
      exact ⟨_, rfl, rfl⟩
  · rintro ⟨reply, rfl, rfl⟩
    cases reply with
    | error e => exact .inl ⟨e, rfl, trace_runSize_iff.mpr ⟨.error e, rfl, rfl⟩⟩
    | ok records =>
      exact .inr ⟨_, [], _, rfl, trace_runSize_iff.mpr ⟨.ok records, rfl, rfl⟩, trace_pure_iff.mpr ⟨rfl, rfl⟩⟩

/-- **A run is dealt with** as its sample says. -/
theorem trace_ratio_log (provider : Provider) (s : Sample) :
    Trace (ratio provider s.run) (s.log provider) (.ok (s.ratio? provider)) := by
  rw [ratio, Sample.log, Sample.ratio?]
  by_cases hslug : provider.slug = countedSlug
  · rw [if_pos hslug, if_pos hslug, if_pos hslug]
    apply trace_bind_iff.mpr
    refine .inr ⟨[⟨.count s.run.geometry, s.count⟩], _, s.count, rfl, trace_tryCount_iff.mpr ⟨_, rfl, rfl⟩, ?_⟩
    cases s.count with
    | error e => exact trace_pure_iff.mpr ⟨rfl, rfl⟩
    | ok n =>
      by_cases hn : n = 0
      · simp only [Sample.byCount?, if_pos hn]
        exact trace_pure_iff.mpr ⟨rfl, rfl⟩
      · simp only [Sample.byCount?, if_neg hn]
        exact trace_sized_iff.mpr ⟨.ok s.records, rfl, rfl⟩
  · rw [if_neg hslug, if_neg hslug, if_neg hslug]
    exact trace_sized_iff.mpr ⟨.ok s.records, rfl, rfl⟩

/-- **Of a run that is dealt with** there is a sample. -/
theorem exists_sample {run : Footprint} {log : List Event} {result : Except Failure (Option Float)}
    (h : Trace (ratio provider run) log result) (hreadable : ∀ e ∈ log, e.Readable) :
    ∃ s : Sample, s.run = run ∧ log = s.log provider ∧ result = .ok (s.ratio? provider) := by
  rw [ratio] at h
  by_cases hslug : provider.slug = countedSlug
  · simp only [Sample.log, Sample.ratio?, if_pos hslug]
    rw [if_pos hslug] at h
    rcases trace_bind_iff.mp h with ⟨e, rfl, hcount⟩ | ⟨first, second, count, rfl, hcount, hrest⟩
    · obtain ⟨reply, -, hreply⟩ := trace_tryCount_iff.mp hcount
      cases hreply
    · obtain ⟨reply, rfl, hreply⟩ := trace_tryCount_iff.mp hcount
      cases hreply
      -- The records are asked for only after a count other than zero; before that the sample may have any.
      cases count with
      | error e =>
        obtain ⟨rfl, rfl⟩ := trace_pure_iff.mp hrest
        exact ⟨⟨run, .error e, []⟩, rfl, rfl, rfl⟩
      | ok n =>
        by_cases hn : n = 0
        · simp only [if_pos hn] at hrest
          obtain ⟨rfl, rfl⟩ := trace_pure_iff.mp hrest
          refine ⟨⟨run, .ok n, []⟩, rfl, ?_, ?_⟩
          · simp only [if_pos hn]
            rfl
          · simp only [Sample.byCount?, if_pos hn]
        · simp only [if_neg hn] at hrest
          obtain ⟨reply, rfl, rfl⟩ := trace_sized_iff.mp hrest
          obtain ⟨records, rfl⟩ := hreadable _ (List.mem_append_right _ (List.mem_singleton_self _))
          refine ⟨⟨run, .ok n, records⟩, rfl, ?_, ?_⟩
          · simp only [if_neg hn]
            rfl
          · simp only [Sample.byCount?, if_neg hn]
            rfl
  · simp only [Sample.log, Sample.ratio?, if_neg hslug]
    rw [if_neg hslug] at h
    obtain ⟨reply, rfl, rfl⟩ := trace_sized_iff.mp h
    obtain ⟨records, rfl⟩ := hreadable _ (List.mem_singleton_self _)
    -- Nobody is asked to count, so the sample may say what it likes about that.
    exact ⟨⟨run, .ok 0, records⟩, rfl, rfl, rfl⟩

/-- **Runs are dealt with** as their samples say. -/
theorem trace_ratios_log (provider : Provider) (samples : List Sample) :
    Trace (ratios provider (samples.map Sample.run)) (samples.flatMap (Sample.log provider))
      (.ok (samples.filterMap (Sample.ratio? provider))) := by
  induction samples with
  | nil => exact trace_pure_iff.mpr ⟨rfl, rfl⟩
  | cons s samples ih =>
    rw [List.map_cons, List.flatMap_cons]
    apply trace_bind_iff.mpr
    refine .inr ⟨_, _, _, rfl, trace_ratio_log provider s, ?_⟩
    apply trace_bind_iff.mpr
    refine .inr ⟨_, [], _, (List.append_nil _).symm, ih, trace_pure_iff.mpr ⟨rfl, ?_⟩⟩
    rw [List.filterMap_cons]
    cases s.ratio? provider <;> rfl

/-- **Of runs that are dealt with** there are samples. -/
theorem exists_samples_ratios {runs : List Footprint} {log : List Event} {result : Except Failure (List Float)}
    (h : Trace (ratios provider runs) log result) (hreadable : ∀ e ∈ log, e.Readable) :
    ∃ samples : List Sample, samples.map Sample.run = runs ∧ log = samples.flatMap (Sample.log provider) ∧
      result = .ok (samples.filterMap (Sample.ratio? provider)) := by
  induction runs generalizing log result with
  | nil =>
    obtain ⟨rfl, rfl⟩ := trace_pure_iff.mp h
    exact ⟨[], rfl, rfl, rfl⟩
  | cons run runs ih =>
    rcases trace_bind_iff.mp h with ⟨e, rfl, hratio⟩ | ⟨first, more, r, rfl, hratio, hrest⟩
    · obtain ⟨s, -, -, hresult⟩ := exists_sample hratio hreadable
      cases hresult
    · obtain ⟨s, rfl, rfl, hr⟩ := exists_sample hratio fun e he => hreadable e (List.mem_append_left _ he)
      have hmore : ∀ e ∈ more, Event.Readable e := fun e he => hreadable e (List.mem_append_right _ he)
      rcases trace_bind_iff.mp hrest with ⟨e, rfl, hratios⟩ | ⟨second, last, rs, rfl, hratios, hpure⟩
      · obtain ⟨samples, -, -, hresult⟩ := ih hratios hmore
        cases hresult
      · obtain ⟨rfl, rfl⟩ := trace_pure_iff.mp hpure
        rw [List.append_nil] at hmore ⊢
        obtain ⟨samples, rfl, rfl, hrs⟩ := ih hratios hmore
        refine ⟨s :: samples, rfl, rfl, ?_⟩
        rw [Except.ok.inj hr, Except.ok.inj hrs, List.filterMap_cons]
        cases s.ratio? provider <;> rfl

/-- **What an estimate comes to** is told by the samples. -/
theorem trace_estimate_log (provider : Provider) (samples : List Sample) :
    Trace (estimate provider) (sampledLog provider samples) (.ok (sampledAverage provider samples)) := by
  apply trace_bind_iff.mpr
  refine .inr ⟨[⟨.recentRuns provider.uid sampleSize, .ok (samples.map Sample.run)⟩], _, samples.map Sample.run, rfl,
    trace_ask_iff.mpr rfl, ?_⟩
  -- Without a run nothing else is asked for, and the average of nothing is none as well.
  cases samples with
  | nil => exact trace_pure_iff.mpr ⟨rfl, rfl⟩
  | cons s samples =>
    apply trace_bind_iff.mpr
    exact .inr ⟨_, [], _, (List.append_nil _).symm, trace_ratios_log provider (s :: samples),
      trace_pure_iff.mpr ⟨rfl, rfl⟩⟩

/-- **Every estimate** whose runs and records can be read is one of samples. -/
theorem exists_samples {log : List Event} {result : Except Failure (Option Float)}
    (h : Trace (estimate provider) log result) (hreadable : ∀ e ∈ log, e.Readable) :
    ∃ samples, log = sampledLog provider samples ∧ result = .ok (sampledAverage provider samples) := by
  rcases trace_bind_iff.mp h with ⟨e, rfl, hask⟩ | ⟨first, second, runs, rfl, hask, hrest⟩
  · obtain rfl := trace_ask_iff.mp hask
    obtain ⟨runs, hruns⟩ := hreadable _ (List.mem_singleton_self _)
    cases hruns
  · obtain rfl := trace_ask_iff.mp hask
    have hsecond : ∀ e ∈ second, Event.Readable e := fun e he => hreadable e (List.mem_append_right _ he)
    cases runs with
    | nil =>
      obtain ⟨rfl, rfl⟩ := trace_pure_iff.mp hrest
      exact ⟨[], rfl, rfl⟩
    | cons run runs =>
      rcases trace_bind_iff.mp hrest with ⟨e, rfl, hratios⟩ | ⟨third, last, rs, rfl, hratios, hpure⟩
      · obtain ⟨samples, -, -, hresult⟩ := exists_samples_ratios hratios hsecond
        cases hresult
      · obtain ⟨rfl, rfl⟩ := trace_pure_iff.mp hpure
        rw [List.append_nil] at hsecond ⊢
        obtain ⟨samples, hruns, rfl, hrs⟩ := exists_samples_ratios hratios hsecond
        cases hrs
        refine ⟨samples, ?_, rfl⟩
        rw [sampledLog, hruns]
        rfl

/-- So the answers that a sample tells of determine the estimate. -/
theorem trace_sampledLog_iff {result : Except Failure (Option Float)} :
    Trace (estimate provider) (sampledLog provider samples) result ↔
      result = .ok (sampledAverage provider samples) := by
  have hestimate := trace_estimate_log provider samples
  constructor
  · intro h
    exact Workflow.Course.done_unique h hestimate
  · rintro rfl
    exact hestimate

/-! ## What an estimate does not ask for -/

/-- **Counting nothing:** no features are asked to be counted, whatever the answers are. -/
abbrev CountsNothing {α : Type} (x : EstimateFlow α) : Prop := CallsOnly (fun c => ∀ g, c ≠ .count g) x

theorem countsNothing_ask {c : EstimateCall} (hc : ∀ g, c ≠ .count g) : CountsNothing (ask c) := by
  have hcall : CountsNothing (ExceptT.mk (.call c fun reply => .done reply)) := callsOnly_call hc
  exact hcall

/-- Where areas are measured, nothing is counted. -/
theorem countsNothing_ratios (hslug : provider.slug ≠ countedSlug) (runs : List Footprint) :
    CountsNothing (ratios provider runs) := by
  induction runs with
  | nil => exact callsOnly_pure _ []
  | cons run runs ih =>
    have hsize : CountsNothing (runSize run.run provider.name measuredLeast) :=
      (countsNothing_ask (c := .taskRecords run.run) fun _ => nofun).bind fun _ => callsOnly_pure _ _
    have hratio : CountsNothing (ratio provider run) := by
      rw [ratio, if_neg hslug]
      exact hsize.bind fun _ => callsOnly_pure _ _
    exact hratio.bind fun _ => ih.bind fun _ => callsOnly_pure _ _

theorem countsNothing_estimate (hslug : provider.slug ≠ countedSlug) : CountsNothing (estimate provider) := by
  refine (countsNothing_ask (c := .recentRuns provider.uid sampleSize) fun _ => nofun).bind fun runs => ?_
  split
  · exact callsOnly_pure _ none
  · exact (countsNothing_ratios hslug runs).bind fun _ => callsOnly_pure _ _

/-- Where features are counted, samples with the same counts and records tell the same, wherever their jobs are. -/
theorem filterMap_ratio?_of_counted (hslug : provider.slug = countedSlug) {samples samples' : List Sample}
    (h : List.Forall₂ (fun s s' : Sample => s.count = s'.count ∧ s.records = s'.records) samples samples') :
    samples.filterMap (Sample.ratio? provider) = samples'.filterMap (Sample.ratio? provider) := by
  induction h with
  | nil => rfl
  | cons hsame _ ih =>
    rw [List.filterMap_cons, List.filterMap_cons, ih, Sample.ratio?, Sample.ratio?, if_pos hslug, if_pos hslug, hsame.1,
      hsame.2]

/-! ## What matters -/

/-- **Only contributions matter.** An estimate whose runs and records can be read is told by samples, and it comes to
the average of what these tell. To take away any samples that do not contribute changes nothing, and where none
contributes there is no average. Nothing is counted where areas are measured, and where features are counted nothing
depends on the places of the jobs. And if every division by zero and every look-up out of range were refused, nothing
would ever be, whatever the answers are. -/
theorem only_contributions_matter (provider : Provider) :
    (∀ samples result, Trace (estimate provider) (sampledLog provider samples) result ↔
      result = .ok (sampledAverage provider samples)) ∧
    (∀ log result, Trace (estimate provider) log result → (∀ e ∈ log, Event.Readable e) →
      ∃ samples, log = sampledLog provider samples) ∧
    (∀ samples rest, Thinned provider samples rest → ∀ result,
      Trace (estimate provider) (sampledLog provider rest) result ↔
        Trace (estimate provider) (sampledLog provider samples) result) ∧
    (∀ samples, (∀ s ∈ samples, ¬ s.Contributes provider) → ∀ result,
      Trace (estimate provider) (sampledLog provider samples) result ↔ result = .ok none) ∧
    (provider.slug ≠ countedSlug → ∀ log result, Trace (estimate provider) log result →
      ∀ e ∈ log, ∀ g, e.call ≠ .count g) ∧
    (provider.slug = countedSlug → ∀ samples samples',
      List.Forall₂ (fun s s' : Sample => s.count = s'.count ∧ s.records = s'.records) samples samples' → ∀ result,
        Trace (estimate provider) (sampledLog provider samples) result ↔
          Trace (estimate provider) (sampledLog provider samples') result) ∧
    (Checked.estimate provider).run = some <$> estimate provider ∧
    ∀ xs deviations, Checked.removeOutliers xs deviations = some (removeOutliers xs deviations) := by
  refine ⟨fun _ _ => trace_sampledLog_iff, ?_, ?_, ?_, countsNothing_estimate, ?_, Checked.estimate_eq provider,
    Checked.removeOutliers_eq⟩
  · intro log result h hreadable
    obtain ⟨samples, hlog, -⟩ := exists_samples h hreadable
    exact ⟨samples, hlog⟩
  · intro samples rest hthinned result
    rw [trace_sampledLog_iff, trace_sampledLog_iff, sampledAverage, sampledAverage, hthinned.filterMap_eq]
  · intro samples hnone result
    have hsilent : samples.filterMap (Sample.ratio? provider) = [] :=
      List.filterMap_eq_nil_iff.mpr fun s hs => Sample.ratio?_eq_none_iff.mpr (hnone s hs)
    rw [trace_sampledLog_iff, sampledAverage, hsilent]
    rfl
  · intro hslug samples samples' hsame result
    rw [trace_sampledLog_iff, trace_sampledLog_iff, sampledAverage, sampledAverage,
      filterMap_ratio?_of_counted hslug hsame]

/-- A run whose geometry cannot be counted and one without a feature might as well not be there. Without the third one
there is no average. -/
theorem trial_only_contributions_matter :
    let osm : Provider := ⟨⟨1⟩, "Roads", "osm", none⟩
    let run : Footprint := ⟨⟨2⟩, .ofBox 8.0 53.0 8.25 53.25⟩
    let records : List TaskRecord := [⟨⟨3⟩, ⟨2⟩, "Roads", "osm", .epoch, [⟨⟨4⟩, "KML", some ⟨some 300.0⟩⟩]⟩]
    let uncounted : Sample := ⟨run, .error (.external "down"), records⟩
    let deserted : Sample := ⟨run, .ok 0, records⟩
    let telling : Sample := ⟨run, .ok 4, records⟩
    Thinned osm [uncounted, telling, deserted] [telling] ∧ telling.Contributes osm ∧
      (∀ result, Trace (estimate osm) (sampledLog osm [telling]) result ↔
        Trace (estimate osm) (sampledLog osm [uncounted, telling, deserted]) result) ∧
      ∀ result, Trace (estimate osm) (sampledLog osm [uncounted, deserted]) result ↔ result = .ok none := by
  intro osm run records uncounted deserted telling
  obtain ⟨-, -, hthin, hnone, -⟩ := only_contributions_matter osm
  have huncounted : ¬ uncounted.Contributes osm := by
    rintro (⟨n, -, hcount, -⟩ | ⟨hslug, -⟩)
    · cases hcount
    · exact hslug rfl
  have hdeserted : ¬ deserted.Contributes osm := by
    rintro (⟨n, -, hcount, hn, -⟩ | ⟨hslug, -⟩)
    · exact hn (Except.ok.inj hcount).symm
    · exact hslug rfl
  have hthinned : Thinned osm [uncounted, telling, deserted] [telling] :=
    .taken huncounted (.kept telling (.taken hdeserted .nil))
  refine ⟨hthinned, .counted 4 rfl rfl (by decide) (by decide +kernel), hthin _ _ hthinned, hnone _ ?_⟩
  intro s hs
  rcases List.mem_pair.mp hs with rfl | rfl
  · exact huncounted
  · exact hdeserted

end MapExport.Estimate
