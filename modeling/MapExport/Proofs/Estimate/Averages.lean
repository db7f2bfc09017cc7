import MapExport.Proofs.Store.Keys
import MapExport.Proofs.Workflow.Course
import MapExport.Store.Answers

/-!
# Averages of a store

The average of a provider is worked out from the runs alone, which a computation of averages only reads. So what
becomes of a provider can be told beforehand, whatever becomes of the others: it gets a new average, it keeps the one
it has, or its runs could not be looked up. The report has each provider once, in the list or the number that it
belongs to, and the store is changed just as the report says (`averages_account_for_all`).

A geometry whose features cannot be counted is no failure. It takes its run out of the average, and nothing else.
-/

set_option autoImplicit false

namespace MapExport

open Workflow (Played)

/-! ## Computing the averages of a store -/

/-- **What a counter says** about geometries. -/
abbrev Counting := Geometry Position → Except Failure Nat

namespace Store

/-- How the store and a counter answer a call of the estimates. -/
def answerCounting (count : Counting) (s : Store) (c : EstimateCall) : c.Reply × Store :=
  s.answerEstimate (m := Id) count c

/-- **Computing the averages** of a store. -/
def averages (s : Store) (count : Counting) :
    Played EstimateCall EstimateCall.Reply Store (Except Failure EstimateReport) :=
  Estimate.aggregate.run.play (answerCounting count) s

/-- Carrying out the computation with the store as its collaborator leads to that result and that store. -/
theorem run_averages (s : Store) (count : Counting) :
    (Estimate.aggregate.run.run (m := StateM Store) fun c s => s.answerCounting count c).run s =
      ((s.averages count).result, (s.averages count).state) :=
  Workflow.run_eq_play (answerCounting count) s _

/-- **What a run tells** about the size of a provider's data, if anything. -/
def told? (s : Store) (count : Counting) (provider : Provider) (run : Footprint) : Option Float :=
  if provider.slug = Estimate.countedSlug then
    match count run.geometry with
    | .error _ => none
    | .ok n =>
      let size := Estimate.fileSize (s.taskRecords run.run) provider.name Estimate.countedLeast
      if n = 0 then none else if size > 0.0 then some (size / Float.ofNat n) else none
  else
    let size := Estimate.fileSize (s.taskRecords run.run) provider.name Estimate.measuredLeast
    let area := run.geometry.mapArea * 0.000001
    if size > 0.0 ∧ area > 0.0 then some (size / area) else none

/-- **The average of a provider:** that of what its recent runs tell, if any of them tells something. -/
def averageOf (s : Store) (count : Counting) (provider : Provider) : Except Failure (Option Float) :=
  (s.recentRuns provider.uid Estimate.sampleSize).map fun runs =>
    Estimate.average (runs.filterMap (s.told? count provider))

/-! ## What a part of the computation comes to -/

/-- **A part of the computation comes** to a result and leads from one store to another. -/
def ComesTo {α : Type} (count : Counting) (s : Store) (x : EstimateFlow α) (result : Except Failure α) (t : Store) :
    Prop :=
  ∃ log, x.run.play (answerCounting count) s = ⟨log, result, t⟩

section

variable {α β : Type} {s t u : Store} {count : Counting}

theorem comesTo_pure (a : α) : ComesTo count s (pure a) (.ok a) s := ⟨[], rfl⟩

/-- A single call comes to its answer. -/
theorem comesTo_ask {c : EstimateCall} {reply : c.Reply} (h : answerCounting count s c = (reply, t)) :
    ComesTo count s (Estimate.ask c) reply t := by
  refine ⟨[⟨c, reply⟩], ?_⟩
  show Workflow.play (answerCounting count) s (Workflow.call c Workflow.done) = _
  rw [Workflow.play, h]
  rfl

theorem ComesTo.bind {x : EstimateFlow α} {k : α → EstimateFlow β} {a : α} {result : Except Failure β}
    (hx : ComesTo count s x (.ok a) t) (hk : ComesTo count t (k a) result u) :
    ComesTo count s (x >>= k) result u := by
  obtain ⟨log, hx⟩ := hx
  obtain ⟨more, hk⟩ := hk
  refine ⟨log ++ more, ?_⟩
  rw [ExceptT.run_bind, Workflow.play_bind, hx]
  simp only [hk]

/-- A failure is the end. -/
theorem ComesTo.bind_error {x : EstimateFlow α} {k : α → EstimateFlow β} {e : Failure}
    (hx : ComesTo count s x (.error e) t) : ComesTo count s (x >>= k) (.error e) t := by
  obtain ⟨log, hx⟩ := hx
  refine ⟨log ++ [], ?_⟩
  rw [ExceptT.run_bind, Workflow.play_bind, hx]
  rfl

/-- The size of the file of a run. -/
theorem comesTo_runSize (run : Uid) (provider : String) (atLeast : Float) :
    ComesTo count s (Estimate.runSize run provider atLeast)
      (.ok (Estimate.fileSize (s.taskRecords run) provider atLeast)) s := by
  have hrecords : ComesTo count s (Estimate.ask (.taskRecords run)) (.ok (s.taskRecords run)) s := comesTo_ask rfl
  exact hrecords.bind (comesTo_pure _)

/-- Counting goes on whether it fails or not. -/
theorem comesTo_tryCount (g : Geometry Position) :
    ComesTo count s (Estimate.tryCount g) (.ok (count g)) s := ⟨[⟨.count g, count g⟩], rfl⟩

/-- **What a run tells.** -/
theorem comesTo_ratio (provider : Provider) (run : Footprint) :
    ComesTo count s (Estimate.ratio provider run) (.ok (s.told? count provider run)) s := by
  unfold Estimate.ratio told?
  by_cases hslug : provider.slug = Estimate.countedSlug
  · rw [if_pos hslug, if_pos hslug]
    unfold Estimate.ratioByCount
    refine (comesTo_tryCount run.geometry).bind ?_
    -- Only a count other than zero leads on to the size of the file.
    cases count run.geometry with
    | error e => exact comesTo_pure none
    | ok n =>
      by_cases hn : n = 0
      · simp only [if_pos hn]
        exact comesTo_pure none
      · simp only [if_neg hn]
        exact (comesTo_runSize run.run provider.name Estimate.countedLeast).bind (comesTo_pure _)
  · rw [if_neg hslug, if_neg hslug]
    unfold Estimate.ratioByArea
    exact (comesTo_runSize run.run provider.name Estimate.measuredLeast).bind (comesTo_pure _)

/-- **What the runs tell,** those that tell nothing left out. -/
theorem comesTo_ratios (provider : Provider) (runs : List Footprint) :
    ComesTo count s (Estimate.ratios provider runs) (.ok (runs.filterMap (s.told? count provider))) s := by
  induction runs with
  | nil => exact comesTo_pure []
  | cons run runs ih =>
    have hlist : (run :: runs).filterMap (s.told? count provider) =
        (s.told? count provider run).toList ++ runs.filterMap (s.told? count provider) := by
      cases htold : s.told? count provider run <;> simp [htold]
    rw [hlist, Estimate.ratios]
    exact (comesTo_ratio provider run).bind (ih.bind (comesTo_pure _))

/-- **The average of a provider** is worked out without changing the store. -/
theorem comesTo_estimate (s : Store) (count : Counting) (provider : Provider) :
    ComesTo count s (Estimate.estimate provider) (s.averageOf count provider) s := by
  have hrecent : ComesTo count s (Estimate.ask (.recentRuns provider.uid Estimate.sampleSize))
      (s.recentRuns provider.uid Estimate.sampleSize) s := comesTo_ask rfl
  unfold Estimate.estimate averageOf
  cases hruns : s.recentRuns provider.uid Estimate.sampleSize with
  | error e =>
    rw [hruns] at hrecent
    exact hrecent.bind_error
  | ok runs =>
    rw [hruns] at hrecent
    refine hrecent.bind ?_
    -- Without a run there is nothing to ask for, and the average of nothing is none as well.
    cases runs with
    | nil => exact comesTo_pure none
    | cons run runs => exact (comesTo_ratios provider (run :: runs)).bind (comesTo_pure _)

end

/-! ## One provider -/

/-- **The new average** of a provider, if there is one. -/
def newAverage? (s : Store) (count : Counting) (provider : Provider) : Option Float :=
  match s.averageOf count provider with
  | .ok average => average
  | .error _ => none

/-- A provider with its new average. -/
def revise (s : Store) (count : Counting) (provider : Provider) : Provider :=
  match s.newAverage? count provider with
  | some value => { provider with sizeEstimate := some value }
  | none => provider

/-- **In the middle of the computation:** these providers are dealt with, and those are not. -/
def averagedTo (s : Store) (count : Counting) (dealt rest : List Provider) : Store :=
  { s with providers := dealt.map (s.revise count) ++ rest }

section

variable {s : Store} {count : Counting} {dealt rest : List Provider} {provider : Provider}

theorem uid_revise (s : Store) (count : Counting) (provider : Provider) :
    (s.revise count provider).uid = provider.uid := by
  unfold revise
  cases s.newAverage? count provider <;> rfl

/-- What becomes of a provider can be told beforehand, as the averages of others do not matter for it. -/
theorem averageOf_averagedTo (s : Store) (count : Counting) (dealt rest : List Provider) :
    (s.averagedTo count dealt rest).averageOf count = s.averageOf count := rfl

/-- A provider without a new average stays as it is. -/
theorem averagedTo_of_none (hnone : s.newAverage? count provider = none) :
    s.averagedTo count (dealt ++ [provider]) rest = s.averagedTo count dealt (provider :: rest) := by
  have hrevise : s.revise count provider = provider := by
    unfold revise
    rw [hnone]
  unfold averagedTo
  rw [List.map_append, List.map_singleton, hrevise, List.append_assoc, List.singleton_append]

/-- **The average of a provider that is there is kept.** -/
theorem change_setSizeEstimate {t : Store} {uid : Uid} (value : Float)
    (h : t.providers.any (·.uid == uid) = true) :
    t.change (t.setSizeEstimate uid value) = (.ok (), { t with
      providers := modifyFirst (·.uid == uid) (fun p => { p with sizeEstimate := some value }) t.providers }) := by
  rw [setSizeEstimate, if_pos h]
  rfl

/-- **Keeping a new average** changes this provider, and no other one. -/
theorem setSizeEstimate_averagedTo (hproviders : s.providers = dealt ++ provider :: rest)
    (distinct : (s.providers.map (·.uid)).Nodup) {value : Float}
    (hvalue : s.newAverage? count provider = some value) :
    let store := s.averagedTo count dealt (provider :: rest)
    store.change (store.setSizeEstimate provider.uid value) =
      (.ok (), s.averagedTo count (dealt ++ [provider]) rest) := by
  intro store
  have hthere : store.providers.any (·.uid == provider.uid) = true :=
    List.any_eq_true.mpr ⟨provider, List.mem_append_right _ List.mem_cons_self, beq_self_eq_true provider.uid⟩
  -- No provider that was dealt with has the same identifier, so this is the first one that fits.
  have hothers : ∀ other ∈ dealt.map (s.revise count), (other.uid == provider.uid) = false := by
    intro other hother
    obtain ⟨before, hbefore, rfl⟩ := List.mem_map.mp hother
    rw [uid_revise, beq_eq_false_iff_ne]
    rw [hproviders, List.map_append, List.map_cons, List.nodup_append] at distinct
    exact distinct.2.2 before.uid (List.mem_map_of_mem hbefore) provider.uid List.mem_cons_self
  have hrevise : s.revise count provider = { provider with sizeEstimate := some value } := by
    unfold revise
    rw [hvalue]
  have hmodified : modifyFirst (·.uid == provider.uid) (fun p => { p with sizeEstimate := some value })
      store.providers = (dealt ++ [provider]).map (s.revise count) ++ rest := by
    rw [List.map_append, List.map_singleton, hrevise, List.append_assoc, List.singleton_append]
    exact modifyFirst_append_cons hothers (beq_self_eq_true provider.uid)
  rw [change_setSizeEstimate value hthere, hmodified]
  rfl

/-- **What becomes of a provider** is what was told beforehand. -/
theorem comesTo_update (count : Counting) (hproviders : s.providers = dealt ++ provider :: rest)
    (distinct : (s.providers.map (·.uid)).Nodup) :
    ComesTo count (s.averagedTo count dealt (provider :: rest)) (Estimate.update provider)
      (s.averageOf count provider) (s.averagedTo count (dealt ++ [provider]) rest) := by
  have hestimate := comesTo_estimate (s.averagedTo count dealt (provider :: rest)) count provider
  rw [averageOf_averagedTo] at hestimate
  have hnew : s.newAverage? count provider =
      match s.averageOf count provider with
      | .ok average => average
      | .error _ => none := rfl
  unfold Estimate.update
  cases haverage : s.averageOf count provider with
  | error e =>
    rw [haverage] at hestimate hnew
    rw [averagedTo_of_none hnew]
    exact hestimate.bind_error
  | ok average =>
    rw [haverage] at hestimate hnew
    refine hestimate.bind ?_
    cases average with
    | none =>
      rw [averagedTo_of_none hnew]
      exact comesTo_pure none
    | some value =>
      have hkept : ComesTo count (s.averagedTo count dealt (provider :: rest))
          (Estimate.ask (.setSizeEstimate provider.uid value)) (.ok ())
          (s.averagedTo count (dealt ++ [provider]) rest) :=
        comesTo_ask (setSizeEstimate_averagedTo hproviders distinct hnew)
      exact hkept.bind (comesTo_pure _)

end

/-! ## All providers -/

/-- Adds what becomes of providers to a report. -/
def addAverages (s : Store) (count : Counting) (report : EstimateReport) (providers : List Provider) :
    EstimateReport :=
  providers.foldl (fun report p => Estimate.report report p.uid (s.averageOf count p)) report

/-- **The providers with a new average,** and what it is. -/
def updatedAmong (s : Store) (count : Counting) (providers : List Provider) : List (Uid × Float) :=
  providers.filterMap fun p => (s.newAverage? count p).map (p.uid, ·)

/-- Whether nothing was learnt about a provider. -/
def keepsAverage (s : Store) (count : Counting) (provider : Provider) : Bool :=
  match s.averageOf count provider with
  | .ok none => true
  | _ => false

/-- **The providers about which nothing was learnt.** -/
def unchangedAmong (s : Store) (count : Counting) (providers : List Provider) : List Uid :=
  (providers.filter (s.keepsAverage count)).map (·.uid)

section

variable {s : Store} {count : Counting} {provider : Provider}

/-- **The providers that are left are dealt with,** whatever was done before. -/
theorem play_through (count : Counting) (distinct : (s.providers.map (·.uid)).Nodup) {dealt todo : List Provider}
    (hproviders : s.providers = dealt ++ todo) (report : EstimateReport) :
    ∃ log, (Estimate.through todo report).play (answerCounting count) (s.averagedTo count dealt todo) =
      ⟨log, s.addAverages count report todo, s.averagedTo count (dealt ++ todo) []⟩ := by
  -- The invariant is the store: wherever the computation is, it is `averagedTo` there.
  induction todo generalizing dealt report with
  | nil =>
    rw [List.append_nil]
    exact ⟨[], rfl⟩
  | cons p todo ih =>
    obtain ⟨first, hfirst⟩ := comesTo_update count hproviders distinct
    obtain ⟨rest, hrest⟩ := ih (by rw [hproviders, List.append_cons])
      (Estimate.report report p.uid (s.averageOf count p))
    refine ⟨first ++ rest, ?_⟩
    rw [Estimate.through, Workflow.play_bind, hfirst]
    simp only [hrest, List.append_assoc, List.singleton_append]
    rfl

/-- **Computing all averages** leads from the store to one in which every provider is dealt with. -/
theorem play_averages (count : Counting) (distinct : (s.providers.map (·.uid)).Nodup) :
    ∃ log, s.averages count =
      ⟨log, .ok (s.addAverages count ⟨[], [], 0⟩ s.providers), s.averagedTo count s.providers []⟩ := by
  obtain ⟨log, hthrough⟩ := play_through count distinct (List.nil_append s.providers).symm ⟨[], [], 0⟩
  have hstart : s.averagedTo count [] s.providers = s := rfl
  rw [hstart, List.nil_append] at hthrough
  have hall : ComesTo count s (ExceptT.lift (Estimate.through s.providers ⟨[], [], 0⟩))
      (.ok (s.addAverages count ⟨[], [], 0⟩ s.providers)) (s.averagedTo count s.providers []) := by
    refine ⟨log ++ [], ?_⟩
    rw [ExceptT.run_lift, map_eq_pure_bind, Workflow.play_bind, hthrough]
    rfl
  have hlist : ComesTo count s (Estimate.ask .listProviders) (.ok s.providers) s := comesTo_ask rfl
  exact hlist.bind hall

/-- **What becomes of a provider** is one of three things: its runs could not be looked up, nothing was learnt, or it
has a new average. -/
inductive Becomes (s : Store) (count : Counting) (provider : Provider) : Prop where
  | failed (e : Failure) : s.averageOf count provider = .error e → s.newAverage? count provider = none →
    s.keepsAverage count provider = false → .recentRuns provider.uid ∈ s.faults → Becomes s count provider
  | kept : s.averageOf count provider = .ok none → s.newAverage? count provider = none →
    s.keepsAverage count provider = true → .recentRuns provider.uid ∉ s.faults → Becomes s count provider
  | updated (value : Float) : s.averageOf count provider = .ok (some value) →
    s.newAverage? count provider = some value → s.keepsAverage count provider = false →
    .recentRuns provider.uid ∉ s.faults → Becomes s count provider

theorem becomes (s : Store) (count : Counting) (provider : Provider) : Becomes s count provider := by
  -- The only way for a look up to fail is that the store was told to.
  have hok : (s.averageOf count provider).isOk = true ↔ .recentRuns provider.uid ∉ s.faults := by
    unfold averageOf recentRuns guard
    by_cases hfault : .recentRuns provider.uid ∈ s.faults
    · simp only [hfault, if_true, not_true, iff_false]
      exact Bool.false_ne_true
    · simp only [hfault, if_false, not_false_eq_true, iff_true]
      rfl
  have hnew : s.newAverage? count provider =
      match s.averageOf count provider with
      | .ok average => average
      | .error _ => none := rfl
  have hkeeps : s.keepsAverage count provider =
      match s.averageOf count provider with
      | .ok none => true
      | _ => false := rfl
  cases haverage : s.averageOf count provider with
  | error e =>
    rw [haverage] at hok hnew hkeeps
    exact .failed e haverage hnew hkeeps (by simpa [Except.isOk, Except.toBool] using hok)
  | ok average =>
    rw [haverage] at hok hnew hkeeps
    cases average with
    | none => exact .kept haverage hnew hkeeps (hok.mp rfl)
    | some value => exact .updated value haverage hnew hkeeps (hok.mp rfl)

/-- **What providers add to a report.** -/
theorem addAverages_eq (s : Store) (count : Counting) (report : EstimateReport) (providers : List Provider) :
    s.addAverages count report providers =
      ⟨report.updated ++ s.updatedAmong count providers, report.unchanged ++ s.unchangedAmong count providers,
        report.failures + providers.countP fun p => .recentRuns p.uid ∈ s.faults⟩ := by
  induction providers generalizing report with
  | nil => simp [addAverages, updatedAmong, unchangedAmong]
  | cons p providers ih =>
    rw [addAverages, List.foldl_cons, ← addAverages, ih]
    cases s.becomes count p with
    | failed e haverage hnew hkeeps hfault =>
      simp [haverage, hnew, hkeeps, hfault, Estimate.report, updatedAmong, unchangedAmong, Nat.add_assoc,
        Nat.add_comm 1]
    | kept haverage hnew hkeeps hfault =>
      simp [haverage, hnew, hkeeps, hfault, Estimate.report, updatedAmong, unchangedAmong]
    | updated value haverage hnew hkeeps hfault =>
      simp [haverage, hnew, hkeeps, hfault, Estimate.report, updatedAmong, unchangedAmong]

/-- **Every provider is dealt with in one way,** so the numbers add up. -/
theorem averages_add_up (s : Store) (count : Counting) (providers : List Provider) :
    (s.updatedAmong count providers).length + (s.unchangedAmong count providers).length +
      (providers.countP fun p => .recentRuns p.uid ∈ s.faults) = providers.length := by
  induction providers with
  | nil => rfl
  | cons p providers ih =>
    simp only [updatedAmong, unchangedAmong, List.length_map] at ih ⊢
    simp only [List.filterMap_cons, List.filter_cons, List.countP_cons, List.length_cons]
    cases s.becomes count p with
    | failed e haverage hnew hkeeps hfault =>
      simp only [hnew, hkeeps, hfault, Option.map_none, Bool.false_eq_true, decide_true, if_true, if_false]
      omega
    | kept haverage hnew hkeeps hfault =>
      simp only [hnew, hkeeps, hfault, Option.map_none, decide_false, Bool.false_eq_true, if_true, if_false,
        List.length_cons]
      omega
    | updated value haverage hnew hkeeps hfault =>
      simp only [hnew, hkeeps, hfault, Option.map_some, decide_false, Bool.false_eq_true, if_false,
        List.length_cons]
      omega

/-! ## The account -/

/-- **Who has a new average** is told by the list of them. -/
theorem get?_updatedAmong (distinct : (s.providers.map (·.uid)).Nodup) (hprovider : provider ∈ s.providers) :
    Table.get? (s.updatedAmong count s.providers) provider.uid = s.newAverage? count provider := by
  have hkeeps : ∀ (p : Provider) (entry : Uid × Float),
      (s.newAverage? count p).map (p.uid, ·) = some entry → entry.1 = p.uid := by
    intro p entry hentry
    obtain ⟨value, -, rfl⟩ := Option.map_eq_some_iff.mp hentry
    rfl
  unfold Table.get? updatedAmong
  rw [Keyed.find?_filterMap hkeeps distinct, Keyed.find?_own distinct hprovider, Option.bind_some, Option.map_map]
  cases s.newAverage? count provider <;> rfl

theorem map_fst_updatedAmong (providers : List Provider) :
    (s.updatedAmong count providers).map (·.1) =
      (providers.filter fun p => (s.newAverage? count p).isSome).map (·.uid) :=
  Keyed.map_fst_filterMap _ _ providers

theorem mem_updatedAmong_iff (distinct : (s.providers.map (·.uid)).Nodup) (hprovider : provider ∈ s.providers) :
    provider.uid ∈ (s.updatedAmong count s.providers).map (·.1) ↔ (s.newAverage? count provider).isSome = true := by
  rw [map_fst_updatedAmong, Keyed.mem_map_filter_iff distinct _ hprovider]

theorem mem_unchangedAmong_iff (distinct : (s.providers.map (·.uid)).Nodup) (hprovider : provider ∈ s.providers) :
    provider.uid ∈ s.unchangedAmong count s.providers ↔ s.keepsAverage count provider = true := by
  rw [unchangedAmong, Keyed.mem_map_filter_iff distinct _ hprovider]

/-- **A report that accounts for every provider:** it lists those with a new average and those about which nothing was
learnt, none of them twice, and it numbers the others, which are those whose runs could not be looked up. -/
structure AveragedIn (s : Store) (count : Counting) (report : EstimateReport) : Prop where
  updated : report.updated = s.updatedAmong count s.providers
  unchanged : report.unchanged = s.unchangedAmong count s.providers
  once : (report.updated.map (·.1) ++ report.unchanged).Nodup
  failed : ∀ p ∈ s.providers,
    p.uid ∉ report.updated.map (·.1) ++ report.unchanged ↔ .recentRuns p.uid ∈ s.faults
  failures : report.failures = s.providers.countP fun p => .recentRuns p.uid ∈ s.faults
  all : report.updated.length + report.unchanged.length + report.failures = s.providers.length

theorem averagedIn_addAverages (count : Counting) (distinct : (s.providers.map (·.uid)).Nodup) :
    s.AveragedIn count (s.addAverages count ⟨[], [], 0⟩ s.providers) := by
  have hfailed : ∀ p ∈ s.providers, p.uid ∉ (s.updatedAmong count s.providers).map (·.1) ++
      s.unchangedAmong count s.providers ↔ .recentRuns p.uid ∈ s.faults := by
    intro p hp
    rw [List.mem_append, mem_updatedAmong_iff distinct hp, mem_unchangedAmong_iff distinct hp]
    cases s.becomes count p with
    | failed e haverage hnew hkeeps hfault => simp [hnew, hkeeps, hfault]
    | kept haverage hnew hkeeps hfault => simp [hnew, hkeeps, hfault]
    | updated value haverage hnew hkeeps hfault => simp [hnew, hkeeps, hfault]
  have honce : ((s.updatedAmong count s.providers).map (·.1) ++ s.unchangedAmong count s.providers).Nodup := by
    rw [List.nodup_append, map_fst_updatedAmong]
    refine ⟨(List.filter_sublist.map _).nodup distinct, (List.filter_sublist.map _).nodup distinct, ?_⟩
    -- A provider in both lists would have a new average and none.
    rintro uid hupdated _ hunchanged rfl
    obtain ⟨p, hp, rfl⟩ := List.mem_map.mp hupdated
    obtain ⟨hp, hnew⟩ := List.mem_filter.mp hp
    have hkeeps := (mem_unchangedAmong_iff distinct hp).mp hunchanged
    cases s.becomes count p with
    | failed e _ hnone => simp [hnone] at hnew
    | kept _ hnone => simp [hnone] at hnew
    | updated value _ _ hother => simp [hother] at hkeeps
  rw [addAverages_eq]
  simp only [List.nil_append, Nat.zero_add]
  exact ⟨rfl, rfl, honce, hfailed, rfl, averages_add_up s count s.providers⟩

/-- **What a report makes of a store:** the providers that it lists as updated have the averages that it lists. -/
def averaged (s : Store) (report : EstimateReport) : Store :=
  { s with
    providers := s.providers.map fun p =>
      match Table.get? report.updated p.uid with
      | some value => { p with sizeEstimate := some value }
      | none => p }

/-- What the providers have become is what the report makes of them. -/
theorem averagedTo_eq_averaged (count : Counting) (distinct : (s.providers.map (·.uid)).Nodup) :
    s.averagedTo count s.providers [] = s.averaged (s.addAverages count ⟨[], [], 0⟩ s.providers) := by
  unfold averagedTo averaged
  rw [addAverages_eq, List.append_nil]
  simp only [List.nil_append]
  have hproviders : s.providers.map (s.revise count) = s.providers.map fun p =>
      match Table.get? (s.updatedAmong count s.providers) p.uid with
      | some value => { p with sizeEstimate := some value }
      | none => p := by
    refine List.map_congr_left fun p hp => ?_
    rw [get?_updatedAmong distinct hp, revise]
  rw [hproviders]

/-! ## One provider and the others -/

/-- **The outcome for a provider,** in the report and in the store. -/
theorem averages_of_provider (s : Store) (count : Counting) (distinct : (s.providers.map (·.uid)).Nodup)
    (hprovider : provider ∈ s.providers) :
    ∃ report, (s.averages count).result = .ok report ∧
      Table.get? report.updated provider.uid = s.newAverage? count provider ∧
      (provider.uid ∈ report.unchanged ↔ s.keepsAverage count provider = true) ∧
      (s.averages count).state.provider? provider.uid = some (s.revise count provider) := by
  obtain ⟨log, haverages⟩ := s.play_averages count distinct
  obtain ⟨hupdated, hunchanged, -⟩ := averagedIn_addAverages count distinct
  refine ⟨_, by rw [haverages], ?_, ?_, ?_⟩
  · rw [hupdated]
    exact get?_updatedAmong distinct hprovider
  · rw [hunchanged]
    exact mem_unchangedAmong_iff distinct hprovider
  · have hkeeps : ∀ p p', (some ∘ s.revise count) p = some p' → p'.uid = p.uid := by
      rintro p _ ⟨⟩
      exact uid_revise s count p
    have hfound := Keyed.find?_filterMap hkeeps distinct provider.uid
    rw [List.filterMap_eq_map, Keyed.find?_own distinct hprovider] at hfound
    rw [haverages, averagedTo, List.append_nil]
    exact hfound

/-- **What becomes of a provider** does not depend on where else the store fails. -/
theorem averageOf_of_alike (count : Counting) {faults : List TrialFault}
    (alike : .recentRuns provider.uid ∈ faults ↔ .recentRuns provider.uid ∈ s.faults) :
    averageOf { s with faults } count provider = s.averageOf count provider := by
  unfold averageOf recentRuns guard
  simp only [alike]
  rfl

/-- **A geometry whose features cannot be counted** takes its run out of the average. -/
theorem told?_of_uncounted {run : Footprint} (hslug : provider.slug = Estimate.countedSlug)
    (huncounted : (count run.geometry).isOk = false) : s.told? count provider run = none := by
  unfold told?
  rw [if_pos hslug]
  cases hcount : count run.geometry with
  | error e => rfl
  | ok n =>
    rw [hcount] at huncounted
    cases huncounted

/-- So the average is that of the other runs. -/
theorem filterMap_told? (s : Store) (count : Counting) (provider : Provider) (runs : List Footprint) :
    runs.filterMap (s.told? count provider) =
      (runs.filter fun run => provider.slug ≠ Estimate.countedSlug || (count run.geometry).isOk).filterMap
        (s.told? count provider) := by
  rw [List.filterMap_filter]
  refine List.filterMap_congr fun run _ => ?_
  by_cases hslug : provider.slug = Estimate.countedSlug
  · cases hcount : (count run.geometry).isOk with
    | true => simp
    | false => simp [hslug, told?_of_uncounted hslug hcount]
  · simp [hslug]

end

end Store

/-- **Computing the averages accounts for every provider.** There is a report, every provider is accounted for in it
once, and the store is changed as it says and not otherwise. A geometry whose features cannot be counted takes its run
out of the average, and is no failure. And for every provider all of this is the same wherever else the store fails. -/
theorem averages_account_for_all (s : Store) (count : Counting) (distinct : (s.providers.map (·.uid)).Nodup) :
    (∃ report, (s.averages count).result = .ok report ∧ s.AveragedIn count report ∧
      (s.averages count).state = s.averaged report) ∧
    (∀ p runs, s.recentRuns p.uid Estimate.sampleSize = .ok runs → s.averageOf count p = .ok (Estimate.average
      ((runs.filter fun run => p.slug ≠ Estimate.countedSlug || (count run.geometry).isOk).filterMap
        (s.told? count p)))) ∧
    ∀ faults, ∀ p ∈ s.providers, (.recentRuns p.uid ∈ faults ↔ .recentRuns p.uid ∈ s.faults) →
      ∃ report report', (s.averages count).result = .ok report ∧
        (Store.averages { s with faults } count).result = .ok report' ∧
        Table.get? report'.updated p.uid = Table.get? report.updated p.uid ∧
        (p.uid ∈ report'.unchanged ↔ p.uid ∈ report.unchanged) ∧
        (Store.averages { s with faults } count).state.provider? p.uid =
          (s.averages count).state.provider? p.uid := by
  obtain ⟨log, haverages⟩ := s.play_averages count distinct
  refine ⟨⟨_, by rw [haverages], Store.averagedIn_addAverages count distinct, ?_⟩, ?_, ?_⟩
  · rw [haverages]
    exact Store.averagedTo_eq_averaged count distinct
  · intro p runs hruns
    rw [Store.averageOf, hruns, ← s.filterMap_told?]
    rfl
  · intro faults p hp alike
    obtain ⟨report, hreport, hupdated, hunchanged, hprovider⟩ := s.averages_of_provider count distinct hp
    obtain ⟨report', hreport', hupdated', hunchanged', hprovider'⟩ :=
      Store.averages_of_provider { s with faults } count distinct hp
    have haverage := Store.averageOf_of_alike count alike
    have hnew : Store.newAverage? { s with faults } count p = s.newAverage? count p := by
      unfold Store.newAverage?
      rw [haverage]
    have hkeeps : Store.keepsAverage { s with faults } count p = s.keepsAverage count p := by
      unfold Store.keepsAverage
      rw [haverage]
    have hrevise : Store.revise { s with faults } count p = s.revise count p := by
      unfold Store.revise
      rw [hnew]
    refine ⟨report, report', hreport, hreport', ?_, ?_, ?_⟩
    · rw [hupdated, hupdated', hnew]
    · rw [hunchanged, hunchanged', hkeeps]
    · rw [hprovider, hprovider', hrevise]

/-- A store for trials. It is told to fail for one of its providers. There is a run for this one and for the first, of a
job without a ring, and a run for the last, which has made a file. -/
def Store.trialProviders : Store :=
  { Store.empty with
    providers := [⟨⟨1⟩, "OpenStreetMap Data", "osm", none⟩, ⟨⟨2⟩, "Imagery", "imagery", none⟩,
      ⟨⟨3⟩, "Elevation", "elevation", none⟩, ⟨⟨11⟩, "OpenStreetMap Data, weekly", "osm", none⟩]
    jobs := [(⟨4⟩, ⟨⟨4⟩, "Monrovia", "", .polygon [], ⟨5⟩, .epoch, true⟩),
      (⟨9⟩, ⟨⟨9⟩, "Harbour", "", .ofBox 8.0 53.0 8.25 53.25, ⟨5⟩, .epoch, true⟩)]
    jobProviders := [(⟨4⟩, [⟨1⟩, ⟨2⟩]), (⟨9⟩, [⟨11⟩])]
    runs := [⟨⟨6⟩, ⟨4⟩, ⟨5⟩, .completed, .epoch, .epoch, none⟩, ⟨⟨7⟩, ⟨9⟩, ⟨5⟩, .completed, .epoch, .epoch, none⟩]
    records := [⟨⟨10⟩, ⟨7⟩, "OpenStreetMap Data, weekly", "osm", .epoch, [⟨⟨8⟩, "Roads", some ⟨some 600.0⟩⟩]⟩]
    faults := [.recentRuns ⟨2⟩] }

/-- The features of one run cannot be counted, which is no failure, and the other run gives its provider an average; that
the runs of the second provider cannot be looked up is a failure. -/
theorem trial_averages_account_for_all :
    let count : Counting := fun g => if g.rings.flatten.isEmpty then .error (.external "down") else .ok 3
    (Store.trialProviders.providers.map (·.uid)).Nodup ∧
      ∃ report, (Store.trialProviders.averages count).result = .ok report ∧
        Store.trialProviders.AveragedIn count report ∧ report.updated.map (·.1) = [⟨11⟩] ∧
        report.unchanged = [⟨1⟩, ⟨3⟩] ∧ report.failures = 1 := by
  intro count
  have distinct : (Store.trialProviders.providers.map (·.uid)).Nodup := by decide
  obtain ⟨⟨report, hresult, haveraged, -⟩, -⟩ := averages_account_for_all .trialProviders count distinct
  refine ⟨distinct, report, hresult, haveraged, ?_, ?_, ?_⟩
  · rw [haveraged.updated]
    decide +kernel
  · rw [haveraged.unchanged]
    decide +kernel
  · rw [haveraged.failures]
    decide

end MapExport
