import MapExport.Proofs.Estimate.Averages

/-!
# Averages do not feed back

The average of a provider is made from runs, task records and counts. The averages that the store has already are not
among these, and the place of the provider in the list is not either. So what a computation writes for one provider is
read neither for the providers after it nor by the next computation: doing it all over again reports the same and
changes nothing, and listing the providers in another order changes the order of the report alone
(`averages_do_not_feed_back`).
-/

set_option autoImplicit false

namespace MapExport

namespace Store

/-- **The same store but for the averages** that it has for its providers. -/
def withAverages (s : Store) (stored : Provider → Option Float) : Store :=
  { s with providers := s.providers.map fun p => { p with sizeEstimate := stored p } }

/-- **The same store but for the order of its providers.** -/
structure Relisted (s t : Store) : Prop where
  providers : s.providers.Perm t.providers
  rest : t = { s with providers := t.providers }

/-- **The average of a provider afterwards:** the new one, or else the one from before. -/
def nextAverage (s : Store) (count : Counting) (provider : Provider) : Option Float :=
  (s.newAverage? count provider).or provider.sizeEstimate

section

variable {s t : Store} {count : Counting}

/-! ## What an average is not made from -/

/-- The averages that a store has are not looked at for a new one. -/
theorem averageOf_withAverages (s : Store) (count : Counting) (stored : Provider → Option Float) (provider : Provider)
    (average : Option Float) :
    (s.withAverages stored).averageOf count { provider with sizeEstimate := average } =
      s.averageOf count provider := rfl

theorem newAverage?_withAverages (s : Store) (count : Counting) (stored : Provider → Option Float)
    (provider : Provider) (average : Option Float) :
    (s.withAverages stored).newAverage? count { provider with sizeEstimate := average } =
      s.newAverage? count provider := rfl

/-- So the report is the same, whatever they are. -/
theorem addAverages_withAverages (s : Store) (count : Counting) (stored : Provider → Option Float)
    (report : EstimateReport) :
    (s.withAverages stored).addAverages count report (s.withAverages stored).providers =
      s.addAverages count report s.providers := by
  have hproviders : (s.withAverages stored).providers =
      s.providers.map fun p => { p with sizeEstimate := stored p } := rfl
  -- The report is made provider by provider, and each is asked about with its other average.
  rw [addAverages, hproviders, List.foldl_map]
  simp only [averageOf_withAverages]
  rfl

/-- Nor is the place of a provider in the list. -/
theorem Relisted.averageOf (h : s.Relisted t) : t.averageOf count = s.averageOf count := by
  rw [h.rest]
  rfl

theorem Relisted.newAverage? (h : s.Relisted t) : t.newAverage? count = s.newAverage? count := by
  unfold Store.newAverage?
  rw [h.averageOf]

theorem Relisted.keepsAverage (h : s.Relisted t) : t.keepsAverage count = s.keepsAverage count := by
  unfold Store.keepsAverage
  rw [h.averageOf]

/-! ## What is written -/

theorem withAverages_withAverages (s : Store) (first second : Provider → Option Float) :
    (s.withAverages first).withAverages second =
      s.withAverages fun p => second { p with sizeEstimate := first p } := by
  simp only [withAverages, List.map_map]
  rfl

theorem map_uid_withAverages (s : Store) (stored : Provider → Option Float) :
    (s.withAverages stored).providers.map (·.uid) = s.providers.map (·.uid) := by
  simp only [withAverages, List.map_map]
  rfl

theorem revise_eq (s : Store) (count : Counting) (provider : Provider) :
    s.revise count provider = { provider with sizeEstimate := s.nextAverage count provider } := by
  unfold revise nextAverage
  cases s.newAverage? count provider <;> rfl

/-- **Only averages are written.** -/
theorem averagedTo_eq_withAverages (s : Store) (count : Counting) :
    s.averagedTo count s.providers [] = s.withAverages (s.nextAverage count) := by
  unfold averagedTo withAverages
  rw [List.append_nil, funext (s.revise_eq count)]

theorem averages_result (count : Counting) (distinct : (s.providers.map (·.uid)).Nodup) :
    (s.averages count).result = .ok (s.addAverages count ⟨[], [], 0⟩ s.providers) := by
  obtain ⟨log, haverages⟩ := s.play_averages count distinct
  rw [haverages]

theorem averages_state (count : Counting) (distinct : (s.providers.map (·.uid)).Nodup) :
    (s.averages count).state = s.withAverages (s.nextAverage count) := by
  obtain ⟨log, haverages⟩ := s.play_averages count distinct
  rw [haverages, averagedTo_eq_withAverages]

/-- Where other averages were stored before, the new ones are the same. -/
theorem averages_withAverages (count : Counting) (distinct : (s.providers.map (·.uid)).Nodup)
    (stored : Provider → Option Float) :
    ((s.withAverages stored).averages count).result = (s.averages count).result ∧
      ((s.withAverages stored).averages count).state =
        s.withAverages fun p => (s.newAverage? count p).or (stored p) := by
  have distinct' : ((s.withAverages stored).providers.map (·.uid)).Nodup := by rwa [map_uid_withAverages]
  constructor
  · rw [averages_result count distinct, averages_result count distinct', addAverages_withAverages]
  · rw [averages_state count distinct', withAverages_withAverages]
    simp only [nextAverage, newAverage?_withAverages]

/-- **What was written is written again.** -/
theorem withAverages_of_nextAverage (s : Store) (count : Counting) :
    (s.withAverages fun p => (s.newAverage? count p).or (s.nextAverage count p)) =
      s.withAverages (s.nextAverage count) := by
  -- A provider without a new average keeps what it kept before, and any other gets the same once more.
  have hagain : ∀ p, (s.newAverage? count p).or (s.nextAverage count p) = s.nextAverage count p := by
    intro p
    unfold nextAverage
    rw [← Option.or_assoc, Option.or_self]
  simp only [hagain]

/-! ## Another order -/

theorem Relisted.withAverages (h : s.Relisted t) (stored : Provider → Option Float) :
    (s.withAverages stored).Relisted (t.withAverages stored) := by
  constructor
  · exact h.providers.map _
  · unfold Store.withAverages
    rw [h.rest]

theorem Relisted.nextAverage (h : s.Relisted t) : t.nextAverage count = s.nextAverage count := by
  unfold Store.nextAverage
  rw [h.newAverage?]

/-- A provider is found wherever it is listed. -/
theorem Relisted.provider? (h : s.Relisted t) (distinct : (s.providers.map (·.uid)).Nodup) (uid : Uid) :
    t.provider? uid = s.provider? uid :=
  Keyed.find?_of_perm distinct h.providers uid

end

end Store

/-- **The same report** but for the order of its lists. -/
structure EstimateReport.Alike (report report' : EstimateReport) : Prop where
  updated : report.updated.Perm report'.updated
  unchanged : report.unchanged.Perm report'.unchanged
  failures : report.failures = report'.failures

/-- **A report goes through providers in order.** -/
structure EstimateReport.Follows (report : EstimateReport) (providers : List Provider) : Prop where
  updated : (report.updated.map (·.1)).Sublist (providers.map (·.uid))
  unchanged : report.unchanged.Sublist (providers.map (·.uid))

namespace Store

variable {s t : Store} {count : Counting}

theorem follows_addAverages (s : Store) (count : Counting) :
    (s.addAverages count ⟨[], [], 0⟩ s.providers).Follows s.providers := by
  rw [addAverages_eq]
  simp only [List.nil_append]
  constructor
  · rw [map_fst_updatedAmong]
    exact List.filter_sublist.map _
  · exact List.filter_sublist.map _

/-- **In another order** the same is reported. -/
theorem Relisted.addAverages (h : s.Relisted t) :
    (s.addAverages count ⟨[], [], 0⟩ s.providers).Alike (t.addAverages count ⟨[], [], 0⟩ t.providers) := by
  simp only [addAverages_eq, List.nil_append, Nat.zero_add]
  constructor
  · unfold updatedAmong
    rw [h.newAverage?]
    exact h.providers.filterMap _
  · unfold unchangedAmong
    rw [h.keepsAverage]
    exact (h.providers.filter _).map _
  · rw [h.rest]
    exact h.providers.countP_eq _

end Store

/-- **An average that is stored does not feed back.** Computing the averages once more reports the same and leaves the
store as it is. For providers that are listed in another order the same averages are kept, and the report differs in
its order alone, which is theirs. And with any other averages stored beforehand the report and the new averages are
the same. -/
theorem averages_do_not_feed_back (s : Store) (count : Counting) (distinct : (s.providers.map (·.uid)).Nodup) :
    (∃ report, (s.averages count).result = .ok report ∧
      ((s.averages count).state.averages count).result = .ok report ∧
      ((s.averages count).state.averages count).state = (s.averages count).state) ∧
    (∀ t, s.Relisted t → ∃ report report', (s.averages count).result = .ok report ∧
      (t.averages count).result = .ok report' ∧ report.Alike report' ∧
      report.Follows s.providers ∧ report'.Follows t.providers ∧
      (s.averages count).state.Relisted (t.averages count).state ∧
      ∀ uid, (t.averages count).state.provider? uid = (s.averages count).state.provider? uid) ∧
    ∀ stored, ((s.withAverages stored).averages count).result = (s.averages count).result ∧
      ((s.withAverages stored).averages count).state =
        s.withAverages fun p => (s.newAverage? count p).or (stored p) := by
  have hresult := Store.averages_result count distinct
  have hstate := Store.averages_state count distinct
  refine ⟨⟨_, hresult, ?_, ?_⟩, ?_, Store.averages_withAverages count distinct⟩
  -- The store after the first computation is one with other averages, so the second is a case of the last part.
  · rw [hstate, (Store.averages_withAverages count distinct _).1, hresult]
  · rw [hstate, (Store.averages_withAverages count distinct _).2, s.withAverages_of_nextAverage]
  · intro t relisted
    have distinct' : (t.providers.map (·.uid)).Nodup := (relisted.providers.map _).nodup distinct
    have hrelisted : (s.averages count).state.Relisted (t.averages count).state := by
      rw [hstate, Store.averages_state count distinct', relisted.nextAverage]
      exact relisted.withAverages _
    refine ⟨_, _, hresult, Store.averages_result count distinct', relisted.addAverages,
      s.follows_addAverages count, t.follows_addAverages count, hrelisted, hrelisted.provider? ?_⟩
    rw [hstate, Store.map_uid_withAverages]
    exact distinct

/-- One of the runs for trials has made a file, for the last provider. The others keep what they have, which is nothing,
and the computation reports the same again, in the order of the providers. -/
theorem trial_averages_do_not_feed_back :
    let count : Counting := fun _ => .ok 3
    let s := Store.trialProviders
    let t := { s with providers := s.providers.reverse }
    (s.providers.map (·.uid)).Nodup ∧ s.Relisted t ∧
      ∃ report report', (s.averages count).result = .ok report ∧ report.updated.map (·.1) = [⟨11⟩] ∧
        ((s.averages count).state.averages count).result = .ok report ∧
        (t.averages count).result = .ok report' ∧ report.Alike report' := by
  intro count s t
  have distinct : (s.providers.map (·.uid)).Nodup := by decide
  have relisted : s.Relisted t := ⟨(List.reverse_perm _).symm, rfl⟩
  obtain ⟨⟨report, hresult, hagain, -⟩, hrelisted, -⟩ := averages_do_not_feed_back s count distinct
  obtain ⟨_, report', hresult', hother, halike, -⟩ := hrelisted t relisted
  rw [hresult] at hresult'
  obtain rfl := Except.ok.inj hresult'
  refine ⟨distinct, relisted, report, report', hresult, ?_, hagain, hother, halike⟩
  rw [Store.averages_result count distinct] at hresult
  rw [← Except.ok.inj hresult]
  decide +kernel

end MapExport
