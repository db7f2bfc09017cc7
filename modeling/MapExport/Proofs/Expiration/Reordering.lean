import MapExport.Proofs.Expiration.Accounting

/-!
# The order of the runs

Stores list their runs in different orders: as they came, or by the time at which they expire. For a sweep this does
not matter. The fate of a run is its own, so the same runs are deleted, the same mails are sent and the same store is
left, but for the order (`sweep_in_any_order`).

The order shows in one case only, when a sweep is broken off: what was done before stays done, and which runs these
are is a matter of the list (`order_shows_on_the_first_day`).
-/

set_option autoImplicit false

namespace MapExport

open Workflow (Played)

/-- **The same store but for the order of its runs.** -/
structure Store.Reordered (s t : Store) : Prop where
  runs : s.runs.Perm t.runs
  rest : t = { s with runs := t.runs }

/-- **An impartial mailer** goes by the mail, and not by the mails that it was given before. -/
def Round.Impartial (round : Round) : Prop :=
  ∀ earlier mail, round.mailer earlier mail = round.mailer [] mail

/-- **Two sweeps come to the same** but for the order in which they did it. -/
structure SameSweep (p p' : Played SweepCall SweepCall.Reply Sweeping (Except SweepFault SweepReport))
    (report report' : SweepReport) : Prop where
  deleted : report.deleted.Perm report'.deleted
  notified : report.notified.Perm report'.notified
  skipped : report.skipped = report'.skipped
  failures : report.failures = report'.failures
  mails : (p.log.filterMap SweepCall.mailed?).Perm (p'.log.filterMap SweepCall.mailed?)
  store : p.state.store.Reordered p'.state.store

namespace Store

variable {s t : Store} {round : Round}

/-- The list may be sorted by the time at which the runs expire. -/
theorem reordered_by_expiration (s : Store) :
    s.Reordered { s with runs := s.runs.mergeSort fun a b => decide (a.expiration ≤ b.expiration) } :=
  ⟨(List.mergeSort_perm _ _).symm, rfl⟩

/-! ## The same fates -/

theorem Reordered.warning? (h : s.Reordered t) : t.warning? round = s.warning? round := by
  rw [h.rest]
  rfl

/-- An impartial mailer does not mind where a run is listed. -/
theorem mailed_of_impartial (s : Store) (impartial : round.Impartial) :
    s.mailed round = fun _ => round.mailer [] :=
  funext fun _ => funext fun _ => impartial _ _

/-- **The fate of a run** is the same wherever it is listed. -/
theorem Reordered.fate (h : s.Reordered t) (impartial : round.Impartial) : t.fate round = s.fate round := by
  -- Of the place in the list only the mailer knows, by the mails that it was given before.
  funext run
  unfold Store.fate
  rw [h.warning?, mailed_of_impartial s impartial, mailed_of_impartial t impartial]

section

variable (h : s.Reordered t) (impartial : round.Impartial)

include h impartial

theorem Reordered.deletedAmong : (s.deletedAmong round s.runs).Perm (t.deletedAmong round t.runs) := by
  unfold Store.deletedAmong
  rw [h.fate impartial]
  exact (h.runs.filter _).map _

theorem Reordered.notifiedAmong : (s.notifiedAmong round s.runs).Perm (t.notifiedAmong round t.runs) := by
  unfold Store.notifiedAmong
  rw [h.fate impartial]
  exact h.runs.filterMap _

theorem Reordered.numberOf (outcome : RunOutcome) :
    s.numberOf round outcome s.runs = t.numberOf round outcome t.runs := by
  unfold Store.numberOf
  rw [h.fate impartial]
  exact h.runs.countP_eq _

/-- **The store afterwards** is again the same but for the order of its runs. -/
theorem Reordered.sweptTo :
    (s.sweptTo round s.runs []).store.Reordered (t.sweptTo round t.runs []).store := by
  have hleft : (s.left round s.runs).Perm (t.left round t.runs) := by
    unfold Store.left
    rw [h.fate impartial]
    exact h.runs.filterMap _
  -- Of the list of deleted runs only its members matter for the task records.
  have hrecords : (t.records.filter fun record => record.run ∉ t.deletedAmong round t.runs) =
      s.records.filter fun record => record.run ∉ s.deletedAmong round s.runs := by
    have hsame : t.records = s.records := by rw [h.rest]
    rw [hsame]
    exact List.filter_congr fun record _ => by simp only [(h.deletedAmong impartial).mem_iff]
  constructor
  · simpa only [Store.sweptTo, List.append_nil] using hleft
  · simp only [Store.sweptTo, hrecords]
    rw [h.rest]

end

/-! ## Sweeps that are broken off -/

/-- **Where it cannot be told of some run what is due** there is no report. -/
theorem sweep_of_untold (distinct : (s.runs.map (·.uid)).Nodup)
    (untold : ∃ run ∈ s.runs, run.nextAction? round.now = none) :
    ∃ uid, (s.sweep round).result = .error (.beforeCalendar uid) := by
  obtain ⟨dealt, left, hruns, hswept⟩ := s.swept_sweep round distinct
  rcases hswept.result with ⟨rfl, -⟩ | ⟨run, -, -, -, hresult⟩
  · -- All runs would have been dealt with, and so it would be told of each what is due.
    obtain ⟨run, hrun, hnone⟩ := untold
    rw [hruns, List.append_nil] at hrun
    exact absurd hnone (hswept.told run hrun)
  · exact ⟨run.uid, hresult⟩

end Store

/-- **The order in which the runs are listed does not matter.** Where it can be told of every run what is due,
sweeping two stores that differ in nothing else comes to the same; where it cannot, neither sweep has a report. -/
theorem sweep_in_any_order (s t : Store) (round : Round) (distinct : (s.runs.map (·.uid)).Nodup)
    (reordered : s.Reordered t) (impartial : round.Impartial) :
    ((∀ run ∈ s.runs, run.nextAction? round.now ≠ none) →
      ∃ report report', (s.sweep round).result = .ok report ∧ (t.sweep round).result = .ok report' ∧
        SameSweep (s.sweep round) (t.sweep round) report report') ∧
    ((∃ run ∈ s.runs, run.nextAction? round.now = none) →
      ∃ uid uid', (s.sweep round).result = .error (.beforeCalendar uid) ∧
        (t.sweep round).result = .error (.beforeCalendar uid')) := by
  have distinct' : (t.runs.map (·.uid)).Nodup := (reordered.runs.map _).nodup distinct
  constructor
  · intro told
    have told' : ∀ run ∈ t.runs, run.nextAction? round.now ≠ none := fun run hrun =>
      told run (reordered.runs.mem_iff.mpr hrun)
    obtain ⟨hresult, hstate, hmailed⟩ := Store.sweep_of_told distinct told
    obtain ⟨hresult', hstate', hmailed'⟩ := Store.sweep_of_told distinct' told'
    refine ⟨_, _, hresult, hresult', ?_⟩
    simp only [Store.addFates_eq, SweepReport.empty, List.nil_append, Nat.zero_add]
    refine ⟨reordered.deletedAmong impartial, reordered.notifiedAmong impartial,
      reordered.numberOf impartial _, reordered.numberOf impartial _, ?_, ?_⟩
    · rw [hmailed, hmailed', reordered.warning?, s.mailed_of_impartial impartial, t.mailed_of_impartial impartial]
      exact reordered.runs.filterMap _
    · rw [hstate, hstate']
      exact reordered.sweptTo impartial
  · rintro ⟨run, hrun, hnone⟩
    obtain ⟨uid, hresult⟩ := Store.sweep_of_untold distinct ⟨run, hrun, hnone⟩
    obtain ⟨uid', hresult'⟩ :=
      Store.sweep_of_untold distinct' ⟨run, reordered.runs.mem_iff.mp hrun, hnone⟩
    exact ⟨uid, uid', hresult, hresult'⟩

/-- The runs for trials, the latest first and then sorted by the time at which they expire. Two owners are warned, in
opposite orders. -/
theorem trial_in_any_order :
    let s := { Store.trialRuns with runs := Store.trialRuns.runs.reverse }
    let t := { s with runs := s.runs.mergeSort fun a b => decide (a.expiration ≤ b.expiration) }
    let round := { Round.trial with mailer := fun _ _ => .ok () }
    (s.runs.map (·.uid)).Nodup ∧ s.Reordered t ∧ round.Impartial ∧
      (∀ run ∈ s.runs, run.nextAction? round.now ≠ none) ∧
      ∃ report', (s.sweep round).result = .ok ⟨[⟨1⟩], [(⟨4⟩, .sevenDay), (⟨3⟩, .twoDay)], 1, 1⟩ ∧
        (t.sweep round).result = .ok report' ∧
        SameSweep (s.sweep round) (t.sweep round)
          ⟨[⟨1⟩], [(⟨4⟩, .sevenDay), (⟨3⟩, .twoDay)], 1, 1⟩ report' := by
  intro s t round
  have distinct : (s.runs.map (·.uid)).Nodup := by decide
  have told : ∀ run ∈ s.runs, run.nextAction? round.now ≠ none := by decide
  have reordered : s.Reordered t := s.reordered_by_expiration
  have impartial : round.Impartial := fun _ _ => rfl
  obtain ⟨report, report', hresult, hresult', hsame⟩ :=
    (sweep_in_any_order s t round distinct reordered impartial).1 told
  have hreport : report = ⟨[⟨1⟩], [(⟨4⟩, .sevenDay), (⟨3⟩, .twoDay)], 1, 1⟩ := by
    rw [(Store.sweep_of_told distinct told).1, Store.addFates_eq] at hresult
    rw [← Except.ok.inj hresult]
    decide
  subst hreport
  exact ⟨distinct, reordered, impartial, told, report', hresult, hresult', hsame⟩

/-- A run that has expired on the first day of the calendar, and one that expires in the middle of that day. -/
theorem order_shows_on_the_first_day :
    let start : Instant := ⟨Calendar.firstDay, 0, 0, by decide⟩
    let noon : Instant := ⟨Calendar.firstDay, 43200, 0, by decide⟩
    let s := { Store.empty with runs := [.trial ⟨1⟩ ⟨1⟩ noon, .trial ⟨2⟩ ⟨1⟩ start] }
    let t := { Store.empty with runs := [.trial ⟨2⟩ ⟨1⟩ start, .trial ⟨1⟩ ⟨1⟩ noon] }
    let round : Round := ⟨start, ⟨"http://localhost", "noreply"⟩, fun _ _ => .ok (), []⟩
    (s.runs.map (·.uid)).Nodup ∧ s.Reordered t ∧ round.Impartial ∧
      (s.sweep round).result = .error (.beforeCalendar ⟨1⟩) ∧
      (t.sweep round).result = .error (.beforeCalendar ⟨1⟩) ∧
      ¬ (s.sweep round).state.store.Reordered (t.sweep round).state.store := by
  intro start noon s t round
  refine ⟨by decide, ⟨List.Perm.swap _ _ _, rfl⟩, fun _ _ => rfl, by decide +kernel, by decide +kernel, ?_⟩
  intro hreordered
  have hlength := hreordered.runs.length_eq
  have hfirst : (s.sweep round).state.store.runs.length = 2 := by decide +kernel
  have hsecond : (t.sweep round).state.store.runs.length = 1 := by decide +kernel
  omega

end MapExport
