import MapExport.Job.Request
import MapExport.Proofs.Geometry.Usable

/-!
# What a request has to meet

A request is checked field by field, and all complaints are made at once. Here it is said what each field has to meet
for there to be no complaint about it, so that a request passes just if all of them meet it, and is refused with just
the fields that do not (`request_is_checked`).
-/

set_option autoImplicit false

namespace MapExport

/-- **A fitting text:** something to be seen in it, and not too many characters. -/
structure Fitting (most : Nat) (s : String) : Prop where
  visible : ∃ c ∈ s.toList, Text.isBlank c = false
  length : 1 ≤ s.length ∧ s.length ≤ most

namespace JobRequest

variable {project : Position → Float × Float} {r : JobRequest} {most : Nat} {message s : String}

theorem notBlank?_eq_none_iff : notBlank? s = none ↔ ∃ c ∈ s.toList, Text.isBlank c = false := by
  rw [← Text.isBlankText_eq_false_iff, notBlank?]
  by_cases h : Text.isBlankText s = true
  · rw [if_pos h]
    exact iff_of_false (Option.some_ne_none _) (by rw [h]; decide)
  · rw [if_neg h]
    exact iff_of_true rfl (Bool.eq_false_iff.mpr h)

theorem length?_eq_none_iff : length? most message s = none ↔ 1 ≤ s.length ∧ s.length ≤ most := by
  rw [length?]
  by_cases h : 1 ≤ s.length ∧ s.length ≤ most
  · rw [if_pos h]
    exact iff_of_true rfl h
  · rw [if_neg h]
    exact iff_of_false (Option.some_ne_none _) h

/-- **No complaint about a text** is made just if it is fitting. -/
theorem text_complaints_eq_nil_iff :
    (notBlank? s).toList ++ (length? most message s).toList = [] ↔ Fitting most s := by
  rw [List.append_eq_nil_iff, Option.toList_eq_nil_iff, Option.toList_eq_nil_iff, notBlank?_eq_none_iff,
    length?_eq_none_iff]
  exact ⟨fun h => ⟨h.1, h.2⟩, fun h => ⟨h.visible, h.length⟩⟩

/-- **No complaint about a geometry** is made just if nothing is wrong with it. -/
theorem geometryComplaints_eq_nil_iff {g : Geometry Position} :
    geometryComplaints project g = [] ↔ g.defectOn? project = none := by
  rw [geometryComplaints, Option.toList_eq_nil_iff, Option.map_eq_none_iff]

/-- The complaints about each of the fields that are looked at. -/
def byField (project : Position → Float × Float) (r : JobRequest) : Complaints :=
  [("name", nameComplaints r.name), ("description", descriptionComplaints r.description),
    ("geometry", geometryComplaints project r.geometry)]

theorem mem_complaints_iff {entry : String × List Complaint} :
    entry ∈ r.complaints project ↔ entry ∈ r.byField project ∧ entry.2 ≠ [] := by
  rw [complaints, List.mem_filter, byField, Bool.not_eq_true', List.isEmpty_eq_false_iff]

/-- No field is listed twice. -/
theorem nodup_complaints_fields : ((r.complaints project).map Prod.fst).Nodup := by
  have hfields : ["name", "description", "geometry"].Nodup := by decide
  exact (List.Sublist.map _ List.filter_sublist).nodup hfields

/-- Nothing is complained about just if there are no complaints about any field. -/
theorem complaints_eq_nil_iff : r.complaints project = [] ↔
    Fitting 100 r.name ∧ Fitting 1000 r.description ∧ r.geometry.defectOn? project = none := by
  rw [List.eq_nil_iff_forall_not_mem]
  simp only [mem_complaints_iff, byField, not_and_not_right, List.forall_mem_cons, List.not_mem_nil, false_implies,
    implies_true, and_true, nameComplaints, descriptionComplaints, text_complaints_eq_nil_iff,
    geometryComplaints_eq_nil_iff]

theorem checkOn_eq_error_of_ne_nil (h : r.complaints project ≠ []) :
    r.checkOn project = .error (.invalid (r.complaints project)) := by
  rw [checkOn, if_neg (mt List.isEmpty_iff.mp h)]

/-- **A request passes its check** just if its texts are fitting and nothing is wrong with its geometry. -/
theorem checkOn_eq_ok_iff : r.checkOn project = .ok () ↔
    Fitting 100 r.name ∧ Fitting 1000 r.description ∧ r.geometry.defectOn? project = none := by
  rw [← complaints_eq_nil_iff]
  by_cases h : r.complaints project = []
  · rw [checkOn, if_pos (List.isEmpty_iff.mpr h)]
    exact iff_of_true rfl h
  · rw [checkOn_eq_error_of_ne_nil h]
    exact iff_of_false nofun h

/-- **What a field has to meet.** Of the other fields nothing is asked. -/
structure Meets (r : JobRequest) (field : String) : Prop where
  name : field = "name" → Fitting 100 r.name
  description : field = "description" → Fitting 1000 r.description
  geometry : field = "geometry" → r.geometry.Usable

/-- **The fields complained about** are the ones that do not meet what is asked of them. -/
theorem mem_complaints_fields_iff {field : String} :
    field ∈ (r.complaints WebMap.project).map Prod.fst ↔ ¬ r.Meets field := by
  -- What a field has to meet is that there is nothing in its own list of complaints.
  have hmeets : r.Meets field ↔ ∀ entry ∈ r.byField WebMap.project, entry.1 = field → entry.2 = [] := by
    simp only [byField, List.forall_mem_cons, List.not_mem_nil, false_implies, implies_true, and_true,
      nameComplaints, descriptionComplaints, text_complaints_eq_nil_iff, geometryComplaints_eq_nil_iff]
    constructor
    · intro h
      exact ⟨fun e => h.name e.symm, fun e => h.description e.symm,
        fun e => Geometry.usable_iff.mp (h.geometry e.symm)⟩
    · rintro ⟨hname, hdescription, hgeometry⟩
      exact ⟨fun e => hname e.symm, fun e => hdescription e.symm,
        fun e => Geometry.usable_iff.mpr (hgeometry e.symm)⟩
  rw [hmeets, List.mem_map]
  simp only [mem_complaints_iff, not_forall, exists_prop]
  constructor
  · rintro ⟨entry, ⟨hentry, hne⟩, hfield⟩
    exact ⟨entry, hentry, hfield, hne⟩
  · rintro ⟨entry, hentry, hfield, hne⟩
    exact ⟨entry, ⟨hentry, hne⟩, hfield⟩

end JobRequest

/-- **A request passes just if each field meets what is asked of it.** A name and a description are fitting texts, a
geometry is usable. A request that does not pass is refused with one entry for each field that does not meet it, none
of them twice and none without a complaint. With a coordinate that is no finite number, no request passes. -/
theorem request_is_checked (r : JobRequest) :
    (r.check = .ok () ↔ Fitting 100 r.name ∧ Fitting 1000 r.description ∧ r.geometry.Usable) ∧
    (∀ f, r.check = .error f → ∃ complaints, f = .invalid complaints ∧
      (complaints.map Prod.fst).Nodup ∧ (∀ entry ∈ complaints, entry.2 ≠ []) ∧
      ∀ field, field ∈ complaints.map Prod.fst ↔ ¬ r.Meets field) ∧
    ∀ x ∈ r.geometry.coordinates, x.isFinite = false → r.check ≠ .ok () := by
  have hpasses : r.check = .ok () ↔ Fitting 100 r.name ∧ Fitting 1000 r.description ∧ r.geometry.Usable := by
    rw [JobRequest.check, JobRequest.checkOn_eq_ok_iff, Geometry.usable_iff, Geometry.defect?]
  refine ⟨hpasses, ?_, ?_⟩
  · intro f hf
    rw [JobRequest.check] at hf
    have hne : r.complaints WebMap.project ≠ [] := by
      intro hnil
      rw [JobRequest.checkOn_eq_ok_iff.mpr (JobRequest.complaints_eq_nil_iff.mp hnil)] at hf
      cases hf
    rw [JobRequest.checkOn_eq_error_of_ne_nil hne, Except.error.injEq] at hf
    refine ⟨r.complaints WebMap.project, hf.symm, JobRequest.nodup_complaints_fields, ?_, ?_⟩
    · intro entry hentry
      exact (JobRequest.mem_complaints_iff.mp hentry).2
    · intro field
      exact JobRequest.mem_complaints_fields_iff
  · intro x hx hinfinite hok
    have hfinite := (hpasses.mp hok).2.2.isFinite hx
    rw [hinfinite] at hfinite
    exact Bool.false_ne_true hfinite

/-- A request with a blank name, and a ring with a longitude that is no number. -/
def trialBlank : JobRequest where
  name := " \t"
  description := "La vieille ville"
  geometry := .polygon [[⟨0.0 / 0.0, 45.5⟩, ⟨7.0, 45.5⟩, ⟨7.0, 45.75⟩, ⟨0.0 / 0.0, 45.5⟩]]
  formats := []
  preset := none
  translation := none
  transform := none
  providers := []
  published := false

/-- It is refused for its name and its geometry, and not for its description. -/
theorem trial_request_is_checked : ∃ complaints, trialBlank.check = .error (.invalid complaints) ∧
    "name" ∈ complaints.map Prod.fst ∧ "geometry" ∈ complaints.map Prod.fst ∧
      "description" ∉ complaints.map Prod.fst := by
  have hx : (0.0 / 0.0 : Float) ∈ trialBlank.geometry.coordinates := List.mem_cons_self
  have hrefused := (request_is_checked trialBlank).2.2 _ hx (by decide)
  have hname : ¬ Fitting 100 trialBlank.name := fun h =>
    absurd (Text.isBlankText_eq_false_iff.mpr h.visible) (by decide)
  have hdescription : Fitting 1000 trialBlank.description :=
    ⟨Text.isBlankText_eq_false_iff.mp (by decide), by decide⟩
  have hgeometry : ¬ trialBlank.geometry.Usable := fun h => absurd (h.isFinite hx) (by decide)
  cases hcheck : trialBlank.check with
  | ok u => exact absurd hcheck hrefused
  | error f =>
    obtain ⟨complaints, rfl, -, -, hfields⟩ := (request_is_checked trialBlank).2.1 f hcheck
    refine ⟨complaints, rfl, ?_, ?_, ?_⟩
    · exact (hfields _).mpr fun h => hname (h.name rfl)
    · exact (hfields _).mpr fun h => hgeometry (h.geometry rfl)
    · rw [hfields, not_not]
      exact ⟨fun h => absurd h (by decide), fun _ => hdescription, fun h => absurd h (by decide)⟩

end MapExport
