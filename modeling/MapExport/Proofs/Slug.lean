import Mathlib.Data.List.Nodup
import MapExport.Proofs.Text.LowerCase
import MapExport.Slug

/-!
# Slugs in normal form

Slugs are gathered one by one, each in its normal form and only if it is not there yet. So no slug is asked for twice,
each stands where it was asked for first, and what comes later in a list only adds at the end. A normal form is its own
normal form, so slugs that were gathered once are not changed by gathering them again.
-/

set_option autoImplicit false

namespace MapExport.Slug

variable {slugs : List String} {slug x : String}

/-- **What is asked for:** the normal forms of the slugs, other than the empty one. -/
theorem mem_normalize_iff : x ∈ normalize slugs ↔ x ≠ "" ∧ ∃ slug ∈ slugs, normal slug = x := by
  induction slugs using List.reverseRecOn with
  | nil => simp [normalize]
  | append_singleton slugs slug ih =>
    rw [normalize_append_singleton, mem_add_iff, ih]
    constructor
    · rintro (⟨hempty, other, hother, hx⟩ | ⟨hempty, hx⟩)
      · exact ⟨hempty, other, List.mem_append_left _ hother, hx⟩
      · exact ⟨hempty, slug, List.mem_append_right _ (List.mem_singleton_self _), hx⟩
    · rintro ⟨hempty, other, hother, hx⟩
      rcases List.mem_append.mp hother with hother | hlast
      · exact .inl ⟨hempty, other, hother, hx⟩
      · rw [List.mem_singleton.mp hlast] at hx
        exact .inr ⟨hempty, hx⟩

theorem mem_map_of_mem_normalize (h : x ∈ normalize slugs) : x ∈ slugs.map normal := by
  obtain ⟨-, slug, hslug, rfl⟩ := mem_normalize_iff.mp h
  exact List.mem_map_of_mem hslug

/-- **Slugs come in the order** in which their normal forms first come. -/
theorem pairwise_normalize (slugs : List String) :
    (normalize slugs).Pairwise fun x y => (slugs.map normal).idxOf x < (slugs.map normal).idxOf y := by
  induction slugs using List.reverseRecOn with
  | nil => exact .nil
  | append_singleton slugs slug ih =>
    -- What was there before stays in its place in the longer list.
    have hplace {x : String} (hx : x ∈ normalize slugs) :
        (slugs.map normal ++ [normal slug]).idxOf x = (slugs.map normal).idxOf x :=
      List.idxOf_append_of_mem (mem_map_of_mem_normalize hx)
    have hkept : (normalize slugs).Pairwise fun x y =>
        (slugs.map normal ++ [normal slug]).idxOf x < (slugs.map normal ++ [normal slug]).idxOf y := by
      refine ih.imp_of_mem fun hx hy hlt => ?_
      rwa [hplace hx, hplace hy]
    rw [normalize_append_singleton, List.map_append, List.map_singleton]
    by_cases h : normal slug = "" ∨ normal slug ∈ normalize slugs
    · rwa [add_of_absent h]
    · obtain ⟨hempty, hnew⟩ := not_or.mp h
      have habsent : normal slug ∉ slugs.map normal := by
        intro hmem
        obtain ⟨other, hother, hsame⟩ := List.mem_map.mp hmem
        exact hnew (mem_normalize_iff.mpr ⟨hempty, other, hother, hsame⟩)
      rw [add_of_new hempty hnew, List.pairwise_append]
      refine ⟨hkept, List.pairwise_singleton _ _, fun x hx y hy => ?_⟩
      rw [List.mem_singleton.mp hy, hplace hx, List.idxOf_append_of_notMem habsent, List.idxOf_cons_self, Nat.add_zero]
      exact List.idxOf_lt_length_of_mem (mem_map_of_mem_normalize hx)

/-- **What comes later** only adds at the end, and only what is not there yet. -/
theorem normalize_append (first second : List String) :
    normalize (first ++ second) = normalize first ++ (normalize second).filter (· ∉ normalize first) := by
  induction second using List.reverseRecOn with
  | nil => simp [normalize]
  | append_singleton second slug ih =>
    rw [← List.append_assoc, normalize_append_singleton, normalize_append_singleton, ih]
    -- One more slug is added on both sides or on neither: what is in the first part is taken out on the right after it
    -- was added there.
    by_cases hempty : normal slug = ""
    · rw [add_of_absent (.inl hempty), add_of_absent (.inl hempty)]
    · by_cases hfirst : normal slug ∈ normalize first
      · rw [add_of_absent (.inr (List.mem_append_left _ hfirst))]
        by_cases hsecond : normal slug ∈ normalize second
        · rw [add_of_absent (.inr hsecond)]
        · rw [add_of_new hempty hsecond, List.filter_append, List.filter_singleton]
          simp [hfirst]
      · by_cases hsecond : normal slug ∈ normalize second
        · have hthere : normal slug ∈ (normalize second).filter (· ∉ normalize first) :=
            List.mem_filter.mpr ⟨hsecond, decide_eq_true hfirst⟩
          rw [add_of_absent (.inr hsecond), add_of_absent (.inr (List.mem_append_right _ hthere))]
        · have hnew : normal slug ∉ normalize first ++ (normalize second).filter (· ∉ normalize first) := by
            rw [List.mem_append, not_or]
            exact ⟨hfirst, fun h => hsecond (List.mem_of_mem_filter h)⟩
          rw [add_of_new hempty hsecond, add_of_new hempty hnew, List.filter_append, List.filter_singleton,
            List.append_assoc]
          simp [hfirst]

/-! ## Normal forms are normal -/

/-- **A normal form** is its own normal form. -/
theorem normal_normal (slug : String) : normal (normal slug) = normal slug := by
  rw [normal, normal, (Text.tidy_trim slug).lower.trim_eq, Text.lower_lower]

/-- Different slugs in normal form are gathered as they are. -/
theorem normalize_eq_self (hnodup : slugs.Nodup) (h : ∀ x ∈ slugs, x ≠ "" ∧ normal x = x) :
    normalize slugs = slugs := by
  induction slugs using List.reverseRecOn with
  | nil => rfl
  | append_singleton slugs slug ih =>
    obtain ⟨hslugs, -, hapart⟩ := List.nodup_append.mp hnodup
    obtain ⟨hempty, hnormal⟩ := h slug (List.mem_append_right _ (List.mem_singleton_self _))
    have hnew : slug ∉ slugs := fun hmem => hapart slug hmem slug (List.mem_singleton_self _) rfl
    rw [normalize_append_singleton, ih hslugs fun x hx => h x (List.mem_append_left _ hx)]
    rw [← hnormal] at hempty hnew
    rw [add_of_new hempty hnew, hnormal]

/-- **Gathering again** changes nothing. -/
theorem normalize_normalize (slugs : List String) : normalize (normalize slugs) = normalize slugs := by
  apply normalize_eq_self (nodup_normalize slugs)
  intro x hx
  obtain ⟨hempty, slug, -, rfl⟩ := mem_normalize_iff.mp hx
  exact ⟨hempty, normal_normal slug⟩

end MapExport.Slug
