import MapExport.Text.Blank
import MapExport.Text.LowerCase

/-!
# Slugs

Formats and providers are asked for by slug. A slug is compared without the blanks around it and without
regard to case, an empty one asks for nothing, and asking twice is asking once.
-/

set_option autoImplicit false

namespace MapExport.Slug

/-- **The normal form** of a slug. -/
def normal (slug : String) : String := Text.lower (Text.trim slug)

/-- Adds a slug to others, unless it is empty or already among them. -/
def add (slugs : List String) (slug : String) : List String :=
  if normal slug = "" ∨ normal slug ∈ slugs then slugs else slugs ++ [normal slug]

/-- **The slugs of a request,** in normal form, each once, in the order in which they first come. -/
def normalize (slugs : List String) : List String := slugs.foldl add []

/-! ## Gathering one more -/

variable {slugs : List String} {slug x : String}

/-- The slugs of a longer list. -/
theorem normalize_append_singleton (slugs : List String) (slug : String) :
    normalize (slugs ++ [slug]) = add (normalize slugs) slug := by
  rw [normalize, List.foldl_append, List.foldl_cons, List.foldl_nil, ← normalize]

theorem add_of_absent (h : normal slug = "" ∨ normal slug ∈ slugs) : add slugs slug = slugs := by
  rw [add, if_pos h]

theorem add_of_new (hempty : normal slug ≠ "") (hnew : normal slug ∉ slugs) :
    add slugs slug = slugs ++ [normal slug] := by
  rw [add, if_neg (not_or.mpr ⟨hempty, hnew⟩)]

theorem mem_add_iff : x ∈ add slugs slug ↔ x ∈ slugs ∨ x ≠ "" ∧ normal slug = x := by
  by_cases h : normal slug = "" ∨ normal slug ∈ slugs
  · rw [add_of_absent h]
    refine ⟨.inl, ?_⟩
    rintro (hx | ⟨hempty, rfl⟩)
    · exact hx
    · exact h.resolve_left hempty
  · obtain ⟨hempty, hnew⟩ := not_or.mp h
    rw [add_of_new hempty hnew, List.mem_append, List.mem_singleton]
    refine or_congr_right ⟨?_, fun hx => hx.2.symm⟩
    rintro rfl
    exact ⟨hempty, rfl⟩

/-- A slug is not added twice. -/
theorem nodup_add (h : slugs.Nodup) (slug : String) : (add slugs slug).Nodup := by
  rw [add]
  generalize normal slug = normal
  split
  · exact h
  · next hnew =>
    rw [List.nodup_append]
    refine ⟨h, List.pairwise_singleton _ _, fun a ha b hb heq => hnew (.inr ?_)⟩
    rw [← List.mem_singleton.mp hb, ← heq]
    exact ha

/-- **Slugs in normal form** come once each. -/
theorem nodup_normalize (slugs : List String) : (normalize slugs).Nodup := by
  have hfrom (done : List String) (h : done.Nodup) : (slugs.foldl add done).Nodup := by
    induction slugs generalizing done with
    | nil => exact h
    | cons slug slugs ih =>
      rw [List.foldl_cons]
      exact ih (add done slug) (nodup_add h slug)
  rw [normalize]
  exact hfrom [] List.nodup_nil

end MapExport.Slug
