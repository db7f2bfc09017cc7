import MapExport.FeatureCount.Query
import MapExport.Proofs.Text.Numerals
import MapExport.Proofs.Text.Trim

/-!
# Which count is in a reply

The reply is searched for the count along a path, and what is found there has to be a whole number of sixty-four bits.
Here both are said without the search and without the arithmetic: where the count stands (`TotalOf`), and which number
a document counts (`Counts`). A number that does not fit is not cut down to one that does; the reply is refused.
-/

set_option autoImplicit false

namespace MapExport

namespace Json

/-- A step that is no number leads to a member. -/
theorem step?_of_no_number {step : String} (h : Text.number? (Text.maxBits 64) step = none) (j : Json) :
    j.step? step = j.member? step := by
  cases j with
  | list items =>
    rw [step?, h, Option.bind_none, ite_self]
    rfl
  | _ => rfl

/-- The step `0` leads to the first item of a list, or to a member of that name. -/
theorem step?_zero_eq_some_iff {j first : Json} :
    j.step? "0" = some first ↔ j.item? 0 = some first ∨ j.member? "0" = some first := by
  cases j with
  | list items =>
    have hzero : Text.number? (Text.maxBits 64) "0" = some 0 := by decide
    rw [step?, hzero, if_neg (by decide +kernel), Option.bind_some]
    exact (or_iff_left nofun).symm
  | record members => exact (or_iff_right nofun).symm
  | _ => exact iff_of_false nofun (not_or_intro nofun nofun)

end Json

namespace FeatureCount

open Text

/-- **Where the count stands in a reply:** among its elements, which are a list or a record, in the first one or the
one of the name `0`, as the total of the tags. -/
def TotalOf (j total : Json) : Prop :=
  ∃ elements first tags, j.member? "elements" = some elements ∧
    (elements.item? 0 = some first ∨ elements.member? "0" = some first) ∧
    first.member? "tags" = some tags ∧ tags.member? "total" = some total

/-- **What counts:** a whole number of sixty-four bits that is not negative, or a text that spells one between
blanks. -/
inductive Counts : Json → Nat → Prop where
  | whole {n : Nat} : n < 2 ^ 64 → Counts (.whole n) n
  | text {s : String} {n : Nat} : Spells (trim s) n → n < 2 ^ 64 → Counts (.text s) n

theorem path?_totalPath_iff {j total : Json} : j.path? totalPath = some total ↔ TotalOf j total := by
  have hname : ∀ step ∈ ["elements", "tags", "total"], Text.number? (Text.maxBits 64) step = none := by decide
  simp only [List.forall_mem_cons] at hname
  obtain ⟨helements, htags, htotal, -⟩ := hname
  simp only [Json.path?, totalPath, List.foldlM_cons, List.foldlM_nil, Option.bind_eq_bind, Option.bind_eq_some_iff,
    Json.step?_of_no_number helements, Json.step?_of_no_number htags, Json.step?_of_no_number htotal,
    Json.step?_zero_eq_some_iff]
  constructor
  · rintro ⟨elements, helements, first, hfirst, tags, htags, last, hlast, heq⟩
    cases heq
    exact ⟨elements, first, tags, helements, hfirst, htags, hlast⟩
  · rintro ⟨elements, first, tags, helements, hfirst, htags, htotal⟩
    exact ⟨elements, helements, first, hfirst, tags, htags, total, htotal, rfl⟩

theorem number?_eq_some_iff {total : Json} {n : Nat} : number? total = some n ↔ Counts total n := by
  cases total with
  | whole m =>
    rw [number?, Option.filter_eq_some_iff, decide_eq_true_iff, le_maxBits_iff, Int.mem_toNat?]
    constructor
    · rintro ⟨rfl, hlt⟩
      exact .whole hlt
    · intro h
      cases h with
      | whole hlt => exact ⟨rfl, hlt⟩
  | text s =>
    rw [number?, Text.number?_eq_some_iff, le_maxBits_iff]
    constructor
    · rintro ⟨hspells, hlt⟩
      exact .text hspells hlt
    · intro h
      cases h with
      | text hspells hlt => exact ⟨hspells, hlt⟩
  | _ => exact iff_of_false nofun nofun

theorem ofReply_eq_ok_iff {j : Json} {n : Nat} : ofReply j = .ok n ↔ ∃ total, TotalOf j total ∧ Counts total n := by
  simp only [← path?_totalPath_iff, ← number?_eq_some_iff]
  rw [ofReply]
  cases j.path? totalPath with
  | none => simp
  | some total => cases hnumber : number? total with
    | none => simp [hnumber]
    | some m => simp [hnumber]

/-- A reply is refused only as one that cannot be understood. -/
theorem ofReply_eq_error {j : Json} {e : Failure} (h : ofReply j = .error e) : ∃ reason, e = .unreadable reason := by
  rw [ofReply] at h
  cases hpath : j.path? totalPath with
  | none =>
    rw [hpath] at h
    exact ⟨_, (Except.error.inj h).symm⟩
  | some total =>
    rw [hpath] at h
    cases hnumber : number? total with
    | none =>
      simp only [hnumber] at h
      exact ⟨_, (Except.error.inj h).symm⟩
    | some n => simp [hnumber] at h

end FeatureCount

open FeatureCount in
/-- **The count in a reply is read just as it is written.** A count comes back exactly where the total is a whole number
that fits or a text that spells one, and it is that number; every other reply is refused as one that cannot be
understood. So a number that fits is read back from either form. -/
theorem counts_are_read (j : Json) :
    (∀ n, ofReply j = .ok n ↔ ∃ total, TotalOf j total ∧ Counts total n) ∧
    ((∀ total n, TotalOf j total → ¬ Counts total n) → ∃ reason, ofReply j = .error (.unreadable reason)) ∧
    ∀ n : Nat, n < 2 ^ 64 → TotalOf j (.whole n) ∨ TotalOf j (.text (toString n)) → ofReply j = .ok n := by
  refine ⟨fun n => ofReply_eq_ok_iff, ?_, ?_⟩
  · intro hnone
    cases hreply : ofReply j with
    | ok n =>
      obtain ⟨total, htotal, hcounts⟩ := ofReply_eq_ok_iff.mp hreply
      exact absurd hcounts (hnone total n htotal)
    | error e =>
      obtain ⟨reason, rfl⟩ := ofReply_eq_error hreply
      exact ⟨reason, rfl⟩
  · rintro n hlt (hwhole | htext)
    · exact ofReply_eq_ok_iff.mpr ⟨_, hwhole, .whole hlt⟩
    · have hspells : Text.Spells (Text.trim (toString n)) n := by
        rw [Text.trim_toString]
        exact Text.spells_toString n
      exact ofReply_eq_ok_iff.mpr ⟨_, htext, .text hspells hlt⟩

/-- A reply with some total. -/
def FeatureCount.trialReply (total : Json) : Json :=
  .record [("elements", .list [.record [("tags", .record [("nodes", .text "1"), ("total", total)])]])]

open FeatureCount in
/-- The largest number that fits is read, and the next one refused. -/
theorem trial_counts_are_read :
    ofReply (trialReply (.text "18446744073709551615")) = .ok 18446744073709551615 ∧
      ∃ reason, ofReply (trialReply (.whole 18446744073709551616)) = .error (.unreadable reason) := by
  have hplace (total : Json) : TotalOf (trialReply total) total := ⟨_, _, _, rfl, .inl rfl, rfl, rfl⟩
  have honly (total other : Json) (h : TotalOf (trialReply total) other) : other = total := by
    obtain ⟨elements, first, tags, helements, hfirst, htags, htotal⟩ := h
    obtain rfl := Option.some.inj helements
    obtain rfl := Option.some.inj (hfirst.resolve_right nofun)
    obtain rfl := Option.some.inj htags
    exact (Option.some.inj htotal).symm
  refine ⟨(counts_are_read _).2.2 _ (by decide) (.inr (hplace _)), (counts_are_read _).2.1 ?_⟩
  intro total n htotal hcounts
  obtain rfl := honly _ _ htotal
  cases hcounts with
  | whole hlt => exact absurd hlt (by decide)

end MapExport
