import MapExport.Estimate.Aggregation
import MapExport.Proofs.Decimal.Nonzero
import MapExport.Proofs.Workflow.Course

/-!
# Nothing is divided by zero

Estimates divide by numbers of things and by areas, and they look values up by their place. Here they are worked out
once more, step by step, and every division is refused whose divisor is one of the two zeros, every look-up that is out
of range, and every place before the first one. Nothing is ever refused: a checked estimate makes the same calls and
comes to the same value, whatever the answers are (`Checked.estimate_eq`). What protects a division is in each case a
comparison made before it, and that a number of things stays other than zero when it is made a double.
-/

set_option autoImplicit false

namespace MapExport.Estimate

open Decimal (beq_zero_of_isNonzero isNonzero_ofNat isNonzero_of_pos)

namespace Checked

/-! ## Checked arithmetic -/

/-- **A division,** refused if the divisor is zero. -/
def divide (x y : Float) : Option Float := if y == 0.0 then none else some (x / y)

/-- The place before another one, refused if that is the first. -/
def previous (i : Nat) : Option Nat := if i = 0 then none else some (i - 1)

/-- The median, looked up in range. -/
def median (xs : List Float) : Option Float :=
  let sorted := sortValues xs
  let mid := sorted.length / 2
  if sorted.length % 2 = 0 then do
    let low ← sorted[← previous mid]?
    let high ← sorted[mid]?
    divide (low + high) 2.0
  else sorted[mid]?

def mean (xs : List Float) : Option Float := divide (Measuring.sum xs) (Float.ofNat xs.length)

def variance (xs : List Float) : Option Float := do
  let m ← mean xs
  mean (xs.map fun x => (x - m) * (x - m))

def removeOutliers (xs : List Float) (deviations : Float) : Option (List Float) :=
  if xs.length ≤ 3 then some xs
  else do
    let spread ← variance xs
    if Averaging.isSteady spread then return xs
    let centre ← median xs
    return xs.filter (Averaging.isWithin centre deviations spread)

/-- The average, if there is one. -/
def average (rs : List Float) : Option (Option Float) := do
  let kept ← removeOutliers rs deviations
  if kept.isEmpty then return none
  return some (← mean kept)

/-! ## Checked estimates -/

/-- A workflow of calls for estimates in which a step may be refused. -/
abbrev Flow := OptionT EstimateFlow

/-- Goes on if a step is not refused. -/
def allow {α : Type} (x : Option α) : Flow α := OptionT.mk (pure x)

def ratioByCount (provider : Provider) (run : Footprint) : Flow (Option Float) := do
  match ← (tryCount run.geometry : EstimateFlow (Except Failure Nat)) with
  | .error _ => return none
  | .ok count =>
    if count = 0 then return none
    else
      let size ← (runSize run.run provider.name countedLeast : EstimateFlow Float)
      if size > 0.0 then return some (← allow (divide size (Float.ofNat count))) else return none

def ratioByArea (provider : Provider) (run : Footprint) : Flow (Option Float) := do
  let area := run.geometry.mapArea * 0.000001
  let size ← (runSize run.run provider.name measuredLeast : EstimateFlow Float)
  if size > 0.0 ∧ area > 0.0 then return some (← allow (divide size area)) else return none

def ratio (provider : Provider) (run : Footprint) : Flow (Option Float) :=
  if provider.slug = countedSlug then ratioByCount provider run else ratioByArea provider run

def ratios (provider : Provider) : List Footprint → Flow (List Float)
  | [] => pure []
  | run :: rest => do
    let r ← ratio provider run
    let rs ← ratios provider rest
    return r.toList ++ rs

/-- **The average size** for a provider, every step checked. -/
def estimate (provider : Provider) : Flow (Option Float) := do
  let runs : List Footprint ← ask (.recentRuns provider.uid sampleSize)
  if runs.isEmpty then return none
  else allow (average (← ratios provider runs))

/-! ## No value is refused -/

theorem divide_eq (x : Float) {y : Float} (h : Decimal.IsNonzero y) : divide x y = some (x / y) := by
  rw [divide, beq_zero_of_isNonzero h, if_neg Bool.false_ne_true]

variable {xs : List Float}

theorem mean_eq (h : xs ≠ []) : mean xs = some (Estimate.mean xs) :=
  divide_eq _ (isNonzero_ofNat (List.length_pos_iff.mpr h).ne')

theorem variance_eq (h : xs ≠ []) : variance xs = some (Estimate.variance xs) := by
  rw [variance, mean_eq h, Option.bind_eq_bind, Option.bind_some, mean_eq (by simpa using h)]
  rfl

/-- The middle of values is among them, and if their number is even so is the one before. -/
theorem median_eq (h : xs ≠ []) : median xs = some (Estimate.median xs) := by
  have hpos : 0 < (sortValues xs).length := by
    rw [sortValues, List.length_mergeSort]
    exact List.length_pos_iff.mpr h
  have htwo : Decimal.IsNonzero 2.0 := isNonzero_of_pos (by decide +kernel)
  have hplace {i : Nat} (hi : i < (sortValues xs).length) :
      (sortValues xs)[i]? = some ((sortValues xs).getD i Measuring.zero) := by
    rw [List.getElem?_eq_getElem hi, List.getD_eq_getElem _ _ hi]
  rw [median, Estimate.median]
  split
  · have hprevious : previous ((sortValues xs).length / 2) = some ((sortValues xs).length / 2 - 1) := by
      rw [previous, if_neg (by omega)]
    rw [hprevious, Option.bind_eq_bind, Option.bind_some, hplace (by omega), hplace (by omega)]
    exact divide_eq _ htwo
  · exact hplace (by omega)

/-- **Removing outliers** is never refused. -/
theorem removeOutliers_eq (xs : List Float) (deviations : Float) :
    removeOutliers xs deviations = some (Estimate.removeOutliers xs deviations) := by
  rw [removeOutliers, Estimate.removeOutliers]
  split
  · rfl
  · next hmany =>
    -- There are more than three values here, so there is a mean and a median.
    have hne : xs ≠ [] := by
      rintro rfl
      exact hmany (Nat.zero_le 3)
    rw [variance_eq hne, median_eq hne]
    dsimp only [Option.bind_eq_bind, Option.bind_some]
    split <;> rfl

/-- **Averaging** is never refused. -/
theorem average_eq (rs : List Float) : average rs = some (Estimate.average rs) := by
  rw [average, Estimate.average, removeOutliers_eq]
  dsimp only [Option.bind_eq_bind, Option.bind_some]
  split
  · rfl
  · next hkept =>
    rw [mean_eq (by simpa using hkept)]
    rfl

/-! ## No step is refused -/

/-- **Never refused:** the checked workflow is the workflow. -/
def NeverRefused {α : Type} (checked : Flow α) (plain : EstimateFlow α) : Prop := checked.run = some <$> plain

section

variable {α β : Type}

theorem neverRefused_pure (a : α) : NeverRefused (pure a) (pure a) := by
  rw [NeverRefused, OptionT.run_pure, map_pure]

theorem neverRefused_lift (x : EstimateFlow α) : NeverRefused (liftM x) x := by
  rw [NeverRefused, liftM, OptionT.run_monadLift, monadLift_self]

theorem neverRefused_allow {x : Option α} {a : α} (h : x = some a) : NeverRefused (allow x) (pure a) := by
  rw [h]
  exact neverRefused_pure a

theorem NeverRefused.bind {checked : Flow α} {plain : EstimateFlow α} {k : α → Flow β} {l : α → EstimateFlow β}
    (hfirst : NeverRefused checked plain) (hsecond : ∀ a, NeverRefused (k a) (l a)) :
    NeverRefused (checked >>= k) (plain >>= l) := by
  rw [NeverRefused, OptionT.run_bind, hfirst, Option.elimM, bind_map_left, map_bind]
  exact bind_congr hsecond

end

theorem neverRefused_ratioByCount (provider : Provider) (run : Footprint) :
    NeverRefused (ratioByCount provider run) (Estimate.ratioByCount provider run) := by
  refine (neverRefused_lift _).bind fun reply => ?_
  cases reply with
  | error e => exact neverRefused_pure none
  | ok count =>
    dsimp only
    split
    · exact neverRefused_pure none
    · next hcount =>
      refine (neverRefused_lift _).bind fun size => ?_
      split
      · exact (neverRefused_allow (divide_eq size (isNonzero_ofNat hcount))).bind fun _ => neverRefused_pure _
      · exact neverRefused_pure none

theorem neverRefused_ratioByArea (provider : Provider) (run : Footprint) :
    NeverRefused (ratioByArea provider run) (Estimate.ratioByArea provider run) := by
  refine (neverRefused_lift _).bind fun size => ?_
  split
  · next hboth =>
    exact (neverRefused_allow (divide_eq size (isNonzero_of_pos hboth.2))).bind fun _ => neverRefused_pure _
  · exact neverRefused_pure none

theorem neverRefused_ratios (provider : Provider) (runs : List Footprint) :
    NeverRefused (ratios provider runs) (Estimate.ratios provider runs) := by
  induction runs with
  | nil => exact neverRefused_pure []
  | cons run runs ih =>
    have hratio : NeverRefused (ratio provider run) (Estimate.ratio provider run) := by
      rw [ratio, Estimate.ratio]
      split
      · exact neverRefused_ratioByCount provider run
      · exact neverRefused_ratioByArea provider run
    exact hratio.bind fun r => ih.bind fun rs => neverRefused_pure _

/-- **An estimate** is never refused. -/
theorem estimate_eq (provider : Provider) : NeverRefused (estimate provider) (Estimate.estimate provider) := by
  refine (neverRefused_lift _).bind fun runs => ?_
  split
  · exact neverRefused_pure none
  · exact (neverRefused_ratios provider runs).bind fun rs => neverRefused_allow (average_eq rs)

end Checked

end MapExport.Estimate
