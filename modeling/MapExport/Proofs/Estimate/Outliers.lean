import Mathlib
import MapExport.Estimate.Aggregation

/-!
# Outliers are few

With exact numbers in place of doubles it can be said how many values are taken for outliers. The median is at most
one standard deviation away from the mean, so the squared distances from the median add up to at most twice the
variance for each value, and every outlier takes its share of that sum: of `n` values at most `2 * n / d ^ 2` lie `d`
standard deviations or more away from the median (`most_values_are_kept`). For the two deviations of the service that
is half of them at the most, so an average never fails for want of values that are kept.

The standard deviation itself need not be a rational number, so distances are compared with it by their squares.
-/

set_option autoImplicit false

namespace MapExport

/-- Exact numbers are measured without rounding. -/
instance : Measuring ℚ where
  emptySum := 0
  zero := 0
  half x := x / 2
  magnitude x := |x|
  positivePart x := max x 0

/-- **Exact numbers are averaged** without rounding, and without roots: a distance is less than a positive number of
standard deviations if its square is less than the square of that number times the variance. -/
instance : Averaging ℚ where
  ofNat n := n
  inOrder a b := decide (a ≤ b)
  isSteady variance := decide (variance = 0)
  isWithin centre deviations variance x :=
    decide (0 < deviations) && decide ((x - centre) ^ 2 < deviations ^ 2 * variance)

namespace Estimate

open Averaging (isSteady isWithin)

section

variable {xs : List ℚ} {centre deviations variance x : ℚ}

theorem isSteady_iff : isSteady variance = true ↔ variance = 0 := decide_eq_true_iff

theorem isWithin_iff : isWithin centre deviations variance x = true ↔
    0 < deviations ∧ (x - centre) ^ 2 < deviations ^ 2 * variance := by
  simp [isWithin]

/-- **Comparing squares** is comparing the distance with so many standard deviations. -/
theorem isWithin_iff_abs_lt (h : 0 ≤ variance) :
    isWithin centre deviations variance x = true ↔ |((x - centre : ℚ) : ℝ)| < deviations * √variance := by
  have hroot : 0 ≤ √(variance : ℝ) := Real.sqrt_nonneg _
  have hsquare : (deviations * √(variance : ℝ)) ^ 2 = ((deviations ^ 2 * variance : ℚ) : ℝ) := by
    rw [mul_pow, Real.sq_sqrt (by exact_mod_cast h)]
    norm_cast
  have hcast : (x - centre) ^ 2 < deviations ^ 2 * variance ↔
      |((x - centre : ℚ) : ℝ)| ^ 2 < (deviations * √(variance : ℝ)) ^ 2 := by
    rw [hsquare, sq_abs]
    exact_mod_cast Iff.rfl
  rw [isWithin_iff, hcast]
  constructor
  · rintro ⟨hpositive, hless⟩
    have hbound : 0 ≤ (deviations : ℝ) * √variance := mul_nonneg (by exact_mod_cast hpositive.le) hroot
    exact lt_of_pow_lt_pow_left₀ 2 hbound hless
  · intro hless
    have hbound : 0 < (deviations : ℝ) * √variance := (abs_nonneg _).trans_lt hless
    have hpositive : 0 < (deviations : ℝ) := pos_of_mul_pos_left hbound hroot
    exact ⟨by exact_mod_cast hpositive, pow_lt_pow_left₀ hless (abs_nonneg _) two_ne_zero⟩

end

section

variable {xs : List ℚ}

/-! ## Sums -/

theorem sum_eq (xs : List ℚ) : Measuring.sum xs = xs.sum := by
  rw [List.sum_eq_foldl]
  rfl

theorem mean_eq (xs : List ℚ) : mean xs = xs.sum / xs.length := by
  rw [mean, sum_eq]
  rfl

theorem variance_eq (xs : List ℚ) : variance xs = (xs.map fun x => (x - mean xs) ^ 2).sum / xs.length := by
  simp only [sq]
  rw [variance, mean_eq (xs.map _), List.length_map]

theorem length_mul_mean (xs : List ℚ) : xs.length * mean xs = xs.sum := by
  rw [mean_eq]
  cases xs with
  | nil => simp
  | cons x xs => exact mul_div_cancel₀ _ (by simp; positivity)

/-- The squared distances from one number, told by those from another one. -/
theorem sum_sq_sub (xs : List ℚ) (a b : ℚ) : (xs.map fun x => (x - b) ^ 2).sum =
    (xs.map fun x => (x - a) ^ 2).sum + 2 * (a - b) * (xs.sum - xs.length * a) + xs.length * (a - b) ^ 2 := by
  induction xs with
  | nil => simp
  | cons x xs ih =>
    simp only [List.map_cons, List.sum_cons, List.length_cons, ih]
    push_cast
    ring

/-- **The squared distances from any number** exceed those from the mean by its own squared distance, for each value. -/
theorem sum_sq_sub_eq (xs : List ℚ) (c : ℚ) : (xs.map fun x => (x - c) ^ 2).sum =
    xs.length * (variance xs + (mean xs - c) ^ 2) := by
  have hvariance : xs.length * variance xs = (xs.map fun x => (x - mean xs) ^ 2).sum := by
    rw [variance_eq]
    cases xs with
    | nil => simp
    | cons x xs => exact mul_div_cancel₀ _ (by simp; positivity)
  rw [sum_sq_sub xs (mean xs) c, length_mul_mean, mul_add, hvariance]
  ring

theorem variance_nonneg (xs : List ℚ) : 0 ≤ variance xs := by
  rw [variance_eq]
  refine div_nonneg (List.sum_nonneg ?_) (Nat.cast_nonneg _)
  intro y hy
  obtain ⟨x, -, rfl⟩ := List.mem_map.mp hy
  exact sq_nonneg _

/-- **Counting by shares:** where each of the values counted takes at least a share of a sum, there are no more of them
than the sum has shares. -/
theorem countP_mul_le_sum {p : ℚ → Bool} {f : ℚ → ℚ} {share : ℚ} (hnonneg : ∀ x ∈ xs, 0 ≤ f x)
    (hshare : ∀ x ∈ xs, p x = true → share ≤ f x) : xs.countP p * share ≤ (xs.map f).sum := by
  induction xs with
  | nil => simp
  | cons x xs ih =>
    have hrest := ih (fun y hy => hnonneg y (List.mem_cons_of_mem _ hy))
      (fun y hy => hshare y (List.mem_cons_of_mem _ hy))
    rw [List.map_cons, List.sum_cons, List.countP_cons]
    cases hx : p x with
    | true =>
      have hfirst : share ≤ f x := hshare x List.mem_cons_self hx
      rw [if_pos rfl]
      push_cast
      linarith
    | false =>
      have hfirst : 0 ≤ f x := hnonneg x List.mem_cons_self
      rw [if_neg Bool.false_ne_true, Nat.add_zero]
      linarith

/-! ## The median -/

theorem sortValues_perm (xs : List ℚ) : (sortValues xs).Perm xs := List.mergeSort_perm xs _

theorem pairwise_sortValues (xs : List ℚ) : (sortValues xs).Pairwise (· ≤ ·) := by
  refine (List.pairwise_mergeSort ?_ ?_ xs).imp ?_
  · intro a b c hab hbc
    exact decide_eq_true ((of_decide_eq_true hab).trans (of_decide_eq_true hbc))
  · intro a b
    rw [Bool.or_eq_true]
    exact (le_total a b).imp decide_eq_true decide_eq_true
  · intro a b hab
    exact of_decide_eq_true hab

section

variable {sorted : List ℚ} {m : ℚ} {i : ℕ}

theorem getElem_le_getElem (hsorted : sorted.Pairwise (· ≤ ·)) {j : ℕ} (hj : j < sorted.length) (hij : i ≤ j) :
    sorted[i] ≤ sorted[j] := by
  rcases hij.lt_or_eq with hlt | rfl
  · exact List.pairwise_iff_getElem.mp hsorted i j _ hj hlt
  · exact le_rfl

/-- Of sorted values, those up to a place are no greater than what the value there is no greater than. -/
theorem lt_countP_le (hsorted : sorted.Pairwise (· ≤ ·)) (hi : i < sorted.length) (h : sorted[i] ≤ m) :
    i < sorted.countP fun x => decide (x ≤ m) := by
  have hfront : ∀ y ∈ sorted.take (i + 1), decide (y ≤ m) = true := by
    intro y hy
    obtain ⟨j, hj, rfl⟩ := List.mem_take_iff_getElem.mp hy
    exact decide_eq_true ((getElem_le_getElem hsorted hi (by omega)).trans h)
  have hcount : (sorted.take (i + 1)).countP (fun x => decide (x ≤ m)) = i + 1 := by
    rw [List.countP_eq_length.mpr hfront, List.length_take]
    omega
  have hle := (List.take_sublist (i + 1) sorted).countP_le (p := fun x => decide (x ≤ m))
  omega

/-- And those from a place on are no less than what the value there is no less than. -/
theorem length_le_countP_ge (hsorted : sorted.Pairwise (· ≤ ·)) (hi : i < sorted.length) (h : m ≤ sorted[i]) :
    sorted.length ≤ i + sorted.countP fun x => decide (m ≤ x) := by
  have hback : ∀ y ∈ sorted.drop i, decide (m ≤ y) = true := by
    intro y hy
    obtain ⟨j, hj, rfl⟩ := List.mem_drop_iff_getElem.mp hy
    exact decide_eq_true (h.trans (getElem_le_getElem hsorted _ (by omega)))
  have hcount : (sorted.drop i).countP (fun x => decide (m ≤ x)) = sorted.length - i := by
    rw [List.countP_eq_length.mpr hback, List.length_drop]
  have hle := (List.drop_sublist i sorted).countP_le (p := fun x => decide (m ≤ x))
  omega

end

/-- **The median** has half of the values on either side: at least half of them are no greater, and at least half of
them no less. -/
theorem median_halves (xs : List ℚ) :
    xs.length ≤ 2 * xs.countP (fun x => decide (x ≤ median xs)) ∧
      xs.length ≤ 2 * xs.countP (fun x => decide (median xs ≤ x)) := by
  have hsorted := pairwise_sortValues xs
  have hcount (p : ℚ → Bool) : (sortValues xs).countP p = xs.countP p := (sortValues_perm xs).countP_eq p
  have hlength : (sortValues xs).length = xs.length := (sortValues_perm xs).length_eq
  rw [← hcount, ← hcount, ← hlength]
  by_cases hnil : (sortValues xs).length = 0
  · omega
  by_cases heven : (sortValues xs).length % 2 = 0
  · have hmid : (sortValues xs).length / 2 < (sortValues xs).length := by omega
    have hmedian : median xs = ((sortValues xs)[(sortValues xs).length / 2 - 1] +
        (sortValues xs)[(sortValues xs).length / 2]) / 2 := by
      rw [median, if_pos heven, List.getD_eq_getElem _ _ hmid, List.getD_eq_getElem _ _ (by omega)]
      rfl
    have hmiddle := getElem_le_getElem hsorted hmid (Nat.sub_le _ 1)
    have hleft := lt_countP_le hsorted (m := median xs) (i := (sortValues xs).length / 2 - 1) (by omega)
      (by rw [hmedian]; linarith)
    have hright := length_le_countP_ge hsorted (m := median xs) hmid (by rw [hmedian]; linarith)
    omega
  · have hmid : (sortValues xs).length / 2 < (sortValues xs).length := by omega
    have hmedian : median xs = (sortValues xs)[(sortValues xs).length / 2] := by
      rw [median, if_neg heven, List.getD_eq_getElem _ _ hmid]
    have hleft := lt_countP_le hsorted hmid hmedian.ge
    have hright := length_le_countP_ge hsorted hmid hmedian.le
    omega

/-- **The median is near the mean:** at most one standard deviation away. With half of the values on the far side of
the median, seen from the mean, these alone are far enough from the mirror image of the median for the sum of squares
to bound its distance. -/
theorem sq_median_sub_mean_le (hne : xs ≠ []) : (median xs - mean xs) ^ 2 ≤ variance xs := by
  obtain ⟨hbelow, habove⟩ := median_halves xs
  have hsum : (xs.map fun x => (x - (2 * mean xs - median xs)) ^ 2).sum =
      xs.length * (variance xs + (median xs - mean xs) ^ 2) := by
    rw [sum_sq_sub_eq]
    ring
  have hfar : ∃ count : ℕ, xs.length ≤ 2 * count ∧
      count * (2 * (median xs - mean xs)) ^ 2 ≤ xs.length * (variance xs + (median xs - mean xs) ^ 2) := by
    rw [← hsum]
    rcases le_total (mean xs) (median xs) with hle | hle
    · refine ⟨_, habove, countP_mul_le_sum (fun x _ => sq_nonneg _) ?_⟩
      intro x _ hx
      have hx : median xs ≤ x := of_decide_eq_true hx
      exact pow_le_pow_left₀ (by linarith) (by linarith) 2
    · refine ⟨_, hbelow, countP_mul_le_sum (fun x _ => sq_nonneg _) ?_⟩
      intro x _ hx
      have hx : x ≤ median xs := of_decide_eq_true hx
      rw [← neg_sq (2 * _), ← neg_sq (x - _)]
      exact pow_le_pow_left₀ (by linarith) (by linarith) 2
  obtain ⟨count, hhalf, hshares⟩ := hfar
  have hpositive : 0 < (xs.length : ℚ) := by
    exact_mod_cast List.length_pos_iff.mpr hne
  have hhalf : (xs.length : ℚ) ≤ 2 * count := by exact_mod_cast hhalf
  have hsquare : 0 ≤ (median xs - mean xs) ^ 2 := sq_nonneg _
  refine le_of_mul_le_mul_left ?_ hpositive
  calc xs.length * (median xs - mean xs) ^ 2
      = 2 * xs.length * (median xs - mean xs) ^ 2 - xs.length * (median xs - mean xs) ^ 2 := by ring
    _ ≤ 2 * (2 * count) * (median xs - mean xs) ^ 2 - xs.length * (median xs - mean xs) ^ 2 := by
        have hmore := mul_le_mul_of_nonneg_right hhalf hsquare
        linarith
    _ = count * (2 * (median xs - mean xs)) ^ 2 - xs.length * (median xs - mean xs) ^ 2 := by ring
    _ ≤ xs.length * variance xs := by linarith

/-! ## What is removed -/

/-- **The squared distances from the median** add up to at most twice the variance for each value. -/
theorem sum_sq_sub_median_le (hne : xs ≠ []) :
    (xs.map fun x => (x - median xs) ^ 2).sum ≤ 2 * xs.length * variance xs := by
  have hnear : (mean xs - median xs) ^ 2 ≤ variance xs := by
    rw [← neg_sub, neg_sq]
    exact sq_median_sub_mean_le hne
  rw [sum_sq_sub_eq]
  have hlength : 0 ≤ (xs.length : ℚ) := Nat.cast_nonneg _
  have hmore := mul_le_mul_of_nonneg_left hnear hlength
  linarith

/-- **Whether a value is kept** among others. -/
def Kept (xs : List ℚ) (deviations x : ℚ) : Prop :=
  xs.length ≤ 3 ∨ variance xs = 0 ∨ 0 < deviations ∧ (x - median xs) ^ 2 < deviations ^ 2 * variance xs

instance (xs : List ℚ) (deviations x : ℚ) : Decidable (Kept xs deviations x) :=
  inferInstanceAs (Decidable (_ ∨ _))

theorem removeOutliers_eq_filter (xs : List ℚ) (deviations : ℚ) :
    removeOutliers xs deviations = xs.filter fun x => decide (Kept xs deviations x) := by
  have hall (h : ∀ x, Kept xs deviations x) : xs = xs.filter fun x => decide (Kept xs deviations x) :=
    (List.filter_eq_self.mpr fun x _ => decide_eq_true (h x)).symm
  rw [removeOutliers]
  by_cases hfew : xs.length ≤ 3
  · rw [if_pos hfew]
    exact hall fun x => .inl hfew
  by_cases hsteady : variance xs = 0
  · rw [if_neg hfew, if_pos (isSteady_iff.mpr hsteady)]
    exact hall fun x => .inr (.inl hsteady)
  · rw [if_neg hfew, if_neg (fun h => hsteady (isSteady_iff.mp h))]
    refine List.filter_congr fun x _ => ?_
    rw [Bool.eq_iff_iff, isWithin_iff, decide_eq_true_iff, Kept]
    simp only [hfew, hsteady, false_or]

/-- **Few values are removed:** each takes its share of the squared distances from the median. -/
theorem length_removed_mul_le (xs : List ℚ) {deviations : ℚ} (hpositive : 0 < deviations) :
    (xs.length - (removeOutliers xs deviations).length : ℕ) * deviations ^ 2 ≤ 2 * (xs.length : ℚ) := by
  have hremoved : xs.length - (removeOutliers xs deviations).length =
      xs.countP fun x => !decide (Kept xs deviations x) := by
    have hlength := List.length_eq_countP_add_countP (l := xs) fun x => decide (Kept xs deviations x)
    rw [removeOutliers_eq_filter, ← List.countP_eq_length_filter]
    simp only [Bool.not_eq_true, decide_eq_false_iff_not] at hlength
    simp only [← decide_not]
    omega
  rw [hremoved]
  by_cases hall : xs.length ≤ 3 ∨ variance xs = 0
  · have hnone : (xs.countP fun x => !decide (Kept xs deviations x)) = 0 := by
      rw [List.countP_eq_zero]
      intro x _
      have hkept : Kept xs deviations x := hall.imp_right .inl
      simpa using hkept
    rw [hnone, Nat.cast_zero, zero_mul]
    positivity
  · obtain ⟨hmany, hvaries⟩ := not_or.mp hall
    have hne : xs ≠ [] := by
      rintro rfl
      exact hmany (Nat.zero_le 3)
    have hvariance : 0 < variance xs := lt_of_le_of_ne (variance_nonneg xs) (Ne.symm hvaries)
    refine le_of_mul_le_mul_right ?_ hvariance
    rw [mul_assoc]
    refine (countP_mul_le_sum (fun x _ => sq_nonneg _) ?_).trans (sum_sq_sub_median_le hne)
    intro x _ hx
    have hoff : ¬ Kept xs deviations x := by simpa using hx
    exact not_lt.mp fun hless => hoff (.inr (.inr ⟨hpositive, hless⟩))

end

/-- **Most values are kept.** A value is an outlier if there are more than three values, not all the same, and it lies
a number of standard deviations or more away from the median; the others are kept in their order, each as often as it
was there. Of `n` values at most `2 * n / d ^ 2` are outliers. With the two deviations that the service allows, at least
half of the values are kept, and so there is an average of any values there are. -/
theorem most_values_are_kept (xs : List ℚ) (deviations : ℚ) (hpositive : 0 < deviations) :
    (∀ x, x ∈ removeOutliers xs deviations ↔ x ∈ xs ∧ (xs.length ≤ 3 ∨ variance xs = 0 ∨
      (x - median xs) ^ 2 < deviations ^ 2 * variance xs)) ∧
    (∀ x, (x - median xs) ^ 2 < deviations ^ 2 * variance xs ↔
      |((x - median xs : ℚ) : ℝ)| < deviations * √((variance xs : ℚ) : ℝ)) ∧
    (removeOutliers xs deviations).Sublist xs ∧
    (∀ x ∈ removeOutliers xs deviations, (removeOutliers xs deviations).count x = xs.count x) ∧
    (xs.length - (removeOutliers xs deviations).length : ℕ) * deviations ^ 2 ≤ 2 * (xs.length : ℚ) ∧
    xs.length ≤ 2 * (removeOutliers xs Estimate.deviations).length ∧
    (xs ≠ [] → average xs = some (mean (removeOutliers xs Estimate.deviations))) := by
  have hsublist (d : ℚ) : (removeOutliers xs d).Sublist xs := by
    rw [removeOutliers_eq_filter]
    exact List.filter_sublist
  have hhalf : xs.length ≤ 2 * (removeOutliers xs Estimate.deviations).length := by
    have hfew : (xs.length - (removeOutliers xs Estimate.deviations).length : ℕ) * (2 : ℚ) ^ 2 ≤ 2 * xs.length :=
      length_removed_mul_le xs (by exact two_pos)
    have hfew : (xs.length - (removeOutliers xs Estimate.deviations).length) * 2 ^ 2 ≤ 2 * xs.length := by
      exact_mod_cast hfew
    omega
  refine ⟨?_, ?_, hsublist deviations, ?_, length_removed_mul_le xs hpositive, hhalf, ?_⟩
  · intro x
    rw [removeOutliers_eq_filter, List.mem_filter, decide_eq_true_iff, Kept]
    simp only [hpositive, true_and]
  · intro x
    rw [← isWithin_iff_abs_lt (variance_nonneg xs), isWithin_iff]
    simp only [hpositive, true_and]
  · intro x hx
    rw [removeOutliers_eq_filter] at hx ⊢
    exact List.count_filter (List.mem_filter.mp hx).2
  · intro hne
    have hkept : removeOutliers xs Estimate.deviations ≠ [] := by
      intro hnil
      rw [hnil] at hhalf
      exact hne (List.length_eq_zero_iff.mp (Nat.le_zero.mp hhalf))
    rw [average, if_neg (by simpa using hkept)]

/-- Four tens, a twelve and a two: the two lies more than two standard deviations below the median and is the only one
that is removed. -/
theorem trial_most_values_are_kept :
    let values : List ℚ := [10, 2, 10, 10, 12, 10]
    (0 : ℚ) < 2 ∧ (∀ x ∈ values, x ∈ removeOutliers values 2 ↔ x ≠ 2) ∧
      ((values.length - (removeOutliers values 2).length : ℕ) : ℚ) * 2 ^ 2 ≤ 12 ∧
      average values = some (mean (removeOutliers values 2)) := by
  intro values
  obtain ⟨hkept, -, -, -, hfew, -, haverage⟩ := most_values_are_kept values 2 two_pos
  have hsorted : sortValues values = [2, 10, 10, 10, 10, 12] :=
    ((sortValues_perm values).trans (by decide)).eq_of_pairwise' (pairwise_sortValues values) (by decide)
  have hmedian : median values = 10 := by
    rw [median, hsorted]
    decide +kernel
  have hvariance : variance values = 31 / 3 := by decide +kernel
  refine ⟨two_pos, ?_, hfew.trans (by norm_num [values]), haverage (List.cons_ne_nil _ _)⟩
  intro x hx
  rw [hkept, hmedian, hvariance]
  simp only [hx, true_and]
  revert x
  decide +kernel

end Estimate

end MapExport
