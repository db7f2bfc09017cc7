import MapExport.Geometry.Area

/-!
# Outliers

A few runs with broken files must not spoil an average. Of more than three values only those are kept
that lie strictly within a number of standard deviations around the median. Values that are all the
same have no deviation, and then all of them are kept.

As with areas, the formulas are written for any arithmetic, and the service averages doubles. An
arithmetic without square roots can still compare a distance with a standard deviation, by their squares.
-/

set_option autoImplicit false

namespace MapExport

/-- **The arithmetic of averages.** What averages and the search for outliers do with numbers. -/
class Averaging (R : Type) extends Measuring R, Div R where
  /-- A number of things. -/
  ofNat : Nat → R
  /-- Whether values that are sorted may stand in this order. -/
  inOrder : R → R → Bool
  /-- Whether values with this variance have no deviation. -/
  isSteady (variance : R) : Bool
  /-- Whether a value lies strictly within a number of standard deviations around a centre. -/
  isWithin (centre deviations variance x : R) : Bool

namespace Estimate

open Measuring (sum half)
open Averaging (inOrder isSteady isWithin)

/-- The place of a double in the total order of all doubles, the two zeros and what is no number
included. -/
def totalOrder (x : Float) : Int :=
  let bits : Nat := x.toBits.toNat
  if bits < Nat.pow 2 63 then bits else -1 - ((bits - Nat.pow 2 63 : Nat) : Int)

/-- Doubles: the standard deviation is the root of the variance, and the bounds are worked out before
a value is compared with them. -/
instance : Averaging Float where
  ofNat := Float.ofNat
  inOrder a b := decide (totalOrder a ≤ totalOrder b)
  isSteady variance := variance.sqrt == 0.0
  isWithin centre deviations variance x :=
    let sigma := variance.sqrt
    let lower := centre - deviations * sigma
    let upper := centre + deviations * sigma
    decide (lower < x) && decide (x < upper)

variable {R : Type} [Averaging R]

/-- The values from the least to the greatest. -/
def sortValues (xs : List R) : List R := xs.mergeSort inOrder

/-- **The median:** the middle one of the sorted values, or half the sum of the middle two. -/
def median (xs : List R) : R :=
  let sorted := sortValues xs
  let mid := sorted.length / 2
  if sorted.length % 2 = 0 then
    half (sorted.getD (mid - 1) Measuring.zero + sorted.getD mid Measuring.zero)
  else sorted.getD mid Measuring.zero

/-- The mean of values. -/
def mean (xs : List R) : R := sum xs / Averaging.ofNat xs.length

/-- **The variance** of values that are all there are: the mean of their squared distances from the
mean. -/
def variance (xs : List R) : R :=
  let m := mean xs
  mean (xs.map fun x => (x - m) * (x - m))

/-- **Removing outliers.** -/
def removeOutliers (xs : List R) (deviations : R) : List R :=
  if xs.length ≤ 3 then xs
  else if isSteady (variance xs) then xs
  else xs.filter (isWithin (median xs) deviations (variance xs))

end Estimate

end MapExport
