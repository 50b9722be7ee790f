/-
# How far values are spread

The variance of values between two bounds is at most what the bounds alone would give with the
same mean, and so at most the square of half their distance.
-/

import Goveling.Math.RunningMean
import Mathlib.Algebra.Order.BigOperators.Group.List
import Mathlib.Algebra.Order.Field.Basic
import Mathlib.Tactic.Linarith

namespace Goveling.Math

universe u v

section Affine

variable {K : Type u} [Field K]

theorem sum_map_affine (slope shift : K) (values : List K) :
    (values.map fun value => slope * value + shift).sum =
      slope * values.sum + shift * values.length := by
  induction values with
  | nil => simp
  | cons value rest ih =>
      rw [List.map_cons, List.sum_cons, ih, List.sum_cons, List.length_cons, Nat.cast_add,
        Nat.cast_one]
      ring

/-- The mean goes through an affine map. -/
theorem mean_map_affine [CharZero K] (slope shift : K) {values : List K} (hne : values ≠ []) :
    mean (values.map fun value => slope * value + shift) = slope * mean values + shift := by
  have hlength : (values.length : K) ≠ 0 :=
    Nat.cast_ne_zero.mpr fun hzero => hne (List.length_eq_zero_iff.mp hzero)
  rw [mean, mean, sum_map_affine, List.length_map, add_div, mul_div_assoc,
    mul_div_cancel_right₀ _ hlength]

end Affine

variable {K : Type u} [Field K] [LinearOrder K] [IsStrictOrderedRing K] {α : Type v}

theorem mean_map_le_mean_map {values : List α} {f g : α → K} (hle : ∀ a ∈ values, f a ≤ g a) :
    mean (values.map f) ≤ mean (values.map g) := by
  unfold mean
  rw [List.length_map, List.length_map]
  exact div_le_div_of_nonneg_right (List.sum_le_sum hle) (Nat.cast_nonneg _)

/-- The mean of the squared distances from the mean. -/
def variance (values : List K) : K := mean (values.map fun value => (value - mean values) ^ 2)

section Bounds

variable {values : List K} {low high : K}

/-- With a given mean the variance is greatest when only the bounds occur. -/
theorem variance_le_mul (hne : values ≠ []) (hlow : ∀ value ∈ values, low ≤ value)
    (hhigh : ∀ value ∈ values, value ≤ high) :
    variance values ≤ (high - mean values) * (mean values - low) := by
  -- between the bounds the parabola lies below its chord
  have hchord : ∀ value ∈ values, (value - mean values) ^ 2 ≤
      (low + high - 2 * mean values) * value + (mean values ^ 2 - low * high) := by
    intro value hvalue
    have hbetween : 0 ≤ (value - low) * (high - value) :=
      mul_nonneg (sub_nonneg.mpr (hlow value hvalue)) (sub_nonneg.mpr (hhigh value hvalue))
    linarith
  calc variance values
      ≤ mean (values.map fun value =>
          (low + high - 2 * mean values) * value + (mean values ^ 2 - low * high)) :=
        mean_map_le_mean_map hchord
    _ = (low + high - 2 * mean values) * mean values + (mean values ^ 2 - low * high) :=
        mean_map_affine _ _ hne
    _ = (high - mean values) * (mean values - low) := by ring

/-- The standard deviation is at most half the distance of the bounds. -/
theorem variance_le_sq_half (hne : values ≠ []) (hlow : ∀ value ∈ values, low ≤ value)
    (hhigh : ∀ value ∈ values, value ≤ high) : variance values ≤ ((high - low) / 2) ^ 2 :=
  calc variance values
      ≤ (high - mean values) * (mean values - low) := variance_le_mul hne hlow hhigh
    _ = ((high - low) / 2) ^ 2 - (mean values - (high + low) / 2) ^ 2 := by ring
    _ ≤ ((high - low) / 2) ^ 2 := sub_le_self _ (sq_nonneg _)

end Bounds

end Goveling.Math
