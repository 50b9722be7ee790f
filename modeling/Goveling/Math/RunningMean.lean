/-
# Means that are kept while values come in

The mean of the values so far can be kept without the values: a new value moves
it by its share, and the mean of a batch by the share of the batch. The kept
number is the mean in the sense that it gives the sum when it is multiplied by
how many values there are, which says nothing as long as there are none.
-/

import Mathlib.Algebra.BigOperators.Group.List.Basic
import Mathlib.Algebra.Field.Basic
import Mathlib.Data.Nat.Cast.Defs
import Mathlib.Algebra.CharZero.Defs
import Mathlib.Tactic.FieldSimp
import Mathlib.Tactic.Ring

namespace Goveling.Math

universe u

variable {K : Type u} [Field K]

/-- The mean of a list of values. -/
def mean (values : List K) : K := values.sum / values.length

/-- A number that stands for the mean of the values, if there are any. -/
def IsMean (values : List K) (kept : K) : Prop := kept * values.length = values.sum

variable [CharZero K]

/-- Of values there are, the mean is the only one. -/
theorem IsMean.eq_mean {values : List K} {kept : K} (hmean : IsMean values kept)
    (hne : values ≠ []) : kept = mean values := by
  have hlength : (values.length : K) ≠ 0 :=
    Nat.cast_ne_zero.mpr fun hzero => hne (List.length_eq_zero_iff.mp hzero)
  exact eq_div_of_mul_eq hlength hmean

/-- A new value. -/
theorem IsMean.push {values : List K} {kept : K} (hmean : IsMean values kept) (value : K) :
    IsMean (values ++ [value]) ((kept * values.length + value) / (values.length + 1)) := by
  have hlength : (values.length : K) + 1 ≠ 0 := Nat.cast_add_one_ne_zero values.length
  unfold IsMean at hmean ⊢
  rw [List.length_append, List.length_singleton, List.sum_append, List.sum_singleton,
    Nat.cast_add, Nat.cast_one, div_mul_cancel₀ _ hlength, hmean]

/-- A batch of new values, each mean weighted by its share of all values. -/
theorem IsMean.append {values others : List K} {kept new : K} (hmean : IsMean values kept)
    (hnew : IsMean others new) (hne : values ++ others ≠ []) :
    IsMean (values ++ others)
      (kept * (values.length / ((values ++ others).length : ℕ)) +
        new * (others.length / ((values ++ others).length : ℕ))) := by
  have hlength : ((values ++ others).length : K) ≠ 0 :=
    Nat.cast_ne_zero.mpr fun hzero => hne (List.length_eq_zero_iff.mp hzero)
  unfold IsMean at hmean hnew ⊢
  rw [List.sum_append, ← hmean, ← hnew]
  field_simp

end Goveling.Math
