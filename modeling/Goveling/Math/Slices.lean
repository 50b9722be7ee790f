/-
# Lists cut into slices

A slice of a list is what lies between two positions. Slices between cuts that
never go back make up the list again: nothing is lost and nothing is repeated,
whatever the distance from one cut to the next.
-/

import Mathlib.Data.List.Basic
import Mathlib.Data.List.Flatten
import Mathlib.Data.List.TakeDrop
import Mathlib.Order.Lattice

namespace Goveling.Math

universe u

variable {A : Type u}

/-- The part of a list from position `start` up to `stop`. -/
def slice (items : List A) (start stop : ℕ) : List A := (items.take stop).drop start

/-- A position behind the end means the end. -/
theorem slice_min_length (items : List A) (start stop : ℕ) :
    slice items (min start items.length) (min stop items.length) = slice items start stop := by
  unfold slice
  rw [← List.take_eq_take_min]
  by_cases hstart : start ≤ items.length
  · rw [min_eq_left hstart]
  · have hlong : items.length ≤ start := by omega
    rw [min_eq_right hlong]
    rw [List.drop_eq_nil_of_le (by simp), List.drop_eq_nil_of_le (by simp; omega)]

@[simp]
theorem slice_zero_length (items : List A) : slice items 0 items.length = items := by
  simp [slice]

@[simp]
theorem slice_nil (start stop : ℕ) : slice ([] : List A) start stop = [] := by
  simp [slice]

theorem length_slice (items : List A) {start stop : ℕ} (hstop : stop ≤ items.length) :
    (slice items start stop).length = stop - start := by
  simp [slice, hstop]

/-- Two slices that meet are one slice. -/
theorem slice_append_slice (items : List A) {first second third : ℕ} (hfirst : first ≤ second)
    (hsecond : second ≤ third) :
    slice items first second ++ slice items second third = slice items first third := by
  unfold slice
  have hsplit : items.take third = items.take second ++ (items.take third).drop second := by
    have htake := List.take_append_drop second (items.take third)
    rw [List.take_take, min_eq_left hsecond] at htake
    exact htake.symm
  by_cases hlong : second ≤ items.length
  · have hbefore : first ≤ (items.take second).length := by
      rw [List.length_take]
      omega
    conv_rhs => rw [hsplit]
    rw [List.drop_append_of_le_length hbefore]
  · have hshort : items.length ≤ second := by omega
    rw [List.take_of_length_le hshort, List.take_of_length_le (hshort.trans hsecond),
      List.drop_eq_nil_of_le hshort, List.append_nil]

/-- The slices between cuts that never go back make up the list between the first
cut and the last one. -/
theorem flatMap_slice (items : List A) (cut : ℕ → ℕ) (count : ℕ)
    (hmono : ∀ i < count, cut i ≤ cut (i + 1)) :
    (List.range count).flatMap (fun i => slice items (cut i) (cut (i + 1))) =
      slice items (cut 0) (cut count) := by
  induction count with
  | zero => simp [slice]
  | succ count ih =>
      have hup : cut 0 ≤ cut count := by
        clear ih
        induction count with
        | zero => exact le_rfl
        | succ n ihn => exact (ihn fun i hi => hmono i (by omega)).trans (hmono n (by omega))
      rw [List.range_succ, List.flatMap_append, ih fun i hi => hmono i (by omega),
        List.flatMap_singleton]
      exact slice_append_slice items hup (hmono count (by omega))

/-! ## Even slices -/

/-- The cut before the slice with a number, where so many parts share a list and the
first ones take one more of what does not divide. -/
def evenCut (total parts : ℕ) (number : ℕ) : ℕ :=
  number * (total / parts) + min number (total % parts)

@[simp]
theorem evenCut_zero (total parts : ℕ) : evenCut total parts 0 = 0 := by
  simp [evenCut]

theorem evenCut_succ (total parts number : ℕ) :
    evenCut total parts (number + 1) =
      evenCut total parts number + (total / parts + if number < total % parts then 1 else 0) := by
  unfold evenCut
  rw [Nat.succ_mul]
  by_cases hmore : number < total % parts
  · rw [if_pos hmore, min_eq_left (by omega), min_eq_left (by omega)]
    omega
  · rw [if_neg hmore, min_eq_right (by omega), min_eq_right (by omega)]
    omega

/-- The last cut is the end of the list. -/
theorem evenCut_self (total : ℕ) {parts : ℕ} (hparts : 0 < parts) :
    evenCut total parts parts = total := by
  unfold evenCut
  rw [min_eq_right (Nat.mod_lt total hparts).le]
  exact Nat.div_add_mod total parts

theorem evenCut_le (total parts number : ℕ) (hnumber : number ≤ parts) :
    evenCut total parts number ≤ total := by
  calc evenCut total parts number
      ≤ parts * (total / parts) + total % parts :=
        Nat.add_le_add (Nat.mul_le_mul_right _ hnumber) (min_le_right _ _)
    _ = total := Nat.div_add_mod total parts

/-- The even slices of a list make up the list. -/
theorem flatMap_evenCut (items : List A) {parts : ℕ} (hparts : 0 < parts) :
    (List.range parts).flatMap (fun number =>
      slice items (evenCut items.length parts number) (evenCut items.length parts (number + 1))) =
      items := by
  rw [flatMap_slice, evenCut_zero, evenCut_self _ hparts, slice_zero_length]
  intro number _
  rw [evenCut_succ]
  exact Nat.le_add_right _ _

/-- An even slice has its share of the list, or one element more. -/
theorem length_evenSlice (items : List A) {parts number : ℕ} (hnumber : number < parts) :
    (slice items (evenCut items.length parts number)
        (evenCut items.length parts (number + 1))).length =
      items.length / parts + if number < items.length % parts then 1 else 0 := by
  rw [length_slice _ (evenCut_le _ _ _ hnumber), evenCut_succ]
  exact Nat.add_sub_cancel_left _ _

/-! ## Slices of one size -/

/-- The slices of some size that a list has, where the last one may be shorter. -/
def slicesOf (items : List A) (size : ℕ) : List (List A) :=
  (List.range ((items.length + size - 1) / size)).map fun number =>
    slice items (number * size) ((number + 1) * size)

section Sizes

variable (items : List A) {size : ℕ}

/-- The slices of one size make up the list. -/
theorem flatten_slicesOf (hsize : 0 < size) : (slicesOf items size).flatten = items := by
  have hcover : items.length ≤ (items.length + size - 1) / size * size := by
    have hdiv := Nat.div_add_mod (items.length + size - 1) size
    have hmod := Nat.mod_lt (items.length + size - 1) hsize
    rw [Nat.mul_comm] at hdiv
    omega
  have hslices := flatMap_slice items (fun number => number * size)
    ((items.length + size - 1) / size) fun number _ => Nat.mul_le_mul_right _ (Nat.le_succ _)
  unfold slicesOf
  rw [← List.flatMap_def, hslices]
  simp [slice, List.take_of_length_le hcover]

theorem length_le_of_mem_slicesOf {part : List A} (hpart : part ∈ slicesOf items size) :
    part.length ≤ size := by
  obtain ⟨number, -, rfl⟩ := List.mem_map.mp hpart
  simp only [slice, List.length_drop, List.length_take, Nat.succ_mul]
  omega

/-- No slice of one size is empty. -/
theorem ne_nil_of_mem_slicesOf (hsize : 0 < size) {part : List A}
    (hpart : part ∈ slicesOf items size) : part ≠ [] := by
  obtain ⟨number, hnumber, rfl⟩ := List.mem_map.mp hpart
  have hless : number * size < items.length := by
    have hnext : number + 1 ≤ (items.length + size - 1) / size := List.mem_range.mp hnumber
    have hle := (Nat.le_div_iff_mul_le hsize).mp hnext
    rw [Nat.succ_mul] at hle
    omega
  rw [← List.length_pos_iff]
  simp only [slice, List.length_drop, List.length_take, Nat.succ_mul]
  omega

end Sizes

end Goveling.Math
