/-
# Bins and what they hold

Items lie in bins, and a bin says of every item whether it holds it. When the items
that lie in a bin are held by it, the sizes of the bins are the numbers of items they
hold exactly when no item is held twice. The argument counts the pairs of a bin and
an item it holds in two ways. And one item makes up the sum over a kind of items only
when the kind has no other item.
-/

import Mathlib.Algebra.Order.BigOperators.Group.List
import Mathlib.Data.List.Flatten
import Mathlib.Algebra.GroupWithZero.Nat
import Mathlib.Algebra.Order.Group.Nat

namespace Goveling.Math

universe u v

variable {α : Type u} {β : Type v}

/-- Sums of terms that are not above others are equal only when all terms are. -/
theorem sum_map_eq_sum_map_iff {f g : α → ℕ} {items : List α} (hle : ∀ a ∈ items, f a ≤ g a) :
    (items.map f).sum = (items.map g).sum ↔ ∀ a ∈ items, f a = g a := by
  induction items with
  | nil => simp
  | cons a rest ih =>
      obtain ⟨hfirst, hrest⟩ := List.forall_mem_cons.mp hle
      have hsums : (rest.map f).sum ≤ (rest.map g).sum := List.sum_le_sum hrest
      rw [List.map_cons, List.map_cons, List.sum_cons, List.sum_cons, List.forall_mem_cons,
        ← ih hrest]
      omega

section Kinds

variable {kind : α → Bool} {items : List α} {place : ℕ} {a : α}

/-- The only item of a kind is all that a filter leaves. -/
theorem filter_eq_singleton (hplace : items[place]? = some a) (hkind : kind a = true)
    (honly : ∀ (other : ℕ) (b : α), items[other]? = some b → kind b = true → other = place) :
    items.filter kind = [a] := by
  induction items generalizing place with
  | nil => cases hplace
  | cons item rest ih =>
      cases place with
      | zero =>
          cases hplace
          have hnone : rest.filter kind = [] := by
            rw [List.filter_eq_nil_iff]
            intro b hmem hb
            obtain ⟨other, hother⟩ := List.mem_iff_getElem?.mp hmem
            exact absurd (honly (other + 1) b hother hb) (by omega)
          rw [List.filter_cons_of_pos hkind, hnone]
      | succ previous =>
          have hitem : ¬ kind item = true := fun hitem =>
            absurd (honly 0 item rfl hitem) (by omega)
          rw [List.filter_cons_of_neg hitem]
          refine ih hplace fun other b hother hb => ?_
          exact Nat.succ_injective (honly (other + 1) b hother hb)

/-- An item that makes up the sum over its kind is the only item of it, if all items count. -/
theorem eq_of_sum_filter_le {size : α → ℕ} (hpos : ∀ b ∈ items, 1 ≤ size b)
    (hplace : items[place]? = some a) (hkind : kind a = true)
    (hsum : ((items.filter kind).map size).sum ≤ size a) {other : ℕ} {b : α}
    (hother : items[other]? = some b) (hb : kind b = true) : other = place := by
  induction items generalizing place other with
  | nil => cases hplace
  | cons item rest ih =>
      obtain ⟨hitem, hrest⟩ := List.forall_mem_cons.mp hpos
      have hle {c : α} (hmem : c ∈ rest) (hc : kind c = true) :
          size c ≤ ((rest.filter kind).map size).sum :=
        List.single_le_sum (by simp) _ (List.mem_map_of_mem (List.mem_filter.mpr ⟨hmem, hc⟩))
      cases place with
      | zero =>
          cases hplace
          cases other with
          | zero => rfl
          | succ next =>
              have hmem : b ∈ rest := List.mem_of_getElem? hother
              have := hle hmem hb
              have := hrest b hmem
              rw [List.filter_cons_of_pos hkind, List.map_cons, List.sum_cons] at hsum
              omega
      | succ previous =>
          have hmem : a ∈ rest := List.mem_of_getElem? hplace
          have := hle hmem hkind
          cases other with
          | zero =>
              cases hother
              rw [List.filter_cons_of_pos hb, List.map_cons, List.sum_cons] at hsum
              omega
          | succ next =>
              have hshort : ((rest.filter kind).map size).sum ≤ size a := by
                refine le_trans ?_ hsum
                exact ((List.sublist_cons_self item rest).filter kind |>.map size).sum_le_sum
                  fun _ _ => Nat.zero_le _
              exact congrArg (· + 1) (ih hrest hplace hshort hother)

end Kinds

section Bins

variable (holds : β → α → Bool)

/-- The pairs of a bin and an item it holds, counted by bins and counted by items. -/
theorem sum_countP_comm (bins : List β) (items : List α) :
    (bins.map fun bin => items.countP (holds bin)).sum =
      (items.map fun item => bins.countP (holds · item)).sum := by
  induction items with
  | nil => simp
  | cons item rest ih =>
      rw [List.map_cons, List.sum_cons, ← ih]
      clear ih
      induction bins with
      | nil => rfl
      | cons bin others ih =>
          rw [List.map_cons, List.sum_cons, ih, List.map_cons, List.sum_cons,
            List.countP_cons, List.countP_cons]
          omega

variable {holds} {contents : β → List α} {bins : List β}

/-- A bin that holds what lies in it holds at least as many items. -/
theorem length_le_countP_flatMap
    (hholds : ∀ bin ∈ bins, ∀ item ∈ contents bin, holds bin item) {bin : β} (hbin : bin ∈ bins) :
    (contents bin).length ≤ (bins.flatMap contents).countP (holds bin) := by
  have hall : (contents bin).countP (holds bin) = (contents bin).length :=
    List.countP_eq_length.mpr (hholds bin hbin)
  have hsublist : (contents bin).Sublist (bins.flatMap contents) :=
    List.sublist_flatten_of_mem (List.mem_map_of_mem hbin)
  rw [← hall]
  exact hsublist.countP_le

/-- The items in the bins are held by one bin at least. -/
theorem one_le_countP_bins
    (hholds : ∀ bin ∈ bins, ∀ item ∈ contents bin, holds bin item) {item : α}
    (hitem : item ∈ bins.flatMap contents) : 1 ≤ bins.countP (holds · item) := by
  obtain ⟨bin, hbin, hin⟩ := List.mem_flatMap.mp hitem
  exact List.countP_pos_iff.mpr ⟨bin, hbin, hholds bin hbin item hin⟩

/-- Every bin holds just the items that lie in it exactly when every item is held by
just one bin. -/
theorem length_eq_countP_iff
    (hholds : ∀ bin ∈ bins, ∀ item ∈ contents bin, holds bin item) :
    (∀ bin ∈ bins, (contents bin).length = (bins.flatMap contents).countP (holds bin)) ↔
      ∀ item ∈ bins.flatMap contents, 1 = bins.countP (holds · item) := by
  rw [← sum_map_eq_sum_map_iff fun bin hbin => length_le_countP_flatMap hholds hbin,
    ← sum_map_eq_sum_map_iff fun item hitem => one_le_countP_bins hholds hitem,
    sum_countP_comm holds bins, ← List.length_flatMap, List.map_const', List.sum_replicate]
  simp

end Bins

end Goveling.Math
