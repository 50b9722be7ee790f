/-
# Sifting a list

Every item of a list is turned into an outcome that knows the position of the item, and the
outcomes of one sort are picked out. What is picked keeps the order of the list, and each
position is picked once or not at all.
-/

import Mathlib.Data.List.Forall2
import Mathlib.Data.List.Induction
import Mathlib.Order.Nat

namespace Goveling.Math.Sift

section

variable {α γ β : Type*} {outcome : ℕ → α → γ} {pick : γ → Option β}

/-- What is picked from the outcomes of a list. -/
def picked (outcome : ℕ → α → γ) (pick : γ → Option β) (items : List α) : List β :=
  (items.mapIdx outcome).filterMap pick

/-- The last item adds what is picked from its outcome. -/
theorem picked_concat (items : List α) (item : α) :
    picked outcome pick (items ++ [item]) =
      picked outcome pick items ++ (pick (outcome items.length item)).toList := by
  unfold picked
  rw [List.mapIdx_concat, List.filterMap_append]
  cases hpick : pick (outcome items.length item) with
  | none => rw [List.filterMap_cons_none hpick, List.filterMap_nil, Option.toList_none]
  | some b => rw [List.filterMap_cons_some hpick, List.filterMap_nil, Option.toList_some]

theorem mem_picked {items : List α} {b : β} :
    b ∈ picked outcome pick items ↔
      ∃ i item, items[i]? = some item ∧ pick (outcome i item) = some b := by
  unfold picked
  rw [List.mem_filterMap]
  constructor
  · rintro ⟨made, hmade, hpick⟩
    obtain ⟨i, hi, rfl⟩ := List.mem_mapIdx.mp hmade
    exact ⟨i, items[i], List.getElem?_eq_getElem hi, hpick⟩
  · rintro ⟨i, item, hitem, hpick⟩
    obtain ⟨hi, rfl⟩ := List.getElem?_eq_some_iff.mp hitem
    exact ⟨outcome i items[i], List.mem_mapIdx.mpr ⟨i, hi, rfl⟩, hpick⟩

/-- Items that are never picked can be left out: what is picked then comes from other positions,
and is the same as before as far as an outcome does not depend on its position. -/
theorem forall₂_picked_filter {keep : α → Bool} {R : β → β → Prop}
    (hdropped : ∀ i item, keep item = false → pick (outcome i item) = none)
    (hkept : ∀ i j item, keep item = true →
      ∃ first second, pick (outcome i item) = some first ∧ pick (outcome j item) = some second ∧
        R first second) (items : List α) :
    List.Forall₂ R (picked outcome pick items) (picked outcome pick (items.filter keep)) := by
  induction items using List.reverseRecOn with
  | nil => exact List.Forall₂.nil
  | append_singleton items item ih =>
      rw [List.filter_append, picked_concat]
      cases hkeep : keep item with
      | false =>
          rw [hdropped _ item hkeep, List.filter_cons_of_neg (by simp [hkeep]), List.filter_nil,
            Option.toList_none, List.append_nil, List.append_nil]
          exact ih
      | true =>
          rw [List.filter_cons_of_pos hkeep, List.filter_nil, picked_concat]
          obtain ⟨first, second, hfirst, hsecond, hsame⟩ :=
            hkept items.length (items.filter keep).length item hkeep
          rw [hfirst, hsecond]
          exact List.rel_append ih (List.Forall₂.cons hsame List.Forall₂.nil)

/-- Where what is picked of an item does not depend on its position, up to `R`, leaving out the
items that nothing is picked of changes nothing, up to `R`. -/
theorem forall₂_picked_filter_isSome {R : β → β → Prop}
    (hmoves : ∀ i j item first, pick (outcome i item) = some first →
      ∃ second, pick (outcome j item) = some second ∧ R first second) (items : List α) :
    List.Forall₂ R (picked outcome pick items)
      (picked outcome pick (items.filter fun item => (pick (outcome 0 item)).isSome)) := by
  apply forall₂_picked_filter
  · intro i item hnone
    cases hpick : pick (outcome i item) with
    | none => rfl
    | some here =>
        obtain ⟨alone, halone, -⟩ := hmoves i 0 item here hpick
        rw [halone] at hnone
        cases hnone
  · intro i j item hsome
    obtain ⟨alone, halone⟩ := Option.isSome_iff_exists.mp hsome
    obtain ⟨first, hfirst, -⟩ := hmoves 0 i item alone halone
    obtain ⟨second, hsecond, hsame⟩ := hmoves i j item first hfirst
    exact ⟨first, second, hfirst, hsecond, hsame⟩

end

end Goveling.Math.Sift
