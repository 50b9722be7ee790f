/-
# The first of the least

A loop that keeps the least item so far, and replaces it by strictly smaller ones only, ends with
the first of the least items. One that keeps the greatest value so far is inside a limit when all
values are.
-/

import Mathlib.Data.List.Induction
import Mathlib.Data.List.MinMax

namespace Goveling.Math

universe u v

variable {α : Type u} {κ : Type v} [LinearOrder κ]

/-- Every item before this one is greater, and no item after it is smaller. -/
def IsFirstLeast (f : α → κ) (items : List α) (a : α) : Prop :=
  ∃ before after, items = before ++ a :: after ∧ (∀ b ∈ before, f a < f b) ∧
    ∀ c ∈ after, f a ≤ f c

variable {f : α → κ} {items : List α} {a : α}

theorem IsFirstLeast.mem (hfirst : IsFirstLeast f items a) : a ∈ items := by
  obtain ⟨before, after, rfl, -, -⟩ := hfirst
  exact List.mem_append_right before List.mem_cons_self

theorem IsFirstLeast.le (hfirst : IsFirstLeast f items a) {b : α} (hb : b ∈ items) :
    f a ≤ f b := by
  obtain ⟨before, after, rfl, hbefore, hafter⟩ := hfirst
  rcases List.mem_append.mp hb with hb | hb
  · exact (hbefore b hb).le
  · rcases List.mem_cons.mp hb with rfl | hb
    · exact le_rfl
    · exact hafter b hb

/-- The first least item is carried along a map. -/
theorem IsFirstLeast.map {β : Type*} {g : α → β} {f : β → κ}
    (hfirst : IsFirstLeast (fun item => f (g item)) items a) :
    IsFirstLeast f (items.map g) (g a) := by
  obtain ⟨before, after, rfl, hbefore, hafter⟩ := hfirst
  refine ⟨before.map g, after.map g, ?_, List.forall_mem_map.mpr hbefore,
    List.forall_mem_map.mpr hafter⟩
  rw [List.map_append, List.map_cons]

/-- An item at the end takes the place of the first least one if it is strictly smaller. -/
theorem isFirstLeast_concat_iff {last : α} :
    IsFirstLeast f (items ++ [last]) a ↔
      (IsFirstLeast f items a ∧ f a ≤ f last) ∨ (a = last ∧ ∀ b ∈ items, f a < f b) := by
  constructor
  · rintro ⟨before, after, hsplit, hbefore, hafter⟩
    rcases List.eq_nil_or_concat after with rfl | ⟨others, final, rfl⟩
    · obtain ⟨rfl, hlast⟩ := List.append_inj' hsplit rfl
      exact .inr ⟨(List.singleton_inj.mp hlast).symm, hbefore⟩
    · rw [List.concat_eq_append] at hsplit hafter
      obtain ⟨hitems, hlast⟩ := List.append_inj' (hsplit.trans
        (List.append_assoc before (a :: others) [final]).symm) rfl
      obtain rfl := List.singleton_inj.mp hlast
      refine .inl ⟨⟨before, others, hitems, hbefore, fun c hc => ?_⟩, ?_⟩
      · exact hafter c (List.mem_append_left _ hc)
      · exact hafter last (List.mem_append_right _ List.mem_cons_self)
  · rintro (⟨⟨before, after, rfl, hbefore, hafter⟩, hlast⟩ | ⟨rfl, hitems⟩)
    · refine ⟨before, after ++ [last], List.append_assoc .., hbefore, ?_⟩
      exact List.forall_mem_append.mpr ⟨hafter, List.forall_mem_singleton.mpr hlast⟩
    · exact ⟨items, [], rfl, hitems, List.forall_mem_nil _⟩

/-- The loop finds the first of the least. -/
theorem argmin_eq_some_iff_isFirstLeast : items.argmin f = some a ↔ IsFirstLeast f items a := by
  induction items using List.reverseRecOn generalizing a with
  | nil =>
      constructor
      · intro hnone
        cases hnone
      · exact fun hfirst => absurd hfirst.mem List.not_mem_nil
  | append_singleton items last ih =>
      rw [isFirstLeast_concat_iff, List.argmin_concat]
      cases hleast : items.argmin f with
      | none =>
          rw [List.argmin_eq_none.mp hleast]
          constructor
          · intro heq
            exact .inr ⟨(Option.some.inj heq).symm, List.forall_mem_nil _⟩
          · rintro (⟨hfirst, -⟩ | ⟨rfl, -⟩)
            · exact absurd hfirst.mem List.not_mem_nil
            · rfl
      | some least =>
          have hfirst : IsFirstLeast f items least := ih.mp hleast
          dsimp only
          by_cases hsmaller : f last < f least
          · rw [if_pos hsmaller]
            constructor
            · intro heq
              obtain rfl := Option.some.inj heq
              exact .inr ⟨rfl, fun b hb => hsmaller.trans_le (hfirst.le hb)⟩
            · rintro (⟨hother, hle⟩ | ⟨rfl, -⟩)
              · exact absurd (hfirst.le hother.mem) (hle.trans_lt hsmaller).not_ge
              · rfl
          · rw [if_neg hsmaller]
            constructor
            · intro heq
              obtain rfl := Option.some.inj heq
              exact .inl ⟨hfirst, not_lt.mp hsmaller⟩
            · rintro (⟨hother, -⟩ | ⟨rfl, hall⟩)
              · exact hleast.symm.trans (ih.mpr hother)
              · exact absurd (hall least hfirst.mem) hsmaller

/-! ## The index of the first of the least -/

/-- A turn of the loop over items with their indices: the least value so far and its
index are replaced by those of a strictly smaller item. -/
def keepLeast (f : α → κ) (best : Option (κ × ℕ)) (entry : α × ℕ) : Option (κ × ℕ) :=
  match best with
  | none => some (f entry.1, entry.2)
  | some (least, index) =>
      if f entry.1 < least then some (f entry.1, entry.2) else some (least, index)

/-- The loop ends with the least value, and the index is that of the first item with it. -/
theorem foldl_keepLeast (f : α → κ) {items : List α} (hne : items ≠ []) :
    ∃ a before after, items = before ++ a :: after ∧ (∀ b ∈ before, f a < f b) ∧
      (∀ c ∈ after, f a ≤ f c) ∧
      items.zipIdx.foldl (keepLeast f) none = some (f a, before.length) := by
  induction items using List.reverseRecOn with
  | nil => exact absurd rfl hne
  | append_singleton items last ih =>
      rw [List.zipIdx_append, List.foldl_append]
      rcases List.eq_nil_or_concat items with rfl | ⟨others, final, rfl⟩
      · exact ⟨last, [], [], rfl, List.forall_mem_nil _, List.forall_mem_nil _, rfl⟩
      · obtain ⟨a, before, after, hsplit, hbefore, hafter, hloop⟩ := ih (by simp)
        rw [hloop]
        by_cases hless : f last < f a
        · refine ⟨last, before ++ a :: after, [], ?_, ?_, List.forall_mem_nil _, ?_⟩
          · rw [hsplit]
          · intro b hb
            rcases List.mem_append.mp hb with hb | hb
            · exact hless.trans (hbefore b hb)
            · rcases List.mem_cons.mp hb with rfl | hb
              · exact hless
              · exact hless.trans_le (hafter b hb)
          · rw [← hsplit, Nat.zero_add]
            exact if_pos hless
        · refine ⟨a, before, after ++ [last], ?_, hbefore, ?_, if_neg hless⟩
          · rw [hsplit, List.append_assoc]
            rfl
          · exact List.forall_mem_append.mpr
              ⟨hafter, List.forall_mem_singleton.mpr (not_lt.mp hless)⟩

/-- The index of the loop is the place of the first least item, which erasing the index takes
out of the list. -/
theorem exists_foldl_keepLeast [DecidableEq α] (f : α → κ) {items : List α} (hne : items ≠ []) :
    ∃ a index, items.zipIdx.foldl (keepLeast f) none = some (f a, index) ∧
      IsFirstLeast f items a ∧ items[index]? = some a ∧
      items.eraseIdx index = items.erase a := by
  obtain ⟨a, before, after, hsplit, hbefore, hafter, hloop⟩ := foldl_keepLeast f hne
  have hnot : a ∉ before := fun hin => lt_irrefl _ (hbefore a hin)
  refine ⟨a, before.length, hloop, ⟨before, after, hsplit, hbefore, hafter⟩, ?_, ?_⟩
  · rw [hsplit, List.getElem?_append_right le_rfl, Nat.sub_self, List.getElem?_cons_zero]
  · rw [hsplit, List.eraseIdx_append_of_length_le le_rfl, List.erase_append_right _ hnot,
      Nat.sub_self, List.eraseIdx_cons_zero, List.erase_cons_head]

/-- The greatest value of a loop is inside a limit when all values are. -/
theorem foldl_max_le_iff {start limit : κ} :
    items.foldl (fun greatest item => max greatest (f item)) start ≤ limit ↔
      start ≤ limit ∧ ∀ item ∈ items, f item ≤ limit := by
  induction items generalizing start with
  | nil => simp
  | cons item rest ih => rw [List.foldl_cons, ih, max_le_iff, List.forall_mem_cons, and_assoc]

end Goveling.Math
