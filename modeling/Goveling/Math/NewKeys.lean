/-
# Keys that are drawn once

Items may carry a key. Items are drawn while a list of used keys is kept, and an item is not
drawn with a key that was used before, by this drawing or by an earlier one.
-/

import Mathlib.Data.List.Forall2
import Mathlib.Data.List.Nodup

namespace Goveling.Math.NewKeys

universe u v

variable {α : Type u} {κ : Type v}

/-- The keys of what is drawn are new and different from each other, and used afterwards. -/
structure Draws (key : α → Option κ) (used : List κ) (drawn : List α) (usedAfter : List κ) :
    Prop where
  grows : used ⊆ usedAfter
  nodup : (drawn.filterMap key).Nodup
  isNew : ∀ k ∈ drawn.filterMap key, k ∉ used
  recorded : drawn.filterMap key ⊆ usedAfter

namespace Draws

variable {key : α → Option κ} {used between usedAfter : List κ} {drawn first second : List α}
  {item : α} {k : κ}

/-- Nothing is drawn, whatever else becomes used. -/
theorem nil (hgrows : used ⊆ usedAfter) : Draws key used [] usedAfter where
  grows := hgrows
  nodup := List.nodup_nil
  isNew := fun _ hmem => absurd hmem List.not_mem_nil
  recorded := List.nil_subset _

/-- Items without keys are drawn freely. -/
theorem of_keyless (hkeys : ∀ item ∈ drawn, key item = none) : Draws key used drawn used := by
  have hnone : drawn.filterMap key = [] := List.filterMap_eq_nil_iff.mpr hkeys
  constructor
  · exact List.Subset.refl used
  · rw [hnone]
    exact List.nodup_nil
  · rw [hnone]
    exact fun _ hmem => absurd hmem List.not_mem_nil
  · rw [hnone]
    exact List.nil_subset _

/-- An item with a new key is drawn, and its key is used. -/
theorem single (hkey : key item = some k) (hnew : k ∉ used) :
    Draws key used [item] (k :: used) := by
  have hkeys : [item].filterMap key = [k] := List.filterMap_cons_some hkey
  constructor
  · exact List.subset_cons_self k used
  · rw [hkeys]
    exact List.nodup_singleton k
  · rw [hkeys]
    intro other hother
    rwa [List.mem_singleton.mp hother]
  · rw [hkeys]
    exact List.cons_subset_cons k (List.nil_subset used)

/-- Drawings one after the other are one drawing. -/
theorem append (hfirst : Draws key used first between)
    (hsecond : Draws key between second usedAfter) :
    Draws key used (first ++ second) usedAfter where
  grows := List.Subset.trans hfirst.grows hsecond.grows
  nodup := by
    rw [List.filterMap_append]
    apply List.Nodup.append hfirst.nodup hsecond.nodup
    intro k hk hagain
    exact hsecond.isNew k hagain (hfirst.recorded hk)
  isNew := by
    rw [List.filterMap_append]
    intro k hmem hused
    rcases List.mem_append.mp hmem with hk | hk
    · exact hfirst.isNew k hk hused
    · exact hsecond.isNew k hk (hfirst.grows hused)
  recorded := by
    rw [List.filterMap_append]
    exact List.append_subset.mpr
      ⟨List.Subset.trans hfirst.recorded hsecond.grows, hsecond.recorded⟩

/-- No two of the drawn items have a key in common. -/
theorem pairwise (hdraws : Draws key used drawn usedAfter) :
    drawn.Pairwise fun first second => ∀ k, key first = some k → key second ≠ some k := by
  have hpairwise := List.pairwise_filterMap.mp hdraws.nodup
  apply hpairwise.imp
  intro first second hdiffer k hfirst hsecond
  exact hdiffer k hfirst k hsecond rfl

end Draws

/-! ## The first of each key -/

variable [DecidableEq κ]

/-- The items whose key is not used and was not met before. -/
def firstOfEach (key : α → Option κ) : List κ → List α → List α
  | _, [] => []
  | used, item :: rest =>
      match key item with
      | none => item :: firstOfEach key used rest
      | some k =>
          if k ∈ used then firstOfEach key used rest else item :: firstOfEach key (k :: used) rest

section FirstOfEach

variable {key : α → Option κ} {used : List κ} {item : α} {rest : List α} {k : κ}

theorem firstOfEach_keyless (hkey : key item = none) :
    firstOfEach key used (item :: rest) = item :: firstOfEach key used rest := by
  rw [firstOfEach, hkey]

theorem firstOfEach_used (hkey : key item = some k) (hused : k ∈ used) :
    firstOfEach key used (item :: rest) = firstOfEach key used rest := by
  rw [firstOfEach, hkey]
  exact if_pos hused

theorem firstOfEach_new (hkey : key item = some k) (hnew : k ∉ used) :
    firstOfEach key used (item :: rest) = item :: firstOfEach key (k :: used) rest := by
  rw [firstOfEach, hkey]
  exact if_neg hnew

theorem firstOfEach_sublist (used : List κ) (items : List α) :
    (firstOfEach key used items).Sublist items := by
  induction items generalizing used with
  | nil => exact List.Sublist.slnil
  | cons item rest ih =>
      cases hkey : key item with
      | none =>
          rw [firstOfEach_keyless hkey]
          exact (ih used).cons_cons item
      | some k =>
          by_cases hused : k ∈ used
          · rw [firstOfEach_used hkey hused]
            exact (ih used).cons item
          · rw [firstOfEach_new hkey hused]
            exact (ih (k :: used)).cons_cons item

variable (key) in
theorem exists_draws_firstOfEach (used : List κ) (items : List α) :
    ∃ usedAfter, Draws key used (firstOfEach key used items) usedAfter := by
  induction items generalizing used with
  | nil => exact ⟨used, Draws.nil (List.Subset.refl used)⟩
  | cons item rest ih =>
      cases hkey : key item with
      | none =>
          obtain ⟨usedAfter, hrest⟩ := ih used
          rw [firstOfEach_keyless hkey]
          have hitem : Draws key used [item] used :=
            Draws.of_keyless fun other hother => by rwa [List.mem_singleton.mp hother]
          exact ⟨usedAfter, hitem.append hrest⟩
      | some k =>
          by_cases hused : k ∈ used
          · rw [firstOfEach_used hkey hused]
            exact ih used
          · obtain ⟨usedAfter, hrest⟩ := ih (k :: used)
            rw [firstOfEach_new hkey hused]
            exact ⟨usedAfter, (Draws.single hkey hused).append hrest⟩

/-- Related items with the same keys are related as the first of each. -/
theorem forall₂_firstOfEach {β : Type*} {key' : β → Option κ} {R : α → β → Prop} {items : List α}
    {others : List β} (hrelated : List.Forall₂ R items others)
    (hkeys : ∀ item other, R item other → key' other = key item) (used : List κ) :
    List.Forall₂ R (firstOfEach key used items) (firstOfEach key' used others) := by
  induction hrelated generalizing used with
  | nil => exact List.Forall₂.nil
  | @cons item other _ _ hitem _ ih =>
      have hsame := hkeys item other hitem
      cases hkey : key item with
      | none =>
          rw [firstOfEach_keyless hkey, firstOfEach_keyless (hsame.trans hkey)]
          exact List.Forall₂.cons hitem (ih used)
      | some k =>
          have hkey' := hsame.trans hkey
          by_cases hused : k ∈ used
          · rw [firstOfEach_used hkey hused, firstOfEach_used hkey' hused]
            exact ih used
          · rw [firstOfEach_new hkey hused, firstOfEach_new hkey' hused]
            exact List.Forall₂.cons hitem (ih (k :: used))

end FirstOfEach

end Goveling.Math.NewKeys
