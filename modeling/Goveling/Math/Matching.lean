/-
# Lists that match up to order

Two lists match when the elements of one can be put into an order in which each is related to
the element of the other at the same index. A relation may be read off from what the elements
describe: matching the elements is then matching what they describe.
-/

import Mathlib.Data.List.Perm.Basic

namespace Goveling.Math

universe u v w x

variable {α : Type u} {β : Type v} {γ : Type w} {δ : Type x}

/-- The elements of a list, in some order, are related to those of another. -/
def Matches (R : α → β → Prop) (first : List α) (second : List β) : Prop :=
  ∃ ordered, first.Perm ordered ∧ List.Forall₂ R ordered second

theorem Matches.of_forall₂ {R : α → β → Prop} {first : List α} {second : List β}
    (hrelated : List.Forall₂ R first second) : Matches R first second :=
  ⟨first, List.Perm.refl first, hrelated⟩

/-- Related lists have the same images when related elements have. -/
theorem map_eq_map_of_forall₂ {R : α → β → Prop} {f : α → γ} {g : β → γ} {first : List α}
    {second : List β} (hrelated : List.Forall₂ R first second)
    (hsame : ∀ a b, R a b → f a = g b) : first.map f = second.map g := by
  have hequal : List.Forall₂ (· = ·) (first.map f) (second.map g) := by
    rw [List.forall₂_map_left_iff, List.forall₂_map_right_iff]
    exact hrelated.imp hsame
  rwa [List.forall₂_eq_eq_eq] at hequal

/-- An element of a list is related to an element of the other. -/
theorem exists_of_mem_forall₂ {R : α → β → Prop} {first : List α} {second : List β}
    (hrelated : List.Forall₂ R first second) {a : α} (ha : a ∈ first) :
    ∃ b ∈ second, R a b := by
  induction hrelated with
  | nil => cases ha
  | cons hfirst _ ih =>
      rcases List.mem_cons.mp ha with rfl | hrest
      · exact ⟨_, List.mem_cons_self, hfirst⟩
      · obtain ⟨b, hb, hrelated⟩ := ih hrest
        exact ⟨b, List.mem_cons_of_mem _ hb, hrelated⟩

/-- A related list meets a condition on the first list exactly when all of it does. -/
theorem forall₂_iff_of_forall₂ {R S : α → β → Prop} {P : α → Prop}
    (hiff : ∀ a b, R a b → (S a b ↔ P a)) {first : List α} {second : List β}
    (hrelated : List.Forall₂ R first second) :
    List.Forall₂ S first second ↔ ∀ a ∈ first, P a := by
  induction hrelated with
  | nil => simp
  | cons hab _ ih => rw [List.forall₂_cons, List.forall_mem_cons, hiff _ _ hab, ih]

/-- All of one list meets a condition exactly when all of a related one meets another, if related
elements do. -/
theorem forall_mem_iff_of_forall₂ {R : α → β → Prop} {P : α → Prop} {Q : β → Prop}
    (hiff : ∀ a b, R a b → (P a ↔ Q b)) {first : List α} {second : List β}
    (hrelated : List.Forall₂ R first second) : (∀ a ∈ first, P a) ↔ ∀ b ∈ second, Q b := by
  induction hrelated with
  | nil => simp
  | cons hab _ ih => rw [List.forall_mem_cons, List.forall_mem_cons, hiff _ _ hab, ih]

/-- Lists that are related index by index can be related through a list between them. -/
theorem forall₂_through {R : α → β → Prop} {S : β → γ → Prop} {T : α → γ → Prop}
    {first : List α} {second : List β} {third : List γ}
    (hthrough : ∀ a b c, R a b → S b c → T a c) (hfirst : List.Forall₂ R first second)
    (hsecond : List.Forall₂ S second third) : List.Forall₂ T first third := by
  induction hfirst generalizing third with
  | nil =>
      cases hsecond
      exact .nil
  | cons hrelated _ ih =>
      cases hsecond with
      | cons hnext hrest => exact .cons (hthrough _ _ _ hrelated hnext) (ih hrest)

/-- What describes lists that match matches. -/
theorem Matches.describing {D : γ → α → Prop} {E : δ → β → Prop} {R : α → β → Prop}
    {T : γ → δ → Prop} (hthrough : ∀ c a b d, D c a → R a b → E d b → T c d)
    {first : List α} {second : List β} {firstBy : List γ} {secondBy : List δ}
    (hfirst : List.Forall₂ D firstBy first) (hsecond : List.Forall₂ E secondBy second)
    (hmatches : Matches R first second) : Matches T firstBy secondBy := by
  obtain ⟨ordered, hperm, hrelated⟩ := hmatches
  obtain ⟨orderedBy, hdescribes, hpermBy⟩ := List.perm_comp_forall₂ hperm.symm hfirst.flip
  refine ⟨orderedBy, hpermBy.symm, ?_⟩
  have hmiddle : List.Forall₂ (fun c b => ∃ a, D c a ∧ R a b) orderedBy second :=
    forall₂_through (fun c a b hdescribed hab => ⟨a, hdescribed, hab⟩) hdescribes.flip hrelated
  refine forall₂_through ?_ hmiddle hsecond.flip
  rintro c b d ⟨a, hdescribed, hab⟩ hother
  exact hthrough c a b d hdescribed hab hother

/-- What a filter lets through comes from a part of the list, item by item. -/
theorem exists_sublist_forall₂_filterMap {R : α → β → Prop} {f : α → Option β}
    (hkept : ∀ a b, f a = some b → R a b) (items : List α) :
    ∃ kept, kept.Sublist items ∧ List.Forall₂ R kept (items.filterMap f) := by
  induction items with
  | nil => exact ⟨[], List.Sublist.refl _, .nil⟩
  | cons a rest ih =>
      obtain ⟨kept, hsublist, hrelated⟩ := ih
      cases ha : f a with
      | none =>
          rw [List.filterMap_cons_none ha]
          exact ⟨kept, hsublist.cons a, hrelated⟩
      | some b =>
          rw [List.filterMap_cons_some ha]
          exact ⟨a :: kept, hsublist.cons_cons a, .cons (hkept a b ha) hrelated⟩

end Goveling.Math
