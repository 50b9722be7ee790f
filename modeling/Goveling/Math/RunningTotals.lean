/-
# Running totals along a list

Every element of a list takes some amount, and a counter runs along: an element
starts where the counter stands and moves it on by its amount. Two counters that
start together agree at the elements one looks at exactly when the amounts of
all elements before add up to the same.
-/

import Mathlib.Algebra.Order.BigOperators.Group.List
import Mathlib.Algebra.Order.Floor.Ring
import Mathlib.Tactic.Linarith

namespace Goveling.Math

universe u v

variable {α : Type u} {β : Type v}

/-- The elements with where the counter stands when they come. -/
def starts (amount : α → ℤ) : ℤ → List α → List (α × ℤ)
  | _, [] => []
  | first, a :: rest => (a, first) :: starts amount (first + amount a) rest

@[simp]
theorem starts_nil (amount : α → ℤ) (first : ℤ) : starts amount first [] = [] := rfl

@[simp]
theorem starts_cons (amount : α → ℤ) (first : ℤ) (a : α) (rest : List α) :
    starts amount first (a :: rest) = (a, first) :: starts amount (first + amount a) rest := rfl

@[simp]
theorem map_fst_starts (amount : α → ℤ) (first : ℤ) (items : List α) :
    (starts amount first items).map Prod.fst = items := by
  induction items generalizing first with
  | nil => rfl
  | cons a rest ih => rw [starts_cons, List.map_cons, ih]

/-- Every element starts where the one before it has taken its amount. -/
theorem isChain_starts (amount : α → ℤ) (first : ℤ) (items : List α) :
    (starts amount first items).IsChain fun earlier later =>
      later.2 = earlier.2 + amount earlier.1 := by
  induction items generalizing first with
  | nil => exact List.IsChain.nil
  | cons a rest ih =>
      cases rest with
      | nil => exact List.IsChain.singleton _
      | cons b others => exact List.isChain_cons_cons.mpr ⟨rfl, ih (first + amount a)⟩

/-- An element starts after the amounts of all elements before it. -/
theorem mem_starts_iff {amount : α → ℤ} {first : ℤ} {items : List α} {entry : α × ℤ} :
    entry ∈ starts amount first items ↔
      ∃ before after, items = before ++ entry.1 :: after ∧
        entry.2 = first + (before.map amount).sum := by
  induction items generalizing first with
  | nil => simp
  | cons a rest ih =>
      rw [starts_cons, List.mem_cons, ih]
      constructor
      · rintro (rfl | ⟨before, after, rfl, hstart⟩)
        · exact ⟨[], rest, rfl, by simp⟩
        · exact ⟨a :: before, after, rfl, by rw [hstart, List.map_cons, List.sum_cons, add_assoc]⟩
      · rintro ⟨before, after, hsplit, hstart⟩
        cases before with
        | nil =>
            obtain ⟨hfirst, -⟩ := List.cons.inj hsplit
            exact .inl (Prod.ext hfirst.symm (by simpa using hstart))
        | cons b others =>
            obtain ⟨rfl, hrest⟩ := List.cons.inj hsplit
            refine .inr ⟨others, after, hrest, ?_⟩
            rw [hstart, List.map_cons, List.sum_cons, add_assoc]

/-- No element starts before an earlier one has taken its amount, if no amount is negative. -/
theorem pairwise_starts {amount : α → ℤ} {items : List α} (hamount : ∀ a ∈ items, 0 ≤ amount a)
    (first : ℤ) :
    (starts amount first items).Pairwise fun earlier later =>
      earlier.2 + amount earlier.1 ≤ later.2 := by
  induction items generalizing first with
  | nil => exact List.Pairwise.nil
  | cons a rest ih =>
      obtain ⟨-, hrest⟩ := List.forall_mem_cons.mp hamount
      refine List.pairwise_cons.mpr ⟨fun later hlater => ?_, ih hrest _⟩
      obtain ⟨before, after, hsplit, hstart⟩ := mem_starts_iff.mp hlater
      have hsum : 0 ≤ (before.map amount).sum := by
        apply List.sum_nonneg
        intro value hvalue
        obtain ⟨b, hb, rfl⟩ := List.mem_map.mp hvalue
        exact hrest b (hsplit ▸ List.mem_append_left _ hb)
      rw [hstart]
      linarith

/-- Two counters agree at the elements that are kept exactly when the amounts before each of
them add up to the same. -/
theorem filter_starts_eq_iff (keep : α → Bool) (label : α → β) (amount other : α → ℤ)
    (first second : ℤ) (items : List α) :
    (((starts amount first items).filter fun entry => keep entry.1).map fun entry =>
        (label entry.1, entry.2)) =
      (((starts other second items).filter fun entry => keep entry.1).map fun entry =>
        (label entry.1, entry.2)) ↔
      ∀ (before : List α) (a : α) (after : List α), items = before ++ a :: after →
        keep a = true → first + (before.map amount).sum = second + (before.map other).sum := by
  induction items generalizing first second with
  | nil => simp
  | cons a rest ih =>
      have hsplits : (∀ (before : List α) (b : α) (after : List α),
          a :: rest = before ++ b :: after → keep b = true →
            first + (before.map amount).sum = second + (before.map other).sum) ↔
          (keep a = true → first = second) ∧
            ∀ (before : List α) (b : α) (after : List α), rest = before ++ b :: after →
              keep b = true → first + amount a + (before.map amount).sum =
                second + other a + (before.map other).sum := by
        constructor
        · intro hall
          constructor
          · intro hkeep
            have hsame := hall [] a rest rfl hkeep
            rwa [List.map_nil, List.map_nil, List.sum_nil, add_zero, add_zero] at hsame
          · intro before b after hrest hkeep
            have hsame := hall (a :: before) b after (congrArg (a :: ·) hrest) hkeep
            rw [List.map_cons, List.map_cons, List.sum_cons, List.sum_cons] at hsame
            linarith
        · rintro ⟨hfirst, hrest⟩ before b after hsplit hkeep
          cases before with
          | nil =>
              obtain ⟨rfl, -⟩ := List.cons.inj hsplit
              simpa using hfirst hkeep
          | cons c others =>
              obtain ⟨rfl, htail⟩ := List.cons.inj hsplit
              have hsame := hrest others b after htail hkeep
              rw [List.map_cons, List.map_cons, List.sum_cons, List.sum_cons]
              linarith
      rw [hsplits, ← ih, starts_cons, starts_cons]
      by_cases hkeep : keep a = true
      · simp [hkeep]
      · simp [hkeep]

/-! ## Amounts that are rounded down -/

section Rounding

variable {κ : Type v} [Field κ] [LinearOrder κ]

/-- A total is the sum of amounts that were rounded down one by one, up to what the
rounding takes. -/
def WithinRounding (total : κ) (values : List ℤ) : Prop :=
  ((values.sum : ℤ) : κ) ≤ total ∧ total ≤ ((values.sum + values.length : ℤ) : κ)

theorem withinRounding_nil : WithinRounding (0 : κ) [] := by
  constructor <;> simp

variable [IsStrictOrderedRing κ] [FloorRing κ]

/-- The next amount is added to the total and rounded down for itself. -/
theorem WithinRounding.concat {total : κ} {values : List ℤ} (hwithin : WithinRounding total values)
    (amount : κ) : WithinRounding (total + amount) (values ++ [⌊amount⌋]) := by
  obtain ⟨hlow, hhigh⟩ := hwithin
  have hfloor := Int.floor_le amount
  have hnext := (Int.lt_floor_add_one amount).le
  rw [WithinRounding, List.sum_append, List.sum_singleton, List.length_append,
    List.length_singleton]
  push_cast at hlow hhigh ⊢
  constructor
  · linarith
  · linarith

/-- The total can be rounded down as well. -/
theorem WithinRounding.floor {total : κ} {values : List ℤ}
    (hwithin : WithinRounding total values) :
    values.sum ≤ ⌊total⌋ ∧ ⌊total⌋ ≤ values.sum + values.length := by
  constructor
  · exact Int.le_floor.mpr hwithin.1
  · exact Int.cast_le.mp ((Int.floor_le total).trans hwithin.2)

end Rounding

end Goveling.Math
