/-
# Going to the nearest

From the current item one goes to the first of the nearest items that are left, until none is
left. Every item is visited once, and each one is followed by a nearest one of those behind it,
whatever is compared: distances may be infinite, and need not be symmetric.
-/

import Mathlib.Data.List.MinMax

namespace Goveling.Math

universe u v

variable {α : Type u} {κ : Type v} [LinearOrder κ] (distance : α → α → κ)

/-- The order in which the remaining items are visited, with as many steps as items. -/
def nearestFirst [DecidableEq α] : ℕ → α → List α → List α
  | 0, _, _ => []
  | steps + 1, current, remaining =>
      match remaining.argmin (distance current) with
      | some nearest => nearest :: nearestFirst steps nearest (remaining.erase nearest)
      | none => []

/-- Each item of a sequence is followed by a nearest one of those behind it. -/
def GoesToNearest : List α → Prop
  | current :: next :: later =>
      (∀ other ∈ later, distance current next ≤ distance current other) ∧
        GoesToNearest (next :: later)
  | _ => True

section NearestFirst

variable [DecidableEq α]

/-- A step goes to an item that is left. -/
theorem nearestFirst_succ {steps : ℕ} (current : α) {remaining : List α}
    (hsteps : remaining.length = steps + 1) :
    ∃ nearest ∈ remaining, remaining.argmin (distance current) = some nearest ∧
      (remaining.erase nearest).length = steps ∧
      nearestFirst distance (steps + 1) current remaining =
        nearest :: nearestFirst distance steps nearest (remaining.erase nearest) := by
  cases hnearest : remaining.argmin (distance current) with
  | none =>
      rw [List.argmin_eq_none.mp hnearest] at hsteps
      cases hsteps
  | some nearest =>
      have hmem : nearest ∈ remaining := List.argmin_mem hnearest
      refine ⟨nearest, hmem, rfl, ?_, ?_⟩
      · rw [List.length_erase_of_mem hmem, hsteps]
        rfl
      · rw [nearestFirst, hnearest]

/-- Each remaining item is visited once. -/
theorem nearestFirst_perm (steps : ℕ) (current : α) (remaining : List α)
    (hsteps : remaining.length = steps) :
    (nearestFirst distance steps current remaining).Perm remaining := by
  induction steps generalizing current remaining with
  | zero =>
      rw [List.length_eq_zero_iff.mp hsteps]
      rfl
  | succ steps ih =>
      obtain ⟨nearest, hmem, -, hlength, horder⟩ := nearestFirst_succ distance current hsteps
      rw [horder]
      exact ((ih nearest _ hlength).cons nearest).trans (List.perm_cons_erase hmem).symm

/-- Every step goes to a nearest item. -/
theorem goesToNearest_nearestFirst (steps : ℕ) (current : α) (remaining : List α)
    (hsteps : remaining.length = steps) :
    GoesToNearest distance (current :: nearestFirst distance steps current remaining) := by
  induction steps generalizing current remaining with
  | zero => trivial
  | succ steps ih =>
      obtain ⟨nearest, -, hnearest, hlength, horder⟩ := nearestFirst_succ distance current hsteps
      rw [horder]
      refine ⟨fun other hother => ?_, ih nearest _ hlength⟩
      have hleft := (nearestFirst_perm distance steps nearest _ hlength).subset hother
      exact List.le_of_mem_argmin (List.mem_of_mem_erase hleft) hnearest

end NearestFirst

end Goveling.Math
