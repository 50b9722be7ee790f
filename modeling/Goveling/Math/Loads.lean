/-
# Loads that stay level

Items are put on keys one at a time, and a load counts the items of a key. Two
ways keep the loads within one of each other: putting every item on a key with
the least load, and dealing the items out in turn. Dealing also says which keys
have the extra item.
-/

import Mathlib.Data.List.Nodup
import Mathlib.Tactic.Ring

namespace Goveling.Math

universe u

variable {K : Type u} {keys : List K} {load next : K → ℕ}

/-- The loads of any two keys are at most one apart. -/
def Level (keys : List K) (load : K → ℕ) : Prop := ∀ a ∈ keys, ∀ b ∈ keys, load a ≤ load b + 1

/-- One more item on a key. -/
structure Gains (key : K) (load next : K → ℕ) : Prop where
  self : next key = load key + 1
  others : ∀ other, other ≠ key → next other = load other

theorem level_of_zero (hzero : ∀ key ∈ keys, load key = 0) : Level keys load := by
  intro a ha b _
  rw [hzero a ha]
  omega

/-! ## The least load -/

/-- An item for a key with the least load keeps the loads level. -/
theorem Level.gains {key : K} (hlevel : Level keys load) (hgains : Gains key load next)
    (hleast : ∀ other ∈ keys, load key ≤ load other) : Level keys next := by
  intro a ha b hb
  have hab := hlevel a ha b hb
  have hkey := hleast b hb
  by_cases hak : a = key
  · subst hak
    by_cases hbk : b = a
    · rw [hbk]
      omega
    · rw [hgains.self, hgains.others b hbk]
      omega
  · rw [hgains.others a hak]
    by_cases hbk : b = key
    · subst hbk
      rw [hgains.self]
      omega
    · rw [hgains.others b hbk]
      exact hab

/-! ## In turn -/

/-- The loads after some items have been dealt to the keys in turn: the first keys have one
item more if the last round is not complete. -/
def Dealt (keys : List K) (load : K → ℕ) (items : ℕ) : Prop :=
  ∀ i key, keys[i]? = some key →
    load key = items / keys.length + if i < items % keys.length then 1 else 0

theorem dealt_zero (hzero : ∀ key ∈ keys, load key = 0) : Dealt keys load 0 := by
  intro i key hkey
  rw [hzero key (List.mem_of_getElem? hkey)]
  simp

/-- The next item goes to the next key. -/
theorem Dealt.gains {items : ℕ} {key : K} (hnodup : keys.Nodup) (hdealt : Dealt keys load items)
    (hkey : keys[items % keys.length]? = some key) (hgains : Gains key load next) :
    Dealt keys next (items + 1) := by
  obtain ⟨hturn, -⟩ := List.getElem?_eq_some_iff.mp hkey
  -- the round goes on or a new one begins
  have hround : (items + 1) / keys.length = items / keys.length +
        (if items % keys.length + 1 = keys.length then 1 else 0) ∧
      (items + 1) % keys.length =
        if items % keys.length + 1 = keys.length then 0 else items % keys.length + 1 := by
    have hitems := Nat.div_add_mod items keys.length
    split
    · rename_i hlast
      have hnext : items + 1 = keys.length * (items / keys.length + 1) := by
        rw [mul_add, mul_one]
        omega
      rw [hnext, Nat.mul_div_cancel_left _ (by omega), Nat.mul_mod_right]
      exact ⟨rfl, rfl⟩
    · have hnext : items + 1 =
          items % keys.length + 1 + keys.length * (items / keys.length) := by
        omega
      have hlt : items % keys.length + 1 < keys.length := by omega
      constructor
      · conv_lhs => rw [hnext]
        rw [Nat.add_mul_div_left _ _ (by omega), Nat.div_eq_of_lt hlt]
        omega
      · conv_lhs => rw [hnext]
        rw [Nat.add_mul_mod_self_left, Nat.mod_eq_of_lt hlt]
  rw [Dealt, hround.1, hround.2]
  intro i other hother
  obtain ⟨hi, -⟩ := List.getElem?_eq_some_iff.mp hother
  have hload := hdealt i other hother
  by_cases hsame : i = items % keys.length
  · have hkeys : other = key := Option.some.inj (hother.symm.trans (hsame ▸ hkey))
    rw [hkeys] at hload ⊢
    rw [hgains.self, hload]
    split_ifs <;> omega
  · have hne : other ≠ key := by
      rintro rfl
      exact hsame ((List.getElem?_inj hi hnodup).mp (hother.trans hkey.symm))
    rw [hgains.others other hne, hload]
    split_ifs <;> omega

/-- Loads that were dealt in turn are level. -/
theorem Dealt.level {items : ℕ} (hdealt : Dealt keys load items) : Level keys load := by
  intro a ha b hb
  obtain ⟨i, hi⟩ := List.mem_iff_getElem?.mp ha
  obtain ⟨j, hj⟩ := List.mem_iff_getElem?.mp hb
  rw [hdealt i a hi, hdealt j b hj]
  split_ifs <;> omega

/-- With at least as many keys as items no key gets two. -/
theorem Dealt.le_one {items : ℕ} (hdealt : Dealt keys load items) (hfew : items ≤ keys.length)
    {key : K} (hkey : key ∈ keys) : load key ≤ 1 := by
  obtain ⟨i, hi⟩ := List.mem_iff_getElem?.mp hkey
  rw [hdealt i key hi]
  obtain ⟨hlt, -⟩ := List.getElem?_eq_some_iff.mp hi
  rcases hfew.lt_or_eq with hless | hall
  · rw [Nat.div_eq_of_lt hless]
    split_ifs <;> omega
  · rw [hall, Nat.mod_self, Nat.div_self (by omega)]
    simp

end Goveling.Math
