/-
# Tables that keep the first value

Events offer values under keys, and a table takes a value only under a key it
does not have yet. What stands under a key is the first value that was offered
for it.
-/

import Goveling.Math.OrderedMap
import Goveling.Math.Runs

namespace Goveling.Math

universe u v w

variable {E : Type u} {κ : Type v} {β : Type w} [DecidableEq κ]

/-- An event with the key it is about and the value it offers, if any. -/
structure Offer (κ : Type v) (β : Type w) where
  key : Option κ
  value : Option β

/-- Take the value of an offer under a key that is new. -/
def keepFirst (table : OrderedMap κ β) (offer : Offer κ β) : OrderedMap κ β :=
  match offer.key, offer.value with
  | some key, some value => if key ∈ table.keys then table else table.set key value
  | _, _ => table

/-- The first value that is offered under a key. -/
def firstOffered (key : κ) (offers : List (Offer κ β)) : Option β :=
  offers.findSome? fun offer => if offer.key = some key then offer.value else none

section Offers

variable {table : OrderedMap κ β} {offer : Offer κ β} {key : κ}

theorem keepFirst_of_key_eq_none (hkey : offer.key = none) : keepFirst table offer = table := by
  unfold keepFirst
  rw [hkey]

theorem keepFirst_of_value_eq_none (hvalue : offer.value = none) :
    keepFirst table offer = table := by
  unfold keepFirst
  rw [hvalue]
  cases offer.key <;> rfl

/-- Nothing is taken under a key that is known. -/
theorem keepFirst_of_mem (hkey : offer.key = some key) (hknown : key ∈ table.keys) :
    keepFirst table offer = table := by
  unfold keepFirst
  rw [hkey]
  cases offer.value with
  | none => rfl
  | some value => exact if_pos hknown

theorem keepFirst_of_not_mem {value : β} (hkey : offer.key = some key)
    (hvalue : offer.value = some value) (hnew : key ∉ table.keys) :
    keepFirst table offer = table.set key value := by
  unfold keepFirst
  rw [hkey, hvalue]
  exact if_neg hnew

end Offers

/-- What a table has under a key after an offer. -/
theorem get?_keepFirst (table : OrderedMap κ β) (offer : Offer κ β) (key : κ) :
    (keepFirst table offer).get? key =
      (table.get? key).or (if offer.key = some key then offer.value else none) := by
  cases hoffered : offer.key with
  | none => simp [keepFirst_of_key_eq_none hoffered]
  | some other =>
      cases hvalue : offer.value with
      | none => simp [keepFirst_of_value_eq_none hvalue]
      | some value =>
          by_cases hknown : other ∈ table.keys
          · rw [keepFirst_of_mem hoffered hknown]
            by_cases hkey : other = key
            · obtain ⟨found, hfound⟩ := OrderedMap.exists_get?_of_mem_keys (hkey ▸ hknown)
              simp [hfound]
            · simp [hkey]
          · rw [keepFirst_of_not_mem hoffered hvalue hknown, OrderedMap.get?_set]
            by_cases hkey : other = key
            · have hnone := OrderedMap.not_mem_keys_iff.mp (hkey ▸ hknown)
              simp [hkey, hnone]
            · simp [hkey, Ne.symm hkey]

/-- Under a key is the first value that was offered there. -/
theorem get?_foldl_keepFirst (table : OrderedMap κ β) (offers : List (Offer κ β)) (key : κ) :
    (offers.foldl keepFirst table).get? key = (table.get? key).or (firstOffered key offers) := by
  induction offers generalizing table with
  | nil => simp [firstOffered]
  | cons offer rest ih =>
      rw [List.foldl_cons, ih, get?_keepFirst, Option.or_assoc]
      congr 1
      unfold firstOffered
      rw [List.findSome?_cons]
      cases (if offer.key = some key then offer.value else none) <;> rfl

end Goveling.Math
