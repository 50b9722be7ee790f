/-
# Identifiers of suggested places

A suggestion may carry a `place_id`. An empty one counts as none, and identifiers are told apart
as the members of a set, which a list or a dictionary cannot be.
-/

import Goveling.Math.NewKeys
import Goveling.Ortools.TimeWindows

namespace Goveling.Places

open Goveling.Math.NewKeys Goveling.Python Goveling.Ortools

/-- `entry.get('place_id', '')`. -/
def placeId (entry : PyDict) : PyVal := entry.get "place_id" (.str "")

/-- The member of a set that a nonempty identifier is. -/
def setKey? (id : PyVal) : Option PlaceKey := if id.truthy then (keyOf id).toOption else none

/-- The member of a set that stands for an entry with an identifier. -/
def placeKey? (entry : PyDict) : Option PlaceKey := setKey? (placeId entry)

/-- Two entries have the same nonempty identifier. -/
def SharesPlaceId (first second : PyDict) : Prop :=
  (placeId first).truthy = true ∧ (placeId second).truthy = true ∧
    (placeId first).equals (placeId second) = true

/-- An identifier that is empty or can be a member of a set. -/
def IsSetId (id : PyVal) : Prop := id.truthy = true → id.hashable = true

instance (id : PyVal) : Decidable (IsSetId id) :=
  inferInstanceAs (Decidable (id.truthy = true → id.hashable = true))

/-! ## Equal identifiers -/

theorem exists_keyOf {value : PyVal} (hvalue : value.hashable = true) :
    ∃ k, keyOf value = .ok k := by
  cases value with
  | none | bool _ | int _ | float _ | str _ => exact ⟨_, rfl⟩
  | list _ | dict _ => cases hvalue

theorem isSetId_of_keyOf {id : PyVal} {k : PlaceKey} (hkey : keyOf id = .ok k) : IsSetId id := by
  intro _
  cases id with
  | none | bool _ | int _ | float _ | str _ => rfl
  | list _ | dict _ => cases hkey

/-- Members of a set are equal as values are. -/
theorem equals_iff_of_keyOf {first second : PyVal} {k l : PlaceKey} (hfirst : keyOf first = .ok k)
    (hsecond : keyOf second = .ok l) : first.equals second = true ↔ k = l := by
  cases first <;> cases second <;> cases hfirst <;> cases hsecond <;>
    simp [PyVal.equals, PyVal.number?]

theorem setKey?_of_keyOf {id : PyVal} {k : PlaceKey} (htruthy : id.truthy = true)
    (hkey : keyOf id = .ok k) : setKey? id = some k := by
  unfold setKey?
  rw [if_pos htruthy, hkey]
  rfl

theorem setKey?_of_not_truthy {id : PyVal} (hempty : ¬ id.truthy = true) : setKey? id = none :=
  if_neg hempty

/-- Entries whose identifiers are members of sets do not share one that only one of them has. -/
theorem not_sharesPlaceId {first second : PyDict} (hfirst : IsSetId (placeId first))
    (hsecond : IsSetId (placeId second))
    (hdiffer : ∀ k, placeKey? first = some k → placeKey? second ≠ some k) :
    ¬ SharesPlaceId first second := by
  rintro ⟨htruthy, htruthy', hequal⟩
  obtain ⟨k, hk⟩ := exists_keyOf (hfirst htruthy)
  obtain ⟨l, hl⟩ := exists_keyOf (hsecond htruthy')
  have hkl := (equals_iff_of_keyOf hk hl).mp hequal
  apply hdiffer k (setKey?_of_keyOf htruthy hk)
  rw [placeKey?, setKey?_of_keyOf htruthy' hl, hkl]

/-- No two drawn entries share an identifier. -/
theorem pairwise_not_sharesPlaceId {used usedAfter : List PlaceKey} {drawn : List PyDict}
    (hdraws : Draws placeKey? used drawn usedAfter)
    (hids : ∀ entry ∈ drawn, IsSetId (placeId entry)) :
    drawn.Pairwise fun first second => ¬ SharesPlaceId first second := by
  apply hdraws.pairwise.imp_of_mem
  intro first second hfirst hsecond
  exact not_sharesPlaceId (hids first hfirst) (hids second hsecond)

end Goveling.Places
