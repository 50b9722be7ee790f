/-
# What is promised of the order of the cities

`find_optimal_city_sequence` is to visit every city once, from the start city on, each time the
nearest one that is left. It always goes to the nearest. It misses the cities behind the first one
that share its name, since that is how it tells the cities that are left; and it does not look for
a start city without a name.
-/

import Goveling.MultiCity.Intercity

namespace Goveling.MultiCity

open Goveling.Python

universe u

variable {P : Type u}

/-- Each city of a sequence is followed by a nearest one of those behind it. -/
def GoesToNearest (distanceTo : DistanceTo P) : List (City P) → Prop
  | current :: next :: later =>
      (∀ other ∈ later, distanceTo current next ≤ distanceTo current other) ∧
        GoesToNearest distanceTo (next :: later)
  | _ => True

/-- A sequence visits all cities from the start city on, always going to the nearest. -/
structure VisitsNearestFirst (distanceTo : DistanceTo P) (cities : List (City P))
    (startCity : Option String) (sequence : List (City P)) : Prop where
  perm : sequence.Perm cities
  starts : ∀ name ∈ startCity, name ∈ cities.map City.name →
    (sequence.map City.name).head? = some name
  nearest : GoesToNearest distanceTo sequence

/-- A start city without a name is the first city, or none of them. -/
def FindsNameless (cities : List (City P)) (startCity : Option String) : Prop :=
  startCity = some "" → "" ∈ cities.map City.name → (cities.map City.name).head? = some ""

section Sequence

variable {cities : List (City P)} {startCity : Option String} {current : City P}

/-- The first city is the start city if one has its name, but for a start city without a name. -/
theorem name_currentCity (hcurrent : currentCity cities startCity = some current) {name : String}
    (hstart : startCity = some name) (hname : name ≠ "") (hmem : name ∈ cities.map City.name) :
    current.name = name := by
  subst hstart
  simp only [currentCity, if_neg hname] at hcurrent
  cases hfind : cities.find? fun city => city.name = name with
  | none =>
      obtain ⟨city, hcity, hsame⟩ := List.mem_map.mp hmem
      exact absurd hsame (by simpa using List.find?_eq_none.mp hfind city hcity)
  | some found =>
      rw [hfind] at hcurrent
      obtain rfl : found = current := by simpa using hcurrent
      simpa using List.find?_some hfind

theorem currentCity_nameless : currentCity cities (some "") = cities.head? := by
  simp [currentCity]

theorem goesToNearest_iff (distanceTo : DistanceTo P) (cities : List (City P)) :
    GoesToNearest distanceTo cities ↔ Math.GoesToNearest distanceTo cities := by
  induction cities with
  | nil => exact Iff.rfl
  | cons current rest ih =>
      cases rest with
      | nil => exact Iff.rfl
      | cons next later => exact and_congr_right fun _ => ih

variable [DecidableEq P] (distanceTo : DistanceTo P)

theorem goesToNearest_findOptimalCitySequence (cities : List (City P))
    (startCity : Option String) :
    GoesToNearest distanceTo (findOptimalCitySequence distanceTo cities startCity) := by
  unfold findOptimalCitySequence
  split
  · rename_i hfew
    match cities, hfew with
    | [], _ => trivial
    | [_], _ => trivial
  · cases currentCity cities startCity with
    | none => trivial
    | some current =>
        dsimp only
        rw [nearestFirst_eq, goesToNearest_iff]
        exact Math.goesToNearest_nearestFirst distanceTo _ current _ rfl

/-- All cities are visited exactly when none is dropped. -/
theorem findOptimalCitySequence_perm_iff
    (hcurrent : currentCity cities startCity = some current) :
    (findOptimalCitySequence distanceTo cities startCity).Perm cities ↔
      droppedCities cities startCity = [] := by
  have hvisited := findOptimalCitySequence_perm distanceTo hcurrent
  have hall := visited_append_dropped_perm hcurrent
  constructor
  · intro hperm
    have hlength := hall.length_eq
    rw [List.length_append, ← hvisited.length_eq, hperm.length_eq] at hlength
    exact List.length_eq_zero_iff.mp (by omega)
  · intro hnone
    rw [hnone, List.append_nil] at hall
    exact hvisited.trans hall

/-- The sequence starts in the start city exactly when that is found. -/
theorem starts_findOptimalCitySequence_iff
    (hcurrent : currentCity cities startCity = some current) :
    (∀ name ∈ startCity, name ∈ cities.map City.name →
      ((findOptimalCitySequence distanceTo cities startCity).map City.name).head? = some name) ↔
      FindsNameless cities startCity := by
  obtain ⟨order, hsequence, -⟩ := findOptimalCitySequence_eq distanceTo hcurrent
  rw [hsequence, List.map_cons, List.head?_cons]
  constructor
  · rintro hstarts rfl hmem
    rw [currentCity_nameless] at hcurrent
    rw [List.head?_map, hcurrent]
    exact hstarts "" rfl hmem
  · intro hfinds name hstart hmem
    by_cases hname : name = ""
    · subst hname
      have hhead := hfinds hstart hmem
      rw [hstart, currentCity_nameless] at hcurrent
      rwa [List.head?_map, hcurrent] at hhead
    · rw [name_currentCity hcurrent hstart hname hmem]

end Sequence

/-- The cities are visited as promised exactly when no two of them share the name of the first
one, and a start city without a name is not missed. -/
theorem findOptimalCitySequence_visits_iff [DecidableEq P] (distanceTo : DistanceTo P)
    (cities : List (City P)) (startCity : Option String) :
    VisitsNearestFirst distanceTo cities startCity
        (findOptimalCitySequence distanceTo cities startCity) ↔
      droppedCities cities startCity = [] ∧ FindsNameless cities startCity := by
  by_cases hcities : cities = []
  · subst hcities
    have hnone : currentCity ([] : List (City P)) startCity = none := by
      unfold currentCity
      split
      · split <;> rfl
      · rfl
    have hvisits : VisitsNearestFirst distanceTo [] startCity [] :=
      ⟨List.Perm.refl _, fun _ _ hmem => absurd hmem List.not_mem_nil, trivial⟩
    have hdropped : droppedCities ([] : List (City P)) startCity = [] := by
      rw [droppedCities, hnone]
    exact iff_of_true hvisits ⟨hdropped, fun _ hmem => absurd hmem List.not_mem_nil⟩
  · obtain ⟨current, hcurrent⟩ := exists_currentCity hcities startCity
    rw [← findOptimalCitySequence_perm_iff distanceTo hcurrent,
      ← starts_findOptimalCitySequence_iff distanceTo hcurrent]
    constructor
    · intro hvisits
      exact ⟨hvisits.perm, hvisits.starts⟩
    · intro hfinds
      exact ⟨hfinds.1, hfinds.2,
        goesToNearest_findOptimalCitySequence distanceTo cities startCity⟩

/-- Two cities of one name. -/
def springfields : List (City String) :=
  [⟨"Springfield", 40, -90, "USA", ["Capitol"]⟩, ⟨"Springfield", 42, -73, "USA", ["Armory"]⟩]

/-- The second one is not visited. -/
theorem not_visitsNearestFirst_springfields :
    ¬ VisitsNearestFirst (fun _ _ => 1500) springfields none
      (findOptimalCitySequence (fun _ _ => 1500) springfields none) := by
  intro hvisits
  have hlength := hvisits.perm.length_eq
  revert hlength
  decide +kernel

end Goveling.MultiCity
