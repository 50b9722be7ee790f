/-
# Cities and the order in which they are visited

`InterCityService.find_optimal_city_sequence` starts in the requested city, or in
the first one, and goes to the nearest remaining city until none is left. The
cities it still has to visit are picked by name: whatever shares its name with
the starting city is left out, however many places it has.
-/

import Goveling.Math.NearestFirst
import Goveling.Python.Builtins

namespace Goveling.MultiCity

open Goveling.Python

universe u

/-- `City`; the points of interest stay what the caller passes. -/
structure City (P : Type u) where
  name : String
  centerLat : ℚ
  centerLon : ℚ
  country : String
  pois : List P
  deriving DecidableEq

/-- `City.distance_to`, which asks a library for the geodesic distance. -/
abbrev DistanceTo (P : Type u) := City P → City P → ℚ

section Sequence

variable {P : Type u}

/-- The city a trip starts in; there is none without cities. -/
def currentCity (cities : List (City P)) (startCity : Option String) : Option (City P) :=
  match startCity with
  | some name =>
      if name = "" then cities.head?
      else (cities.find? fun city => city.name = name).or cities.head?
  | none => cities.head?

/-- The cities that are left after the starting one. -/
def remainingCities (cities : List (City P)) (current : City P) : List (City P) :=
  cities.filter fun city => city.name ≠ current.name

/-- The starting city and the cities that are left. -/
def visitedCities (cities : List (City P)) (startCity : Option String) : List (City P) :=
  match currentCity cities startCity with
  | some current => current :: remainingCities cities current
  | none => []

/-- The cities behind the starting one that share its name. -/
def droppedCities (cities : List (City P)) (startCity : Option String) : List (City P) :=
  match currentCity cities startCity with
  | some current => (cities.filter fun city => city.name = current.name).tail
  | none => []

variable [DecidableEq P] (distanceTo : DistanceTo P)

/-- The loop of `find_optimal_city_sequence`, with as many steps as cities. -/
def nearestFirst : ℕ → City P → List (City P) → List (City P)
  | 0, _, _ => []
  | steps + 1, current, remaining =>
      match remaining.argmin (distanceTo current) with
      | some nearest =>
          nearest :: nearestFirst steps nearest (remaining.erase nearest)
      | none => []

/-- `find_optimal_city_sequence`. -/
def findOptimalCitySequence (cities : List (City P)) (startCity : Option String) :
    List (City P) :=
  if cities.length ≤ 1 then cities
  else
    match currentCity cities startCity with
    | some current =>
        let remaining := remainingCities cities current
        current :: nearestFirst distanceTo remaining.length current remaining
    | none => []

end Sequence

/-! ## What is visited -/

section Visited

variable {P : Type u} {cities : List (City P)} {startCity : Option String} {current : City P}

/-- The starting city is the first one of its name. -/
theorem currentCity_first (hcurrent : currentCity cities startCity = some current) :
    (cities.filter fun city => city.name = current.name).head? = some current := by
  have hhead : cities.head? = some current →
      (cities.filter fun city => city.name = current.name).head? = some current := by
    intro hfirst
    cases cities with
    | nil => cases hfirst
    | cons first rest =>
        obtain rfl : first = current := by simpa using hfirst
        simp
  cases startCity with
  | none => exact hhead hcurrent
  | some name =>
      simp only [currentCity] at hcurrent
      by_cases hempty : name = ""
      · rw [if_pos hempty] at hcurrent
        exact hhead hcurrent
      · rw [if_neg hempty] at hcurrent
        cases hfind : cities.find? fun city => city.name = name with
        | none =>
            rw [hfind] at hcurrent
            exact hhead hcurrent
        | some found =>
            rw [hfind] at hcurrent
            obtain rfl : found = current := by simpa using hcurrent
            have hname : found.name = name := by simpa using List.find?_some hfind
            rw [List.head?_filter, hname]
            exact hfind

theorem exists_currentCity (hcities : cities ≠ []) (startCity : Option String) :
    ∃ current, currentCity cities startCity = some current := by
  obtain ⟨first, rest, rfl⟩ := List.exists_cons_of_ne_nil hcities
  cases startCity with
  | none => exact ⟨first, rfl⟩
  | some name =>
      simp only [currentCity]
      by_cases hempty : name = ""
      · exact ⟨first, by simp [hempty]⟩
      · rw [if_neg hempty]
        cases (first :: rest).find? fun city => city.name = name with
        | none => exact ⟨first, rfl⟩
        | some found => exact ⟨found, rfl⟩

/-- Every city is visited or dropped. -/
theorem visited_append_dropped_perm (hcurrent : currentCity cities startCity = some current) :
    (visitedCities cities startCity ++ droppedCities cities startCity).Perm cities := by
  have hfirst := currentCity_first hcurrent
  have hsame : cities.filter (fun city => city.name = current.name) =
      current :: droppedCities cities startCity := by
    simp only [droppedCities, hcurrent]
    cases hfilter : cities.filter fun city => city.name = current.name with
    | nil =>
        rw [hfilter] at hfirst
        cases hfirst
    | cons first rest =>
        rw [hfilter] at hfirst
        obtain rfl : first = current := by simpa using hfirst
        rfl
  have hsplit := List.filter_append_perm (fun city : City P => city.name = current.name) cities
  have hother : cities.filter (fun city => !decide (city.name = current.name)) =
      remainingCities cities current := by
    unfold remainingCities
    congr 1
    funext city
    simp
  rw [hsame, hother] at hsplit
  simp only [visitedCities, hcurrent]
  rw [List.cons_append] at hsplit ⊢
  exact (List.Perm.cons current List.perm_append_comm).trans hsplit

variable [DecidableEq P] (distanceTo : DistanceTo P)

/-- The loop goes to the nearest as any sequence of items does. -/
theorem nearestFirst_eq (steps : ℕ) (current : City P) (remaining : List (City P)) :
    nearestFirst distanceTo steps current remaining =
      Math.nearestFirst distanceTo steps current remaining := by
  induction steps generalizing current remaining with
  | zero => rfl
  | succ steps ih =>
      rw [nearestFirst, Math.nearestFirst]
      cases remaining.argmin (distanceTo current) with
      | none => rfl
      | some nearest => exact congrArg (nearest :: ·) (ih nearest (remaining.erase nearest))

/-- The sequence starts in the starting city and goes on through the cities left. -/
theorem findOptimalCitySequence_eq (hcurrent : currentCity cities startCity = some current) :
    ∃ order, findOptimalCitySequence distanceTo cities startCity = current :: order ∧
      order.Perm (remainingCities cities current) := by
  unfold findOptimalCitySequence
  by_cases hfew : cities.length ≤ 1
  · rw [if_pos hfew]
    have hfirst := currentCity_first hcurrent
    cases cities with
    | nil => cases hfirst
    | cons first rest =>
        have hrest : rest = [] := by
          apply List.length_eq_zero_iff.mp
          rw [List.length_cons] at hfew
          omega
        subst hrest
        obtain rfl : first = current := by
          have hmem := List.mem_of_mem_head? hfirst
          exact (List.mem_singleton.mp (List.mem_filter.mp hmem).1).symm
        exact ⟨[], rfl, by simp [remainingCities]⟩
  · rw [if_neg hfew, hcurrent]
    refine ⟨_, rfl, ?_⟩
    rw [nearestFirst_eq]
    exact Math.nearestFirst_perm distanceTo _ current _ rfl

theorem findOptimalCitySequence_perm (hcurrent : currentCity cities startCity = some current) :
    (findOptimalCitySequence distanceTo cities startCity).Perm
      (visitedCities cities startCity) := by
  obtain ⟨order, horder, hperm⟩ := findOptimalCitySequence_eq distanceTo hcurrent
  rw [horder, visitedCities, hcurrent]
  exact hperm.cons current

/-- Dropping cities loses no name. -/
theorem mem_names_sequence_iff (hcurrent : currentCity cities startCity = some current)
    {name : String} :
    name ∈ cities.map City.name ↔
      name ∈ (findOptimalCitySequence distanceTo cities startCity).map City.name := by
  have hvisited := (findOptimalCitySequence_perm distanceTo hcurrent).map City.name
  have hall := (visited_append_dropped_perm hcurrent).map City.name
  rw [hvisited.mem_iff, ← hall.mem_iff, List.map_append, List.mem_append]
  refine or_iff_left_of_imp ?_
  intro hdropped
  obtain ⟨city, hcity, rfl⟩ := List.mem_map.mp hdropped
  simp only [droppedCities, hcurrent] at hcity
  have hname : city.name = current.name := by
    simpa using (List.mem_filter.mp (List.mem_of_mem_tail hcity)).2
  rw [hname]
  simp [visitedCities, hcurrent]

end Visited

end Goveling.MultiCity
