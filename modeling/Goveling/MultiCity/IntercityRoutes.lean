/-
# Routes between cities

`calculate_intercity_routes` asks OSRM for a route from every city of a list to every other one,
unless they are too far apart, and keeps it under the names of the two. Over all calls a pair gets
the first route that came for its names, be it one of other cities, and a pair without a route is
asked for again.
-/

import Goveling.Math.FirstAnswers
import Goveling.Math.Runs
import Goveling.MultiCity.CountryOptimizer
import Mathlib.Data.List.ProdSigma
import Mathlib.Data.List.ReduceOption

namespace Goveling.MultiCity.Country

open Goveling.Math Goveling.Python

universe u

variable {P : Type u}

/-! ## Routes -/

/-- `InterCityRoute`. -/
structure InterCityRoute (P : Type u) where
  originCity : City P
  destinationCity : City P
  distanceKm : ℚ
  travelTimeHours : ℚ
  transportMode : String := "car"

/-- The entries of `route_data` that are read. -/
structure RouteData where
  distanceM : ℚ
  durationS : ℚ

/-- The route between two cities that is made of an answer of OSRM. -/
def intercityRoute (originCity destCity : City P) (routeData : RouteData) : InterCityRoute P where
  originCity := originCity
  destinationCity := destCity
  distanceKm := routeData.distanceM / 1000
  travelTimeHours := routeData.durationS / 3600

/-- `routes_cache`. -/
abbrev RoutesCache (P : Type u) := OrderedMap (String × String) (InterCityRoute P)

/-- `max_intercity_distance_km`. -/
def maxIntercityDistanceKm : ℚ := 2000

/-- Cities between which routes are asked for, and what OSRM answers for the ones at two places
of the list if it is asked: nothing if it fails. -/
structure RoutesCall (P : Type u) where
  cities : List (City P)
  osrm : ℕ → ℕ → Option RouteData

/-- Two cities with their places in the list. -/
abbrev CityPair (P : Type u) := (City P × ℕ) × (City P × ℕ)

/-- The turns of the two loops that are not skipped. -/
def cityPairs (cities : List (City P)) : List (CityPair P) :=
  (cities.zipIdx.product cities.zipIdx).filter fun pair => pair.1.2 ≠ pair.2.2

/-- The key of a route. -/
def CityPair.cacheKey (pair : CityPair P) : String × String := (pair.1.1.name, pair.2.1.name)

section Calls

variable (distanceTo : DistanceTo P)

/-- What is left of a turn of the loops without a route in the cache. -/
def CityPair.newRoute (osrm : ℕ → ℕ → Option RouteData) (pair : CityPair P) :
    Option (InterCityRoute P) :=
  if maxIntercityDistanceKm < distanceTo pair.1.1 pair.2.1 then none
  else (osrm pair.1.2 pair.2.2).map (intercityRoute pair.1.1 pair.2.1)

/-- A turn of the loops. -/
def visitPair (osrm : ℕ → ℕ → Option RouteData)
    (state : List (InterCityRoute P) × RoutesCache P) (pair : CityPair P) :
    List (InterCityRoute P) × RoutesCache P :=
  match state.2.get? pair.cacheKey with
  | some route => (state.1 ++ [route], state.2)
  | none =>
      match pair.newRoute distanceTo osrm with
      | some route => (state.1 ++ [route], state.2.set pair.cacheKey route)
      | none => state

/-- `calculate_intercity_routes`. -/
def calculateIntercityRoutes (routesCache : RoutesCache P) (call : RoutesCall P) :
    List (InterCityRoute P) × RoutesCache P :=
  (cityPairs call.cities).foldl (visitPair distanceTo call.osrm) ([], routesCache)

/-- The cache after a call. -/
def afterRoutes (routesCache : RoutesCache P) (call : RoutesCall P) : RoutesCache P :=
  (calculateIntercityRoutes distanceTo routesCache call).2

/-- What a turn of the loops asks: a route under two names. -/
def CityPair.question (osrm : ℕ → ℕ → Option RouteData) (pair : CityPair P) :
    Question (String × String) (InterCityRoute P) where
  key := pair.cacheKey
  reply := pair.newRoute distanceTo osrm

/-- What a call asks. -/
def RoutesCall.questions (call : RoutesCall P) :
    List (Question (String × String) (InterCityRoute P)) :=
  (cityPairs call.cities).map (CityPair.question distanceTo call.osrm)

end Calls

/-! ## The first route for two names -/

section FirstRoutes

variable {distanceTo : DistanceTo P} {routesCache : RoutesCache P}

theorem reduceOption_cons (route : Option (InterCityRoute P))
    (others : List (Option (InterCityRoute P))) :
    (route :: others).reduceOption = route.toList ++ others.reduceOption := by
  cases route with
  | none => rfl
  | some route => rfl

/-- A turn of the loops asks its question. -/
theorem visitPair_eq (osrm : ℕ → ℕ → Option RouteData) (routes : List (InterCityRoute P))
    (pair : CityPair P) :
    visitPair distanceTo osrm (routes, routesCache) pair =
      (routes ++ ((pair.question distanceTo osrm).answer routesCache).1.toList,
        ((pair.question distanceTo osrm).answer routesCache).2) := by
  unfold visitPair Question.answer CityPair.question
  dsimp only
  cases routesCache.get? pair.cacheKey with
  | some route => rfl
  | none =>
      cases pair.newRoute distanceTo osrm with
      | some route => rfl
      | none => exact congrArg (·, routesCache) (List.append_nil routes).symm

/-- The turns of the loops ask their questions one after the other. -/
theorem foldl_visitPair (osrm : ℕ → ℕ → Option RouteData) (pairs : List (CityPair P))
    (routes : List (InterCityRoute P)) :
    pairs.foldl (visitPair distanceTo osrm) (routes, routesCache) =
      (routes ++ (Question.answers routesCache
          (pairs.map (CityPair.question distanceTo osrm))).1.reduceOption,
        (Question.answers routesCache (pairs.map (CityPair.question distanceTo osrm))).2) := by
  induction pairs generalizing routes routesCache with
  | nil => exact congrArg (·, routesCache) (List.append_nil routes).symm
  | cons pair rest ih =>
      rw [List.foldl_cons, visitPair_eq, ih, List.append_assoc, ← reduceOption_cons]
      rfl

theorem calculateIntercityRoutes_eq (call : RoutesCall P) :
    calculateIntercityRoutes distanceTo routesCache call =
      ((Question.answers routesCache (call.questions distanceTo)).1.reduceOption,
        (Question.answers routesCache (call.questions distanceTo)).2) :=
  foldl_visitPair call.osrm (cityPairs call.cities) []

/-- After any calls the cache holds the first route that came for each two names. -/
theorem holds_runEnd_afterRoutes (calls : List (RoutesCall P)) :
    Question.Holds (runEnd (afterRoutes distanceTo) .empty calls)
      (calls.flatMap (RoutesCall.questions distanceTo)) := by
  have hstep : ∀ (past : List (RoutesCall P)) (cache : RoutesCache P), ∀ call ∈ calls,
      Question.Holds cache (past.flatMap (RoutesCall.questions distanceTo)) →
        Question.Holds (afterRoutes distanceTo cache call)
          ((past ++ [call]).flatMap (RoutesCall.questions distanceTo)) := by
    intro past cache call _ hholds
    rw [List.flatMap_append, List.flatMap_singleton]
    unfold afterRoutes
    rw [calculateIntercityRoutes_eq]
    exact (hholds.answers (call.questions distanceTo)).2
  exact @runEnd_history _ _ _ (fun past cache =>
    Question.Holds cache (past.flatMap (RoutesCall.questions distanceTo))) _
    Question.holds_empty calls hstep

theorem routes_runEnd_afterRoutes (before : List (RoutesCall P)) (call : RoutesCall P) :
    (calculateIntercityRoutes distanceTo (runEnd (afterRoutes distanceTo) .empty before) call).1 =
      (Question.firstAnswers (before.flatMap (RoutesCall.questions distanceTo))
        (call.questions distanceTo)).reduceOption := by
  rw [calculateIntercityRoutes_eq,
    ((holds_runEnd_afterRoutes before).answers (call.questions distanceTo)).1]

/-- In every run, a call gets for each pair of cities, in the order of the loops, the first route
that came for their names in any call so far, and leaves the pairs out for which none came. While
pairs with the same names are answered alike, that is what a new service would answer. -/
theorem calculateIntercityRoutes_firstAnswers (distanceTo : DistanceTo P)
    (before : List (RoutesCall P)) (call : RoutesCall P) :
    (calculateIntercityRoutes distanceTo (runEnd (afterRoutes distanceTo) .empty before) call).1 =
        (Question.firstAnswers (before.flatMap (RoutesCall.questions distanceTo))
          (call.questions distanceTo)).reduceOption ∧
      (Question.Agree (before.flatMap (RoutesCall.questions distanceTo) ++
          call.questions distanceTo) →
        (calculateIntercityRoutes distanceTo (runEnd (afterRoutes distanceTo) .empty before)
            call).1 =
          (calculateIntercityRoutes distanceTo .empty call).1) := by
  refine ⟨routes_runEnd_afterRoutes before call, fun hagree => ?_⟩
  have hanew : Question.Agree ([] ++ call.questions distanceTo) := fun question hquestion other
      hother => hagree question (List.mem_append_right _ hquestion) other
        (List.mem_append_right _ hother)
  calc (calculateIntercityRoutes distanceTo (runEnd (afterRoutes distanceTo) .empty before) call).1
      = ((call.questions distanceTo).map Question.reply).reduceOption := by
        rw [routes_runEnd_afterRoutes, Question.firstAnswers_of_agree hagree]
    _ = (calculateIntercityRoutes distanceTo .empty call).1 := by
        rw [← Question.firstAnswers_of_agree hanew]
        exact (routes_runEnd_afterRoutes [] call).symm

end FirstRoutes

/-! ## Whose routes they are -/

section Known

variable {distanceTo : DistanceTo P} {known : List (City P)} {routesCache : RoutesCache P}
  {call : RoutesCall P}

/-- A cache after calls for cities that are known. -/
def ServiceRun (distanceTo : DistanceTo P) (known : List (City P)) (routesCache : RoutesCache P) :
    Prop :=
  ∃ calls : List (RoutesCall P), (∀ call ∈ calls, call.cities ⊆ known) ∧
    routesCache = runEnd (afterRoutes distanceTo) .empty calls

theorem serviceRun_empty : ServiceRun distanceTo known .empty := ⟨[], nofun, rfl⟩

theorem ServiceRun.afterRoutes (hrun : ServiceRun distanceTo known routesCache)
    (hcall : call.cities ⊆ known) :
    ServiceRun distanceTo known (afterRoutes distanceTo routesCache call) := by
  obtain ⟨calls, hcalls, rfl⟩ := hrun
  refine ⟨calls ++ [call], ?_, ?_⟩
  · rw [List.forall_mem_append, List.forall_mem_singleton]
    exact ⟨hcalls, hcall⟩
  · rw [runEnd_append]
    rfl

theorem mem_of_mem_cityPairs {cities : List (City P)} {pair : CityPair P}
    (hpair : pair ∈ cityPairs cities) : pair.1.1 ∈ cities ∧ pair.2.1 ∈ cities := by
  have hproduct := List.mem_product.mp (List.mem_of_mem_filter hpair)
  exact ⟨List.fst_mem_of_mem_zipIdx hproduct.1, List.fst_mem_of_mem_zipIdx hproduct.2⟩

/-- An answer to a question of a call joins two of its cities, and is kept under their names. -/
theorem exists_pair_of_mem_questions
    {question : Question (String × String) (InterCityRoute P)}
    (hquestion : question ∈ call.questions distanceTo) :
    ∃ origin ∈ call.cities, ∃ destination ∈ call.cities,
      question.key = (origin.name, destination.name) ∧
        ∀ route, question.reply = some route →
          route.originCity = origin ∧ route.destinationCity = destination := by
  obtain ⟨pair, hpair, rfl⟩ := List.mem_map.mp hquestion
  obtain ⟨horigin, hdestination⟩ := mem_of_mem_cityPairs hpair
  refine ⟨pair.1.1, horigin, pair.2.1, hdestination, rfl, fun route hroute => ?_⟩
  replace hroute : pair.newRoute distanceTo call.osrm = some route := hroute
  unfold CityPair.newRoute at hroute
  by_cases hfar : maxIntercityDistanceKm < distanceTo pair.1.1 pair.2.1
  · rw [if_pos hfar] at hroute
    cases hroute
  · rw [if_neg hfar] at hroute
    obtain ⟨routeData, -, rfl⟩ := Option.map_eq_some_iff.mp hroute
    exact ⟨rfl, rfl⟩

/-- A route has the names of two cities of its call, and joins two cities that are known. -/
theorem ServiceRun.exists_names (hrun : ServiceRun distanceTo known routesCache)
    (hcall : call.cities ⊆ known) {route : InterCityRoute P}
    (hroute : route ∈ (calculateIntercityRoutes distanceTo routesCache call).1) :
    ∃ origin ∈ call.cities, ∃ destination ∈ call.cities,
      route.originCity.name = origin.name ∧ route.destinationCity.name = destination.name ∧
        route.originCity ∈ known ∧ route.destinationCity ∈ known := by
  obtain ⟨calls, hcalls, rfl⟩ := hrun
  rw [routes_runEnd_afterRoutes] at hroute
  obtain ⟨question, hquestion, source, hsource, hkey, hreply⟩ :=
    Question.exists_of_mem_firstAnswers (List.reduceOption_mem_iff.mp hroute)
  obtain ⟨asked, hasked, hmem⟩ : ∃ asked : RoutesCall P, asked.cities ⊆ known ∧
      source ∈ asked.questions distanceTo := by
    rcases List.mem_append.mp hsource with hearlier | hnow
    · obtain ⟨asked, hasked, hmem⟩ := List.mem_flatMap.mp hearlier
      exact ⟨asked, hcalls asked hasked, hmem⟩
    · exact ⟨call, hcall, hnow⟩
  obtain ⟨origin, horigin, destination, hdestination, hnames, -⟩ :=
    exists_pair_of_mem_questions hquestion
  obtain ⟨first, hfirst, second, hsecond, hkept, hjoins⟩ := exists_pair_of_mem_questions hmem
  obtain ⟨rfl, rfl⟩ := hjoins route hreply
  rw [hnames, hkept] at hkey
  obtain ⟨hsame, hsameDestination⟩ := Prod.mk.inj hkey
  exact ⟨origin, horigin, destination, hdestination, hsame, hsameDestination, hasked hfirst,
    hasked hsecond⟩

end Known

end Goveling.MultiCity.Country
