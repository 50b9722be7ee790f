/-
# The trip through several countries of `MultiCityOptimizer`

The days are first shared among the countries, where nothing makes the rounded
shares add up, and then among the cities of each country, where the heaviest city
takes the difference. A city's places are scheduled by an optimizer that may answer
with any schedule or fail, and only the days the city has are copied from it.
-/

import Goveling.MultiCity.DaySplit

namespace Goveling.MultiCity.Country

open Goveling.Math Goveling.Python

universe u

variable {P : Type u}

/-! ## Shares -/

/-- The names of cities that weigh more. -/
def knownCities : List String := ["paris", "london", "rome", "berlin", "madrid"]

/-- The number of places, one if there are none, and half as much again for known names. -/
def cityWeight (city : City P) : ℚ :=
  let weight : ℚ := if city.pois.isEmpty then 1 else city.pois.length
  if knownCities.contains city.name.toLower then weight * mkRat 3 2 else weight

/-- The loop that collects the weights under the names of the cities. -/
def cityWeights (cities : List (City P)) : OrderedMap String ℚ :=
  OrderedMap.empty.setAll (cities.map fun city => (city.name, cityWeight city))

/-- `_distribute_days_among_cities`. -/
def distributeDaysAmongCities (share : Share) (cities : List (City P)) (totalDays : ℤ) :
    OrderedMap String ℤ :=
  if cities.isEmpty then OrderedMap.empty
  else distributeDays share (cityWeights cities) totalDays

/-- `_group_cities_by_country`. -/
def groupCitiesByCountry (cities : List (City P)) : OrderedMap String (List (City P)) :=
  OrderedMap.gather City.country cities

/-- The number of places of a country, and one if it has none. -/
def countryWeight (cities : List (City P)) : ℚ :=
  max 1 ((cities.map fun city => city.pois.length).sum : ℕ)

/-- `_distribute_days_among_countries`. -/
def distributeDaysAmongCountries (share : Share)
    (citiesByCountry : OrderedMap String (List (City P))) (totalDays : ℤ) :
    OrderedMap String ℤ :=
  shareDays share (citiesByCountry.mapValues countryWeight) totalDays

/-- `_optimize_country_sequence`. -/
def optimizeCountrySequence (citiesByCountry : OrderedMap String (List (City P)))
    (startCity : Option String) : List String :=
  let countries := citiesByCountry.keys
  let startCountry : Option (String × List (City P)) :=
    match startCity with
    | some name =>
        if name = "" then none
        else citiesByCountry.entries.find? fun entry =>
          entry.2.any fun city => city.name = name
    | none => none
  if countries.length ≤ 1 then countries
  else
    match startCountry with
    | some (country, _) => country :: countries.erase country
    | none => countries

/-! ## The schedule of one city -/

/-- An item of the itinerary of the optimizer for one city. -/
inductive ItineraryItem (P : Type u)
  | poi (poi : P)
  | dayEnd
  | other

/-- What `hybrid_integrator.optimize_itinerary` answers. -/
structure IntegratorResult (P : Type u) where
  success : Bool
  itinerary : List (ItineraryItem P)

/-- The optimizer for the places of one city. Raising stands also for an answer that
cannot be read, and for the method being missing. -/
abbrev HybridIntegrator (P : Type u) := List P → ℤ → Except PyError (IntegratorResult P)

/-- One item of `_convert_ortools_to_daily_schedule`. -/
def convertItem (state : OrderedMap ℤ (List P) × ℤ) (item : ItineraryItem P) :
    OrderedMap ℤ (List P) × ℤ :=
  let (schedule, currentDay) := state
  match item with
  | .poi poi => (schedule.set currentDay (schedule.bucket currentDay ++ [poi]), currentDay)
  | .dayEnd => (schedule, currentDay + 1)
  | .other => state

/-- `_convert_ortools_to_daily_schedule`. -/
def convertOrtoolsToDailySchedule (ortoolsItinerary : List (ItineraryItem P)) :
    OrderedMap ℤ (List P) :=
  (ortoolsItinerary.foldl convertItem (OrderedMap.empty, 1)).1

/-- `_simple_daily_distribution`. -/
def simpleDailyDistribution (pois : List P) (days : ℤ) :
    Except PyError (OrderedMap ℤ (List P)) :=
  if days = 0 then .error (.zeroDivisionError "integer division or modulo by zero")
  else .ok (dealOut pois (max 1 (Int.fdiv pois.length days)).toNat days)

/-- `_optimize_city_pois_with_ortools`. -/
def optimizeCityPoisWithOrtools (integrator : HybridIntegrator P) (pois : List P) (days : ℤ) :
    Except PyError (OrderedMap ℤ (List P)) :=
  let attempt := do
    let result ← integrator pois days
    if result.success then .ok (convertOrtoolsToDailySchedule result.itinerary)
    else simpleDailyDistribution pois days
  match attempt with
  | .ok schedule => .ok schedule
  | .error _ => simpleDailyDistribution pois days

/-! ## The trip -/

/-- `MultiCityItinerary`, as far as the schedules go. -/
structure MultiCityItinerary (P : Type u) where
  cities : List (City P)
  dailySchedules : OrderedMap ℤ (List P)
  totalDurationDays : ℤ

/-- One city of the loop of `_optimize_intercity_hybrid`. A city without places only
takes its days. -/
def scheduleCity (integrator : HybridIntegrator P) (daysPerCity : OrderedMap String ℤ)
    (state : OrderedMap ℤ (List P) × ℤ) (city : City P) :
    Except PyError (OrderedMap ℤ (List P) × ℤ) := do
  let (dailySchedules, currentDay) := state
  let cityDays := daysOf daysPerCity city
  if city.pois.isEmpty then .ok (dailySchedules, currentDay + cityDays)
  else
    let citySchedule ← optimizeCityPoisWithOrtools integrator city.pois cityDays
    .ok (dailySchedules.setAll ((List.range cityDays.toNat).map fun dayOffset : ℕ =>
      (currentDay + dayOffset, (citySchedule.get? ((dayOffset : ℤ) + 1)).getD [])),
      currentDay + cityDays)

section Run

variable [DecidableEq P] (distanceTo : DistanceTo P) (share : Share)
  (integrator : HybridIntegrator P)

/-- `_optimize_intercity_hybrid`. -/
def optimizeIntercityHybrid (cities : List (City P)) (days : ℤ) (startCity : Option String) :
    Except PyError (MultiCityItinerary P) := do
  let optimalSequence := findOptimalCitySequence distanceTo cities startCity
  let daysPerCity := distributeDaysAmongCities share cities days
  let (dailySchedules, _) ←
    optimalSequence.foldlM (scheduleCity integrator daysPerCity) (OrderedMap.empty, 1)
  .ok { cities := optimalSequence, dailySchedules := dailySchedules, totalDurationDays := days }

/-- The state of the loop over the countries. -/
structure CountryState (P : Type u) where
  cities : List (City P)
  dailySchedules : OrderedMap ℤ (List P)
  currentDay : ℤ

/-- One country of the loop of `_optimize_multi_country`. -/
def scheduleCountry (citiesByCountry : OrderedMap String (List (City P)))
    (daysPerCountry : OrderedMap String ℤ) (state : CountryState P) (country : String) :
    Except PyError (CountryState P) := do
  let countryCities := citiesByCountry.bucket country
  let countryDays := (daysPerCountry.get? country).getD 0
  let countryItinerary ←
    optimizeIntercityHybrid distanceTo share integrator countryCities countryDays none
  .ok
    { cities := state.cities ++ countryItinerary.cities
      dailySchedules := state.dailySchedules.setAll (countryItinerary.dailySchedules.entries.map
        fun entry => (state.currentDay + entry.1 - 1, entry.2))
      currentDay := state.currentDay + countryDays }

/-- `_optimize_multi_country`. -/
def optimizeMultiCountry (cities : List (City P)) (days : ℤ) (startCity : Option String) :
    Except PyError (MultiCityItinerary P) := do
  let citiesByCountry := groupCitiesByCountry cities
  let countrySequence := optimizeCountrySequence citiesByCountry startCity
  let daysPerCountry := distributeDaysAmongCountries share citiesByCountry days
  let final ← countrySequence.foldlM
    (scheduleCountry distanceTo share integrator citiesByCountry daysPerCountry)
    { cities := [], dailySchedules := OrderedMap.empty, currentDay := 1 }
  .ok { cities := final.cities, dailySchedules := final.dailySchedules, totalDurationDays := days }

end Run

/-! ## What is asked of the split -/

section Statement

variable [DecidableEq P] (distanceTo : DistanceTo P) (share : Share)

/-- The cities of a country in the order of their visit, with the days they get. -/
def countryStays (countryCities : List (City P)) (countryDays : ℤ) : List (City P × ℤ) :=
  (findOptimalCitySequence distanceTo countryCities none).map fun city =>
    (city, daysOf (distributeDaysAmongCities share countryCities countryDays) city)

/-- The days of a country. -/
def daysOfCountry (citiesByCountry : OrderedMap String (List (City P))) (days : ℤ)
    (country : String) : ℤ :=
  ((distributeDaysAmongCountries share citiesByCountry days).get? country).getD 0

/-- All cities in the order of their visit, with the days they get. -/
def stays (cities : List (City P)) (days : ℤ) (startCity : Option String) :
    List (City P × ℤ) :=
  let citiesByCountry := groupCitiesByCountry cities
  (optimizeCountrySequence citiesByCountry startCity).flatMap fun country =>
    countryStays distanceTo share (citiesByCountry.bucket country)
      (daysOfCountry share citiesByCountry days country)

/-- The places scheduled on a number of days from the first one on. -/
def daysFrom (dailySchedules : OrderedMap ℤ (List P)) (first count : ℤ) : List P :=
  (List.range count.toNat).flatMap fun offset : ℕ =>
    (dailySchedules.get? (first + offset)).getD []

/-- Stays follow each other from the first day on, none is negative, and the places of
a city are scheduled on the days of its stay. -/
def KeepsStays (stays : List (City P × ℤ)) (dailySchedules : OrderedMap ℤ (List P)) : Prop :=
  ∀ before stay after, stays = before ++ stay :: after →
    0 ≤ stay.2 ∧ stay.1.pois.Subperm
      (daysFrom dailySchedules (1 + (before.map Prod.snd).sum) stay.2)

/-- The run returns, the days of the countries and of the cities in them add up, the
schedules stay in the days of the trip, and every city's places are kept on its own days. -/
structure SplitsTrip (cities : List (City P)) (days : ℤ) (startCity : Option String)
    (outcome : Except PyError (MultiCityItinerary P)) : Prop where
  countriesAddUp :
    (distributeDaysAmongCountries share (groupCitiesByCountry cities) days).values.sum = days
  citiesAddUp : ∀ country ∈ (groupCitiesByCountry cities).keys,
    ((countryStays distanceTo share ((groupCitiesByCountry cities).bucket country)
      (daysOfCountry share (groupCitiesByCountry cities) days country)).map Prod.snd).sum =
        daysOfCountry share (groupCitiesByCountry cities) days country
  visited : (((stays distanceTo share cities days startCity).map Prod.fst).filter
      fun city => !city.pois.isEmpty).Perm (cities.filter fun city => !city.pois.isEmpty)
  returns : ∃ itinerary, outcome = .ok itinerary ∧
    (∀ day ∈ itinerary.dailySchedules.keys, 1 ≤ day ∧ day ≤ days) ∧
      KeepsStays (stays distanceTo share cities days startCity) itinerary.dailySchedules

/-- The share of a name, with what is missing or too much if it is the heaviest. -/
def allotted (weights : OrderedMap String ℚ) (totalDays : ℤ) (name : String) : ℤ :=
  assignedDays share weights.values.sum totalDays ((weights.get? name).getD 1) +
    if heaviest weights = some name
    then totalDays - (shareDays share weights totalDays).values.sum else 0

/-- The rounded share of a country. -/
def countryShare (citiesByCountry : OrderedMap String (List (City P))) (days : ℤ)
    (country : String) : ℤ :=
  assignedDays share (citiesByCountry.values.map countryWeight).sum days
    (countryWeight (citiesByCountry.bucket country))

variable (integrator : HybridIntegrator P)

/-- In a country no city with places is dropped; every city visited has a name of its
own and a day, or no day and no places; and an optimizer that succeeds keeps a city's
places within its days. -/
structure CountryFits (countryCities : List (City P)) (countryDays : ℤ) : Prop where
  dropped : ∀ city ∈ droppedCities countryCities none, city.pois = []
  placed : ∀ city ∈ visitedCities countryCities none,
    (1 ≤ allotted share (cityWeights countryCities) countryDays city.name ∧
        ((visitedCities countryCities none).map City.name).count city.name = 1) ∨
      allotted share (cityWeights countryCities) countryDays city.name = 0 ∧ city.pois = []
  scheduled : ∀ city ∈ visitedCities countryCities none, ∀ result,
    integrator city.pois (allotted share (cityWeights countryCities) countryDays city.name) =
        .ok result → result.success = true →
      city.pois.Subperm (placesOn (convertOrtoolsToDailySchedule result.itinerary)
        (allotted share (cityWeights countryCities) countryDays city.name))

/-- The rounded shares of the countries add up, and every country fits. -/
structure TripFits (cities : List (City P)) (days : ℤ) : Prop where
  countriesAddUp : ((groupCitiesByCountry cities).keys.map
    (countryShare share (groupCitiesByCountry cities) days)).sum = days
  each : ∀ country ∈ (groupCitiesByCountry cities).keys,
    CountryFits share integrator ((groupCitiesByCountry cities).bucket country)
      (countryShare share (groupCitiesByCountry cities) days country)

end Statement

/-! ## Countries -/

theorem optimizeCountrySequence_perm (citiesByCountry : OrderedMap String (List (City P)))
    (startCity : Option String) :
    (optimizeCountrySequence citiesByCountry startCity).Perm citiesByCountry.keys := by
  simp only [optimizeCountrySequence]
  split
  · rfl
  · split
    · rename_i hfound
      apply List.Perm.symm
      apply List.perm_cons_erase
      cases startCity with
      | none => cases hfound
      | some name =>
          simp only at hfound
          split at hfound
          · cases hfound
          · exact List.mem_map_of_mem (List.mem_of_find?_eq_some hfound)
    · rfl

theorem daysOfCountry_eq (share : Share) (citiesByCountry : OrderedMap String (List (City P)))
    (days : ℤ) {country : String} (hcountry : country ∈ citiesByCountry.keys) :
    daysOfCountry share citiesByCountry days country =
      countryShare share citiesByCountry days country := by
  obtain ⟨cities, hcities⟩ := OrderedMap.exists_get?_of_mem_keys hcountry
  simp only [daysOfCountry, distributeDaysAmongCountries, shareDays, OrderedMap.get?_mapValues,
    OrderedMap.values_mapValues, countryShare, OrderedMap.bucket, hcities, Option.map_some,
    Option.getD_some]

theorem sum_distributeDaysAmongCountries (share : Share)
    (citiesByCountry : OrderedMap String (List (City P))) (days : ℤ) :
    (distributeDaysAmongCountries share citiesByCountry days).values.sum =
      (citiesByCountry.keys.map (countryShare share citiesByCountry days)).sum := by
  have hkeys : (distributeDaysAmongCountries share citiesByCountry days).keys =
      citiesByCountry.keys := by
    simp [distributeDaysAmongCountries]
  rw [← OrderedMap.map_getD_keys _ 0, hkeys]
  apply congrArg List.sum
  apply List.map_congr_left
  intro country hcountry
  exact daysOfCountry_eq share citiesByCountry days hcountry

/-! ## Cities -/

theorem mem_keys_cityWeights {cities : List (City P)} {name : String} :
    name ∈ (cityWeights cities).keys ↔ name ∈ cities.map City.name :=
  OrderedMap.mem_keys_setAll_map

theorem exists_heaviest_cityWeights {cities : List (City P)} (hcities : cities ≠ []) :
    ∃ maxCity, heaviest (cityWeights cities) = some maxCity := by
  obtain ⟨first, rest, rfl⟩ := List.exists_cons_of_ne_nil hcities
  exact exists_heaviest (mem_keys_cityWeights.mpr List.mem_cons_self)

section Cities

variable {share : Share} {countryCities : List (City P)} {countryDays : ℤ}

theorem distributeDaysAmongCities_eq (hcities : countryCities ≠ []) :
    distributeDaysAmongCities share countryCities countryDays =
      distributeDays share (cityWeights countryCities) countryDays := by
  unfold distributeDaysAmongCities
  rw [if_neg (by simpa using hcities)]

theorem keys_distributeDaysAmongCities (hcities : countryCities ≠ []) :
    (distributeDaysAmongCities share countryCities countryDays).keys =
      (cityWeights countryCities).keys := by
  obtain ⟨maxCity, hheaviest⟩ := exists_heaviest_cityWeights hcities
  rw [distributeDaysAmongCities_eq hcities, keys_distributeDays hheaviest]

/-- A city gets its share, and the heaviest one the difference. -/
theorem daysOf_eq_allotted {city : City P} (hcity : city ∈ countryCities) :
    daysOf (distributeDaysAmongCities share countryCities countryDays) city =
      allotted share (cityWeights countryCities) countryDays city.name := by
  have hcities : countryCities ≠ [] := List.ne_nil_of_mem hcity
  obtain ⟨maxCity, hheaviest⟩ := exists_heaviest_cityWeights hcities
  have hkey : city.name ∈ (cityWeights countryCities).keys :=
    mem_keys_cityWeights.mpr (List.mem_map_of_mem hcity)
  obtain ⟨weight, hweight⟩ := OrderedMap.exists_get?_of_mem_keys hkey
  unfold daysOf allotted
  rw [distributeDaysAmongCities_eq hcities, get?_distributeDays hheaviest, hweight, hheaviest,
    Option.map_some, Option.getD_some, Option.getD_some]
  by_cases hname : city.name = maxCity
  · rw [if_pos hname, if_pos (by rw [hname])]
  · have hother : ¬ some maxCity = some city.name := fun heq =>
      hname (Option.some.inj heq).symm
    rw [if_neg hname, if_neg hother]

/-- A visited city has the days that are allotted to its name. -/
theorem daysOf_eq_allotted_of_visited (hcities : countryCities ≠ []) {city : City P}
    (hcity : city ∈ visitedCities countryCities none) :
    daysOf (distributeDaysAmongCities share countryCities countryDays) city =
      allotted share (cityWeights countryCities) countryDays city.name := by
  obtain ⟨current, hcurrent⟩ := exists_currentCity hcities none
  apply daysOf_eq_allotted
  apply (visited_append_dropped_perm hcurrent).subset
  exact List.mem_append_left _ hcity

variable [DecidableEq P] {distanceTo : DistanceTo P}

/-- The days of the cities of a country add up exactly when a name that is repeated gets
no days. -/
theorem sum_countryStays_iff (hcities : countryCities ≠ [])
    (hnonneg : ∀ city ∈ findOptimalCitySequence distanceTo countryCities none,
      0 ≤ daysOf (distributeDaysAmongCities share countryCities countryDays) city) :
    ((countryStays distanceTo share countryCities countryDays).map Prod.snd).sum = countryDays ↔
      ∀ city ∈ findOptimalCitySequence distanceTo countryCities none,
        1 < ((findOptimalCitySequence distanceTo countryCities none).map City.name).count
            city.name →
          daysOf (distributeDaysAmongCities share countryCities countryDays) city = 0 := by
  obtain ⟨maxCity, hheaviest⟩ := exists_heaviest_cityWeights hcities
  obtain ⟨current, hcurrent⟩ := exists_currentCity hcities none
  have hsame : ∀ name, name ∈ (distributeDaysAmongCities share countryCities countryDays).keys ↔
      name ∈ (findOptimalCitySequence distanceTo countryCities none).map City.name := by
    intro name
    rw [keys_distributeDaysAmongCities hcities, mem_keys_cityWeights]
    exact mem_names_sequence_iff distanceTo hcurrent
  have hkeysSum : ((distributeDaysAmongCities share countryCities countryDays).keys.map fun name =>
      ((distributeDaysAmongCities share countryCities countryDays).get? name).getD 1).sum =
        countryDays := by
    rw [OrderedMap.map_getD_keys, distributeDaysAmongCities_eq hcities,
      sum_distributeDays hheaviest]
  let daysUnder (name : String) : ℤ :=
    ((distributeDaysAmongCities share countryCities countryDays).get? name).getD 1
  have hunder : ∀ name ∈ (findOptimalCitySequence distanceTo countryCities none).map City.name,
      1 < ((findOptimalCitySequence distanceTo countryCities none).map City.name).count name →
        0 ≤ daysUnder name := by
    intro name hname _
    obtain ⟨city, hcity, rfl⟩ := List.mem_map.mp hname
    exact hnonneg city hcity
  have hsums := sum_names_eq_iff
    (distributeDaysAmongCities share countryCities countryDays).nodup hsame hunder
  have hstays : (countryStays distanceTo share countryCities countryDays).map Prod.snd =
      ((findOptimalCitySequence distanceTo countryCities none).map City.name).map fun name =>
        ((distributeDaysAmongCities share countryCities countryDays).get? name).getD 1 := by
    simp only [countryStays, List.map_map]
    rfl
  rw [hstays]
  constructor
  · intro hsum
    have hzero := hsums.mp (hsum.trans hkeysSum.symm)
    intro city hcity hrepeated
    exact hzero city.name (List.mem_map_of_mem hcity) hrepeated
  · intro hzero
    refine (hsums.mpr ?_).trans hkeysSum
    intro name hname hrepeated
    obtain ⟨city, hcity, rfl⟩ := List.mem_map.mp hname
    exact hzero city hcity hrepeated

end Cities

/-! ## The run -/

section City

variable (integrator : HybridIntegrator P)

/-- A trip with days has a simple distribution. -/
theorem simpleDailyDistribution_eq_ok (pois : List P) {days : ℤ} (hdays : days ≠ 0) :
    simpleDailyDistribution pois days =
      .ok (dealOut pois (max 1 (Int.fdiv pois.length days)).toNat days) := if_neg hdays

/-- A city gets the schedule of the optimizer when that succeeds. -/
theorem optimizeCityPoisWithOrtools_of_success {pois : List P} {days : ℤ}
    {result : IntegratorResult P} (hanswer : integrator pois days = .ok result)
    (hsuccess : result.success = true) :
    optimizeCityPoisWithOrtools integrator pois days =
      .ok (convertOrtoolsToDailySchedule result.itinerary) := by
  unfold optimizeCityPoisWithOrtools
  simp only [hanswer, bind, Except.bind, hsuccess, if_true]

/-- A city gets the simple distribution when the optimizer does not succeed. -/
theorem optimizeCityPoisWithOrtools_of_no_success {pois : List P} {days : ℤ} (hdays : days ≠ 0)
    (hnone : ¬ ∃ result, integrator pois days = .ok result ∧ result.success = true) :
    optimizeCityPoisWithOrtools integrator pois days =
      .ok (dealOut pois (max 1 (Int.fdiv pois.length days)).toNat days) := by
  unfold optimizeCityPoisWithOrtools
  cases hanswer : integrator pois days with
  | error e => exact simpleDailyDistribution_eq_ok pois hdays
  | ok result =>
      have hfails : ¬ result.success = true := fun hsuccess => hnone ⟨result, hanswer, hsuccess⟩
      simp only [bind, Except.bind, if_neg hfails, simpleDailyDistribution_eq_ok pois hdays]

/-- A city that has a day is always given a schedule. -/
theorem exists_optimizeCityPois (pois : List P) {days : ℤ} (hdays : days ≠ 0) :
    ∃ schedule, optimizeCityPoisWithOrtools integrator pois days = .ok schedule := by
  by_cases hsucceeds : ∃ result, integrator pois days = .ok result ∧ result.success = true
  · obtain ⟨result, hanswer, hsuccess⟩ := hsucceeds
    exact ⟨_, optimizeCityPoisWithOrtools_of_success integrator hanswer hsuccess⟩
  · exact ⟨_, optimizeCityPoisWithOrtools_of_no_success integrator hdays hsucceeds⟩

/-- What a stay writes on its days. -/
def stayBlock (stay : City P × ℤ) : Block (List P) where
  length := stay.2
  day dayOffset :=
    if stay.1.pois.isEmpty then none
    else
      match optimizeCityPoisWithOrtools integrator stay.1.pois stay.2 with
      | .ok schedule => some ((schedule.get? ((dayOffset : ℤ) + 1)).getD [])
      | .error _ => none

/-- The places a stay has on its days. -/
def stayPlaces (stay : City P × ℤ) : List P :=
  (List.range stay.2.toNat).flatMap fun dayOffset =>
    ((stayBlock integrator stay).day dayOffset).getD []

/-- A stay with a day, or without days and places, keeps its places unless the
optimizer succeeds without them. -/
theorem subperm_stayPlaces_iff {city : City P} {days : ℤ}
    (hplaced : 1 ≤ days ∨ days = 0 ∧ city.pois = []) :
    city.pois.Subperm (stayPlaces integrator (city, days)) ↔
      ∀ result, integrator city.pois days = .ok result → result.success = true →
        city.pois.Subperm (placesOn (convertOrtoolsToDailySchedule result.itinerary) days) := by
  by_cases hpois : city.pois = []
  · simp only [hpois, List.nil_subperm, implies_true]
  · have hday : 1 ≤ days := hplaced.resolve_right fun hnone => hpois hnone.2
    have hnonempty : ¬ city.pois.isEmpty = true := by simpa using hpois
    have hplaces : ∀ schedule,
        optimizeCityPoisWithOrtools integrator city.pois days = .ok schedule →
        stayPlaces integrator (city, days) = placesOn schedule days := by
      intro schedule hschedule
      simp only [stayPlaces, stayBlock, if_neg hnonempty, hschedule]
      rfl
    by_cases hsucceeds :
        ∃ result, integrator city.pois days = .ok result ∧ result.success = true
    · obtain ⟨result, hanswer, hsuccess⟩ := hsucceeds
      rw [hplaces _ (optimizeCityPoisWithOrtools_of_success integrator hanswer hsuccess)]
      constructor
      · intro hkept other hother _
        rw [hanswer] at hother
        cases hother
        exact hkept
      · intro hkept
        exact hkept result hanswer hsuccess
    · have hsome : days ≠ 0 := by omega
      rw [hplaces _ (optimizeCityPoisWithOrtools_of_no_success integrator hsome hsucceeds),
        placesOn_dealOut city.pois hday]
      apply iff_of_true (List.Subperm.refl _)
      intro result hanswer hsuccess
      exact absurd ⟨result, hanswer, hsuccess⟩ hsucceeds

/-- A city that is placed writes its block and moves the day on. -/
theorem scheduleCity_eq {daysPerCity : OrderedMap String ℤ} {city : City P}
    (hplaced : Placed daysPerCity city) (dailySchedules : OrderedMap ℤ (List P)) (currentDay : ℤ) :
    scheduleCity integrator daysPerCity (dailySchedules, currentDay) city =
      .ok (dailySchedules.setAll
          ((stayBlock integrator (city, daysOf daysPerCity city)).days currentDay),
        currentDay + daysOf daysPerCity city) := by
  by_cases hpois : city.pois.isEmpty = true
  · simp [scheduleCity, hpois, Block.days, stayBlock]
  · have hsome : daysOf daysPerCity city ≠ 0 := by
      rcases hplaced with hone | ⟨-, hnone⟩
      · omega
      · exact absurd (List.isEmpty_iff.mpr hnone) hpois
    obtain ⟨schedule, hschedule⟩ := exists_optimizeCityPois integrator city.pois hsome
    simp only [scheduleCity, if_neg hpois, hschedule, Block.days, stayBlock, Option.map_some,
      List.filterMap_eq_map']
    rfl

theorem foldlM_scheduleCity {daysPerCity : OrderedMap String ℤ} {sequence : List (City P)}
    (hplaced : ∀ city ∈ sequence, Placed daysPerCity city)
    (dailySchedules : OrderedMap ℤ (List P)) (currentDay : ℤ) :
    sequence.foldlM (scheduleCity integrator daysPerCity) (dailySchedules, currentDay) =
      .ok (dailySchedules.setAll (laidOut currentDay (sequence.map fun city =>
          stayBlock integrator (city, daysOf daysPerCity city))),
        currentDay + (sequence.map (daysOf daysPerCity)).sum) := by
  induction sequence generalizing dailySchedules currentDay with
  | nil => simp [pure, Except.pure]
  | cons city rest ih =>
      rw [List.foldlM_cons, scheduleCity_eq integrator (hplaced city List.mem_cons_self)]
      simp only [bind, Except.bind]
      rw [ih fun other hother => hplaced other (List.mem_cons_of_mem _ hother), List.map_cons,
        List.map_cons, laidOut_cons, OrderedMap.setAll_append, List.sum_cons, add_assoc]
      rfl

theorem totalDays_stayBlocks (stays : List (City P × ℤ)) :
    totalDays (stays.map (stayBlock integrator)) = (stays.map Prod.snd).sum := by
  rw [totalDays, List.map_map]
  rfl

/-- Stays that are laid out show on their days what their blocks write. -/
theorem keepsStays_iff {stays : List (City P × ℤ)} (hstays : ∀ stay ∈ stays, 0 ≤ stay.2) :
    KeepsStays stays (OrderedMap.empty.setAll (laidOut 1 (stays.map (stayBlock integrator)))) ↔
      ∀ stay ∈ stays, stay.1.pois.Subperm (stayPlaces integrator stay) := by
  have hshown : ∀ before stay after, stays = before ++ stay :: after →
      daysFrom (OrderedMap.empty.setAll (laidOut 1 (stays.map (stayBlock integrator))))
        (1 + (before.map Prod.snd).sum) stay.2 = stayPlaces integrator stay := by
    rintro before stay after rfl
    have hlength : ∀ block ∈ before.map (stayBlock integrator) ++ stayBlock integrator stay ::
        after.map (stayBlock integrator), 0 ≤ block.length := by
      intro block hblock
      rw [← List.map_cons, ← List.map_append] at hblock
      obtain ⟨other, hother, rfl⟩ := List.mem_map.mp hblock
      exact hstays other hother
    apply List.flatMap_congr
    intro offset hoffset
    have hday : (offset : ℤ) < (stayBlock integrator stay).length := by
      show (offset : ℤ) < stay.2
      have hlt := List.mem_range.mp hoffset
      omega
    have hget := @get?_setAll_laidOut _ _ _ _ 1 hlength _ hday
    rw [totalDays_stayBlocks] at hget
    rw [List.map_append, List.map_cons, hget]
  constructor
  · intro hkeeps stay hstay
    obtain ⟨before, after, hsplit⟩ := List.append_of_mem hstay
    rw [← hshown before stay after hsplit]
    exact (hkeeps before stay after hsplit).2
  · intro hkept before stay after hsplit
    have hstay : stay ∈ stays := by
      rw [hsplit]
      simp
    rw [hshown before stay after hsplit]
    exact ⟨hstays stay hstay, hkept stay hstay⟩

variable [DecidableEq P] {distanceTo : DistanceTo P} {share : Share}

/-- The blocks of a country whose cities are placed make up its schedule. -/
theorem optimizeIntercityHybrid_eq {countryCities : List (City P)} {countryDays : ℤ}
    (hplaced : ∀ city ∈ findOptimalCitySequence distanceTo countryCities none,
      Placed (distributeDaysAmongCities share countryCities countryDays) city) :
    optimizeIntercityHybrid distanceTo share integrator countryCities countryDays none =
      .ok
        { cities := findOptimalCitySequence distanceTo countryCities none
          dailySchedules := OrderedMap.empty.setAll (laidOut 1
            ((countryStays distanceTo share countryCities countryDays).map (stayBlock integrator)))
          totalDurationDays := countryDays } := by
  unfold optimizeIntercityHybrid
  dsimp only
  rw [foldlM_scheduleCity integrator hplaced, countryStays, List.map_map]
  rfl

/-- Every city of a country is placed, and their days are the days of the country. -/
structure Settled (distanceTo : DistanceTo P) (share : Share) (countryCities : List (City P))
    (countryDays : ℤ) : Prop where
  placed : ∀ city ∈ findOptimalCitySequence distanceTo countryCities none,
    Placed (distributeDaysAmongCities share countryCities countryDays) city
  addUp : ((countryStays distanceTo share countryCities countryDays).map Prod.snd).sum =
    countryDays

theorem nonneg_of_settled {countryCities : List (City P)} {countryDays : ℤ}
    (hsettled : Settled distanceTo share countryCities countryDays) :
    ∀ stay ∈ countryStays distanceTo share countryCities countryDays, 0 ≤ stay.2 := by
  intro stay hstay
  obtain ⟨city, hcity, rfl⟩ := List.mem_map.mp hstay
  exact nonneg_of_placed (hsettled.placed city hcity)

/-- A settled country moves its schedule to the day it starts on. -/
theorem scheduleCountry_eq {citiesByCountry : OrderedMap String (List (City P))}
    {daysPerCountry : OrderedMap String ℤ} {country : String}
    (hsettled : Settled distanceTo share (citiesByCountry.bucket country)
      ((daysPerCountry.get? country).getD 0)) (state : CountryState P) :
    scheduleCountry distanceTo share integrator citiesByCountry daysPerCountry state country =
      .ok
        { cities := state.cities ++
            findOptimalCitySequence distanceTo (citiesByCountry.bucket country) none
          dailySchedules := state.dailySchedules.setAll (laidOut state.currentDay
            ((countryStays distanceTo share (citiesByCountry.bucket country)
              ((daysPerCountry.get? country).getD 0)).map (stayBlock integrator)))
          currentDay := state.currentDay + ((daysPerCountry.get? country).getD 0) } := by
  have hlength : ∀ block ∈ (countryStays distanceTo share (citiesByCountry.bucket country)
      ((daysPerCountry.get? country).getD 0)).map (stayBlock integrator), 0 ≤ block.length := by
    intro block hblock
    obtain ⟨stay, hstay, rfl⟩ := List.mem_map.mp hblock
    exact nonneg_of_settled hsettled stay hstay
  have hshift := laidOut_add 1 (state.currentDay - 1)
    ((countryStays distanceTo share (citiesByCountry.bucket country)
      ((daysPerCountry.get? country).getD 0)).map (stayBlock integrator))
  have hday : (1 : ℤ) + (state.currentDay - 1) = state.currentDay := by omega
  rw [hday] at hshift
  unfold scheduleCountry
  dsimp only
  rw [optimizeIntercityHybrid_eq integrator hsettled.placed]
  simp only [bind, Except.bind]
  rw [entries_setAll_laidOut hlength, hshift]
  congr 3
  apply List.map_congr_left
  intro entry hentry
  have hsame : state.currentDay + entry.1 - 1 = entry.1 + (state.currentDay - 1) := by omega
  rw [hsame]

/-- Settled countries lay their stays out one after the other. -/
theorem foldlM_scheduleCountry {citiesByCountry : OrderedMap String (List (City P))}
    {daysPerCountry : OrderedMap String ℤ} {countries : List String}
    (hsettled : ∀ country ∈ countries,
      Settled distanceTo share (citiesByCountry.bucket country)
        ((daysPerCountry.get? country).getD 0)) (state : CountryState P) :
    ∃ final, countries.foldlM
        (scheduleCountry distanceTo share integrator citiesByCountry daysPerCountry) state =
          .ok final ∧
      final.dailySchedules = state.dailySchedules.setAll (laidOut state.currentDay
        ((countries.flatMap fun country =>
          countryStays distanceTo share (citiesByCountry.bucket country)
            ((daysPerCountry.get? country).getD 0)).map (stayBlock integrator))) := by
  induction countries generalizing state with
  | nil => exact ⟨state, rfl, by simp⟩
  | cons country rest ih =>
      have hfirst := hsettled country List.mem_cons_self
      rw [List.foldlM_cons, scheduleCountry_eq integrator hfirst]
      simp only [bind, Except.bind]
      obtain ⟨final, hfinal, hschedules⟩ :=
        ih (fun other hother => hsettled other (List.mem_cons_of_mem _ hother)) _
      refine ⟨final, hfinal, ?_⟩
      rw [hschedules, List.flatMap_cons, List.map_append, laidOut_append, OrderedMap.setAll_append,
        totalDays_stayBlocks, hfirst.addUp]

/-- When all countries are settled the run returns, with all stays laid out. -/
theorem optimizeMultiCountry_eq {cities : List (City P)} {days : ℤ} (startCity : Option String)
    (hsettled : ∀ country ∈ (groupCitiesByCountry cities).keys,
      Settled distanceTo share ((groupCitiesByCountry cities).bucket country)
        (daysOfCountry share (groupCitiesByCountry cities) days country)) :
    ∃ itinerary, optimizeMultiCountry distanceTo share integrator cities days startCity =
        .ok itinerary ∧
      itinerary.dailySchedules = OrderedMap.empty.setAll (laidOut 1
        ((stays distanceTo share cities days startCity).map (stayBlock integrator))) := by
  have hsequence := optimizeCountrySequence_perm (groupCitiesByCountry cities) startCity
  have hsequenceSettled : ∀ country ∈
      optimizeCountrySequence (groupCitiesByCountry cities) startCity,
      Settled distanceTo share ((groupCitiesByCountry cities).bucket country)
        (((distributeDaysAmongCountries share (groupCitiesByCountry cities) days).get?
          country).getD 0) :=
    fun country hcountry => hsettled country (hsequence.subset hcountry)
  obtain ⟨final, hfinal, hschedules⟩ := foldlM_scheduleCountry integrator hsequenceSettled
    { cities := [], dailySchedules := OrderedMap.empty, currentDay := 1 }
  refine ⟨⟨final.cities, final.dailySchedules, days⟩, ?_, hschedules⟩
  unfold optimizeMultiCountry
  dsimp only
  rw [hfinal]
  rfl

end City

/-! ## When the split works -/

/-- Every country has a city. -/
theorem bucket_groupCitiesByCountry_ne_nil {cities : List (City P)} {country : String}
    (hcountry : country ∈ (groupCitiesByCountry cities).keys) :
    (groupCitiesByCountry cities).bucket country ≠ [] :=
  OrderedMap.bucket_gather_ne_nil City.country cities hcountry

/-- A stay without days shows nothing, so a city that keeps its places there has none. -/
theorem KeepsStays.placed {stays : List (City P × ℤ)} {dailySchedules : OrderedMap ℤ (List P)}
    (hkeeps : KeepsStays stays dailySchedules) :
    ∀ stay ∈ stays, 1 ≤ stay.2 ∨ stay.2 = 0 ∧ stay.1.pois = [] := by
  intro stay hstay
  obtain ⟨before, after, hsplit⟩ := List.append_of_mem hstay
  obtain ⟨hdays, hkept⟩ := hkeeps before stay after hsplit
  by_cases hone : 1 ≤ stay.2
  · exact Or.inl hone
  · have hzero : stay.2 = 0 := by omega
    rw [hzero] at hkept
    exact Or.inr ⟨hzero, List.subperm_nil.mp hkept⟩

section Split

variable [DecidableEq P] (distanceTo : DistanceTo P) (share : Share)

/-- The cities that are visited and those that are dropped are all cities. -/
theorem visited_append_dropped_countries_perm (cities : List (City P)) (days : ℤ)
    (startCity : Option String) :
    ((stays distanceTo share cities days startCity).map Prod.fst ++
      (groupCitiesByCountry cities).keys.flatMap fun country =>
        droppedCities ((groupCitiesByCountry cities).bucket country) none).Perm cities := by
  have hsequence := optimizeCountrySequence_perm (groupCitiesByCountry cities) startCity
  have hvisited : ((stays distanceTo share cities days startCity).map Prod.fst).Perm
      ((groupCitiesByCountry cities).keys.flatMap fun country =>
        findOptimalCitySequence distanceTo ((groupCitiesByCountry cities).bucket country)
          none) := by
    have hfst : (stays distanceTo share cities days startCity).map Prod.fst =
        (optimizeCountrySequence (groupCitiesByCountry cities) startCity).flatMap fun country =>
          findOptimalCitySequence distanceTo ((groupCitiesByCountry cities).bucket country)
            none := by
      simp only [stays, countryStays, List.map_flatMap, List.map_map]
      apply List.flatMap_congr
      intro country hcountry
      exact List.map_id _
    rw [hfst]
    exact hsequence.flatMap_right _
  have hbuckets : ((groupCitiesByCountry cities).keys.flatMap fun country =>
      findOptimalCitySequence distanceTo ((groupCitiesByCountry cities).bucket country) none ++
        droppedCities ((groupCitiesByCountry cities).bucket country) none).Perm
      ((groupCitiesByCountry cities).keys.flatMap (groupCitiesByCountry cities).bucket) := by
    apply List.Perm.flatMap_left
    intro country hcountry
    obtain ⟨current, hcurrent⟩ :=
      exists_currentCity (bucket_groupCitiesByCountry_ne_nil hcountry) none
    exact ((findOptimalCitySequence_perm distanceTo hcurrent).append_right _).trans
      (visited_append_dropped_perm hcurrent)
  have hall : (groupCitiesByCountry cities).keys.flatMap (groupCitiesByCountry cities).bucket =
      (groupCitiesByCountry cities).values.flatten := by
    rw [List.flatMap_def, OrderedMap.map_bucket_keys]
  rw [hall] at hbuckets
  refine (hvisited.append_right _).trans ?_
  refine (List.flatMap_append_perm _ _ _).trans ?_
  exact hbuckets.trans (OrderedMap.flatten_values_gather_perm City.country cities)

/-- Every city with places is visited exactly when no city that is dropped has any. -/
theorem visited_perm_iff (cities : List (City P)) (days : ℤ) (startCity : Option String) :
    (((stays distanceTo share cities days startCity).map Prod.fst).filter
        fun city => !city.pois.isEmpty).Perm (cities.filter fun city => !city.pois.isEmpty) ↔
      ∀ country ∈ (groupCitiesByCountry cities).keys,
        ∀ city ∈ droppedCities ((groupCitiesByCountry cities).bucket country) none,
          city.pois = [] := by
  have hsplit := (visited_append_dropped_countries_perm distanceTo share cities days
    startCity).filter fun city => !city.pois.isEmpty
  rw [List.filter_append] at hsplit
  constructor
  · intro hperm
    have hlength := hsplit.length_eq
    rw [List.length_append, hperm.length_eq] at hlength
    have hnone := List.length_eq_zero_iff.mp (Nat.add_eq_left.mp hlength)
    intro country hcountry city hcity
    have hmem : city ∈ (groupCitiesByCountry cities).keys.flatMap fun country =>
        droppedCities ((groupCitiesByCountry cities).bucket country) none :=
      List.mem_flatMap.mpr ⟨country, hcountry, hcity⟩
    simpa using List.filter_eq_nil_iff.mp hnone city hmem
  · intro hdropped
    have hnone : ((groupCitiesByCountry cities).keys.flatMap fun country =>
        droppedCities ((groupCitiesByCountry cities).bucket country) none).filter
          (fun city => !city.pois.isEmpty) = [] := by
      apply List.filter_eq_nil_iff.mpr
      intro city hcity
      obtain ⟨country, hcountry, hmem⟩ := List.mem_flatMap.mp hcity
      simp [hdropped country hcountry city hmem]
    rwa [hnone, List.append_nil] at hsplit

theorem sum_stays {cities : List (City P)} {days : ℤ} (startCity : Option String)
    (hcities : ∀ country ∈ (groupCitiesByCountry cities).keys,
      ((countryStays distanceTo share ((groupCitiesByCountry cities).bucket country)
        (daysOfCountry share (groupCitiesByCountry cities) days country)).map Prod.snd).sum =
          daysOfCountry share (groupCitiesByCountry cities) days country) :
    ((stays distanceTo share cities days startCity).map Prod.snd).sum =
      (distributeDaysAmongCountries share (groupCitiesByCountry cities) days).values.sum := by
  have hsequence := optimizeCountrySequence_perm (groupCitiesByCountry cities) startCity
  rw [sum_distributeDaysAmongCountries, ← (hsequence.map _).sum_eq]
  unfold stays
  dsimp only
  rw [List.map_flatMap, List.flatMap_def, List.sum_flatten, List.map_map]
  apply congrArg
  apply List.map_congr_left
  intro country hcountry
  have hmem := hsequence.subset hcountry
  rw [← daysOfCountry_eq share _ days hmem]
  exact hcities country hmem

variable {distanceTo share} {countryCities : List (City P)} {countryDays : ℤ}

theorem mem_findOptimalCitySequence_iff (distanceTo : DistanceTo P)
    (hcities : countryCities ≠ []) {city : City P} :
    city ∈ findOptimalCitySequence distanceTo countryCities none ↔
      city ∈ visitedCities countryCities none := by
  obtain ⟨current, hcurrent⟩ := exists_currentCity hcities none
  exact (findOptimalCitySequence_perm distanceTo hcurrent).mem_iff

/-- A country is settled exactly when every visited city has a name of its own and a day, or
no day and no places. -/
theorem settled_iff (hcities : countryCities ≠ []) :
    Settled distanceTo share countryCities countryDays ↔
      ∀ city ∈ visitedCities countryCities none,
        (1 ≤ allotted share (cityWeights countryCities) countryDays city.name ∧
            ((visitedCities countryCities none).map City.name).count city.name = 1) ∨
          allotted share (cityWeights countryCities) countryDays city.name = 0 ∧
            city.pois = [] := by
  obtain ⟨current, hcurrent⟩ := exists_currentCity hcities none
  have hperm := findOptimalCitySequence_perm distanceTo hcurrent
  have hcount : ∀ name, ((findOptimalCitySequence distanceTo countryCities none).map
      City.name).count name = ((visitedCities countryCities none).map City.name).count name :=
    fun name => (hperm.map City.name).count_eq name
  constructor
  · rintro ⟨hplaced, haddUp⟩ city hcity
    have hsequence := (mem_findOptimalCitySequence_iff distanceTo hcities).mpr hcity
    rw [← daysOf_eq_allotted_of_visited hcities hcity]
    rcases hplaced city hsequence with hone | hnone
    · refine .inl ⟨hone, ?_⟩
      have hatLeast : 1 ≤ ((visitedCities countryCities none).map City.name).count city.name :=
        List.one_le_count_iff.mpr (List.mem_map_of_mem hcity)
      by_contra hrepeated
      have hzero := (sum_countryStays_iff hcities fun other hother =>
        nonneg_of_placed (hplaced other hother)).mp haddUp city hsequence
          (by rw [hcount]; omega)
      omega
    · exact .inr hnone
  · intro hplaced
    have hsequence : ∀ city ∈ findOptimalCitySequence distanceTo countryCities none,
        Placed (distributeDaysAmongCities share countryCities countryDays) city := by
      intro city hcity
      have hvisited := (mem_findOptimalCitySequence_iff distanceTo hcities).mp hcity
      have hcityPlaced := hplaced city hvisited
      rw [← daysOf_eq_allotted_of_visited hcities hvisited] at hcityPlaced
      exact hcityPlaced.imp_left And.left
    refine ⟨hsequence, (sum_countryStays_iff hcities fun city hcity =>
      nonneg_of_placed (hsequence city hcity)).mpr ?_⟩
    intro city hcity hrepeated
    have hvisited := (mem_findOptimalCitySequence_iff distanceTo hcities).mp hcity
    rw [hcount] at hrepeated
    rw [daysOf_eq_allotted_of_visited hcities hvisited]
    rcases hplaced city hvisited with ⟨-, hone⟩ | ⟨hzero, -⟩
    · omega
    · exact hzero

variable (integrator : HybridIntegrator P)

/-- In a settled country the stays keep their places exactly when the optimizer does. -/
theorem keepsPlaces_iff (hcities : countryCities ≠ [])
    (hsettled : Settled distanceTo share countryCities countryDays) :
    (∀ stay ∈ countryStays distanceTo share countryCities countryDays,
        stay.1.pois.Subperm (stayPlaces integrator stay)) ↔
      ∀ city ∈ visitedCities countryCities none, ∀ result,
        integrator city.pois (allotted share (cityWeights countryCities) countryDays city.name) =
            .ok result → result.success = true →
          city.pois.Subperm (placesOn (convertOrtoolsToDailySchedule result.itinerary)
            (allotted share (cityWeights countryCities) countryDays city.name)) := by
  have hkeeps : ∀ city ∈ findOptimalCitySequence distanceTo countryCities none,
      city.pois.Subperm (stayPlaces integrator
          (city, daysOf (distributeDaysAmongCities share countryCities countryDays) city)) ↔
        ∀ result, integrator city.pois
            (daysOf (distributeDaysAmongCities share countryCities countryDays) city) =
              .ok result → result.success = true →
          city.pois.Subperm (placesOn (convertOrtoolsToDailySchedule result.itinerary)
            (daysOf (distributeDaysAmongCities share countryCities countryDays) city)) :=
    fun city hcity => subperm_stayPlaces_iff integrator (hsettled.placed city hcity)
  constructor
  · intro hkept city hcity
    have hsequence := (mem_findOptimalCitySequence_iff distanceTo hcities).mpr hcity
    rw [← daysOf_eq_allotted_of_visited hcities hcity]
    exact (hkeeps city hsequence).mp (hkept _ (List.mem_map.mpr ⟨city, hsequence, rfl⟩))
  · intro hscheduled stay hstay
    obtain ⟨city, hcity, rfl⟩ := List.mem_map.mp hstay
    have hvisited := (mem_findOptimalCitySequence_iff distanceTo hcities).mp hcity
    apply (hkeeps city hcity).mpr
    rw [daysOf_eq_allotted_of_visited hcities hvisited]
    exact hscheduled city hvisited

variable (distanceTo share)

/-- A country fits exactly when it is settled, drops no city with places and keeps the
places of each city on its days. -/
theorem countryFits_iff (hcities : countryCities ≠ []) :
    CountryFits share integrator countryCities countryDays ↔
      Settled distanceTo share countryCities countryDays ∧
        (∀ city ∈ droppedCities countryCities none, city.pois = []) ∧
          ∀ stay ∈ countryStays distanceTo share countryCities countryDays,
            stay.1.pois.Subperm (stayPlaces integrator stay) := by
  constructor
  · rintro ⟨hdropped, hplaced, hscheduled⟩
    have hsettled : Settled distanceTo share countryCities countryDays :=
      (settled_iff hcities).mpr hplaced
    exact ⟨hsettled, hdropped, (keepsPlaces_iff integrator hcities hsettled).mpr hscheduled⟩
  · rintro ⟨hsettled, hdropped, hkept⟩
    exact ⟨hdropped, (settled_iff hcities).mp hsettled,
      (keepsPlaces_iff integrator hcities hsettled).mp hkept⟩

variable {distanceTo share integrator} {cities : List (City P)} {days : ℤ}
  {startCity : Option String}

/-- The stays of a trip are those of its countries. -/
theorem mem_stays_iff {stay : City P × ℤ} :
    stay ∈ stays distanceTo share cities days startCity ↔
      ∃ country ∈ (groupCitiesByCountry cities).keys,
        stay ∈ countryStays distanceTo share ((groupCitiesByCountry cities).bucket country)
          (daysOfCountry share (groupCitiesByCountry cities) days country) := by
  have hsequence := optimizeCountrySequence_perm (groupCitiesByCountry cities) startCity
  simp only [stays, List.mem_flatMap]
  exact exists_congr fun country => and_congr_left fun _ => hsequence.mem_iff

/-- Every country of the trip is settled. -/
def AllSettled (distanceTo : DistanceTo P) (share : Share) (cities : List (City P)) (days : ℤ) :
    Prop :=
  ∀ country ∈ (groupCitiesByCountry cities).keys,
    Settled distanceTo share ((groupCitiesByCountry cities).bucket country)
      (daysOfCountry share (groupCitiesByCountry cities) days country)

theorem AllSettled.nonneg (hsettled : AllSettled distanceTo share cities days) :
    ∀ stay ∈ stays distanceTo share cities days startCity, 0 ≤ stay.2 := by
  intro stay hstay
  obtain ⟨country, hcountry, hmem⟩ := mem_stays_iff.mp hstay
  exact nonneg_of_settled (hsettled country hcountry) stay hmem

theorem allSettled_of_placed
    (hplaced : ∀ stay ∈ stays distanceTo share cities days startCity,
      1 ≤ stay.2 ∨ stay.2 = 0 ∧ stay.1.pois = [])
    (hcities : ∀ country ∈ (groupCitiesByCountry cities).keys,
      ((countryStays distanceTo share ((groupCitiesByCountry cities).bucket country)
        (daysOfCountry share (groupCitiesByCountry cities) days country)).map Prod.snd).sum =
          daysOfCountry share (groupCitiesByCountry cities) days country) :
    AllSettled distanceTo share cities days := by
  intro country hcountry
  refine ⟨?_, hcities country hcountry⟩
  intro city hcity
  exact hplaced (city, _) (mem_stays_iff.mpr ⟨country, hcountry, List.mem_map_of_mem hcity⟩)

/-- A trip fits exactly when the days of the countries add up, the countries are settled,
every city with places is visited and each keeps its places in its stay. -/
theorem tripFits_iff (startCity : Option String) :
    TripFits share integrator cities days ↔
      (distributeDaysAmongCountries share (groupCitiesByCountry cities) days).values.sum = days ∧
        AllSettled distanceTo share cities days ∧
          (((stays distanceTo share cities days startCity).map Prod.fst).filter
            fun city => !city.pois.isEmpty).Perm (cities.filter fun city => !city.pois.isEmpty) ∧
            ∀ stay ∈ stays distanceTo share cities days startCity,
              stay.1.pois.Subperm (stayPlaces integrator stay) := by
  have heach := fun country (hcountry : country ∈ (groupCitiesByCountry cities).keys) =>
    @countryFits_iff P _ distanceTo share _
      (daysOfCountry share (groupCitiesByCountry cities) days country) integrator
      (bucket_groupCitiesByCountry_ne_nil hcountry)
  rw [visited_perm_iff, sum_distributeDaysAmongCountries]
  constructor
  · rintro ⟨hcountries, hfits⟩
    have hfit := fun country (hcountry : country ∈ (groupCitiesByCountry cities).keys) =>
      (heach country hcountry).mp
        (daysOfCountry_eq share _ days hcountry ▸ hfits country hcountry)
    refine ⟨hcountries, fun country hcountry => (hfit country hcountry).1,
      fun country hcountry => (hfit country hcountry).2.1, ?_⟩
    intro stay hstay
    obtain ⟨country, hcountry, hmem⟩ := mem_stays_iff.mp hstay
    exact (hfit country hcountry).2.2 stay hmem
  · rintro ⟨hcountries, hsettled, hdropped, hkept⟩
    refine ⟨hcountries, ?_⟩
    intro country hcountry
    rw [← daysOfCountry_eq share _ days hcountry]
    apply (heach country hcountry).mpr
    exact ⟨hsettled country hcountry, hdropped country hcountry,
      fun stay hstay => hkept stay (mem_stays_iff.mpr ⟨country, hcountry, hstay⟩)⟩

/-- The schedules of settled countries stay in the days of the stays. -/
theorem bounds_of_mem_keys_laidOut (hsettled : AllSettled distanceTo share cities days)
    {day : ℤ} (hday : day ∈ (OrderedMap.empty.setAll (laidOut 1
      ((stays distanceTo share cities days startCity).map (stayBlock integrator)))).keys) :
    1 ≤ day ∧ day ≤ ((stays distanceTo share cities days startCity).map Prod.snd).sum := by
  have hlength : ∀ block ∈ (stays distanceTo share cities days startCity).map
      (stayBlock integrator), 0 ≤ block.length := by
    intro block hblock
    obtain ⟨stay, hstay, rfl⟩ := List.mem_map.mp hblock
    exact hsettled.nonneg stay hstay
  rw [keys_setAll_laidOut hlength] at hday
  obtain ⟨entry, hentry, rfl⟩ := List.mem_map.mp hday
  have hbounds := bounds_of_mem_laidOut hlength hentry
  rw [totalDays_stayBlocks] at hbounds
  omega

variable (distanceTo share integrator)

/-- The split does what is asked exactly when the trip fits. -/
theorem optimizeMultiCountry_splits_iff (cities : List (City P)) (days : ℤ)
    (startCity : Option String) :
    SplitsTrip distanceTo share cities days startCity
        (optimizeMultiCountry distanceTo share integrator cities days startCity) ↔
      TripFits share integrator cities days := by
  rw [@tripFits_iff P _ distanceTo share integrator cities days startCity]
  constructor
  · rintro ⟨hcountries, hcities, hvisited, itinerary, hitinerary, -, hkeeps⟩
    have hsettled := allSettled_of_placed hkeeps.placed hcities
    obtain ⟨other, hother, hschedules⟩ := optimizeMultiCountry_eq integrator startCity hsettled
    rw [hother] at hitinerary
    cases hitinerary
    rw [hschedules, keepsStays_iff integrator hsettled.nonneg] at hkeeps
    exact ⟨hcountries, hsettled, hvisited, hkeeps⟩
  · rintro ⟨hcountries, hsettled, hvisited, hkept⟩
    have hcities := fun country hcountry => (hsettled country hcountry).addUp
    obtain ⟨itinerary, hitinerary, hschedules⟩ :=
      optimizeMultiCountry_eq integrator startCity hsettled
    refine ⟨hcountries, hcities, hvisited, itinerary, hitinerary, ?_, ?_⟩
    · intro day hday
      rw [hschedules] at hday
      have hbounds := bounds_of_mem_keys_laidOut hsettled hday
      rwa [sum_stays distanceTo share startCity hcities, hcountries] at hbounds
    · rw [hschedules, keepsStays_iff integrator hsettled.nonneg]
      exact hkept

end Split

/-- Three cities with one place each, in three countries. -/
def threeCountries : List (City String) :=
  [⟨"Lima", mkRat (-120) 10, mkRat (-770) 10, "Peru", ["Plaza Mayor"]⟩,
    ⟨"Quito", mkRat (-2) 10, mkRat (-785) 10, "Ecuador", ["Basilica"]⟩,
    ⟨"La Paz", mkRat (-165) 10, mkRat (-681) 10, "Bolivia", ["Teleferico"]⟩]

/-- Four days for three countries: each one gets a single day. -/
theorem optimizeMultiCountry_misses_fourth :
    ¬ SplitsTrip (fun _ _ => mkRat 1000 1) exactShare threeCountries 4 none
      (optimizeMultiCountry (fun _ _ => mkRat 1000 1) exactShare
        (fun _ _ => .error (.attributeError
          "'HybridArchitectureIntegrator' object has no attribute 'optimize_itinerary'"))
        threeCountries 4 none) := by
  intro hsplits
  have hsum := hsplits.countriesAddUp
  revert hsum
  decide +kernel

end Goveling.MultiCity.Country
