/-
# Trips with their routes

`_optimize_intercity_hybrid` lists the routes between the cities of its sequence, and
`_optimize_multi_country` those of its countries. The routes may be kept from an earlier trip and
then join cities of that one, which are left out of the list although their length is counted. So
no trip lists a route across a border, and the length of a trip is that of its routes while equal
names are equal cities.
-/

import Goveling.MultiCity.IntercityRoutes

namespace Goveling.MultiCity.Country

open Goveling.Math Goveling.Python

universe u

variable {P : Type u}

/-! ## Countries -/

theorem bucket_subset (cities : List (City P)) (country : String) :
    (groupCitiesByCountry cities).bucket country ⊆ cities := by
  unfold groupCitiesByCountry
  rw [OrderedMap.bucket_gather]
  exact List.filter_subset_self cities

theorem country_of_mem_bucket {cities : List (City P)} {country : String} {city : City P}
    (hcity : city ∈ (groupCitiesByCountry cities).bucket country) : city.country = country := by
  unfold groupCitiesByCountry at hcity
  rw [OrderedMap.bucket_gather] at hcity
  exact of_decide_eq_true (List.mem_filter.mp hcity).2

/-! ## Trips -/

variable [DecidableEq P]

/-- `MultiCityItinerary` with its routes. -/
structure RoutedItinerary (P : Type u) extends MultiCityItinerary P where
  intercityRoutes : List (InterCityRoute P)
  totalDistanceKm : ℚ := 0

/-- The routes between two of the cities. -/
def routesWithin (cities : List (City P)) (routes : List (InterCityRoute P)) :
    List (InterCityRoute P) :=
  routes.filter fun route => route.originCity ∈ cities ∧ route.destinationCity ∈ cities

section Planning

variable (distanceTo : DistanceTo P) (share : Share) (integrator : HybridIntegrator P)

/-- The routes that `_optimize_intercity_hybrid` asks for. -/
def sequenceCall (cities : List (City P)) (startCity : Option String)
    (osrm : ℕ → ℕ → Option RouteData) : RoutesCall P where
  cities := findOptimalCitySequence distanceTo cities startCity
  osrm := osrm

/-- `_optimize_intercity_hybrid` with its routes. -/
def routedIntercityHybrid (routesCache : RoutesCache P) (osrm : ℕ → ℕ → Option RouteData)
    (cities : List (City P)) (days : ℤ) (startCity : Option String) :
    Except PyError (RoutedItinerary P) × RoutesCache P :=
  let (intercityRoutes, later) :=
    calculateIntercityRoutes distanceTo routesCache (sequenceCall distanceTo cities startCity osrm)
  ((optimizeIntercityHybrid distanceTo share integrator cities days startCity).map fun itinerary =>
    { toMultiCityItinerary := itinerary
      intercityRoutes := routesWithin (findOptimalCitySequence distanceTo cities startCity)
        intercityRoutes
      totalDistanceKm := (intercityRoutes.map InterCityRoute.distanceKm).sum }, later)

/-- The state of the loop over the countries, with the routes. -/
structure RoutedCountries (P : Type u) extends CountryState P where
  allRoutes : List (InterCityRoute P)

/-- One country of the loop of `_optimize_multi_country`, with its routes. -/
def routeCountry (citiesByCountry : OrderedMap String (List (City P)))
    (daysPerCountry : OrderedMap String ℤ) (osrm : String → ℕ → ℕ → Option RouteData)
    (state : Except PyError (RoutedCountries P) × RoutesCache P) (country : String) :
    Except PyError (RoutedCountries P) × RoutesCache P :=
  match state with
  | (.error e, routesCache) => (.error e, routesCache)
  | (.ok trip, routesCache) =>
      let countryDays := (daysPerCountry.get? country).getD 0
      let (countryItinerary, later) := routedIntercityHybrid distanceTo share integrator
        routesCache (osrm country) (citiesByCountry.bucket country) countryDays none
      (countryItinerary.map fun itinerary =>
        { cities := trip.cities ++ itinerary.cities
          dailySchedules := trip.dailySchedules.setAll (itinerary.dailySchedules.entries.map
            fun entry => (trip.currentDay + entry.1 - 1, entry.2))
          currentDay := trip.currentDay + countryDays
          allRoutes := trip.allRoutes ++ itinerary.intercityRoutes }, later)

/-- `_optimize_multi_country` with its routes. -/
def routedMultiCountry (routesCache : RoutesCache P) (osrm : String → ℕ → ℕ → Option RouteData)
    (cities : List (City P)) (days : ℤ) (startCity : Option String) :
    Except PyError (RoutedItinerary P) × RoutesCache P :=
  let citiesByCountry := groupCitiesByCountry cities
  let daysPerCountry := distributeDaysAmongCountries share citiesByCountry days
  let (final, later) := (optimizeCountrySequence citiesByCountry startCity).foldl
    (routeCountry distanceTo share integrator citiesByCountry daysPerCountry osrm)
    (.ok
      { cities := [], dailySchedules := OrderedMap.empty, currentDay := 1, allRoutes := [] },
      routesCache)
  (final.map fun trip =>
    { cities := trip.cities
      dailySchedules := trip.dailySchedules
      totalDurationDays := days
      intercityRoutes := trip.allRoutes }, later)

/-- A trip that is asked for, in one country or in several, with what OSRM answers for the cities
at two places of a sequence. -/
inductive TripRequest (P : Type u)
  | intercity (cities : List (City P)) (days : ℤ) (startCity : Option String)
      (osrm : ℕ → ℕ → Option RouteData)
  | multiCountry (cities : List (City P)) (days : ℤ) (startCity : Option String)
      (osrm : String → ℕ → ℕ → Option RouteData)

/-- The cities of a trip. -/
def TripRequest.cities : TripRequest P → List (City P)
  | intercity cities _ _ _ => cities
  | multiCountry cities _ _ _ => cities

/-- The trip is planned country by country. -/
def TripRequest.severalCountries : TripRequest P → Bool
  | intercity _ _ _ _ => false
  | multiCountry _ _ _ _ => true

/-- The trip that is planned, and the cache after it. -/
def planTrip (routesCache : RoutesCache P) :
    TripRequest P → Except PyError (RoutedItinerary P) × RoutesCache P
  | .intercity cities days startCity osrm =>
      routedIntercityHybrid distanceTo share integrator routesCache osrm cities days startCity
  | .multiCountry cities days startCity osrm =>
      routedMultiCountry distanceTo share integrator routesCache osrm cities days startCity

/-- The trip that is planned without routes. -/
def planWithoutRoutes : TripRequest P → Except PyError (MultiCityItinerary P)
  | .intercity cities days startCity _ =>
      optimizeIntercityHybrid distanceTo share integrator cities days startCity
  | .multiCountry cities days startCity _ =>
      optimizeMultiCountry distanceTo share integrator cities days startCity

/-- Trips one after the other, from an empty cache. -/
def tripRun (requests : List (TripRequest P)) : List (RoutesCache P × TripRequest P) :=
  moments (fun routesCache request => (planTrip distanceTo share integrator routesCache request).2)
    .empty requests

end Planning

/-- Equal names are equal cities. -/
def NamesTellCities (cities : List (City P)) : Prop :=
  ∀ city ∈ cities, ∀ other ∈ cities, city.name = other.name → city = other

/-- The routes of a trip join its cities. A trip through several countries has none across a
border and reports no length; another one reports that of its routes while equal names are equal
cities. -/
structure RoutesFit (known : List (City P)) (request : TripRequest P)
    (itinerary : RoutedItinerary P) : Prop where
  joins : ∀ route ∈ itinerary.intercityRoutes,
    route.originCity ∈ itinerary.cities ∧ route.destinationCity ∈ itinerary.cities
  inCountry : request.severalCountries = true → ∀ route ∈ itinerary.intercityRoutes,
    route.originCity.country = route.destinationCity.country
  unmeasured : request.severalCountries = true → itinerary.totalDistanceKm = 0
  total : request.severalCountries = false → NamesTellCities known →
    itinerary.totalDistanceKm = (itinerary.intercityRoutes.map InterCityRoute.distanceKm).sum

/-! ## Trips in one country -/

section Hybrid

variable {distanceTo : DistanceTo P} {share : Share} {integrator : HybridIntegrator P}
  {known : List (City P)} {routesCache : RoutesCache P} {cities : List (City P)} {days : ℤ}
  {startCity : Option String} {osrm : ℕ → ℕ → Option RouteData}

theorem findOptimalCitySequence_subset (distanceTo : DistanceTo P) (cities : List (City P))
    (startCity : Option String) : findOptimalCitySequence distanceTo cities startCity ⊆ cities := by
  cases cities with
  | nil => exact List.Subset.refl []
  | cons first others =>
      obtain ⟨current, hcurrent⟩ := exists_currentCity (List.cons_ne_nil first others) startCity
      intro city hcity
      apply (visited_append_dropped_perm hcurrent).subset
      apply List.mem_append_left
      exact (findOptimalCitySequence_perm distanceTo hcurrent).subset hcity

/-- The routes of a trip are those of a call of the service. -/
theorem routedIntercityHybrid_snd :
    (routedIntercityHybrid distanceTo share integrator routesCache osrm cities days startCity).2 =
      afterRoutes distanceTo routesCache (sequenceCall distanceTo cities startCity osrm) := rfl

/-- A trip is planned as without its routes. -/
theorem routedIntercityHybrid_forget :
    (routedIntercityHybrid distanceTo share integrator routesCache osrm cities days
        startCity).1.map RoutedItinerary.toMultiCityItinerary =
      optimizeIntercityHybrid distanceTo share integrator cities days startCity := by
  unfold routedIntercityHybrid
  dsimp only
  cases optimizeIntercityHybrid distanceTo share integrator cities days startCity with
  | error e => rfl
  | ok itinerary => rfl

theorem cities_of_optimizeIntercityHybrid {itinerary : MultiCityItinerary P}
    (hitinerary : optimizeIntercityHybrid distanceTo share integrator cities days startCity =
      .ok itinerary) :
    itinerary.cities = findOptimalCitySequence distanceTo cities startCity := by
  obtain ⟨schedules, -, hreturn⟩ := exists_of_bind_eq_ok hitinerary
  cases hreturn
  rfl

/-- A trip lists the routes of its call that join its cities, and reports the length of all of
them. -/
theorem routes_of_routedIntercityHybrid {itinerary : RoutedItinerary P}
    (hitinerary : (routedIntercityHybrid distanceTo share integrator routesCache osrm cities days
      startCity).1 = .ok itinerary) :
    itinerary.cities = findOptimalCitySequence distanceTo cities startCity ∧
      itinerary.intercityRoutes = routesWithin itinerary.cities
        (calculateIntercityRoutes distanceTo routesCache
          (sequenceCall distanceTo cities startCity osrm)).1 ∧
      itinerary.totalDistanceKm = ((calculateIntercityRoutes distanceTo routesCache
        (sequenceCall distanceTo cities startCity osrm)).1.map InterCityRoute.distanceKm).sum := by
  obtain ⟨plain, hplain, rfl⟩ := exists_of_map_eq_ok hitinerary
  have hcities := cities_of_optimizeIntercityHybrid hplain
  exact ⟨hcities, congrArg (routesWithin · _) hcities.symm, rfl⟩

theorem joins_of_mem_routesWithin {routes : List (InterCityRoute P)} {route : InterCityRoute P}
    (hroute : route ∈ routesWithin cities routes) :
    route.originCity ∈ cities ∧ route.destinationCity ∈ cities :=
  of_decide_eq_true (List.mem_filter.mp hroute).2

/-- While equal names are equal cities, a trip lists all routes of its call. -/
theorem routesWithin_eq (hrun : ServiceRun distanceTo known routesCache)
    (hcities : cities ⊆ known) (hnames : NamesTellCities known) :
    routesWithin (findOptimalCitySequence distanceTo cities startCity)
        (calculateIntercityRoutes distanceTo routesCache
          (sequenceCall distanceTo cities startCity osrm)).1 =
      (calculateIntercityRoutes distanceTo routesCache
        (sequenceCall distanceTo cities startCity osrm)).1 := by
  have hcall : (sequenceCall distanceTo cities startCity osrm).cities ⊆ known := fun city hcity =>
    hcities (findOptimalCitySequence_subset distanceTo cities startCity hcity)
  refine List.filter_eq_self.mpr fun route hroute => decide_eq_true ?_
  obtain ⟨origin, horigin, destination, hdestination, hfirst, hsecond, hknown, hknownToo⟩ :=
    hrun.exists_names hcall hroute
  rw [hnames _ hknown origin (hcall horigin) hfirst,
    hnames _ hknownToo destination (hcall hdestination) hsecond]
  exact ⟨horigin, hdestination⟩

end Hybrid

/-! ## Trips through several countries -/

section Countries

variable {distanceTo : DistanceTo P} {share : Share} {integrator : HybridIntegrator P}
  {known : List (City P)} {routesCache : RoutesCache P} {cities : List (City P)} {days : ℤ}
  {startCity : Option String} {osrm : String → ℕ → ℕ → Option RouteData}

/-- The routes of the loop join its cities, each in one country. -/
structure JoinsWithinCountries (trip : RoutedCountries P) : Prop where
  joins : ∀ route ∈ trip.allRoutes,
    route.originCity ∈ trip.cities ∧ route.destinationCity ∈ trip.cities
  inCountry : ∀ route ∈ trip.allRoutes,
    route.originCity.country = route.destinationCity.country

/-- What is kept in the loop over the countries: the cache is one of the service, and the routes
stay within the countries. -/
structure KeepsRoutes (distanceTo : DistanceTo P) (known : List (City P))
    (state : Except PyError (RoutedCountries P) × RoutesCache P) : Prop where
  service : ServiceRun distanceTo known state.2
  within : ∀ trip, state.1 = .ok trip → JoinsWithinCountries trip

/-- A country adds routes between its own cities. -/
theorem KeepsRoutes.routeCountry (hcities : cities ⊆ known)
    {daysPerCountry : OrderedMap String ℤ}
    {state : Except PyError (RoutedCountries P) × RoutesCache P}
    (hstate : KeepsRoutes distanceTo known state) (country : String) :
    KeepsRoutes distanceTo known (routeCountry distanceTo share integrator
      (groupCitiesByCountry cities) daysPerCountry osrm state country) := by
  obtain ⟨trip, routesCache⟩ := state
  cases trip with
  | error e => exact hstate
  | ok trip =>
      obtain ⟨hservice, hwithin⟩ := hstate
      replace hwithin := hwithin trip rfl
      constructor
      · apply hservice.afterRoutes
        intro city hcity
        exact hcities (bucket_subset cities country (findOptimalCitySequence_subset _ _ _ hcity))
      · intro next hnext
        obtain ⟨itinerary, hitinerary, rfl⟩ := exists_of_map_eq_ok hnext
        obtain ⟨hsequence, hroutes, -⟩ := routes_of_routedIntercityHybrid hitinerary
        have hcountry : ∀ city ∈ itinerary.cities, city.country = country := by
          intro city hcity
          rw [hsequence] at hcity
          exact country_of_mem_bucket (findOptimalCitySequence_subset _ _ _ hcity)
        constructor
        · intro route hroute
          rcases List.mem_append.mp hroute with hearlier | hnew
          · exact ⟨List.mem_append_left _ (hwithin.joins route hearlier).1,
              List.mem_append_left _ (hwithin.joins route hearlier).2⟩
          · rw [hroutes] at hnew
            exact ⟨List.mem_append_right _ (joins_of_mem_routesWithin hnew).1,
              List.mem_append_right _ (joins_of_mem_routesWithin hnew).2⟩
        · intro route hroute
          rcases List.mem_append.mp hroute with hearlier | hnew
          · exact hwithin.inCountry route hearlier
          · rw [hroutes] at hnew
            exact (hcountry _ (joins_of_mem_routesWithin hnew).1).trans
              (hcountry _ (joins_of_mem_routesWithin hnew).2).symm

/-- The loop over any countries keeps routes within countries. -/
theorem KeepsRoutes.foldl_routeCountry (hcities : cities ⊆ known)
    {daysPerCountry : OrderedMap String ℤ} (countries : List String)
    {state : Except PyError (RoutedCountries P) × RoutesCache P}
    (hstate : KeepsRoutes distanceTo known state) :
    KeepsRoutes distanceTo known (countries.foldl (Country.routeCountry distanceTo share integrator
      (groupCitiesByCountry cities) daysPerCountry osrm) state) := by
  induction countries generalizing state with
  | nil => exact hstate
  | cons country rest ih => exact ih (hstate.routeCountry hcities country)

/-- The loop of a trip through several countries, from a cache of the service. -/
theorem keepsRoutes_routedMultiCountry (hrun : ServiceRun distanceTo known routesCache)
    (hcities : cities ⊆ known) :
    KeepsRoutes distanceTo known
      ((optimizeCountrySequence (groupCitiesByCountry cities) startCity).foldl
        (routeCountry distanceTo share integrator (groupCitiesByCountry cities)
          (distributeDaysAmongCountries share (groupCitiesByCountry cities) days) osrm)
        (.ok
          { cities := [], dailySchedules := OrderedMap.empty, currentDay := 1, allRoutes := [] },
          routesCache)) := by
  refine KeepsRoutes.foldl_routeCountry hcities _ ⟨hrun, fun trip htrip => ?_⟩
  cases htrip
  exact ⟨nofun, nofun⟩

/-- A country is scheduled as without its routes. -/
theorem routeCountry_forget (citiesByCountry : OrderedMap String (List (City P)))
    (daysPerCountry : OrderedMap String ℤ)
    (state : Except PyError (RoutedCountries P) × RoutesCache P) (country : String) :
    (routeCountry distanceTo share integrator citiesByCountry daysPerCountry osrm state
        country).1.map RoutedCountries.toCountryState =
      (state.1.map RoutedCountries.toCountryState).bind fun trip =>
        scheduleCountry distanceTo share integrator citiesByCountry daysPerCountry trip
          country := by
  obtain ⟨trip, routesCache⟩ := state
  cases trip with
  | error e => rfl
  | ok trip =>
      have hforget := @routedIntercityHybrid_forget P _ distanceTo share integrator routesCache
        (citiesByCountry.bucket country) ((daysPerCountry.get? country).getD 0) none (osrm country)
      show _ = scheduleCountry distanceTo share integrator citiesByCountry daysPerCountry
        trip.toCountryState country
      unfold scheduleCountry routeCountry
      dsimp only
      rw [← hforget]
      cases (routedIntercityHybrid distanceTo share integrator routesCache (osrm country)
          (citiesByCountry.bucket country) ((daysPerCountry.get? country).getD 0) none).1 with
      | error e => rfl
      | ok itinerary => rfl

theorem foldl_routeCountry_forget (citiesByCountry : OrderedMap String (List (City P)))
    (daysPerCountry : OrderedMap String ℤ) (countries : List String)
    (state : Except PyError (RoutedCountries P) × RoutesCache P) :
    (countries.foldl (routeCountry distanceTo share integrator citiesByCountry daysPerCountry
        osrm) state).1.map RoutedCountries.toCountryState =
      (state.1.map RoutedCountries.toCountryState).bind fun trip =>
        countries.foldlM (scheduleCountry distanceTo share integrator citiesByCountry
          daysPerCountry) trip := by
  induction countries generalizing state with
  | nil =>
      obtain ⟨trip, routesCache⟩ := state
      cases trip with
      | error e => rfl
      | ok trip => rfl
  | cons country rest ih =>
      rw [List.foldl_cons, ih, routeCountry_forget]
      cases state.1 with
      | error e => rfl
      | ok trip => rfl

/-- A trip through several countries is planned as without its routes. -/
theorem routedMultiCountry_forget :
    (routedMultiCountry distanceTo share integrator routesCache osrm cities days
        startCity).1.map RoutedItinerary.toMultiCityItinerary =
      optimizeMultiCountry distanceTo share integrator cities days startCity := by
  have hforget := @foldl_routeCountry_forget P _ distanceTo share integrator osrm
    (groupCitiesByCountry cities)
    (distributeDaysAmongCountries share (groupCitiesByCountry cities) days)
    (optimizeCountrySequence (groupCitiesByCountry cities) startCity)
    (.ok { cities := [], dailySchedules := OrderedMap.empty, currentDay := 1, allRoutes := [] },
      routesCache)
  replace hforget : _ = List.foldlM _ _ _ := hforget
  unfold routedMultiCountry optimizeMultiCountry
  dsimp only
  rw [← hforget]
  cases (List.foldl _ _ _ : Except PyError (RoutedCountries P) × RoutesCache P).1 with
  | error e => rfl
  | ok trip => rfl

end Countries

/-! ## Runs of trips -/

section Runs

variable {distanceTo : DistanceTo P} {share : Share} {integrator : HybridIntegrator P}
  {known : List (City P)} {routesCache : RoutesCache P} {request : TripRequest P}

/-- A trip leaves a cache of the service. -/
theorem ServiceRun.planTrip (hrun : ServiceRun distanceTo known routesCache)
    (hcities : request.cities ⊆ known) :
    ServiceRun distanceTo known
      (planTrip distanceTo share integrator routesCache request).2 := by
  cases request with
  | intercity cities days startCity osrm =>
      apply hrun.afterRoutes
      intro city hcity
      exact hcities (findOptimalCitySequence_subset _ _ _ hcity)
  | multiCountry cities days startCity osrm =>
      exact (keepsRoutes_routedMultiCountry hrun hcities).service

/-- From a cache of the service, the routes of a trip are as they should be. -/
theorem routesFit_planTrip (hrun : ServiceRun distanceTo known routesCache)
    (hcities : request.cities ⊆ known) {itinerary : RoutedItinerary P}
    (hitinerary : (planTrip distanceTo share integrator routesCache request).1 = .ok itinerary) :
    RoutesFit known request itinerary := by
  cases request with
  | intercity cities days startCity osrm =>
      replace hcities : cities ⊆ known := hcities
      obtain ⟨hsequence, hroutes, htotal⟩ := routes_of_routedIntercityHybrid hitinerary
      refine ⟨fun route hroute => ?_, nofun, nofun, fun _ hnames => ?_⟩
      · rw [hroutes] at hroute
        exact joins_of_mem_routesWithin hroute
      · rw [htotal, hroutes, hsequence, routesWithin_eq hrun hcities hnames]
  | multiCountry cities days startCity osrm =>
      obtain ⟨trip, htrip, rfl⟩ := exists_of_map_eq_ok hitinerary
      have hwithin := (keepsRoutes_routedMultiCountry hrun hcities).within trip htrip
      exact ⟨hwithin.joins, fun _ => hwithin.inCountry, fun _ => rfl, nofun⟩

/-- Routes and what is kept of them do not change what is planned. -/
theorem planTrip_forget (routesCache : RoutesCache P) (request : TripRequest P) :
    (planTrip distanceTo share integrator routesCache request).1.map
        RoutedItinerary.toMultiCityItinerary =
      planWithoutRoutes distanceTo share integrator request := by
  cases request with
  | intercity cities days startCity osrm => exact routedIntercityHybrid_forget
  | multiCountry cities days startCity osrm => exact routedMultiCountry_forget

/-- In every run of trips, whatever routes are kept from earlier ones, a trip is planned as without
routes. It lists routes between its own cities only, and none across a border; and one that is not
planned country by country reports the length of the routes it lists while equal names are equal
cities. -/
theorem planTrip_routesFit (distanceTo : DistanceTo P) (share : Share)
    (integrator : HybridIntegrator P) (requests : List (TripRequest P)) :
    ∀ moment ∈ tripRun distanceTo share integrator requests,
      (planTrip distanceTo share integrator moment.1 moment.2).1.map
          RoutedItinerary.toMultiCityItinerary =
        planWithoutRoutes distanceTo share integrator moment.2 ∧
      ∀ itinerary, (planTrip distanceTo share integrator moment.1 moment.2).1 = .ok itinerary →
        RoutesFit (requests.flatMap TripRequest.cities) moment.2 itinerary := by
  intro moment hmoment
  refine ⟨planTrip_forget moment.1 moment.2, fun itinerary hitinerary => ?_⟩
  obtain ⟨before, after, rfl, hstate⟩ := mem_moments_iff.mp hmoment
  have hknown : ∀ request ∈ before ++ moment.2 :: after,
      request.cities ⊆ (before ++ moment.2 :: after).flatMap TripRequest.cities :=
    fun request hrequest city hcity => List.mem_flatMap.mpr ⟨request, hrequest, hcity⟩
  have hrun : ServiceRun distanceTo ((before ++ moment.2 :: after).flatMap TripRequest.cities)
      moment.1 := by
    rw [hstate]
    refine @runEnd_history _ _ _ (fun _ routesCache => ServiceRun distanceTo _ routesCache) _
      serviceRun_empty before ?_
    intro past routesCache request hrequest hrun
    exact hrun.planTrip (hknown request (List.mem_append_left _ hrequest))
  have hmem : moment.2 ∈ before ++ moment.2 :: after :=
    List.mem_append_right before List.mem_cons_self
  exact routesFit_planTrip hrun (hknown moment.2 hmem) hitinerary

end Runs

/-- Two days in two cities with one place each, 120 km apart by road. -/
def coastTrip (first second : String) : TripRequest String :=
  .intercity
    [⟨"Santiago", mkRat (-335) 10, mkRat (-707) 10, "Chile", [first]⟩,
      ⟨"Valparaíso", mkRat (-330) 10, mkRat (-716) 10, "Chile", [second]⟩]
    2 none fun _ _ => some ⟨120000, 5400⟩

/-- The optimizer of single cities, which is missing. -/
def noOptimizer : HybridIntegrator String := fun _ _ => .error (.attributeError
  "'HybridArchitectureIntegrator' object has no attribute 'optimize_itinerary'")

/-- The cache after a trip. -/
def afterCoastTrip : RoutesCache String :=
  (planTrip (fun _ _ => 100) exactShare noOptimizer .empty (coastTrip "La Moneda" "Ascensor")).2

/-- Other places in the same cities: the routes of the first trip are counted and not listed. -/
theorem planTrip_routesFit_twice : ∃ itinerary,
    (planTrip (fun _ _ => 100) exactShare noOptimizer afterCoastTrip
      (coastTrip "Cerro San Cristóbal" "Muelle Prat")).1 = .ok itinerary ∧
    itinerary.intercityRoutes.length = 0 ∧ itinerary.totalDistanceKm = 240 ∧
    RoutesFit ([coastTrip "La Moneda" "Ascensor",
        coastTrip "Cerro San Cristóbal" "Muelle Prat"].flatMap TripRequest.cities)
      (coastTrip "Cerro San Cristóbal" "Muelle Prat") itinerary := by
  have hparts : (planTrip (fun _ _ => 100) exactShare noOptimizer afterCoastTrip
      (coastTrip "Cerro San Cristóbal" "Muelle Prat")).1.toOption.map (fun itinerary =>
        (itinerary.intercityRoutes.length, itinerary.totalDistanceKm)) = some (0, 240) := by
    decide +kernel
  have hsecond := planTrip_routesFit (fun _ _ => 100) exactShare noOptimizer
    [coastTrip "La Moneda" "Ascensor", coastTrip "Cerro San Cristóbal" "Muelle Prat"]
    (afterCoastTrip, coastTrip "Cerro San Cristóbal" "Muelle Prat")
    (List.mem_cons_of_mem _ List.mem_cons_self)
  obtain ⟨itinerary, hitinerary, hvalues⟩ := Option.map_eq_some_iff.mp hparts
  obtain ⟨hroutes, hlength⟩ := Prod.mk.inj hvalues
  have hok := eq_ok_of_toOption hitinerary
  exact ⟨itinerary, hok, hroutes, hlength, hsecond.2 itinerary hok⟩

end Goveling.MultiCity.Country
