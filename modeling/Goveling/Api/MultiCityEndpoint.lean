/-
# The multi-city endpoint

The endpoint counts the days of a city by looking for places that carry the name of
the city under `city`. The places it sends through the optimizer are written from
the fields of the request, which has no such field, so nothing is ever counted:
every city is reported with no days, and no city stays long enough for a hotel.
-/

import Goveling.MultiCity.SimpleItinerary
import Goveling.Python.Value

namespace Goveling.Api.MultiCity

open Goveling.Math Goveling.MultiCity Goveling.Python

/-- The fields of `Place` that the endpoint reads. There is no `city`, no `country` and
no `visit_duration_hours` for `hasattr` to find. -/
structure Place where
  name : String
  lat : ℚ
  lon : ℚ
  category : Option String

/-- `MultiCityOptimizationRequest`. -/
structure MultiCityOptimizationRequest where
  places : List Place
  durationDays : ℤ
  durationDays_pos : 0 < durationDays
  startCity : Option String
  includeAccommodations : Bool

/-- The dictionary the endpoint writes for a place. -/
def poiData (place : Place) : Poi where
  name := place.name
  lat := place.lat
  lon := place.lon
  category := place.category.getD "attraction"
  visitDurationHours := mkRat 2 1
  city := none
  country := none

/-! ## Accommodations -/

/-- `HotelRecommendation`, as far as the plan uses it. -/
structure HotelRecommendation where
  name : String
  lat : ℚ
  lon : ℚ
  rating : ℚ
  priceRange : String

/-- An entry of `MultiCityAccommodationPlan.accommodations`. -/
structure CityAccommodation where
  city : String
  hotel : HotelRecommendation
  nights : ℤ
  checkInDay : ℤ
  checkOutDay : ℤ

/-- One city of `plan_multi_city_accommodations`. A stay of one day is skipped, and does
not move the day on. -/
def planCity (findHotelsByCityName : String → List HotelRecommendation)
    (daysPerCity : OrderedMap String ℤ) (state : List CityAccommodation × ℤ) (cityName : String) :
    List CityAccommodation × ℤ :=
  let (accommodations, currentDay) := state
  let cityDays := (daysPerCity.get? cityName).getD 1
  if cityDays ≤ 1 then state
  else
    match findHotelsByCityName cityName with
    | bestHotel :: _ =>
        (accommodations ++
          [{ city := cityName
             hotel := bestHotel
             nights := cityDays - 1
             checkInDay := currentDay
             checkOutDay := currentDay + (cityDays - 1) }], currentDay + cityDays)
    | [] => (accommodations, currentDay + cityDays)

/-- The accommodations of `plan_multi_city_accommodations`. -/
def planMultiCityAccommodations (findHotelsByCityName : String → List HotelRecommendation)
    (cityNames : List String) (daysPerCity : OrderedMap String ℤ) : List CityAccommodation :=
  (cityNames.foldl (planCity findHotelsByCityName daysPerCity) ([], 1)).1

/-- The price of a night in a price range. -/
def pricePerNight (priceRange : String) : ℚ :=
  match priceRange with
  | "low" => mkRat 50 1
  | "medium" => mkRat 120 1
  | "high" => mkRat 250 1
  | _ => mkRat 120 1

/-- `_estimate_accommodation_costs`. -/
def estimateAccommodationCosts (accommodations : List CityAccommodation) : ℚ :=
  (accommodations.map fun acc => pricePerNight acc.hotel.priceRange * acc.nights).sum

/-! ## The response -/

/-- `CityInfo`. -/
structure CityInfo where
  name : String
  country : String
  latitude : ℚ
  longitude : ℚ
  poisCount : ℕ
  assignedDays : ℕ

/-- `AccommodationInfo`. -/
structure AccommodationInfo where
  city : String
  hotelName : String
  rating : ℚ
  priceRange : String
  nights : ℤ
  checkInDay : ℤ
  checkOutDay : ℤ
  estimatedCostUsd : ℚ
  latitude : ℚ
  longitude : ℚ

/-- `MultiCityItineraryResponse`, without the time the request took. -/
structure MultiCityItineraryResponse where
  cities : List CityInfo
  citySequence : List String
  dailySchedule : OrderedMap ℤ (List Poi)
  accommodations : List AccommodationInfo
  totalDurationDays : ℤ
  countriesCount : ℕ
  totalDistanceKm : ℚ
  estimatedAccommodationCostUsd : ℚ
  optimizationStrategy : OptimizationStrategy
  confidence : ℚ
  avgPoisPerCity : ℚ

/-- The number of days with a place that carries the name of a city. -/
def daysNamed (dailySchedules : OrderedMap ℤ (List Poi)) (cityName : String) : ℕ :=
  dailySchedules.values.countP fun dayPois => dayPois.any fun poi => poi.city = some cityName

/-- The days the hotels are planned for. -/
def daysForHotels (itinerary : MultiCityItinerary Poi) : OrderedMap String ℤ :=
  OrderedMap.empty.setAll (itinerary.cities.map fun city =>
    (city.name, max 1 ((daysNamed itinerary.dailySchedules city.name : ℕ) : ℤ)))

/-- The entry of the response for an accommodation. -/
def accommodationInfo (acc : CityAccommodation) : AccommodationInfo where
  city := acc.city
  hotelName := acc.hotel.name
  rating := acc.hotel.rating
  priceRange := acc.hotel.priceRange
  nights := acc.nights
  checkInDay := acc.checkInDay
  checkOutDay := acc.checkOutDay
  estimatedCostUsd := mkRat 120 1 * acc.nights
  latitude := acc.hotel.lat
  longitude := acc.hotel.lon

/-- The entry of the response for a city. -/
def cityInfo (dailySchedules : OrderedMap ℤ (List Poi)) (city : City Poi) : CityInfo where
  name := city.name
  country := city.country
  latitude := city.centerLat
  longitude := city.centerLon
  poisCount := city.pois.length
  assignedDays := daysNamed dailySchedules city.name

/-- What the endpoint asks libraries for, and the hotels it knows. -/
structure MultiCityEnv where
  clustering : ClusteringEnv
  share : Share
  findHotelsByCityName : String → List HotelRecommendation

/-- The itinerary of a request. -/
def itineraryOf (env : MultiCityEnv) (request : MultiCityOptimizationRequest) :
    Except PyError (MultiCityItinerary Poi) :=
  Simple.optimizeMultiCityItinerary env.clustering env.share (request.places.map poiData)
    request.durationDays request.startCity

/-- The response for an itinerary. -/
def respond (env : MultiCityEnv) (request : MultiCityOptimizationRequest)
    (itinerary : MultiCityItinerary Poi) : MultiCityItineraryResponse :=
  let plan :=
    if request.includeAccommodations then
      planMultiCityAccommodations env.findHotelsByCityName (itinerary.cities.map City.name)
        (daysForHotels itinerary)
    else []
  { cities := itinerary.cities.map (cityInfo itinerary.dailySchedules)
    citySequence := itinerary.cities.map City.name
    dailySchedule := itinerary.dailySchedules
    accommodations := plan.map accommodationInfo
    totalDurationDays := itinerary.totalDurationDays
    countriesCount := (itinerary.cities.map City.country).dedup.length
    totalDistanceKm := itinerary.totalDistanceKm
    estimatedAccommodationCostUsd := estimateAccommodationCosts plan
    optimizationStrategy := itinerary.optimizationStrategy
    confidence := itinerary.confidence
    avgPoisPerCity :=
      if itinerary.cities.isEmpty then 0 else request.places.length / itinerary.cities.length }

/-- `optimize_multi_city_itinerary`. -/
def optimizeMultiCityItinerary (env : MultiCityEnv) (request : MultiCityOptimizationRequest) :
    Except HTTPException MultiCityItineraryResponse :=
  match itineraryOf env request with
  | .ok itinerary => .ok (respond env request itinerary)
  | .error e => .error ⟨500, "Error optimizing multi-city itinerary: " ++ e.text⟩

/-! ## What the response reports -/

/-- The number of days with at least one place of a city. -/
def scheduledDays (dailySchedules : OrderedMap ℤ (List Poi)) (city : City Poi) : ℕ :=
  dailySchedules.values.countP fun dayPois => dayPois.any fun poi => poi ∈ city.pois

/-- The response gives every city of the itinerary the days on which its places are
scheduled, and the nights of a stay of so many days if accommodations are asked for. -/
structure ReportsDays (request : MultiCityOptimizationRequest)
    (itinerary : MultiCityItinerary Poi) (response : MultiCityItineraryResponse) : Prop where
  assigned : List.Forall₂ (fun city info => info.name = city.name ∧
    info.assignedDays = scheduledDays itinerary.dailySchedules city)
      itinerary.cities response.cities
  nights : request.includeAccommodations = true → ∀ city ∈ itinerary.cities,
    ((response.accommodations.filter fun acc => acc.city = city.name).map
      AccommodationInfo.nights).sum = ((scheduledDays itinerary.dailySchedules city - 1 : ℕ) : ℤ)

/-- No place of the itinerary carries the name of a city. -/
theorem daysNamed_eq_zero {places : List Place} {dailySchedules : OrderedMap ℤ (List Poi)}
    (hplaces : ∀ dayPois ∈ dailySchedules.values, dayPois ⊆ places.map poiData)
    (cityName : String) : daysNamed dailySchedules cityName = 0 := by
  apply List.countP_eq_zero.mpr
  intro dayPois hdayPois
  rw [List.any_eq_true]
  rintro ⟨poi, hpoi, hcity⟩
  obtain ⟨place, -, rfl⟩ := List.mem_map.mp (hplaces dayPois hdayPois hpoi)
  simp [poiData] at hcity

/-- A city that has no days named after it is planned no hotel. -/
theorem planMultiCityAccommodations_eq_nil
    (findHotelsByCityName : String → List HotelRecommendation) (cityNames : List String)
    {daysPerCity : OrderedMap String ℤ}
    (hdays : ∀ name ∈ cityNames, (daysPerCity.get? name).getD 1 ≤ 1) :
    planMultiCityAccommodations findHotelsByCityName cityNames daysPerCity = [] := by
  have hstay : cityNames.foldl (planCity findHotelsByCityName daysPerCity) ([], 1) = ([], 1) := by
    induction cityNames with
    | nil => rfl
    | cons name rest ih =>
        have hone := hdays name List.mem_cons_self
        rw [List.foldl_cons]
        simp only [planCity, hone, if_true]
        exact ih fun other hother => hdays other (List.mem_cons_of_mem _ hother)
  unfold planMultiCityAccommodations
  rw [hstay]

/-- Every response gives every city no days, and no city an accommodation. -/
theorem respond_reports_nothing {env : MultiCityEnv} {request : MultiCityOptimizationRequest}
    {itinerary : MultiCityItinerary Poi}
    (hitinerary : itineraryOf env request = .ok itinerary) :
    (∀ info ∈ (respond env request itinerary).cities, info.assignedDays = 0) ∧
      (respond env request itinerary).accommodations = [] := by
  have hscheduled := Simple.isScheduled_optimizeMultiCityItinerary request.durationDays_pos
    hitinerary
  have hnamed := daysNamed_eq_zero hscheduled.places
  constructor
  · intro info hinfo
    obtain ⟨city, -, rfl⟩ := List.mem_map.mp hinfo
    exact hnamed city.name
  · have hplan : planMultiCityAccommodations env.findHotelsByCityName
        (itinerary.cities.map City.name) (daysForHotels itinerary) = [] := by
      apply planMultiCityAccommodations_eq_nil
      intro name hname
      cases hget : (daysForHotels itinerary).get? name with
      | none => exact le_rfl
      | some cityDays =>
          rcases OrderedMap.mem_entries_setAll (OrderedMap.mem_of_get?_eq_some hget) with
            hnone | hentry
          · cases hnone
          · obtain ⟨city, -, heq⟩ := List.mem_map.mp hentry
            obtain ⟨-, rfl⟩ := Prod.mk.inj heq
            rw [hnamed]
            exact le_rfl
    simp only [respond, hplan, ite_self, List.map_nil]

/-- What is responded for an itinerary does not report its days: some city has places
on a day, and is given none. -/
theorem not_reportsDays_respond {env : MultiCityEnv} {request : MultiCityOptimizationRequest}
    {itinerary : MultiCityItinerary Poi}
    (hitinerary : itineraryOf env request = .ok itinerary) :
    ¬ ReportsDays request itinerary (respond env request itinerary) := by
  rintro ⟨hassigned, -⟩
  obtain ⟨city, hcity, dayPois, hdayPois, poi, hpoi, hmem⟩ :=
    (Simple.isScheduled_optimizeMultiCityItinerary request.durationDays_pos hitinerary).scheduled
  have hpos : 0 < scheduledDays itinerary.dailySchedules city := by
    apply List.countP_pos_iff.mpr
    refine ⟨dayPois, hdayPois, List.any_eq_true.mpr ⟨poi, hpoi, ?_⟩⟩
    simpa using hmem
  have hdays : (cityInfo itinerary.dailySchedules city).assignedDays =
      scheduledDays itinerary.dailySchedules city := by
    change List.Forall₂ _ itinerary.cities
      (itinerary.cities.map (cityInfo itinerary.dailySchedules)) at hassigned
    rw [List.forall₂_map_right_iff, List.forall₂_same] at hassigned
    exact (hassigned city hcity).2
  have hzero := (respond_reports_nothing hitinerary).1 (cityInfo itinerary.dailySchedules city)
    (List.mem_map_of_mem hcity)
  omega

/-- A request with a place gets a response. -/
theorem exists_itinerary (env : MultiCityEnv) {request : MultiCityOptimizationRequest}
    (hplaces : request.places ≠ []) :
    ∃ itinerary, itineraryOf env request = .ok itinerary := by
  have hpois : request.places.map poiData ≠ [] := by simpa using hplaces
  exact Simple.exists_optimizeMultiCityItinerary env.clustering env.share hpois
    request.durationDays request.startCity

theorem optimizeMultiCityItinerary_eq {env : MultiCityEnv}
    {request : MultiCityOptimizationRequest} {itinerary : MultiCityItinerary Poi}
    (hitinerary : itineraryOf env request = .ok itinerary) :
    optimizeMultiCityItinerary env request = .ok (respond env request itinerary) := by
  simp only [optimizeMultiCityItinerary, hitinerary]

/-- No response reports the days of its cities. -/
theorem optimizeMultiCityItinerary_never_reports (env : MultiCityEnv)
    (request : MultiCityOptimizationRequest) (itinerary : MultiCityItinerary Poi)
    (response : MultiCityItineraryResponse) (hitinerary : itineraryOf env request = .ok itinerary)
    (hresponse : optimizeMultiCityItinerary env request = .ok response) :
    ¬ ReportsDays request itinerary response := by
  rw [optimizeMultiCityItinerary_eq hitinerary] at hresponse
  cases hresponse
  exact not_reportsDays_respond hitinerary

/-- A request for two days in one place, and answers of the libraries for it. -/
def eiffelRequest : MultiCityOptimizationRequest where
  places := [⟨"Eiffel Tower", mkRat 488584 10000, mkRat 22945 10000, none⟩]
  durationDays := 2
  durationDays_pos := by decide
  startCity := none
  includeAccommodations := true

def eiffelEnv : MultiCityEnv where
  clustering :=
    { latlngToCell := fun _ _ => "851fb467fffffff"
      dbscanLabels := fun coordinates => coordinates.map fun _ => -1
      geodesicKm := fun _ _ => 0
      confidence := fun _ => mkRat 725 1000 }
  share := exactShare
  findHotelsByCityName := fun _ => []

theorem optimizeMultiCityItinerary_never_reports_eiffel :
    ∃ itinerary response, optimizeMultiCityItinerary eiffelEnv eiffelRequest = .ok response ∧
      ¬ ReportsDays eiffelRequest itinerary response := by
  have hplaces : eiffelRequest.places ≠ [] := List.cons_ne_nil _ _
  obtain ⟨itinerary, hitinerary⟩ := exists_itinerary eiffelEnv hplaces
  have hresponse := optimizeMultiCityItinerary_eq hitinerary
  exact ⟨itinerary, _, hresponse,
    optimizeMultiCityItinerary_never_reports eiffelEnv eiffelRequest itinerary _ hitinerary
      hresponse⟩

/-- The Eiffel Tower is visited on one of the two days, and its city is given none. -/
theorem optimizeMultiCityItinerary_reports_no_eiffel :
    ¬ ∀ itinerary response, itineraryOf eiffelEnv eiffelRequest = .ok itinerary →
      optimizeMultiCityItinerary eiffelEnv eiffelRequest = .ok response →
        ReportsDays eiffelRequest itinerary response := by
  intro hreports
  have hplaces : eiffelRequest.places ≠ [] := List.cons_ne_nil _ _
  obtain ⟨itinerary, hitinerary⟩ := exists_itinerary eiffelEnv hplaces
  exact not_reportsDays_respond hitinerary
    (hreports itinerary _ hitinerary (optimizeMultiCityItinerary_eq hitinerary))

end Goveling.Api.MultiCity
