/-
# The endpoint that recommends hotels

The recommender is asynchronous. The endpoint calls it and does not wait for it: what it
holds is a coroutine, which is true as a condition and cannot be iterated. The other callers
of the recommender await it.
-/

import Goveling.Hotels.HotelRecommender

namespace Goveling.Api

open Goveling.Hotels Goveling.Places Goveling.Python
open Goveling.Routing (roundDigits)

/-! ## Calls that are not awaited -/

/-- What the call of an asynchronous method gives: nothing has run, and an await would give
this. -/
structure Coroutine (α : Type) where
  awaited : Except PyError α

namespace Coroutine

variable {α β : Type}

/-- `bool(coroutine)`. -/
def truthy (_ : Coroutine α) : Bool := true

/-- `for item in coroutine`. -/
def iterate (_ : Coroutine (List β)) : Except PyError (List β) :=
  .error (.typeError "'coroutine' object is not iterable")

/-- `coroutine[index]`. -/
def getItem (_ : Coroutine (List β)) (_index : ℕ) : Except PyError β :=
  .error (.typeError "'coroutine' object is not subscriptable")

end Coroutine

/-! ## The request -/

/-- The fields of a requested `Place` that are read. -/
structure RequestedPlace where
  lat : ℚ
  lon : ℚ
  priority : Option ℤ := some 5
  lat_bounds : -90 ≤ lat ∧ lat ≤ 90
  lon_bounds : -180 ≤ lon ∧ lon ≤ 180
  priority_bounds : ∀ level ∈ priority, 1 ≤ level ∧ level ≤ 10

/-- `HotelRecommendationRequest`. -/
structure HotelRecommendationRequest where
  places : List RequestedPlace
  maxRecommendations : Option ℤ := some 5
  pricePreference : Option String := some "any"
  max_bounds : ∀ stop ∈ maxRecommendations, 1 ≤ stop ∧ stop ≤ 20

/-- The entry of `places_data` for a place. -/
def placeData (place : RequestedPlace) : HotelPlace where
  lat := place.lat
  lon := place.lon
  priority := some (match place.priority with
    | some level => .int level
    | none => .none)

/-! ## The answer -/

/-- The entries of `analysis`. -/
structure HotelAnalysis where
  placesAnalyzed : ℕ
  latitude : ℚ
  longitude : ℚ

/-- The entries of `performance`. -/
structure HotelPerformance where
  processingTimeS : ℚ
  generatedAt : String

/-- A hotel of the answer. -/
structure FormattedHotel where
  name : PyVal
  lat : PyVal
  lon : PyVal
  address : PyVal
  rating : PyVal
  priceRange : String
  convenienceScore : ℚ
  type : String
  distanceToCentroidKm : ℚ
  avgDistanceToPlacesKm : ℚ
  analysis : HotelAnalysis
  performance : Option HotelPerformance

/-- `formatted_hotel`. -/
def formattedHotel (placesAnalyzed : ℕ) (centroid : ℚ × ℚ) (hotel : HotelRecommendation) :
    FormattedHotel where
  name := hotel.name
  lat := hotel.lat
  lon := hotel.lon
  address := hotel.address
  rating := hotel.rating
  priceRange := hotel.priceRange
  convenienceScore := hotel.convenienceScore
  type := "hotel"
  distanceToCentroidKm := hotel.distanceToCentroidKm
  avgDistanceToPlacesKm := hotel.avgDistanceToPlacesKm
  analysis := {
    placesAnalyzed := placesAnalyzed
    latitude := roundDigits 6 centroid.1
    longitude := roundDigits 6 centroid.2 }
  performance := none

/-- The clocks: the seconds that a request takes, and when each hotel is stamped. -/
structure EndpointClock where
  duration : ℚ
  now : ℕ → String

/-- The loop that adds `performance` to the hotels. -/
def addPerformance (clock : EndpointClock) (hotels : List FormattedHotel) : List FormattedHotel :=
  hotels.mapIdx fun i hotel => { hotel with
    performance := some {
      processingTimeS := roundDigits 2 clock.duration
      generatedAt := clock.now i } }

/-- The body of `recommend_hotels_endpoint`. -/
def recommendedHotels (library : HotelLibrary) (clock : EndpointClock)
    (request : HotelRecommendationRequest) : Except PyError (List FormattedHotel) := do
  let placesData := request.places.map placeData
  let recommendations : Coroutine (List HotelRecommendation) :=
    ⟨recommendHotels library placesData request.maxRecommendations request.pricePreference⟩
  let formattedHotels ←
    if recommendations.truthy then do
      let centroid ← calculateGeographicCentroid placesData
      let hotels ← recommendations.iterate
      pure (hotels.map (formattedHotel placesData.length centroid))
    else pure []
  -- The name of the best hotel goes into the log.
  if recommendations.truthy then
    let _best ← recommendations.getItem 0
  return addPerformance clock formattedHotels

/-- `recommend_hotels_endpoint`. -/
def recommendHotelsEndpoint (library : HotelLibrary) (clock : EndpointClock)
    (request : HotelRecommendationRequest) : Except HTTPException (List FormattedHotel) :=
  match recommendedHotels library clock request with
  | .ok hotels => .ok hotels
  | .error e => .error ⟨500, "Error generating hotel recommendations: " ++ e.text⟩

/-! ## What the endpoint promises -/

/-- A hotel of the list of a city. -/
def ListedIn (city : String) (hotel : HotelRecommendation) : Prop :=
  ∃ offers, hotelDatabase.lookup city = some offers ∧
    ∃ offer ∈ offers, hotel.name = offer.name ∧ hotel.address = offer.address

section Promises

variable (library : HotelLibrary) (clock : EndpointClock)
variable (near : List RequestedPlace → String → Prop) (request : HotelRecommendationRequest)

/-- What awaiting the recommender gives for a request. -/
def awaitedRanking : Except PyError (List HotelRecommendation) :=
  recommendHotels library (request.places.map placeData) request.maxRecommendations
    request.pricePreference

/-- The hotels go from the best score down and are as few as asked for, those of the list of a
city are offered only to places near it, and the endpoint answers with these hotels. -/
structure ServesRanking (recommendations : List HotelRecommendation) : Prop where
  ranked : Ranked recommendations
  limited : ∀ stop ∈ request.maxRecommendations, (recommendations.length : ℤ) ≤ stop
  nearby : ∀ city, (∃ hotel ∈ recommendations, ListedIn city hotel) → near request.places city
  answered : ∃ centroid,
    calculateGeographicCentroid (request.places.map placeData) = .ok centroid ∧
      recommendHotelsEndpoint library clock request = .ok (addPerformance clock
        (recommendations.map (formattedHotel request.places.length centroid)))

/-- The recommender has a ranking for the request, and the endpoint serves it. -/
def HotelPromises : Prop :=
  ∃ recommendations, awaitedRanking library request = .ok recommendations ∧
    ServesRanking library clock near request recommendations

end Promises

variable {library : HotelLibrary} {clock : EndpointClock} {request : HotelRecommendationRequest}

/-- The recommender itself keeps the order and the number. -/
theorem ranked_of_awaitedRanking {recommendations : List HotelRecommendation}
    (hawaited : awaitedRanking library request = .ok recommendations) :
    Ranked recommendations ∧
      ∀ stop ∈ request.maxRecommendations, (recommendations.length : ℤ) ≤ stop := by
  obtain ⟨hranked, hlimited⟩ := recommendHotels_ranked hawaited
  refine ⟨hranked, fun stop hstop => hlimited stop hstop ?_⟩
  have hbounds := (request.max_bounds stop hstop).1
  omega

/-! ## The centroid of a request -/

/-- The weight of a place with a priority is added to the totals. -/
theorem addToCentroid_placeData (totals : CentroidTotals) {place : RequestedPlace} {level : ℤ}
    (hlevel : place.priority = some level) :
    addToCentroid totals (placeData place) = .ok {
      lat := totals.lat + place.lat * level
      lon := totals.lon + place.lon * level
      weight := totals.weight + level } := by
  unfold addToCentroid placeData HotelPlace.weight
  rw [hlevel]
  rfl

/-- Priorities are positive, so that a list of places with priorities has a centroid. -/
theorem weight_of_foldlM_addToCentroid {places : List RequestedPlace}
    (hlevels : ∀ place ∈ places, place.priority ≠ none) (totals : CentroidTotals) :
    ∃ after, (places.map placeData).foldlM addToCentroid totals = .ok after ∧
      totals.weight + places.length ≤ after.weight := by
  induction places generalizing totals with
  | nil => exact ⟨totals, rfl, by simp⟩
  | cons place rest ih =>
      obtain ⟨level, hlevel⟩ := Option.ne_none_iff_exists'.mp (hlevels place List.mem_cons_self)
      have hone : (1 : ℚ) ≤ level := by exact_mod_cast (place.priority_bounds level hlevel).1
      obtain ⟨after, hafter, hweight⟩ :=
        ih (fun other hother => hlevels other (List.mem_cons_of_mem place hother)) {
          lat := totals.lat + place.lat * level
          lon := totals.lon + place.lon * level
          weight := totals.weight + level }
      refine ⟨after, ?_, ?_⟩
      · rw [List.map_cons, List.foldlM_cons, addToCentroid_placeData totals hlevel]
        exact hafter
      · rw [List.length_cons]
        push_cast
        dsimp only at hweight
        linarith

theorem exists_calculateGeographicCentroid {places : List RequestedPlace}
    (hlevels : ∀ place ∈ places, place.priority ≠ none) :
    ∃ centroid, calculateGeographicCentroid (places.map placeData) = .ok centroid := by
  unfold calculateGeographicCentroid
  cases places with
  | nil => exact ⟨_, rfl⟩
  | cons place rest =>
      obtain ⟨after, hafter, hweight⟩ := weight_of_foldlM_addToCentroid hlevels {}
      have hpositive : after.weight ≠ 0 := by
        rw [List.length_cons] at hweight
        push_cast at hweight
        have hrest : (0 : ℚ) ≤ rest.length := Nat.cast_nonneg _
        linarith
      refine ⟨(after.lat / after.weight, after.lon / after.weight), ?_⟩
      rw [List.map_cons, List.isEmpty_cons, if_neg Bool.false_ne_true, ← List.map_cons, hafter]
      show (if after.weight = 0 then _ else _) = _
      rw [if_neg hpositive]
      rfl

/-! ## No request is answered -/

/-- The body comes as far as the loop over the coroutine. -/
theorem recommendedHotels_eq (library : HotelLibrary) (clock : EndpointClock)
    (request : HotelRecommendationRequest) :
    recommendedHotels library clock request =
      calculateGeographicCentroid (request.places.map placeData) >>= fun _ =>
        .error (.typeError "'coroutine' object is not iterable") := by
  unfold recommendedHotels
  simp only [Coroutine.truthy, if_true]
  cases calculateGeographicCentroid (request.places.map placeData) with
  | error e => rfl
  | ok centroid => rfl

/-- A request whose places have priorities fails over the coroutine. -/
theorem recommendHotelsEndpoint_coroutine (library : HotelLibrary) (clock : EndpointClock)
    (hlevels : ∀ place ∈ request.places, place.priority ≠ none) :
    recommendHotelsEndpoint library clock request = .error ⟨500,
      "Error generating hotel recommendations: 'coroutine' object is not iterable"⟩ := by
  obtain ⟨centroid, hcentroid⟩ := exists_calculateGeographicCentroid hlevels
  unfold recommendHotelsEndpoint
  rw [recommendedHotels_eq, hcentroid]
  rfl

/-- Every request fails with status 500. -/
theorem recommendHotelsEndpoint_error (library : HotelLibrary) (clock : EndpointClock)
    (request : HotelRecommendationRequest) :
    ∃ detail, recommendHotelsEndpoint library clock request = .error ⟨500, detail⟩ := by
  unfold recommendHotelsEndpoint
  rw [recommendedHotels_eq]
  cases calculateGeographicCentroid (request.places.map placeData) with
  | error e => exact ⟨_, rfl⟩
  | ok centroid => exact ⟨_, rfl⟩

/-- The endpoint serves the ranking of no request. -/
theorem not_hotelPromises (library : HotelLibrary) (clock : EndpointClock)
    (near : List RequestedPlace → String → Prop) (request : HotelRecommendationRequest) :
    ¬ HotelPromises library clock near request := by
  rintro ⟨recommendations, -, hserves⟩
  obtain ⟨centroid, -, hanswered⟩ := hserves.answered
  obtain ⟨detail, hdetail⟩ := recommendHotelsEndpoint_error library clock request
  rw [hdetail] at hanswered
  cases hanswered

/-- A place in Buenos Aires, with the priority that places have by default. -/
def buenosAires : HotelRecommendationRequest where
  places := [{
    lat := -34.6118
    lon := -58.3960
    lat_bounds := by norm_num
    lon_bounds := by norm_num
    priority_bounds := by simp }]
  max_bounds := by simp

/-- A library for short distances. -/
def flatLibrary : HotelLibrary where
  google := cafesEnv
  radians degrees := degrees * (355 / 113) / 180
  sin x := x
  cos _ := 1
  sqrt x := x
  atan2 y _ := y

/-- However near is meant, the ranking for the place in Buenos Aires is not served. -/
theorem not_hotelPromises_buenosAires :
    ¬ ∀ library clock near request, HotelPromises library clock near request := by
  intro hpromises
  obtain ⟨recommendations, -, hserves⟩ :=
    hpromises flatLibrary ⟨1, fun _ => ""⟩ (fun _ _ => True) buenosAires
  obtain ⟨centroid, -, hanswered⟩ := hserves.answered
  have hlevels : ∀ place ∈ buenosAires.places, place.priority ≠ none := by
    simp [buenosAires]
  rw [recommendHotelsEndpoint_coroutine flatLibrary _ hlevels] at hanswered
  cases hanswered

end Goveling.Api
