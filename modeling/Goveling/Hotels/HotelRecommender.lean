/-
# Hotels near the places of a trip

A recommender takes its candidates from its own list if the latitude of the places is that
of a city in it, and from Google or from its imagination otherwise. It scores them by their
distances and ratings, sorts them by the score and returns the first ones. The longitude of
the places is not asked for when the list is chosen.
-/

import Goveling.Hotels.HotelDatabase
import Goveling.Places.GooglePlaces
import Goveling.Routing.HybridRoutingService
import Mathlib.Data.Prod.Lex

namespace Goveling.Hotels

open Goveling.Python Goveling.Places
open Goveling.Routing (roundDigits)

/-- Google, and the functions of `math`. -/
structure HotelLibrary where
  google : PlacesEnv
  radians : ℚ → ℚ
  sin : ℚ → ℚ
  cos : ℚ → ℚ
  sqrt : ℚ → ℚ
  atan2 : ℚ → ℚ → ℚ

/-- The keys of a place that are read. -/
structure HotelPlace where
  lat : ℚ
  lon : ℚ
  priority : Option PyVal := none

/-- `place.get('priority', 5)`. -/
def HotelPlace.weight (place : HotelPlace) : PyVal := place.priority.getD (.int 5)

/-! ## Arithmetic -/

/-- `factor * value` for a floating point factor. -/
def scaled (factor : ℚ) (value : PyVal) : Except PyError ℚ :=
  match value.number?, value with
  | some number, _ => .ok (factor * number)
  | none, .str _ | none, .list _ =>
      .error (.typeError "can't multiply sequence by non-int of type 'float'")
  | none, other => .error (.typeError
      ("unsupported operand type(s) for *: 'float' and '" ++ other.typeName ++ "'"))

/-- `value / divisor` for a divisor that is not zero. -/
def overNumber (value : PyVal) (divisor : ℚ) (divisorType : String) : Except PyError ℚ :=
  match value.number? with
  | some number => .ok (number / divisor)
  | none => .error (.typeError ("unsupported operand type(s) for /: '" ++ value.typeName ++
      "' and '" ++ divisorType ++ "'"))

/-- `value >= bound`. -/
def atLeast (value : PyVal) (bound : ℚ) : Except PyError Bool :=
  match value.number? with
  | some number => .ok (bound ≤ number)
  | none => .error (.typeError
      ("'>=' not supported between instances of '" ++ value.typeName ++ "' and 'float'"))

/-- `value <= bound`. -/
def atMost (value : PyVal) (bound : ℚ) : Except PyError Bool :=
  match value.number? with
  | some number => .ok (number ≤ bound)
  | none => .error (.typeError
      ("'<=' not supported between instances of '" ++ value.typeName ++ "' and 'int'"))

/-- `haversine_km`. -/
def haversineKm (library : HotelLibrary) (lat₁ lon₁ : PyVal) (lat₂ lon₂ : ℚ) :
    Except PyError ℚ := do
  let lat ← lat₁.real
  let deltaLat := library.radians (lat₂ - lat)
  let deltaLon := library.radians (← (PyVal.float lon₂).minus lon₁)
  let a := library.sin (deltaLat / 2) ^ 2 +
    library.cos (library.radians lat) * library.cos (library.radians lat₂) *
      library.sin (deltaLon / 2) ^ 2
  let c := 2 * library.atan2 (library.sqrt a) (library.sqrt (1 - a))
  return 6371 * c

/-- The totals of the loop of `calculate_geographic_centroid`. -/
structure CentroidTotals where
  lat : ℚ := 0
  lon : ℚ := 0
  weight : ℚ := 0

/-- The body of the loop over the places. -/
def addToCentroid (totals : CentroidTotals) (place : HotelPlace) :
    Except PyError CentroidTotals := do
  let lat ← scaled place.lat place.weight
  let lon ← scaled place.lon place.weight
  return {
    lat := totals.lat + lat
    lon := totals.lon + lon
    weight := totals.weight + (← place.weight.real) }

/-- `calculate_geographic_centroid`. -/
def calculateGeographicCentroid (places : List HotelPlace) : Except PyError (ℚ × ℚ) :=
  if places.isEmpty then .ok (-33.4489, -70.6693)
  else do
    let totals ← places.foldlM addToCentroid {}
    if totals.weight = 0 then throw (.zeroDivisionError "float division by zero")
    return (totals.lat / totals.weight, totals.lon / totals.weight)

/-! ## Candidates -/

/-- `price_preference == "any"` or the price range of a hotel is the preferred one. -/
def pricePasses (pricePreference : Option String) (priceRange : String) : Bool :=
  pricePreference = some "any" || pricePreference = some priceRange

/-- `_map_google_price_to_range`. -/
def mapGooglePriceToRange (priceLevel : PyVal) : Except PyError String := do
  if ← atMost priceLevel 1 then return "low"
  if ← atMost priceLevel 2 then return "medium"
  return "high"

/-- `value[:stop]`. -/
def slicedTo (value : PyVal) (stop : ℕ) : Except PyError (List PyVal) :=
  match value with
  | .list items => .ok (items.take stop)
  | .str text => .ok ((text.toList.take stop).map fun c => .str c.toString)
  | .dict _ => .error (.typeError "unhashable type: 'slice'")
  | other => .error (.typeError ("'" ++ other.typeName ++ "' object is not subscriptable"))

/-- The hotel that Google lists, if its price is right. -/
def readGoogleHotel (centroid : ℚ × ℚ) (pricePreference : Option String) (place : PyVal) :
    Except PyError (Option HotelOffer) := do
  let location ← (← place.get "geometry" (.dict [])).get "location" (.dict [])
  let lat ← location.get "lat" (.float centroid.1)
  let lon ← location.get "lng" (.float centroid.2)
  let priceRange ← mapGooglePriceToRange (← place.get "price_level" (.int 2))
  let name ← place.get "name" (.str "Hotel")
  if !pricePasses pricePreference priceRange then return none
  return some {
    name := name
    lat := lat
    lon := lon
    address := ← place.get "vicinity" (.str "")
    rating := ← place.get "rating" (.float 4)
    priceRange := priceRange }

/-- `places_data and places_data.get('results')`, as a truth value. -/
def hasResults : Option PyVal → Except PyError Bool
  | none => .ok false
  | some placesData => do
      if !placesData.truthy then return false
      return (← placesData.get "results" .none).truthy

/-- The body of `_search_hotels_with_google_places`. -/
def readGoogleHotels (library : HotelLibrary) (centroid : ℚ × ℚ)
    (pricePreference : Option String) : Except PyError (List HotelOffer) := do
  let lodging := googleNearbySearch library.google centroid.1 centroid.2 5000 "lodging"
  let placesData :=
    if ← hasResults lodging then lodging
    else googleNearbySearch library.google centroid.1 centroid.2 8000 "accommodation"
  if !(← hasResults placesData) then return []
  let results ← (placesData.getD .none).item "results"
  let hotels ← (← slicedTo results 5).mapM (readGoogleHotel centroid pricePreference)
  return hotels.reduceOption

/-- `_search_hotels_with_google_places`. -/
def searchHotelsWithGooglePlaces (library : HotelLibrary) (centroid : ℚ × ℚ)
    (pricePreference : Option String) : List HotelOffer :=
  (readGoogleHotels library centroid pricePreference).toOption.getD []

/-- `_infer_international_city`: the first of the closest cities. -/
def inferInternationalCity (library : HotelLibrary) (lat lon : ℚ) : String :=
  let closest := internationalCities.foldl
    (fun (closest : Option ℚ × String) (city : ℚ × ℚ × String) =>
      let distance := library.sqrt ((lat - city.1) ^ 2 + (lon - city.2.1) ^ 2)
      if closest.1.all fun minDistance => distance < minDistance then
        (some distance, city.2.2)
      else closest)
    (none, "Ciudad Internacional")
  closest.2

/-- `round(4.2 + (i * 0.05), 1)` in floating point, for the eleven hotel types of a city. -/
def syntheticRating (i : ℕ) : ℚ :=
  [4.2, 4.2, 4.3, 4.4, 4.4, 4.5, 4.5, 4.5, 4.6, 4.7, 4.7].getD i 0

/-- The hotel that is made up at a place of the list of types. -/
def syntheticHotel (centroid : ℚ × ℚ) (cityName : String) (hotelType : String × String)
    (i : ℕ) : HotelOffer where
  name := .str hotelType.1
  lat := .float (if i = 0 then centroid.1 else centroid.1 + i * 0.002)
  lon := .float (if i = 0 then centroid.2 else centroid.2 + i * 0.002)
  address := .str (if i = 0 then "Centro de " ++ cityName else "Cerca del centro de " ++ cityName)
  rating := .float (syntheticRating i)
  priceRange := hotelType.2

/-- `_generate_synthetic_hotels`: the one in the centroid comes first, the others by rating. -/
def generateSyntheticHotels (library : HotelLibrary) (centroid : ℚ × ℚ)
    (pricePreference : Option String) : List HotelOffer :=
  let cityName := inferInternationalCity library centroid.1 centroid.2
  let hotelTypes := (getRealisticHotelsForCity cityName ++ genericHotelTypes).zipIdx.filter
    fun hotelType => pricePasses pricePreference hotelType.1.2
  let hotels := hotelTypes.map fun hotelType =>
    (hotelType.2, syntheticHotel centroid cityName hotelType.1 hotelType.2)
  let sorted := sortedBy (fun hotel : ℕ × HotelOffer =>
    toLex (decide (hotel.1 ≠ 0), (hotel.2.rating.number?).getD 0)) hotels
  (sorted.take 3).map Prod.snd

/-- `available_hotels`. -/
def availableHotels (library : HotelLibrary) (centroid : ℚ × ℚ)
    (pricePreference : Option String) : List HotelOffer :=
  match (determineCity centroid.1).bind fun city => hotelDatabase.lookup city with
  | some hotels => hotels.filter fun hotel => pricePasses pricePreference hotel.priceRange
  | none =>
      match searchHotelsWithGooglePlaces library centroid pricePreference with
      | [] => generateSyntheticHotels library centroid pricePreference
      | googleHotels => googleHotels

/-! ## Recommendations -/

/-- The fields of a `HotelRecommendation` that are set. -/
structure HotelRecommendation where
  name : PyVal
  lat : PyVal
  lon : PyVal
  address : PyVal
  rating : PyVal
  priceRange : String
  distanceToCentroidKm : ℚ
  avgDistanceToPlacesKm : ℚ
  convenienceScore : ℚ
  reasoning : String

/-- `calculate_convenience_score`. -/
def calculateConvenienceScore (library : HotelLibrary) (hotel : HotelOffer)
    (places : List HotelPlace) (centroid : ℚ × ℚ) : Except PyError ℚ := do
  let distanceToCentroid ← haversineKm library hotel.lat hotel.lon centroid.1 centroid.2
  let centroidScore := max 0 (1 - distanceToCentroid / 10)
  let distances ← places.mapM fun place => do
    let distance ← haversineKm library hotel.lat hotel.lon place.lat place.lon
    return distance * (← overNumber place.weight 10 "int")
  let avgDistance := if places.isEmpty then 0 else distances.sum / places.length
  let distanceScore := max 0 (1 - avgDistance / 8)
  let ratingScore ← overNumber hotel.rating 5 "float"
  let centroBonus : ℚ :=
    if distanceToCentroid < 2 then 0.2 else if distanceToCentroid < 5 then 0.1 else 0
  return min 1 (centroidScore * 0.3 + distanceScore * 0.4 + ratingScore * 0.2 + centroBonus * 0.1)

/-- `reasoning`. -/
def reasoningFor (hotel : HotelOffer) (distanceToCentroid avgDistanceToPlaces : ℚ) :
    Except PyError String := do
  let near :=
    if distanceToCentroid < 2 then ["Muy cerca del centro de tus actividades"]
    else if distanceToCentroid < 5 then ["Ubicación conveniente para tus planes"]
    else []
  let quality ← do
    if ← atLeast hotel.rating 4.5 then pure ["Hotel de alta calidad"]
    else if ← atLeast hotel.rating 4 then pure ["Buena calidad y servicio"]
    else pure []
  let access := if avgDistanceToPlaces < 3 then ["Fácil acceso a tus destinos"] else []
  let reasoningParts := near ++ quality ++ access
  return if reasoningParts.isEmpty then "Opción disponible en la zona"
    else " • ".intercalate reasoningParts

/-- The body of the loop over the candidates. -/
def recommendationFor (library : HotelLibrary) (places : List HotelPlace) (centroid : ℚ × ℚ)
    (hotel : HotelOffer) : Except PyError HotelRecommendation := do
  let distanceToCentroid ← haversineKm library hotel.lat hotel.lon centroid.1 centroid.2
  let distances ← places.mapM fun place =>
    haversineKm library hotel.lat hotel.lon place.lat place.lon
  let avgDistanceToPlaces := distances.sum / places.length
  let convenienceScore ← calculateConvenienceScore library hotel places centroid
  let reasoning ← reasoningFor hotel distanceToCentroid avgDistanceToPlaces
  return {
    name := hotel.name
    lat := hotel.lat
    lon := hotel.lon
    address := hotel.address
    rating := hotel.rating
    priceRange := hotel.priceRange
    distanceToCentroidKm := roundDigits 2 distanceToCentroid
    avgDistanceToPlacesKm := roundDigits 2 avgDistanceToPlaces
    convenienceScore := roundDigits 3 convenienceScore
    reasoning := reasoning }

/-- `items[:stop]`, where `stop` may be `None`. -/
def firstOf {α : Type} (stop : Option ℤ) (items : List α) : List α :=
  match stop with
  | some stop => upTo stop items
  | none => items

/-- What awaiting `recommend_hotels` gives. -/
def recommendHotels (library : HotelLibrary) (places : List HotelPlace)
    (maxRecommendations : Option ℤ) (pricePreference : Option String) :
    Except PyError (List HotelRecommendation) :=
  if places.isEmpty then .ok []
  else do
    let centroid ← calculateGeographicCentroid places
    let recommendations ← (availableHotels library centroid pricePreference).mapM
      (recommendationFor library places centroid)
    return firstOf maxRecommendations
      (sortedByDescending HotelRecommendation.convenienceScore recommendations)

/-! ## The list of hotels -/

/-- Every city that a latitude is taken for is in the list. -/
theorem hotelDatabase_of_determineCity {lat : ℚ} {city : String}
    (hcity : determineCity lat = some city) :
    ∃ hotels, hotelDatabase.lookup city = some hotels := by
  unfold determineCity at hcity
  split at hcity
  · cases hcity
    exact ⟨_, rfl⟩
  · split at hcity
    · cases hcity
      exact ⟨_, rfl⟩
    · split at hcity
      · cases hcity
        exact ⟨_, rfl⟩
      · cases hcity

/-- Once the latitude is that of a city, its hotels are the candidates wherever the longitude is. -/
theorem availableHotels_of_determineCity (library : HotelLibrary) {lat : ℚ} {city : String}
    (hcity : determineCity lat = some city) (lon : ℚ) (pricePreference : Option String) :
    ∃ hotels, hotelDatabase.lookup city = some hotels ∧
      availableHotels library (lat, lon) pricePreference =
        hotels.filter fun hotel => pricePasses pricePreference hotel.priceRange := by
  obtain ⟨hotels, hhotels⟩ := hotelDatabase_of_determineCity hcity
  refine ⟨hotels, hhotels, ?_⟩
  unfold availableHotels
  rw [hcity, Option.bind_some, hhotels]

-- Buenos Aires lies in the latitudes of Santiago.
example : determineCity (-34.6118) = some "santiago" := by decide +kernel

/-! ## The ranking -/

/-- Hotels in the order of their scores, the best first. -/
def Ranked (recommendations : List HotelRecommendation) : Prop :=
  recommendations.Pairwise fun better other => other.convenienceScore ≤ better.convenienceScore

theorem firstOf_sublist {α : Type} (stop : Option ℤ) (items : List α) :
    (firstOf stop items).Sublist items := by
  cases stop with
  | none => exact List.Sublist.refl _
  | some stop =>
      show (upTo stop items).Sublist items
      unfold upTo
      split <;> exact List.take_sublist _ _

/-- The hotels are ranked, and no more than were asked for. -/
theorem recommendHotels_ranked {library : HotelLibrary} {places : List HotelPlace}
    {maxRecommendations : Option ℤ} {pricePreference : Option String}
    {recommendations : List HotelRecommendation}
    (hhotels : recommendHotels library places maxRecommendations pricePreference =
      .ok recommendations) :
    Ranked recommendations ∧
      ∀ stop, maxRecommendations = some stop → 0 ≤ stop → (recommendations.length : ℤ) ≤ stop := by
  unfold recommendHotels at hhotels
  split at hhotels
  · cases hhotels
    exact ⟨List.Pairwise.nil, fun stop _ hstop => hstop⟩
  · obtain ⟨centroid, -, hhotels⟩ := exists_of_bind_eq_ok hhotels
    obtain ⟨scored, -, hhotels⟩ := exists_of_bind_eq_ok hhotels
    cases hhotels
    constructor
    · exact (pairwise_sortedByDescending _ scored).sublist (firstOf_sublist _ _)
    · rintro stop rfl hstop
      exact length_upTo_le hstop _

end Goveling.Hotels
