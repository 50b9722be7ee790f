/-
# What the client of Google Maps makes of answers

Three functions of the client ask Google and make a value of the answers. A request that
fails shows in that value in three ways: a search for places leaves the places out or finds
none at all, the details of a place become those of any place, and the city of a point
becomes `None`.
-/

import Goveling.Places.GooglePlaces

namespace Goveling.Places

open Goveling.Math Goveling.Python

/-! ## Requests and answers -/

/-- A request for a URL with parameters. -/
structure MapsRequest where
  url : String
  params : PyDict

/-- A response: the status, and what its JSON text reads as. -/
structure HttpResponse where
  status : ℤ
  json : Except PyError PyVal

/-- What the requests of a session are answered with. -/
abbrev MapsApi := MapsRequest → Except PyError HttpResponse

/-- The key of the client, and the text of a value. -/
structure MapsEnv where
  apiKey : String
  textOf : PyVal → String

/-- `self.base_url`. -/
def mapsUrl : String := "https://maps.googleapis.com/maps/api"

/-- `value[:stop]`. -/
def sliceTo (value : PyVal) (stop : ℕ) : Except PyError PyVal :=
  match value with
  | .list items => .ok (.list (items.take stop))
  | .str text => .ok (.str (String.ofList (text.toList.take stop)))
  | .dict _ => .error (.typeError "unhashable type: 'slice'")
  | other => .error (.typeError ("'" ++ other.typeName ++ "' object is not subscriptable"))

/-- `value >= bound`. -/
def atLeast (value : PyVal) (bound : ℚ) : Except PyError Bool :=
  match value.number? with
  | some number => .ok (bound ≤ number)
  | none => .error (.typeError
      ("'>=' not supported between instances of '" ++ value.typeName ++ "' and 'float'"))

/-- `values[key] = value` for a key of any type, which the dictionary has as a text. -/
def setUnder (textOf : PyVal → String) (values : PyDict) (key value : PyVal) :
    Except PyError PyDict :=
  if key.hashable then .ok (PyDict.set values (textOf key) value)
  else .error (.typeError ("unhashable type: '" ++ key.typeName ++ "'"))

section Client

variable (env : MapsEnv) (ask : MapsApi)

/-- `f"{lat},{lon}"`. -/
def pointText (lat lon : ℚ) : String := env.textOf (.float lat) ++ "," ++ env.textOf (.float lon)

/-! ## Places nearby -/

/-- `photos` of a place: the reference of the first one and its URL. -/
def firstPhoto (place : PyVal) : Except PyError (PyVal × PyVal) := do
  if ← place.contains "photos" then
    let photos ← place.item "photos"
    if 0 < (← photos.len) then
      let photoRef ← (← photos.itemAt 0).get "photo_reference" .none
      if photoRef.truthy then
        return (photoRef, .str (mapsUrl ++ "/place/photo?photoreference=" ++ env.textOf photoRef ++
          "&sensor=false&maxheight=400&key=" ++ env.apiKey))
  return (.none, .str "")

/-- `opening_hours` of a place. -/
def openingHoursOf (place : PyVal) : Except PyError PyVal := do
  if ← place.contains "opening_hours" then
    let openingHours ← place.item "opening_hours"
    return .dict
      [("open_now", ← openingHours.get "open_now" (.bool true)),
        ("periods", ← openingHours.get "periods" (.list []))]
  return .dict []

/-- `place_info`. -/
def placeInfo (place : PyVal) : Except PyError PyVal := do
  let name ← place.get "name" (.str "Lugar sin nombre")
  let location ← (← place.item "geometry").item "location"
  let rating ← place.get "rating" (.float 4)
  let vicinity ← place.get "vicinity" (.str "")
  let address ← place.get "vicinity" (.str "Dirección no disponible")
  let (photoReference, photoUrl) ← firstPhoto env place
  return .dict
    [("name", name),
      ("lat", ← location.item "lat"),
      ("lon", ← location.item "lng"),
      ("rating", rating),
      ("user_ratings_total", ← place.get "user_ratings_total" (.int 0)),
      ("price_level", ← place.get "price_level" (.int 0)),
      ("types", ← place.get "types" (.list [])),
      ("place_id", ← place.get "place_id" (.str "")),
      ("vicinity", vicinity),
      ("address", address),
      ("photo_reference", photoReference),
      ("photo_url", photoUrl),
      ("opening_hours", ← openingHoursOf place),
      ("website", .str ""),
      ("phone", .str ""),
      ("description", .str ("Lugar encontrado en Google Places con " ++ env.textOf rating ++
        "⭐ de rating")),
      ("synthetic", .bool false),
      ("google_places_verified", .bool true)]

/-- The loop over the first places of a type. -/
def addPlaces (limit : ℤ) : List PyVal → List PyVal → Except PyError (List PyVal)
  | [], allPlaces => .ok allPlaces
  | place :: rest, allPlaces => do
      let found := allPlaces ++ [← placeInfo env place]
      if limit ≤ found.length then return found
      addPlaces limit rest found

/-- The request for the places of a type. -/
def nearbyRequest (lat lon : ℚ) (radiusM : ℤ) (placeType : String) : MapsRequest where
  url := mapsUrl ++ "/place/nearbysearch/json"
  params :=
    [("key", .str env.apiKey),
      ("location", .str (pointText env lat lon)),
      ("radius", .int (min radiusM 50000)),
      ("type", .str placeType),
      ("language", .str "es")]

/-- One turn of the loop over the types. -/
def addType (lat lon : ℚ) (radiusM limit : ℤ) (placeType : String) (allPlaces : List PyVal) :
    Except PyError (List PyVal) := do
  let response ← ask (nearbyRequest env lat lon radiusM placeType)
  if response.status ≠ 200 then return allPlaces
  let data ← response.json
  if !(← data.get "status" .none).isText "OK" then return allPlaces
  let places ← data.get "results" (.list [])
  addPlaces env limit (← (← sliceTo places 2).iterate) allPlaces

/-- The loop over the types. -/
def addTypes (lat lon : ℚ) (radiusM limit : ℤ) :
    List String → List PyVal → Except PyError (List PyVal)
  | [], allPlaces => .ok allPlaces
  | placeType :: rest, allPlaces => do
      let found ← addType env ask lat lon radiusM limit placeType allPlaces
      if limit ≤ found.length then return found
      addTypes lat lon radiusM limit rest found

/-- The body of `search_nearby_places`. -/
def searchNearbyPlaces (lat lon : ℚ) (types : List String) (radiusM limit : ℤ) : PyVal :=
  if env.apiKey = "" then .list []
  else
    match addTypes env ask lat lon radiusM limit types [] with
    | .ok allPlaces => .list (upTo limit allPlaces)
    | .error _ => .list []

/-! ## Details of a place -/

/-- `_generate_default_hours`. -/
def generateDefaultHours : PyVal :=
  let weekday : PyVal := .list [.str "09:00", .str "18:00"]
  let weekend : PyVal := .list [.str "10:00", .str "17:00"]
  .dict
    [("open_now", .bool true),
      ("periods", .list []),
      ("weekday_text", .list
        [.str "Lunes: 09:00–18:00", .str "Martes: 09:00–18:00", .str "Miércoles: 09:00–18:00",
          .str "Jueves: 09:00–18:00", .str "Viernes: 09:00–18:00", .str "Sábado: 10:00–17:00",
          .str "Domingo: 10:00–17:00"]),
      ("parsed_hours", .dict
        [("0", weekday), ("1", weekday), ("2", weekday), ("3", weekday), ("4", weekday),
          ("5", weekend), ("6", weekend)])]

/-- `f"{time[:2]}:{time[2:]}"`. -/
def hourText (time : PyVal) : Except PyError PyVal :=
  match time with
  | .str text =>
      .ok (.str (String.ofList (text.toList.take 2) ++ ":" ++ String.ofList (text.toList.drop 2)))
  | .list items =>
      .ok (.str (env.textOf (.list (items.take 2)) ++ ":" ++ env.textOf (.list (items.drop 2))))
  | other => sliceTo other 2

/-- The loop of `_parse_periods`. -/
def parsePeriodsFrom : List PyVal → PyDict → Except PyError PyDict
  | [], parsed => .ok parsed
  | period :: rest, parsed => do
      let openTime ← period.get "open" (.dict [])
      let closeTime ← period.get "close" (.dict [])
      if openTime.truthy && closeTime.truthy then
        let day ← openTime.get "day" (.int 0)
        let openHour ← hourText env (← openTime.get "time" (.str "0900"))
        let closeHour ← hourText env (← closeTime.get "time" (.str "1800"))
        parsePeriodsFrom rest (← setUnder env.textOf parsed day (.list [openHour, closeHour]))
      else parsePeriodsFrom rest parsed

/-- `_parse_periods`. -/
def parsePeriods (periods : PyVal) : Except PyError PyVal := do
  return .dict (← parsePeriodsFrom env (← periods.iterate) [])

/-- `_parse_opening_hours`. -/
def parseOpeningHours (hoursData : PyVal) : Except PyError PyVal := do
  if !hoursData.truthy then return generateDefaultHours
  let periods ← hoursData.get "periods" (.list [])
  let weekdayText ← hoursData.get "weekday_text" (.list [])
  return .dict
    [("open_now", ← hoursData.get "open_now" (.bool true)),
      ("periods", periods),
      ("weekday_text", weekdayText),
      ("parsed_hours", ← parsePeriods env periods)]

/-- `duration_mapping`. -/
def visitDurations : List (String × ℚ) :=
  [("museum", 2.5), ("park", 1.5), ("restaurant", 1.25), ("cafe", 0.75), ("shopping_mall", 2),
    ("church", 0.75), ("tourist_attraction", 2), ("amusement_park", 4), ("zoo", 3),
    ("aquarium", 2.5), ("art_gallery", 1.5), ("library", 1), ("movie_theater", 2.5),
    ("night_club", 3), ("bar", 1.5)]

/-- The duration of the first type that has one. -/
def durationOfTypes : List PyVal → Except PyError (Option ℚ)
  | [] => .ok none
  | .str placeType :: rest =>
      match visitDurations.lookup placeType with
      | some duration => .ok (some duration)
      | none => durationOfTypes rest
  | placeType :: rest =>
      if placeType.hashable then durationOfTypes rest
      else .error (.typeError ("unhashable type: '" ++ placeType.typeName ++ "'"))

/-- `_estimate_visit_duration`. -/
def estimateVisitDuration (placeData : PyVal) : Except PyError PyVal := do
  match ← durationOfTypes (← (← placeData.get "types" (.list [])).iterate) with
  | some duration => return .float duration
  | none =>
      let rating ← placeData.get "rating" (.float 4)
      if ← atLeast rating 4.5 then return .float 2
      if ← atLeast rating 4 then return .float 1.5
      return .float 1

/-- `text[:100] + '...'`. -/
def shortened (text : PyVal) : Except PyError PyVal := do
  match ← sliceTo text 100 with
  | .str start => return .str (start ++ "...")
  | _ => throw (.typeError "can only concatenate list (not \"str\") to list")

/-- `_summarize_reviews`. -/
def summarizeReviews (reviews : PyVal) : Except PyError PyVal := do
  if !reviews.truthy then
    return .dict
      [("summary", .str "Sin reseñas disponibles"), ("sentiment", .str "neutral")]
  let ratings ← (← reviews.iterate).mapM fun review => review.get "rating" (.int 3)
  let totalRating ← PyVal.sum ratings
  let avgRating ← (← totalRating.dividedBy ratings.length).real
  let sentiment :=
    if 4 ≤ avgRating then "positive" else if 3 ≤ avgRating then "neutral" else "negative"
  let recent ← (← (← sliceTo reviews 2).iterate).mapM fun review => do
    shortened (← review.get "text" (.str ""))
  return .dict
    [("summary", .str ("Promedio " ++ fixedText 1 avgRating ++ "/5 basado en " ++
        toString ratings.length ++ " reseñas")),
      ("sentiment", .str sentiment),
      ("recent_reviews", .list recent)]

/-- `_format_place_details`. -/
def formatPlaceDetails (placeData : PyVal) (originalName : String) (lat lon : ℚ) :
    Except PyError PyVal := do
  let geometry ← (← placeData.get "geometry" (.dict [])).get "location" (.dict [])
  return .dict
    [("name", ← placeData.get "name" (.str originalName)),
      ("formatted_address", ← placeData.get "formatted_address" (.str "")),
      ("lat", ← geometry.get "lat" (.float lat)),
      ("lon", ← geometry.get "lng" (.float lon)),
      ("rating", ← placeData.get "rating" (.float 4)),
      ("price_level", ← placeData.get "price_level" (.int 2)),
      ("place_types", ← placeData.get "types" (.list [.str "point_of_interest"])),
      ("opening_hours", ← parseOpeningHours env (← placeData.get "opening_hours" .none)),
      ("estimated_visit_duration", ← estimateVisitDuration placeData),
      ("photos", ← sliceTo (← placeData.get "photos" (.list [])) 3),
      ("reviews_summary", ← summarizeReviews (← placeData.get "reviews" (.list [])))]

/-- The body of `_text_search_place`. -/
def readTextSearch (placeName : String) (lat lon : ℚ) : Except PyError PyVal := do
  let response ← ask
    { url := mapsUrl ++ "/place/textsearch/json"
      params :=
        [("query", .str (placeName ++ " near " ++ pointText env lat lon)),
          ("key", .str env.apiKey)] }
  let results ← (← response.json).get "results" .none
  if results.truthy then formatPlaceDetails env (← results.itemAt 0) placeName lat lon
  else return .none

/-- `_text_search_place`. -/
def textSearchPlace (placeName : String) (lat lon : ℚ) : PyVal :=
  (readTextSearch env ask placeName lat lon).toOption.getD .none

/-- The request for places with the name of a place, a kilometre around. -/
def keywordRequest (placeName : String) (lat lon : ℚ) : MapsRequest where
  url := mapsUrl ++ "/place/nearbysearch/json"
  params :=
    [("location", .str (pointText env lat lon)),
      ("radius", .int 1000),
      ("keyword", .str placeName),
      ("key", .str env.apiKey)]

/-- The request for the details of a place. -/
def detailsRequest (placeId : PyVal) : MapsRequest where
  url := mapsUrl ++ "/place/details/json"
  params :=
    [("place_id", placeId),
      ("fields", .str ("name,formatted_address,geometry,opening_hours,rating,price_level," ++
        "types,photos,reviews")),
      ("key", .str env.apiKey)]

/-- The body of `get_place_details` before the last fallback. -/
def readPlaceDetails (placeName : String) (lat lon : ℚ) : Except PyError (Option PyVal) := do
  let searchData ← (← ask (keywordRequest env placeName lat lon)).json
  let results ← searchData.get "results" .none
  if !results.truthy then return some (textSearchPlace env ask placeName lat lon)
  let placeId ← (← results.itemAt 0).get "place_id" .none
  let detailsData ← (← ask (detailsRequest env placeId)).json
  let result ← detailsData.get "result" .none
  if result.truthy then return some (← formatPlaceDetails env result placeName lat lon)
  return none

/-- The details of a place that Google has none of. -/
def basicDetails (placeName : String) (lat lon : ℚ) : PyVal :=
  .dict
    [("name", .str placeName),
      ("lat", .float lat),
      ("lon", .float lon),
      ("rating", .float 4),
      ("opening_hours", generateDefaultHours),
      ("estimated_visit_duration", .float 1.5),
      ("place_types", .list [.str "point_of_interest"]),
      ("price_level", .int 2)]

/-- The body of `get_place_details`. -/
def getPlaceDetails (placeName : String) (lat lon : ℚ) : PyVal :=
  match readPlaceDetails env ask placeName lat lon with
  | .ok (some details) => details
  | _ => basicDetails placeName lat lon

/-! ## The city of a point -/

/-- What an address component tells of the city of a result. -/
def addComponent (cityInfo : PyDict) (component : PyVal) : Except PyError PyDict := do
  let types ← component.get "types" (.list [])
  if ← types.contains "locality" then
    return PyDict.set cityInfo "city" (← component.item "long_name")
  if ← types.contains "administrative_area_level_1" then
    return PyDict.set cityInfo "state" (← component.item "long_name")
  if ← types.contains "country" then
    return PyDict.set (PyDict.set cityInfo "country" (← component.item "long_name"))
      "country_code" (← component.item "short_name")
  return cityInfo

/-- `city_info` with a city, without what the components tell. -/
def emptyCityInfo (city formattedAddress : PyVal) : PyDict :=
  [("city", city), ("state", .none), ("country", .none), ("country_code", .none),
    ("formatted_address", formattedAddress)]

/-- The first result with a locality. -/
def localityOf : List PyVal → Except PyError (Option PyVal)
  | [] => .ok none
  | result :: rest => do
      let components ← (← result.get "address_components" (.list [])).iterate
      let formattedAddress ← result.get "formatted_address" (.str "")
      let cityInfo ← components.foldlM addComponent (emptyCityInfo .none formattedAddress)
      if (PyDict.get cityInfo "city" .none).truthy then return some (.dict cityInfo)
      localityOf rest

/-- What an address component tells of the country of a result. -/
def addCountry (cityInfo : PyDict) (component : PyVal) : Except PyError PyDict := do
  if ← (← component.get "types" (.list [])).contains "country" then
    return PyDict.set (PyDict.set cityInfo "country" (← component.item "long_name"))
      "country_code" (← component.item "short_name")
  return cityInfo

/-- The first component that is an area of the second level. -/
def areaOfComponents (result : PyVal) (components : List PyVal) :
    List PyVal → Except PyError (Option PyVal)
  | [] => .ok none
  | component :: rest => do
      if ← (← component.get "types" (.list [])).contains "administrative_area_level_2" then
        let city ← component.item "long_name"
        let formattedAddress ← result.get "formatted_address" (.str "")
        return some (.dict (← components.foldlM addCountry (emptyCityInfo city formattedAddress)))
      areaOfComponents result components rest

/-- The first result with an area of the second level. -/
def areaOf : List PyVal → Except PyError (Option PyVal)
  | [] => .ok none
  | result :: rest => do
      let components ← (← result.get "address_components" (.list [])).iterate
      match ← areaOfComponents result components components with
      | some cityInfo => return some cityInfo
      | none => areaOf rest

/-- The request for the city of a point. -/
def geocodeRequest (lat lon : ℚ) : MapsRequest where
  url := mapsUrl ++ "/geocode/json"
  params :=
    [("latlng", .str (pointText env lat lon)),
      ("key", .str env.apiKey),
      ("result_type", .str "locality|administrative_area_level_1|administrative_area_level_2"),
      ("language", .str "es")]

/-- The city that an answer of Google tells. -/
def readCity (answer : Except PyError HttpResponse) : Except PyError (Option PyVal) := do
  let response ← answer
  if response.status ≠ 200 then return none
  let data ← response.json
  if !(← data.get "status" .none).isText "OK" then return none
  let results ← data.get "results" .none
  if !results.truthy then return none
  let items ← results.iterate
  match ← localityOf items with
  | some cityInfo => return some cityInfo
  | none => areaOf items

/-- The body of `reverse_geocode_city`. -/
def reverseGeocodeCity (lat lon : ℚ) : PyVal :=
  (readCity (ask (geocodeRequest env lat lon))).toOption.join.getD .none

end Client

/-! ## Requests that fail -/

/-- The data of an answer that says `OK`. -/
def okData (answer : Except PyError HttpResponse) : Option PyVal := do
  let response ← answer.toOption
  let data ← response.json.toOption
  let status ← (data.get "status" .none).toOption
  if response.status = 200 ∧ status.isText "OK" then some data else none

/-- A city is only told by an answer that says `OK`. -/
theorem okData_ne_none_of_readCity {answer : Except PyError HttpResponse} {city : PyVal}
    (hcity : readCity answer = .ok (some city)) : okData answer ≠ none := by
  unfold readCity at hcity
  obtain ⟨response, hanswer, hcity⟩ := exists_of_bind_eq_ok hcity
  rw [hanswer]
  split at hcity
  · cases hcity
  · rename_i hcode
    obtain ⟨data, hjson, hcity⟩ := exists_of_bind_eq_ok hcity
    obtain ⟨status, hstatus, hcity⟩ := exists_of_bind_eq_ok hcity
    split at hcity
    · cases hcity
    · rename_i hok
      have hsays : response.status = 200 ∧ status.isText "OK" = true :=
        ⟨not_not.mp hcode, by simpa using hok⟩
      have hdata : okData (.ok response) = some data := by
        unfold okData
        simp only [Except.toOption, hjson, hstatus, Option.bind_eq_bind, Option.bind_some]
        exact if_pos hsays
      rw [hdata]
      exact Option.some_ne_none data

/-- A city that cannot be asked for is `None`. -/
theorem reverseGeocodeCity_of_fails (env : MapsEnv) {ask : MapsApi} {lat lon : ℚ}
    (hfails : okData (ask (geocodeRequest env lat lon)) = none) :
    reverseGeocodeCity env ask lat lon = .none := by
  unfold reverseGeocodeCity
  cases hread : readCity (ask (geocodeRequest env lat lon)) with
  | error e => rfl
  | ok found =>
      cases found with
      | none => rfl
      | some city => exact absurd hfails (okData_ne_none_of_readCity hread)

end Goveling.Places
