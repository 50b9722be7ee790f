/-
# The places of a request

The hybrid endpoint turns the places of a request into dictionaries before it asks
for an itinerary. Missing fields get defaults and numbers are kept in their ranges.
Without any accommodation a recommended hotel is added, and the places may be
enriched with what is known of their surroundings.
-/

import Goveling.Api.TimeTexts
import Goveling.Python.Calendar
import Goveling.Python.Value

namespace Goveling.Api.Hybrid

open Goveling.Python

/-- `PlaceType`. -/
inductive PlaceType
  | restaurant | cafe | bar
  | attraction | museum | park | church | monument | viewpoint | beach | zoo
  | shopping | shoppingMall | store | nightClub | movieTheater
  | naturalFeature | pointOfInterest
  | lodging | accommodation | food | establishment | artGallery | touristAttraction
  deriving DecidableEq, Repr

/-- The text of a type. -/
def PlaceType.value : PlaceType → String
  | .restaurant => "restaurant"
  | .cafe => "cafe"
  | .bar => "bar"
  | .attraction => "attraction"
  | .museum => "museum"
  | .park => "park"
  | .church => "church"
  | .monument => "monument"
  | .viewpoint => "viewpoint"
  | .beach => "beach"
  | .zoo => "zoo"
  | .shopping => "shopping"
  | .shoppingMall => "shopping_mall"
  | .store => "store"
  | .nightClub => "night_club"
  | .movieTheater => "movie_theater"
  | .naturalFeature => "natural_feature"
  | .pointOfInterest => "point_of_interest"
  | .lodging => "lodging"
  | .accommodation => "accommodation"
  | .food => "food"
  | .establishment => "establishment"
  | .artGallery => "art_gallery"
  | .touristAttraction => "tourist_attraction"

/-- The fields of a place. -/
structure PlaceFields where
  id : Option String := none
  name : String
  lat : ℚ
  lon : ℚ
  long : Option ℚ := none
  type : Option PlaceType := none
  category : Option PlaceType := none
  priority : Option ℤ := some 5
  minDurationHours : Option ℚ := none
  openingHours : Option String := none
  rating : Option ℚ := none
  image : Option String := none
  address : Option String := none
  googlePlaceId : Option String := none

/-- What the validation of a place asks for. -/
structure PlaceFields.Valid (fields : PlaceFields) : Prop where
  name : 1 ≤ fields.name.length ∧ fields.name.length ≤ 100
  lat : -90 ≤ fields.lat ∧ fields.lat ≤ 90
  lon : -180 ≤ fields.lon ∧ fields.lon ≤ 180
  priority : ∀ value ∈ fields.priority, 1 ≤ value ∧ value ≤ 10
  minDurationHours : ∀ value ∈ fields.minDurationHours, mkRat 1 2 ≤ value ∧ value ≤ 8
  rating : ∀ value ∈ fields.rating, 0 ≤ value ∧ value ≤ 5

/-- A place that passed the validation of a request. -/
structure Place extends PlaceFields where
  valid : toPlaceFields.Valid

/-- A value that may be missing. -/
def orNone {β : Type} (toVal : β → PyVal) : Option β → PyVal
  | some value => toVal value
  | none => .none

/-- `place.model_dump()`. A type is given as its text. -/
def Place.modelDump (place : Place) : PyDict :=
  [ ("id", orNone .str place.id),
    ("name", .str place.name),
    ("lat", .float place.lat),
    ("lon", .float place.lon),
    ("long", orNone .float place.long),
    ("type", orNone (fun type : PlaceType => .str type.value) place.type),
    ("category", orNone (fun type : PlaceType => .str type.value) place.category),
    ("priority", orNone .int place.priority),
    ("min_duration_hours", orNone .float place.minDurationHours),
    ("opening_hours", orNone .str place.openingHours),
    ("rating", orNone .float place.rating),
    ("image", orNone .str place.image),
    ("address", orNone .str place.address),
    ("google_place_id", orNone .str place.googlePlaceId)]

/-! ## One place -/

/-- `safe_float`. -/
def safeFloat (value : PyVal) (default : ℚ) : ℚ :=
  match value with
  | .str text =>
      match floatOfText text with
      | .ok number => number
      | .error _ => default
  | value => value.number?.getD default

/-- `safe_int`. -/
def safeInt (value : PyVal) (default : ℤ) : ℤ :=
  match value with
  | .float number => truncated number
  | .str text =>
      match intOfText text with
      | .ok number => number
      | .error _ => default
  | value => value.whole?.getD default

section Texts

variable (textOf : PyVal → String)

/-- `str(value)`. -/
def strOf : PyVal → String
  | .str text => text
  | value => textOf value

/-- `safe_str`. -/
def safeStr (value : PyVal) (default : String) : String :=
  match value with
  | .none => default
  | value => strOf textOf value

/-- `safe_enum_value`. -/
def safeEnumValue (value : PyVal) (default : String) : String :=
  match value with
  | .none => default
  | value =>
      let valueStr := strOf textOf value
      if textIn "PlaceType." valueStr then
        lowerText (String.ofList ((valueStr.toList.splitOn '.').getLastD []))
      else valueStr

/-- What a low rating is marked with. -/
def qualityFlag (rating : ℚ) : PyVal :=
  if 0 < rating ∧ rating < mkRat 45 10 then .str "user_provided_below_threshold" else .none

/-- One turn of the loop over the places of the request. Nothing raises for a place
that was validated. -/
def normalizePlace (index : ℕ) (place : PyDict) : PyDict :=
  let field := fun key => place.get key .none
  let rating := max 0 (min 5 (safeFloat (field "rating") 0))
  [ ("place_id",
      ((field "place_id").orElse (field "id")).orElse (.str ("place_" ++ toString index))),
    ("name", .str (safeStr textOf (field "name") ("Lugar " ++ toString (index + 1)))),
    ("lat", .float (safeFloat (field "lat") 0)),
    ("lon", .float (safeFloat (field "lon") 0)),
    ("category",
      .str (safeEnumValue textOf ((field "category").orElse (field "type")) "general")),
    ("type",
      .str (safeEnumValue textOf ((field "type").orElse (field "category")) "point_of_interest")),
    ("rating", .float rating),
    ("price_level", .int (max 0 (min 4 (safeInt (field "price_level") 0)))),
    ("address", .str (safeStr textOf (field "address") "")),
    ("description",
      .str (safeStr textOf (field "description")
        ("Visita a " ++ strOf textOf (place.get "name" (.str "lugar"))))),
    ("photos", (field "photos").orElse (.list [])),
    ("opening_hours", (field "opening_hours").orElse (.dict [])),
    ("website", .str (safeStr textOf (field "website") "")),
    ("phone", .str (safeStr textOf (field "phone") "")),
    ("priority", .int (max 1 (min 10 (safeInt (field "priority") 5)))),
    ("quality_flag", qualityFlag rating)]

/-- The loop over the places of the request. -/
def normalizePlaces (places : List Place) : List PyDict :=
  places.zipIdx.map fun entry => normalizePlace textOf entry.2 entry.1.modelDump

end Texts

/-! ## Accommodations -/

/-- The parts of a recommendation that become a place. -/
structure HotelRecommendation where
  name : String
  lat : ℚ
  lon : ℚ
  rating : ℚ
  address : String

/-- The place of a recommended hotel. -/
def hotelPlace (bestHotel : HotelRecommendation) : PyDict :=
  [ ("name", .str bestHotel.name),
    ("lat", .float bestHotel.lat),
    ("lon", .float bestHotel.lon),
    ("type", .str "accommodation"),
    ("place_type", .str "accommodation"),
    ("rating", .float bestHotel.rating),
    ("address", .str bestHotel.address),
    ("category", .str "accommodation"),
    ("user_ratings_total", .int 100),
    ("description", .str ("Hotel recomendado automáticamente: " ++ bestHotel.name)),
    ("estimated_time", .str "1h"),
    ("image", .str ""),
    ("website", .str ""),
    ("phone", .str ""),
    ("priority", .int 5),
    ("_auto_recommended", .bool true)]

/-- The text under a key, in small letters, is `accommodation`. -/
def saysAccommodation (key : String) (place : PyDict) : Bool :=
  match place.get key (.str "") with
  | .str text => lowerText text = "accommodation"
  | _ => false

/-- A place to sleep. -/
def isAccommodation (place : PyDict) : Bool :=
  saysAccommodation "type" place || saysAccommodation "place_type" place

/-- What a place is enriched with. -/
def semanticEntries (context : PyDict) : PyDict :=
  [ ("semantic_district", context.get "district" (.str "Unknown")),
    ("district_type", context.get "district_type" (.str "general")),
    ("walkability_score", context.get "walkability_score" (.float (mkRat 1 2))),
    ("transit_accessibility", context.get "transit_accessibility" (.float (mkRat 1 2))),
    ("cultural_context", context.get "cultural_context" (.dict [])),
    ("peak_hours", context.get "peak_hours" (.dict [])),
    ("semantic_confidence", context.get "confidence" (.float (mkRat 1 10)))]

/-- `enhance_place_with_semantic_context` with the context of the place, if there is
one: a place without it stays as it is. -/
def enhancePlace (context : PyDict → Option PyDict) (place : PyDict) : PyDict :=
  match context place with
  | some context =>
      (semanticEntries context).foldl (fun place entry => place.set entry.1 entry.2) place
  | none => place

/-! ## All places -/

/-- A validated request. -/
structure ItineraryRequest where
  places : List Place
  startDate : Date
  endDate : Date
  transportMode : String
  dailyStartHour : ℕ
  dailyEndHour : ℕ
  accommodations : List Place := []
  places_le : places.length ≤ 50
  dates_le : startDate.toordinal ≤ endDate.toordinal

/-- The services that are asked before the optimizer: the recommended hotels, and the
semantic context of a place where the analysis is enabled. -/
structure PlaceServices where
  textOf : PyVal → String
  recommendHotels : List PyDict → Except PyError (List HotelRecommendation)
  semanticContext : Option (PyDict → Option PyDict)

/-- What the optimizer is called with. -/
structure PreparedPlaces where
  normalizedPlaces : List PyDict
  accommodationsData : List PyDict
  noOriginalAccommodations : Bool

/-- The places with the best recommended hotel behind them, if there is one. -/
def addHotel (services : PlaceServices) (places : List PyDict) : List PyDict :=
  match services.recommendHotels places with
  | .ok (bestHotel :: _) => places ++ [hotelPlace bestHotel]
  | _ => places

/-- The part of `generate_hybrid_itinerary_endpoint` that prepares the places. -/
def preparePlaces (services : PlaceServices) (request : ItineraryRequest) : PreparedPlaces :=
  let normalized := normalizePlaces services.textOf request.places
  let accommodationsInPlaces := normalized.filter isAccommodation
  let noOriginal := accommodationsInPlaces.isEmpty && request.accommodations.isEmpty
  let places := if noOriginal then addHotel services normalized else normalized
  { normalizedPlaces :=
      match services.semanticContext with
      | some context => places.map (enhancePlace context)
      | none => places
    accommodationsData := request.accommodations.map Place.modelDump ++ accommodationsInPlaces
    noOriginalAccommodations := noOriginal }

end Goveling.Api.Hybrid
