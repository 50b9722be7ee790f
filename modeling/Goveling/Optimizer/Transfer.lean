/-
# Transfers

How a leg between two points becomes an item of the day: the mode it is
travelled in, the names of its ends, the dictionary that enters the timeline and
the activity that accompanies a trip of three hours or more.
-/

import Goveling.Optimizer.Types
import Mathlib.Data.List.Infix

namespace Goveling.Optimizer

open Goveling.Python

universe u

variable {σ : Type u}

/-! ## Normalized dictionaries -/

/-- The keys of a place or transfer dictionary that `_normalize_place_fields`
and `_generate_smart_name` look at. -/
structure RawPlace where
  placeId : Option String := none
  name : Option String := none
  lat : Option ℚ := none
  lon : Option ℚ := none
  category : Option String := none
  type : Option String := none
  rating : Option ℚ := none
  priceLevel : Option ℤ := none
  address : Option String := none
  description : Option String := none
  photos : Option (List (Option String)) := none
  openingHours : Option (List (String × String)) := none
  website : Option String := none
  phone : Option String := none
  priority : Option ℤ := none
  image : Option String := none
  durationMinutes : Option ℤ := none
  distanceKm : Option ℚ := none
  fromPlace : Option String := none
  toPlace : Option String := none
  isReturnToHotel : Option Bool := none

/-- A normalized dictionary: exactly these keys are kept. -/
structure PlaceFields where
  placeId : String
  name : String
  lat : ℚ
  lon : ℚ
  category : String
  type : String
  rating : ℚ
  priceLevel : ℤ
  address : String
  description : String
  photos : List (Option String)
  openingHours : List (String × String)
  website : String
  phone : String
  priority : ℤ
  image : String
  deriving DecidableEq

/-- `part in text` for strings. -/
def occursIn (part text : String) : Bool := decide (part.toList <:+: text.toList)

/-- The names `_generate_smart_name` gives to types. -/
def typeName (type : String) : String :=
  match type with
  | "restaurant" => "Restaurante"
  | "tourist_attraction" => "Atracción turística"
  | "museum" => "Museo"
  | "park" => "Parque"
  | "accommodation" => "Alojamiento"
  | "shopping_mall" => "Centro comercial"
  | "cafe" => "Café"
  | "church" => "Iglesia"
  | "hotel" => "Hotel"
  | "lodging" => "Hotel"
  | _ => "Lugar de interés"

/-- The part of `_generate_smart_name` about transfers. -/
def transferName (place : RawPlace) : String :=
  let duration := place.durationMinutes.getD 0
  let distance := place.distanceKm.getD 0
  let fromPlace := place.fromPlace.getD ""
  let toPlace := place.toPlace.getD ""
  let hours := toString (duration / 60) ++ "h)"
  let minutes := toString duration ++ "min)"
  let kilometers := fixedText 0 distance ++ "km)"
  if place.isReturnToHotel.getD false then "Regreso al hotel"
  else if toPlace ≠ "" then
    if 180 ≤ duration then "Viaje a " ++ toPlace ++ " (" ++ hours
    else if 30 ≤ duration then "Traslado a " ++ toPlace ++ " (" ++ minutes
    else if 5 < distance then "Traslado a " ++ toPlace ++ " (" ++ kilometers
    else "Traslado a " ++ toPlace
  else if fromPlace ≠ "" then "Traslado desde " ++ fromPlace
  else if 180 ≤ duration then "Traslado largo (" ++ hours
  else if 30 ≤ duration then "Traslado (" ++ minutes
  else if 5 < distance then "Traslado (" ++ kilometers
  else if 0 < duration then "Traslado corto (" ++ minutes
  else "Traslado"

/-- `_generate_smart_name`. -/
def generateSmartName (place : RawPlace) : String :=
  let existing := place.name.getD ""
  if existing ≠ "" ∧ occursIn "sin nombre" existing.toLower = false then existing
  else if place.type.getD "" = "transfer" ∨ place.category.getD "" = "transfer" then
    transferName place
  else typeName (place.type.getD "")

/-- `_normalize_place_fields`; `hash` is the interpreter's string hash. -/
def normalizePlaceFields (hash : String → ℤ) (place : RawPlace) : PlaceFields where
  placeId := place.placeId.getD ("unknown_" ++ toString (hash (place.name.getD "unnamed")))
  name := generateSmartName place
  lat := place.lat.getD 0
  lon := place.lon.getD 0
  category := place.category.getD (place.type.getD "general")
  type := place.type.getD (place.category.getD "point_of_interest")
  rating := max 0 (min 5 (place.rating.getD 0))
  priceLevel := max 0 (min 4 (place.priceLevel.getD 0))
  address := place.address.getD "Dirección no disponible"
  description := place.description.getD ("Visita a " ++ place.name.getD "lugar")
  photos := place.photos.getD []
  openingHours := place.openingHours.getD []
  website := place.website.getD ""
  phone := place.phone.getD ""
  priority := max 1 (min 10 (place.priority.getD 5))
  image := place.image.getD ((place.photos.getD []).head?.elim "" (·.getD ""))

/-- `_transfer_item_to_dict`: what the timeline shows of a transfer. -/
def transferItemToDict (hash : String → ℤ) (transfer : TransferItem) : PlaceFields :=
  normalizePlaceFields hash
    { placeId := some ("transfer_" ++ toString (hash (transfer.fromPlace ++ transfer.toPlace)))
      type := some "transfer"
      category := some "transfer"
      fromPlace := some transfer.fromPlace
      toPlace := some transfer.toPlace
      distanceKm := some transfer.distanceKm
      durationMinutes := some transfer.durationMinutes
      isReturnToHotel := some transfer.isReturnToHotel
      rating := some (9 / 2)
      priority := some 5
      lat := some transfer.destination.lat
      lon := some transfer.destination.lon }

/-! ## Modes and names -/

/-- `_decide_mode_by_distance_km`. -/
def decideModeByDistanceKm (settings : Settings) (distanceKm : ℚ≥0)
    (requestedMode : TransportMode) : TransportMode :=
  if (distanceKm : ℚ) ≤ settings.walkThresholdKm then .walk
  else if (distanceKm : ℚ) ≤ settings.driveThresholdKm then
    if settings.transitAvailable ∧ (requestedMode = .walk ∨ requestedMode = .transit) then
      .transit
    else .drive
  else .drive

/-- The coordinates in `Ubicación (…)` and `Destino (…)`. -/
def coordinateText (location : Location) : String :=
  "(" ++ fixedText 3 location.lat ++ ", " ++ fixedText 3 location.lon ++ ")"

/-- The name of the origin in `_build_enhanced_transfer`: a known hotel, else the
nearest named place, else a hotel nearby, else the coordinates. -/
def nameOrigin (services : Services σ) (service : σ) (origin : Location) : Reply σ String :=
  let known := services.getKnownHotelName service origin
  if known.value ≠ "" then known
  else
    let nearest := services.getNearestNamedPlace known.next origin
    if nearest.value.startsWith "Lat " ∨ occursIn "Lugar de interés" nearest.value ∨
        nearest.value = "" then
      let lodging := services.searchNearbyLodging nearest.next origin
      match lodging.value with
      | some (hotel :: _) => ⟨hotel.getD nearest.value, lodging.next⟩
      | _ => ⟨"Ubicación " ++ coordinateText origin, lodging.next⟩
    else nearest

/-- The name of the destination in `_build_enhanced_transfer`. -/
def nameDestination (services : Services σ) (service : σ) (destination : Location)
    (targetCluster : Cluster) : Reply σ String :=
  match targetCluster.homeBase with
  | some base => ⟨base.name, service⟩
  | none =>
      let known := services.getKnownHotelName service destination
      if known.value ≠ "" then known
      else services.getNearestNamedPlace known.next destination

/-- The distance from which on a leg is between cities. -/
def intercityKm : ℚ≥0 := 30

/-- The route asked for by `_build_enhanced_transfer`: long walks are asked
again as drives. -/
def enhancedEta (services : Services σ) (service : σ) (origin destination : Location)
    (transportMode : TransportMode) : Reply σ Eta :=
  let cached := services.routingServiceCached service origin destination transportMode
  if intercityKm < cached.value.distanceKm ∧ (transportMode = .walk ∨ transportMode = .walking) then
    services.routingServiceRobust cached.next origin destination .drive
  else cached

/-- `_build_enhanced_transfer`. -/
def buildEnhancedTransfer (services : Services σ) (settings : Settings) (service : σ)
    (origin destination : Location) (transportMode : TransportMode)
    (targetCluster : Cluster) : Reply σ TransferItem :=
  let eta := enhancedEta services service origin destination transportMode
  let fromPlace := nameOrigin services eta.next origin
  let toPlace := nameDestination services fromPlace.next destination targetCluster
  let mode := decideModeByDistanceKm settings eta.value.distanceKm transportMode
  let finalMode :=
    if intercityKm < eta.value.distanceKm ∧ (mode = .walk ∨ mode = .walking) then .drive else mode
  { value :=
      { fromPlace := fromPlace.value
        toPlace := toPlace.value
        distanceKm := eta.value.distanceKm
        durationMinutes := eta.value.wholeMinutes
        recommendedMode := finalMode
        isIntercity := intercityKm < eta.value.distanceKm
        origin := origin
        destination := destination }
    next := toPlace.next }

/-! ## Long trips -/

/-- `_create_intercity_activity`: trips under three hours have none. -/
def createIntercityActivity (transfer : TransferItem) (currentTime : ℤ) :
    Option IntercityActivity :=
  if transfer.durationMinutes < 180 then none
  else
    let kind : String × String :=
      if 480 ≤ transfer.durationMinutes then
        ("overnight_journey", "Viaje nocturno - considera descanso")
      else if 360 ≤ transfer.durationMinutes then
        ("scenic_journey", "Viaje panorámico - disfruta el paisaje")
      else ("comfortable_journey", "Tiempo para relajarse o trabajar")
    some
      { name := "Viaje " ++ transfer.fromPlace ++ " → " ++ transfer.toPlace
        placeType := kind.1
        durationMinutes := transfer.durationMinutes
        startTime := currentTime
        endTime := currentTime + transfer.durationMinutes
        description := kind.2
        address := "Ruta " ++ transfer.fromPlace ++ " - " ++ transfer.toPlace
        transportMode := transfer.recommendedMode }

/-- Short trips are no activities. -/
theorem short_of_createIntercityActivity_eq_none {transfer : TransferItem} {currentTime : ℤ}
    (htrip : createIntercityActivity transfer currentTime = none) :
    ¬ 180 ≤ transfer.durationMinutes := by
  intro hlong
  unfold createIntercityActivity at htrip
  rw [if_neg (not_lt.mpr hlong)] at htrip
  cases htrip

/-- What an intercity activity says about its trip. -/
theorem createIntercityActivity_eq_some {transfer : TransferItem} {currentTime : ℤ}
    {trip : IntercityActivity} (htrip : createIntercityActivity transfer currentTime = some trip) :
    180 ≤ transfer.durationMinutes ∧ trip.durationMinutes = transfer.durationMinutes ∧
      trip.startTime = currentTime ∧
      trip.endTime = currentTime + transfer.durationMinutes := by
  unfold createIntercityActivity at htrip
  split at htrip
  · cases htrip
  · rename_i hlong
    cases htrip
    exact ⟨not_lt.mp hlong, rfl, rfl, rfl⟩

end Goveling.Optimizer
