/-
# The request that City2Graph is decided about

`optimize_itinerary_hybrid_v31` rebuilds a request of the places that it was
called with, and asks the decision function about that. The endpoint has
normalised those places: opening hours that are missing became an empty
dictionary, which the schema does not take for a text, and a recommended hotel
may have been added. When the request cannot be rebuilt the handler goes on
with the classic optimizer, whatever the decision would have been.
-/

import Goveling.Api.RequestSchema
import Goveling.Optimizer.EngineCascade

namespace Goveling.Api.Hybrid

open Goveling.Python Goveling.Optimizer

/-! ## The decision step -/

/-- A validated request that the endpoint goes on with: it has places. The names of the
places were stripped by the validation. -/
structure AcceptedRequest extends ItineraryRequest where
  places_ne : places ≠ []
  names_stripped : ∀ place ∈ places, stripText place.name = place.name

/-- A validation error where the handler sees it. -/
def ValidationError.raised (e : ValidationError) : PyError :=
  .valueError (String.intercalate "." e.loc)

/-- The decision about City2Graph: the decision function is asked about the rebuilt
request. -/
def decideCity2graph (shouldUseCity2graph : RebuiltRequest → Except PyError City2graphDecision)
    (places : List PyDict) (startDate endDate : Date) : Except PyError City2graphDecision := do
  let tempRequest ← (rebuildRequest places startDate endDate).mapError ValidationError.raised
  shouldUseCity2graph tempRequest

/-- The engines around that decision. -/
def withDecision (env : EngineEnv)
    (shouldUseCity2graph : RebuiltRequest → Except PyError City2graphDecision)
    (places : List PyDict) (startDate endDate : Date) : EngineEnv :=
  { env with city2graphDecision := decideCity2graph shouldUseCity2graph places startDate endDate }

/-- The arguments that the endpoint calls the optimizer with. -/
def tripRequest (packingStrategy : String) (request : ItineraryRequest)
    (prepared : PreparedPlaces) : TripRequest :=
  { places := prepared.normalizedPlaces
    startDate := request.startDate.toordinal
    endDate := request.endDate.toordinal
    dailyStartHour := request.dailyStartHour
    dailyEndHour := request.dailyEndHour
    transportMode := request.transportMode
    accommodations := .list (prepared.accommodationsData.map .dict)
    packingStrategy := packingStrategy
    extraInfo := .dict
      [("no_original_accommodations", .bool prepared.noOriginalAccommodations)] }

/-- The request that is rebuilt of the prepared places. -/
def rebuiltRequest (services : PlaceServices) (request : ItineraryRequest) :
    Except ValidationError RebuiltRequest :=
  rebuildRequest (preparePlaces services request).normalizedPlaces request.startDate
    request.endDate

/-- The decision function selects City2Graph for a request. -/
def Selects (shouldUseCity2graph : RebuiltRequest → Except PyError City2graphDecision)
    (rebuilt : RebuiltRequest) : Prop :=
  ∃ decision, shouldUseCity2graph rebuilt = .ok decision ∧ decision.useCity2graph = true

/-- The prepared places can be used to rebuild a request, and City2Graph is entered
whenever it is enabled and the decision function selects it. -/
structure ReachesCity2graph (services : PlaceServices) (request : ItineraryRequest) : Prop where
  passes : ∃ rebuilt, rebuiltRequest services request = .ok rebuilt
  reaches : ∀ (env : EngineEnv) shouldUseCity2graph now breaker packingStrategy,
    env.enableCity2graph = true →
    (∀ rebuilt, rebuiltRequest services request = .ok rebuilt →
      Selects shouldUseCity2graph rebuilt) →
    let prepared := preparePlaces services request
    (city2graphStage
      (withDecision env shouldUseCity2graph prepared.normalizedPlaces request.startDate
        request.endDate)
      now breaker (tripRequest packingStrategy request prepared)).isSome = true

/-! ## When it works -/

/-- A place with a text of opening hours. -/
def Place.GivesHours (place : Place) : Prop :=
  ∃ text, place.openingHours = some text ∧ text ≠ ""

/-- The request has a place to sleep. -/
def ItineraryRequest.HasAccommodation (request : ItineraryRequest) : Prop :=
  (∃ place ∈ request.places, (place.type <|> place.category) = some .accommodation) ∨
    request.accommodations ≠ []

/-- A recommended hotel is a place of the schema. -/
structure HotelRecommendation.Fits (bestHotel : HotelRecommendation) : Prop where
  name : 1 ≤ bestHotel.name.length ∧ bestHotel.name.length ≤ 100 ∧ stripText bestHotel.name ≠ ""
  lat : -90 ≤ bestHotel.lat ∧ bestHotel.lat ≤ 90
  lon : -180 ≤ bestHotel.lon ∧ bestHotel.lon ≤ 180
  rating : 0 ≤ bestHotel.rating ∧ bestHotel.rating ≤ 5

/-- A hotel that is recommended for the request finds room and is a place of the schema. -/
def HotelFits (services : PlaceServices) (request : ItineraryRequest) : Prop :=
  ¬ request.HasAccommodation → ∀ bestHotel rest,
    services.recommendHotels (normalizePlaces services.textOf request.places) =
      .ok (bestHotel :: rest) →
    request.places.length < 50 ∧ bestHotel.Fits

/-! ## One place -/

section Place

variable (textOf : PyVal → String)

theorem checkLongitudeAndType_normalizePlace (index : ℕ) (place : Place) :
    checkLongitudeAndType (normalizePlace textOf index place.modelDump) =
      normalizePlace textOf index place.modelDump ++ [("long", .float place.lon)] := rfl

/-- The opening hours of a normalised place are its text or an empty dictionary. -/
theorem lookup_openingHours (index : ℕ) (place : Place) :
    (normalizePlace textOf index place.modelDump ++ [("long", PyVal.float place.lon)]).lookup
        "opening_hours" =
      some ((orNone .str place.openingHours).orElse (.dict [])) := rfl

theorem givesHours_of_fieldsRead {index : ℕ} {place : Place} {fields : PlaceFields}
    (hread : FieldsRead
      (normalizePlace textOf index place.modelDump ++ [("long", .float place.lon)]) fields) :
    place.GivesHours := by
  have hhours := hread.openingHours
  unfold optionalField at hhours
  rw [lookup_openingHours] at hhours
  cases htext : place.openingHours with
  | none =>
      rw [htext] at hhours
      cases hhours
  | some text =>
      refine ⟨text, htext, ?_⟩
      rintro rfl
      rw [htext] at hhours
      cases hhours

/-- Of the fields of a normalised place only the opening hours may not be taken. -/
theorem exists_validatePlace_normalizePlace_iff (index : ℕ) {place : Place}
    (hstripped : stripText place.name = place.name) :
    (∃ fields, validatePlace (normalizePlace textOf index place.modelDump) = .ok fields) ↔
      place.GivesHours := by
  simp only [validatePlace_eq_ok_iff, checkLongitudeAndType_normalizePlace]
  constructor
  · rintro ⟨fields, hread⟩
    exact givesHours_of_fieldsRead textOf hread
  · rintro ⟨text, htext, hne⟩
    have hhours : (normalizePlace textOf index place.modelDump ++
        [("long", PyVal.float place.lon)]).lookup "opening_hours" = some (.str text) := by
      rw [lookup_openingHours, htext]
      exact congrArg some (if_pos (decide_eq_true hne))
    have hrating : (0 : ℚ) ≤ max 0 (min 5 (safeFloat (place.modelDump.get "rating" .none) 0)) ∧
        max 0 (min 5 (safeFloat (place.modelDump.get "rating" .none) 0)) ≤ 5 :=
      ⟨le_max_left _ _, max_le (by norm_num) (min_le_left _ _)⟩
    have hpriority :
        (1 : ℤ) ≤ max 1 (min 10 (safeInt (place.modelDump.get "priority" .none) 5)) ∧
          max 1 (min 10 (safeInt (place.modelDump.get "priority" .none) 5)) ≤ 10 :=
      ⟨le_max_left _ _, max_le (by norm_num) (min_le_left _ _)⟩
    exact ⟨
      { id := none
        name := place.name
        lat := place.lat
        lon := place.lon
        long := some place.lon
        type := _
        category := _
        priority := some _
        openingHours := some text
        rating := some _
        address := some _ },
      { id := rfl
        name := requiredField_eq_ok_iff.mpr
          ⟨_, rfl, nameMustNotBeEmpty_of_valid place.valid hstripped⟩
        lat := requiredField_eq_ok_iff.mpr ⟨_, rfl, read_range rfl place.valid.lat⟩
        lon := requiredField_eq_ok_iff.mpr ⟨_, rfl, read_range rfl place.valid.lon⟩
        long := rfl
        type := rfl
        category := rfl
        priority := optionalField_orNone .int rfl fun _ hvalue => by
          cases hvalue
          exact ⟨nofun, read_range rfl hpriority⟩
        minDurationHours := rfl
        openingHours := optionalField_of_lookup hhours nofun none readStr
        rating := optionalField_orNone .float rfl fun _ hvalue => by
          cases hvalue
          exact ⟨nofun, read_range rfl hrating⟩
        image := rfl
        address := rfl
        googlePlaceId := rfl }⟩

theorem textIn_value (type : PlaceType) : textIn "PlaceType." type.value = false := by
  cases type <;> decide +kernel

theorem safeEnumValue_value (type : PlaceType) (default : String) :
    safeEnumValue textOf (.str type.value) default = type.value :=
  if_neg (ne_of_eq_of_ne (textIn_value type) Bool.false_ne_true)

theorem lowerText_value_eq_iff (type : PlaceType) :
    lowerText type.value = "accommodation" ↔ type = .accommodation := by
  cases type <;> decide

theorem truthy_value (type : PlaceType) : (PyVal.str type.value).truthy = true := by
  cases type <;> rfl

/-- A normalised place is one to sleep at when its type says so, or its category where it
has no type. -/
theorem isAccommodation_normalizePlace_iff (index : ℕ) (place : Place) :
    isAccommodation (normalizePlace textOf index place.modelDump) = true ↔
      (place.type <|> place.category) = some .accommodation := by
  have hplaceType :
      saysAccommodation "place_type" (normalizePlace textOf index place.modelDump) = false := rfl
  have htype : (normalizePlace textOf index place.modelDump).get "type" (.str "") =
      .str (safeEnumValue textOf
        ((orNone (fun type : PlaceType => .str type.value) place.type).orElse
          (orNone (fun type : PlaceType => .str type.value) place.category))
        "point_of_interest") := rfl
  unfold isAccommodation saysAccommodation at *
  rw [hplaceType, Bool.or_false, htype]
  dsimp only
  rw [decide_eq_true_iff]
  cases place.type with
  | some type =>
      have hfirst : (PyVal.str type.value).orElse
          (orNone (fun type : PlaceType => .str type.value) place.category) =
            .str type.value := if_pos (truthy_value type)
      change lowerText (safeEnumValue textOf ((PyVal.str type.value).orElse _) _) = _ ↔ _
      rw [hfirst, safeEnumValue_value, lowerText_value_eq_iff]
      simp
  | none =>
      cases place.category with
      | some category =>
          change lowerText (safeEnumValue textOf (.str category.value) _) = _ ↔ _
          rw [safeEnumValue_value, lowerText_value_eq_iff]
          simp
      | none =>
          have hdefault : ¬ lowerText "point_of_interest" = "accommodation" := by decide
          exact iff_of_false hdefault nofun

end Place

/-! ## The hotel -/

/-- The place of a recommended hotel has no opening hours: it is taken when its values
are in their ranges. -/
theorem exists_validatePlace_hotelPlace_iff (bestHotel : HotelRecommendation) :
    (∃ fields, validatePlace (hotelPlace bestHotel) = .ok fields) ↔ bestHotel.Fits := by
  have hcompleted : checkLongitudeAndType (hotelPlace bestHotel) =
      hotelPlace bestHotel ++ [("long", .float bestHotel.lon)] := rfl
  simp only [validatePlace_eq_ok_iff, hcompleted]
  constructor
  · rintro ⟨fields, hread⟩
    obtain ⟨_, hvalue, hname⟩ := requiredField_eq_ok_iff.mp hread.name
    obtain ⟨v, rfl, hshort, hlong, hblank, -⟩ := nameMustNotBeEmpty_eq_ok_iff.mp hname
    cases hvalue
    obtain ⟨_, hvalue, hlat⟩ := requiredField_eq_ok_iff.mp hread.lat
    cases hvalue
    obtain ⟨_, hvalue, hlon⟩ := requiredField_eq_ok_iff.mp hread.lon
    cases hvalue
    have hrating := hread.rating
    have hvalue : (hotelPlace bestHotel ++ [("long", PyVal.float bestHotel.lon)]).lookup "rating" =
        some (.float bestHotel.rating) := rfl
    rw [optionalField_of_lookup hvalue nofun, mapError_eq_ok_iff] at hrating
    obtain ⟨rating, hrating, -⟩ := exists_of_map_eq_ok hrating
    exact
      { name := ⟨hshort, hlong, hblank⟩
        lat := (checkRange_eq_ok_iff.mp hlat).2
        lon := (checkRange_eq_ok_iff.mp hlon).2
        rating := (checkRange_eq_ok_iff.mp hrating).2 }
  · intro hfits
    exact ⟨
      { name := stripText bestHotel.name
        lat := bestHotel.lat
        lon := bestHotel.lon
        long := some bestHotel.lon
        type := some .accommodation
        category := some .accommodation
        priority := some 5
        rating := some bestHotel.rating
        image := some ""
        address := some bestHotel.address },
      { id := rfl
        name := requiredField_eq_ok_iff.mpr ⟨_, rfl, nameMustNotBeEmpty_eq_ok_iff.mpr
          ⟨_, rfl, hfits.name.1, hfits.name.2.1, hfits.name.2.2, rfl⟩⟩
        lat := requiredField_eq_ok_iff.mpr ⟨_, rfl, read_range rfl hfits.lat⟩
        lon := requiredField_eq_ok_iff.mpr ⟨_, rfl, read_range rfl hfits.lon⟩
        long := rfl
        type := rfl
        category := rfl
        priority := rfl
        minDurationHours := rfl
        openingHours := rfl
        rating := optionalField_orNone .float rfl fun _ hvalue => by
          cases hvalue
          exact ⟨nofun, read_range rfl hfits.rating⟩
        image := rfl
        address := rfl
        googlePlaceId := rfl }⟩

/-! ## All places -/

/-- Entries that the schema does not know change nothing. -/
theorem sameFields_foldl_set (entries : PyDict) (hunknown : ∀ entry ∈ entries, entry.1 ∉ placeKeys)
    (values : PyDict) :
    SameFields (entries.foldl (fun values entry => values.set entry.1 entry.2) values) values := by
  induction entries generalizing values with
  | nil => exact fun key _ => rfl
  | cons entry rest ih =>
      rw [List.forall_mem_cons] at hunknown
      intro key hkey
      rw [List.foldl_cons, ih hunknown.2 _ key hkey]
      exact PyDict.lookup_set_of_ne (ne_of_mem_of_not_mem hkey hunknown.1)

/-- What is known of the surroundings of a place is no field of the schema. -/
theorem validatePlace_enhancePlace (context : PyDict → Option PyDict) (place : PyDict) :
    validatePlace (enhancePlace context place) = validatePlace place := by
  unfold enhancePlace
  cases context place with
  | none => rfl
  | some found =>
      refine (sameFields_foldl_set _ ?_ place).validatePlace_eq
      intro entry hentry
      have hkey : entry.1 ∈ (semanticEntries found).map Prod.fst := List.mem_map_of_mem hentry
      have hkeys : ∀ key ∈ (semanticEntries found).map Prod.fst, key ∉ placeKeys := by
        change ∀ key ∈
          ["semantic_district", "district_type", "walkability_score", "transit_accessibility",
            "cultural_context", "peak_hours", "semantic_confidence"], key ∉ placeKeys
        decide
      exact hkeys entry.1 hkey

/-- What holds of the items holds of them with their indices. -/
theorem forall_mem_zipIdx_iff {α : Type} (p : α → Prop) (items : List α) :
    (∀ entry ∈ items.zipIdx, p entry.1) ↔ ∀ item ∈ items, p item := by
  have hsame : (∀ item ∈ items.zipIdx.map Prod.fst, p item) ↔ ∀ entry ∈ items.zipIdx, p entry.1 :=
    List.forall_mem_map
  rw [← hsame, List.zipIdx_map_fst]

/-- A list of places is accepted when it is not too long and each of them is. -/
theorem exists_validatePlaces_iff (places : List PyDict) :
    (∃ accepted, validatePlaces places = .ok accepted) ↔
      places.length ≤ 50 ∧ ∀ place ∈ places, ∃ fields, validatePlace place = .ok fields := by
  unfold validatePlaces
  split_ifs with hlong
  · exact iff_of_false nofun fun h => absurd hlong (not_lt.mpr h.1)
  · rw [exists_mapM_eq_ok_iff, and_iff_right (not_lt.mp hlong)]
    simp only [mapError_eq_ok_iff]
    exact forall_mem_zipIdx_iff (fun place => ∃ fields, validatePlace place = .ok fields) places

section Request

variable (services : PlaceServices)

/-- With ordered dates only the places decide. -/
theorem exists_rebuildRequest_iff {places : List PyDict} {startDate endDate : Date}
    (hdates : startDate.toordinal ≤ endDate.toordinal) :
    (∃ rebuilt, rebuildRequest places startDate endDate = .ok rebuilt) ↔
      ∃ accepted, validatePlaces places = .ok accepted := by
  unfold rebuildRequest endDateAfterStart
  rw [if_neg (not_lt.mpr hdates)]
  constructor
  · rintro ⟨rebuilt, hrebuilt⟩
    obtain ⟨accepted, haccepted, -⟩ := exists_of_bind_eq_ok hrebuilt
    exact ⟨accepted, haccepted⟩
  · rintro ⟨accepted, haccepted⟩
    rw [haccepted]
    exact ⟨_, rfl⟩

/-- The places before they are enriched. -/
def placesWithHotel (request : ItineraryRequest) : List PyDict :=
  if (preparePlaces services request).noOriginalAccommodations then
    addHotel services (normalizePlaces services.textOf request.places)
  else normalizePlaces services.textOf request.places

/-- Enriching the places changes nothing of whether they are accepted. -/
theorem exists_validatePlaces_preparePlaces_iff (request : ItineraryRequest) :
    (∃ accepted, validatePlaces (preparePlaces services request).normalizedPlaces =
      .ok accepted) ↔
      ∃ accepted, validatePlaces (placesWithHotel services request) = .ok accepted := by
  cases hcontext : services.semanticContext with
  | none =>
      have hplaces : (preparePlaces services request).normalizedPlaces =
          placesWithHotel services request := by
        simp only [preparePlaces, placesWithHotel, hcontext]
      rw [hplaces]
  | some context =>
      have hplaces : (preparePlaces services request).normalizedPlaces =
          (placesWithHotel services request).map (enhancePlace context) := by
        simp only [preparePlaces, placesWithHotel, hcontext]
      rw [hplaces, exists_validatePlaces_iff, exists_validatePlaces_iff, List.length_map,
        List.forall_mem_map]
      simp only [validatePlace_enhancePlace]

theorem noOriginalAccommodations_iff (request : ItineraryRequest) :
    (preparePlaces services request).noOriginalAccommodations = true ↔
      ¬ request.HasAccommodation := by
  unfold preparePlaces ItineraryRequest.HasAccommodation
  dsimp only
  rw [Bool.and_eq_true, List.isEmpty_iff, List.isEmpty_iff, List.filter_eq_nil_iff, not_or,
    not_not]
  refine and_congr_left fun _ => ?_
  unfold normalizePlaces
  rw [List.forall_mem_map]
  simp only [isAccommodation_normalizePlace_iff]
  rw [forall_mem_zipIdx_iff fun place : Place =>
    ¬ (place.type <|> place.category) = some .accommodation]
  simp only [not_exists, not_and]

/-- The normalised places alone are accepted when each place has its opening hours. -/
theorem forall_exists_validatePlace_iff (request : AcceptedRequest) :
    (∀ place ∈ normalizePlaces services.textOf request.places,
      ∃ fields, validatePlace place = .ok fields) ↔
      ∀ place ∈ request.places, place.GivesHours := by
  unfold normalizePlaces
  rw [List.forall_mem_map, ← forall_mem_zipIdx_iff Place.GivesHours]
  refine forall₂_congr fun entry hentry => ?_
  exact exists_validatePlace_normalizePlace_iff _ _
    (request.names_stripped entry.1 (List.fst_mem_of_mem_zipIdx hentry))

/-- The request is rebuilt when all places have their opening hours and the hotel that is
added finds room and is a place of the schema. -/
theorem exists_rebuiltRequest_iff (request : AcceptedRequest) :
    (∃ rebuilt, rebuiltRequest services request.toItineraryRequest = .ok rebuilt) ↔
      (∀ place ∈ request.places, place.GivesHours) ∧
        HotelFits services request.toItineraryRequest := by
  have hnormalized := forall_exists_validatePlace_iff services request
  have hlength : (normalizePlaces services.textOf request.places).length =
      request.places.length := by
    unfold normalizePlaces
    rw [List.length_map, List.length_zipIdx]
  have hplain : (∃ accepted,
      validatePlaces (normalizePlaces services.textOf request.places) = .ok accepted) ↔
        ∀ place ∈ request.places, place.GivesHours := by
    rw [exists_validatePlaces_iff, hlength, hnormalized]
    exact and_iff_right request.places_le
  unfold rebuiltRequest
  rw [exists_rebuildRequest_iff request.dates_le, exists_validatePlaces_preparePlaces_iff]
  unfold placesWithHotel HotelFits
  by_cases haccommodation : request.toItineraryRequest.HasAccommodation
  · rw [if_neg fun hnone => (noOriginalAccommodations_iff services _).mp hnone haccommodation,
      hplain]
    exact (and_iff_left fun hnone => absurd haccommodation hnone).symm
  · rw [if_pos ((noOriginalAccommodations_iff services _).mpr haccommodation)]
    unfold addHotel
    split
    · rename_i bestHotel rest hrecommended
      rw [exists_validatePlaces_iff, List.length_append, hlength, List.forall_mem_append,
        hnormalized, List.forall_mem_singleton, exists_validatePlace_hotelPlace_iff]
      constructor
      · rintro ⟨hroom, hhours, hfits⟩
        refine ⟨hhours, fun _ otherHotel others hother => ?_⟩
        cases hrecommended.symm.trans hother
        exact ⟨hroom, hfits⟩
      · rintro ⟨hhours, hhotel⟩
        obtain ⟨hroom, hfits⟩ := hhotel haccommodation bestHotel rest hrecommended
        exact ⟨hroom, hhours, hfits⟩
    · rename_i hrecommended
      rw [hplain]
      exact (and_iff_left fun _ bestHotel rest hother =>
        absurd hother (hrecommended bestHotel rest)).symm

end Request

/-! ## Whether City2Graph is reached -/

section Decision

variable (env : EngineEnv)
  (shouldUseCity2graph : RebuiltRequest → Except PyError City2graphDecision) (now : ℚ)
  (breaker : City2graphCircuitBreaker) (trip : TripRequest)

/-- City2Graph is entered when the decision function, asked about the rebuilt request,
selects it. -/
theorem isSome_city2graphStage {places : List PyDict} {startDate endDate : Date}
    {rebuilt : RebuiltRequest} (henabled : env.enableCity2graph = true)
    (hrebuilt : rebuildRequest places startDate endDate = .ok rebuilt)
    (hselects : Selects shouldUseCity2graph rebuilt) :
    (city2graphStage (withDecision env shouldUseCity2graph places startDate endDate) now breaker
      trip).isSome = true := by
  obtain ⟨decision, hdecision, huse⟩ := hselects
  have hdecided : (withDecision env shouldUseCity2graph places startDate
      endDate).city2graphDecision = .ok decision := by
    unfold withDecision decideCity2graph
    dsimp only
    rw [hrebuilt]
    exact hdecision
  have hboth : (decision.useCity2graph && (withDecision env shouldUseCity2graph places startDate
      endDate).enableCity2graph) = true := by
    rw [huse]
    exact henabled
  unfold city2graphStage
  rw [hdecided]
  dsimp only
  rw [if_pos hboth]
  rfl

/-- When no request can be rebuilt the classic optimizer answers, whatever the decision
function would say. -/
theorem outcome_of_rebuildRequest_error {places : List PyDict} {startDate endDate : Date}
    {e : ValidationError} (hrebuilt : rebuildRequest places startDate endDate = .error e) :
    optimizeItineraryHybridV31 (withDecision env shouldUseCity2graph places startDate endDate)
        now breaker trip =
      { outcome := env.classic, breaker := breaker, classicRuns := 1 } := by
  have hdecided : (withDecision env shouldUseCity2graph places startDate
      endDate).city2graphDecision = .error e.raised := by
    unfold withDecision decideCity2graph
    dsimp only
    rw [hrebuilt]
    rfl
  unfold optimizeItineraryHybridV31 city2graphStage
  rw [ortoolsStage_eq_none, hdecided]
  rfl

end Decision

/-- The prepared places of a request serve the decision about City2Graph exactly when every
place came with opening hours and a recommended hotel can be added. -/
theorem reachesCity2graph_iff (services : PlaceServices) (request : AcceptedRequest) :
    ReachesCity2graph services request.toItineraryRequest ↔
      (∀ place ∈ request.places, place.GivesHours) ∧
        HotelFits services request.toItineraryRequest := by
  rw [← exists_rebuiltRequest_iff]
  constructor
  · intro hreaches
    exact hreaches.passes
  · rintro ⟨rebuilt, hrebuilt⟩
    refine ⟨⟨rebuilt, hrebuilt⟩, ?_⟩
    intro env shouldUseCity2graph now breaker packingStrategy henabled hselects
    exact isSome_city2graphStage env shouldUseCity2graph now breaker _ henabled hrebuilt
      (hselects rebuilt hrebuilt)

/-! ## A museum without opening hours -/

/-- The museum of the desert, with nothing but its type. -/
def desertMuseum : Place :=
  { name := "Museo del Desierto"
    lat := -23
    lon := -70
    type := some .museum
    valid :=
      { name := by decide
        lat := by norm_num
        lon := by norm_num
        priority := fun _ hvalue => by cases hvalue; decide
        minDurationHours := fun _ hvalue => absurd hvalue (Option.not_mem_none _)
        rating := fun _ hvalue => absurd hvalue (Option.not_mem_none _) } }

/-- One day at the museum. -/
def desertMuseumDay : AcceptedRequest :=
  { places := [desertMuseum]
    startDate := Date.firstOfMonth 2026 3 (by decide) (by decide)
    endDate := Date.firstOfMonth 2026 3 (by decide) (by decide)
    transportMode := "walk"
    dailyStartHour := 9
    dailyEndHour := 18
    places_le := by decide
    dates_le := le_rfl
    places_ne := List.cons_ne_nil _ _
    names_stripped := by
      intro place hplace
      rw [List.mem_singleton.mp hplace]
      decide +kernel }

/-- No hotel is known, and the surroundings are not analysed. -/
def noServices : PlaceServices :=
  { textOf := fun _ => ""
    recommendHotels := fun _ => .ok []
    semanticContext := none }

theorem reachesCity2graph_desertMuseum_false :
    ¬ ∀ (services : PlaceServices) (request : AcceptedRequest),
      ReachesCity2graph services request.toItineraryRequest := by
  intro hreaches
  obtain ⟨hhours, -⟩ := (exists_rebuiltRequest_iff noServices desertMuseumDay).mp
    (hreaches noServices desertMuseumDay).passes
  obtain ⟨text, htext, -⟩ := hhours desertMuseum (List.mem_singleton_self _)
  cases htext

end Goveling.Api.Hybrid
