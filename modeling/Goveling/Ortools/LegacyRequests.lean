/-
# Legacy requests

`convert_legacy_to_ortools_format` converts the places of a request and then its accommodations,
dates and preferences. All of them add to one list of warnings. Every place that was given is
either kept under its index or gets a warning of its own, and the coordinates of a kept place are
its own or those of Santiago.
-/

import Goveling.Math.Sift
import Goveling.Ortools.FormatConverter
import Goveling.Ortools.LegacyPlaces
import Goveling.Python.Calendar

namespace Goveling.Ortools

open Goveling.Math Goveling.Python

/-! ## Accommodations -/

/-- `type_mapping` of accommodations. -/
def accommodationTypes : List (String × String) :=
  [("hotel", "hotel"),
    ("hostel", "hostel"),
    ("motel", "motel"),
    ("guest_house", "guest_house"),
    ("apartment", "apartment"),
    ("lodge", "lodge"),
    ("inn", "inn"),
    ("resort", "resort")]

/-- `value.lower()`. -/
def lowered : PyVal → Except PyError String
  | .str text => .ok (lowerText text)
  | other => .error (.attributeError ("'" ++ other.typeName ++ "' object has no attribute 'lower'"))

/-- `_normalize_accommodation_type`. -/
def normalizeAccommodationType (typeStr : PyVal) : Except PyError String := do
  let text ← lowered typeStr
  let normalized := replaceText (replaceText text " " "_") "-" "_"
  .ok ((accommodationTypes.lookup normalized).getD "hotel")

/-- `ortools_accommodation`. -/
structure OrtoolsAccommodation where
  name : PyVal
  lat : Option ℚ
  lon : Option ℚ
  accommodationType : String
  rating : PyVal
  address : PyVal
  city : String
  priceLevel : PyVal
  amenities : PyVal
  checkInTime : PyVal
  checkOutTime : PyVal

/-- The accommodation that is made of a legacy accommodation. -/
def ortoolsAccommodation (i : ℕ) (accommodation : PyDict) :
    Except PyError OrtoolsAccommodation := do
  let lat ← extractLatitude accommodation
  let lon ← extractLongitude accommodation
  let accommodationType ← normalizeAccommodationType (accommodation.get "type" (.str "hotel"))
  let city ← lowered (accommodation.get "city" (.str ""))
  .ok
    { name := accommodation.get "name" (.str ("Accommodation_" ++ toString (i + 1)))
      lat := lat
      lon := lon
      accommodationType := accommodationType
      rating := accommodation.get "rating" (.float (7 / 2))
      address := accommodation.get "address" (.str "")
      city := city
      priceLevel := accommodation.get "price_level" (.int 2)
      amenities := accommodation.get "amenities" (.list [])
      checkInTime := accommodation.get "check_in_time" (.str "15:00")
      checkOutTime := accommodation.get "check_out_time" (.str "11:00") }

/-- `_validate_ortools_accommodation`. -/
def validateOrtoolsAccommodation (accommodation : OrtoolsAccommodation) : Bool :=
  match accommodation.name, accommodation.lat, accommodation.lon with
  | .none, _, _ => false
  | _, some lat, some lon => -56 ≤ lat && lat ≤ -17 && -80 ≤ lon && lon ≤ -66
  | _, _, _ => false

/-- The dictionary of an accommodation. -/
def OrtoolsAccommodation.toDict (accommodation : OrtoolsAccommodation) : PyDict :=
  [("name", accommodation.name),
    ("lat", coordinateValue accommodation.lat),
    ("lon", coordinateValue accommodation.lon),
    ("type", .str accommodation.accommodationType),
    ("rating", accommodation.rating),
    ("address", accommodation.address),
    ("city", .str accommodation.city),
    ("price_level", accommodation.priceLevel),
    ("amenities", accommodation.amenities),
    ("availability", .bool true),
    ("check_in_time", accommodation.checkInTime),
    ("check_out_time", accommodation.checkOutTime)]

/-- What becomes of an accommodation. -/
abbrev AccommodationOutcome := OrtoolsAccommodation ⊕ String

/-- The turn of the loop for one accommodation. The handler of an exception asks the accommodation
for its name, so what is no dictionary raises there again. -/
def convertAccommodation (env : ConverterEnv) (i : ℕ) (value : PyVal) :
    Except PyError AccommodationOutcome := do
  let accommodation ← value.getter
  let nameOr (default : String) :=
    env.textOf (accommodation.get "name" (.str (default ++ toString (i + 1))))
  match ortoolsAccommodation i accommodation with
  | .ok made =>
      if validateOrtoolsAccommodation made then .ok (.inl made)
      else .ok (.inr ("invalid_accommodation_skipped: " ++ nameOr "Accommodation_"))
  | .error e =>
      .ok (.inr ("accommodation_conversion_error: " ++ e.text ++ " for " ++
        nameOr "accommodation_"))

/-- `_convert_accommodations_to_ortools`, with the warnings it adds. -/
def convertAccommodationsToOrtools (env : ConverterEnv) (accommodations : List PyVal) :
    Except PyError (List OrtoolsAccommodation × List String) := do
  let outcomes ← accommodations.zipIdx.mapM fun entry => convertAccommodation env entry.2 entry.1
  .ok (outcomes.filterMap Sum.getLeft?, outcomes.filterMap Sum.getRight?)

/-! ## Dates -/

/-- What a request gives as a date: a text, a `datetime`, or something else. -/
inductive LegacyDate
  | text (value : String)
  | moment (date : Date)
  | other

/-- The clock, and the date of a text in the ISO format. -/
structure DateEnv where
  today : Date
  fromisoformat : String → Except PyError Date

/-- The date that is read from a text, once its `Z` is replaced. -/
def DateEnv.parse (env : DateEnv) (text : String) : Except PyError Date :=
  env.fromisoformat (replaceText text "Z" "+00:00")

/-- The first date, with its warning. -/
def startDt (env : DateEnv) : LegacyDate → Except PyError (Date × List String)
  | .text value => do .ok (← env.parse value, [])
  | .moment date => .ok (date, [])
  | .other => .ok (env.today, ["start_date_defaulted_to_now"])

/-- The last date, with its warning. -/
def endDt (env : DateEnv) (start : Date) : LegacyDate → Except PyError (Date × List String)
  | .text value => do .ok (← env.parse value, [])
  | .moment date => .ok (date, [])
  | .other => do .ok (← start.tomorrow, ["end_date_defaulted_to_next_day"])

/-- `_convert_dates_to_ortools`, with the warnings it adds. The warning of the first date stays
where the last one raises. -/
def convertDatesToOrtools (env : DateEnv) (startDate endDate : LegacyDate) :
    Except PyError ((String × String) × List String) :=
  match startDt env startDate with
  | .error e => defaulted [] e
  | .ok (start, startWarnings) =>
      match endDt env start endDate with
      | .error e => defaulted startWarnings e
      | .ok (last, endWarnings) =>
          .ok ((start.isoformat, last.isoformat), startWarnings ++ endWarnings)
where
  /-- Today and tomorrow. -/
  defaulted (warnings : List String) (e : PyError) :
      Except PyError ((String × String) × List String) := do
    let tomorrow ← env.today.tomorrow
    .ok ((env.today.isoformat, tomorrow.isoformat),
      warnings ++ ["date_conversion_error: " ++ e.text])

/-! ## Requests -/

/-- `legacy_request`: its two dates, and its other entries. -/
structure LegacyRequest where
  entries : PyDict
  startDate : LegacyDate
  endDate : LegacyDate
  inputKeys : List String

/-- `_convert_preferences_to_ortools`. -/
def convertPreferencesToOrtools (request : PyDict) : PyDict :=
  [("transport_mode", request.get "transport_mode" (.str "driving")),
    ("daily_start_hour", request.get "daily_start_hour" (.int 9)),
    ("daily_end_hour", request.get "daily_end_hour" (.int 18)),
    ("optimization_target", .str "minimize_travel_time"),
    ("max_walking_distance_km", request.get "max_walking_distance" (.float 2)),
    ("enable_time_windows", .bool true),
    ("enable_vehicle_routing", request.get "multi_day" (.bool true)),
    ("constraints", .dict
      [("max_daily_activities", request.get "max_daily_activities" (.int 6)),
        ("min_daily_activities", request.get "min_daily_activities" (.int 2)),
        ("lunch_time_window", .dict
          [("start", request.get "lunch_start" (.str "12:00")),
            ("end", request.get "lunch_end" (.str "15:00"))])])] ++
  (match request.lookup "budget" with
    | some budget =>
        [("budget_constraints", .dict
          [("max_daily_budget", budget), ("currency", request.get "currency" (.str "CLP"))])]
    | none => []) ++
  (match request.lookup "accessibility" with
    | some accessibility => [("accessibility_requirements", accessibility)]
    | none => [])

/-- `ortools_request`. -/
def ortoolsRequest (request : LegacyRequest) (places : List ValidPlace)
    (accommodations : List OrtoolsAccommodation) (dates : String × String) (placesCount : ℕ) :
    PyDict :=
  [("places", .list (places.map fun place => .dict place.toDict)),
    ("accommodations", .list (accommodations.map fun accommodation => .dict accommodation.toDict)),
    ("start_date", .str dates.1),
    ("end_date", .str dates.2),
    ("preferences", .dict (convertPreferencesToOrtools request.entries)),
    ("metadata", .dict
      [("original_format", .str "legacy"),
        ("conversion_version", .str "1.0"),
        ("places_converted", .int places.length),
        ("accommodations_converted", .int accommodations.length),
        ("original_places_count", .int placesCount)])]

/-- What a conversion makes that meets no exception. -/
structure RequestParts where
  places : List ValidPlace
  accommodations : List OrtoolsAccommodation
  data : PyDict
  warnings : List String

/-- The parts of a request, one after the other. -/
def convertRequestParts (env : ConverterEnv) (dateEnv : DateEnv) (request : LegacyRequest) :
    Except PyError RequestParts := do
  let places ← (request.entries.get "places" (.list [])).iterate
  let (ortoolsPlaces, placeWarnings) := convertPlacesToOrtools places
  let accommodations ←
    ((request.entries.get "accommodations" .none).orElse (.list [])).iterate
  let (ortoolsAccommodations, accommodationWarnings) ←
    convertAccommodationsToOrtools env accommodations
  let (dates, dateWarnings) ← convertDatesToOrtools dateEnv request.startDate request.endDate
  .ok
    { places := ortoolsPlaces
      accommodations := ortoolsAccommodations
      data := ortoolsRequest request ortoolsPlaces ortoolsAccommodations dates places.length
      warnings := placeWarnings ++ accommodationWarnings ++ dateWarnings }

/-- `convert_legacy_to_ortools_format`. -/
def convertLegacyToOrtoolsFormat (env : ConverterEnv) (dateEnv : DateEnv)
    (request : LegacyRequest) : FormatConversionResult :=
  match convertRequestParts env dateEnv request with
  | .ok parts =>
      { success := true
        data := parts.data
        warnings := parts.warnings
        conversionMetadata :=
          [("conversion_type", .str "legacy_to_ortools"),
            ("timestamp", .str env.timestamp),
            ("input_keys", .list (request.inputKeys.map .str)),
            ("output_keys", parts.data.keyList),
            ("places_converted", .int parts.places.length),
            ("accommodations_converted", .int parts.accommodations.length)] }
  | .error e =>
      { success := false
        data := []
        warnings := ["conversion_error: " ++ e.text]
        conversionMetadata := [("error", .str e.text)] }

/-! ## The coordinates of a place -/

theorem firstOf_eq_none_or (place : PyDict) (keys : List String) :
    firstOf place keys = .none ∨ ∃ key ∈ keys, place.lookup key = some (firstOf place keys) := by
  induction keys with
  | nil => exact .inl rfl
  | cons key keys ih =>
      have hfirst : firstOf place (key :: keys) = place.get key (firstOf place keys) := rfl
      rw [hfirst, PyDict.get]
      cases hvalue : place.lookup key with
      | some value => exact .inr ⟨key, List.mem_cons_self, hvalue⟩
      | none =>
          rcases ih with hnone | ⟨other, hother, hgiven⟩
          · exact .inl hnone
          · exact .inr ⟨other, List.mem_cons_of_mem key hother, hgiven⟩

/-- A warning about the place at an index. -/
def isAbout (i : ℕ) (warning : String) : Bool :=
  ("place_" ++ toString i ++ "_").toList.isPrefixOf warning.toList

/-- Warnings about places begin with a `p`, and no other warning does. -/
def IsOther (warning : String) : Prop := warning.toList.head? ≠ some 'p'

theorem IsOther.append {before : String} {first : Char} (hfirst : before.toList.head? = some first)
    (hne : first ≠ 'p') (after : String) : IsOther (before ++ after) := by
  unfold IsOther
  rw [String.toList_append, List.head?_append, hfirst, Option.some_or]
  exact fun heq => hne (Option.some.inj heq)

theorem isAbout_eq_false (i : ℕ) {warning : String} (hother : IsOther warning) :
    isAbout i warning = false := by
  have hbegin : ("place_" ++ toString i ++ "_").toList =
      'p' :: ("lace_".toList ++ (toString i).toList ++ "_".toList) := by
    rw [String.toList_append, String.toList_append]
    rfl
  unfold isAbout
  unfold IsOther at hother
  rw [hbegin]
  cases hletters : warning.toList with
  | nil => rfl
  | cons first rest =>
      rw [hletters, List.head?_cons] at hother
      have hne : 'p' ≠ first := fun heq => hother (congrArg some heq.symm)
      rw [List.isPrefixOf, beq_eq_false_iff_ne.mpr hne, Bool.false_and]

theorem countP_isAbout_eq_zero {warnings : List String}
    (hother : ∀ warning ∈ warnings, IsOther warning) (i : ℕ) :
    warnings.countP (isAbout i) = 0 := by
  rw [List.countP_eq_zero]
  intro warning hwarning
  rw [isAbout_eq_false i (hother warning hwarning)]
  exact Bool.false_ne_true

/-- Every place that was given is listed once under its index, in the order of the indices, or has
one warning. Nothing else is listed, and the listed places have coordinates as described. -/
structure AccountsFor (Coordinates : PyDict → OrtoolsPlace → Prop) (places : List PyVal)
    (converted : List ValidPlace) (warnings : List String) : Prop where
  increasing : converted.Pairwise fun first second =>
    first.1.originalIndex < second.1.originalIndex
  accounted : ∀ i, (converted.countP fun place => place.1.originalIndex = i) +
    warnings.countP (isAbout i) = if i < places.length then 1 else 0
  coordinates : ∀ place ∈ converted, ∃ legacy,
    places[place.1.originalIndex]? = some (.dict legacy) ∧ Coordinates legacy place.1

theorem convertPlace_index {i : ℕ} {value : PyVal} {place : ValidPlace}
    (hplace : (convertPlace i value).place? = some place) : place.1.originalIndex = i := by
  obtain ⟨legacy, -, hmade⟩ := convertPlace_eq_kept (PlaceOutcome.place?_eq_some hplace)
  exact (ortoolsPlace_eq_ok hmade).1

/-- The other warnings change nothing. -/
theorem AccountsFor.append {Coordinates : PyDict → OrtoolsPlace → Prop} {places : List PyVal}
    {converted : List ValidPlace} {warnings others : List String}
    (haccounts : AccountsFor Coordinates places converted warnings)
    (hothers : ∀ warning ∈ others, IsOther warning) :
    AccountsFor Coordinates places converted (warnings ++ others) where
  increasing := haccounts.increasing
  accounted i := by
    rw [List.countP_append, countP_isAbout_eq_zero hothers, Nat.add_zero]
    exact haccounts.accounted i
  coordinates := haccounts.coordinates

theorem valid_2026 : 1 ≤ 2026 ∧ 2026 ≤ 9999 := by decide

theorem valid_january : 1 ≤ 1 ∧ 1 ≤ 12 := by decide

/-- A clock. -/
def newYear : DateEnv where
  today := .firstOfMonth 2026 1 valid_2026 valid_january
  fromisoformat _ := .error (.valueError "Invalid isoformat string")

end Goveling.Ortools
