/-
# Legacy places in the timed model

`convert_legacy_to_ortools_format` extracts a visit duration and opening hours from every place
and writes them as `visit_duration_minutes` and `opening_hours`. The optimizer reads
`duration_minutes`, `opening_hour` and `closing_hour`, which no converted place has. So the timed
model is built from its own defaults, an hour for a visit between nine and eighteen o'clock,
whatever was extracted.
-/

import Goveling.Ortools.TourTotals
import Goveling.Python.Numbers

namespace Goveling.Ortools

open Goveling.Math Goveling.Python

/-- `text.split()[0]`. -/
def firstWord (text : String) : Except PyError String :=
  match splitBlanks text with
  | word :: _ => .ok word
  | [] => .error (.indexError "list index out of range")

/-! ## What is extracted from a place -/

/-- The first of some keys that a place has: `place.get(key, place.get(…))`. -/
def firstOf (place : PyDict) (keys : List String) : PyVal :=
  keys.foldr (fun key rest => place.get key rest) .none

/-- `_extract_latitude` and `_extract_longitude`: the keys of the place, then its `geometry`,
then Santiago. -/
def extractCoordinate (keys : List String) (locationKey : String) (santiago : ℚ)
    (place : PyDict) : Except PyError (Option ℚ) :=
  match firstOf place keys with
  | .none => do
      let location ← (place.get "geometry" (.dict [])).get "location" (.dict [])
      if ← location.contains locationKey then
        let coordinate ← location.item locationKey
        toFloat coordinate
      else .ok (some santiago)
  | coordinate => toFloat coordinate

/-- `_extract_latitude`. -/
def extractLatitude : PyDict → Except PyError (Option ℚ) :=
  extractCoordinate ["lat", "latitude"] "lat" (-334372 / 10000)

/-- `_extract_longitude`. -/
def extractLongitude : PyDict → Except PyError (Option ℚ) :=
  extractCoordinate ["lon", "lng", "longitude"] "lng" (-706506 / 10000)

/-- `type_mapping`. -/
def typeMapping : List (String × String) :=
  [("tourist_attraction", "tourist_attraction"),
    ("restaurant", "restaurant"),
    ("museum", "museum"),
    ("park", "park"),
    ("shopping_mall", "shopping"),
    ("hotel", "lodging"),
    ("cafe", "restaurant"),
    ("bar", "restaurant"),
    ("church", "place_of_worship"),
    ("beach", "natural_feature"),
    ("viewpoint", "tourist_attraction"),
    ("market", "shopping")]

/-- `_normalize_place_type`. -/
def normalizePlaceType : PyVal → Except PyError String
  | .str legacyType =>
      .ok ((typeMapping.lookup (lowerText legacyType)).getD "tourist_attraction")
  | other => .error (.attributeError ("'" ++ other.typeName ++ "' object has no attribute 'lower'"))

/-- `default_durations`. -/
def defaultDurations : List (String × ℤ) :=
  [("restaurant", 90),
    ("museum", 120),
    ("tourist_attraction", 60),
    ("park", 90),
    ("shopping", 120),
    ("hotel", 0)]

/-- The duration of a place that gives none. -/
def defaultDuration (place : PyDict) : Except PyError ℤ :=
  match place.get "type" (.str "tourist_attraction") with
  | .str placeType => .ok ((defaultDurations.lookup placeType).getD 60)
  | other =>
      if other.hashable then .ok 60
      else .error (.typeError ("unhashable type: '" ++ other.typeName ++ "'"))

/-- The duration that a text gives: a number of hours or of minutes. -/
def durationOfText (place : PyDict) (duration : String) : Except PyError ℤ :=
  let durationStr := lowerText duration
  if textIn "hour" durationStr then do
    let word ← firstWord durationStr
    match ← floatText word with
    | some hours => .ok (truncated (hours * 60))
    | none =>
        if textIn "nan" word then .error (.valueError "cannot convert float NaN to integer")
        else .error (.exception "cannot convert float infinity to integer")
  else if textIn "min" durationStr then do
    let word ← firstWord durationStr
    parseInt word.toList
  else defaultDuration place

/-- `_extract_duration`. -/
def extractDuration (place : PyDict) : Except PyError ℤ :=
  let duration := firstOf place ["duration", "visit_duration"]
  match duration, duration.number? with
  | .none, _ => defaultDuration place
  | .str text, _ => durationOfText place text
  | _, some number => .ok (truncated number)
  | _, none => .error (.typeError
      ("int() argument must be a string, a bytes-like object or a real number, not '" ++
        duration.typeName ++ "'"))

/-- The opening hours of a place that gives none. -/
def defaultOpeningHours : PyDict :=
  [("open_now", .bool true),
    ("periods", .list []),
    ("weekday_text", .list
      [.str "Monday: 9:00 AM – 6:00 PM", .str "Tuesday: 9:00 AM – 6:00 PM",
        .str "Wednesday: 9:00 AM – 6:00 PM", .str "Thursday: 9:00 AM – 6:00 PM",
        .str "Friday: 9:00 AM – 6:00 PM", .str "Saturday: 9:00 AM – 6:00 PM",
        .str "Sunday: 10:00 AM – 5:00 PM"])]

/-- `_extract_opening_hours`. -/
def extractOpeningHours (place : PyDict) : Except PyError PyDict :=
  let openingHours := place.get "opening_hours" (.dict [])
  if openingHours.truthy then do
    let hours ← openingHours.getter
    .ok
      [("open_now", hours.get "open_now" (.bool true)),
        ("periods", hours.get "periods" (.list [])),
        ("weekday_text", hours.get "weekday_text" (.list []))]
  else .ok defaultOpeningHours

/-! ## Converted places -/

/-- `ortools_place`. A coordinate that is not finite has no value. -/
structure OrtoolsPlace where
  name : PyVal
  lat : Option ℚ
  lon : Option ℚ
  placeType : String
  rating : PyVal
  visitDurationMinutes : ℤ
  address : PyVal
  priceLevel : PyVal
  openingHours : PyDict
  originalIndex : ℕ
  legacyFields : PyVal
  placeId : PyVal

/-- The place that is made of a legacy place. -/
def ortoolsPlace (i : ℕ) (place : PyDict) : Except PyError OrtoolsPlace := do
  let lat ← extractLatitude place
  let lon ← extractLongitude place
  let placeType ← normalizePlaceType (place.get "type" (.str "tourist_attraction"))
  let duration ← extractDuration place
  let openingHours ← extractOpeningHours place
  .ok
    { name := place.get "name" (.str ("Place_" ++ toString (i + 1)))
      lat := lat
      lon := lon
      placeType := placeType
      rating := place.get "rating" (place.get "user_rating" (.float 4))
      visitDurationMinutes := duration
      address := place.get "address" (place.get "vicinity" (.str ""))
      priceLevel := place.get "price_level" (.int 2)
      openingHours := openingHours
      originalIndex := i
      legacyFields := place.keyList
      placeId := place.get "place_id" (place.get "google_place_id" (.str "")) }

/-- `_validate_ortools_place`: the place has a name and lies in Chile, more or less. -/
def validateOrtoolsPlace (place : OrtoolsPlace) : Bool :=
  match place.name, place.lat, place.lon with
  | .none, _, _ => false
  | _, some lat, some lon => -56 ≤ lat && lat ≤ -17 && -80 ≤ lon && lon ≤ -66
  | _, _, _ => false

/-- A place that is passed on to the optimizer. -/
abbrev ValidPlace := { place : OrtoolsPlace // validateOrtoolsPlace place = true }

/-- A coordinate of a dictionary. -/
def coordinateValue : Option ℚ → PyVal
  | some coordinate => .float coordinate
  | none => .none

/-- The dictionary of a valid place. -/
def ValidPlace.toDict (place : ValidPlace) : PyDict :=
  [("name", place.1.name),
    ("lat", coordinateValue place.1.lat),
    ("lon", coordinateValue place.1.lon),
    ("place_type", .str place.1.placeType),
    ("rating", place.1.rating),
    ("visit_duration_minutes", .int place.1.visitDurationMinutes),
    ("address", place.1.address),
    ("price_level", place.1.priceLevel),
    ("opening_hours", .dict place.1.openingHours),
    ("metadata", .dict
      [("original_index", .int place.1.originalIndex),
        ("legacy_fields", place.1.legacyFields),
        ("place_id", place.1.placeId)])]

/-- What becomes of a legacy place. -/
inductive PlaceOutcome
  | kept (place : ValidPlace)
  | warned (warning : String)

/-- The turn of the loop for one place. -/
def convertPlace (i : ℕ) (value : PyVal) : PlaceOutcome :=
  match value.getter >>= ortoolsPlace i with
  | .ok place =>
      if hvalid : validateOrtoolsPlace place = true then .kept ⟨place, hvalid⟩
      else .warned ("place_" ++ toString i ++ "_validation_failed")
  | .error e => .warned ("place_" ++ toString i ++ "_conversion_error: " ++ e.text)

/-- The place that is kept. -/
def PlaceOutcome.place? : PlaceOutcome → Option ValidPlace
  | .kept place => some place
  | .warned _ => none

/-- The warning that is added. -/
def PlaceOutcome.warning? : PlaceOutcome → Option String
  | .kept _ => none
  | .warned warning => some warning

/-- `_convert_places_to_ortools`, with the warnings it adds. -/
def convertPlacesToOrtools (legacyPlaces : List PyVal) : List ValidPlace × List String :=
  let outcomes := legacyPlaces.mapIdx convertPlace
  (outcomes.filterMap PlaceOutcome.place?, outcomes.filterMap PlaceOutcome.warning?)

/-- Every legacy place is kept or gets one warning. -/
theorem length_convertPlacesToOrtools (legacyPlaces : List PyVal) :
    (convertPlacesToOrtools legacyPlaces).1.length +
      (convertPlacesToOrtools legacyPlaces).2.length = legacyPlaces.length := by
  have houtcomes : ∀ outcomes : List PlaceOutcome,
      (outcomes.filterMap PlaceOutcome.place?).length +
        (outcomes.filterMap PlaceOutcome.warning?).length = outcomes.length := by
    intro outcomes
    induction outcomes with
    | nil => rfl
    | cons outcome rest ih =>
        rw [List.length_cons, ← ih]
        cases outcome with
        | kept place => exact Nat.succ_add _ _
        | warned warning => rfl
  rw [← List.length_mapIdx (l := legacyPlaces) (f := convertPlace)]
  exact houtcomes _

/-- What a converted place takes from its legacy place. -/
theorem ortoolsPlace_eq_ok {i : ℕ} {legacy : PyDict} {place : OrtoolsPlace}
    (hplace : ortoolsPlace i legacy = .ok place) :
    place.originalIndex = i ∧ extractLatitude legacy = .ok place.lat ∧
      extractLongitude legacy = .ok place.lon ∧
      extractDuration legacy = .ok place.visitDurationMinutes ∧
      extractOpeningHours legacy = .ok place.openingHours := by
  obtain ⟨lat, hlat, hplace⟩ := exists_of_bind_eq_ok hplace
  obtain ⟨lon, hlon, hplace⟩ := exists_of_bind_eq_ok hplace
  obtain ⟨placeType, -, hplace⟩ := exists_of_bind_eq_ok hplace
  obtain ⟨duration, hduration, hplace⟩ := exists_of_bind_eq_ok hplace
  obtain ⟨hours, hhours, hplace⟩ := exists_of_bind_eq_ok hplace
  cases hplace
  exact ⟨rfl, hlat, hlon, hduration, hhours⟩

/-- Only dictionaries are kept. -/
theorem convertPlace_eq_kept {i : ℕ} {value : PyVal} {place : ValidPlace}
    (hkept : convertPlace i value = .kept place) :
    ∃ legacy, value = .dict legacy ∧ ortoolsPlace i legacy = .ok place.1 := by
  unfold convertPlace at hkept
  split at hkept
  · rename_i made hmade
    split at hkept
    · cases hkept
      obtain ⟨legacy, hlegacy, hplace⟩ := exists_of_bind_eq_ok hmade
      cases value with
      | dict entries =>
          cases hlegacy
          exact ⟨legacy, rfl, hplace⟩
      | _ => cases hlegacy
    · cases hkept
  · cases hkept

theorem PlaceOutcome.place?_eq_some {outcome : PlaceOutcome} {place : ValidPlace}
    (hplace : outcome.place? = some place) : outcome = .kept place := by
  cases outcome with
  | kept kept =>
      cases hplace
      rfl
  | warned warning => cases hplace

/-- A kept place has the duration and the opening hours of the legacy place it was made of. -/
theorem exists_of_mem_convertPlacesToOrtools {legacyPlaces : List PyVal} {place : ValidPlace}
    (hplace : place ∈ (convertPlacesToOrtools legacyPlaces).1) :
    ∃ legacy, legacyPlaces[place.1.originalIndex]? = some (.dict legacy) ∧
      extractDuration legacy = .ok place.1.visitDurationMinutes ∧
      extractOpeningHours legacy = .ok place.1.openingHours := by
  obtain ⟨outcome, houtcome, hkept⟩ := List.mem_filterMap.mp hplace
  obtain ⟨i, hi, rfl⟩ := List.mem_mapIdx.mp houtcome
  obtain ⟨legacy, hlegacy, hmade⟩ := convertPlace_eq_kept (PlaceOutcome.place?_eq_some hkept)
  obtain ⟨rfl, -, -, hduration, hhours⟩ := ortoolsPlace_eq_ok hmade
  refine ⟨legacy, ?_, hduration, hhours⟩
  rw [List.getElem?_eq_getElem hi, hlegacy]

/-! ## The timed model of converted places -/

/-- The timed model that `optimize_itinerary_advanced` gives to the library, if it builds one. -/
def timedModel (pois : List PyDict) (matrix : OsrmMatrix) (startTime : String) :
    Except PyError (Option RoutingProblem) := do
  let structured ← structurePois pois
  let start ← timedStart structured true startTime
  .ok (start.bind fun start =>
    vrptwProblem matrix.distances (timeMatrixMinutes matrix.durations) structured start)

/-- The `POI` of a converted place: no key of a converted place gives a duration or hours. -/
def convertedPoi (i : ℕ) (place : ValidPlace) : Poi where
  id := i
  name := place.1.name
  lat := coordinateValue place.1.lat
  lon := coordinateValue place.1.lon
  rating := place.1.rating
  category := .none
  durationMinutes := .int 60
  openingHour := .int 9
  closingHour := .int 18
  isMandatory := .bool true
  priority := .int 1

theorem structurePoi_toDict (i : ℕ) (place : ValidPlace) :
    structurePoi i place.toDict = .ok (convertedPoi i place) := by
  simp [structurePoi, ValidPlace.toDict, convertedPoi, PyDict.item, PyDict.get, List.lookup_cons,
    bind, Except.bind]

/-- The places of the model. -/
def convertedPois (places : List ValidPlace) : List Poi :=
  places.zipIdx.map fun place => convertedPoi place.2 place.1

theorem structurePois_toDict (places : List ValidPlace) :
    structurePois (places.map ValidPlace.toDict) = .ok (convertedPois places) := by
  have hturns : ∀ entries : List (ValidPlace × ℕ),
      (entries.map (Prod.map ValidPlace.toDict id)).mapM
          (fun entry => structurePoi entry.2 entry.1) =
        .ok (entries.map fun entry => convertedPoi entry.2 entry.1) := by
    intro entries
    induction entries with
    | nil => rfl
    | cons entry rest ih =>
        rw [List.map_cons, List.mapM_cons, ih, Prod.map_fst, Prod.map_snd, structurePoi_toDict]
        rfl
  unfold structurePois
  rw [List.zipIdx_map]
  exact hturns _

theorem getElem?_convertedPois (places : List ValidPlace) (i : ℕ) :
    (convertedPois places)[i]? = places[i]?.map (convertedPoi i) := by
  unfold convertedPois
  rw [List.getElem?_map, List.getElem?_zipIdx, Option.map_map]
  cases places[i]? with
  | none => rfl
  | some place =>
      rw [Option.map_some, Option.map_some, Function.comp_apply, zero_add]

/-- The window that the model gives to a place without hours. -/
def defaultWindow (start : ℤ) (i : ℕ) : ℤ × ℤ :=
  if i = 0 then (start, start + 600) else (540, 1080)

theorem timeRanges_convertedPois (places : List ValidPlace) (start : ℤ) :
    timeRanges (convertedPois places) start =
      some ((convertedPois places).zipIdx.map fun poi => defaultWindow start poi.2) := by
  apply mapM_eq_some_map
  intro entry hentry
  have hpoi : (convertedPois places)[entry.2]? = some entry.1 :=
    List.mem_zipIdx_iff_getElem?.mp hentry
  rw [getElem?_convertedPois] at hpoi
  obtain ⟨place, -, hplace⟩ := Option.map_eq_some_iff.mp hpoi
  rw [← hplace]
  unfold timeRange defaultWindow
  split <;> rfl

/-- The model of converted places. -/
def convertedModel (places : List ValidPlace) (matrix : OsrmMatrix) (start : ℤ) :
    RoutingProblem where
  nodes := (convertedPois places).length
  cost := fun i j => (matrixAt matrix.distances i j).map truncated
  dimension := some (timeDimension (timeMatrixMinutes matrix.durations) (convertedPois places)
    ((convertedPois places).zipIdx.map fun poi => defaultWindow start poi.2))
  disjunctions := (disjunctionNodes (convertedPois places)).map fun node => (node, 10000)

/-- With more than one place and a time to start there is a timed model. -/
theorem timedModel_eq_some_iff {places : List ValidPlace} {matrix : OsrmMatrix}
    {startTime : String} {problem : RoutingProblem} :
    timedModel (places.map ValidPlace.toDict) matrix startTime = .ok (some problem) ↔
      1 < places.length ∧ ∃ start, parseTimeToMinutes startTime = .ok start ∧
        problem = convertedModel places matrix start := by
  have hlength : (convertedPois places).length = places.length := by
    simp [convertedPois]
  have hmodel : ∀ start, vrptwProblem matrix.distances (timeMatrixMinutes matrix.durations)
      (convertedPois places) start = some (convertedModel places matrix start) := by
    intro start
    unfold vrptwProblem
    rw [timeRanges_convertedPois]
    rfl
  unfold timedModel timedStart
  rw [structurePois_toDict]
  simp only [bind, Except.bind, Bool.true_and, decide_eq_true_eq, hlength]
  by_cases hcount : 1 < places.length
  · rw [if_pos hcount]
    cases parseTimeToMinutes startTime with
    | error e => simp [Except.map]
    | ok start => simp [hcount, hmodel, Except.map, eq_comm]
  · simp [hcount]

/-! ## What the model uses -/

/-- The model uses what was extracted of a place: its visit duration on every leg from it, and
its hours, where there are some. `readHours` reads a range of minutes from opening hours. -/
structure UsesExtracted (readHours : PyDict → Option (ℤ × ℤ)) (durations : List (List ℚ))
    (dimension : Dimension) (i : ℕ) (place : ValidPlace) : Prop where
  serviceTime : ∀ j, ∀ travelTime ∈ matrixAt (timeMatrixMinutes durations) i j,
    dimension.transit i j = some (truncated travelTime + place.1.visitDurationMinutes)
  timeWindow : ∀ window ∈ readHours place.1.openingHours, dimension.ranges[i]? = some window

/-- What is promised of the conversion: every timed model of the converted places uses what was
extracted of each of them. -/
def KeepsExtracted (readHours : PyDict → Option (ℤ × ℤ)) (legacyPlaces : List PyVal)
    (startTime : String) : Prop :=
  let places := (convertPlacesToOrtools legacyPlaces).1
  ∀ matrix problem,
    timedModel (places.map ValidPlace.toDict) matrix startTime = .ok (some problem) →
      ∀ dimension ∈ problem.dimension, ∀ i place, places[i]? = some place →
        UsesExtracted readHours matrix.durations dimension i place

/-- The service time of a converted place. -/
theorem transit_convertedModel {places : List ValidPlace} {durations : List (List ℚ)} {i : ℕ}
    {place : ValidPlace} (hplace : places[i]? = some place) {j : ℕ} {travelTime : ℚ}
    (htravel : matrixAt (timeMatrixMinutes durations) i j = some travelTime)
    (ranges : List (ℤ × ℤ)) :
    (timeDimension (timeMatrixMinutes durations) (convertedPois places) ranges).transit i j =
      some (truncated travelTime + 60) := by
  have hservice : serviceTime (convertedPois places) i = some 60 := by
    unfold serviceTime
    rw [getElem?_convertedPois, hplace]
    rfl
  simp [timeDimension, htravel, hservice]

/-- The window of a converted place. -/
theorem ranges_convertedModel {places : List ValidPlace} {i : ℕ} {place : ValidPlace}
    (hplace : places[i]? = some place) (start : ℤ) :
    ((convertedPois places).zipIdx.map fun poi => defaultWindow start poi.2)[i]? =
      some (defaultWindow start i) := by
  rw [List.getElem?_map, List.getElem?_zipIdx, getElem?_convertedPois, hplace]
  simp

/-- The model uses what was extracted of a place exactly when this is what it would take
anyway. -/
theorem usesExtracted_iff {readHours : PyDict → Option (ℤ × ℤ)} {places : List ValidPlace}
    {i : ℕ} {place : ValidPlace} (hplace : places[i]? = some place) (start : ℤ) :
    (∀ durations, UsesExtracted readHours durations
        (timeDimension (timeMatrixMinutes durations) (convertedPois places)
          ((convertedPois places).zipIdx.map fun poi => defaultWindow start poi.2)) i place) ↔
      place.1.visitDurationMinutes = 60 ∧
        ∀ window ∈ readHours place.1.openingHours, window = defaultWindow start i := by
  have hranges := ranges_convertedModel hplace start
  constructor
  · intro huses
    have hi : i < places.length := (List.getElem?_eq_some_iff.mp hplace).1
    -- a column of zeros has a time for a leg from every place
    have hentry : matrixAt (timeMatrixMinutes (List.replicate places.length [0])) i 0 = some 0 := by
      rw [matrixAt_timeMatrixMinutes]
      simp [matrixAt, hi]
    have hzeros := huses (List.replicate places.length [0])
    refine ⟨?_, ?_⟩
    · have htransit := hzeros.serviceTime 0 0 hentry
      rw [transit_convertedModel hplace hentry] at htransit
      simpa using htransit.symm
    · intro window hwindow
      have hrange := hzeros.timeWindow window hwindow
      exact Option.some.inj (hrange.symm.trans hranges)
  · rintro ⟨hduration, hhours⟩ durations
    refine ⟨?_, ?_⟩
    · intro j travelTime htravel
      rw [transit_convertedModel hplace htravel, hduration]
    · intro window hwindow
      rw [hhours window hwindow]
      exact hranges

/-- The timed model uses the durations and hours that were extracted exactly when, of every
converted place, the duration is an hour and the hours are those that the model takes. -/
theorem keepsExtracted_iff (readHours : PyDict → Option (ℤ × ℤ)) (legacyPlaces : List PyVal)
    (startTime : String) :
    KeepsExtracted readHours legacyPlaces startTime ↔
      (1 < (convertPlacesToOrtools legacyPlaces).1.length →
        ∀ start, parseTimeToMinutes startTime = .ok start →
          ∀ i place, (convertPlacesToOrtools legacyPlaces).1[i]? = some place →
            place.1.visitDurationMinutes = 60 ∧
              ∀ window ∈ readHours place.1.openingHours, window = defaultWindow start i) := by
  constructor
  · intro hkeeps hcount start hstart i place hplace
    apply (usesExtracted_iff hplace start).mp
    intro durations
    exact hkeeps ⟨[], durations⟩ _ (timedModel_eq_some_iff.mpr ⟨hcount, start, hstart, rfl⟩) _ rfl
      i place hplace
  · intro hdefaults matrix problem hproblem dimension hdimension i place hplace
    obtain ⟨hcount, start, hstart, rfl⟩ := timedModel_eq_some_iff.mp hproblem
    obtain rfl := Option.some.inj hdimension
    exact (usesExtracted_iff hplace start).mpr (hdefaults hcount start hstart i place hplace)
      matrix.durations

/-- A place in Santiago and a museum there. -/
def museumVisit : List PyVal :=
  [.dict [("name", .str "Plaza de Armas")],
    .dict [("name", .str "Museo"), ("type", .str "museum")]]

/-- The converter gives two hours to a museum, and the model an hour. -/
theorem not_keepsExtracted_museum : ¬ KeepsExtracted (fun _ => none) museumVisit "09:00" := by
  intro hkeeps
  have hdurations : (convertPlacesToOrtools museumVisit).1.map
      (fun place => place.1.visitDurationMinutes) = [60, 120] := by
    decide +kernel
  have hcount : 1 < (convertPlacesToOrtools museumVisit).1.length := by
    rw [← List.length_map (fun place : ValidPlace => place.1.visitDurationMinutes), hdurations]
    decide
  have hstart : parseTimeToMinutes "09:00" = .ok 540 := by
    decide +kernel
  have hmuseum := congrArg (fun durations => durations[1]?) hdurations
  obtain ⟨place, hplace, hduration⟩ := Option.map_eq_some_iff.mp
    ((List.getElem?_map ..).symm.trans hmuseum)
  have huses := (usesExtracted_iff hplace 540).mp fun durations =>
    hkeeps ⟨[], durations⟩ _ (timedModel_eq_some_iff.mpr ⟨hcount, 540, hstart, rfl⟩) _ rfl 1 place
      hplace
  rw [hduration] at huses
  exact absurd huses.1 (by decide)

end Goveling.Ortools
