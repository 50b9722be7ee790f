/-
# What the decision engine reads of a request

The choice between OR-Tools and the legacy system rests on three analyses of the
request: how complex the itinerary is, what the feature flags say of the user and
the city, and how far the places lie apart. They read much more than the number of
places: coordinates, types, cities, opening hours and fixed activities.
-/

import Goveling.Math.OrderedMap
import Goveling.Python.Text
import Goveling.Python.Value

namespace Goveling.Ortools

open Goveling.Math Goveling.Python

/-! ## Surroundings -/

/-- The settings that a decision reads. -/
structure DecisionSettings where
  enableOrtools : Bool := false
  minPlaces : ℤ := 4
  minDays : ℤ := 1
  maxPlaces : ℤ := 50
  maxDistanceKm : ℤ := 500
  expectedExecTimeMs : ℤ := 2000
  cities : String := "santiago,valparaiso,antofagasta,la_serena,concepcion,temuco,iquique,calama"
  excludeCities : String := ""
  userPercentage : ℤ := 50

/-- The objects of `datetime`: a day, a moment, and a moment with an offset from UTC. -/
inductive Moment
  | date (day : ℤ)
  | naive (seconds : ℚ)
  | aware (seconds offset : ℚ)

/-- `(stop - start).days`, unless the subtraction raises. -/
def daysBetween : Moment → Moment → Option ℤ
  | .date start, .date stop => some (stop - start)
  | .naive start, .naive stop => some ⌊(stop - start) / 86400⌋
  | .aware start offset, .aware stop other =>
      some ⌊((stop - other) - (start - offset)) / 86400⌋
  | _, _ => none

/-- A date of a request. The endpoints pass texts and the optimizer passes moments. -/
inductive DateField
  | value (value : PyVal)
  | moment (moment : Moment)

/-- `request_data`, with its two dates apart. -/
structure RequestData where
  entries : PyDict
  startDate : Option DateField := none
  endDate : Option DateField := none

/-- The library functions that the analyses call. -/
structure AnalysisLibrary where
  fromisoformat : String → Except PyError Moment
  sqrt : ℚ → ℚ
  radians : ℚ → ℚ
  dbscanLabels : List (ℚ × ℚ) → Except PyError (List ℤ)
  md5Number : String → ℕ
  textOf : PyVal → String
  momentText : Moment → String

/-- `request_data.get(key, default)` for a key that is not a date. -/
def RequestData.get (request : RequestData) (key : String) (default : PyVal) : PyVal :=
  PyDict.get request.entries key default

/-! ## Places -/

/-- `request_data.get("places", [])`. -/
def placesOf (request : RequestData) : PyVal := request.get "places" (.list [])

/-- `get_place_attr`: the first of the keys that the place has. -/
def placeAttr (place : PyVal) (first second : String) (default : PyVal) : PyVal :=
  match place with
  | .dict entries =>
      ((entries.lookup first).or (entries.lookup second)).getD default
  | _ => default

/-- The values of a coordinate, from the places that have one which is not zero. -/
def coordinateValues (first second : String) (places : List PyVal) :
    Except PyError (List PyVal) := do
  let values ← places.mapM fun place => do
    let entries ← place.getter
    return if (PyDict.get entries first .none).truthy || (PyDict.get entries second .none).truthy
      then some (PyDict.get entries first (PyDict.get entries second (.int 0)))
      else none
  return values.reduceOption

/-- `max(values) - min(values)`. -/
def extent (values : List PyVal) : Except PyError ℚ := do
  let largest ← PyVal.maxOf values
  let smallest ← PyVal.minOf values
  largest.minus smallest

/-- `_calculate_geographic_spread`. -/
def calculateGeographicSpread (library : AnalysisLibrary) (places : PyVal) :
    Except PyError ℚ := do
  if (← places.len) < 2 then return 0
  let items ← places.iterate
  let lats ← coordinateValues "lat" "latitude" items
  let lons ← coordinateValues "lon" "longitude" items
  if lats.isEmpty || lons.isEmpty then return 0
  let latKm := (← extent lats) * 111
  let lonKm := (← extent lons) * 111 * (8 / 10)
  return library.sqrt (latKm ^ 2 + lonKm ^ 2)

/-! ## Complexity -/

/-- `ItineraryComplexity`. -/
structure ItineraryComplexity where
  placesCount : ℕ
  daysCount : ℤ
  geographicSpreadKm : ℚ
  semanticDiversity : ℕ
  timeConstraints : ℕ
  transportComplexity : String
  overallScore : ℚ

/-- What tells the elements of a set apart: numbers of all types are compared by value. -/
inductive HashKey
  | none
  | number (value : ℚ)
  | text (value : String)
  deriving DecidableEq

/-- The element of a set that a value becomes. -/
def hashKey (value : PyVal) : Except PyError HashKey :=
  match value.number?, value with
  | some number, _ => .ok (.number number)
  | Option.none, .none => .ok .none
  | Option.none, .str text => .ok (.text text)
  | Option.none, other => .error (.typeError ("unhashable type: '" ++ other.typeName ++ "'"))

/-- `_calculate_semantic_diversity`. -/
def calculateSemanticDiversity (places : PyVal) : Except PyError ℕ := do
  let items ← places.iterate
  let types ← items.mapM fun place => hashKey (placeAttr place "type" "place_type" (.str "unknown"))
  return types.dedup.length

/-- The length of an optional list of constraints. -/
def constraintsUnder (request : RequestData) (key : String) : Except PyError ℕ :=
  let value := request.get key .none
  if value.truthy then value.len else .ok 0

/-- `_count_time_constraints`. -/
def countTimeConstraints (request : RequestData) : Except PyError ℕ := do
  let given (key : String) : ℕ := if (request.get key .none).truthy then 1 else 0
  let windows ← constraintsUnder request "time_windows"
  let fixed ← constraintsUnder request "fixed_activities"
  return given "daily_start_hour" + given "daily_end_hour" + windows + fixed

/-- `_analyze_transport_complexity`. -/
def analyzeTransportComplexity (request : RequestData) : String :=
  let transportMode := request.get "transport_mode" (.str "driving")
  if transportMode.isText "walking" then "simple"
  else if transportMode.isText "transit" || transportMode.isText "mixed" then "complex"
  else "medium"

/-- The value of the first bound that is reached, in a list of falling bounds. -/
def weightOf (value : ℚ) : List (ℚ × ℚ) → ℚ
  | [] => 0
  | (bound, weight) :: rest => if bound ≤ value then weight else weightOf value rest

/-- `_calculate_overall_complexity`. -/
def calculateOverallComplexity (placesCount : ℕ) (daysCount : ℤ) (geographicSpread : ℚ)
    (semanticDiversity timeConstraints : ℕ) (transportComplexity : String) : ℚ :=
  let score :=
    weightOf placesCount [(10, 3), (6, 2), (3, 1)] +
    weightOf daysCount [(5, 2), (3, 1), (2, 1 / 2)] +
    weightOf geographicSpread [(100, 2), (50, 3 / 2), (20, 1), (5, 1 / 2)] +
    min ((semanticDiversity : ℚ) * (3 / 10)) (3 / 2) +
    min ((timeConstraints : ℚ) * (2 / 10)) 1 +
    (if transportComplexity = "simple" then 0
    else if transportComplexity = "complex" then 1 else 1 / 2)
  min score 10

/-- The moment behind a date of the request. -/
def momentOf (library : AnalysisLibrary) : DateField → Option Moment
  | .moment moment => some moment
  | .value (.str text) => (library.fromisoformat (replaceText text "Z" "+00:00")).toOption
  | .value _ => none

/-- `days_count`: one day when the dates cannot be read or subtracted. -/
def daysCountOf (library : AnalysisLibrary) (request : RequestData) : ℤ :=
  let days := do
    let start ← request.startDate >>= momentOf library
    let stop ← request.endDate >>= momentOf library
    daysBetween start stop
  match days with
  | some days => days + 1
  | none => 1

/-- `_analyze_complexity`. -/
def analyzeComplexity (library : AnalysisLibrary) (request : RequestData) :
    Except PyError ItineraryComplexity := do
  let places := placesOf request
  let placesCount ← places.len
  let daysCount := daysCountOf library request
  let geographicSpread ← calculateGeographicSpread library places
  let semanticDiversity ← calculateSemanticDiversity places
  let timeConstraints ← countTimeConstraints request
  let transportComplexity := analyzeTransportComplexity request
  return {
    placesCount := placesCount
    daysCount := daysCount
    geographicSpreadKm := geographicSpread
    semanticDiversity := semanticDiversity
    timeConstraints := timeConstraints
    transportComplexity := transportComplexity
    overallScore := calculateOverallComplexity placesCount daysCount geographicSpread
      semanticDiversity timeConstraints transportComplexity }

/-! ## The city -/

/-- `float(value)`, unless it raises or is not finite. -/
def floatOf : PyVal → Option ℚ
  | .str text => finiteFloat? text
  | value => value.number?

/-- A group of places by its label; places without a group stand alone. -/
inductive ClusterLabel
  | group (label : ℤ)
  | noise (index : ℕ)
  deriving DecidableEq

/-- The keys of a cluster that are read. -/
structure GeographicCluster where
  placesCount : ℕ
  centerLat : ℚ
  centerLon : ℚ

/-- The coordinates, in radians, of the places that have valid ones. -/
def validCoordinates (library : AnalysisLibrary) (places : List PyVal) : List (ℚ × ℚ) :=
  places.filterMap fun place =>
    match floatOf (placeAttr place "lat" "latitude" .none),
        floatOf (placeAttr place "lon" "longitude" .none) with
    | some lat, some lon =>
        if (-90 ≤ lat ∧ lat ≤ 90) ∧ (-180 ≤ lon ∧ lon ≤ 180) then
          some (library.radians lat, library.radians lon)
        else none
    | _, _ => none

/-- The mean of some angles, in degrees. -/
def meanDegrees (angles : List ℚ) : ℚ := angles.sum / angles.length * 180 / (314159 / 100000)

/-- `_detect_geographic_clusters`. -/
def detectGeographicClusters (library : AnalysisLibrary) (places : List PyVal) :
    Except PyError (List GeographicCluster) :=
  if places.length < 2 then .ok []
  else
    let coordinates := validCoordinates library places
    if coordinates.length < 2 then .ok []
    else do
      let labels ← library.dbscanLabels coordinates
      let labelled := (labels.zip coordinates).zipIdx
      let labelOf (item : (ℤ × ℚ × ℚ) × ℕ) : ClusterLabel :=
        if item.1.1 = -1 then .noise item.2 else .group item.1.1
      return (OrderedMap.gather labelOf labelled).values.map fun members =>
        { placesCount := members.length
          centerLat := meanDegrees (members.map fun item => item.1.2.1)
          centerLon := meanDegrees (members.map fun item => item.1.2.2) }

/-- The city that the coordinates stand for when no place names one. -/
def cityOfCoordinates (library : AnalysisLibrary) (places : List PyVal) : Except PyError PyVal :=
  match detectGeographicClusters library places with
  | .ok [cluster] =>
      .ok (.str ("city_cluster_" ++ fixedText 2 cluster.centerLat ++ "_" ++
        fixedText 2 cluster.centerLon))
  | .ok [] => .ok (.str "single_location")
  | .ok clusters => .ok (.str ("multi_city_" ++ toString clusters.length ++ "_clusters"))
  | .error _ => do
      let lats ← coordinateValues "lat" "latitude" places
      let lons ← coordinateValues "lon" "longitude" places
      if lats.isEmpty || lons.isEmpty then return .none
      let avgLat ← (← PyVal.sum lats).dividedBy lats.length
      let avgLon ← (← PyVal.sum lons).dividedBy lons.length
      return .str ("location_" ++ (← avgLat.formatFixed 2) ++ "_" ++ (← avgLon.formatFixed 2))

/-- `_detect_city`. -/
def detectCity (library : AnalysisLibrary) (request : RequestData) : Except PyError PyVal :=
  let places := placesOf request
  if !places.truthy then .ok .none
  else do
    let items ← places.iterate
    match items.find? fun place => (placeAttr place "city" "locality" .none).truthy with
    | some place => return placeAttr place "city" "locality" .none
    | none => cityOfCoordinates library items

/-! ## Feature flags -/

/-- The dictionary of `_check_feature_flags`. -/
structure FeatureFlags where
  enabled : Bool
  reason : String
  userEligible : Bool
  geoEligible : Bool
  deriving DecidableEq

/-- `_check_user_eligibility`. -/
def checkUserEligibility (settings : DecisionSettings) (library : AnalysisLibrary)
    (request : RequestData) : Bool :=
  if 100 ≤ settings.userPercentage then true
  else if settings.userPercentage ≤ 0 then false
  else
    let userId := request.get "user_id" (request.get "session_id" (.str "anonymous"))
    ((library.md5Number (library.textOf userId) % 100 : ℕ) : ℤ) < settings.userPercentage

/-- The names in a setting, in small letters. -/
def cityNames (setting : String) : List String :=
  ((setting.toList.splitOn ',').map fun name => stripText (String.ofList name)).filterMap
    fun name => if name = "" then none else some (lowerText name)

/-- `_check_geo_eligibility`. -/
def checkGeoEligibility (settings : DecisionSettings) (library : AnalysisLibrary)
    (request : RequestData) : Except PyError Bool :=
  if settings.cities = "" then .ok true
  else do
    let detectedCity ← detectCity library request
    if !detectedCity.truthy then return true
    match detectedCity with
    | .str city =>
        let allowed := cityNames settings.cities
        return !(lowerText city ∈ cityNames settings.excludeCities ||
          (allowed ≠ [] && lowerText city ∉ allowed))
    | other => throw (.attributeError
        ("'" ++ other.typeName ++ "' object has no attribute 'lower'"))

/-- `_check_feature_flags`. -/
def checkFeatureFlags (settings : DecisionSettings) (library : AnalysisLibrary)
    (request : RequestData) : Except PyError FeatureFlags :=
  if !settings.enableOrtools then
    .ok { enabled := false, reason := "ENABLE_ORTOOLS=False", userEligible := false,
          geoEligible := false }
  else do
    let geoEligible ← checkGeoEligibility settings library request
    return {
      enabled := settings.enableOrtools
      reason := "feature_flags_passed"
      userEligible := checkUserEligibility settings library request
      geoEligible := geoEligible }

/-! ## Geography -/

/-- The dictionary of `_analyze_geography`. -/
inductive GeoAnalysis
  | noPlaces
  | analyzed (appropriate : Bool) (reasons : List String) (spreadKm : ℚ) (detectedCity : PyVal)
      (placesCount : ℕ)

/-- `geo_analysis.get("appropriate_for_ortools", True)`. -/
def GeoAnalysis.appropriate : GeoAnalysis → Bool
  | noPlaces => true
  | analyzed appropriate _ _ _ _ => appropriate

/-- `geo_analysis.get("reasons", [])`. -/
def GeoAnalysis.reasons : GeoAnalysis → List String
  | noPlaces => []
  | analyzed _ reasons _ _ _ => reasons

/-- `_analyze_geography`. -/
def analyzeGeography (settings : DecisionSettings) (library : AnalysisLibrary)
    (request : RequestData) : Except PyError GeoAnalysis :=
  let places := placesOf request
  if !places.truthy then .ok .noPlaces
  else do
    let geographicSpread ← calculateGeographicSpread library places
    let detectedCity ← detectCity library request
    let placesCount ← places.len
    let tooLarge : Bool := settings.maxDistanceKm < geographicSpread
    let tooMany : Bool := settings.maxPlaces < placesCount
    let spreadReason :=
      if tooLarge then ["spread_too_large_" ++ fixedText 0 geographicSpread ++ "km"] else []
    let countReason := if tooMany then ["too_many_places_" ++ toString placesCount] else []
    return .analyzed (!(tooLarge || tooMany)) (spreadReason ++ countReason) geographicSpread
      detectedCity placesCount

end Goveling.Ortools
