/-
# How the endpoints read a result

Both itinerary endpoints take the dictionary of an optimizer apart by hand. The
classic optimizer gives a list of days with their items under `activities`; a
converted route gives a dictionary of days with their items under `places`. The
hybrid endpoint iterates over the keys of that dictionary and raises; the
multimodal endpoint finds the days and no items in them.
-/

import Goveling.Ortools.FormatConverter
import Mathlib.Data.String.Basic

namespace Goveling.Api

open Goveling.Python Goveling.Ortools

/-- What an endpoint makes of a day: the parts that come from the result. -/
structure FrontendDay where
  day : ℕ
  date : PyVal
  places : List PyDict
  transfers : List PyDict
  activityMinutes : ℚ
  transportMinutes : ℚ
  isSuggested : Bool
  base : PyVal
  freeBlocks : PyVal
  actionableRecommendations : PyVal
  scheduleInfo : PyVal

/-- `get_value`: the value of a key, and the default for what is no dictionary. -/
def getValue (obj : PyVal) (key : String) (default : PyVal) : PyVal :=
  match obj with
  | .dict entries => PyDict.get entries key default
  | _ => default

/-! ## The hybrid endpoint -/

/-- A local variable, if it is assigned already. -/
def localName (locals : PyDict) (name : String) : Except PyError PyVal :=
  match locals.lookup name with
  | some value => .ok value
  | none => .error (.unboundLocalError name)

/-- `len(day.get("activities", []))`. -/
def activitiesCount (day : PyVal) : Except PyError ℕ := do
  (← day.get "activities" (.list [])).len

/-- Two coordinates differ by less than a hundredth of a degree. -/
def isNear (first second : PyVal) : Except PyError Bool :=
  match first.number?, second.number? with
  | some a, some b => .ok (decide (|a - b| < mkRat 1 100))
  | _, _ => .error (.typeError
      ("unsupported operand type(s) for -: '" ++ first.typeName ++ "' and '" ++
        second.typeName ++ "'"))

/-- Two points whose coordinates are near. The second pair is compared only if the
first one is near. -/
def sameSpot (first second : PyVal × PyVal) : Except PyError Bool := do
  if ← isNear first.1 second.1 then isNear first.2 second.2 else .ok false

/-- `transfer.copy()`, of which `get` is called next. -/
def copied : PyVal → Except PyError PyDict
  | .dict entries => .ok entries
  | .list _ => .error (.attributeError "'list' object has no attribute 'get'")
  | other => .error (.attributeError ("'" ++ other.typeName ++ "' object has no attribute 'copy'"))

/-- One turn of the loop over the bases: an end of the transfer that lies at the base
gets its name. -/
def nameEnds (transfer corrected : PyDict) (base : PyVal) : Except PyError PyDict := do
  let spot := (← base.get "lat" (.int 0), ← base.get "lon" (.int 0))
  let nameOr := fun key => base.get "name" (transfer.get key (.str ""))
  let origin := (transfer.get "from_lat" (.int 0), transfer.get "from_lon" (.int 0))
  let dest := (transfer.get "to_lat" (.int 0), transfer.get "to_lon" (.int 0))
  let corrected ←
    if ← sameSpot spot origin then (nameOr "from").map (corrected.set "from")
    else .ok corrected
  if ← sameSpot spot dest then (nameOr "to").map (corrected.set "to") else .ok corrected

/-- The metrics with the names of bases at the ends of the intercity transfers. -/
def correctAliases (days optimizationMetrics : PyVal) : Except PyError PyVal := do
  if (← optimizationMetrics.contains "intercity_transfers") && days.truthy then
    let bases ← (← days.iterate).mapM fun day => day.get "base" (.dict [])
    let tempBases := bases.filter PyVal.truthy
    let transfers ← (← optimizationMetrics.item "intercity_transfers").iterate
    let corrected ← transfers.mapM fun value => do
      let transfer ← copied value
      tempBases.foldlM (nameEnds transfer) transfer
    optimizationMetrics.setItem "intercity_transfers" (.list (corrected.map .dict))
  else .ok optimizationMetrics

/-- The hybrid endpoint from a result that passed its check to the days of the
response. `semantic_info` and `suggestions_by_date` are read in the function before
the lines that assign them, and `formatDays` is what would follow. -/
def readHybrid {β : Type} (formatDays : PyVal → List PyVal → Except PyError β)
    (optimizationResult : PyDict) : Except PyError β := do
  let days := optimizationResult.get "days" (.list [])
  let clustersInfo := optimizationResult.get "clusters_info" (.dict [])
  let _optimizationMetrics ←
    correctAliases days (optimizationResult.get "optimization_metrics" (.dict []))
  let daysData ← days.iterate
  let _totalActivities ← daysData.mapM activitiesCount
  let _semanticInfo ← localName [] "semantic_info"
  let _packingStrategy ← clustersInfo.get "packing_strategy_used" (.str "balanced")
  let suggestionsByDate ← localName [] "suggestions_by_date"
  formatDays suggestionsByDate daysData

section Hybrid

variable {β : Type} (formatDays : PyVal → List PyVal → Except PyError β)
  {optimizationResult : PyDict}

/-- Once the days are read and counted, `semantic_info` is read. -/
theorem readHybrid_unbound {optimizationMetrics : PyVal} {daysData : List PyVal} {counts : List ℕ}
    (hmetrics : correctAliases (optimizationResult.get "days" (.list []))
      (optimizationResult.get "optimization_metrics" (.dict [])) = .ok optimizationMetrics)
    (hdays : (optimizationResult.get "days" (.list [])).iterate = .ok daysData)
    (hcounts : daysData.mapM activitiesCount = .ok counts) :
    readHybrid formatDays optimizationResult = .error (.unboundLocalError "semantic_info") := by
  simp only [readHybrid, hmetrics, hdays, hcounts, bind, Except.bind]
  rfl

/-- No result gets through. -/
theorem exists_readHybrid_eq_error (optimizationResult : PyDict) :
    ∃ e, readHybrid formatDays optimizationResult = .error e := by
  cases hread : readHybrid formatDays optimizationResult with
  | error e => exact ⟨e, rfl⟩
  | ok days =>
      obtain ⟨_, hmetrics, hread'⟩ := exists_of_bind_eq_ok hread
      obtain ⟨_, hdays, hread'⟩ := exists_of_bind_eq_ok hread'
      obtain ⟨_, hcounts, -⟩ := exists_of_bind_eq_ok hread'
      rw [readHybrid_unbound formatDays hmetrics hdays hcounts] at hread
      cases hread

end Hybrid

/-! ## The multimodal endpoint -/

/-- The time of day of a number of minutes, which is given in hours and minutes
with the integer format. -/
def formatClock : PyVal → Except PyError PyVal
  | .int minutes => .ok (.str (clockText minutes))
  | .bool value => .ok (.str (clockText (if value then 1 else 0)))
  | .float _ => .error (.valueError "Unknown format code 'd' for object of type 'float'")
  | other => .error (.typeError
      ("unsupported operand type(s) for //: '" ++ other.typeName ++ "' and 'int'"))

/-- The entry for a time that may be missing. -/
def clockEntry (key : String) (time : PyVal) : Except PyError PyDict :=
  match time with
  | .none => .ok []
  | time => (formatClock time).map fun text => [(key, text)]

/-- The text of a number of minutes in hours. -/
def hoursText (minutes : PyVal) : Except PyError PyVal :=
  match minutes.number? with
  | some number => .ok (.str (fixedText 1 (number / 60) ++ "h"))
  | none => .error (.typeError
      ("unsupported operand type(s) for /: '" ++ minutes.typeName ++ "' and 'int'"))

/-- An item is a transfer when its type or its activity type says so. -/
def isIntercityTransfer (activity : PyVal) : Bool :=
  ["type", "activity_type"].any fun key =>
    match getValue activity key .none with
    | .str value => value = "intercity_transfer"
    | _ => false

/-- `format_activity_for_frontend_simple` for a transfer, under its place in the
list of transfers and without the random identifier. -/
def formatTransfer (activity : PyVal) (order : ℕ) : Except PyError PyDict := do
  let departure ← clockEntry "departure_time" (getValue activity "start_time" .none)
  let arrival ← clockEntry "arrival_time" (getValue activity "end_time" .none)
  .ok (
    [("name", getValue activity "name" (.str "Transfer")),
      ("transfer_type", .str "intercity"),
      ("from_place", getValue activity "from_place" (.str "Origen")),
      ("to_place", getValue activity "to_place" (.str "Destino")),
      ("distance_km", getValue activity "distance_km" (.float 0)),
      ("duration_minutes", getValue activity "duration_minutes" (.int 0)),
      ("transport_mode", getValue activity "recommended_mode" (.str "drive"))] ++
    departure ++ arrival ++ [("transfer_order", .int order)])

/-- `format_activity_for_frontend_simple` for a place, without the random identifier. -/
def formatPlace (env : ConverterEnv) (activity : PyVal) (order : ℕ) : Except PyError PyDict := do
  let duration := getValue activity "duration_minutes" (.int 60)
  let name := getValue activity "name" (.str "lugar")
  let hours ← hoursText duration
  let arrival ← clockEntry "arrival_time" (getValue activity "start_time" .none)
  let departure ← clockEntry "departure_time" (getValue activity "end_time" .none)
  .ok (
    [("name", getValue activity "name" (.str "Lugar sin nombre")),
      ("category",
        getValue activity "type" (getValue activity "place_type" (.str "point_of_interest"))),
      ("rating", (getValue activity "rating" (.float (9 / 2))).orElse (.float (9 / 2))),
      ("image", getValue activity "image" (.str "")),
      ("description",
        getValue activity "description" (.str ("Visita a " ++ env.textOf name))),
      ("estimated_time", hours),
      ("duration_minutes", duration),
      ("priority", getValue activity "priority" (.int 5)),
      ("lat", getValue activity "lat" (.float 0)),
      ("lng", getValue activity "lon" (getValue activity "lng" (.float 0))),
      ("recommended_duration", hours),
      ("order", .int order),
      ("walking_time_minutes", .int 0)] ++ arrival ++ departure)

/-- The places and the transfers of a day so far. -/
structure DayItems where
  places : List PyDict := []
  transfers : List PyDict := []

/-- One turn of the loop over the items of a day. -/
def readActivity (env : ConverterEnv) (items : DayItems) (activity : PyVal) :
    Except PyError DayItems :=
  if isIntercityTransfer activity then do
    let transfer ← formatTransfer activity (items.transfers.length + 1)
    .ok { items with transfers := items.transfers ++ [transfer] }
  else do
    let place ← formatPlace env activity (items.places.length + 1)
    .ok { items with places := items.places ++ [place] }

/-- `sum(item.get(key, 0) for item in items)`. -/
def sumOf (key : String) (items : List PyDict) : Except PyError ℚ :=
  items.foldlM (fun total item =>
    let value := item.get key (.int 0)
    match value.number? with
    | some number => .ok (total + number)
    | none => .error (.typeError
        ("unsupported operand type(s) for +: 'int' and '" ++ value.typeName ++ "'"))) 0

/-- One turn of the loop over the days. -/
def readDay (env : ConverterEnv) (dayCounter : ℕ) (value : PyVal) :
    Except PyError FrontendDay := do
  let day ← value.getter
  let activities := day.get "activities" (.list [])
  let items ← (← activities.iterate).foldlM (readActivity env) {}
  let activityMinutes ← sumOf "duration_minutes" items.places
  let transportMinutes ← sumOf "duration_minutes" items.transfers
  let count ← activities.len
  .ok
    { day := dayCounter
      date := day.get "date" (.str "")
      places := items.places
      transfers := items.transfers
      activityMinutes := activityMinutes
      transportMinutes := transportMinutes
      isSuggested := count = 0
      base := day.get "base" .none
      freeBlocks := day.get "free_blocks" (.list [])
      actionableRecommendations := day.get "actionable_recommendations" (.list [])
      scheduleInfo := day.get "schedule_info" .none }

/-- The days of a result: a dictionary is read in the order of its sorted keys. -/
def daysInOrder : PyVal → Except PyError (List PyVal)
  | .dict rawDays => (sortedBy id (rawDays.map Prod.fst)).mapM (PyDict.item rawDays)
  | rawDays => rawDays.iterate

/-- The multimodal endpoint from a result to the days of the response, before free
days are filled with suggestions. -/
def readMultimodal (env : ConverterEnv) (optimizationResult : PyDict) :
    Except PyError (List FrontendDay) :=
  if optimizationResult.has "days" then do
    let daysData ← daysInOrder (optimizationResult.get "days" .none)
    daysData.zipIdx.mapM fun day => readDay env (day.2 + 1) day.1
  else .error (.valueError "Resultado de optimización multi-modal inválido")

/-! ## Drop-in replacements -/

/-- A place of a response is the place that an optimizer was given. -/
structure Shows (place poi : PyDict) : Prop where
  name : ∀ name, poi.lookup "name" = some name → place.lookup "name" = some name
  lat : place.lookup "lat" = poi.lookup "lat"
  lng : place.lookup "lng" = poi.lookup "lon"

/-- Every visited place is exactly one of the places of the days. -/
def ShowsEachOnce (visited : List PyDict) (days : List FrontendDay) : Prop :=
  ∀ poi ∈ visited, ∃! position : ℕ, ∃ place : PyDict,
    (days.flatMap FrontendDay.places)[position]? = some place ∧ Shows place poi

/-- A legacy result through which both endpoints show every visited place once. -/
structure IsDropIn (formatDays : PyVal → List PyVal → Except PyError (List FrontendDay))
    (env : ConverterEnv) (visited : List PyDict) (legacy : PyDict) : Prop where
  hybrid : ∃ days, readHybrid formatDays legacy = .ok days ∧ ShowsEachOnce visited days
  multimodal : ∃ days, readMultimodal env legacy = .ok days ∧ ShowsEachOnce visited days

section Legacy

variable {env : ConverterEnv} {ortoolsResult day : PyDict} {clusters recommendations : List PyVal}

/-- The keys of the days are texts, and a text has no `get`. -/
theorem readHybrid_legacyDict
    (formatDays : PyVal → List PyVal → Except PyError (List FrontendDay)) :
    readHybrid formatDays
        (legacyDict env ortoolsResult [("day_1", .dict day)] clusters recommendations) =
      .error (.attributeError "'str' object has no attribute 'get'") := by
  rfl

/-- What the multimodal endpoint makes of a day without activities. -/
def dayWithoutItems (dayCounter : ℕ) (day : PyDict) : FrontendDay where
  day := dayCounter
  date := day.get "date" (.str "")
  places := []
  transfers := []
  activityMinutes := 0
  transportMinutes := 0
  isSuggested := true
  base := day.get "base" .none
  freeBlocks := day.get "free_blocks" (.list [])
  actionableRecommendations := day.get "actionable_recommendations" (.list [])
  scheduleInfo := day.get "schedule_info" .none

theorem readDay_of_no_activities (dayCounter : ℕ) (hactivities : day.lookup "activities" = none) :
    readDay env dayCounter (.dict day) = .ok (dayWithoutItems dayCounter day) := by
  have hnone : PyDict.get day "activities" (.list []) = .list [] := by
    simp [PyDict.get, hactivities]
  simp only [readDay, PyVal.getter_dict, hnone, PyVal.iterate_list, PyVal.len_list, bind,
    Except.bind]
  rfl

/-- The day is found, but it has no activities. -/
theorem readMultimodal_legacyDict (hactivities : day.lookup "activities" = none) :
    readMultimodal env
        (legacyDict env ortoolsResult [("day_1", .dict day)] clusters recommendations) =
      .ok [dayWithoutItems 1 day] := by
  have hhas : PyDict.has
      (legacyDict env ortoolsResult [("day_1", .dict day)] clusters recommendations) "days" =
        true := rfl
  have hfound : PyDict.get
      (legacyDict env ortoolsResult [("day_1", .dict day)] clusters recommendations) "days"
        .none = .dict [("day_1", .dict day)] := rfl
  have hdays : daysInOrder (.dict [("day_1", .dict day)]) = .ok [.dict day] := rfl
  unfold readMultimodal
  rw [if_pos hhas, hfound, hdays]
  show [(PyVal.dict day, 0)].mapM (fun day => readDay env (day.2 + 1) day.1) = _
  rw [List.mapM_cons, readDay_of_no_activities _ hactivities]
  rfl

end Legacy

/-- The days of a converted route are found by their keys `places`. -/
theorem lookup_activities_routeDay (ortoolsResult : PyDict) (pois : List PyDict) :
    (routeDay ortoolsResult pois).lookup "activities" = none := by
  simp [routeDay, List.lookup_cons]

section Converted

variable {pois : List PyDict} {solution : OptimizationResult}

/-- The multimodal endpoint shows a converted route as one day without places. -/
theorem readMultimodal_converted (env : ConverterEnv) (poisCount : ℕ)
    (hroute : IsSolverRoute pois.length solution.route) :
    ∃ day, readMultimodal env (convertOrtoolsToLegacyFormat env
          (optimizedResult poisCount solution (visitedPois pois solution.route))).data = .ok [day] ∧
      ¬ ShowsEachOnce (visitedPois pois solution.route) [day] := by
  obtain ⟨-, hdata⟩ : _ ∧ _ := convertOrtoolsToLegacyFormat_optimized env hroute
  rw [hdata]
  refine ⟨_, readMultimodal_legacyDict (lookup_activities_routeDay _ _), ?_⟩
  intro hshows
  have hdepot : 0 ∈ solution.route := List.mem_of_head? hroute.starts_at_depot
  obtain ⟨poi, hpoi⟩ := List.exists_mem_of_ne_nil _
    (visitedPois_ne_nil hdepot (hroute.lt_nodes 0 hdepot))
  obtain ⟨position, ⟨place, hplace, -⟩, -⟩ := hshows poi hpoi
  simp [dayWithoutItems] at hplace

/-- The hybrid endpoint does not get past the days of a converted route. -/
theorem readHybrid_converted
    (formatDays : PyVal → List PyVal → Except PyError (List FrontendDay)) (env : ConverterEnv)
    (poisCount : ℕ) (hroute : IsSolverRoute pois.length solution.route) :
    readHybrid formatDays (convertOrtoolsToLegacyFormat env
        (optimizedResult poisCount solution (visitedPois pois solution.route))).data =
      .error (.attributeError "'str' object has no attribute 'get'") := by
  obtain ⟨-, hdata⟩ : _ ∧ _ := convertOrtoolsToLegacyFormat_optimized env hroute
  rw [hdata]
  exact readHybrid_legacyDict formatDays

end Converted

/-- No converted result of a solved itinerary is a drop-in replacement. -/
theorem convertOrtoolsToLegacyFormat_not_dropIn
    (formatDays : PyVal → List PyVal → Except PyError (List FrontendDay)) (env : ConverterEnv)
    (solver : TspSolver) {pois : List PyDict} {matrix : OsrmMatrix} {useTimeWindows : Bool}
    {startTime : String} {solution : OptimizationResult}
    (hmatrix : matrix.distances.length = pois.length)
    (hsolution : solveItinerary solver pois matrix useTimeWindows startTime = .ok solution)
    (hsuccess : solution.success = true) :
    ∃ result, optimizeItineraryAdvanced solver pois matrix useTimeWindows startTime = .ok result ∧
      ¬ IsDropIn formatDays env (visitedPois pois solution.route)
        (convertOrtoolsToLegacyFormat env result).data := by
  have hroute := solveItinerary_isSolverRoute hmatrix hsolution hsuccess
  refine ⟨_, optimizeItineraryAdvanced_eq hsolution hsuccess hroute.lt_nodes, ?_⟩
  intro hdropIn
  obtain ⟨days, hread, -⟩ := hdropIn.hybrid
  rw [readHybrid_converted formatDays env _ hroute] at hread
  cases hread

/-- A museum, a beach and a park that are visited in this order. -/
theorem convertOrtoolsToLegacyFormat_not_dropIn_lastFirst :
    ∃ result, optimizeItineraryAdvanced lastFirstSolver threePois threeZeros = .ok result ∧
      ¬ IsDropIn (fun _ _ => .ok []) { timestamp := "", textOf := fun _ => "" }
        (visitedPois threePois [0, 2, 1])
        (convertOrtoolsToLegacyFormat { timestamp := "", textOf := fun _ => "" } result).data := by
  have hsolution : solveItinerary lastFirstSolver threePois threeZeros false "09:00" =
      .ok (lastFirstSolver.solveTspBasic threeZeros.distances) := rfl
  exact convertOrtoolsToLegacyFormat_not_dropIn (fun _ _ => .ok [])
    { timestamp := "", textOf := fun _ => "" } lastFirstSolver rfl hsolution rfl

/-- In the order of the input the conversion lists the three places, and still the
multimodal endpoint answers with one day and none of them on it. -/
theorem convertOrtoolsToLegacyFormat_shows_none_of_three :
    ∃ result, optimizeItineraryAdvanced inOrderSolver threePois threeZeros = .ok result ∧
      ¬ IsDropIn (fun _ _ => .ok []) { timestamp := "", textOf := fun _ => "" }
        (visitedPois threePois [0, 1, 2])
        (convertOrtoolsToLegacyFormat { timestamp := "", textOf := fun _ => "" } result).data := by
  have hsolution : solveItinerary inOrderSolver threePois threeZeros false "09:00" =
      .ok (inOrderSolver.solveTspBasic threeZeros.distances) := rfl
  have hroute : IsSolverRoute threePois.length
      (inOrderSolver.solveTspBasic threeZeros.distances).route :=
    ⟨by decide, by decide, rfl⟩
  refine ⟨_, optimizeItineraryAdvanced_eq hsolution rfl hroute.lt_nodes, ?_⟩
  intro hdropIn
  obtain ⟨days, hread, hshows⟩ := hdropIn.multimodal
  obtain ⟨day, hday, hnone⟩ :=
    readMultimodal_converted { timestamp := "", textOf := fun _ => "" } threePois.length hroute
  cases hread.symm.trans hday
  exact hnone hshows

end Goveling.Api
