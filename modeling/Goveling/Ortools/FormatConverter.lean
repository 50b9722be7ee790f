/-
# From optimizer results to legacy results

`convert_ortools_to_legacy_format` turns the dictionary of the professional
optimizer into the dictionary the endpoints know. The optimizer has put the
places in the order of the route already, and the conversion goes by the indices
of the route a second time: the stop with number `k` shows the place at
`route[route[k]]`.
-/

import Goveling.Ortools.ProfessionalOptimizer

namespace Goveling.Ortools

open Goveling.Python

/-- `FormatConversionResult`. -/
structure FormatConversionResult where
  success : Bool
  data : PyDict
  warnings : List String
  conversionMetadata : PyDict

/-- What the conversion takes from its surroundings: the current time as a text,
and the text of a value. -/
structure ConverterEnv where
  timestamp : String
  textOf : PyVal → String

/-! ## A route as a single day -/

/-- `optimized_pois[index]` for an index of the route, unless it is out of range. -/
def pickPoi (optimizedPois : PyVal) (index : PyVal) : Except PyError (Option PyVal) :=
  match index.number? with
  | none => .error (.typeError
      ("'<=' not supported between instances of 'int' and '" ++ index.typeName ++ "'"))
  | some number => do
      if 0 ≤ number then
        let count ← optimizedPois.len
        if number < count then
          match index with
          | .float _ =>
              .error (.typeError "list indices must be integers or slices, not float")
          | _ =>
              let poi ← optimizedPois.itemAt ⌊number⌋.toNat
              .ok (some poi)
        else .ok none
      else .ok none

/-- `ordered_pois`. -/
def orderPois (optimizedRoute optimizedPois : PyVal) : Except PyError (List PyVal) := do
  let indices ← optimizedRoute.iterate
  let picked ← indices.mapM (pickPoi optimizedPois)
  .ok (picked.filterMap id)

/-- The place of a stop: nine o'clock for the first and two hours from each to the next. -/
def legacyPlace (i : ℕ) (poi : PyDict) : PyDict :=
  let startHour : ℤ := 9 + i * 2
  [("name", poi.get "name" (.str ("Place " ++ toString (i + 1)))),
    ("lat", poi.get "lat" (poi.get "latitude" (.int 0))),
    ("lon", poi.get "lon" (poi.get "lng" (poi.get "longitude" (.int 0)))),
    ("type", poi.get "place_type" (poi.get "type" (.str "tourist_attraction"))),
    ("rating", poi.get "rating" (.float 4)),
    ("duration", poi.get "visit_duration_minutes" (.int 60)),
    ("start_time", .str (twoDigits startHour ++ ":00")),
    ("end_time", .str (twoDigits (startHour + 1) ++ ":00")),
    ("travel_time_to_next", .int 0),
    ("order", .int (i + 1))]

/-- The places of a day that visits dictionaries in order. -/
def legacyPlaces (pois : List PyDict) : List PyVal :=
  pois.mapIdx fun i poi => .dict (legacyPlace i poi)

/-- The day `day_1` of a converted route. -/
def routeDay (ortoolsResult : PyDict) (pois : List PyDict) : PyDict :=
  let places := legacyPlaces pois
  [("places", .list places),
    ("total_places", .int places.length),
    ("total_distance_km", ortoolsResult.get "total_distance_km" (.int 0)),
    ("total_time_minutes", ortoolsResult.get "total_time_minutes" (.int 0)),
    ("optimization_algorithm", ortoolsResult.get "algorithm_used" (.str "OR_TOOLS")),
    ("constraints_satisfied", ortoolsResult.get "constraints_satisfied" (.bool true))]

/-- `_convert_ortools_route_to_legacy`, with the warnings it adds. -/
def convertOrtoolsRouteToLegacy (ortoolsResult : PyDict) (warnings : List String) :
    Except PyError (PyDict × List String) := do
  let optimizedRoute := ortoolsResult.get "optimized_route" (.list [])
  let optimizedPois := ortoolsResult.get "optimized_pois" (.list [])
  if !optimizedRoute.truthy || !optimizedPois.truthy then
    .ok ([], warnings ++ ["ortools_route_data_incomplete"])
  else
    let orderedPois ← orderPois optimizedRoute optimizedPois
    if orderedPois.isEmpty then .ok ([], warnings ++ ["ortools_route_ordering_failed"])
    else
      let pois ← orderedPois.mapM PyVal.getter
      .ok ([("day_1", .dict (routeDay ortoolsResult pois))], warnings)

/-! ## Itineraries by day -/

/-- A place of `_convert_day_to_legacy`. -/
def legacyDayPlace (place : PyDict) : PyDict :=
  [("name", place.get "name" (.str "Unknown Place")),
    ("lat", place.get "latitude" (place.get "lat" (.int 0))),
    ("lon", place.get "longitude" (place.get "lon" (place.get "lng" (.int 0)))),
    ("type", place.get "place_type" (place.get "type" (.str "tourist_attraction"))),
    ("rating", place.get "rating" (.float 4)),
    ("duration", place.get "visit_duration_minutes" (.int 60)),
    ("start_time", place.get "visit_start_time" (.str "")),
    ("end_time", place.get "visit_end_time" (.str "")),
    ("travel_time_to_next", place.get "travel_time_to_next" (.int 0)),
    ("distance_to_next_km", place.get "distance_to_next_km" (.int 0))]

/-- `_convert_day_to_legacy`. -/
def convertDayToLegacy (dayData : PyVal) (dayKey : String) : Except PyError PyDict := do
  let day ← dayData.getter
  let places ← (day.get "places" (day.get "activities" (.list []))).iterate
  let entries ← places.mapM PyVal.getter
  let travelHours ← (day.get "travel_time_minutes" (.int 0)).dividedBy 60
  .ok
    [("places", .list (entries.map fun place => .dict (legacyDayPlace place))),
      ("total_distance_km", day.get "total_distance_km" (day.get "distance_km" (.int 0))),
      ("total_travel_time_hours", day.get "total_time_hours" travelHours),
      ("route_optimization", .str "ortools_tsp"),
      ("start_time", day.get "start_time" (.str "09:00")),
      ("end_time", day.get "end_time" (.str "18:00")),
      ("day_summary", day.get "summary" (.str ("Optimized itinerary for " ++ dayKey))),
      ("optimization_notes", day.get "notes" (.list []))]

/-- The days of an itinerary that is a dictionary or a list of days. -/
def convertItineraryDays : PyVal → Except PyError PyDict
  | .dict days => days.mapM fun day => do
      let legacyDay ← convertDayToLegacy day.2 day.1
      .ok (day.1, .dict legacyDay)
  | .list days => days.zipIdx.mapM fun day => do
      let dayKey := "day_" ++ toString (day.2 + 1)
      let legacyDay ← convertDayToLegacy day.1 dayKey
      .ok (dayKey, .dict legacyDay)
  | _ => .ok []

/-- `_convert_itinerary_to_legacy_days`, with the warnings it adds. -/
def convertItineraryToLegacyDays (ortoolsResult : PyDict) (warnings : List String) :
    Except PyError (PyDict × List String) :=
  if ortoolsResult.has "optimized_route" && ortoolsResult.has "optimized_pois" then
    convertOrtoolsRouteToLegacy ortoolsResult warnings
  else
    let itineraryData :=
      ["optimized_itinerary", "itinerary", "days", "solution"].foldr
        (fun key rest => (ortoolsResult.get key .none).orElse rest) (.list [])
    if itineraryData.truthy then do
      let days ← convertItineraryDays itineraryData
      .ok (days, warnings)
    else .ok ([], warnings ++ ["no_itinerary_data_found"])

/-! ## The other parts of a result -/

/-- `_convert_metrics_to_legacy`. -/
def convertMetricsToLegacy (ortoolsResult : PyDict) : PyDict :=
  [("algorithm_used", .str "ortools_professional"),
    ("total_distance_km", ortoolsResult.get "total_distance_km" (.int 0)),
    ("total_time_minutes", ortoolsResult.get "total_time_minutes" (.int 0)),
    ("places_optimized", ortoolsResult.get "places_count" (.int 0)),
    ("optimization_score", ortoolsResult.get "optimization_score" (.int 0)),
    ("execution_time_ms", ortoolsResult.get "execution_time_ms" (.int 0)),
    ("success_rate",
      .float (if (ortoolsResult.get "success" (.bool true)).truthy then 1 else 0)),
    ("constraints_satisfied", ortoolsResult.get "constraints_satisfied" (.bool true)),
    ("ortools_metadata", .dict
      [("solver_status", ortoolsResult.get "solver_status" (.str "OPTIMAL")),
        ("solution_quality", ortoolsResult.get "solution_quality" (.str "HIGH")),
        ("dropped_places", ortoolsResult.get "dropped_places" (.int 0))])]

/-- A cluster of `_convert_clusters_to_legacy`. -/
def legacyCluster (value : PyVal) : Except PyError PyVal := do
  let cluster ← value.getter
  let placesCount ← (cluster.get "places" (.list [])).len
  let center := cluster.get "center" (.dict [])
  let lat ← center.get "lat" (.int 0)
  let lon ← center.get "lon" (.int 0)
  .ok (.dict
    [("cluster_id", cluster.get "id" (.int 0)),
      ("places_count", .int placesCount),
      ("center_lat", lat),
      ("center_lon", lon),
      ("radius_km", cluster.get "radius_km" (.int 0)),
      ("optimization_method", .str "ortools_vrp")])

/-- The cluster that stands in for all places. -/
def singleCluster (ortoolsResult : PyDict) : PyVal :=
  .dict
    [("cluster_id", .int 1),
      ("places_count", ortoolsResult.get "places_count" (.int 0)),
      ("center_lat", .int 0),
      ("center_lon", .int 0),
      ("radius_km", .int 0),
      ("optimization_method", .str "ortools_single_cluster")]

/-- `_convert_clusters_to_legacy`, with the warnings it adds. -/
def convertClustersToLegacy (ortoolsResult : PyDict) (warnings : List String) :
    Except PyError (List PyVal × List String) :=
  if ortoolsResult.has "clusters" then do
    let clusters ← (ortoolsResult.get "clusters" .none).iterate
    let legacyClusters ← clusters.mapM legacyCluster
    .ok (legacyClusters, warnings)
  else
    .ok ([singleCluster ortoolsResult], warnings ++ ["clusters_simulated_for_compatibility"])

/-- The recommendation that a text or a dictionary gives. -/
def legacyRecommendation (env : ConverterEnv) : PyVal → Option PyVal
  | .str text => some (.str text)
  | .dict entries => some (PyDict.get entries "text" (.str (env.textOf (.dict entries))))
  | _ => none

/-- `_convert_recommendations_to_legacy`. -/
def convertRecommendationsToLegacy (env : ConverterEnv) (ortoolsResult : PyDict) :
    Except PyError (List PyVal) := do
  let given ← (ortoolsResult.get "recommendations" (.list [])).iterate
  let dropped := ortoolsResult.get "dropped_places" (.int 0)
  let dropsPlaces ← dropped.greaterThan 0 "int"
  let scoresWell ← (ortoolsResult.get "optimization_score" (.int 0)).greaterThan (8 / 10) "float"
  .ok (given.filterMap (legacyRecommendation env) ++
    (if dropsPlaces then
      [.str ("OR-Tools optimized route by excluding " ++ env.textOf dropped ++
        " places that didn't fit constraints")]
    else []) ++
    if scoresWell then [.str "Excellent route optimization achieved with OR-Tools algorithm"]
    else [])

/-- `legacy_result`. -/
def legacyDict (env : ConverterEnv) (ortoolsResult legacyDays : PyDict)
    (legacyClusters legacyRecommendations : List PyVal) : PyDict :=
  [("days", .dict legacyDays),
    ("optimization_metrics", .dict (convertMetricsToLegacy ortoolsResult)),
    ("clusters_info", .list legacyClusters),
    ("additional_recommendations", .list legacyRecommendations),
    ("_ortools_metadata", .dict
      [("algorithm_used", .str "ortools_professional"),
        ("conversion_version", .str "1.0"),
        ("original_result_keys", ortoolsResult.keyList),
        ("conversion_timestamp", .str env.timestamp)])]

/-- The days, the result and the warnings of a conversion that meets no exception. -/
def convertParts (env : ConverterEnv) (ortoolsResult : PyDict) :
    Except PyError (PyDict × PyDict × List String) := do
  let (legacyDays, warnings) ← convertItineraryToLegacyDays ortoolsResult []
  let (legacyClusters, warnings) ← convertClustersToLegacy ortoolsResult warnings
  let legacyRecommendations ← convertRecommendationsToLegacy env ortoolsResult
  .ok (legacyDays, legacyDict env ortoolsResult legacyDays legacyClusters legacyRecommendations,
    warnings)

/-- `convert_ortools_to_legacy_format`. -/
def convertOrtoolsToLegacyFormat (env : ConverterEnv) (ortoolsResult : PyDict) :
    FormatConversionResult :=
  match convertParts env ortoolsResult with
  | .ok (legacyDays, result, warnings) =>
      { success := true
        data := result
        warnings := warnings
        conversionMetadata :=
          [("conversion_type", .str "ortools_to_legacy"),
            ("timestamp", .str env.timestamp),
            ("input_keys", ortoolsResult.keyList),
            ("output_keys", result.keyList),
            ("days_converted", .int legacyDays.length)] }
  | .error e =>
      { success := false
        data := []
        warnings := ["conversion_error: " ++ e.text]
        conversionMetadata := [("error", .str e.text)] }

/-! ## What the conversion lists -/

theorem pickPoi_int (pois : List PyDict) (i : ℕ) :
    pickPoi (.list (pois.map .dict)) (.int i) = .ok ((pois[i]?).map .dict) := by
  by_cases hi : i < pois.length
  · simp [pickPoi, PyVal.number?, PyVal.itemAt, hi, bind, Except.bind]
  · simp [pickPoi, PyVal.number?, hi, bind, Except.bind]

/-- The conversion goes along the route, as the optimizer did. -/
theorem orderPois_ints (pois : List PyDict) (route : List ℕ) :
    orderPois (.ints route) (.list (pois.map .dict)) =
      .ok ((visitedPois pois route).map .dict) := by
  have hpicked : (route.map fun i : ℕ => PyVal.int i).mapM (pickPoi (.list (pois.map .dict))) =
      .ok (route.map fun i => (pois[i]?).map .dict) := by
    induction route with
    | nil => rfl
    | cons i rest ih =>
        rw [List.map_cons, List.mapM_cons, pickPoi_int, ih]
        rfl
  unfold orderPois
  simp only [PyVal.ints, PyVal.iterate_list, hpicked, bind, Except.bind, visitedPois,
    List.filterMap_map, List.map_filterMap]
  rfl

theorem mapM_getter (pois : List PyDict) :
    (pois.map PyVal.dict).mapM PyVal.getter = .ok pois := by
  induction pois with
  | nil => rfl
  | cons poi rest ih =>
      rw [List.map_cons, List.mapM_cons, ih]
      rfl

/-- The places that the conversion picks for the places along a route: those
along the route once more. -/
abbrev twiceVisited (pois : List PyDict) (route : List ℕ) : List PyDict :=
  visitedPois (visitedPois pois route) route

section Optimized

variable {poisCount : ℕ} {solution : OptimizationResult} {pois : List PyDict}

theorem visitedPois_ne_nil {route : List ℕ} {i : ℕ} (hi : i ∈ route) (hlt : i < pois.length) :
    visitedPois pois route ≠ [] := by
  intro hnil
  have hnone := List.filterMap_eq_nil_iff.mp hnil i hi
  simp [hlt] at hnone

/-- A route that starts at the depot becomes a single day. -/
theorem convertOrtoolsRouteToLegacy_optimized
    (hroute : IsSolverRoute pois.length solution.route) (warnings : List String) :
    convertOrtoolsRouteToLegacy
        (optimizedResult poisCount solution (visitedPois pois solution.route)) warnings =
      .ok ([("day_1", .dict (routeDay
        (optimizedResult poisCount solution (visitedPois pois solution.route))
        (twiceVisited pois solution.route)))], warnings) := by
  have hdepot : 0 ∈ solution.route := List.mem_of_head? hroute.starts_at_depot
  have hvisited : visitedPois pois solution.route ≠ [] :=
    visitedPois_ne_nil hdepot (hroute.lt_nodes 0 hdepot)
  have htwice : twiceVisited pois solution.route ≠ [] :=
    visitedPois_ne_nil hdepot (List.length_pos_iff.mpr hvisited)
  have hroutePart : PyDict.get (optimizedResult poisCount solution
      (visitedPois pois solution.route)) "optimized_route" (.list []) =
      .ints solution.route := by
    simp [optimizedResult, PyDict.get_cons]
  have hpoisPart : PyDict.get (optimizedResult poisCount solution
      (visitedPois pois solution.route)) "optimized_pois" (.list []) =
      .list ((visitedPois pois solution.route).map .dict) := by
    simp [optimizedResult, PyDict.get_cons]
  have hroute_truthy : (PyVal.ints solution.route).truthy = true := by
    simp [PyVal.ints, PyVal.truthy, List.ne_nil_of_mem hdepot]
  have hpois_truthy :
      (PyVal.list ((visitedPois pois solution.route).map .dict)).truthy = true := by
    simp [PyVal.truthy, hvisited]
  have hordered : ((twiceVisited pois solution.route).map PyVal.dict).isEmpty = false := by
    simp [htwice]
  unfold convertOrtoolsRouteToLegacy
  simp only [hroutePart, hpoisPart, hroute_truthy, hpois_truthy, orderPois_ints, bind,
    Except.bind, hordered, mapM_getter, Bool.not_true, Bool.or_self, Bool.false_eq_true,
    if_false]

/-- The legacy result of a solved itinerary. -/
theorem convertOrtoolsToLegacyFormat_optimized (env : ConverterEnv)
    (hroute : IsSolverRoute pois.length solution.route) :
    let ortoolsResult := optimizedResult poisCount solution (visitedPois pois solution.route)
    let conversion := convertOrtoolsToLegacyFormat env ortoolsResult
    conversion.success = true ∧
      conversion.data = legacyDict env ortoolsResult
        [("day_1", .dict (routeDay ortoolsResult (twiceVisited pois solution.route)))]
        [singleCluster ortoolsResult] [] := by
  intro ortoolsResult conversion
  have hdays : convertItineraryToLegacyDays ortoolsResult [] =
      .ok ([("day_1", .dict (routeDay ortoolsResult (twiceVisited pois solution.route)))], []) := by
    unfold convertItineraryToLegacyDays
    rw [if_pos (by simp [ortoolsResult, optimizedResult, PyDict.has_cons])]
    exact convertOrtoolsRouteToLegacy_optimized hroute []
  have hclusters : convertClustersToLegacy ortoolsResult [] =
      .ok ([singleCluster ortoolsResult], ["clusters_simulated_for_compatibility"]) := by
    unfold convertClustersToLegacy
    rw [if_neg (by simp [ortoolsResult, optimizedResult, PyDict.has_cons])]
    rfl
  have hrecommendations : convertRecommendationsToLegacy env ortoolsResult = .ok [] := by
    simp [convertRecommendationsToLegacy, ortoolsResult, optimizedResult, PyDict.get_cons,
      PyVal.greaterThan, PyVal.number?, bind, Except.bind]
    norm_num
  have hparts : convertParts env ortoolsResult = .ok
      ([("day_1", .dict (routeDay ortoolsResult (twiceVisited pois solution.route)))],
        legacyDict env ortoolsResult
          [("day_1", .dict (routeDay ortoolsResult (twiceVisited pois solution.route)))]
          [singleCluster ortoolsResult] [],
        ["clusters_simulated_for_compatibility"]) := by
    simp only [convertParts, hdays, hclusters, hrecommendations, bind, Except.bind]
  simp only [conversion, convertOrtoolsToLegacyFormat, hparts, and_self]

end Optimized

/-! ## Listing the places of a route -/

/-- The places of all days of a legacy result, in order. -/
def itineraryPlaces (legacy : PyDict) : Except PyError (List PyVal) := do
  let days ← (← legacy.item "days").getter
  let places ← days.mapM fun day => do
    (← (← day.2.getter).item "places").iterate
  .ok places.flatten

/-- The converted itinerary lists exactly the visited places, in order. -/
structure ListsVisited (visited : List PyDict) (conversion : FormatConversionResult) : Prop where
  success : conversion.success = true
  places : itineraryPlaces conversion.data = .ok (legacyPlaces visited)

/-- At every stop `k` the route has a stop at position `route[k]`, and the place
there looks like the place of stop `k`. -/
def RouteSettles (pois : List PyDict) (route : List ℕ) : Prop :=
  ∀ k i, route[k]? = some i →
    ∃ j ∈ route[i]?, ∃ p ∈ pois[j]?, ∃ q ∈ pois[i]?, legacyPlace k p = legacyPlace k q

/-- Two lists of places look the same when they do so at every position. -/
theorem legacyPlaces_inj_iff {visited visited' : List PyDict} :
    legacyPlaces visited = legacyPlaces visited' ↔
      ∀ k, (visited[k]?).map (legacyPlace k) = (visited'[k]?).map (legacyPlace k) := by
  unfold legacyPlaces
  rw [List.ext_getElem?_iff]
  refine forall_congr' fun k => ?_
  simp only [List.getElem?_mapIdx]
  cases visited[k]? <;> cases visited'[k]? <;> simp

section Route

variable {pois : List PyDict} {route : List ℕ}

theorem visitedPois_eq_map (hroute : ∀ i ∈ route, i < pois.length) :
    (visitedPois pois route).map some = route.map fun i => pois[i]? := by
  induction route with
  | nil => rfl
  | cons i rest ih =>
      obtain ⟨hi, hrest⟩ := List.forall_mem_cons.mp hroute
      simpa [visitedPois, hi] using ih hrest

theorem getElem?_visitedPois (hroute : ∀ i ∈ route, i < pois.length) (k : ℕ) :
    (visitedPois pois route)[k]? = (route[k]?).bind fun i => pois[i]? := by
  have hmap := congrArg (fun items => items[k]?) (visitedPois_eq_map hroute)
  simp only [List.getElem?_map] at hmap
  cases hk : route[k]? with
  | none => simpa [hk] using hmap
  | some i =>
      have hi : i < pois.length := hroute i (List.mem_of_getElem? hk)
      cases hplace : (visitedPois pois route)[k]? with
      | none => simp [hk, hplace] at hmap
      | some place => simpa [hk, hplace] using hmap

theorem length_visitedPois (hroute : ∀ i ∈ route, i < pois.length) :
    (visitedPois pois route).length = route.length := by
  simpa using congrArg List.length (visitedPois_eq_map hroute)

/-- Stop by stop, going along a route twice looks like going along it once. -/
theorem legacyPlaces_twiceVisited_iff_of_lt (hroute : ∀ i ∈ route, i < pois.length)
    (hshort : ∀ i ∈ route, i < (visitedPois pois route).length) :
    legacyPlaces (twiceVisited pois route) = legacyPlaces (visitedPois pois route) ↔
      ∀ k i, route[k]? = some i →
        (((route[i]?).bind fun j => pois[j]?).map (legacyPlace k)) =
          (pois[i]?).map (legacyPlace k) := by
  rw [legacyPlaces_inj_iff]
  refine forall_congr' fun k => ?_
  rw [twiceVisited, getElem?_visitedPois hshort, getElem?_visitedPois hroute]
  cases hk : route[k]? with
  | none => simp
  | some i => simp [getElem?_visitedPois hroute]

/-- Going along the route twice looks like going along it once exactly when the
route settles. -/
theorem legacyPlaces_twiceVisited_iff (hroute : ∀ i ∈ route, i < pois.length) :
    legacyPlaces (twiceVisited pois route) = legacyPlaces (visitedPois pois route) ↔
      RouteSettles pois route := by
  have hlength := length_visitedPois hroute
  constructor
  · intro hsame
    have htwice : (twiceVisited pois route).length = route.length := by
      rw [← hlength]
      simpa [legacyPlaces] using congrArg List.length hsame
    have hshort : ∀ i ∈ route, i < (visitedPois pois route).length := by
      intro i hi
      have hfound := List.filterMap_length_eq_length.mp htwice i hi
      simpa using hfound
    intro k i hk
    have hi : i < pois.length := hroute i (List.mem_of_getElem? hk)
    have hlook := (legacyPlaces_twiceVisited_iff_of_lt hroute hshort).mp hsame k i hk
    cases hj : route[i]? with
    | none => simp [hj, hi] at hlook
    | some j =>
        have hlt : j < pois.length := hroute j (List.mem_of_getElem? hj)
        refine ⟨j, rfl, pois[j], List.getElem?_eq_getElem hlt, pois[i],
          List.getElem?_eq_getElem hi, ?_⟩
        simpa [hj, hlt, hi] using hlook
  · intro hsettles
    have hshort : ∀ i ∈ route, i < (visitedPois pois route).length := by
      intro i hi
      obtain ⟨k, hk⟩ := List.mem_iff_getElem?.mp hi
      obtain ⟨j, hj, -⟩ := hsettles k i hk
      rw [hlength]
      exact (List.getElem?_eq_some_iff.mp hj).choose
    refine (legacyPlaces_twiceVisited_iff_of_lt hroute hshort).mpr fun k i hk => ?_
    obtain ⟨j, hj, p, hp, q, hq, hsame⟩ := hsettles k i hk
    rw [Option.mem_def] at hj hp hq
    simp [hj, hp, hq, hsame]

/-- When no two places look the same at a stop, only the route that keeps the
order of the input settles. -/
theorem routeSettles_iff_range (hsolver : IsSolverRoute pois.length route)
    (hdistinct : ∀ (k i j : ℕ) (p q : PyDict), pois[i]? = some p → pois[j]? = some q →
      legacyPlace k p = legacyPlace k q → i = j) :
    RouteSettles pois route ↔ route = List.range route.length := by
  constructor
  · intro hsettles
    refine List.ext_getElem? fun k => ?_
    by_cases hk : k < route.length
    · obtain ⟨j, hj, p, hp, q, hq, hsame⟩ := hsettles k route[k] (List.getElem?_eq_getElem hk)
      have hback : j = route[k] := hdistinct k j route[k] p q hp hq hsame
      obtain ⟨hlt, heq⟩ := List.getElem?_eq_some_iff.mp hj
      have hfixed : route[k] = k := hsolver.nodup.getElem_inj_iff.mp (heq.trans hback)
      simp [hk, hfixed]
    · simp [hk]
  · intro hrange k i hk
    have hlt : k < route.length := (List.getElem?_eq_some_iff.mp hk).choose
    have hi : i = k := by
      rw [hrange] at hk
      simpa [hlt] using hk.symm
    subst hi
    have hpoi : i < pois.length := hsolver.lt_nodes i (List.mem_of_getElem? hk)
    exact ⟨i, hk, pois[i], List.getElem?_eq_getElem hpoi, pois[i],
      List.getElem?_eq_getElem hpoi, rfl⟩

end Route

/-- The places of a converted route. -/
theorem listsVisited_optimized_iff {poisCount : ℕ} {solution : OptimizationResult}
    {pois : List PyDict} (env : ConverterEnv)
    (hroute : IsSolverRoute pois.length solution.route) :
    ListsVisited (visitedPois pois solution.route) (convertOrtoolsToLegacyFormat env
        (optimizedResult poisCount solution (visitedPois pois solution.route))) ↔
      RouteSettles pois solution.route := by
  obtain ⟨hsuccess, hdata⟩ : _ ∧ _ :=
    convertOrtoolsToLegacyFormat_optimized env hroute
  rw [← legacyPlaces_twiceVisited_iff hroute.lt_nodes]
  have hplaces : itineraryPlaces (convertOrtoolsToLegacyFormat env
      (optimizedResult poisCount solution (visitedPois pois solution.route))).data =
      .ok (legacyPlaces (twiceVisited pois solution.route)) := by
    rw [hdata]
    simp [itineraryPlaces, legacyDict, routeDay, PyDict.item, bind, Except.bind, pure,
      Except.pure]
  constructor
  · intro hlists
    simpa [hplaces] using hlists.places
  · intro hsame
    exact ⟨hsuccess, hsame ▸ hplaces⟩

/-- Among places that all look different, only the routes that keep the order of
the input survive the conversion. -/
theorem listsVisited_optimized_iff_range {poisCount : ℕ} {solution : OptimizationResult}
    {pois : List PyDict} (env : ConverterEnv)
    (hroute : IsSolverRoute pois.length solution.route)
    (hdistinct : ∀ (k i j : ℕ) (p q : PyDict), pois[i]? = some p → pois[j]? = some q →
      legacyPlace k p = legacyPlace k q → i = j) :
    ListsVisited (visitedPois pois solution.route) (convertOrtoolsToLegacyFormat env
        (optimizedResult poisCount solution (visitedPois pois solution.route))) ↔
      solution.route = List.range solution.route.length :=
  (listsVisited_optimized_iff env hroute).trans (routeSettles_iff_range hroute hdistinct)

/-- The conversion of a solved itinerary lists exactly the visited places, once
each and in the order of the route, exactly when the route settles. -/
theorem convertOrtoolsToLegacyFormat_lists_iff (env : ConverterEnv) (solver : TspSolver)
    {pois : List PyDict} {matrix : OsrmMatrix} {useTimeWindows : Bool} {startTime : String}
    {solution : OptimizationResult} (hmatrix : matrix.distances.length = pois.length)
    (hsolution : solveItinerary solver pois matrix useTimeWindows startTime = .ok solution)
    (hsuccess : solution.success = true) :
    ∃ result, optimizeItineraryAdvanced solver pois matrix useTimeWindows startTime = .ok result ∧
      (ListsVisited (visitedPois pois solution.route) (convertOrtoolsToLegacyFormat env result) ↔
        RouteSettles pois solution.route) := by
  have hroute := solveItinerary_isSolverRoute hmatrix hsolution hsuccess
  exact ⟨_, optimizeItineraryAdvanced_eq hsolution hsuccess hroute.lt_nodes,
    listsVisited_optimized_iff env hroute⟩

/-- A solver with the same answer for every problem of its size. -/
def TspSolver.answering (nodes : ℕ) (route : List ℕ) (hroute : IsSolverRoute nodes route) :
    TspSolver where
  solveTspBasic := fun distances =>
    { success := distances.length = nodes
      route := route
      totalDistanceM := 0
      totalTimeMinutes := 0
      optimizationTimeS := 0
      algorithmUsed := "OR_TOOLS_TSP_BASIC"
      constraintsSatisfied := true }
  solveVrptw := fun _ _ pois _ =>
    { success := pois.length = nodes
      route := route
      totalDistanceM := 0
      totalTimeMinutes := 0
      optimizationTimeS := 0
      algorithmUsed := "OR_TOOLS_VRPTW"
      constraintsSatisfied := true }
  tsp_route := fun _ hsuccess => of_decide_eq_true hsuccess ▸ hroute
  vrptw_route := fun _ _ _ _ _ hsuccess => of_decide_eq_true hsuccess ▸ hroute

/-- A museum, a park and a beach. -/
def threePois : List PyDict :=
  ["Museo", "Parque", "Playa"].map fun name =>
    [("name", .str name), ("lat", .float 0), ("lon", .float 0)]

/-- A matrix over three places that are all in one spot. -/
def threeZeros : OsrmMatrix where
  distances := List.replicate 3 [0, 0, 0]
  durations := List.replicate 3 [0, 0, 0]

/-- The solver that keeps three places in the order of the input. -/
def inOrderSolver : TspSolver := .answering 3 [0, 1, 2] ⟨by decide, by decide, rfl⟩

/-- The solver that visits the last of three places before the second. -/
def lastFirstSolver : TspSolver := .answering 3 [0, 2, 1] ⟨by decide, by decide, rfl⟩

/-- The route in the order of the input. -/
theorem convertOrtoolsToLegacyFormat_lists_inOrder :
    ∃ result, optimizeItineraryAdvanced inOrderSolver threePois threeZeros = .ok result ∧
      (ListsVisited (visitedPois threePois [0, 1, 2])
          (convertOrtoolsToLegacyFormat { timestamp := "", textOf := fun _ => "" } result) ↔
        RouteSettles threePois [0, 1, 2]) := by
  have hsolution : solveItinerary inOrderSolver threePois threeZeros false "09:00" =
      .ok (inOrderSolver.solveTspBasic threeZeros.distances) := rfl
  exact convertOrtoolsToLegacyFormat_lists_iff { timestamp := "", textOf := fun _ => "" }
    inOrderSolver rfl hsolution rfl

/-- The route museum, beach, park comes out in the order of the input. -/
theorem convertOrtoolsToLegacyFormat_misorders :
    ∃ result, optimizeItineraryAdvanced lastFirstSolver threePois threeZeros = .ok result ∧
      ¬ ListsVisited (visitedPois threePois [0, 2, 1])
        (convertOrtoolsToLegacyFormat { timestamp := "", textOf := fun _ => "" } result) := by
  have hsolution : solveItinerary lastFirstSolver threePois threeZeros false "09:00" =
      .ok (lastFirstSolver.solveTspBasic threeZeros.distances) := rfl
  have hroute : IsSolverRoute threePois.length
      (lastFirstSolver.solveTspBasic threeZeros.distances).route :=
    ⟨by decide, by decide, rfl⟩
  refine ⟨_, optimizeItineraryAdvanced_eq hsolution rfl hroute.lt_nodes, ?_⟩
  intro hlists
  have hsettles : RouteSettles threePois [0, 2, 1] :=
    (listsVisited_optimized_iff _ hroute).mp hlists
  obtain ⟨j, hj, p, hp, q, hq, hsame⟩ := hsettles 1 2 rfl
  cases hj
  cases hp
  cases hq
  simp [legacyPlace, PyDict.get_cons] at hsame

end Goveling.Ortools
