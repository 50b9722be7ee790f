/-
# Routes and matrices when Google does not answer

`get_optimal_route` and `get_distance_matrix` fall back on estimates, and the
estimates are made inside their exception handlers. The fallback route goes to
the nearest of the waypoints that are left and writes the legs into the
waypoints themselves. The estimator has four names of transport modes, which
are not the ones that Google's parameter is converted to: with one of the
others, the default among them, the handler raises what it was to catch.
-/

import Goveling.Math.FirstLeast
import Goveling.Math.NearestFirst
import Goveling.Math.RunningTotals
import Goveling.Optimizer.Types
import Goveling.Places.GoogleMapsClient

namespace Goveling.Places

open Goveling.Math Goveling.Python
open Goveling.Optimizer (Globe Location)

/-! ## Estimates -/

/-- `speed_map`. -/
def speedMap : List (String × ℚ) :=
  [("walk", mkRat 9 2), ("drive", 22), ("bike", 15), ("transit", 25)]

/-- `MIN_TRAVEL_MIN`. -/
def minTravelMin : ℚ := 8

/-- `estimate_travel_minutes` between valid coordinates. -/
def estimateTravelMinutes (globe : Globe) (origin destination : Location) (mode : String) :
    Except PyError ℚ :=
  match speedMap.lookup mode with
  | none => .error (.valueError ("Modo '" ++ mode ++
      "' no soportado. Use: ['walk', 'drive', 'bike', 'transit']"))
  | some speed =>
      let km : ℚ := globe.haversineKm origin destination
      let travelTime := km / speed * 60
      .ok (max minTravelMin travelTime)

/-! ## Waypoints -/

/-- A waypoint: a dictionary with valid coordinates. -/
structure Waypoint where
  entries : PyDict
  location : Location
  lat_given : entries.number? "lat" = some location.lat
  lon_given : entries.number? "lon" = some location.lon

/-- `waypoint.update({key: value})` for a key other than a coordinate. -/
def Waypoint.set (waypoint : Waypoint) (key : String) (value : PyVal) (hlat : "lat" ≠ key)
    (hlon : "lon" ≠ key) : Waypoint where
  entries := waypoint.entries.set key value
  location := waypoint.location
  lat_given := by
    rw [PyDict.number?, PyDict.lookup_set_of_ne hlat]
    exact waypoint.lat_given
  lon_given := by
    rw [PyDict.number?, PyDict.lookup_set_of_ne hlon]
    exact waypoint.lon_given

/-- The leg to a waypoint, written into it. -/
def Waypoint.withTravel (waypoint : Waypoint) (travelDistanceM travelDurationS : ℤ) : Waypoint :=
  ((waypoint.set "travel_distance_m" (.int travelDistanceM) (by decide) (by decide)).set
    "travel_duration_s" (.int travelDurationS) (by decide) (by decide)).set
      "travel_instructions" (.list []) (by decide) (by decide)

/-! ## The fallback of a route -/

/-- The variables of the loop of `_fallback_route`. The waypoints are records of the
caller, which it updates; the lists hold their positions. -/
structure FallbackState (n : ℕ) where
  waypoints : Fin n → Waypoint
  remaining : List (Fin n)
  optimized : List (Fin n) := []
  currentPos : Location
  totalDistance : ℚ := 0
  totalDuration : ℚ := 0

section Fallback

variable (globe : Globe) (transportMode : String) {n : ℕ}

/-- The loop over the remaining waypoints: `min_dist` and `closest_idx`. -/
def closestOf (state : FallbackState n) : Option (NNRat × ℕ) :=
  state.remaining.zipIdx.foldl
    (keepLeast fun point => globe.haversineKm state.currentPos (state.waypoints point).location)
    none

/-- The body of the loop. -/
def visitClosest (state : FallbackState n) : Except PyError (FallbackState n) :=
  match closestOf globe state with
  | none => .error (.indexError "pop from empty list")
  | some (minDist, closestIdx) =>
      match state.remaining[closestIdx]? with
      | none => .error (.indexError "pop index out of range")
      | some closestPoint => do
          let waypoint := state.waypoints closestPoint
          let durationMin ←
            estimateTravelMinutes globe state.currentPos waypoint.location transportMode
          let updated := waypoint.withTravel (truncated (minDist * 1000))
            (truncated (durationMin * 60))
          return {
            waypoints := Function.update state.waypoints closestPoint updated
            remaining := state.remaining.eraseIdx closestIdx
            optimized := state.optimized ++ [closestPoint]
            currentPos := waypoint.location
            totalDistance := state.totalDistance + minDist * 1000
            totalDuration := state.totalDuration + durationMin * 60 }

/-- The loop, with as many turns as waypoints are left. -/
def visitRemaining : ℕ → FallbackState n → Except PyError (FallbackState n)
  | 0, state => .ok state
  | turns + 1, state => do visitRemaining turns (← visitClosest globe transportMode state)

/-- The result of `_fallback_route`, and the waypoints as it leaves them. -/
structure FallbackRoute (n : ℕ) where
  waypoints : Fin n → Waypoint
  optimizedWaypoints : List (Fin n)
  totalDistanceM : ℤ
  totalDurationS : ℤ

/-- `_fallback_route`. -/
def fallbackRoute (waypoints : Fin n → Waypoint) (startPoint : Waypoint) :
    Except PyError (FallbackRoute n) := do
  let final ← visitRemaining globe transportMode n
    { waypoints := waypoints, remaining := List.finRange n, currentPos := startPoint.location }
  return {
    waypoints := final.waypoints
    optimizedWaypoints := final.optimized
    totalDistanceM := truncated final.totalDistance
    totalDurationS := truncated final.totalDuration }

/-- The dictionary that is returned. -/
def FallbackRoute.toVal (route : FallbackRoute n) : PyVal :=
  .dict
    [("optimized_waypoints", .list
        (route.optimizedWaypoints.map fun point => .dict (route.waypoints point).entries)),
      ("total_distance_m", .int route.totalDistanceM),
      ("total_duration_s", .int route.totalDurationS),
      ("route_polyline", .str ""),
      ("optimized", .bool false)]

/-! ## The fallback of a matrix -/

/-- A cell of `_fallback_distance_matrix`. -/
def estimatedCell (origin destination : Location) (mode : String) : Except PyError PyVal := do
  let distKm : ℚ := globe.haversineKm origin destination
  let durationMin ← estimateTravelMinutes globe origin destination mode
  return .dict
    [("distance_m", .int (truncated (distKm * 1000))),
      ("duration_s", .int (truncated (durationMin * 60))),
      ("distance_text", .str (fixedText 1 distKm ++ " km")),
      ("duration_text", .str (fixedText 0 durationMin ++ " min"))]

/-- The dictionary of a matrix. -/
def matrixVal (rows : List PyVal) (origins destinations : List Waypoint) : PyVal :=
  .dict
    [("distance_matrix", .list rows),
      ("origins", .list (origins.map fun origin => .dict origin.entries)),
      ("destinations", .list (destinations.map fun destination => .dict destination.entries))]

/-- `_fallback_distance_matrix`. -/
def fallbackDistanceMatrix (origins destinations : List Waypoint) : Except PyError PyVal := do
  let rows ← origins.mapM fun origin =>
    (destinations.mapM fun destination =>
      estimatedCell globe origin.location destination.location transportMode).map PyVal.list
  return matrixVal rows origins destinations

end Fallback

/-! ## Answers of Google -/

/-- `mode_mapping`. -/
def modeMapping : List (String × String) :=
  [("walk", "walking"), ("walking", "walking"), ("drive", "driving"), ("driving", "driving"),
    ("bike", "bicycling"), ("bicycling", "bicycling"), ("transit", "transit")]

/-- `_convert_transport_mode`. -/
def convertTransportMode (mode : String) : String :=
  (modeMapping.lookup (lowerText mode)).getD "walking"

/-- `value[:-1]`. -/
def withoutLast (value : PyVal) : Except PyError PyVal :=
  match value with
  | .list items => .ok (.list items.dropLast)
  | .str text => .ok (.str (String.ofList text.toList.dropLast))
  | .dict _ => .error (.typeError "unhashable type: 'slice'")
  | other => .error (.typeError ("'" ++ other.typeName ++ "' object is not subscriptable"))

/-- `waypoints[index]` for an index of any type; below zero it counts from the end. -/
def waypointAt (waypoints : List Waypoint) (index : PyVal) : Except PyError Waypoint :=
  match index.whole? with
  | none => .error (.typeError ("list indices must be integers or slices, not " ++ index.typeName))
  | some index =>
      let position := if 0 ≤ index then index else waypoints.length + index
      match if 0 ≤ position then waypoints[position.toNat]? else none with
      | some waypoint => .ok waypoint
      | none => .error (.indexError "list index out of range")

/-- `value.get(key, {}).get(part, default)`. -/
def partOf (value : PyVal) (key part : String) (default : PyVal) : Except PyError PyVal := do
  (← value.get key (.dict [])).get part default

/-- The variables of the loop of `_parse_route_response`. -/
structure ParsedRoute where
  optimizedWaypoints : List PyVal := []
  totalDistance : PyVal := .int 0
  totalDuration : PyVal := .int 0

/-- The body of the loop over the legs. -/
def addLeg (originalWaypoints : List Waypoint) (waypointOrder : PyVal) (parsed : ParsedRoute)
    (entry : PyVal × ℕ) : Except PyError ParsedRoute := do
  let (leg, i) := entry
  if i < (← waypointOrder.len) then
    let originalIndex ← waypointOrder.itemAt i
    let waypoint ← waypointAt originalWaypoints originalIndex
    let distance ← partOf leg "distance" "value" (.int 0)
    let duration ← partOf leg "duration" "value" (.int 0)
    let instructions ← sliceTo (← leg.get "steps" (.list [])) 3
    let updated := ((waypoint.entries.set "travel_distance_m" distance).set
      "travel_duration_s" duration).set "travel_instructions" instructions
    return {
      optimizedWaypoints := parsed.optimizedWaypoints ++ [.dict updated]
      totalDistance := ← parsed.totalDistance.plus distance
      totalDuration := ← parsed.totalDuration.plus duration }
  return parsed

/-- `_parse_route_response`. -/
def parseRouteResponse (route : PyVal) (originalWaypoints : List Waypoint) :
    Except PyError PyVal := do
  let legs ← route.get "legs" (.list [])
  let waypointOrder ←
    route.get "waypoint_order" (PyVal.ints (List.range originalWaypoints.length))
  let parsed ← (← (← withoutLast legs).iterate).zipIdx.foldlM
    (addLeg originalWaypoints waypointOrder) {}
  return .dict
    [("optimized_waypoints", .list parsed.optimizedWaypoints),
      ("total_distance_m", parsed.totalDistance),
      ("total_duration_s", parsed.totalDuration),
      ("route_polyline", ← partOf route "overview_polyline" "points" (.str "")),
      ("optimized", .bool true)]

/-- An element of `_parse_distance_matrix`. An element without a distance is estimated
for `'walking'`. -/
def parseElement (globe : Globe) (origins destinations : List Waypoint) (i j : ℕ)
    (element : PyVal) : Except PyError PyVal := do
  if (← element.get "status" .none).isText "OK" then
    return .dict
      [("distance_m", ← partOf element "distance" "value" (.int 0)),
        ("duration_s", ← partOf element "duration" "value" (.int 0)),
        ("distance_text", ← partOf element "distance" "text" (.str "")),
        ("duration_text", ← partOf element "duration" "text" (.str ""))]
  else
    let origin ← waypointAt origins (.int i)
    let destination ← waypointAt destinations (.int j)
    estimatedCell globe origin.location destination.location "walking"

/-- `_parse_distance_matrix`. -/
def parseDistanceMatrix (globe : Globe) (data : PyVal) (origins destinations : List Waypoint) :
    Except PyError PyVal := do
  let rows ← (← data.get "rows" (.list [])).iterate
  let matrix ← rows.zipIdx.mapM fun row => do
    let elements ← (← row.1.get "elements" (.list [])).iterate
    let matrixRow ← elements.zipIdx.mapM fun element =>
      parseElement globe origins destinations row.2 element.2 element.1
    return PyVal.list matrixRow
  return matrixVal matrix origins destinations

/-! ## The two calls -/

/-- The body and the handler of both calls. The fallback stands in the two of them; when it
raises it has updated no waypoint, so both find the same ones. -/
def withFallback (answer : Except PyError (Option PyVal)) (fallback : Except PyError PyVal) :
    Except PyError PyVal :=
  let attempt := do
    match ← answer with
    | some result => return result
    | none => fallback
  match attempt with
  | .ok result => .ok result
  | .error _ => fallback

/-- The arguments of `get_optimal_route`; the time of departure is a timestamp. -/
structure RouteCall where
  waypoints : List Waypoint
  startPoint : Waypoint
  transportMode : String := "walking"
  departureTime : Option ℚ := none

/-- The arguments of `get_distance_matrix`. -/
structure MatrixCall where
  origins : List Waypoint
  destinations : List Waypoint
  transportMode : String := "walking"

section Client

variable (env : MapsEnv) (globe : Globe) (ask : MapsApi)

/-- `f"{point['lat']},{point['lon']}"`. -/
def waypointText (point : Waypoint) : String :=
  env.textOf (point.entries.get "lat" .none) ++ "," ++ env.textOf (point.entries.get "lon" .none)

/-- The request for a route. -/
def directionsRequest (call : RouteCall) : MapsRequest :=
  let origin := waypointText env call.startPoint
  let waypointCoords := call.waypoints.map (waypointText env)
  let params : PyDict :=
    [("origin", .str origin),
      ("destination", .str origin),
      ("waypoints", .str ("optimize:true|" ++ String.intercalate "|" waypointCoords)),
      ("mode", .str (convertTransportMode call.transportMode)),
      ("key", .str env.apiKey),
      ("language", .str "es")]
  { url := mapsUrl ++ "/directions/json"
    params :=
      match call.departureTime with
      | some timestamp =>
          if call.transportMode = "driving" then
            params.set "departure_time" (.int (truncated timestamp))
          else params
      | none => params }

/-- The route that Google answers with, if it does. -/
def readRoute (call : RouteCall) : Except PyError (Option PyVal) := do
  let response ← ask (directionsRequest env call)
  let data ← response.json
  if (← data.get "status" .none).isText "OK" then
    let routes ← data.get "routes" .none
    if routes.truthy then
      return some (← parseRouteResponse (← routes.itemAt 0) call.waypoints)
  return none

/-- `get_optimal_route`. -/
def getOptimalRoute (call : RouteCall) : Except PyError PyVal :=
  withFallback (readRoute env ask call)
    ((fallbackRoute globe call.transportMode call.waypoints.get call.startPoint).map
      FallbackRoute.toVal)

/-- The request for a matrix. -/
def matrixRequest (call : MatrixCall) : MapsRequest where
  url := mapsUrl ++ "/distancematrix/json"
  params :=
    [("origins", .str (String.intercalate "|" (call.origins.map (waypointText env)))),
      ("destinations", .str (String.intercalate "|" (call.destinations.map (waypointText env)))),
      ("mode", .str (convertTransportMode call.transportMode)),
      ("units", .str "metric"),
      ("key", .str env.apiKey)]

/-- The matrix that Google answers with, if it does. -/
def readMatrix (call : MatrixCall) : Except PyError (Option PyVal) := do
  let response ← ask (matrixRequest env call)
  let data ← response.json
  if (← data.get "status" .none).isText "OK" then
    return some (← parseDistanceMatrix globe data call.origins call.destinations)
  return none

/-- `get_distance_matrix`. -/
def getDistanceMatrix (call : MatrixCall) : Except PyError PyVal :=
  withFallback (readMatrix env globe ask call)
    (fallbackDistanceMatrix globe call.transportMode call.origins call.destinations)

end Client

/-! ## What the calls promise -/

/-- A mode that the estimator knows. -/
def IsEstimated (mode : String) : Prop := mode ∈ ["walk", "drive", "bike", "transit"]

/-- A mode that is converted to one of Google's. -/
def IsAccepted (mode : String) : Prop := (modeMapping.lookup (lowerText mode)).isSome = true

instance : DecidablePred IsAccepted := fun mode =>
  inferInstanceAs (Decidable ((modeMapping.lookup (lowerText mode)).isSome = true))

instance : DecidablePred IsEstimated := fun mode =>
  inferInstanceAs (Decidable (mode ∈ ["walk", "drive", "bike", "transit"]))

/-- Where a stop is: the start, or a waypoint. -/
def stopLocation {n : ℕ} (startPoint : Waypoint) (waypoints : Fin n → Waypoint) :
    Option (Fin n) → Location
  | none => startPoint.location
  | some point => (waypoints point).location

/-- The distance from a stop to another one. -/
def stopDistance (globe : Globe) {n : ℕ} (startPoint : Waypoint) (waypoints : Fin n → Waypoint)
    (origin destination : Option (Fin n)) : NNRat :=
  globe.haversineKm (stopLocation startPoint waypoints origin)
    (stopLocation startPoint waypoints destination)

/-- The visited waypoints have whole numbers under a key that make up the total, up to the
rounding of each. -/
def Reports {n : ℕ} (waypoints : Fin n → Waypoint) (visited : List (Fin n)) (key : String)
    (total : ℚ) : Prop :=
  ∃ values : List ℤ,
    (visited.map fun point => (waypoints point).entries.lookup key) =
        values.map (fun value => some (.int value)) ∧
      WithinRounding total values

/-- The fallback route visits each waypoint once, goes to a nearest remaining one each time,
and its totals are those of its waypoints. -/
structure IsGreedyTour (globe : Globe) {n : ℕ} (waypoints : Fin n → Waypoint)
    (startPoint : Waypoint) (route : FallbackRoute n) : Prop where
  once : route.optimizedWaypoints.Perm (List.finRange n)
  nearest : GoesToNearest (stopDistance globe startPoint waypoints)
    (none :: route.optimizedWaypoints.map some)
  distance : Reports route.waypoints route.optimizedWaypoints "travel_distance_m"
    route.totalDistanceM
  duration : Reports route.waypoints route.optimizedWaypoints "travel_duration_s"
    route.totalDurationS

/-- Both calls return, and the fallback route is a greedy tour. -/
structure AnswersAlways (env : MapsEnv) (globe : Globe) (ask : MapsApi) (routeCall : RouteCall)
    (matrixCall : MatrixCall) : Prop where
  route : ∃ result, getOptimalRoute env globe ask routeCall = .ok result
  matrix : ∃ result, getDistanceMatrix env globe ask matrixCall = .ok result
  fallback : ∀ found,
    fallbackRoute globe routeCall.transportMode routeCall.waypoints.get routeCall.startPoint =
      .ok found →
    IsGreedyTour globe routeCall.waypoints.get routeCall.startPoint found

/-! ## Estimates -/

section Estimates

variable (globe : Globe) (origin destination : Location)

theorem exists_estimateTravelMinutes_iff (mode : String) :
    (∃ minutes, estimateTravelMinutes globe origin destination mode = .ok minutes) ↔
      IsEstimated mode := by
  have hkeys : (speedMap.lookup mode).isSome = true ↔ mode ∈ speedMap.map Prod.fst := by
    rw [List.lookup_isSome_iff, List.mem_map]
    simp only [beq_iff_eq, @eq_comm _ mode]
  change _ ↔ mode ∈ speedMap.map Prod.fst
  rw [← hkeys]
  unfold estimateTravelMinutes
  cases speedMap.lookup mode with
  | none => exact iff_of_false nofun nofun
  | some speed => exact iff_of_true ⟨_, rfl⟩ rfl

theorem estimateTravelMinutes_nonneg {mode : String} {minutes : ℚ}
    (hminutes : estimateTravelMinutes globe origin destination mode = .ok minutes) :
    0 ≤ minutes := by
  unfold estimateTravelMinutes at hminutes
  split at hminutes
  · cases hminutes
  · cases hminutes
    exact le_max_of_le_left (by norm_num [minTravelMin])

/-- A cell is estimated for the modes that the estimator knows. -/
theorem exists_estimatedCell_iff (mode : String) :
    (∃ cell, estimatedCell globe origin destination mode = .ok cell) ↔ IsEstimated mode := by
  rw [← exists_estimateTravelMinutes_iff globe origin destination]
  unfold estimatedCell
  constructor
  · rintro ⟨cell, hcell⟩
    obtain ⟨minutes, hminutes, -⟩ := exists_of_bind_eq_ok hcell
    exact ⟨minutes, hminutes⟩
  · rintro ⟨minutes, hminutes⟩
    dsimp only
    rw [hminutes]
    exact ⟨_, rfl⟩

end Estimates

/-! ## The loop of the fallback -/

section Loop

variable (globe : Globe) {transportMode : String} {n : ℕ} {startPoint : Waypoint}
  {waypoints : Fin n → Waypoint}

/-- Writing a leg into a waypoint leaves it where it is. -/
@[simp]
theorem Waypoint.location_withTravel (waypoint : Waypoint) (travelDistanceM travelDurationS : ℤ) :
    (waypoint.withTravel travelDistanceM travelDurationS).location = waypoint.location := rfl

theorem Waypoint.lookup_distance_withTravel (waypoint : Waypoint)
    (travelDistanceM travelDurationS : ℤ) :
    (waypoint.withTravel travelDistanceM travelDurationS).entries.lookup "travel_distance_m" =
      some (.int travelDistanceM) := by
  unfold withTravel set
  rw [PyDict.lookup_set_of_ne (by decide), PyDict.lookup_set_of_ne (by decide),
    PyDict.lookup_set_self]

theorem Waypoint.lookup_duration_withTravel (waypoint : Waypoint)
    (travelDistanceM travelDurationS : ℤ) :
    (waypoint.withTravel travelDistanceM travelDurationS).entries.lookup "travel_duration_s" =
      some (.int travelDurationS) := by
  unfold withTravel set
  rw [PyDict.lookup_set_of_ne (by decide), PyDict.lookup_set_self]

/-- A waypoint that was not visited before adds its leg. -/
theorem Reports.visit {records : Fin n → Waypoint} {visited : List (Fin n)} {key : String}
    {total amount : ℚ} (hreports : Reports records visited key total) {point : Fin n}
    (hpoint : point ∉ visited) {updated : Waypoint} (hamount : 0 ≤ amount)
    (hupdated : updated.entries.lookup key = some (.int (truncated amount))) :
    Reports (Function.update records point updated) (visited ++ [point]) key
      (total + amount) := by
  obtain ⟨values, hvalues, hwithin⟩ := hreports
  refine ⟨values ++ [⌊amount⌋], ?_, hwithin.concat amount⟩
  have hothers : (visited.map fun other =>
      (Function.update records point updated other).entries.lookup key) =
        visited.map fun other => (records other).entries.lookup key := by
    apply List.map_congr_left
    intro other hother
    rw [Function.update_of_ne (ne_of_mem_of_not_mem hother hpoint)]
  rw [List.map_append, List.map_append, hothers, hvalues, List.map_singleton, List.map_singleton,
    Function.update_self, hupdated, truncated_of_nonneg hamount]

/-- The state of the loop when it stands at a stop. -/
structure Underway (startPoint : Waypoint) (waypoints : Fin n → Waypoint)
    (state : FallbackState n) (current : Option (Fin n)) : Prop where
  locations : ∀ point, (state.waypoints point).location = (waypoints point).location
  current : state.currentPos = stopLocation startPoint waypoints current
  nodup : state.remaining.Nodup
  apart : ∀ point ∈ state.remaining, point ∉ state.optimized
  distance_nonneg : 0 ≤ state.totalDistance
  distance : Reports state.waypoints state.optimized "travel_distance_m" state.totalDistance
  duration_nonneg : 0 ≤ state.totalDuration
  duration : Reports state.waypoints state.optimized "travel_duration_s" state.totalDuration

/-- A visit to a waypoint that is left. -/
theorem Underway.visit {state next : FallbackState n} {current : Option (Fin n)}
    (hunderway : Underway startPoint waypoints state current) {nearest : Fin n}
    (hmem : nearest ∈ state.remaining) {metres seconds : ℚ} (hmetres : 0 ≤ metres)
    (hseconds : 0 ≤ seconds)
    (hnext : next =
      { waypoints := Function.update state.waypoints nearest
          ((state.waypoints nearest).withTravel (truncated metres) (truncated seconds))
        remaining := state.remaining.erase nearest
        optimized := state.optimized ++ [nearest]
        currentPos := (state.waypoints nearest).location
        totalDistance := state.totalDistance + metres
        totalDuration := state.totalDuration + seconds }) :
    Underway startPoint waypoints next (some nearest) := by
  have hnew := hunderway.apart nearest hmem
  rw [hnext]
  refine
    { locations := ?_
      current := hunderway.locations nearest
      nodup := hunderway.nodup.erase nearest
      apart := ?_
      distance_nonneg := add_nonneg hunderway.distance_nonneg hmetres
      distance := hunderway.distance.visit hnew hmetres (Waypoint.lookup_distance_withTravel ..)
      duration_nonneg := add_nonneg hunderway.duration_nonneg hseconds
      duration := hunderway.duration.visit hnew hseconds
        (Waypoint.lookup_duration_withTravel ..) }
  · intro point
    rw [← hunderway.locations point]
    dsimp only
    by_cases hpoint : point = nearest
    · rw [hpoint, Function.update_self, Waypoint.location_withTravel]
    · rw [Function.update_of_ne hpoint]
  · intro point hpoint hvisited
    have hleft := hunderway.nodup.mem_erase_iff.mp hpoint
    rcases List.mem_append.mp hvisited with hold | hlast
    · exact hunderway.apart point hleft.2 hold
    · exact hleft.1 (List.mem_singleton.mp hlast)

/-- A turn goes to the first of the nearest waypoints that are left. -/
theorem exists_visitClosest (hmode : IsEstimated transportMode) {state : FallbackState n}
    {current : Option (Fin n)} (hunderway : Underway startPoint waypoints state current)
    (hne : state.remaining ≠ []) :
    ∃ nearest next, visitClosest globe transportMode state = .ok next ∧
      (state.remaining.map some).argmin (stopDistance globe startPoint waypoints current) =
        some (some nearest) ∧
      next.remaining = state.remaining.erase nearest ∧
      next.optimized = state.optimized ++ [nearest] ∧
      Underway startPoint waypoints next (some nearest) := by
  have hdistance : (fun point => globe.haversineKm state.currentPos
      (state.waypoints point).location) =
        fun point => stopDistance globe startPoint waypoints current (some point) := by
    funext point
    rw [hunderway.current, hunderway.locations]
    rfl
  obtain ⟨nearest, index, hloop, hfirst, hpop, herase⟩ := exists_foldl_keepLeast
    (fun point => globe.haversineKm state.currentPos (state.waypoints point).location) hne
  obtain ⟨minutes, hminutes⟩ := (exists_estimateTravelMinutes_iff globe state.currentPos
    (state.waypoints nearest).location transportMode).mpr hmode
  have hnonneg := estimateTravelMinutes_nonneg globe _ _ hminutes
  have hturn : ∃ next, visitClosest globe transportMode state = .ok next ∧ next =
      { waypoints := Function.update state.waypoints nearest
          ((state.waypoints nearest).withTravel
            (truncated (globe.haversineKm state.currentPos
              (state.waypoints nearest).location * 1000)) (truncated (minutes * 60)))
        remaining := state.remaining.erase nearest
        optimized := state.optimized ++ [nearest]
        currentPos := (state.waypoints nearest).location
        totalDistance := state.totalDistance +
          globe.haversineKm state.currentPos (state.waypoints nearest).location * 1000
        totalDuration := state.totalDuration + minutes * 60 } := by
    unfold visitClosest closestOf
    rw [hloop]
    dsimp only
    rw [hpop]
    dsimp only
    rw [hminutes, herase]
    exact ⟨_, rfl, rfl⟩
  obtain ⟨next, hvisit, hnext⟩ := hturn
  refine ⟨nearest, next, hvisit, ?_, by rw [hnext], by rw [hnext],
    hunderway.visit hfirst.mem (by positivity) (by positivity) hnext⟩
  rw [hdistance] at hfirst
  exact argmin_eq_some_iff_isFirstLeast.mpr hfirst.map

/-- The loop visits the waypoints in the order of going to the nearest. -/
theorem exists_visitRemaining (turns : ℕ) (hmode : turns ≠ 0 → IsEstimated transportMode)
    {state : FallbackState n} {current : Option (Fin n)}
    (hunderway : Underway startPoint waypoints state current)
    (hturns : state.remaining.length = turns) :
    ∃ final last, visitRemaining globe transportMode turns state = .ok final ∧
      final.optimized.map some = state.optimized.map some ++
        nearestFirst (stopDistance globe startPoint waypoints) turns current
          (state.remaining.map some) ∧
      Underway startPoint waypoints final last := by
  induction turns generalizing state current with
  | zero => exact ⟨state, current, rfl, (List.append_nil _).symm, hunderway⟩
  | succ turns ih =>
      have hestimated := hmode turns.succ_ne_zero
      have hne : state.remaining ≠ [] := List.ne_nil_of_length_eq_add_one hturns
      obtain ⟨nearest, next, hturn, hargmin, hremaining, hoptimized, hnext⟩ :=
        exists_visitClosest globe hestimated hunderway hne
      have hmem : nearest ∈ state.remaining := by
        obtain ⟨point, hpoint, heq⟩ := List.mem_map.mp (List.argmin_mem hargmin)
        exact Option.some.inj heq ▸ hpoint
      have hlength : next.remaining.length = turns := by
        rw [hremaining, List.length_erase_of_mem hmem, hturns]
        rfl
      obtain ⟨final, last, hrun, horder, hfinal⟩ := ih (fun _ => hestimated) hnext hlength
      refine ⟨final, last, ?_, ?_, hfinal⟩
      · rw [visitRemaining, hturn]
        exact hrun
      · have herase := @List.map_erase (Fin n) (Option (Fin n)) _ _ instBEqOfDecidableEq
          inferInstance some (Option.some_injective _) nearest state.remaining
        rw [horder, hoptimized, hremaining, List.map_append, List.append_assoc, herase,
          nearestFirst, hargmin]
        rfl

/-- The totals of the loop are cut to whole numbers at the end. -/
theorem Reports.truncated {records : Fin n → Waypoint} {visited : List (Fin n)} {key : String}
    {total : ℚ} (hreports : Reports records visited key total) (htotal : 0 ≤ total) :
    Reports records visited key (truncated total : ℤ) := by
  obtain ⟨values, hvalues, hwithin⟩ := hreports
  rw [truncated_of_nonneg htotal]
  refine ⟨values, hvalues, ?_⟩
  obtain ⟨hlow, hhigh⟩ := hwithin.floor
  exact ⟨Int.cast_le.mpr hlow, Int.cast_le.mpr hhigh⟩

/-- With a mode that the estimator knows, or nothing to visit, the fallback returns a greedy
tour. -/
theorem exists_fallbackRoute (hmode : n ≠ 0 → IsEstimated transportMode)
    (waypoints : Fin n → Waypoint) (startPoint : Waypoint) :
    ∃ route, fallbackRoute globe transportMode waypoints startPoint = .ok route ∧
      IsGreedyTour globe waypoints startPoint route := by
  have hstart : Underway startPoint waypoints
      { waypoints := waypoints
        remaining := List.finRange n
        currentPos := startPoint.location } none :=
    { locations := fun _ => rfl
      current := rfl
      nodup := List.nodup_finRange n
      apart := fun _ _ => List.not_mem_nil
      distance_nonneg := le_rfl
      distance := ⟨[], rfl, withinRounding_nil⟩
      duration_nonneg := le_rfl
      duration := ⟨[], rfl, withinRounding_nil⟩ }
  have hlength : ((List.finRange n).map some).length = n := by
    rw [List.length_map, List.length_finRange]
  obtain ⟨final, last, hrun, horder, hfinal⟩ :=
    exists_visitRemaining globe n hmode hstart List.length_finRange
  rw [List.map_nil, List.nil_append] at horder
  refine ⟨
    { waypoints := final.waypoints
      optimizedWaypoints := final.optimized
      totalDistanceM := Python.truncated final.totalDistance
      totalDurationS := Python.truncated final.totalDuration }, ?_, ?_⟩
  · unfold fallbackRoute
    rw [hrun]
    rfl
  · exact
    { once := by
        rw [← List.map_perm_map_iff (Option.some_injective _), horder]
        exact nearestFirst_perm _ n none _ hlength
      nearest := by
        rw [horder]
        exact goesToNearest_nearestFirst _ n none _ hlength
      distance := hfinal.distance.truncated hfinal.distance_nonneg
      duration := hfinal.duration.truncated hfinal.duration_nonneg }

/-- A turn needs the estimator. -/
theorem isEstimated_of_visitClosest {state next : FallbackState n}
    (hturn : visitClosest globe transportMode state = .ok next) : IsEstimated transportMode := by
  unfold visitClosest at hturn
  split at hturn
  · cases hturn
  · split at hturn
    · cases hturn
    · obtain ⟨minutes, hminutes, -⟩ := exists_of_bind_eq_ok hturn
      exact (exists_estimateTravelMinutes_iff globe _ _ _).mp ⟨minutes, hminutes⟩

/-- The fallback raises for every other mode, unless there is nothing to visit. -/
theorem isEstimated_of_fallbackRoute {route : FallbackRoute n}
    (hroute : fallbackRoute globe transportMode waypoints startPoint = .ok route) (hn : n ≠ 0) :
    IsEstimated transportMode := by
  cases n with
  | zero => exact absurd rfl hn
  | succ turns =>
      obtain ⟨final, hrun, -⟩ := exists_of_bind_eq_ok hroute
      obtain ⟨next, hturn, -⟩ := exists_of_bind_eq_ok hrun
      exact isEstimated_of_visitClosest globe hturn

end Loop

/-! ## When the calls return -/

section Calls

variable (env : MapsEnv) (globe : Globe) (ask : MapsApi)

/-- The fallback of a matrix raises for the other modes as well, unless there is no cell. -/
theorem exists_fallbackDistanceMatrix_iff (transportMode : String)
    (origins destinations : List Waypoint) :
    (∃ result, fallbackDistanceMatrix globe transportMode origins destinations = .ok result) ↔
      IsEstimated transportMode ∨ origins = [] ∨ destinations = [] := by
  have hrow : ∀ origin : Waypoint,
      (∃ row, (destinations.mapM fun destination =>
        estimatedCell globe origin.location destination.location transportMode).map PyVal.list =
          .ok row) ↔ ∀ destination ∈ destinations, IsEstimated transportMode := by
    intro origin
    have hcells : (∃ cells, (destinations.mapM fun destination =>
        estimatedCell globe origin.location destination.location transportMode) = .ok cells) ↔
          ∀ destination ∈ destinations, IsEstimated transportMode := by
      rw [exists_mapM_eq_ok_iff]
      simp only [exists_estimatedCell_iff]
    rw [← hcells]
    constructor
    · rintro ⟨row, hrow⟩
      obtain ⟨cells, hcells, -⟩ := exists_of_map_eq_ok hrow
      exact ⟨cells, hcells⟩
    · rintro ⟨cells, hcells⟩
      rw [hcells]
      exact ⟨_, rfl⟩
  have hrows : (∃ result,
      fallbackDistanceMatrix globe transportMode origins destinations = .ok result) ↔
        ∀ origin ∈ origins, ∀ destination ∈ destinations, IsEstimated transportMode := by
    rw [← forall₂_congr fun origin _ => hrow origin, ← exists_mapM_eq_ok_iff]
    constructor
    · rintro ⟨result, hresult⟩
      obtain ⟨rows, hrows, -⟩ := exists_of_bind_eq_ok hresult
      exact ⟨rows, hrows⟩
    · rintro ⟨rows, hrows⟩
      unfold fallbackDistanceMatrix
      rw [hrows]
      exact ⟨_, rfl⟩
  rw [hrows]
  constructor
  · intro hall
    cases origins with
    | nil => exact .inr (.inl rfl)
    | cons origin others =>
        cases destinations with
        | nil => exact .inr (.inr rfl)
        | cons destination rest =>
            exact .inl (hall origin List.mem_cons_self destination List.mem_cons_self)
  · rintro (hmode | rfl | rfl)
    · exact fun _ _ _ _ => hmode
    · exact fun _ horigin => absurd horigin List.not_mem_nil
    · exact fun _ _ _ hdestination => absurd hdestination List.not_mem_nil

/-- A call returns what Google answers or what the fallback makes. -/
theorem exists_withFallback_iff {answer : Except PyError (Option PyVal)}
    {fallback : Except PyError PyVal} :
    (∃ result, withFallback answer fallback = .ok result) ↔
      (∃ result, answer = .ok (some result)) ∨ ∃ result, fallback = .ok result := by
  unfold withFallback
  cases answer with
  | error e => simp [bind, Except.bind]
  | ok found =>
      cases found with
      | some result => exact iff_of_true ⟨result, rfl⟩ (.inl ⟨result, rfl⟩)
      | none =>
          cases fallback with
          | ok result => exact iff_of_true ⟨result, rfl⟩ (.inr ⟨result, rfl⟩)
          | error e => simp [bind, Except.bind]

/-- The estimate for an element that Google has no distance for is never made: it raises, and
the whole matrix is left to the fallback. -/
theorem parseElement_ne_ok {origins destinations : List Waypoint} {i j : ℕ} {element cell : PyVal}
    {status : PyVal} (hstatus : element.get "status" .none = .ok status)
    (hfailed : status.isText "OK" = false) :
    parseElement globe origins destinations i j element ≠ .ok cell := by
  intro hcell
  unfold parseElement at hcell
  rw [hstatus] at hcell
  change (if status.isText "OK" = true then _ else _ : Except PyError PyVal) = _ at hcell
  rw [if_neg (Bool.eq_false_iff.mp hfailed)] at hcell
  obtain ⟨origin, -, hcell⟩ := exists_of_bind_eq_ok hcell
  obtain ⟨destination, -, hcell⟩ := exists_of_bind_eq_ok hcell
  have hmode := (exists_estimatedCell_iff globe origin.location destination.location
    "walking").mp ⟨cell, hcell⟩
  exact absurd hmode (by decide)

/-- Both calls return exactly when Google answers them, the estimator knows their modes, or
there is nothing to estimate; the fallback route is a greedy tour whenever it returns. -/
theorem answersAlways_iff (routeCall : RouteCall) (matrixCall : MatrixCall) :
    AnswersAlways env globe ask routeCall matrixCall ↔
      ((∃ result, readRoute env ask routeCall = .ok (some result)) ∨
          IsEstimated routeCall.transportMode ∨ routeCall.waypoints = []) ∧
        ((∃ result, readMatrix env globe ask matrixCall = .ok (some result)) ∨
          IsEstimated matrixCall.transportMode ∨ matrixCall.origins = [] ∨
            matrixCall.destinations = []) := by
  have hroute : (∃ result, getOptimalRoute env globe ask routeCall = .ok result) ↔
      (∃ result, readRoute env ask routeCall = .ok (some result)) ∨
        IsEstimated routeCall.transportMode ∨ routeCall.waypoints = [] := by
    unfold getOptimalRoute
    rw [exists_withFallback_iff, ← List.length_eq_zero_iff]
    refine or_congr_right ⟨?_, ?_⟩
    · rintro ⟨result, hresult⟩
      obtain ⟨route, hfound, -⟩ := exists_of_map_eq_ok hresult
      rw [or_comm, or_iff_not_imp_left]
      exact isEstimated_of_fallbackRoute globe hfound
    · rw [or_comm, or_iff_not_imp_left]
      intro hmode
      obtain ⟨route, hfound, -⟩ := exists_fallbackRoute globe hmode routeCall.waypoints.get
        routeCall.startPoint
      rw [hfound]
      exact ⟨_, rfl⟩
  have hmatrix : (∃ result, getDistanceMatrix env globe ask matrixCall = .ok result) ↔
      (∃ result, readMatrix env globe ask matrixCall = .ok (some result)) ∨
        IsEstimated matrixCall.transportMode ∨ matrixCall.origins = [] ∨
          matrixCall.destinations = [] := by
    unfold getDistanceMatrix
    rw [exists_withFallback_iff, exists_fallbackDistanceMatrix_iff]
  rw [← hroute, ← hmatrix]
  constructor
  · intro hanswers
    exact ⟨hanswers.route, hanswers.matrix⟩
  · rintro ⟨hfirst, hsecond⟩
    refine ⟨hfirst, hsecond, fun found hfound => ?_⟩
    obtain ⟨route, hreturned, htour⟩ := exists_fallbackRoute globe
      (isEstimated_of_fallbackRoute globe hfound) routeCall.waypoints.get routeCall.startPoint
    cases hfound.symm.trans hreturned
    exact htour

end Calls

/-! ## A walk without a session -/

/-- A waypoint at the origin. -/
def originWaypoint : Waypoint where
  entries := [("lat", .float 0), ("lon", .float 0)]
  location := Location.origin
  lat_given := rfl
  lon_given := rfl

/-- The answer of a client that was not entered: it has no session. -/
def noSession : MapsApi := fun _ =>
  .error (.attributeError "'NoneType' object has no attribute 'get'")

theorem answersAlways_walking_false :
    ¬ ∀ (env : MapsEnv) (globe : Globe) (ask : MapsApi) (routeCall : RouteCall)
      (matrixCall : MatrixCall), IsAccepted routeCall.transportMode →
        IsAccepted matrixCall.transportMode →
        AnswersAlways env globe ask routeCall matrixCall := by
  intro hanswers
  obtain ⟨hroute, -, -⟩ := hanswers { apiKey := "", textOf := fun _ => "" } Globe.equatorial
    noSession
    { waypoints := [originWaypoint], startPoint := originWaypoint }
    { origins := [], destinations := [] } (by decide) (by decide)
  rcases exists_withFallback_iff.mp hroute with ⟨result, hresult⟩ | ⟨result, hresult⟩
  · cases hresult
  · obtain ⟨route, hfound, -⟩ := exists_of_map_eq_ok hresult
    exact absurd (isEstimated_of_fallbackRoute Globe.equatorial hfound one_ne_zero) (by decide)

end Goveling.Places
