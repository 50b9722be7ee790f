/-
# The professional optimizer

`optimize_itinerary_advanced` structures the places, asks the solver for a route
and puts the places in the order of the route. The solver itself is known by
its contract: a route that it found starts at the depot, node 0, and visits no
node twice. With time windows it may leave places out.
-/

import Goveling.Python.Value

namespace Goveling.Ortools

open Goveling.Python

/-- The dataclass `POI`. -/
structure Poi where
  id : ℕ
  name : PyVal
  lat : PyVal
  lon : PyVal
  rating : PyVal
  category : PyVal
  durationMinutes : PyVal
  openingHour : PyVal
  closingHour : PyVal
  isMandatory : PyVal
  priority : PyVal

/-- The dataclass `OptimizationResult`. -/
structure OptimizationResult where
  success : Bool
  route : List ℕ
  totalDistanceM : ℚ
  totalTimeMinutes : ℚ
  optimizationTimeS : ℚ
  algorithmUsed : String
  constraintsSatisfied : Bool
  droppedPois : Option (List ℕ) := none

/-- The keys of the distance matrix that the optimizer reads: metres and seconds. -/
structure OsrmMatrix where
  distances : List (List ℚ)
  durations : List (List ℚ)

/-- A route over a number of nodes as the routing library returns one. -/
structure IsSolverRoute (nodes : ℕ) (route : List ℕ) : Prop where
  lt_nodes : ∀ node ∈ route, node < nodes
  nodup : route.Nodup
  starts_at_depot : route.head? = some 0

/-- The solver and its contract. `solve_vrptw` falls back to `solve_tsp_basic`,
which has a node for every row of the distance matrix. -/
structure TspSolver where
  solveTspBasic : List (List ℚ) → OptimizationResult
  solveVrptw : List (List ℚ) → List (List ℚ) → List Poi → ℤ → OptimizationResult
  tsp_route : ∀ distances, (solveTspBasic distances).success = true →
    IsSolverRoute distances.length (solveTspBasic distances).route
  vrptw_route : ∀ distances durations pois start, distances.length = pois.length →
    (solveVrptw distances durations pois start).success = true →
      IsSolverRoute pois.length (solveVrptw distances durations pois start).route

/-! ## Reading the input -/

/-- The value of decimal digits, which may be grouped by underscores. -/
def digitsValue (digits : List Char) : Option ℕ :=
  let groups := digits.splitOn '_'
  if groups.all (fun group => !group.isEmpty && group.all Char.isDigit) then
    some (groups.flatten.foldl (fun value c => 10 * value + (c.toNat - '0'.toNat)) 0)
  else none

/-- `int(text)`. -/
def parseInt (text : List Char) : Except PyError ℤ :=
  let blank := Char.isWhitespace
  let value := match ((text.dropWhile blank).reverse.dropWhile blank).reverse with
    | '-' :: digits => (digitsValue digits).map fun n => -(n : ℤ)
    | '+' :: digits => (digitsValue digits).map Int.ofNat
    | digits => (digitsValue digits).map Int.ofNat
  match value with
  | some n => .ok n
  | none => .error (.valueError
      ("invalid literal for int() with base 10: '" ++ String.ofList text ++ "'"))

/-- `_parse_time_to_minutes`: the parts are converted as they are unpacked. -/
def parseTimeToMinutes (timeStr : String) : Except PyError ℤ :=
  match timeStr.toList.splitOn ':' with
  | [] => .error (.valueError "not enough values to unpack (expected 2, got 0)")
  | [hours] => do
      let _hours ← parseInt hours
      .error (.valueError "not enough values to unpack (expected 2, got 1)")
  | [hours, minutes] => do
      let hours ← parseInt hours
      let minutes ← parseInt minutes
      .ok (hours * 60 + minutes)
  | hours :: minutes :: extra :: _ => do
      let _hours ← parseInt hours
      let _minutes ← parseInt minutes
      let _extra ← parseInt extra
      .error (.valueError "too many values to unpack (expected 2)")

example : (parseTimeToMinutes "09:30").toOption = some 570 := by decide +kernel

/-- The `POI` of a place. -/
def structurePoi (i : ℕ) (poi : PyDict) : Except PyError Poi := do
  let lat ← poi.item "lat"
  let lon ← poi.item "lon"
  .ok
    { id := i
      name := poi.get "name" (.str ("POI_" ++ toString i))
      lat := lat
      lon := lon
      rating := poi.get "rating" .none
      category := poi.get "category" .none
      durationMinutes := poi.get "duration_minutes" (.int 60)
      openingHour := poi.get "opening_hour" (.int 9)
      closingHour := poi.get "closing_hour" (.int 18)
      isMandatory := poi.get "is_mandatory" (.bool true)
      priority := poi.get "priority" (.int 1) }

/-- `structured_pois`. -/
def structurePois (pois : List PyDict) : Except PyError (List Poi) :=
  pois.zipIdx.mapM fun place => structurePoi place.2 place.1

/-! ## Optimizing -/

/-- The result of the solver that fits the configuration. -/
def solveItinerary (solver : TspSolver) (pois : List PyDict) (matrix : OsrmMatrix)
    (useTimeWindows : Bool) (startTime : String) : Except PyError OptimizationResult := do
  let structured ← structurePois pois
  let timeMatrix := matrix.durations.map fun row => row.map fun duration => duration / 60
  if useTimeWindows && 1 < structured.length then
    let start ← parseTimeToMinutes startTime
    .ok (solver.solveVrptw matrix.distances timeMatrix structured start)
  else .ok (solver.solveTspBasic matrix.distances)

/-- `pois[i]`. -/
def poiAt (pois : List PyDict) (i : ℕ) : Except PyError PyDict :=
  match pois[i]? with
  | some poi => .ok poi
  | none => .error (.indexError "list index out of range")

/-- The dictionary of a successful optimization. -/
def optimizedResult (poisCount : ℕ) (result : OptimizationResult) (optimizedPois : List PyDict) :
    PyDict :=
  let dropped := result.droppedPois.getD []
  [("success", .bool true),
    ("optimized_route", .ints result.route),
    ("optimized_pois", .list (optimizedPois.map .dict)),
    ("total_distance_km", .float (result.totalDistanceM / 1000)),
    ("total_time_minutes", .float result.totalTimeMinutes),
    ("optimization_time_s", .float result.optimizationTimeS),
    ("algorithm_used", .str result.algorithmUsed),
    ("constraints_satisfied", .bool result.constraintsSatisfied),
    ("dropped_pois", .ints dropped),
    ("performance_metrics", .dict
      [("pois_optimized", .int result.route.length),
        ("efficiency_gain", .str
          (toString ((poisCount : ℤ) - dropped.length) ++ "/" ++ toString poisCount)),
        ("algorithm_speed", .str (fixedText 3 result.optimizationTimeS ++ "s"))])]

/-- The dictionary that `optimize_itinerary_advanced` makes of a result. -/
def processResult (pois : List PyDict) (result : OptimizationResult) : Except PyError PyDict :=
  if result.success then do
    let optimizedPois ← result.route.mapM (poiAt pois)
    .ok (optimizedResult pois.length result optimizedPois)
  else
    .ok
      [("success", .bool false),
        ("error", .str "Optimización falló"),
        ("fallback_route", .ints (List.range pois.length)),
        ("algorithm_used", .str result.algorithmUsed)]

/-- `optimize_itinerary_advanced`. -/
def optimizeItineraryAdvanced (solver : TspSolver) (pois : List PyDict) (matrix : OsrmMatrix)
    (useTimeWindows : Bool := false) (startTime : String := "09:00") : Except PyError PyDict := do
  let result ← solveItinerary solver pois matrix useTimeWindows startTime
  processResult pois result

/-! ## What the result holds -/

/-- A loop that maps every item keeps their number. -/
theorem length_of_mapM_ok {α β : Type} {f : α → Except PyError β} {items : List α}
    {results : List β} (hresults : items.mapM f = .ok results) :
    results.length = items.length := by
  induction items generalizing results with
  | nil =>
      cases hresults
      rfl
  | cons item rest ih =>
      rw [List.mapM_cons] at hresults
      obtain ⟨first, -, hothers⟩ := exists_of_bind_eq_ok hresults
      obtain ⟨others, hrest, hlist⟩ := exists_of_bind_eq_ok hothers
      cases hlist
      simp [ih hrest]

/-- The contract of the solver: a matrix over the places gives a route over the places. -/
theorem solveItinerary_isSolverRoute {solver : TspSolver} {pois : List PyDict}
    {matrix : OsrmMatrix} {useTimeWindows : Bool} {startTime : String}
    {solution : OptimizationResult} (hmatrix : matrix.distances.length = pois.length)
    (hsolution : solveItinerary solver pois matrix useTimeWindows startTime = .ok solution)
    (hsuccess : solution.success = true) : IsSolverRoute pois.length solution.route := by
  obtain ⟨structured, hstructured, hsolved⟩ := exists_of_bind_eq_ok hsolution
  have hlength : structured.length = pois.length := by
    simpa using length_of_mapM_ok hstructured
  dsimp only at hsolved
  split at hsolved
  · obtain ⟨start, -, hstart⟩ := exists_of_bind_eq_ok hsolved
    cases hstart
    exact hlength ▸ solver.vrptw_route _ _ _ _ (hmatrix.trans hlength.symm) hsuccess
  · cases hsolved
    exact hmatrix ▸ solver.tsp_route _ hsuccess

/-- The places along a route. -/
def visitedPois (pois : List PyDict) (route : List ℕ) : List PyDict :=
  route.filterMap fun i => pois[i]?

theorem mapM_poiAt {pois : List PyDict} {route : List ℕ} (hroute : ∀ i ∈ route, i < pois.length) :
    route.mapM (poiAt pois) = .ok (visitedPois pois route) := by
  induction route with
  | nil => rfl
  | cons i rest ih =>
      obtain ⟨hi, hrest⟩ := List.forall_mem_cons.mp hroute
      rw [List.mapM_cons, ih hrest]
      simp [poiAt, visitedPois, hi, bind, Except.bind, pure, Except.pure]

/-- A solved itinerary comes back with its route and the places along it. -/
theorem optimizeItineraryAdvanced_eq {solver : TspSolver} {pois : List PyDict}
    {matrix : OsrmMatrix} {useTimeWindows : Bool} {startTime : String}
    {solution : OptimizationResult}
    (hsolution : solveItinerary solver pois matrix useTimeWindows startTime = .ok solution)
    (hsuccess : solution.success = true)
    (hroute : ∀ i ∈ solution.route, i < pois.length) :
    optimizeItineraryAdvanced solver pois matrix useTimeWindows startTime =
      .ok (optimizedResult pois.length solution (visitedPois pois solution.route)) := by
  unfold optimizeItineraryAdvanced processResult
  simp [hsolution, hsuccess, mapM_poiAt hroute, bind, Except.bind]

end Goveling.Ortools
