/-
# The cascade of engines

`optimize_itinerary_hybrid_v31` asks OR-Tools first, City2Graph second and the
classic optimizer last. Every layer of the cascade catches whatever goes wrong in
it, and the next engine takes over. The call of the OR-Tools optimizer passes a
keyword that it does not take, and both the end of `_optimize_with_ortools` and
its exception handler read names that are not defined there, so that path never
returns: the cascade starts with City2Graph in fact.
-/

import Goveling.Math.Breaker
import Goveling.Ortools.FormatConverter

namespace Goveling.Optimizer

open Goveling.Math (BreakerState)
open Goveling.Python Goveling.Ortools

/-! ## Calls and names -/

/-- A call by keywords is rejected for the first keyword that the function does not take. -/
def checkKeywords (function : String) (parameters keywords : List String) :
    Except PyError Unit :=
  match keywords.find? (fun keyword => keyword ∉ parameters) with
  | some keyword => .error (.typeError
      (function ++ "() got an unexpected keyword argument '" ++ keyword ++ "'"))
  | none => .ok ()

/-- A name is read that has to be local or a name of the module. -/
def readName (names : List String) (name : String) : Except PyError Unit :=
  if name ∈ names then .ok () else .error (.nameError name)

/-- The parameters of `optimize_itinerary_advanced`. -/
def optimizerParameters : List String :=
  ["pois", "distance_matrix", "use_time_windows", "start_time"]

/-- The names that `hybrid_optimizer_v31` defines or imports. -/
def moduleNames : List String :=
  ["math", "asyncio", "logging", "json", "time", "os", "List", "Dict", "Tuple", "Optional", "Any",
    "datetime", "timedelta", "dataclass", "field", "np", "DBSCAN", "FreeRoutingService",
    "HybridRoutingService", "haversine_km", "HotelRecommender", "GooglePlacesService",
    "cache_google_api", "parallel_google_calls", "record_ortools_execution",
    "record_legacy_execution", "settings", "get_global_semantic_clustering",
    "SEMANTIC_AVAILABLE", "get_global_real_semantic_clustering", "REAL_SEMANTIC_AVAILABLE",
    "OptimizerError", "RoutingServiceError", "GooglePlacesError", "QuotaExceededError",
    "CircuitBreakerOpenError", "InvalidCoordinatesError", "CircuitBreaker", "TimeWindow",
    "Cluster", "TransferItem", "ActivityItem", "FreeBlock", "HybridOptimizerV31",
    "optimize_itinerary_hybrid_v31", "_optimize_classic_method", "_optimize_with_city2graph",
    "_execute_city2graph_core_logic", "safe_city2graph_execution", "City2GraphCircuitBreaker",
    "_city2graph_circuit_breaker", "execute_with_circuit_breaker",
    "get_circuit_breaker_status", "_optimize_with_ortools", "optimize_itinerary_hybrid"]

/-- The names that `_optimize_with_ortools` can read besides its own variables. -/
def ortoolsNames : List String := ["request_data", "ortools_decision"] ++ moduleNames

/-! ## Requests and engines -/

/-- The arguments of `optimize_itinerary_hybrid_v31`. Dates are ordinals. -/
structure TripRequest where
  places : List PyDict
  startDate : ℤ
  endDate : ℤ
  dailyStartHour : ℤ := 9
  dailyEndHour : ℤ := 18
  transportMode : String := "walk"
  accommodations : PyVal := .none
  packingStrategy : String := "balanced"
  extraInfo : PyVal := .none

/-- What the cascade reads of an `ORToolsDecision`. -/
structure OrtoolsDecision where
  useOrtools : Bool
  confidenceScore : ℚ
  complexityScore : ℚ
  estimatedExecutionTimeMs : ℚ
  expectedSuccessRate : ℚ

/-- What the cascade reads of the decision of `should_use_city2graph`. -/
structure City2graphDecision where
  useCity2graph : Bool
  complexityScore : ℚ
  factors : PyDict := []

/-- The settings, the decisions and the outcomes of the parts of the engines for a
request. `classic` is the outcome of `_optimize_classic_method`. -/
structure EngineEnv where
  enableOrtools : Bool
  enableCity2graph : Bool
  ortoolsDecision : Except PyError OrtoolsDecision
  city2graphDecision : Except PyError City2graphDecision
  optimizerInitializes : Bool
  ortoolsHealthy : Bool
  convertLegacyToOrtools : TripRequest → FormatConversionResult
  distanceMatrix : PyVal → Except PyError OsrmMatrix
  solver : TspSolver
  converter : ConverterEnv
  executionTimeMs : ℚ
  processingTimeS : ℚ
  city2graphService : Except PyError Unit
  semanticResult : Option PyDict
  classic : Except PyError PyDict

/-- The OR-Tools decision selects OR-Tools, and it is enabled. -/
def EngineEnv.selectsOrtools (env : EngineEnv) : Bool :=
  match env.ortoolsDecision with
  | .ok decision => decision.useOrtools && env.enableOrtools
  | .error _ => false

/-- The City2Graph decision selects City2Graph, and it is enabled. -/
def EngineEnv.selectsCity2graph (env : EngineEnv) : Bool :=
  match env.city2graphDecision with
  | .ok decision => decision.useCity2graph && env.enableCity2graph
  | .error _ => false

/-! ## OR-Tools -/

/-- The arguments that the service makes of a converted request. -/
structure OptimizerArguments where
  pois : List PyDict
  matrix : OsrmMatrix
  startTime : String

/-- The arguments of the call of `optimize_itinerary_advanced`. -/
def optimizerArguments (env : EngineEnv) (ortoolsRequest : PyDict) :
    Except PyError OptimizerArguments := do
  let places := ortoolsRequest.get "places" (.list [])
  let accommodations := ortoolsRequest.get "accommodations" (.list [])
  let preferences := ortoolsRequest.get "preferences" (.dict [])
  let matrix ← env.distanceMatrix places
  let _accommodationsCount ← accommodations.len
  let startHour ← preferences.get "daily_start_hour" (.int 9)
  let startHourText ← startHour.formatTwoDigits
  let pois ← (← places.iterate).mapM PyVal.getter
  .ok { pois := pois, matrix := matrix, startTime := startHourText ++ ":00" }

/-- `_execute_ortools_optimization`. -/
def executeOrtoolsOptimization (env : EngineEnv) (ortoolsRequest : PyDict) :
    Except PyError PyDict :=
  if env.optimizerInitializes then do
    let arguments ← optimizerArguments env ortoolsRequest
    checkKeywords "ProfessionalItineraryOptimizer.optimize_itinerary_advanced"
      optimizerParameters
      ["pois", "accommodations", "distance_matrix", "use_time_windows", "start_time"]
    let result ← optimizeItineraryAdvanced env.solver arguments.pois arguments.matrix true
      arguments.startTime
    if result.isEmpty then .error (.exception "OR-Tools returned empty result")
    else .ok result
  else .error (.exception "Could not initialize OR-Tools optimizer")

/-- `_generate_metrics`. -/
def generateMetrics (env : EngineEnv) (ortoolsRequest result : PyDict) :
    Except PyError PyDict := do
  let placesCount ← (ortoolsRequest.get "places" (.list [])).len
  let totalDistance := result.get "total_distance_km" (.int 0)
  let success := result.get "success" (.bool false)
  let realistic ← totalDistance.greaterThan 0 "int"
  .ok
    [("execution_time_ms", .float env.executionTimeMs),
      ("success", success),
      ("places_processed", .int placesCount),
      ("total_distance_km", totalDistance),
      ("total_time_minutes", result.get "total_time_minutes" (.int 0)),
      ("benchmark_deviation", .dict
        [("execution_time_ratio", .float (env.executionTimeMs / 2000)),
          ("distance_realistic", .bool realistic),
          ("success_vs_expected", .float (if success.truthy then 1 else 0))])]

/-- `optimize_with_ortools` of a service that was just created, whose circuit breaker
is closed. -/
def optimizeWithOrtoolsService (env : EngineEnv) (ortoolsRequest : PyDict) :
    Except PyError PyDict :=
  if env.ortoolsHealthy then do
    let result ← executeOrtoolsOptimization env ortoolsRequest
    let metrics ← generateMetrics env ortoolsRequest result
    .ok ((result.set "ortools_metrics" (.dict metrics)).set "execution_meta" (.dict
      [("algorithm", .str "ortools_professional"),
        ("execution_time_ms", .float env.executionTimeMs),
        ("circuit_breaker_state", .str "CLOSED"),
        ("vs_benchmark", metrics.get "benchmark_deviation" .none)]))
  else .error (.exception "OR-Tools service is not healthy")

/-- `(end_date - start_date).days + 1` in `_optimize_with_ortools`. -/
def ortoolsDaysCount (request : TripRequest) : Except PyError ℤ := do
  readName ortoolsNames "end_date"
  readName ortoolsNames "start_date"
  .ok (request.endDate - request.startDate + 1)

/-- The metrics that `_optimize_with_ortools` adds to a legacy result. -/
def ortoolsMetrics (env : EngineEnv) (decision : OrtoolsDecision) : PyDict :=
  [("algorithm_used", .str "ortools_professional"),
    ("total_execution_time_ms", .float env.executionTimeMs),
    ("decision_confidence", .float decision.confidenceScore),
    ("complexity_score", .float decision.complexityScore),
    ("vs_benchmark", .dict
      [("expected_time_ms", .float decision.estimatedExecutionTimeMs),
        ("actual_time_ms", .float env.executionTimeMs),
        ("performance_ratio", .float (env.executionTimeMs / decision.estimatedExecutionTimeMs)),
        ("expected_success_rate", .float decision.expectedSuccessRate)])]

/-- The body of the `try` of `_optimize_with_ortools`. -/
def ortoolsBody (env : EngineEnv) (request : TripRequest) (decision : OrtoolsDecision) :
    Except PyError PyDict := do
  let conversion := env.convertLegacyToOrtools request
  if !conversion.success then
    .error (.exception ("Format conversion failed: " ++
      env.converter.textOf (.list (conversion.warnings.map .str))))
  else
    let _placesCount ← (← conversion.data.item "places").len
    let ortoolsResult ← optimizeWithOrtoolsService env conversion.data
    let legacyConversion := convertOrtoolsToLegacyFormat env.converter ortoolsResult
    if !legacyConversion.success then
      .error (.exception ("Legacy conversion failed: " ++
        env.converter.textOf (.list (legacyConversion.warnings.map .str))))
    else if decision.estimatedExecutionTimeMs = 0 then
      .error (.zeroDivisionError "float division by zero")
    else
      let metrics ← (legacyConversion.data.get "optimization_metrics" (.dict [])).getter
      let metrics := (ortoolsMetrics env decision).foldl
        (fun metrics entry => metrics.set entry.1 entry.2) metrics
      let _daysCount ← ortoolsDaysCount request
      .ok (legacyConversion.data.set "optimization_metrics" (.dict metrics))

/-- `_optimize_with_ortools`: the handler counts the days before it raises again. -/
def optimizeWithOrtools (env : EngineEnv) (request : TripRequest) (decision : OrtoolsDecision) :
    Except PyError PyDict :=
  match ortoolsBody env request decision with
  | .ok legacyResult => .ok legacyResult
  | .error e => do
      let _daysCount ← ortoolsDaysCount request
      .error (.exception ("OR-Tools optimization failed: " ++ e.text))

/-! ## City2Graph -/

/-- `City2GraphCircuitBreaker`. -/
structure City2graphCircuitBreaker where
  failureCount : ℕ := 0
  failureThreshold : ℕ := 5
  lastFailureTime : Option ℚ := none
  state : BreakerState := .closed
  recoveryTimeout : ℚ := 300

/-- `get_status`. -/
def City2graphCircuitBreaker.getStatus (breaker : City2graphCircuitBreaker) : PyVal :=
  .dict
    [("state", .str breaker.state.text),
      ("failure_count", .int breaker.failureCount),
      ("failure_threshold", .int breaker.failureThreshold),
      ("last_failure_time", (breaker.lastFailureTime.map PyVal.float).getD .none),
      ("recovery_timeout", .float breaker.recoveryTimeout)]

/-- What a part of the cascade leaves behind: its outcome, the circuit breaker and
the number of times the classic optimizer ran. -/
structure EngineRun where
  outcome : Except PyError PyDict
  breaker : City2graphCircuitBreaker
  classicRuns : ℕ

/-- `call` of a function whose outcome and number of classic runs are given. -/
def City2graphCircuitBreaker.call (breaker : City2graphCircuitBreaker) (now : ℚ)
    (outcome : Except PyError PyDict) (classicRuns : ℕ) : EngineRun :=
  let recovered := breaker.lastFailureTime.any fun time =>
    time ≠ 0 && breaker.recoveryTimeout < now - time
  if breaker.state = .opened && !recovered then
    { outcome := .error (.exception ("Circuit breaker is OPEN - último fallo hace " ++
        fixedText 0 (now - breaker.lastFailureTime.getD 0) ++ "s"))
      breaker := breaker
      classicRuns := 0 }
  else
    let state := if breaker.state = .opened then .halfOpen else breaker.state
    match outcome with
    | .ok result =>
        { outcome := .ok result
          breaker :=
            if state = .halfOpen then { breaker with state := .closed, failureCount := 0 }
            else { breaker with state := state }
          classicRuns := classicRuns }
    | .error e =>
        let failureCount := breaker.failureCount + 1
        { outcome := .error e
          breaker :=
            { breaker with
              failureCount := failureCount
              lastFailureTime := some now
              state := if breaker.failureThreshold ≤ failureCount then .opened else state }
          classicRuns := classicRuns }

/-- Set a key of the analysis or the metrics of a result that has metrics. -/
def markMetrics (result : PyDict) (update : PyDict → Except PyError PyDict) :
    Except PyError PyDict :=
  match result.lookup "optimization_metrics" with
  | none => .ok result
  | some (.dict metrics) => do
      let metrics ← update metrics
      .ok (result.set "optimization_metrics" (.dict metrics))
  | some other => .error (.typeError
      ("'" ++ other.typeName ++ "' object does not support item assignment"))

/-- Set the analysis of a result. -/
def markAnalysis (analysis : PyDict) (result : PyDict) : Except PyError PyDict :=
  markMetrics result fun metrics => .ok (metrics.set "city2graph_analysis" (.dict analysis))

/-- Set the status of the circuit breaker in the analysis of a result. -/
def markBreakerStatus (status : PyVal) (result : PyDict) : Except PyError PyDict :=
  markMetrics result fun metrics => do
    match ← metrics.item "city2graph_analysis" with
    | .dict analysis =>
        .ok (metrics.set "city2graph_analysis"
          (.dict (PyDict.set analysis "circuit_breaker_status" status)))
    | other => .error (.typeError
        ("'" ++ other.typeName ++ "' object does not support item assignment"))

/-- A place has coordinates that City2Graph can read. -/
def hasCoordinates (place : PyDict) : Except PyError Bool :=
  if place.has "lat" && place.has "lon" then .ok true
  else if place.has "coordinates" then do
    let _latitude ← (place.get "coordinates" .none).item "latitude"
    let _longitude ← (place.get "coordinates" .none).item "longitude"
    .ok true
  else .ok false

/-- The classic result with the information of City2Graph. -/
def enrichClassic (env : EngineEnv) (decision : City2graphDecision) (result : PyDict) :
    Except PyError PyDict := do
  let enriched ← markAnalysis
    [("method_used", .str "city2graph_enhanced"),
      ("complexity_score", .float decision.complexityScore),
      ("semantic_available", .bool env.semanticResult.isSome),
      ("enhancement_applied", .bool true),
      ("factors_considered", decision.factors.keyList)] result
  let semantic : PyDict := env.semanticResult.getD []
  if semantic.isEmpty then .ok enriched
  else
    markMetrics enriched fun metrics => do
      let districts ← (semantic.get "recommendations" (.list [])).len
      .ok (metrics.set "semantic_enhancement" (.dict
        [("districts_analyzed", .int districts),
          ("semantic_strategy", semantic.get "strategy" (.str "unknown")),
          ("confidence", .str "high")]))

/-- The outcome of `_execute_city2graph_core_logic` and its runs of the classic
optimizer, which it enriches. -/
def executeCity2graphCoreLogic (env : EngineEnv) (request : TripRequest)
    (decision : City2graphDecision) : Except PyError PyDict × ℕ :=
  let prepared : Except PyError Unit := do
    env.city2graphService
    let coords ← request.places.mapM hasCoordinates
    if coords.any id then .ok ()
    else .error (.exception "No hay coordenadas válidas para análisis City2Graph")
  match prepared with
  | .error e => (.error e, 0)
  | .ok () =>
      (env.classic >>= enrichClassic env decision, 1)

/-- The body of the `try` of `_optimize_with_city2graph`. -/
def city2graphBody (env : EngineEnv) (now : ℚ) (breaker : City2graphCircuitBreaker)
    (request : TripRequest) (decision : City2graphDecision) : EngineRun :=
  if breaker.state = .opened then
    if breaker.lastFailureTime.isNone then
      { outcome := .error (.typeError "unsupported operand type(s) for -: 'float' and 'NoneType'")
        breaker := breaker
        classicRuns := 0 }
    else
      { outcome := env.classic >>= markAnalysis
          [("method_used", .str "classic_fallback_circuit_breaker"),
            ("circuit_breaker_status", breaker.getStatus),
            ("complexity_score", .float decision.complexityScore),
            ("enhancement_applied", .bool false),
            ("processing_time_s", .float env.processingTimeS)]
        breaker := breaker
        classicRuns := 1 }
  else
    let core := executeCity2graphCoreLogic env request decision
    let run := breaker.call now core.1 core.2
    { run with outcome := run.outcome >>= markBreakerStatus run.breaker.getStatus }

/-- `_optimize_with_city2graph`: whatever goes wrong, the classic optimizer takes over. -/
def optimizeWithCity2graph (env : EngineEnv) (now : ℚ) (breaker : City2graphCircuitBreaker)
    (request : TripRequest) (decision : City2graphDecision) : EngineRun :=
  let run := city2graphBody env now breaker request decision
  match run.outcome with
  | .ok _ => run
  | .error e =>
      { run with
        outcome := env.classic >>= markAnalysis
          [("method_used", .str "classic_fallback"),
            ("complexity_score", .float decision.complexityScore),
            ("enhancement_applied", .bool false),
            ("fallback_triggered", .bool true),
            ("fallback_reason", .str e.text),
            ("circuit_breaker_status", run.breaker.getStatus),
            ("processing_time_s", .float env.processingTimeS)]
        classicRuns := run.classicRuns + 1 }

/-! ## The cascade -/

/-- The OR-Tools part of the cascade: a result, or nothing when it falls through. -/
def ortoolsStage (env : EngineEnv) (request : TripRequest) : Option PyDict :=
  match env.ortoolsDecision with
  | .ok decision =>
      if decision.useOrtools && env.enableOrtools then
        (optimizeWithOrtools env request decision).toOption
      else none
  | .error _ => none

/-- The City2Graph part of the cascade, if it is entered. -/
def city2graphStage (env : EngineEnv) (now : ℚ) (breaker : City2graphCircuitBreaker)
    (request : TripRequest) : Option EngineRun :=
  match env.city2graphDecision with
  | .ok decision =>
      if decision.useCity2graph && env.enableCity2graph then
        some (optimizeWithCity2graph env now breaker request decision)
      else none
  | .error _ => none

/-- `optimize_itinerary_hybrid_v31`. -/
def optimizeItineraryHybridV31 (env : EngineEnv) (now : ℚ) (breaker : City2graphCircuitBreaker)
    (request : TripRequest) : EngineRun :=
  match ortoolsStage env request with
  | some result => { outcome := .ok result, breaker := breaker, classicRuns := 0 }
  | none =>
      match city2graphStage env now breaker request with
      | none => { outcome := env.classic, breaker := breaker, classicRuns := 1 }
      | some run =>
          match run.outcome with
          | .ok _ => run
          | .error _ =>
              { run with outcome := env.classic, classicRuns := run.classicRuns + 1 }

/-! ## The order of the engines -/

/-- The OR-Tools engine by its parts: the request is converted, optimized and
converted back. -/
def ortoolsEngine (env : EngineEnv) (request : TripRequest) : Except PyError PyDict :=
  let conversion := env.convertLegacyToOrtools request
  if conversion.success then do
    let arguments ← optimizerArguments env conversion.data
    let result ← optimizeItineraryAdvanced env.solver arguments.pois arguments.matrix true
      arguments.startTime
    let legacyConversion := convertOrtoolsToLegacyFormat env.converter result
    if (result.get "success" (.bool false)).truthy && legacyConversion.success then
      .ok legacyConversion.data
    else .error (.exception "OR-Tools optimization failed")
  else .error (.exception "Format conversion failed")

/-- The City2Graph engine: its core logic, while the circuit breaker lets it run. -/
def city2graphEngine (env : EngineEnv) (breaker : City2graphCircuitBreaker)
    (request : TripRequest) : Except PyError PyDict := do
  let decision ← env.city2graphDecision
  if breaker.state = .opened then .error (.exception "Circuit breaker is OPEN")
  else (executeCity2graphCoreLogic env request decision).1

/-- The engines in their order: whether one is selected, and its outcome. -/
def engines (env : EngineEnv) (breaker : City2graphCircuitBreaker) (request : TripRequest) :
    List (Bool × Except PyError PyDict) :=
  [(env.selectsOrtools, ortoolsEngine env request),
    (env.selectsCity2graph, city2graphEngine env breaker request),
    (true, env.classic)]

/-- The result of the first engine that is selected and succeeds. -/
def firstSuccess (stages : List (Bool × Except PyError PyDict)) : Option PyDict :=
  stages.findSome? fun stage => if stage.1 then stage.2.toOption else none

/-- A run returns the itinerary of a result. -/
def EngineRun.Returns (run : EngineRun) (result : PyDict) : Prop :=
  ∃ returned, run.outcome = .ok returned ∧ returned.lookup "days" = result.lookup "days"

/-- A run of the cascade follows the order of the engines: it returns the itinerary
of the first engine that is selected and succeeds, and when that is OR-Tools the
classic optimizer does not run. -/
structure FollowsOrder (env : EngineEnv) (now : ℚ) (breaker : City2graphCircuitBreaker)
    (request : TripRequest) : Prop where
  first : ∀ result, firstSuccess (engines env breaker request) = some result →
    (optimizeItineraryHybridV31 env now breaker request).Returns result
  direct : ∀ result, env.selectsOrtools = true → ortoolsEngine env request = .ok result →
    (optimizeItineraryHybridV31 env now breaker request).Returns result ∧
      (optimizeItineraryHybridV31 env now breaker request).classicRuns = 0

/-! ## OR-Tools never returns -/

section Env

variable (env : EngineEnv) (request : TripRequest)

/-- The optimizer takes no keyword `accommodations`. -/
theorem executeOrtoolsOptimization_raises (ortoolsRequest : PyDict) :
    ∃ e, executeOrtoolsOptimization env ortoolsRequest = .error e := by
  unfold executeOrtoolsOptimization
  split
  · cases hargs : optimizerArguments env ortoolsRequest with
    | error e => exact ⟨e, rfl⟩
    | ok arguments => exact ⟨_, rfl⟩
  · exact ⟨_, rfl⟩

theorem optimizeWithOrtoolsService_raises (ortoolsRequest : PyDict) :
    ∃ e, optimizeWithOrtoolsService env ortoolsRequest = .error e := by
  unfold optimizeWithOrtoolsService
  split
  · obtain ⟨e, he⟩ := executeOrtoolsOptimization_raises env ortoolsRequest
    exact ⟨e, by simp [he, bind, Except.bind]⟩
  · exact ⟨_, rfl⟩

theorem ortoolsBody_raises (decision : OrtoolsDecision) :
    ∃ e, ortoolsBody env request decision = .error e := by
  unfold ortoolsBody
  dsimp only
  split
  · exact ⟨_, rfl⟩
  · obtain ⟨e, he⟩ :=
      optimizeWithOrtoolsService_raises env (env.convertLegacyToOrtools request).data
    cases hplaces : PyDict.item (env.convertLegacyToOrtools request).data "places" with
    | error e' => exact ⟨e', by simp [bind, Except.bind]⟩
    | ok places =>
        cases hlen : places.len with
        | error e' => exact ⟨e', by simp [hlen, bind, Except.bind]⟩
        | ok count => exact ⟨e, by simp [hlen, he, bind, Except.bind]⟩

/-- The dates are not among the names of the function. -/
theorem ortoolsDaysCount_raises :
    ortoolsDaysCount request = .error (.nameError "end_date") := by
  simp [ortoolsDaysCount, readName, ortoolsNames, moduleNames, bind, Except.bind]

/-- The exception handler raises before it can say what failed. -/
theorem optimizeWithOrtools_raises (decision : OrtoolsDecision) :
    optimizeWithOrtools env request decision = .error (.nameError "end_date") := by
  obtain ⟨e, he⟩ := ortoolsBody_raises env request decision
  unfold optimizeWithOrtools
  simp only [he, ortoolsDaysCount_raises, bind, Except.bind]

theorem ortoolsStage_eq_none : ortoolsStage env request = none := by
  unfold ortoolsStage
  split
  · rename_i decision _
    rw [optimizeWithOrtools_raises]
    exact ite_self none
  · rfl

/-! ## Everything else comes from the classic optimizer -/

variable {env request}

theorem lookup_days_markMetrics {result marked : PyDict} {update : PyDict → Except PyError PyDict}
    (hmarked : markMetrics result update = .ok marked) :
    marked.lookup "days" = result.lookup "days" := by
  unfold markMetrics at hmarked
  split at hmarked
  · cases hmarked
    rfl
  · obtain ⟨updated, -, hset⟩ := exists_of_bind_eq_ok hmarked
    cases hset
    exact PyDict.lookup_set_of_ne (by decide)
  · cases hmarked

theorem lookup_days_enrichClassic {decision : City2graphDecision} {classic result : PyDict}
    (henriched : enrichClassic env decision classic = .ok result) :
    result.lookup "days" = classic.lookup "days" := by
  obtain ⟨enriched, hanalysis, hsemantic⟩ := exists_of_bind_eq_ok henriched
  refine Eq.trans ?_ (lookup_days_markMetrics hanalysis)
  dsimp only at hsemantic
  split at hsemantic
  · cases hsemantic
    rfl
  · exact lookup_days_markMetrics hsemantic

/-- The result has the itinerary of the classic optimizer. -/
def FromClassic (env : EngineEnv) (result : PyDict) : Prop :=
  ∃ classic, env.classic = .ok classic ∧ result.lookup "days" = classic.lookup "days"

theorem fromClassic_of_marked {analysis result : PyDict}
    (hresult : env.classic >>= markAnalysis analysis = .ok result) : FromClassic env result := by
  obtain ⟨classic, hclassic, hmarked⟩ := exists_of_bind_eq_ok hresult
  exact ⟨classic, hclassic, lookup_days_markMetrics hmarked⟩

theorem executeCity2graphCoreLogic_ok {decision : City2graphDecision} {result : PyDict}
    (hcore : (executeCity2graphCoreLogic env request decision).1 = .ok result) :
    FromClassic env result ∧ (executeCity2graphCoreLogic env request decision).2 = 1 := by
  unfold executeCity2graphCoreLogic at hcore ⊢
  dsimp only at hcore ⊢
  split at hcore
  · cases hcore
  · obtain ⟨classic, hclassic, henriched⟩ := exists_of_bind_eq_ok hcore
    exact ⟨⟨classic, hclassic, lookup_days_enrichClassic henriched⟩, rfl⟩

theorem call_ok {breaker : City2graphCircuitBreaker} {now : ℚ}
    {outcome : Except PyError PyDict} {classicRuns : ℕ} {result : PyDict}
    (hcall : (breaker.call now outcome classicRuns).outcome = .ok result) :
    outcome = .ok result ∧ (breaker.call now outcome classicRuns).classicRuns = classicRuns := by
  unfold City2graphCircuitBreaker.call at hcall ⊢
  dsimp only at hcall ⊢
  split at hcall
  · cases hcall
  · rename_i hadmitted
    rw [if_neg hadmitted]
    cases outcome with
    | ok result' => exact ⟨hcall, rfl⟩
    | error e => cases hcall

/-- A City2Graph result has the classic itinerary, and the classic optimizer ran for it. -/
theorem city2graphBody_ok {now : ℚ} {breaker : City2graphCircuitBreaker}
    {decision : City2graphDecision} {result : PyDict}
    (hbody : (city2graphBody env now breaker request decision).outcome = .ok result) :
    FromClassic env result ∧
      (city2graphBody env now breaker request decision).classicRuns = 1 := by
  unfold city2graphBody at hbody ⊢
  split at hbody
  · rename_i hopened
    split at hbody
    · cases hbody
    · rename_i hfailed
      rw [if_pos hopened, if_neg hfailed]
      exact ⟨fromClassic_of_marked hbody, rfl⟩
  · rename_i hadmitted
    rw [if_neg hadmitted]
    obtain ⟨returned, hcall, hmarked⟩ := exists_of_bind_eq_ok hbody
    obtain ⟨hcore, hruns⟩ := call_ok hcall
    obtain ⟨⟨classic, hclassic, hdays⟩, hone⟩ := executeCity2graphCoreLogic_ok hcore
    exact ⟨⟨classic, hclassic, (lookup_days_markMetrics hmarked).trans hdays⟩, hruns.trans hone⟩

theorem optimizeWithCity2graph_ok {now : ℚ} {breaker : City2graphCircuitBreaker}
    {decision : City2graphDecision} {result : PyDict}
    (hrun : (optimizeWithCity2graph env now breaker request decision).outcome = .ok result) :
    FromClassic env result := by
  unfold optimizeWithCity2graph at hrun
  dsimp only at hrun
  split at hrun
  · exact (city2graphBody_ok hrun).1
  · exact fromClassic_of_marked hrun

theorem classicRuns_optimizeWithCity2graph_pos (now : ℚ) (breaker : City2graphCircuitBreaker)
    (decision : City2graphDecision) :
    0 < (optimizeWithCity2graph env now breaker request decision).classicRuns := by
  unfold optimizeWithCity2graph
  dsimp only
  split
  · rename_i result hbody
    rw [(city2graphBody_ok hbody).2]
    exact one_pos
  · exact Nat.succ_pos _

/-! ## What the cascade returns -/

section Cascade

variable (now : ℚ) (breaker : City2graphCircuitBreaker)

theorem city2graphStage_eq_some {run : EngineRun}
    (hstage : city2graphStage env now breaker request = some run) :
    ∃ decision, run = optimizeWithCity2graph env now breaker request decision := by
  unfold city2graphStage at hstage
  split at hstage
  · rename_i decision _
    split at hstage
    · cases hstage
      exact ⟨decision, rfl⟩
    · cases hstage
  · cases hstage

/-- The classic optimizer runs in every run of the cascade. -/
theorem classicRuns_pos :
    0 < (optimizeItineraryHybridV31 env now breaker request).classicRuns := by
  unfold optimizeItineraryHybridV31
  rw [ortoolsStage_eq_none]
  dsimp only
  cases hstage : city2graphStage env now breaker request with
  | none => exact one_pos
  | some run =>
      obtain ⟨decision, rfl⟩ := city2graphStage_eq_some now breaker hstage
      dsimp only
      split
      · exact classicRuns_optimizeWithCity2graph_pos now breaker decision
      · exact Nat.succ_pos _

/-- When the classic optimizer succeeds, the cascade returns its itinerary. -/
theorem returns_classic {classic : PyDict} (hclassic : env.classic = .ok classic) :
    (optimizeItineraryHybridV31 env now breaker request).Returns classic := by
  unfold optimizeItineraryHybridV31
  rw [ortoolsStage_eq_none]
  dsimp only
  cases hstage : city2graphStage env now breaker request with
  | none => exact ⟨classic, hclassic, rfl⟩
  | some run =>
      obtain ⟨decision, rfl⟩ := city2graphStage_eq_some now breaker hstage
      dsimp only
      split
      · rename_i result hresult
        obtain ⟨classic', hclassic', hdays⟩ := optimizeWithCity2graph_ok hresult
        cases hclassic.symm.trans hclassic'
        exact ⟨result, hresult, hdays⟩
      · exact ⟨classic, hclassic, rfl⟩

/-- Whatever City2Graph or the classic optimizer yields is the classic itinerary. -/
theorem fromClassic_of_firstSuccess {result : PyDict}
    (hortools : ¬ (env.selectsOrtools = true ∧ ∃ legacy, ortoolsEngine env request = .ok legacy))
    (hfirst : firstSuccess (engines env breaker request) = some result) :
    FromClassic env result := by
  have hskipped : (if env.selectsOrtools then (ortoolsEngine env request).toOption else none) =
      none := by
    split
    · rename_i hselected
      cases hengine : ortoolsEngine env request with
      | error e => rfl
      | ok legacy => exact absurd ⟨hselected, legacy, hengine⟩ hortools
    · rfl
  simp only [firstSuccess, engines, List.findSome?_cons, hskipped] at hfirst
  split at hfirst
  · rename_i found hfound
    cases hfirst
    split at hfound
    · cases hengine : city2graphEngine env breaker request with
      | error e => simp [hengine, Except.toOption] at hfound
      | ok core =>
          rw [hengine] at hfound
          cases hfound
          obtain ⟨decision, -, hcore⟩ := exists_of_bind_eq_ok hengine
          split at hcore
          · cases hcore
          · exact (executeCity2graphCoreLogic_ok hcore).1
    · cases hfound
  · cases hclassic : env.classic with
    | error e => simp [hclassic, Except.toOption] at hfirst
    | ok classic =>
        simp only [hclassic, Except.toOption, if_true, Option.some.injEq] at hfirst
        exact ⟨classic, hclassic, by rw [hfirst]⟩

end Cascade

end Env

/-- A run of the cascade follows the order of the engines exactly when it is not the
turn of OR-Tools: unless OR-Tools is enabled and selected, both conversions go
through and the optimizer succeeds. -/
theorem optimizeItineraryHybridV31_followsOrder_iff (env : EngineEnv) (now : ℚ)
    (breaker : City2graphCircuitBreaker) (request : TripRequest) :
    FollowsOrder env now breaker request ↔
      ¬ (env.selectsOrtools = true ∧ ∃ legacy, ortoolsEngine env request = .ok legacy) := by
  constructor
  · rintro horder ⟨hselected, legacy, hlegacy⟩
    obtain ⟨-, hnever⟩ := horder.direct legacy hselected hlegacy
    exact absurd hnever (classicRuns_pos now breaker).ne'
  · intro hturn
    refine ⟨fun result hfirst => ?_, fun legacy hselected hlegacy => ?_⟩
    · obtain ⟨classic, hclassic, hdays⟩ := fromClassic_of_firstSuccess breaker hturn hfirst
      have hreturns : (optimizeItineraryHybridV31 env now breaker request).Returns classic :=
        returns_classic now breaker hclassic
      obtain ⟨returned, hreturned, hsame⟩ := hreturns
      exact ⟨returned, hreturned, hsame.trans hdays.symm⟩
    · exact absurd ⟨hselected, legacy, hlegacy⟩ hturn

/-- OR-Tools is chosen, every part of it works, and the classic optimizer
has an empty itinerary. -/
def healthyOrtools : EngineEnv where
  enableOrtools := true
  enableCity2graph := false
  ortoolsDecision := .ok
    { useOrtools := true
      confidenceScore := 1
      complexityScore := 5
      estimatedExecutionTimeMs := 2000
      expectedSuccessRate := 1 }
  city2graphDecision := .ok { useCity2graph := false, complexityScore := 0 }
  optimizerInitializes := true
  ortoolsHealthy := true
  convertLegacyToOrtools := fun request =>
    { success := true
      data := [("places", .list (request.places.map .dict)), ("accommodations", .list [])]
      warnings := []
      conversionMetadata := [] }
  distanceMatrix := fun _ => .ok threeZeros
  solver := inOrderSolver
  converter := { timestamp := "", textOf := fun _ => "" }
  executionTimeMs := 2000
  processingTimeS := 2
  city2graphService := .ok ()
  semanticResult := none
  classic := .ok [("days", .list []), ("optimization_metrics", .dict [])]

/-- Three places for one day: it is the turn of OR-Tools, and the classic optimizer runs. -/
theorem optimizeItineraryHybridV31_skips_ortools :
    ¬ FollowsOrder healthyOrtools 0 {} { places := threePois, startDate := 1, endDate := 1 } := by
  intro horder
  have hturn : (ortoolsEngine healthyOrtools
      { places := threePois, startDate := 1, endDate := 1 }).toOption.isSome = true := by
    decide +kernel
  cases hengine : ortoolsEngine healthyOrtools
      { places := threePois, startDate := 1, endDate := 1 } with
  | error e => simp [hengine, Except.toOption] at hturn
  | ok legacy =>
      obtain ⟨-, hnever⟩ := horder.direct legacy rfl hengine
      exact absurd hnever (classicRuns_pos 0 {}).ne'

end Goveling.Optimizer
