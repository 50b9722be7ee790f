/-
# The comparison of the transport modes

The endpoint asks the router for a route in every mode and compares those that succeeded. The
fastest and the shortest mode are minima over the successful ones. The recommendation looks at
walking and cycling first, and falls back on the car without looking whether there is a route
for it.
-/

import Goveling.Python.Text
import Goveling.Python.Value
import Goveling.Routing.ChileRouter

namespace Goveling.Routing

open Goveling.Optimizer Goveling.Python

universe u

/-- The results of all modes. A mode has failed without a route, or with one that says so. -/
abbrev RouteResults := RouterMode → Option ChileRoute

/-- A mode has a route that succeeded. -/
def Succeeds (routes : RouteResults) (mode : RouterMode) (route : ChileRoute) : Prop :=
  routes mode = some route ∧ route.success = true

namespace ChileMultiModalRouter

variable {Graph : Type u} (squareRoot : ℚ → ℚ)

/-- `calculate_multimodal_routes`, with the files as they are then and the milliseconds that
each route takes. -/
def calculateMultimodalRoutes (router : ChileMultiModalRouter Graph) (start finish : Coordinates)
    (disk : RouterMode → CacheFile Graph) (elapsedMs : RouterMode → ℚ) :
    RouteResults × ChileMultiModalRouter Graph :=
  RouterMode.all.foldl
    (fun (results, router) mode =>
      let (route, router) := router.getRoute squareRoot
        { start, finish, mode := mode.text, disk, elapsedMs := elapsedMs mode }
      (Function.update results mode route, router))
    (fun _ => none, router)

/-- The router answers every known mode with a route that succeeded. -/
theorem exists_getRoute_success (router : ChileMultiModalRouter Graph)
    {request : ChileRequest Graph} {mode : RouterMode} (hmode : request.mode = mode.text) :
    ∃ route, (router.getRoute squareRoot request).1 = some route ∧ route.success = true := by
  have hknown : RouterMode.ofText? request.mode = some mode := by
    rw [hmode]
    cases mode <;> decide
  unfold getRoute
  rw [hknown]
  dsimp only
  split
  · exact ⟨_, rfl, rfl⟩
  · exact ⟨_, rfl, rfl⟩

/-- As the router is, no mode fails. -/
theorem exists_succeeds_calculateMultimodalRoutes (router : ChileMultiModalRouter Graph)
    (start finish : Coordinates) (disk : RouterMode → CacheFile Graph)
    (elapsedMs : RouterMode → ℚ) (mode : RouterMode) :
    ∃ route, Succeeds
      (router.calculateMultimodalRoutes squareRoot start finish disk elapsedMs).1 mode route := by
  have hturn : ∀ before : ChileMultiModalRouter Graph, ∃ route,
      (before.getRoute squareRoot
        { start, finish, mode := mode.text, disk, elapsedMs := elapsedMs mode }).1 = some route ∧
      route.success = true :=
    fun before => exists_getRoute_success squareRoot before rfl
  cases mode with
  | drive => exact hturn _
  | walk => exact hturn _
  | bike => exact hturn _

end ChileMultiModalRouter

end Goveling.Routing

namespace Goveling.Api.RouteCompare

open Goveling.Optimizer Goveling.Python Goveling.Routing

universe u

/-! ## The endpoint -/

/-- `analysis` in the response. -/
structure RouteAnalysis where
  fastestMode : RouterMode
  fastestTimeMinutes : ℚ
  shortestMode : RouterMode
  shortestDistanceKm : ℚ
  recommendedMode : RouterMode
  recommendationReason : String
  modesAvailable : List RouterMode
  modesFailed : List RouterMode

/-- The response. -/
structure RouteComparison where
  routes : List (RouterMode × ChileRoute)
  analysis : RouteAnalysis
  processingTimeMs : ℚ
  routesCalculated : ℕ
  totalModesAttempted : ℕ
  timestamp : String

/-- What the endpoint finds outside: the router, unless it cannot be built, and the clocks. -/
structure CompareEnv where
  router : Option (Coordinates → Coordinates → RouteResults)
  processingSeconds : ℚ
  now : String

/-- `required_fields`. -/
def requiredFields : List String := ["start_lat", "start_lon", "end_lat", "end_lon"]

/-- `float(value)`, for what has a finite value. -/
def floatOfValue : PyVal → Except PyError ℚ
  | .str text =>
      match finiteFloat? text with
      | some number => .ok number
      | none => .error (.valueError ("could not convert string to float: '" ++ text ++ "'"))
  | value =>
      match value.number? with
      | some number => .ok number
      | none => .error (.typeError
          ("float() argument must be a string or a real number, not '" ++ value.typeName ++ "'"))

/-- The ends of the route that is asked for. -/
def coordinatesOf (request : PyDict) : Except PyError (Coordinates × Coordinates) := do
  let startLat ← request.item "start_lat" >>= floatOfValue
  let startLon ← request.item "start_lon" >>= floatOfValue
  let endLat ← request.item "end_lat" >>= floatOfValue
  let endLon ← request.item "end_lon" >>= floatOfValue
  return ((startLat, startLon), (endLat, endLon))

/-- `successful_routes`. -/
def successfulRoutes (routes : RouteResults) : List (RouterMode × ChileRoute) :=
  RouterMode.all.filterMap fun mode =>
    ((routes mode).filter ChileRoute.success).map fun route => (mode, route)

/-- A mode is in the dictionary, with a route of at most so many minutes. -/
def takesAtMost (successful : List (RouterMode × ChileRoute)) (mode : RouterMode)
    (minutes : ℚ) : Bool :=
  (successful.lookup mode).any fun route => route.timeMinutes ≤ minutes

/-- `recommended_mode` and `recommendation_reason`. -/
def recommendation (successful : List (RouterMode × ChileRoute)) : RouterMode × String :=
  if takesAtMost successful .walk 15 then
    (.walk, "Distancia corta - caminar es eficiente y saludable")
  else if takesAtMost successful .bike 30 then
    (.bike, "Distancia media - bicicleta es rápida y ecológica")
  else
    -- nothing asks for a route by car here
    (.drive, "Distancia larga - vehículo es la opción más práctica")

/-- The comparison of the routes that succeeded, for the fastest and the shortest of them. -/
def analysisWith (routes : RouteResults) (fastest shortest : RouterMode × ChileRoute) :
    RouteAnalysis :=
  let successful := successfulRoutes routes
  { fastestMode := fastest.1
    fastestTimeMinutes := fastest.2.timeMinutes
    shortestMode := shortest.1
    shortestDistanceKm := shortest.2.distanceKm
    recommendedMode := (recommendation successful).1
    recommendationReason := (recommendation successful).2
    modesAvailable := successful.map Prod.fst
    modesFailed := RouterMode.all.filter fun mode =>
      ((routes mode).filter ChileRoute.success).isNone }

/-- The comparison of the routes that succeeded. -/
def analysisOf (routes : RouteResults) : Except PyError RouteAnalysis := do
  let fastest ← minBy (fun item => item.2.timeMinutes) (successfulRoutes routes)
  let shortest ← minBy (fun item => item.2.distanceKm) (successfulRoutes routes)
  return analysisWith routes fastest shortest

/-- What is raised while routes are compared. -/
def comparisonError (e : PyError) : HTTPException :=
  ⟨500, "Error comparando rutas multi-modales: " ++ e.text⟩

/-- `route_compare`. -/
def routeCompare (env : CompareEnv) (request : PyDict) : Except HTTPException RouteComparison := do
  if let some field := requiredFields.find? fun field => !request.has field then
    throw ⟨400, "Campo requerido faltante: " ++ field⟩
  let some router := env.router
    | throw ⟨503, "Servicio de routing multi-modal no disponible"⟩
  let (start, finish) ← (coordinatesOf request).mapError comparisonError
  let routes := router start finish
  if (successfulRoutes routes).isEmpty then
    throw ⟨404, "No se pudo calcular ninguna ruta"⟩
  let analysis ← (analysisOf routes).mapError comparisonError
  return {
    routes := successfulRoutes routes
    analysis
    processingTimeMs := roundDigits 2 (env.processingSeconds * 1000)
    routesCalculated := (successfulRoutes routes).length
    totalModesAttempted := RouterMode.all.length
    timestamp := env.now }

/-- The modes that a comparison names have routes that succeeded, and the fastest and the
shortest one are minimal among them. -/
structure NamesSuccessful (routes : RouteResults) (analysis : RouteAnalysis) : Prop where
  fastest : ∃ route, Succeeds routes analysis.fastestMode route ∧
    ∀ mode other, Succeeds routes mode other → route.timeMinutes ≤ other.timeMinutes
  shortest : ∃ route, Succeeds routes analysis.shortestMode route ∧
    ∀ mode other, Succeeds routes mode other → route.distanceKm ≤ other.distanceKm
  recommended : ∃ route, Succeeds routes analysis.recommendedMode route

/-! ## The routes that succeeded -/

section Successful

variable {routes : RouteResults}

theorem filter_success_eq_some_iff {mode : RouterMode} {route : ChileRoute} :
    (routes mode).filter ChileRoute.success = some route ↔ Succeeds routes mode route :=
  Option.filter_eq_some_iff

theorem mem_successfulRoutes_iff {mode : RouterMode} {route : ChileRoute} :
    (mode, route) ∈ successfulRoutes routes ↔ Succeeds routes mode route := by
  have hmode : mode ∈ RouterMode.all := by cases mode <;> decide
  rw [← filter_success_eq_some_iff, successfulRoutes, List.mem_filterMap]
  constructor
  · rintro ⟨other, -, hother⟩
    obtain ⟨found, hfound, hpair⟩ := Option.map_eq_some_iff.mp hother
    cases hpair
    exact hfound
  · intro hroute
    exact ⟨mode, hmode, by rw [hroute, Option.map_some]⟩

/-- The dictionary has the route of a mode that succeeded, and no other. -/
theorem lookup_successfulRoutes (mode : RouterMode) :
    (successfulRoutes routes).lookup mode = (routes mode).filter ChileRoute.success := by
  have hlookup : ∀ modes : List RouterMode, (modes.filterMap fun mode =>
      ((routes mode).filter ChileRoute.success).map fun route => (mode, route)).lookup mode =
      if mode ∈ modes then (routes mode).filter ChileRoute.success else none := by
    intro modes
    induction modes with
    | nil => rfl
    | cons first rest ih =>
        rw [List.filterMap_cons]
        by_cases hfirst : mode = first
        · subst hfirst
          rw [if_pos List.mem_cons_self]
          cases hroute : (routes mode).filter ChileRoute.success with
          | none => simp [ih, hroute]
          | some route => simp
        · have hmem : mode ∈ first :: rest ↔ mode ∈ rest := by simp [hfirst]
          cases (routes first).filter ChileRoute.success with
          | none => simp only [Option.map_none, ih, hmem]
          | some route =>
              simp [List.lookup_cons, beq_eq_false_iff_ne.mpr hfirst, ih, hmem]
  rw [successfulRoutes, hlookup, if_pos (by cases mode <;> decide)]

theorem takesAtMost_iff {mode : RouterMode} {minutes : ℚ} :
    takesAtMost (successfulRoutes routes) mode minutes = true ↔
      ∃ route, Succeeds routes mode route ∧ route.timeMinutes ≤ minutes := by
  rw [takesAtMost, lookup_successfulRoutes, Option.any_eq_true]
  simp only [filter_success_eq_some_iff, decide_eq_true_eq]

/-- The least of the routes that succeeded, by some key, is one of them. -/
theorem exists_minBy_successfulRoutes (key : ChileRoute → ℚ)
    (hsuccess : ∃ mode route, Succeeds routes mode route) :
    ∃ least, minBy (fun item => key item.2) (successfulRoutes routes) = .ok least ∧
      Succeeds routes least.1 least.2 ∧
      ∀ mode other, Succeeds routes mode other → key least.2 ≤ key other := by
  obtain ⟨mode, route, hroute⟩ := hsuccess
  have hmem : (mode, route) ∈ successfulRoutes routes := mem_successfulRoutes_iff.mpr hroute
  cases hleast : (successfulRoutes routes).argmin fun item => key item.2 with
  | none => exact absurd (List.argmin_eq_none.mp hleast) (List.ne_nil_of_mem hmem)
  | some least =>
      refine ⟨least, by rw [minBy, hleast],
        mem_successfulRoutes_iff.mp (List.argmin_mem hleast), fun mode other hother => ?_⟩
      have hle := List.le_of_mem_argmin (mem_successfulRoutes_iff.mpr hother) hleast
      exact hle

/-- The recommended mode succeeded exactly when the car did, or a quicker rule took another. -/
theorem exists_succeeds_recommendation_iff :
    (∃ route, Succeeds routes (recommendation (successfulRoutes routes)).1 route) ↔
      (∃ route, Succeeds routes .drive route) ∨
        (∃ route, Succeeds routes .walk route ∧ route.timeMinutes ≤ 15) ∨
        ∃ route, Succeeds routes .bike route ∧ route.timeMinutes ≤ 30 := by
  rw [← takesAtMost_iff, ← takesAtMost_iff]
  unfold recommendation
  split_ifs with hwalk hbike
  · obtain ⟨route, hroute, -⟩ := takesAtMost_iff.mp hwalk
    exact iff_of_true ⟨route, hroute⟩ (.inr (.inl hwalk))
  · obtain ⟨route, hroute, -⟩ := takesAtMost_iff.mp hbike
    exact iff_of_true ⟨route, hroute⟩ (.inr (.inr hbike))
  · simp [hwalk, hbike]

/-- Of a comparison only the recommended mode can be one that failed. -/
theorem exists_analysisOf_namesSuccessful_iff
    (hsuccess : ∃ mode route, Succeeds routes mode route) :
    (∃ analysis, analysisOf routes = .ok analysis ∧ NamesSuccessful routes analysis) ↔
      ∃ route, Succeeds routes (recommendation (successfulRoutes routes)).1 route := by
  obtain ⟨fastest, hfastest, hfast⟩ :=
    exists_minBy_successfulRoutes ChileRoute.timeMinutes hsuccess
  obtain ⟨shortest, hshortest, hshort⟩ :=
    exists_minBy_successfulRoutes ChileRoute.distanceKm hsuccess
  have hanalysis : analysisOf routes = .ok (analysisWith routes fastest shortest) := by
    rw [analysisOf, hfastest, hshortest]
    rfl
  rw [hanalysis]
  constructor
  · rintro ⟨analysis, hok, hnames⟩
    cases hok
    exact hnames.recommended
  · intro hrecommended
    exact ⟨_, rfl, ⟨fastest.2, hfast⟩, ⟨shortest.2, hshort⟩, hrecommended⟩

end Successful

/-! ## The answer -/

section Answer

variable {env : CompareEnv} {request : PyDict} {router : Coordinates → Coordinates → RouteResults}
  {start finish : Coordinates}

/-- A request whose coordinates can be read has all required fields. -/
theorem find?_requiredFields_eq_none (hrequest : coordinatesOf request = .ok (start, finish)) :
    (requiredFields.find? fun field => !request.has field) = none := by
  have hhas : ∀ {field : String} {number : ℚ},
      request.item field >>= floatOfValue = .ok number → request.has field = true := by
    intro field number hitem
    obtain ⟨value, hvalue, -⟩ := exists_of_bind_eq_ok hitem
    unfold PyDict.item at hvalue
    unfold PyDict.has
    cases hlookup : List.lookup field request with
    | none =>
        rw [hlookup] at hvalue
        cases hvalue
    | some found => rfl
  obtain ⟨startLat, hstartLat, hrequest⟩ := exists_of_bind_eq_ok hrequest
  obtain ⟨startLon, hstartLon, hrequest⟩ := exists_of_bind_eq_ok hrequest
  obtain ⟨endLat, hendLat, hrequest⟩ := exists_of_bind_eq_ok hrequest
  obtain ⟨endLon, hendLon, -⟩ := exists_of_bind_eq_ok hrequest
  rw [List.find?_eq_none]
  simp [requiredFields, hhas hstartLat, hhas hstartLon, hhas hendLat, hhas hendLon]

/-- The endpoint answers with the comparison once a mode has succeeded. -/
theorem exists_routeCompare_eq_ok_iff (hrouter : env.router = some router)
    (hrequest : coordinatesOf request = .ok (start, finish))
    (hsuccess : ∃ mode route, Succeeds (router start finish) mode route)
    {property : RouteAnalysis → Prop} :
    (∃ comparison, routeCompare env request = .ok comparison ∧ property comparison.analysis) ↔
      ∃ analysis, analysisOf (router start finish) = .ok analysis ∧ property analysis := by
  have hsome : (successfulRoutes (router start finish)).isEmpty = false := by
    obtain ⟨mode, route, hroute⟩ := hsuccess
    exact List.isEmpty_eq_false_iff_exists_mem.mpr ⟨_, mem_successfulRoutes_iff.mpr hroute⟩
  have hanswer : routeCompare env request =
      ((analysisOf (router start finish)).mapError comparisonError).map fun analysis =>
        { routes := successfulRoutes (router start finish)
          analysis
          processingTimeMs := roundDigits 2 (env.processingSeconds * 1000)
          routesCalculated := (successfulRoutes (router start finish)).length
          totalModesAttempted := RouterMode.all.length
          timestamp := env.now } := by
    unfold routeCompare
    rw [find?_requiredFields_eq_none hrequest, hrouter, hrequest]
    dsimp only [Except.mapError, bind, Except.bind, pure, Except.pure]
    rw [hsome]
    rfl
  rw [hanswer]
  cases analysisOf (router start finish) with
  | error e => simp [Except.mapError, Except.map]
  | ok analysis => simp [Except.mapError, Except.map]

/-- The modes in the answer succeeded exactly when the car did, or walking takes at most a
quarter of an hour, or cycling at most half an hour. -/
theorem routeCompare_namesSuccessful_iff (hrouter : env.router = some router)
    (hrequest : coordinatesOf request = .ok (start, finish))
    (hsuccess : ∃ mode route, Succeeds (router start finish) mode route) :
    (∃ comparison, routeCompare env request = .ok comparison ∧
        NamesSuccessful (router start finish) comparison.analysis) ↔
      (∃ route, Succeeds (router start finish) .drive route) ∨
        (∃ route, Succeeds (router start finish) .walk route ∧ route.timeMinutes ≤ 15) ∨
        ∃ route, Succeeds (router start finish) .bike route ∧ route.timeMinutes ≤ 30 := by
  rw [exists_routeCompare_eq_ok_iff hrouter hrequest hsuccess,
    exists_analysisOf_namesSuccessful_iff hsuccess, exists_succeeds_recommendation_iff]

end Answer

/-- A request from one corner of a square to the other. -/
def cornerRequest : PyDict :=
  [("start_lat", .float (-33)), ("start_lon", .float (-71)), ("end_lat", .str "-33.1"),
    ("end_lon", .float (-70))]

/-- A route of so many minutes. -/
def routeOf (mode : RouterMode) (timeMinutes : ℚ) : ChileRoute where
  success := true
  mode := mode.text
  distanceKm := timeMinutes / 10
  timeMinutes := timeMinutes
  path := []
  geometry := []
  source := "simple_calculation"
  cacheUsed := false
  processingTimeMs := none

/-- The car and the bike find a route, and walking does not. -/
def withoutWalk : RouteResults
  | .drive => some (routeOf .drive 12)
  | .walk => none
  | .bike => some (routeOf .bike 40)

/-- Only walking finds a route, of a hundred minutes. -/
def onlyWalk : RouteResults
  | .drive => none
  | .walk => some (routeOf .walk 100)
  | .bike => none

/-- The endpoint with a router that always has the same results. -/
def constantEnv (routes : RouteResults) : CompareEnv where
  router := some fun _ _ => routes
  processingSeconds := 0
  now := "2025-11-01T13:48:55"

theorem routeCompare_namesSuccessful_withoutWalk :
    ∃ comparison, routeCompare (constantEnv withoutWalk) cornerRequest = .ok comparison ∧
      NamesSuccessful withoutWalk comparison.analysis :=
  (@routeCompare_namesSuccessful_iff (constantEnv withoutWalk) cornerRequest
    (fun _ _ => withoutWalk) (-33, -71) (-331 / 10, -70) rfl (by decide +kernel)
    ⟨.drive, routeOf .drive 12, rfl, rfl⟩).mpr (.inl ⟨routeOf .drive 12, rfl, rfl⟩)

/-- Without a route by car the car is recommended for a long walk. -/
theorem not_routeCompare_namesSuccessful_onlyWalk :
    ¬ ∃ comparison, routeCompare (constantEnv onlyWalk) cornerRequest = .ok comparison ∧
      NamesSuccessful onlyWalk comparison.analysis := by
  rintro ⟨comparison, hanswer, hnames⟩
  have hdrive : (routeCompare (constantEnv onlyWalk) cornerRequest).map
      (fun comparison => comparison.analysis.recommendedMode) = .ok .drive := by
    decide +kernel
  rw [hanswer] at hdrive
  have hmode : comparison.analysis.recommendedMode = .drive := Except.ok.inj hdrive
  obtain ⟨route, hroute, -⟩ := hnames.recommended
  rw [hmode] at hroute
  cases hroute

/-- With the router as it is, no mode fails and the modes in the answer have succeeded. -/
theorem exists_namesSuccessful_chileRouter {Graph : Type u} (squareRoot : ℚ → ℚ)
    (chileRouter : ChileMultiModalRouter Graph) (disk : RouterMode → CacheFile Graph)
    (elapsedMs : RouterMode → ℚ) {env : CompareEnv} {request : PyDict}
    {start finish : Coordinates}
    (hrouter : env.router = some fun origin target =>
      (chileRouter.calculateMultimodalRoutes squareRoot origin target disk elapsedMs).1)
    (hrequest : coordinatesOf request = .ok (start, finish)) :
    ∃ comparison, routeCompare env request = .ok comparison ∧ NamesSuccessful
      (chileRouter.calculateMultimodalRoutes squareRoot start finish disk elapsedMs).1
      comparison.analysis := by
  have hdrive := chileRouter.exists_succeeds_calculateMultimodalRoutes squareRoot start finish
    disk elapsedMs .drive
  rw [exists_routeCompare_eq_ok_iff hrouter hrequest ⟨_, hdrive⟩,
    exists_analysisOf_namesSuccessful_iff ⟨_, hdrive⟩, exists_succeeds_recommendation_iff]
  exact .inl hdrive

end Goveling.Api.RouteCompare
