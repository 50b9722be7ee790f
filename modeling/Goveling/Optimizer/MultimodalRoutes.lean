/-
# The multimodal router behind the distance cache

The cached routing service asks the router for Chile before it falls back to
the robust service. The router is a plain method that returns a dictionary, and
the service awaits what it returns: that raises, the handler around the call
takes it for a failure of the router, and the robust service is called for every
route that is not cached. The two also disagree about the key of the duration:
of an awaited route the service would find the distance, no duration, and so
nothing to cache.
-/

import Goveling.Optimizer.RoutingCache
import Goveling.Routing.ChileRouter

namespace Goveling.Optimizer

open Goveling.Math Goveling.Python Goveling.Routing

universe u

variable {Graph : Type u}

/-! ## What the router returns -/

/-- The dictionary of a route. -/
def chileRouteDict (route : ChileRoute) : PyDict :=
  [("success", .bool route.success),
    ("mode", .str route.mode),
    ("distance_km", .float route.distanceKm),
    ("time_minutes", .float route.timeMinutes),
    ("path", .list (route.path.map fun node =>
      .list [.int node.1, .list [.float node.2.1, .float node.2.2]])),
    ("geometry", .dict [("type", .str "LineString"),
      ("coordinates", .list (route.geometry.map fun point =>
        .list [.float point.1, .float point.2]))]),
    ("source", .str route.source),
    ("cache_used", .bool route.cacheUsed)] ++
    (route.processingTimeMs.map fun elapsed => ("processing_time_ms", .float elapsed)).toList

/-- The value that `get_route` returns. -/
def routeValue : Option ChileRoute → PyVal
  | some route => .dict (chileRouteDict route)
  | none => .none

/-- `await value` for data: only awaitable objects can be awaited. -/
def awaitData (value : PyVal) : Except PyError PyVal :=
  .error (.typeError ("object " ++ value.typeName ++ " can't be used in 'await' expression"))

/-! ## The service with a router -/

/-- The request the service makes of the router. -/
def routerRequest (call : RouteCall) (disk : RouterMode → Routing.CacheFile Graph)
    (elapsedMs : ℚ) : ChileRequest Graph where
  start := call.origin
  finish := call.destination
  mode := mappedMode call.mode
  disk := disk
  elapsedMs := elapsedMs

/-- What `await multimodal_router.get_route(...)` gives in a call. -/
def awaitedRoute (squareRoot : ℚ → ℚ) (router : ChileMultiModalRouter Graph)
    (request : ChileRequest Graph) : Except PyError PyVal :=
  awaitData (routeValue (router.getRoute squareRoot request).1)

/-- `routing_service_cached` of an optimizer with a router. -/
def routingServiceWithRouter (globe : Globe) (squareRoot : ℚ → ℚ)
    (optimizer : HybridOptimizerV31) (router : ChileMultiModalRouter Graph) (call : RouteCall)
    (disk : RouterMode → Routing.CacheFile Graph) (elapsedMs : ℚ) :
    Except PyError PyVal × HybridOptimizerV31 :=
  routingServiceCached globe optimizer call
    (some (awaitedRoute squareRoot router (routerRequest call disk elapsedMs)))

/-- A call gets as far as `routing_service_robust`: the route is not cached, and the branch of
the router has not returned. -/
def reachesRobust (optimizer : HybridOptimizerV31) (call : RouteCall)
    (multimodal : Option (Except PyError PyVal)) : Prop :=
  optimizer.distanceCache.get? call.key = none ∧
    ∀ reply ∈ multimodal,
      (multimodalRoute optimizer.distanceCache call.key call.mode reply).1 = none

/-- The route of the router is returned with its own distance and duration, and cached, and
the robust service is not called. -/
structure ServesRoute (optimizer : HybridOptimizerV31) (call : RouteCall)
    (multimodal : Option (Except PyError PyVal))
    (outcome : Except PyError PyVal × HybridOptimizerV31) (route : ChileRoute) : Prop where
  returned : ∃ result, outcome.1 = .ok (.dict result) ∧
    PyDict.get result "distance_km" .none = .float route.distanceKm ∧
    PyDict.get result "duration_minutes" .none = .float route.timeMinutes ∧
    outcome.2.distanceCache.get? call.key = some (.dict result)
  withoutRobust : ¬ reachesRobust optimizer call multimodal

/-- A route that the router finds for a call is the one that the call serves. -/
def ServesRouterRoute (globe : Globe) (squareRoot : ℚ → ℚ) (optimizer : HybridOptimizerV31)
    (router : ChileMultiModalRouter Graph) (call : RouteCall)
    (disk : RouterMode → Routing.CacheFile Graph) (elapsedMs : ℚ) : Prop :=
  ∀ route, (router.getRoute squareRoot (routerRequest call disk elapsedMs)).1 = some route →
    route.success = true →
      ServesRoute optimizer call
        (some (awaitedRoute squareRoot router (routerRequest call disk elapsedMs)))
        (routingServiceWithRouter globe squareRoot optimizer router call disk elapsedMs) route

/-! ## The branch of the router -/

/-- Where the robust service is reached, its answer is the answer of the call. -/
theorem routingServiceCached_of_reachesRobust (globe : Globe) {optimizer : HybridOptimizerV31}
    {call : RouteCall} {reply : Except PyError PyVal}
    (hreaches : reachesRobust optimizer call (some reply)) :
    routingServiceCached globe optimizer call (some reply) =
      answerRobustly globe optimizer
        (multimodalRoute optimizer.distanceCache call.key call.mode reply).2 call := by
  obtain ⟨hnew, hnone⟩ := hreaches
  have hbranch := hnone reply rfl
  unfold routingServiceCached
  rw [hnew]
  dsimp only
  generalize multimodalRoute optimizer.distanceCache call.key call.mode reply = branch
    at hbranch ⊢
  obtain ⟨answer, cache⟩ := branch
  cases hbranch
  rfl

/-- A route that is awaited fails the branch, whatever it is. -/
theorem multimodalRoute_awaitedRoute (cache : OrderedMap String PyVal) (key mode : String)
    (squareRoot : ℚ → ℚ) (router : ChileMultiModalRouter Graph)
    (request : ChileRequest Graph) :
    multimodalRoute cache key mode (awaitedRoute squareRoot router request) = (none, cache) :=
  rfl

/-- Every uncached route is left to the robust service. -/
theorem reachesRobust_awaitedRoute {optimizer : HybridOptimizerV31} {call : RouteCall}
    (hnew : optimizer.distanceCache.get? call.key = none) (squareRoot : ℚ → ℚ)
    (router : ChileMultiModalRouter Graph) (request : ChileRequest Graph) :
    reachesRobust optimizer call (some (awaitedRoute squareRoot router request)) := by
  refine ⟨hnew, ?_⟩
  intro reply hreply
  cases hreply
  rw [multimodalRoute_awaitedRoute]

/-- The router has a route for every mode the service maps to. -/
theorem getRoute_routerRequest (squareRoot : ℚ → ℚ) (router : ChileMultiModalRouter Graph)
    (call : RouteCall) (disk : RouterMode → Routing.CacheFile Graph) (elapsedMs : ℚ) :
    ∃ route, (router.getRoute squareRoot (routerRequest call disk elapsedMs)).1 = some route ∧
      route.success = true := by
  have hmode : ∃ mode, RouterMode.ofText? (mappedMode call.mode) = some mode := by
    unfold mappedMode
    split_ifs
    · exact ⟨.drive, rfl⟩
    · exact ⟨.bike, rfl⟩
    · exact ⟨.walk, rfl⟩
  obtain ⟨mode, hmode⟩ := hmode
  unfold ChileMultiModalRouter.getRoute routerRequest
  dsimp only
  rw [hmode]
  dsimp only
  split
  · exact ⟨_, rfl, rfl⟩
  · exact ⟨_, rfl, rfl⟩

/-- Of a route that is not awaited the service would read the distance and miss the duration,
which the router has under another key; without a duration nothing is cached. -/
theorem multimodalRoute_chileRouteDict (cache : OrderedMap String PyVal) (key mode : String)
    {route : ChileRoute} (hsuccess : route.success = true) :
    ∃ result, multimodalRoute cache key mode (.ok (.dict (chileRouteDict route))) =
        (some result, cache) ∧
      PyDict.get result "distance_km" .none = .float route.distanceKm ∧
      PyDict.get result "duration_minutes" .none = .int 0 := by
  have hread : ∀ default, PyDict.get (chileRouteDict route) "duration_minutes" default =
      default := by
    intro default
    unfold chileRouteDict
    cases route.processingTimeMs <;> rfl
  have hgood : goodRoute (.ok (.dict (chileRouteDict route))) = some (chileRouteDict route) := by
    have htruthy : (PyDict.get (chileRouteDict route) "success" (.bool false)).truthy = true :=
      hsuccess
    unfold goodRoute
    dsimp only
    rw [if_pos htruthy]
  refine ⟨multimodalResult (chileRouteDict route) mode, ?_, rfl, hread _⟩
  have hduration : hasDuration (multimodalResult (chileRouteDict route) mode) = .ok false := by
    show (PyDict.get (chileRouteDict route) "duration_minutes" (.int 0)).greaterThan 0 "int" = _
    rw [hread]
    rfl
  unfold multimodalRoute
  rw [hgood]
  dsimp only
  rw [hduration]

/-! ## What becomes of a route -/

section Router

variable {globe : Globe} {squareRoot : ℚ → ℚ} {optimizer : HybridOptimizerV31}
  {router : ChileMultiModalRouter Graph} {call : RouteCall}
  {disk : RouterMode → Routing.CacheFile Graph} {elapsedMs : ℚ}

/-- With a router a call is answered as it would be without one. -/
theorem routingServiceWithRouter_eq (hnew : optimizer.distanceCache.get? call.key = none) :
    routingServiceWithRouter globe squareRoot optimizer router call disk elapsedMs =
      routingServiceCached globe optimizer call none := by
  unfold routingServiceWithRouter
  rw [routingServiceCached_of_reachesRobust globe (reachesRobust_awaitedRoute hnew _ _ _),
    multimodalRoute_awaitedRoute, routingServiceCached, hnew]

theorem not_servesRouterRoute (hnew : optimizer.distanceCache.get? call.key = none) :
    ¬ ServesRouterRoute globe squareRoot optimizer router call disk elapsedMs := by
  intro hserves
  obtain ⟨route, hroute, hsuccess⟩ :=
    getRoute_routerRequest squareRoot router call disk elapsedMs
  exact (hserves route hroute hsuccess).withoutRobust (reachesRobust_awaitedRoute hnew _ _ _)

end Router

/-- Whatever the router and its files are, it is never the router that serves a route that is
not cached: every such call is answered as it would be without a router. -/
theorem routingServiceWithRouter_never_serves (globe : Globe) (squareRoot : ℚ → ℚ)
    (optimizer : HybridOptimizerV31) (router : ChileMultiModalRouter Graph) (call : RouteCall)
    (disk : RouterMode → Routing.CacheFile Graph) (elapsedMs : ℚ)
    (hnew : optimizer.distanceCache.get? call.key = none) :
    ¬ ServesRouterRoute globe squareRoot optimizer router call disk elapsedMs ∧
      routingServiceWithRouter globe squareRoot optimizer router call disk elapsedMs =
        routingServiceCached globe optimizer call none :=
  ⟨not_servesRouterRoute hnew, routingServiceWithRouter_eq hnew⟩

/-- A square root for the one square that occurs below. -/
def rootOfFour (square : ℚ) : ℚ := square / 2

/-- A router without files. -/
def emptyRouter : ChileMultiModalRouter Unit := {}

/-- Two degrees along the equator, with an empty cache. -/
theorem routingServiceWithRouter_never_serves_drive :
    ¬ ServesRouterRoute .equatorial rootOfFour {} emptyRouter answeredDrive
        (fun _ => .missing) 0 ∧
      routingServiceWithRouter .equatorial rootOfFour {} emptyRouter answeredDrive
          (fun _ => .missing) 0 =
        routingServiceCached .equatorial {} answeredDrive none :=
  routingServiceWithRouter_never_serves .equatorial rootOfFour {} emptyRouter answeredDrive _ 0
    rfl

/-- The router has a route for the drive, and the robust service is called. -/
theorem servesRouterRoute_drive_false :
    ¬ ServesRouterRoute .equatorial rootOfFour {} emptyRouter answeredDrive
      (fun _ => .missing) 0 :=
  not_servesRouterRoute rfl

end Goveling.Optimizer
