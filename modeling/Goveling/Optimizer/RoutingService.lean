/-
# Routes with retries and an estimate of last resort

`routing_service_robust` asks the routing service through its circuit breaker, up
to four times. When the breaker turns the call away or nothing came of the last
attempt, the distance as the crow flies stands in for the route. An answer of the
service says nothing of a fallback; the estimate says that it is one.
-/

import Goveling.Optimizer.RoutingBreaker
import Goveling.Optimizer.RoutingKey
import Goveling.Optimizer.Types
import Goveling.Python.Value

namespace Goveling.Optimizer

open Goveling.Math Goveling.Python

/-! ## The estimate -/

/-- `haversine_km` on coordinates that nobody has checked. -/
def haversineOf (globe : Globe) (origin destination : Coordinates) : Except PyError ℚ :=
  if hlat : (-90 ≤ origin.1 ∧ origin.1 ≤ 90) ∧ (-90 ≤ destination.1 ∧ destination.1 ≤ 90) then
    if hlon : (-180 ≤ origin.2 ∧ origin.2 ≤ 180) ∧
        (-180 ≤ destination.2 ∧ destination.2 ≤ 180) then
      .ok (globe.haversineKm ⟨origin.1, origin.2, hlat.1, hlon.1⟩
        ⟨destination.1, destination.2, hlat.2, hlon.2⟩)
    else .error (.valueError "Longitud debe estar entre -180 y 180 grados")
  else .error (.valueError "Latitud debe estar entre -90 y 90 grados")

/-- `speed_estimates.get(mode, 4)`. -/
def speedEstimate (mode : String) : ℚ :=
  if mode = "bicycle" then 15
  else if mode = "drive" then 30
  else if mode = "transit" then 20
  else 4

/-- `_emergency_routing_fallback`. -/
def emergencyRoutingFallback (globe : Globe) (origin destination : Coordinates) (mode : String) :
    Except PyError PyDict := do
  let distanceKm ← haversineOf globe origin destination
  let durationMinutes := truncated (distanceKm / speedEstimate mode * 60)
  return [("duration_minutes", .int (max durationMinutes 5)),
    ("distance_km", .float distanceKm),
    ("fallback_used", .bool true),
    ("fallback_reason", .str "routing_service_unavailable")]

/-! ## The service -/

/-- `RoutingResult`. -/
structure RoutingResult where
  distanceKm : ℚ
  durationMinutes : ℚ
  processingTimeMs : ℚ
  source : String
  success : Bool
  confidence : ℚ

/-- What `get_route` of the hybrid service or `eta_between` of the free one returns. -/
inductive RouteReply
  | hybrid (result : Option RoutingResult)
  | free (result : PyDict)

namespace RouteReply

/-- The result in the expected format. Without one the attempt raises. -/
def answer? : RouteReply → Option PyDict
  | hybrid none => none
  | hybrid (some result) =>
      if result.success then
        some [("distance_km", .float result.distanceKm),
          ("duration_minutes", .float result.durationMinutes),
          ("processing_time_ms", .float result.processingTimeMs),
          ("source", .str result.source),
          ("confidence", .float result.confidence)]
      else none
  | free result => some result

end RouteReply

/-- What an attempt meets: when it asks the breaker, what the service replies or raises,
and when it would raise. -/
structure Attempt where
  askedAt : ℚ
  reply : Except PyError RouteReply
  failedAt : ℚ

/-- The dictionary that the service answers an attempt with. -/
def Attempt.answer? (attempt : Attempt) : Option PyDict :=
  match attempt.reply with
  | .ok reply => reply.answer?
  | .error _ => none

/-- How an attempt ends. -/
inductive AttemptEnd
  | answered (result : PyDict)
  | turnedAway
  | failed

/-- One attempt through the breaker. An unsuccessful reply is a success to the breaker. -/
def tryRoute (breaker : CircuitBreaker) (attempt : Attempt) : AttemptEnd × CircuitBreaker :=
  match breaker.isOpen attempt.askedAt with
  | .error _ => (.failed, breaker)
  | .ok (true, breaker) => (.turnedAway, breaker)
  | .ok (false, breaker) =>
      match attempt.reply with
      | .error _ => (.failed, breaker.recordFailure attempt.failedAt)
      | .ok reply =>
          match reply.answer? with
          | some result => (.answered result, breaker.recordSuccess)
          | none => (.failed, breaker.recordSuccess)

/-- A request for a route, and what its attempts meet. -/
structure RouteCall where
  origin : Coordinates
  destination : Coordinates
  mode : String := "walk"
  attempts : ℕ → Attempt

namespace RouteCall

/-- The key of the route. -/
def key (call : RouteCall) : String := getCacheKey call.origin call.destination call.mode

/-- The estimate for the route. -/
def estimate (call : RouteCall) (globe : Globe) : Except PyError PyDict :=
  emergencyRoutingFallback globe call.origin call.destination call.mode

/-- The attempts from one on, as many as are left. -/
def tryFrom (call : RouteCall) (globe : Globe) (attempt : ℕ) :
    ℕ → CircuitBreaker → Except PyError PyDict × CircuitBreaker
  | 0, breaker => (call.estimate globe, breaker)
  | left + 1, breaker =>
      match tryRoute breaker (call.attempts attempt) with
      | (.answered result, breaker) => (.ok result, breaker)
      | (.turnedAway, breaker) => (call.estimate globe, breaker)
      | (.failed, breaker) => call.tryFrom globe (attempt + 1) left breaker

end RouteCall

/-- `self.max_retries`. -/
def maxRetries : ℕ := 3

/-- `routing_service_robust`. -/
def routingServiceRobust (globe : Globe) (breaker : CircuitBreaker) (call : RouteCall) :
    Except PyError PyDict × CircuitBreaker :=
  call.tryFrom globe 0 (maxRetries + 1) breaker

/-! ## What comes back -/

theorem tryRoute_answered {breaker breaker' : CircuitBreaker} {attempt : Attempt}
    {result : PyDict} (htry : tryRoute breaker attempt = (.answered result, breaker')) :
    attempt.answer? = some result := by
  unfold tryRoute at htry
  unfold Attempt.answer?
  split at htry
  · cases htry
  · cases htry
  · split at htry
    · cases htry
    · rename_i reply hreply
      rw [hreply]
      dsimp only
      split at htry
      · rename_i answer hanswer
        cases htry
        exact hanswer
      · cases htry

/-- A closed breaker lets an attempt through, and the answer with it. -/
theorem tryRoute_of_isClosed {breaker : CircuitBreaker} (hclosed : breaker.isClosed = true)
    {attempt : Attempt} {result : PyDict} (hanswer : attempt.answer? = some result) :
    tryRoute breaker attempt = (.answered result, breaker.recordSuccess) := by
  have hstate : breaker.state = .closed := by simpa [CircuitBreaker.isClosed] using hclosed
  have hopen : breaker.isOpen attempt.askedAt = .ok (false, breaker) := by
    simp [CircuitBreaker.isOpen, hstate]
  unfold Attempt.answer? at hanswer
  unfold tryRoute
  rw [hopen]
  dsimp only
  cases hreply : attempt.reply with
  | error e => simp [hreply] at hanswer
  | ok reply =>
      rw [hreply] at hanswer
      dsimp only at hanswer ⊢
      rw [hanswer]

namespace RouteCall

variable {globe : Globe} {call : RouteCall}

/-- What comes back is an answer to one of the attempts or the estimate. -/
theorem tryFrom_cases (attempt left : ℕ) (breaker : CircuitBreaker) :
    (∃ n result, (call.attempts n).answer? = some result ∧
        (call.tryFrom globe attempt left breaker).1 = .ok result) ∨
      (call.tryFrom globe attempt left breaker).1 = call.estimate globe := by
  induction left generalizing attempt breaker with
  | zero => exact .inr rfl
  | succ left ih =>
      unfold tryFrom
      split
      · rename_i result breaker' htry
        exact .inl ⟨attempt, result, tryRoute_answered htry, rfl⟩
      · exact .inr rfl
      · exact ih _ _

end RouteCall

theorem routingServiceRobust_cases (globe : Globe) (breaker : CircuitBreaker) (call : RouteCall) :
    (∃ n result, (call.attempts n).answer? = some result ∧
        (routingServiceRobust globe breaker call).1 = .ok result) ∨
      (routingServiceRobust globe breaker call).1 = call.estimate globe :=
  RouteCall.tryFrom_cases _ _ _

/-- Through a closed breaker the first answer comes back. -/
theorem routingServiceRobust_of_isClosed (globe : Globe) {breaker : CircuitBreaker}
    {call : RouteCall} {result : PyDict} (hclosed : breaker.isClosed = true)
    (hanswer : (call.attempts 0).answer? = some result) :
    (routingServiceRobust globe breaker call).1 = .ok result := by
  unfold routingServiceRobust RouteCall.tryFrom
  rw [tryRoute_of_isClosed hclosed hanswer]

/-! ## How a route looks -/

/-- What the planner reads of a route. -/
@[ext]
structure RouteView where
  distanceKm : Option ℚ
  durationMinutes : Option ℚ
  fallbackUsed : Bool
  deriving DecidableEq

/-- Distance, duration and fallback flag of a route. -/
def routeView (route : PyDict) : RouteView where
  distanceKm := (route.lookup "distance_km").bind PyVal.number?
  durationMinutes := (route.lookup "duration_minutes").bind PyVal.number?
  fallbackUsed := (PyDict.get route "fallback_used" .none).truthy

/-- Marks that are not part of the route do not change how it looks. -/
theorem routeView_set {key : String} (hdistance : "distance_km" ≠ key)
    (hduration : "duration_minutes" ≠ key) (hfallback : "fallback_used" ≠ key) (route : PyDict)
    (value : PyVal) : routeView (route.set key value) = routeView route := by
  unfold routeView PyDict.get
  rw [PyDict.lookup_set_of_ne hdistance, PyDict.lookup_set_of_ne hduration,
    PyDict.lookup_set_of_ne hfallback]

/-- An estimate says that it is one, and its duration is at least five minutes. -/
theorem emergencyRoutingFallback_eq_ok {globe : Globe} {origin destination : Coordinates}
    {mode : String} {route : PyDict}
    (hestimate : emergencyRoutingFallback globe origin destination mode = .ok route) :
    (routeView route).fallbackUsed = true ∧
      ∃ minutes : ℤ, 5 ≤ minutes ∧ PyDict.get route "duration_minutes" (.int 0) = .int minutes := by
  obtain ⟨distanceKm, -, hroute⟩ := exists_of_bind_eq_ok hestimate
  cases hroute
  exact ⟨rfl, _, le_max_right _ _, rfl⟩

end Goveling.Optimizer
