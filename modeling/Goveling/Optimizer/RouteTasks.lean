/-
# A cached route as a task

`routing_service_cached` waits for the multimodal router and, between asking the
breaker and hearing of the service and between two attempts, for the routing service.
While it waits others may read and write the cache and use the breaker. A call that
nobody comes in between ends as the plain function does.
-/

import Goveling.Math.Tasks
import Goveling.Optimizer.RoutingCache

namespace Goveling.Optimizer

open Goveling.Math Goveling.Python

/-- A call of `routing_service_cached`, with what the multimodal router replies if there is one. -/
structure RouteJob where
  call : RouteCall
  multimodal : Option (Except PyError PyVal) := none

/-- What a call waits for: its first turn, the multimodal router with its reply, the next
attempt, or the answer to an attempt. -/
inductive RouteTask
  | called
  | routing (reply : Except PyError PyVal)
  | pausing (attempt : ℕ)
  | inFlight (attempt : ℕ)

/-- The optimizer after a turn of a call, with what the call waits for next or its result. -/
abbrev RouteStep := HybridOptimizerV31 × (RouteTask ⊕ Except PyError PyVal)

/-- The optimizer with another breaker. -/
def HybridOptimizerV31.withBreaker (optimizer : HybridOptimizerV31) (breaker : CircuitBreaker) :
    HybridOptimizerV31 :=
  { optimizer with routingCircuitBreaker := breaker }

/-- The cached route that a hit returns. -/
def hitAnswer (cached : PyVal) : Except PyError PyVal := do
  let cachedResult ← cached.copy
  cachedResult.setItem "cache_hit" (.bool true)

/-- The route that a miss returns. -/
def missAnswer (reply : Except PyError PyDict) : Except PyError PyVal := do
  let result ← reply
  let _ ← isValidRoute result
  return .dict (PyDict.set result "cache_hit" (.bool false))

/-- The cache after a route of the robust service. -/
def HybridOptimizerV31.store (optimizer : HybridOptimizerV31) (key : String) :
    Except PyError PyDict → HybridOptimizerV31
  | .error _ => optimizer
  | .ok result =>
      match isValidRoute result with
      | .ok true =>
          { optimizer with
            distanceCache := limitCache (optimizer.distanceCache.set key (.dict result)) }
      | _ => optimizer

section Task

variable (globe : Globe) (call : RouteCall)

/-- The end of `routing_service_cached`. -/
def endCall (optimizer : HybridOptimizerV31) (reply : Except PyError PyDict) : RouteStep :=
  (optimizer.store call.key reply, .inr (missAnswer reply))

/-- After an attempt that failed comes another, or the estimate. -/
def retryCall (optimizer : HybridOptimizerV31) (attempt : ℕ) : RouteStep :=
  if attempt < maxRetries then (optimizer, .inl (.pausing (attempt + 1)))
  else endCall call optimizer (call.estimate globe)

/-- An attempt asks the breaker. -/
def askService (optimizer : HybridOptimizerV31) (attempt : ℕ) : RouteStep :=
  match optimizer.routingCircuitBreaker.isOpen (call.attempts attempt).askedAt with
  | .error _ => retryCall globe call optimizer attempt
  | .ok (true, breaker) => endCall call (optimizer.withBreaker breaker) (call.estimate globe)
  | .ok (false, breaker) => (optimizer.withBreaker breaker, .inl (.inFlight attempt))

/-- An attempt hears of the service. -/
def hearService (optimizer : HybridOptimizerV31) (attempt : ℕ) : RouteStep :=
  let breaker := optimizer.routingCircuitBreaker
  match (call.attempts attempt).reply with
  | .error _ =>
      retryCall globe call
        (optimizer.withBreaker (breaker.recordFailure (call.attempts attempt).failedAt)) attempt
  | .ok reply =>
      match reply.answer? with
      | some result => endCall call (optimizer.withBreaker breaker.recordSuccess) (.ok result)
      | none => retryCall globe call (optimizer.withBreaker breaker.recordSuccess) attempt

end Task

/-- What a call does at a turn. -/
def routeAct (globe : Globe) (job : RouteJob) (optimizer : HybridOptimizerV31) :
    RouteTask → RouteStep
  | .called =>
      match optimizer.distanceCache.get? job.call.key with
      | some cached => (optimizer.countHit, .inr (hitAnswer cached))
      | none =>
          match job.multimodal with
          | some reply => (optimizer, .inl (.routing reply))
          | none =>
              askService globe job.call
                (optimizer.countMiss optimizer.routingCircuitBreaker optimizer.distanceCache) 0
  | .routing reply =>
      match multimodalRoute optimizer.distanceCache job.call.key job.call.mode reply with
      | (some result, cache) =>
          (optimizer.countMiss optimizer.routingCircuitBreaker cache, .inr (.ok (.dict result)))
      | (none, cache) =>
          askService globe job.call (optimizer.countMiss optimizer.routingCircuitBreaker cache) 0
  | .pausing attempt => askService globe job.call optimizer attempt
  | .inFlight attempt => hearService globe job.call optimizer attempt

/-- The calls that share an optimizer. -/
abbrev RouteGroup := TaskGroup HybridOptimizerV31 RouteJob RouteTask (Except PyError PyVal)

/-- `routing_service_cached`. The replies come with the call, so a turn says nothing more. -/
def routeBody (globe : Globe) :
    TaskBody HybridOptimizerV31 RouteJob RouteTask Unit (Except PyError PyVal) where
  fresh _ := .called
  act job optimizer task _ := some (routeAct globe job optimizer task)

/-! ## A call on its own -/

variable {globe : Globe} {job : RouteJob} {optimizer : HybridOptimizerV31}

/-- Left alone, a call ends with an optimizer and a result. -/
def EndsWith (globe : Globe) (job : RouteJob) (step : RouteStep) (optimizer : HybridOptimizerV31)
    (result : Except PyError PyVal) : Prop :=
  match step.2 with
  | .inl task => ∃ events,
      (routeBody globe).finish? job step.1 task events = some (optimizer, result)
  | .inr found => step.1 = optimizer ∧ found = result

/-- A turn more or less makes no difference to the end. -/
theorem exists_finish?_of_endsWith {task : RouteTask} {last : HybridOptimizerV31}
    {result : Except PyError PyVal}
    (hends : EndsWith globe job (routeAct globe job optimizer task) last result) :
    ∃ events, (routeBody globe).finish? job optimizer task events = some (last, result) := by
  unfold EndsWith at hends
  cases hstep : routeAct globe job optimizer task with
  | mk next outcome =>
      rw [hstep] at hends
      cases outcome with
      | inl later =>
          obtain ⟨events, hfinish⟩ := hends
          refine ⟨() :: events, ?_⟩
          simp only [TaskBody.finish?, routeBody, hstep]
          exact hfinish
      | inr found =>
          obtain ⟨rfl, rfl⟩ := hends
          refine ⟨[()], ?_⟩
          simp only [TaskBody.finish?, routeBody, hstep]
          rfl

/-- Left alone, a call ends with the reply of the robust service, and the breaker after it. -/
def EndsAs (globe : Globe) (job : RouteJob) (step : RouteStep) (optimizer : HybridOptimizerV31)
    (robust : Except PyError PyDict × CircuitBreaker) : Prop :=
  EndsWith globe job step ((optimizer.withBreaker robust.2).store job.call.key robust.1)
    (missAnswer robust.1)

/-- Whether an attempt failed at once or in the end, what comes after it is the same. -/
theorem endsAs_askService {attempt left : ℕ} (optimizer : HybridOptimizerV31)
    (hretry : ∀ other : HybridOptimizerV31, EndsAs globe job
      (retryCall globe job.call other attempt) other
      (job.call.tryFrom globe (attempt + 1) left other.routingCircuitBreaker)) :
    EndsAs globe job (askService globe job.call optimizer attempt) optimizer
      (job.call.tryFrom globe attempt (left + 1) optimizer.routingCircuitBreaker) := by
  unfold RouteCall.tryFrom tryRoute askService
  cases optimizer.routingCircuitBreaker.isOpen (job.call.attempts attempt).askedAt with
  | error e => exact hretry optimizer
  | ok asked =>
      obtain ⟨turnsAway, breaker⟩ := asked
      cases turnsAway with
      | true => exact ⟨rfl, rfl⟩
      | false =>
          refine exists_finish?_of_endsWith ?_
          simp only [routeAct, hearService]
          cases (job.call.attempts attempt).reply with
          | error e =>
              exact hretry (optimizer.withBreaker
                (breaker.recordFailure (job.call.attempts attempt).failedAt))
          | ok reply =>
              dsimp only
              cases reply.answer? with
              | some result => exact ⟨rfl, rfl⟩
              | none => exact hretry (optimizer.withBreaker breaker.recordSuccess)

theorem endsAs_retryCall (globe : Globe) (job : RouteJob) {attempt left : ℕ}
    (hleft : attempt + left = maxRetries) (optimizer : HybridOptimizerV31) :
    EndsAs globe job (retryCall globe job.call optimizer attempt) optimizer
      (job.call.tryFrom globe (attempt + 1) left optimizer.routingCircuitBreaker) := by
  unfold retryCall
  induction left generalizing attempt optimizer with
  | zero =>
      rw [if_neg (by omega)]
      exact ⟨rfl, rfl⟩
  | succ left ih =>
      rw [if_pos (by omega)]
      exact exists_finish?_of_endsWith (endsAs_askService optimizer (ih (by omega)))

/-- The end of the plain function: the reply of the robust service is stored and marked. -/
theorem answerRobustly_eq (globe : Globe) (optimizer : HybridOptimizerV31)
    (cache : OrderedMap String PyVal) (call : RouteCall) :
    answerRobustly globe optimizer cache call =
      (missAnswer (routingServiceRobust globe optimizer.routingCircuitBreaker call).1,
        (optimizer.countMiss (routingServiceRobust globe optimizer.routingCircuitBreaker call).2
          cache).store call.key
            (routingServiceRobust globe optimizer.routingCircuitBreaker call).1) := by
  unfold answerRobustly
  generalize routingServiceRobust globe optimizer.routingCircuitBreaker call = robust
  obtain ⟨reply, breaker⟩ := robust
  cases reply with
  | error e => rfl
  | ok result =>
      dsimp only
      simp only [missAnswer, HybridOptimizerV31.store, bind, Except.bind]
      cases isValidRoute result with
      | error e => rfl
      | ok valid => cases valid <;> rfl

/-- A call that nobody comes in between ends as `routing_service_cached` does. -/
theorem routeBody_alone (globe : Globe) (job : RouteJob) (optimizer : HybridOptimizerV31) :
    ∃ events, (routeBody globe).finish? job optimizer .called events =
      some ((routingServiceCached globe optimizer job.call job.multimodal).2,
        (routingServiceCached globe optimizer job.call job.multimodal).1) := by
  have hrobust : ∀ cache, EndsWith globe job
      (askService globe job.call (optimizer.countMiss optimizer.routingCircuitBreaker cache) 0)
      (answerRobustly globe optimizer cache job.call).2
      (answerRobustly globe optimizer cache job.call).1 := by
    intro cache
    have hretry : ∀ other : HybridOptimizerV31, EndsAs globe job
        (retryCall globe job.call other 0) other
        (job.call.tryFrom globe (0 + 1) maxRetries other.routingCircuitBreaker) :=
      endsAs_retryCall globe job (Nat.zero_add maxRetries)
    have hends := endsAs_askService
      (optimizer.countMiss optimizer.routingCircuitBreaker cache) hretry
    unfold EndsAs at hends
    have hend := answerRobustly_eq globe optimizer cache job.call
    rw [hend]
    exact hends
  refine exists_finish?_of_endsWith ?_
  unfold routeAct routingServiceCached
  cases hget : optimizer.distanceCache.get? job.call.key with
  | some cached => exact ⟨rfl, rfl⟩
  | none =>
      cases job.multimodal with
      | none => exact hrobust _
      | some reply =>
          refine exists_finish?_of_endsWith ?_
          simp only [routeAct]
          obtain ⟨found, cache⟩ :=
            multimodalRoute optimizer.distanceCache job.call.key job.call.mode reply
          cases found with
          | some result => exact ⟨rfl, rfl⟩
          | none => exact hrobust cache

end Goveling.Optimizer
