/-
# The OR-Tools service over time

`City2GraphORToolsService` guards the optimizer twice: `optimize_with_ortools`
asks `is_healthy` first, whose verdict is kept for five minutes, and then the
circuit breaker. A verdict that is computed anew is good only while the breaker
is closed. So an open breaker is probed for as long as an old verdict lasts and
no longer: after that the gate in front of it never opens again.
-/

import Goveling.Optimizer.EngineCascade
import Mathlib.Data.Rat.Defs

namespace Goveling.Optimizer

open Goveling.Math Goveling.Python Goveling.Ortools

/-! ## The circuit breaker -/

/-- `ORToolsCircuitBreaker`. -/
structure OrtoolsCircuitBreaker where
  failureCount : ℕ := 0
  failureThreshold : ℕ := 3
  lastFailureTime : Option ℚ := none
  recoveryTimeout : ℚ := 60
  state : BreakerState := .closed
  successCount : ℕ := 0
  totalExecutions : ℕ := 0
  avgExecutionTime : ℚ := 2000

namespace OrtoolsCircuitBreaker

/-- What it has in common with other circuit breakers. -/
def core (breaker : OrtoolsCircuitBreaker) : Breaker ℚ where
  failureCount := breaker.failureCount
  lastFailure := breaker.lastFailureTime
  state := breaker.state

def policy (breaker : OrtoolsCircuitBreaker) : BreakerPolicy ℚ where
  threshold := breaker.failureThreshold
  timeout := breaker.recoveryTimeout

/-- The check in front of `execute_ortools`. -/
def permitOrtools (breaker : OrtoolsCircuitBreaker) (now : ℚ) :
    Except PyError OrtoolsCircuitBreaker :=
  if breaker.state = .opened then
    match breaker.lastFailureTime with
    | none => .error (.typeError "unsupported operand type(s) for -: 'float' and 'NoneType'")
    | some last =>
        if breaker.recoveryTimeout < now - last then .ok { breaker with state := .halfOpen }
        else .error (.exception "OR-Tools circuit breaker is OPEN")
  else .ok breaker

/-- `_update_avg_execution_time`. -/
def updateAvgExecutionTime (breaker : OrtoolsCircuitBreaker) (executionTimeMs : ℚ) :
    OrtoolsCircuitBreaker :=
  { breaker with
    avgExecutionTime := 9 / 10 * breaker.avgExecutionTime + 1 / 10 * executionTimeMs }

/-- What a success changes. -/
def recordSuccess (breaker : OrtoolsCircuitBreaker) (executionTimeMs : ℚ) :
    OrtoolsCircuitBreaker :=
  let recovered :=
    if breaker.state = .halfOpen then { breaker with state := .closed, failureCount := 0 }
    else breaker
  { recovered with successCount := recovered.successCount + 1 }.updateAvgExecutionTime
    executionTimeMs

/-- What a failure changes. -/
def recordFailure (breaker : OrtoolsCircuitBreaker) (now : ℚ) : OrtoolsCircuitBreaker :=
  { breaker with
    failureCount := breaker.failureCount + 1
    lastFailureTime := some now
    state := if breaker.failureThreshold ≤ breaker.failureCount + 1 then .opened
      else breaker.state }

theorem core_permitOrtools {breaker admitted : OrtoolsCircuitBreaker} {now : ℚ}
    (hpermit : breaker.permitOrtools now = .ok admitted) :
    breaker.core.permit breaker.policy now = some admitted.core := by
  unfold permitOrtools at hpermit
  split at hpermit
  · rename_i hopened
    split at hpermit
    · cases hpermit
    · rename_i last hlast
      split at hpermit
      · rename_i hlate
        cases hpermit
        simp [Breaker.permit, Breaker.Recovered, core, policy, hopened, hlast, hlate]
      · cases hpermit
  · rename_i hother
    cases hpermit
    simp [Breaker.permit, core, hother]

theorem core_recordSuccess (breaker : OrtoolsCircuitBreaker) (executionTimeMs : ℚ) :
    (breaker.recordSuccess executionTimeMs).core = breaker.core.succeed := by
  by_cases hhalf : breaker.state = .halfOpen <;>
    simp [recordSuccess, updateAvgExecutionTime, core, Breaker.succeed, hhalf]

theorem core_recordFailure (breaker : OrtoolsCircuitBreaker) (now : ℚ) :
    (breaker.recordFailure now).core = breaker.core.fail breaker.policy now := rfl

end OrtoolsCircuitBreaker

/-- `_monitor_performance` only warns, but it compares what the result says. -/
def monitorPerformance (result : PyDict) : Except PyError Unit :=
  if result.isEmpty then .ok ()
  else if (result.get "total_distance_km" (.int 0)).number? = some 0 then do
    let _many ← (result.get "places_count" (.int 0)).greaterThan 3 "int"
    .ok ()
  else .ok ()

/-- How a call of the service ends: at the health check, at the circuit breaker, or
with the outcome of the optimizer. -/
inductive ServiceOutcome
  | unhealthy
  | rejected (e : PyError)
  | ran (outcome : Except PyError PyDict)

/-- The optimizer was called. -/
def ServiceOutcome.Ran (outcome : ServiceOutcome) : Prop := ∃ result, outcome = .ran result

/-- The times of a call of the service. -/
structure CallTimes where
  now : ℚ
  healthSeconds : ℚ≥0 := 0
  runSeconds : ℚ≥0 := 0

/-- The time at which the circuit breaker is asked. -/
def CallTimes.startTime (times : CallTimes) : ℚ := times.now + times.healthSeconds

/-- The time at which the optimizer is done. -/
def CallTimes.finish (times : CallTimes) : ℚ := times.startTime + times.runSeconds

/-- `execute_ortools` around a function with the given outcome. -/
def OrtoolsCircuitBreaker.executeOrtools (breaker : OrtoolsCircuitBreaker) (times : CallTimes)
    (outcome : Except PyError PyDict) : ServiceOutcome × OrtoolsCircuitBreaker :=
  match breaker.permitOrtools times.startTime with
  | .error e => (.rejected e, breaker)
  | .ok admitted =>
      let started := { admitted with totalExecutions := admitted.totalExecutions + 1 }
      match outcome with
      | .error e => (.ran (.error e), started.recordFailure times.finish)
      | .ok result =>
          let recorded := started.recordSuccess (times.runSeconds * 1000)
          match monitorPerformance result with
          | .ok () => (.ran (.ok result), recorded)
          | .error e => (.ran (.error e), recorded.recordFailure times.finish)

/-! ## The service -/

/-- The verdicts of the health check. -/
inductive HealthStatus
  | unknown | healthy | unhealthy
  deriving DecidableEq

/-- `health_check_cache`. -/
structure HealthCache where
  status : HealthStatus := .unknown
  timestamp : ℚ := 0

/-- `City2GraphORToolsService`; `initialized` says that it has its optimizer. -/
structure OrtoolsService where
  initialized : Bool := false
  circuitBreaker : OrtoolsCircuitBreaker := {}
  healthCheckCache : HealthCache := {}
  healthCheckTtl : ℚ := 300

namespace OrtoolsService

/-- `initialize`, which may fail. -/
def initializeOptimizer (service : OrtoolsService) (succeeds : Bool) : OrtoolsService :=
  { service with initialized := service.initialized || succeeds }

/-- The cached verdict is recent. -/
def cacheIsRecent (service : OrtoolsService) (now : ℚ) : Bool :=
  now - service.healthCheckCache.timestamp < service.healthCheckTtl

/-- A health check must be faster than this. -/
def healthCheckSeconds : ℚ≥0 := NNRat.divNat 5 1

/-- `is_healthy`. The quick test passes when it takes less than five seconds, because
the optimizer has the method it looks for. -/
def isHealthy (service : OrtoolsService) (now : ℚ) (healthSeconds : ℚ≥0)
    (initializes : Bool) : Bool × OrtoolsService :=
  if service.cacheIsRecent now then
    (service.healthCheckCache.status = .healthy, service)
  else
    let ready := if service.initialized then service else service.initializeOptimizer initializes
    if ready.initialized then
      let healthy : Bool :=
        healthSeconds < healthCheckSeconds ∧ ready.circuitBreaker.state = .closed
      (healthy,
        { ready with
          healthCheckCache :=
            { status := if healthy then .healthy else .unhealthy
              timestamp := now } })
    else (false, ready)

/-- `optimize_with_ortools` up to the metrics of its result. -/
def optimizeWithOrtools (service : OrtoolsService) (times : CallTimes) (initializes : Bool)
    (outcome : Except PyError PyDict) : ServiceOutcome × OrtoolsService :=
  let health := service.isHealthy times.now times.healthSeconds initializes
  if health.1 then
    let execution := health.2.circuitBreaker.executeOrtools times outcome
    (execution.1, { health.2 with circuitBreaker := execution.2 })
  else (.unhealthy, health.2)

end OrtoolsService

/-! ## Runs -/

/-- What happens to a service: somebody asks for its health, or for an itinerary. -/
inductive ServiceEvent
  | check (now : ℚ) (healthSeconds : ℚ≥0) (initializes : Bool)
  | optimize (times : CallTimes) (initializes : Bool) (outcome : Except PyError PyDict)

/-- The time at which an event starts. -/
def ServiceEvent.now : ServiceEvent → ℚ
  | .check now _ _ => now
  | .optimize times _ _ => times.now

namespace OrtoolsService

/-- A service before its first call. -/
def fresh (initialized : Bool) : OrtoolsService := { initialized := initialized }

/-- The service after an event. -/
def step (service : OrtoolsService) : ServiceEvent → OrtoolsService
  | .check now healthSeconds initializes => (service.isHealthy now healthSeconds initializes).2
  | .optimize times initializes outcome =>
      (service.optimizeWithOrtools times initializes outcome).2

/-- The service after some events. -/
def run (service : OrtoolsService) (events : List ServiceEvent) : OrtoolsService :=
  events.foldl step service

/-- A recent verdict says that the service is healthy. -/
def FreshlyHealthy (service : OrtoolsService) (now : ℚ) : Prop :=
  service.cacheIsRecent now = true ∧ service.healthCheckCache.status = .healthy

@[simp]
theorem circuitBreaker_initializeOptimizer (service : OrtoolsService) (succeeds : Bool) :
    (service.initializeOptimizer succeeds).circuitBreaker = service.circuitBreaker := rfl

/-- A health check leaves the circuit breaker alone. -/
@[simp]
theorem circuitBreaker_isHealthy (service : OrtoolsService) (now : ℚ) (healthSeconds : ℚ≥0)
    (initializes : Bool) :
    (service.isHealthy now healthSeconds initializes).2.circuitBreaker =
      service.circuitBreaker := by
  unfold isHealthy
  split
  · rfl
  · cases hready : service.initialized <;> cases initializes <;>
      simp [hready, initializeOptimizer]

@[simp]
theorem healthCheckTtl_isHealthy (service : OrtoolsService) (now : ℚ) (healthSeconds : ℚ≥0)
    (initializes : Bool) :
    (service.isHealthy now healthSeconds initializes).2.healthCheckTtl =
      service.healthCheckTtl := by
  unfold isHealthy
  split
  · rfl
  · cases hready : service.initialized <;> cases initializes <;>
      simp [hready, initializeOptimizer]

/-- What a health check can answer and leave behind. -/
theorem isHealthy_cases (service : OrtoolsService) (now : ℚ) (healthSeconds : ℚ≥0)
    (initializes : Bool) :
    (service.cacheIsRecent now = true ∧
        service.isHealthy now healthSeconds initializes =
          (decide (service.healthCheckCache.status = .healthy), service)) ∨
      (service.cacheIsRecent now = false ∧
        ((service.isHealthy now healthSeconds initializes).1 = true →
          service.circuitBreaker.state = .closed) ∧
        ((service.isHealthy now healthSeconds initializes).2.healthCheckCache =
            service.healthCheckCache ∨
          (service.isHealthy now healthSeconds initializes).2.healthCheckCache.status =
            if (service.isHealthy now healthSeconds initializes).1 then .healthy
            else .unhealthy)) := by
  cases hrecent : service.cacheIsRecent now with
  | true => exact .inl ⟨rfl, by simp [isHealthy, hrecent]⟩
  | false =>
      refine .inr ⟨rfl, ?_⟩
      cases hready : service.initialized <;> cases initializes <;>
        simp [isHealthy, hrecent, hready, initializeOptimizer]

theorem optimizeWithOrtools_eq (service : OrtoolsService) (times : CallTimes)
    (initializes : Bool) (outcome : Except PyError PyDict) :
    service.optimizeWithOrtools times initializes outcome =
      if (service.isHealthy times.now times.healthSeconds initializes).1 then
        ((service.circuitBreaker.executeOrtools times outcome).1,
          { (service.isHealthy times.now times.healthSeconds initializes).2 with
            circuitBreaker := (service.circuitBreaker.executeOrtools times outcome).2 })
      else (.unhealthy, (service.isHealthy times.now times.healthSeconds initializes).2) := by
  unfold optimizeWithOrtools
  simp only [circuitBreaker_isHealthy]

end OrtoolsService

/-! ## What is always true of the breaker -/

/-- Executing a call runs it exactly when the breaker admits it. -/
theorem OrtoolsCircuitBreaker.executeOrtools_ran_iff (breaker : OrtoolsCircuitBreaker)
    (times : CallTimes) (outcome : Except PyError PyDict) :
    (breaker.executeOrtools times outcome).1.Ran ↔
      ∃ admitted, breaker.permitOrtools times.startTime = .ok admitted := by
  unfold executeOrtools
  cases breaker.permitOrtools times.startTime with
  | error e => simp [ServiceOutcome.Ran]
  | ok admitted =>
      simp only [ServiceOutcome.Ran, Except.ok.injEq, exists_eq', iff_true]
      cases outcome with
      | error e => exact ⟨_, rfl⟩
      | ok result =>
          dsimp only
          split <;> exact ⟨_, rfl⟩

theorem OrtoolsCircuitBreaker.wellFormed_executeOrtools {breaker : OrtoolsCircuitBreaker}
    (hwell : breaker.core.WellFormed) (times : CallTimes) (outcome : Except PyError PyDict) :
    (breaker.executeOrtools times outcome).2.core.WellFormed := by
  unfold executeOrtools
  cases hpermit : breaker.permitOrtools times.startTime with
  | error e => exact hwell
  | ok admitted =>
      have hclosed := (Breaker.permit_eq_some _ (core_permitOrtools hpermit)).2.2
      have hpermitted : admitted.core.WellFormed := fun hopened => absurd hopened hclosed
      cases outcome with
      | error e =>
          simp only [core_recordFailure]
          exact Breaker.wellFormed_fail _ _ _
      | ok result =>
          dsimp only
          split
          · rw [core_recordSuccess]
            exact Breaker.WellFormed.succeed hpermitted
          · rw [core_recordFailure]
            exact Breaker.wellFormed_fail _ _ _

namespace OrtoolsService

theorem wellFormed_step {service : OrtoolsService}
    (hwell : service.circuitBreaker.core.WellFormed) (event : ServiceEvent) :
    (service.step event).circuitBreaker.core.WellFormed := by
  cases event with
  | check now healthSeconds initializes =>
      simpa only [step, circuitBreaker_isHealthy] using hwell
  | optimize times initializes outcome =>
      rw [step, optimizeWithOrtools_eq]
      split
      · exact OrtoolsCircuitBreaker.wellFormed_executeOrtools hwell times outcome
      · simpa only [circuitBreaker_isHealthy] using hwell

/-- An open breaker of a service that is reached remembers its last failure. -/
theorem wellFormed_run (initialized : Bool) (events : List ServiceEvent) :
    ((fresh initialized).run events).circuitBreaker.core.WellFormed := by
  have hfrom : ∀ service : OrtoolsService, service.circuitBreaker.core.WellFormed →
      (service.run events).circuitBreaker.core.WellFormed := by
    induction events with
    | nil => exact fun _ hwell => hwell
    | cons event rest ih => exact fun _ hwell => ih _ (wellFormed_step hwell event)
  exact hfrom _ Breaker.wellFormed_fresh

/-- Before a call of a service whose breaker is open, the health check passes only
on an old verdict. -/
theorem isHealthy_of_opened {service : OrtoolsService}
    (hopened : service.circuitBreaker.state = .opened) (now : ℚ) (healthSeconds : ℚ≥0)
    (initializes : Bool) :
    (service.isHealthy now healthSeconds initializes).1 = true ↔ service.FreshlyHealthy now := by
  rcases isHealthy_cases service now healthSeconds initializes with ⟨hrecent, hhealth⟩ |
    ⟨hstale, hclosed, -⟩
  · simp [hhealth, FreshlyHealthy, hrecent]
  · constructor
    · intro hpassed
      rw [hclosed hpassed] at hopened
      cases hopened
    · rintro ⟨hrecent, -⟩
      rw [hstale] at hrecent
      cases hrecent

end OrtoolsService

/-- In every state that a service reaches with its breaker open and the recovery
timeout over, the next call probes the optimizer exactly when a verdict of the
health check from before is recent and still says healthy. -/
theorem optimizeWithOrtools_probes_iff (initialized : Bool) (events : List ServiceEvent)
    (times : CallTimes) (initializes : Bool) (outcome : Except PyError PyDict)
    {service : OrtoolsService} (hreached : service = (OrtoolsService.fresh initialized).run events)
    (hopened : service.circuitBreaker.state = .opened)
    (hwaited : ∀ last ∈ service.circuitBreaker.lastFailureTime,
      service.circuitBreaker.recoveryTimeout < times.now - last) :
    (service.optimizeWithOrtools times initializes outcome).1.Ran ↔
      service.FreshlyHealthy times.now := by
  have hwell : service.circuitBreaker.core.WellFormed :=
    hreached ▸ OrtoolsService.wellFormed_run initialized events
  obtain ⟨last, hlast⟩ := Option.ne_none_iff_exists'.mp (hwell hopened)
  have hlastTime : service.circuitBreaker.lastFailureTime = some last := hlast
  have hhealthy := OrtoolsService.isHealthy_of_opened hopened times.now times.healthSeconds
    initializes
  have hlate : service.circuitBreaker.recoveryTimeout < times.startTime - last := by
    have hnow := hwaited last hlastTime
    have hlater : times.now ≤ times.startTime := le_add_of_nonneg_right times.healthSeconds.2
    exact hnow.trans_le (sub_le_sub_right hlater last)
  have hpermitted : ∃ admitted, service.circuitBreaker.permitOrtools times.startTime =
      .ok admitted := by
    simp [OrtoolsCircuitBreaker.permitOrtools, hopened, hlastTime, hlate]
  rw [OrtoolsService.optimizeWithOrtools_eq, ← hhealthy]
  split
  · rename_i hpassed
    simp only [hpassed, iff_true]
    exact (OrtoolsCircuitBreaker.executeOrtools_ran_iff _ times outcome).mpr hpermitted
  · rename_i hblocked
    simp [ServiceOutcome.Ran, hblocked]

/-- A good verdict of the health check at 1000 s, and then three calls that fail. -/
def threeFailures : List ServiceEvent :=
  [.check 1000 0 true,
    .optimize { now := 1001 } true (.error (.typeError "accommodations")),
    .optimize { now := 1002 } true (.error (.typeError "accommodations")),
    .optimize { now := 1003 } true (.error (.typeError "accommodations"))]

/-- A minute later the verdict is still good and the breaker is probed. -/
theorem optimizeWithOrtools_probes_inTime :
    (((OrtoolsService.fresh true).run threeFailures).optimizeWithOrtools { now := 1064 } true
      (.ok [])).1.Ran := by
  refine (optimizeWithOrtools_probes_iff true threeFailures { now := 1064 } true (.ok []) rfl ?_
    ?_).mpr ?_
  · decide +kernel
  · decide +kernel
  · exact ⟨by decide +kernel, by decide +kernel⟩

/-- Ten minutes later the recovery timeout is long over, and the call does not reach
the breaker. -/
theorem optimizeWithOrtools_stays_shut :
    ((OrtoolsService.fresh true).run threeFailures).circuitBreaker.state = .opened ∧
      (∀ last ∈ ((OrtoolsService.fresh true).run threeFailures).circuitBreaker.lastFailureTime,
        ((OrtoolsService.fresh true).run threeFailures).circuitBreaker.recoveryTimeout <
          1603 - last) ∧
      ¬ (((OrtoolsService.fresh true).run threeFailures).optimizeWithOrtools { now := 1603 } true
        (.ok [])).1.Ran := by
  have hopened : ((OrtoolsService.fresh true).run threeFailures).circuitBreaker.state =
      .opened := by
    decide +kernel
  refine ⟨hopened, by decide +kernel, ?_⟩
  have hblocked : (((OrtoolsService.fresh true).run threeFailures).isHealthy 1603 0 true).1 =
      false := by
    decide +kernel
  rw [OrtoolsService.optimizeWithOrtools_eq]
  simp [ServiceOutcome.Ran, hblocked]

/-! ## A breaker that stays open -/

namespace OrtoolsService

/-- From `start` on no verdict of the health check can pass the gate. -/
structure ShutFrom (service : OrtoolsService) (start : ℚ) : Prop where
  opened : service.circuitBreaker.state = .opened
  shut : ∀ now, start ≤ now → ¬ service.FreshlyHealthy now

/-- A verdict that is bad or old stays so. -/
theorem shutFrom_of_not_freshlyHealthy {service : OrtoolsService} {start : ℚ}
    (hopened : service.circuitBreaker.state = .opened) (hover : ¬ service.FreshlyHealthy start) :
    service.ShutFrom start := by
  refine ⟨hopened, fun now hlater hfresh => hover ⟨?_, hfresh.2⟩⟩
  have hrecent := hfresh.1
  simp only [cacheIsRecent, decide_eq_true_eq] at hrecent ⊢
  exact (sub_le_sub_right hlater _).trans_lt hrecent

theorem ShutFrom.isHealthy {service : OrtoolsService} {start : ℚ} (hshut : service.ShutFrom start)
    {now : ℚ} (hlater : start ≤ now) (healthSeconds : ℚ≥0) (initializes : Bool) :
    (service.isHealthy now healthSeconds initializes).1 = false ∧
      (service.isHealthy now healthSeconds initializes).2.ShutFrom start := by
  have hfails : (service.isHealthy now healthSeconds initializes).1 = false := by
    have hpasses := isHealthy_of_opened hshut.opened now healthSeconds initializes
    exact Bool.eq_false_iff.mpr fun hpassed => hshut.shut now hlater (hpasses.mp hpassed)
  refine ⟨hfails, by rw [circuitBreaker_isHealthy]; exact hshut.opened, ?_⟩
  rcases isHealthy_cases service now healthSeconds initializes with ⟨-, hhealth⟩ |
    ⟨-, -, hsame | hverdict⟩
  · rw [hhealth]
    exact hshut.shut
  · intro later hle hfresh
    have hrecent : service.cacheIsRecent later = true := by
      simpa only [cacheIsRecent, hsame, healthCheckTtl_isHealthy] using hfresh.1
    exact hshut.shut later hle ⟨hrecent, hsame ▸ hfresh.2⟩
  · rintro later - ⟨-, hstatus⟩
    rw [hverdict, hfails] at hstatus
    cases hstatus

/-- A shut service does not call the optimizer and stays shut. -/
theorem ShutFrom.optimizeWithOrtools {service : OrtoolsService} {start : ℚ}
    (hshut : service.ShutFrom start) {times : CallTimes} (hlater : start ≤ times.now)
    (initializes : Bool) (outcome : Except PyError PyDict) :
    (service.optimizeWithOrtools times initializes outcome).1 = .unhealthy ∧
      (service.optimizeWithOrtools times initializes outcome).2.ShutFrom start := by
  obtain ⟨hfails, hstays⟩ := hshut.isHealthy hlater times.healthSeconds initializes
  rw [optimizeWithOrtools_eq, hfails]
  exact ⟨rfl, hstays⟩

theorem ShutFrom.step {service : OrtoolsService} {start : ℚ} (hshut : service.ShutFrom start)
    {event : ServiceEvent} (hlater : start ≤ event.now) :
    (service.step event).ShutFrom start := by
  cases event with
  | check now healthSeconds initializes =>
      exact (hshut.isHealthy hlater healthSeconds initializes).2
  | optimize times initializes outcome =>
      exact (hshut.optimizeWithOrtools hlater initializes outcome).2

/-- Once the breaker is open and the last good verdict is over, no run of the
service calls the optimizer again: a back end that recovers is never noticed. -/
theorem ShutFrom.run {service : OrtoolsService} {start : ℚ} (hshut : service.ShutFrom start)
    {events : List ServiceEvent} (hlater : ∀ event ∈ events, start ≤ event.now)
    {times : CallTimes} (htimes : start ≤ times.now) (initializes : Bool)
    (outcome : Except PyError PyDict) :
    ((service.run events).optimizeWithOrtools times initializes outcome).1 = .unhealthy := by
  induction events generalizing service with
  | nil => exact (hshut.optimizeWithOrtools htimes initializes outcome).1
  | cons event rest ih =>
      obtain ⟨hfirst, hrest⟩ := List.forall_mem_cons.mp hlater
      exact ih (hshut.step hfirst) hrest

end OrtoolsService

/-! ## The service of one request -/

/-- What `optimize_with_ortools` adds to a result. -/
def attachServiceMetrics (env : EngineEnv) (state : BreakerState)
    (ortoolsRequest result : PyDict) : Except PyError PyDict := do
  let metrics ← generateMetrics env ortoolsRequest result
  .ok ((result.set "ortools_metrics" (.dict metrics)).set "execution_meta" (.dict
    [("algorithm", .str "ortools_professional"),
      ("execution_time_ms", .float env.executionTimeMs),
      ("circuit_breaker_state", .str state.text),
      ("vs_benchmark", metrics.get "benchmark_deviation" .none)]))

/-- The answer of the service to a call that ended like this. -/
def ServiceOutcome.respond (env : EngineEnv) (service : OrtoolsService)
    (ortoolsRequest : PyDict) : ServiceOutcome → Except PyError PyDict
  | .unhealthy => .error (.exception "OR-Tools service is not healthy")
  | .rejected e => .error e
  | .ran outcome => do
      let result ← outcome
      attachServiceMetrics env service.circuitBreaker.state ortoolsRequest result

/-- The service that `_optimize_with_ortools` creates, called with a converted request. -/
def callFreshService (env : EngineEnv) (times : CallTimes) (ortoolsRequest : PyDict) :
    ServiceOutcome × OrtoolsService :=
  (OrtoolsService.fresh env.optimizerInitializes).optimizeWithOrtools times
    env.optimizerInitializes (executeOrtoolsOptimization env ortoolsRequest)

/-- The health check of a new service passes: its cache is not recent, because its
timestamp is the beginning of the clock, the optimizer is there and the test is quick. -/
def passesFreshCheck (env : EngineEnv) (times : CallTimes) : Bool :=
  300 ≤ times.now && (env.optimizerInitializes &&
    decide (times.healthSeconds < OrtoolsService.healthCheckSeconds))

theorem isHealthy_fresh (env : EngineEnv) (times : CallTimes) :
    ((OrtoolsService.fresh env.optimizerInitializes).isHealthy times.now times.healthSeconds
      env.optimizerInitializes).1 = passesFreshCheck env times := by
  have hrecent : (OrtoolsService.fresh env.optimizerInitializes).cacheIsRecent times.now =
      !decide (300 ≤ times.now) := by
    simp [OrtoolsService.cacheIsRecent, OrtoolsService.fresh, ← decide_not]
  unfold OrtoolsService.isHealthy passesFreshCheck
  rw [hrecent]
  cases decide (300 ≤ times.now) <;> cases env.optimizerInitializes <;>
    simp [OrtoolsService.fresh, OrtoolsService.initializeOptimizer]

/-- A new service lets every call through to the optimizer that passes the health check. -/
theorem callFreshService_eq (env : EngineEnv) (times : CallTimes) (ortoolsRequest : PyDict) :
    ∃ e, executeOrtoolsOptimization env ortoolsRequest = .error e ∧
      (callFreshService env times ortoolsRequest).1 =
        if passesFreshCheck env times then .ran (.error e) else .unhealthy := by
  obtain ⟨e, he⟩ := executeOrtoolsOptimization_raises env ortoolsRequest
  refine ⟨e, he, ?_⟩
  rw [callFreshService, OrtoolsService.optimizeWithOrtools_eq, isHealthy_fresh, he]
  cases passesFreshCheck env times <;> rfl

/-- The cascade's account of the service is that of a new one. -/
theorem respond_callFreshService {env : EngineEnv} {times : CallTimes}
    (hhealthy : env.ortoolsHealthy = passesFreshCheck env times) (ortoolsRequest : PyDict) :
    (callFreshService env times ortoolsRequest).1.respond env
        (callFreshService env times ortoolsRequest).2 ortoolsRequest =
      optimizeWithOrtoolsService env ortoolsRequest := by
  obtain ⟨e, he, hcall⟩ := callFreshService_eq env times ortoolsRequest
  rw [hcall, optimizeWithOrtoolsService, hhealthy, he]
  cases passesFreshCheck env times <;> rfl

end Goveling.Optimizer
