/-
# Requests for City2Graph one after the other

The circuit breaker of City2Graph opens after enough failures and would let a
request through as a probe once its timeout is over. But `_optimize_with_city2graph`
looks at the state first and never asks an open breaker, and nothing else does:
once open it stays open, whatever comes. A success does not reset the count of
failures of a closed breaker, so what opens it is the number of failures of all
requests together.
-/

import Goveling.Math.Runs
import Goveling.Optimizer.EngineCascade

namespace Goveling.Optimizer

open Goveling.Math Goveling.Python

namespace City2graphCircuitBreaker

/-- The check at the head of `call`: the breaker under which the function runs, if it does. -/
def allow (breaker : City2graphCircuitBreaker) (now : ℚ) : Option City2graphCircuitBreaker :=
  let recovered := breaker.lastFailureTime.any fun time =>
    time ≠ 0 && breaker.recoveryTimeout < now - time
  if breaker.state = .opened then
    if recovered then some { breaker with state := .halfOpen } else none
  else some breaker

/-- The breaker after the function has returned or raised. -/
def settle (admitted : City2graphCircuitBreaker) (finish : ℚ)
    (outcome : Except PyError PyDict) : City2graphCircuitBreaker :=
  match outcome with
  | .ok _ =>
      if admitted.state = .halfOpen then { admitted with state := .closed, failureCount := 0 }
      else admitted
  | .error _ =>
      { admitted with
        failureCount := admitted.failureCount + 1
        lastFailureTime := some finish
        state :=
          if admitted.failureThreshold ≤ admitted.failureCount + 1 then .opened
          else admitted.state }

/-- The breaker under which `_optimize_with_city2graph` runs City2Graph, if it does: it
looks at the state before `call` does. -/
def gate (breaker : City2graphCircuitBreaker) (now : ℚ) : Option City2graphCircuitBreaker :=
  if breaker.state = .opened then none else breaker.allow now

theorem allow_of_not_opened {breaker : City2graphCircuitBreaker}
    (hstate : breaker.state ≠ .opened) (now : ℚ) : breaker.allow now = some breaker := by
  simp [allow, hstate]

theorem gate_of_opened {breaker : City2graphCircuitBreaker} (hopened : breaker.state = .opened)
    (now : ℚ) : breaker.gate now = none := if_pos hopened

theorem gate_of_not_opened {breaker : City2graphCircuitBreaker}
    (hstate : breaker.state ≠ .opened) (now : ℚ) : breaker.gate now = some breaker := by
  rw [gate, if_neg hstate, allow_of_not_opened hstate]

/-- `call` admits, runs and settles. -/
theorem breaker_call (breaker : City2graphCircuitBreaker) (now : ℚ)
    (outcome : Except PyError PyDict) (classicRuns : ℕ) :
    (breaker.call now outcome classicRuns).breaker =
      match breaker.allow now with
      | none => breaker
      | some admitted => admitted.settle now outcome := by
  unfold call allow
  dsimp only
  generalize (breaker.lastFailureTime.any fun time =>
    time ≠ 0 && breaker.recoveryTimeout < now - time) = recovered
  by_cases hopened : breaker.state = .opened <;> cases recovered <;> cases outcome <;>
    simp [hopened, settle]

end City2graphCircuitBreaker

/-! ## What a request does to the breaker -/

section Env

variable (env : EngineEnv) (request : TripRequest) (decision : City2graphDecision)

/-- A request runs City2Graph under the breaker that the gate admits it with. -/
theorem breaker_optimizeWithCity2graph (now : ℚ) (breaker : City2graphCircuitBreaker) :
    (optimizeWithCity2graph env now breaker request decision).breaker =
      match breaker.gate now with
      | none => breaker
      | some admitted =>
          admitted.settle now (executeCity2graphCoreLogic env request decision).1 := by
  have hbody : (optimizeWithCity2graph env now breaker request decision).breaker =
      (city2graphBody env now breaker request decision).breaker := by
    unfold optimizeWithCity2graph
    dsimp only
    split <;> rfl
  rw [hbody]
  unfold city2graphBody City2graphCircuitBreaker.gate
  by_cases hopened : breaker.state = .opened
  · rw [if_pos hopened, if_pos hopened]
    split <;> rfl
  · rw [if_neg hopened, if_neg hopened]
    exact City2graphCircuitBreaker.breaker_call breaker now _ _

/-- Behind an open breaker City2Graph is not asked: the answer is the same whatever its
service would do. -/
theorem optimizeWithCity2graph_of_opened {breaker : City2graphCircuitBreaker}
    (hopened : breaker.state = .opened) (now : ℚ) (service : Except PyError Unit) :
    optimizeWithCity2graph { env with city2graphService := service } now breaker request
        decision =
      optimizeWithCity2graph env now breaker request decision := by
  unfold optimizeWithCity2graph city2graphBody
  rw [if_pos hopened, if_pos hopened]

end Env

/-! ## Runs -/

/-- A request for `_optimize_with_city2graph` that comes at one time and is done at another.
Only a failure looks at the clock, when it is recorded. -/
structure City2graphRequest where
  env : EngineEnv
  request : TripRequest
  decision : City2graphDecision
  start : ℚ
  finish : ℚ

namespace City2graphRequest

/-- The request served. -/
def serve (breaker : City2graphCircuitBreaker) (req : City2graphRequest) : EngineRun :=
  optimizeWithCity2graph req.env req.finish breaker req.request req.decision

/-- City2Graph fails on the request when it is run. -/
def fails (req : City2graphRequest) : Bool :=
  match (executeCity2graphCoreLogic req.env req.request req.decision).1 with
  | .ok _ => false
  | .error _ => true

/-- The breaker after the request. -/
def step (breaker : City2graphCircuitBreaker) (req : City2graphRequest) :
    City2graphCircuitBreaker :=
  (req.serve breaker).breaker

/-- The request runs City2Graph as a probe. -/
def RunsProbe (breaker : City2graphCircuitBreaker) (req : City2graphRequest) : Prop :=
  ∃ admitted, breaker.gate req.start = some admitted ∧ admitted.state = .halfOpen

/-- The request finds the breaker open and its recovery timeout over. -/
def FindsRecovered (breaker : City2graphCircuitBreaker) (req : City2graphRequest) : Prop :=
  breaker.state = .opened ∧
    ∃ last ∈ breaker.lastFailureTime, breaker.recoveryTimeout < req.start - last

end City2graphRequest

namespace City2graphCircuitBreaker

open City2graphRequest (step)

/-- The breaker before its first request. -/
def fresh (failureThreshold : ℕ) (recoveryTimeout : ℚ) : City2graphCircuitBreaker where
  failureThreshold := failureThreshold
  recoveryTimeout := recoveryTimeout

/-- No requests can close the breaker. -/
def StuckOpen (breaker : City2graphCircuitBreaker) : Prop :=
  ∀ requests, (runEnd step breaker requests).state = .opened

/-- In a run every request that finds the breaker open and its timeout over probes
City2Graph, and the breaker is never stuck. -/
structure Recovers (breaker : City2graphCircuitBreaker) (requests : List City2graphRequest) :
    Prop where
  probes : ∀ moment ∈ moments step breaker requests,
    City2graphRequest.FindsRecovered moment.1 moment.2 →
      City2graphRequest.RunsProbe moment.1 moment.2
  notStuck : ∀ before after, requests = before ++ after →
    ¬ (runEnd step breaker before).StuckOpen

/-- Whatever a request does, an open breaker stays open. -/
theorem step_of_opened {breaker : City2graphCircuitBreaker} (hopened : breaker.state = .opened)
    (req : City2graphRequest) : step breaker req = breaker := by
  unfold step City2graphRequest.serve
  rw [breaker_optimizeWithCity2graph, gate_of_opened hopened]

theorem stuckOpen_of_opened {breaker : City2graphCircuitBreaker}
    (hopened : breaker.state = .opened) : breaker.StuckOpen := by
  have hstep : ∀ (breaker : City2graphCircuitBreaker) (req : City2graphRequest),
      breaker.state = .opened → (step breaker req).state = .opened := by
    intro breaker req hstate
    rw [step_of_opened hstate req]
    exact hstate
  exact runEnd_invariant hstep hopened

/-- A closed breaker counts the failures and nothing else. -/
theorem step_of_closed {breaker : City2graphCircuitBreaker} (hclosed : breaker.state = .closed)
    (req : City2graphRequest) :
    (step breaker req).failureThreshold = breaker.failureThreshold ∧
      (step breaker req).failureCount = breaker.failureCount + (if req.fails then 1 else 0) ∧
      ((step breaker req).state =
        if req.fails ∧ breaker.failureThreshold ≤ breaker.failureCount + 1 then .opened
        else .closed) := by
  have hgate : breaker.gate req.finish = some breaker :=
    gate_of_not_opened (by rw [hclosed]; decide) req.finish
  unfold step City2graphRequest.serve City2graphRequest.fails
  rw [breaker_optimizeWithCity2graph, hgate]
  cases (executeCity2graphCoreLogic req.env req.request req.decision).1 with
  | ok result => simp [settle, hclosed]
  | error e => simp [settle, hclosed]

/-- A closed breaker opens in a run when the failures reach the threshold. -/
theorem opened_runEnd_iff {breaker : City2graphCircuitBreaker} (hclosed : breaker.state = .closed)
    (hfew : breaker.failureCount < max 1 breaker.failureThreshold)
    (requests : List City2graphRequest) :
    (runEnd step breaker requests).state = .opened ↔
      max 1 breaker.failureThreshold ≤
        breaker.failureCount + requests.countP City2graphRequest.fails := by
  induction requests generalizing breaker with
  | nil =>
      simp only [runEnd_nil, hclosed, reduceCtorEq, List.countP_nil, false_iff]
      omega
  | cons req rest ih =>
      obtain ⟨hthreshold, hcount, hstate⟩ := step_of_closed hclosed req
      rw [runEnd_cons, List.countP_cons]
      by_cases hopens : req.fails ∧ breaker.failureThreshold ≤ breaker.failureCount + 1
      · rw [if_pos hopens] at hstate
        simp only [stuckOpen_of_opened hstate rest, hopens.1, if_true, true_iff]
        omega
      · rw [if_neg hopens] at hstate
        have hstill : (step breaker req).failureCount <
            max 1 (step breaker req).failureThreshold := by
          rw [hthreshold, hcount]
          cases hfails : req.fails with
          | false => simpa using hfew
          | true =>
              simp only [hfails, true_and, not_le] at hopens
              simp only [if_true]
              omega
        rw [ih hstate hstill, hthreshold, hcount]
        omega

end City2graphCircuitBreaker

/-- A run recovers exactly when it does not need to: when fewer requests fail in it than
it takes to open the breaker. -/
theorem optimizeWithCity2graph_recovers_iff (failureThreshold : ℕ) (recoveryTimeout : ℚ)
    (requests : List City2graphRequest) :
    (City2graphCircuitBreaker.fresh failureThreshold recoveryTimeout).Recovers requests ↔
      requests.countP City2graphRequest.fails < max 1 failureThreshold := by
  have hclosed : (City2graphCircuitBreaker.fresh failureThreshold recoveryTimeout).state =
      .closed := rfl
  have hopened : ∀ before : List City2graphRequest,
      (runEnd City2graphRequest.step
        (City2graphCircuitBreaker.fresh failureThreshold recoveryTimeout) before).state =
          .opened ↔ max 1 failureThreshold ≤ before.countP City2graphRequest.fails := by
    intro before
    have hfew : 0 < max 1 failureThreshold :=
      Nat.lt_of_lt_of_le Nat.one_pos (le_max_left 1 failureThreshold)
    have hfresh := City2graphCircuitBreaker.opened_runEnd_iff hclosed hfew before
    rw [hfresh]
    simp only [City2graphCircuitBreaker.fresh, Nat.zero_add]
  constructor
  · intro hrecovers
    by_contra hmany
    refine hrecovers.notStuck requests [] (List.append_nil _).symm ?_
    exact City2graphCircuitBreaker.stuckOpen_of_opened ((hopened requests).mpr (not_lt.mp hmany))
  · intro hfew
    have hnever : ∀ before after, requests = before ++ after →
        (runEnd City2graphRequest.step
          (City2graphCircuitBreaker.fresh failureThreshold recoveryTimeout) before).state ≠
            .opened := by
      intro before after hsplit hstate
      have hmany := (hopened before).mp hstate
      rw [hsplit, List.countP_append] at hfew
      omega
    refine ⟨fun moment hmoment hfinds => ?_, fun before after hsplit hstuck => ?_⟩
    · obtain ⟨before, after, hsplit, hstate⟩ := mem_moments_iff.mp hmoment
      exact absurd (hstate ▸ hfinds.1) (hnever before _ hsplit)
    · exact hnever before after hsplit (hstuck [])

/-! ## Five failures -/

/-- A request that comes at a time and on which City2Graph fails or not. -/
def city2graphRequestAt (start : ℚ) (service : Except PyError Unit) : City2graphRequest where
  env := { healthyOrtools with city2graphService := service }
  request :=
    { places := [[("lat", .float (-23)), ("lon", .float (-70))]]
      startDate := 1
      endDate := 1 }
  decision := { useCity2graph := true, complexityScore := 6 }
  start := start
  finish := start + 1

/-- Five requests within seconds on which City2Graph fails. -/
def fiveFailures : List City2graphRequest :=
  [1, 2, 3, 4, 5].map fun start : ℚ =>
    city2graphRequestAt start (.error (.exception "City2Graph is down"))

/-- Ten minutes after five failures City2Graph would work again, and is not asked. -/
theorem optimizeWithCity2graph_stays_stuck :
    ¬ (City2graphCircuitBreaker.fresh 5 300).Recovers
      (fiveFailures ++ [city2graphRequestAt 600 (.ok ())]) := by
  intro hrecovers
  have hopened : (runEnd City2graphRequest.step (City2graphCircuitBreaker.fresh 5 300)
      fiveFailures).state = .opened := by
    decide +kernel
  have hmoment : (runEnd City2graphRequest.step (City2graphCircuitBreaker.fresh 5 300)
      fiveFailures, city2graphRequestAt 600 (.ok ())) ∈
        moments City2graphRequest.step (City2graphCircuitBreaker.fresh 5 300)
          (fiveFailures ++ [city2graphRequestAt 600 (.ok ())]) :=
    mem_moments_iff.mpr ⟨fiveFailures, [], rfl, rfl⟩
  obtain ⟨admitted, hgate, -⟩ := hrecovers.probes _ hmoment
    ⟨hopened, 6, by decide +kernel, by decide +kernel⟩
  rw [City2graphCircuitBreaker.gate_of_opened hopened] at hgate
  cases hgate

end Goveling.Optimizer
