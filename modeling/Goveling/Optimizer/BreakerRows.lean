/-
# What opens the breakers of the two optimizers

The breakers of City2Graph and of OR-Tools are meant to open after so many failures in a row.
Both reset their count when a probe succeeds and at no other success, so failures with any number
of successes between them add up. Along every run, with calls that overlap, they open only after
a row of failures as long as no success finds failures counted by a breaker that is not probing.
-/

import Goveling.Math.FailureRows
import Goveling.Optimizer.City2graphRuns
import Goveling.Optimizer.OrtoolsService

namespace Goveling.Optimizer

open Goveling.Math Goveling.Python

/-! ## City2Graph -/

namespace City2graphCircuitBreaker

/-- A breaker before its first call. -/
def create (failureThreshold : ℕ) (recoveryTimeout : ℚ) : City2graphCircuitBreaker :=
  { failureThreshold := failureThreshold, recoveryTimeout := recoveryTimeout }

/-- `call`, in the two parts between which the function runs. -/
def counting : CountingBreaker City2graphCircuitBreaker ℚ (Except PyError PyDict) where
  state := City2graphCircuitBreaker.state
  failureCount := City2graphCircuitBreaker.failureCount
  threshold := City2graphCircuitBreaker.failureThreshold
  allow := allow
  settle := settle
  failed outcome := outcome.toBool = false

theorem allow_eq_some {breaker admitted : City2graphCircuitBreaker} {now : ℚ}
    (hallow : breaker.allow now = some admitted) :
    admitted.failureCount = breaker.failureCount ∧ admitted.state ≠ .opened := by
  simp only [allow] at hallow
  split at hallow
  · split at hallow
    · cases hallow
      refine ⟨rfl, ?_⟩
      intro hopened
      cases hopened
    · cases hallow
  · rename_i hother
    cases hallow
    exact ⟨rfl, hother⟩

theorem counting_countsFailures : CountsFailures counting where
  allow_count := fun hallow => (allow_eq_some hallow).1
  allow_state := fun hallow => (allow_eq_some hallow).2
  failed_count := by
    intro breaker now outcome hfailed
    cases outcome with
    | ok result => cases hfailed
    | error e => exact le_rfl
  failed_state := by
    intro breaker now outcome hfailed hbefore hafter
    cases outcome with
    | ok result => cases hfailed
    | error e => exact threshold_le_of_opens hbefore hafter
  worked_count := by
    intro breaker now outcome hworked
    cases outcome with
    | error e => cases hworked
    | ok result =>
        show (settle breaker now (.ok result)).failureCount = _
        simp only [settle, apply_ite City2graphCircuitBreaker.failureCount]
        rfl
  worked_state := by
    intro breaker now outcome hworked hbefore
    cases outcome with
    | error e => cases hworked
    | ok result =>
        show (settle breaker now (.ok result)).state ≠ .opened
        unfold settle
        dsimp only
        split
        · intro hopened
          cases hopened
        · exact hbefore

end City2graphCircuitBreaker

/-! ## OR-Tools -/

/-- How a function under the breaker of OR-Tools ends, and how long it took. -/
structure OrtoolsExecution where
  runSeconds : ℚ≥0
  outcome : Except PyError PyDict

namespace OrtoolsExecution

/-- What the breaker makes of it: a result that the monitor cannot read is a failure too. -/
def monitored (execution : OrtoolsExecution) : Except PyError PyDict := do
  let result ← execution.outcome
  monitorPerformance result
  .ok result

end OrtoolsExecution

namespace OrtoolsCircuitBreaker

/-- A breaker before its first call. -/
def create (failureThreshold : ℕ) (recoveryTimeout : ℚ) : OrtoolsCircuitBreaker :=
  { failureThreshold := failureThreshold, recoveryTimeout := recoveryTimeout }

/-- The head of `execute_ortools`: the breaker under which the function runs, if it does. -/
def allow (breaker : OrtoolsCircuitBreaker) (now : ℚ) : Option OrtoolsCircuitBreaker :=
  match breaker.permitOrtools now with
  | .ok admitted => some { admitted with totalExecutions := admitted.totalExecutions + 1 }
  | .error _ => none

/-- The breaker after the function has returned or raised. A success is recorded before the
monitor looks at the result. -/
def settle (admitted : OrtoolsCircuitBreaker) (finish : ℚ) (execution : OrtoolsExecution) :
    OrtoolsCircuitBreaker :=
  match execution.outcome with
  | .error _ => admitted.recordFailure finish
  | .ok result =>
      let recorded := admitted.recordSuccess (execution.runSeconds * 1000)
      match monitorPerformance result with
      | .ok () => recorded
      | .error _ => recorded.recordFailure finish

/-- `execute_ortools` admits, runs and settles. -/
theorem breaker_executeOrtools (breaker : OrtoolsCircuitBreaker) (times : CallTimes)
    (outcome : Except PyError PyDict) :
    (breaker.executeOrtools times outcome).2 =
      match breaker.allow times.startTime with
      | none => breaker
      | some admitted => admitted.settle times.finish ⟨times.runSeconds, outcome⟩ := by
  unfold executeOrtools allow
  cases breaker.permitOrtools times.startTime with
  | error e => rfl
  | ok admitted =>
      cases outcome with
      | error e => rfl
      | ok result =>
          simp only [settle]
          cases monitorPerformance result <;> rfl

/-- `execute_ortools`, in the two parts between which the function runs. -/
def counting : CountingBreaker OrtoolsCircuitBreaker ℚ OrtoolsExecution where
  state := OrtoolsCircuitBreaker.state
  failureCount := OrtoolsCircuitBreaker.failureCount
  threshold := OrtoolsCircuitBreaker.failureThreshold
  allow := allow
  settle := settle
  failed execution := execution.monitored.toBool = false

theorem allow_eq_some {breaker admitted : OrtoolsCircuitBreaker} {now : ℚ}
    (hallow : breaker.allow now = some admitted) :
    admitted.failureCount = breaker.failureCount ∧ admitted.state ≠ .opened := by
  unfold allow at hallow
  cases hpermit : breaker.permitOrtools now with
  | error e =>
      rw [hpermit] at hallow
      cases hallow
  | ok permitted =>
      rw [hpermit] at hallow
      cases hallow
      obtain ⟨hcount, -, hstate⟩ :=
        Breaker.permit_eq_some breaker.policy (core_permitOrtools hpermit)
      exact ⟨hcount, hstate⟩

theorem failureCount_recordSuccess (breaker : OrtoolsCircuitBreaker) (executionTimeMs : ℚ) :
    (breaker.recordSuccess executionTimeMs).failureCount =
      if breaker.state = .halfOpen then 0 else breaker.failureCount := by
  by_cases hhalf : breaker.state = .halfOpen <;>
    simp [recordSuccess, updateAvgExecutionTime, hhalf]

/-- A success opens no breaker. -/
theorem state_recordSuccess_ne {breaker : OrtoolsCircuitBreaker}
    (hbefore : breaker.state ≠ .opened) (executionTimeMs : ℚ) :
    (breaker.recordSuccess executionTimeMs).state ≠ .opened := by
  by_cases hhalf : breaker.state = .halfOpen <;>
    simp [recordSuccess, updateAvgExecutionTime, hhalf, hbefore]

/-- A call that failed is recorded as a failure, of the breaker as it was or as a success has
left it. -/
theorem settle_of_failed (breaker : OrtoolsCircuitBreaker) (now : ℚ)
    {execution : OrtoolsExecution} (hfailed : counting.failed execution = true) :
    breaker.settle now execution = breaker.recordFailure now ∨
      breaker.settle now execution =
        (breaker.recordSuccess (execution.runSeconds * 1000)).recordFailure now := by
  obtain ⟨seconds, outcome⟩ := execution
  cases outcome with
  | error e => exact .inl rfl
  | ok result =>
      cases hmonitor : monitorPerformance result with
      | ok _ =>
          exfalso
          simp [counting, OrtoolsExecution.monitored, hmonitor, bind, Except.bind,
            Except.toBool] at hfailed
      | error e =>
          apply Or.inr
          simp only [settle, hmonitor]

/-- A call that worked is recorded as a success. -/
theorem settle_of_worked (breaker : OrtoolsCircuitBreaker) (now : ℚ)
    {execution : OrtoolsExecution} (hworked : counting.failed execution = false) :
    breaker.settle now execution = breaker.recordSuccess (execution.runSeconds * 1000) := by
  obtain ⟨seconds, outcome⟩ := execution
  cases outcome with
  | error e => cases hworked
  | ok result =>
      cases hmonitor : monitorPerformance result with
      | ok _ => simp only [settle, hmonitor]
      | error e =>
          exfalso
          simp [counting, OrtoolsExecution.monitored, hmonitor, bind, Except.bind,
            Except.toBool] at hworked

theorem counting_countsFailures : CountsFailures counting where
  allow_count := fun hallow => (allow_eq_some hallow).1
  allow_state := fun hallow => (allow_eq_some hallow).2
  failed_count := by
    intro breaker now execution hfailed
    show (breaker.settle now execution).failureCount ≤ breaker.failureCount + 1
    rcases settle_of_failed breaker now hfailed with hsettle | hsettle
    · rw [hsettle]
      exact le_rfl
    · rw [hsettle]
      apply Nat.add_le_add_right
      rw [failureCount_recordSuccess]
      split
      · exact Nat.zero_le _
      · exact le_rfl
  failed_state := by
    intro breaker now execution hfailed hbefore hafter
    change (breaker.settle now execution).state = .opened at hafter
    show (breaker.settle now execution).failureThreshold ≤
      (breaker.settle now execution).failureCount
    rcases settle_of_failed breaker now hfailed with hsettle | hsettle
    · rw [hsettle] at hafter ⊢
      exact threshold_le_of_opens hbefore hafter
    · rw [hsettle] at hafter ⊢
      exact threshold_le_of_opens (state_recordSuccess_ne hbefore _) hafter
  worked_count := by
    intro breaker now execution hworked
    show (breaker.settle now execution).failureCount = _
    rw [settle_of_worked breaker now hworked, failureCount_recordSuccess]
    rfl
  worked_state := by
    intro breaker now execution hworked hbefore
    show (breaker.settle now execution).state ≠ .opened
    rw [settle_of_worked breaker now hworked]
    exact state_recordSuccess_ne hbefore _

end OrtoolsCircuitBreaker

/-! ## Runs -/

/-- Along every run of either breaker it opens only after so many failures in a row, and
successes reset it, exactly when every success finds no failure counted or answers a probe. -/
theorem breakers_openAfterRow_iff (failureThreshold : ℕ) (recoveryTimeout : ℚ)
    (calls : List (CallEvent ℚ (Except PyError PyDict)))
    (executions : List (CallEvent ℚ OrtoolsExecution)) :
    ((∀ moment ∈ City2graphCircuitBreaker.counting.run
          (.create failureThreshold recoveryTimeout) calls,
        City2graphCircuitBreaker.counting.OpensAfterRow moment) ↔
      ∀ moment ∈ City2graphCircuitBreaker.counting.run
          (.create failureThreshold recoveryTimeout) calls,
        City2graphCircuitBreaker.counting.SuccessFindsNothing moment) ∧
    ((∀ moment ∈ OrtoolsCircuitBreaker.counting.run
          (.create failureThreshold recoveryTimeout) executions,
        OrtoolsCircuitBreaker.counting.OpensAfterRow moment) ↔
      ∀ moment ∈ OrtoolsCircuitBreaker.counting.run
          (.create failureThreshold recoveryTimeout) executions,
        OrtoolsCircuitBreaker.counting.SuccessFindsNothing moment) :=
  ⟨CountingBreaker.opensAfterRow_run_iff City2graphCircuitBreaker.counting_countsFailures rfl calls,
    CountingBreaker.opensAfterRow_run_iff OrtoolsCircuitBreaker.counting_countsFailures rfl
      executions⟩

/-- A call that is let through and ends at once. -/
def callOnce {ω : Type} (now : ℚ) (outcome : ω) : List (CallEvent ℚ ω) :=
  [.ask now, .finish now outcome]

/-- Three days with a failure, and a call that works after each of the first two. -/
def isolatedFailures {ω : Type} (fails works : ω) : List (CallEvent ℚ ω) :=
  callOnce 0 fails ++ callOnce 86400 works ++ callOnce 172800 fails ++ callOnce 259200 works ++
    callOnce 345600 fails

/-- Three failures open both breakers at a threshold of three, although every failure is the first
after a success. -/
theorem not_openAfterRow_isolatedFailures :
    (¬ ∀ moment ∈ City2graphCircuitBreaker.counting.run (.create 3 300)
        (isolatedFailures (.error (.exception "timeout")) (.ok [])),
      City2graphCircuitBreaker.counting.OpensAfterRow moment) ∧
    ¬ ∀ moment ∈ OrtoolsCircuitBreaker.counting.run (.create 3 60)
        (isolatedFailures ⟨0, .error (.exception "timeout")⟩ ⟨0, .ok []⟩),
      OrtoolsCircuitBreaker.counting.OpensAfterRow moment := by
  constructor
  · intro hall
    have hlast := (hall _ (List.mem_of_getElem? (i := 9) rfl)).opens
    revert hlast
    decide +kernel
  · intro hall
    have hlast := (hall _ (List.mem_of_getElem? (i := 9) rfl)).opens
    revert hlast
    decide +kernel

end Goveling.Optimizer
