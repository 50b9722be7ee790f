/-
# The statistics of the parallel optimizer

A batch is recorded when its results are there: the counters of the optimizer
move on, its rates are weighted by the size of the batch, and every result moves
the averages of its worker. No await lies between these steps, so batches that
overlap are recorded one after the other. The averages are the means of the
outcomes recorded so far, whatever failed and wherever.
-/

import Goveling.Math.OrderedMap
import Goveling.Math.RunningMean
import Goveling.Math.Runs
import Goveling.Ortools.ParallelOptimizer

namespace Goveling.Ortools.Parallel

open Goveling.Math Goveling.Python

/-! ## Statistics -/

/-- The statistics of a worker, without the time of its last optimization. -/
structure WorkerStats where
  optimizationsCompleted : ℕ := 0
  avgExecutionTimeMs : ℚ := 0
  successRate : ℚ := 1

/-- An entry of `worker_health`, without the time of the last failure. -/
structure WorkerHealth where
  healthy : Bool := true
  failures : ℕ := 0

/-- The statistics of the optimizer. -/
structure GlobalStats where
  totalOptimizations : ℕ := 0
  parallelOptimizations : ℕ := 0
  sequentialOptimizations : ℕ := 0
  avgExecutionTimeMs : ℚ := 0
  totalExecutionTimeMs : ℚ := 0
  successRate : ℚ := 0

/-- What an `ORToolsParallelOptimizer` keeps between batches. -/
structure OptimizerState where
  stats : GlobalStats := {}
  workerStats : OrderedMap String WorkerStats := .empty
  workerHealth : OrderedMap String WorkerHealth := .empty

/-- A success counts one. -/
def OptimizationResult.rate (result : OptimizationResult) : ℚ := if result.success then 1 else 0

/-- The statistics of a worker after a result. -/
def WorkerStats.record (stats : WorkerStats) (result : OptimizationResult) : WorkerStats :=
  let completed := stats.optimizationsCompleted + 1
  { optimizationsCompleted := completed
    avgExecutionTimeMs :=
      (stats.avgExecutionTimeMs * ((completed : ℚ) - 1) + result.executionTimeMs) / completed
    successRate :=
      if result.success then (stats.successRate * ((completed : ℚ) - 1) + 1) / completed
      else (stats.successRate * ((completed : ℚ) - 1) + 0) / completed }

/-- The health of a worker after a failure. -/
def WorkerHealth.fail (health : WorkerHealth) : WorkerHealth :=
  let failures := health.failures + 1
  { failures := failures
    healthy := if 3 < failures then false else health.healthy }

/-- `_update_worker_stats`. -/
def updateWorkerStats (state : OptimizerState) (result : OptimizationResult) : OptimizerState :=
  let stats := (state.workerStats.get? result.workerId).getD {}
  { state with
    workerStats := state.workerStats.set result.workerId (stats.record result)
    workerHealth :=
      if result.success then state.workerHealth
      else state.workerHealth.modify result.workerId WorkerHealth.fail }

/-- The global part of `_update_global_stats`. -/
def GlobalStats.record (stats : GlobalStats) (results : List OptimizationResult)
    (totalTimeMs : ℚ) : GlobalStats :=
  let total := stats.totalOptimizations + results.length
  let successful := results.countP OptimizationResult.success
  let currentSuccessRate : ℚ := if results = [] then 0 else successful / results.length
  if 0 < total then
    let prevWeight := ((total : ℚ) - results.length) / total
    let newWeight := (results.length : ℚ) / total
    { stats with
      totalOptimizations := total
      successRate := stats.successRate * prevWeight + currentSuccessRate * newWeight
      totalExecutionTimeMs := stats.totalExecutionTimeMs + totalTimeMs
      avgExecutionTimeMs := (stats.totalExecutionTimeMs + totalTimeMs) / total }
  else { stats with totalOptimizations := total }

/-- `_update_global_stats`. -/
def updateGlobalStats (state : OptimizerState) (results : List OptimizationResult)
    (totalTimeMs : ℚ) : OptimizerState :=
  results.foldl updateWorkerStats { state with stats := state.stats.record results totalTimeMs }

/-- An optimizer with the tasks of the batches it has returned, their results and their times. -/
structure OptimizerLog where
  state : OptimizerState
  tasks : List OptimizationTask := []
  results : List OptimizationResult := []
  times : List ℚ := []

/-- The results of a worker. -/
def resultsOf (workerId : String) (results : List OptimizationResult) :
    List OptimizationResult :=
  results.filter fun result => result.workerId = workerId

/-- The counts and averages of a worker are those of its results. -/
structure WorkerExact (results : List OptimizationResult) (stats : WorkerStats) : Prop where
  completed : stats.optimizationsCompleted = results.length
  avgExecutionTime :
    results ≠ [] →
      stats.avgExecutionTimeMs = Math.mean (results.map OptimizationResult.executionTimeMs)
  successRate : results ≠ [] → stats.successRate = Math.mean (results.map OptimizationResult.rate)

/-- The statistics of a worker while results come in. -/
structure WorkerMeans (results : List OptimizationResult) (stats : WorkerStats) : Prop where
  completed : stats.optimizationsCompleted = results.length
  avgExecutionTime :
    IsMean (results.map OptimizationResult.executionTimeMs) stats.avgExecutionTimeMs
  successRate : IsMean (results.map OptimizationResult.rate) stats.successRate

theorem WorkerMeans.exact {results : List OptimizationResult} {stats : WorkerStats}
    (hmeans : WorkerMeans results stats) : WorkerExact results stats where
  completed := hmeans.completed
  avgExecutionTime := fun hne => hmeans.avgExecutionTime.eq_mean (by simpa using hne)
  successRate := fun hne => hmeans.successRate.eq_mean (by simpa using hne)

/-- A result is recorded in the statistics of its worker. -/
theorem WorkerMeans.record {results : List OptimizationResult} {stats : WorkerStats}
    (hmeans : WorkerMeans results stats) (result : OptimizationResult) :
    WorkerMeans (results ++ [result]) (stats.record result) := by
  have htime := hmeans.avgExecutionTime.push result.executionTimeMs
  have hrate := hmeans.successRate.push result.rate
  rw [List.length_map, ← hmeans.completed] at htime hrate
  refine ⟨?_, ?_, ?_⟩
  · simp [WorkerStats.record, hmeans.completed]
  · simpa [WorkerStats.record] using htime
  · cases hsuccess : result.success with
    | true => simpa [WorkerStats.record, OptimizationResult.rate, hsuccess] using hrate
    | false => simpa [WorkerStats.record, OptimizationResult.rate, hsuccess] using hrate

theorem resultsOf_append (workerId : String) (results others : List OptimizationResult) :
    resultsOf workerId (results ++ others) =
      resultsOf workerId results ++ resultsOf workerId others :=
  List.filter_append _ _

/-- The statistics of all workers while results come in. -/
structure WorkersMeans (results : List OptimizationResult)
    (workerStats : OrderedMap String WorkerStats) : Prop where
  workers : ∀ workerId,
    WorkerMeans (resultsOf workerId results) ((workerStats.get? workerId).getD {})
  counts : (workerStats.values.map WorkerStats.optimizationsCompleted).sum = results.length

/-- A result moves the statistics of its worker and leaves the others alone. -/
theorem WorkersMeans.update {results : List OptimizationResult} {state : OptimizerState}
    (hmeans : WorkersMeans results state.workerStats) (result : OptimizationResult) :
    WorkersMeans (results ++ [result]) (updateWorkerStats state result).workerStats := by
  constructor
  · intro workerId
    rw [resultsOf_append, updateWorkerStats, OrderedMap.get?_set]
    by_cases hworker : workerId = result.workerId
    · subst hworker
      have hown : resultsOf result.workerId [result] = [result] := by simp [resultsOf]
      rw [if_pos rfl, hown]
      exact (hmeans.workers result.workerId).record result
    · have hother : resultsOf workerId [result] = [] := by
        simp [resultsOf, Ne.symm hworker]
      rw [if_neg hworker, hother, List.append_nil]
      exact hmeans.workers workerId
  · have hsum := OrderedMap.sum_map_values_set WorkerStats.optimizationsCompleted
      state.workerStats result.workerId
      (((state.workerStats.get? result.workerId).getD {}).record result)
    have hold : ((state.workerStats.get? result.workerId).map
        WorkerStats.optimizationsCompleted).getD 0 =
        ((state.workerStats.get? result.workerId).getD {}).optimizationsCompleted := by
      cases state.workerStats.get? result.workerId <;> rfl
    have hnew : (((state.workerStats.get? result.workerId).getD {}).record
        result).optimizationsCompleted =
        ((state.workerStats.get? result.workerId).getD {}).optimizationsCompleted + 1 := rfl
    rw [hold, hnew, hmeans.counts] at hsum
    have hset : (updateWorkerStats state result).workerStats =
        state.workerStats.set result.workerId
          (((state.workerStats.get? result.workerId).getD {}).record result) := rfl
    rw [List.length_append, List.length_singleton, hset]
    omega

theorem WorkersMeans.updateAll {results : List OptimizationResult} {state : OptimizerState}
    (hmeans : WorkersMeans results state.workerStats) (others : List OptimizationResult) :
    WorkersMeans (results ++ others) (others.foldl updateWorkerStats state).workerStats := by
  induction others generalizing results state with
  | nil => simpa using hmeans
  | cons result rest ih =>
      rw [List.foldl_cons, ← List.singleton_append, ← List.append_assoc]
      exact ih (hmeans.update result)

/-- Recording results for the workers does not touch the global statistics. -/
theorem stats_foldl_updateWorkerStats (state : OptimizerState) (results : List OptimizationResult) :
    (results.foldl updateWorkerStats state).stats = state.stats := by
  induction results generalizing state with
  | nil => rfl
  | cons result rest ih => exact ih (updateWorkerStats state result)

theorem sum_rates (results : List OptimizationResult) :
    (results.map OptimizationResult.rate).sum =
      (results.countP OptimizationResult.success : ℕ) := by
  induction results with
  | nil => rfl
  | cons result rest ih =>
      rw [List.map_cons, List.sum_cons, ih, List.countP_cons]
      cases hsuccess : result.success with
      | true => simp [OptimizationResult.rate, hsuccess, add_comm]
      | false => simp [OptimizationResult.rate, hsuccess]

/-- The share of successes of a batch is the mean of its rates. -/
theorem isMean_rates {results : List OptimizationResult} (hne : results ≠ []) :
    IsMean (results.map OptimizationResult.rate)
      ((results.countP OptimizationResult.success : ℚ) / results.length) := by
  have hlength : (results.length : ℚ) ≠ 0 :=
    Nat.cast_ne_zero.mpr fun hzero => hne (List.length_eq_zero_iff.mp hzero)
  rw [IsMean, List.length_map, div_mul_cancel₀ _ hlength, sum_rates]

/-- The results of a batch are recorded in the global statistics. -/
theorem GlobalStats.isMean_record {stats : GlobalStats} {past results : List OptimizationResult}
    (htotal : stats.totalOptimizations = past.length)
    (hrate : IsMean (past.map OptimizationResult.rate) stats.successRate) (hne : results ≠ [])
    (totalTimeMs : ℚ) :
    IsMean ((past ++ results).map OptimizationResult.rate)
      (stats.record results totalTimeMs).successRate := by
  have hsome : 0 < past.length + results.length :=
    Nat.add_pos_right _ (List.length_pos_of_ne_nil hne)
  have hmean := hrate.append (isMean_rates hne) (by simp [hne])
  rw [← List.map_append] at hmean
  simpa [GlobalStats.record, htotal, hsome, hne] using hmean

/-- What an optimizer has recorded. -/
structure LogKept (log : OptimizerLog) : Prop where
  perTask : log.results.map OptimizationResult.taskId = log.tasks.map OptimizationTask.taskId
  total : log.state.stats.totalOptimizations = log.results.length
  counts : log.state.stats.parallelOptimizations + log.state.stats.sequentialOptimizations =
    log.tasks.length
  successRate : IsMean (log.results.map OptimizationResult.rate) log.state.stats.successRate
  totalTime : log.state.stats.totalExecutionTimeMs = log.times.sum
  avgExecutionTime : log.results ≠ [] →
    log.state.stats.avgExecutionTimeMs =
      log.state.stats.totalExecutionTimeMs / log.state.stats.totalOptimizations
  workers : WorkersMeans log.results log.state.workerStats

theorem LogKept.length {log : OptimizerLog} (hlog : LogKept log) :
    log.results.length = log.tasks.length := by
  simpa using congrArg List.length hlog.perTask

/-- The results of a batch with tasks are recorded, whichever counter its tasks went to. -/
theorem LogKept.record {log : OptimizerLog} (hlog : LogKept log) {batch : Batch}
    {results : List OptimizationResult} {stats : GlobalStats}
    (hresults : results.map OptimizationResult.taskId = batch.tasks.map OptimizationTask.taskId)
    (hne : results ≠ []) (htotal : stats.totalOptimizations = log.state.stats.totalOptimizations)
    (hrate : stats.successRate = log.state.stats.successRate)
    (htime : stats.totalExecutionTimeMs = log.state.stats.totalExecutionTimeMs)
    (hcounts : stats.parallelOptimizations + stats.sequentialOptimizations =
      log.state.stats.parallelOptimizations + log.state.stats.sequentialOptimizations +
        batch.tasks.length) :
    LogKept
      { state := updateGlobalStats { log.state with stats := stats } results batch.totalTimeMs
        tasks := log.tasks ++ batch.tasks
        results := log.results ++ results
        times := log.times ++ [batch.totalTimeMs] } := by
  have hlength : 0 < results.length := List.length_pos_of_ne_nil hne
  have hstats : (updateGlobalStats { log.state with stats := stats } results
      batch.totalTimeMs).stats = stats.record results batch.totalTimeMs :=
    stats_foldl_updateWorkerStats _ results
  have hrecorded : stats.totalOptimizations = log.results.length := htotal.trans hlog.total
  refine ⟨?_, ?_, ?_, ?_, ?_, ?_, ?_⟩
  · rw [List.map_append, List.map_append, hlog.perTask, hresults]
  · rw [hstats]
    simp [GlobalStats.record, hrecorded, hlength]
  · rw [hstats, List.length_append, ← hlog.counts]
    simpa [GlobalStats.record, hlength] using hcounts
  · rw [hstats]
    exact GlobalStats.isMean_record hrecorded (hrate ▸ hlog.successRate) hne _
  · rw [hstats, List.sum_append, List.sum_singleton, ← hlog.totalTime, ← htime]
    simp [GlobalStats.record, hlength]
  · intro _
    rw [hstats]
    simp [GlobalStats.record, hlength]
  · have hworkers : WorkersMeans log.results
        { log.state with stats := stats.record results batch.totalTimeMs }.workerStats :=
      hlog.workers
    exact hworkers.updateAll results

section Batches

variable {settings : OptimizerSettings}

end Batches

end Goveling.Ortools.Parallel
