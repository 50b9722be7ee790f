/-
# The parallel optimizer

`ORToolsParallelOptimizer` gives every task of a batch to a worker process, or
works the tasks off one after the other. Both ways call the OR-Tools service
inside of a `try` and report an exception as a failed task. The methods they
call are not methods of the service, so what the service would have answered
never gets into a result.
-/

import Goveling.Python.Value

namespace Goveling.Ortools.Parallel

open Goveling.Python

/-! ## Tasks and results -/

/-- The fields of an `OptimizationTask` that are read when it is worked off. -/
structure OptimizationTask where
  taskId : String
  places : List PyDict
  preferences : PyDict

/-- `OptimizationResult`. -/
structure OptimizationResult where
  taskId : String
  success : Bool
  resultData : Option PyDict
  errorMessage : Option String
  executionTimeMs : ℚ
  workerId : String
  source : String

/-! ## The service -/

/-- The names of the methods of `City2GraphORToolsService`. -/
def serviceMethods : List String :=
  ["__init__", "initialize", "is_healthy", "_quick_health_test", "get_distance_matrix",
    "_create_euclidean_matrix", "_haversine_distance", "optimize_with_ortools",
    "_execute_ortools_optimization", "_generate_metrics", "get_service_status"]

/-- A service object as a task finds it: the methods it has, and what they answer to keyword
arguments. -/
structure ServiceObject where
  methods : List String
  answer : String → PyDict → Except PyError PyDict

/-- An instance of `City2GraphORToolsService` whose methods answer like this. -/
def ServiceObject.city2graph (answer : String → PyDict → Except PyError PyDict) :
    ServiceObject where
  methods := serviceMethods
  answer := answer

/-- What Python says of a method that the service does not have. -/
def missingMethod (name : String) : String :=
  "'City2GraphORToolsService' object has no attribute '" ++ name ++ "'"

/-- The attribute of the service with a name, called with keyword arguments. -/
def ServiceObject.call (service : ServiceObject) (name : String) (arguments : PyDict) :
    Except PyError PyDict :=
  if name ∈ service.methods then service.answer name arguments
  else .error (.attributeError (missingMethod name))

/-- The places and the preferences of a task. -/
def OptimizationTask.request (task : OptimizationTask) : PyDict :=
  [("places", .list (task.places.map .dict)), ("preferences", .dict task.preferences)]

/-- What the service answers to the request of a task. -/
def ServiceObject.optimizes (service : ServiceObject) (task : OptimizationTask) :
    Except PyError PyDict :=
  service.call "optimize_with_ortools" [("request", .dict task.request)]

/-! ## Workers -/

/-- How a future of the pool ends: with what the worker returns, not within 30 seconds, or with
an exception of the pool itself. A worker is known by its process and may fail to create the
service. -/
inductive PoolOutcome
  | finished (workerId : String) (creates : Except PyError Unit) (executionTimeMs : ℚ)
  | timedOut
  | raised (e : PyError)

/-- A task with the service it finds and what happens to it on either way. -/
structure TaskRun where
  task : OptimizationTask
  service : ServiceObject
  pool : PoolOutcome
  sequentialTimeMs : ℚ

/-- The result of a task whose call ended like this. -/
def resultOf (task : OptimizationTask) (outcome : Except PyError PyDict) (executionTimeMs : ℚ)
    (workerId source : String) : OptimizationResult :=
  match outcome with
  | .ok data =>
      { taskId := task.taskId
        success := true
        resultData := some data
        errorMessage := none
        executionTimeMs := executionTimeMs
        workerId := workerId
        source := source }
  | .error e =>
      { taskId := task.taskId
        success := false
        resultData := none
        errorMessage := some e.text
        executionTimeMs := executionTimeMs
        workerId := workerId
        source := source }

/-- `_execute_optimization_in_worker`. -/
def executeOptimizationInWorker (service : ServiceObject) (workerId : String)
    (creates : Except PyError Unit) (executionTimeMs : ℚ) (task : OptimizationTask) :
    OptimizationResult :=
  resultOf task
    (do
      creates
      service.call "optimize_itinerary_sync" task.request)
    executionTimeMs workerId "parallel"

/-- One turn of the loop of `_process_parallel` over the futures. -/
def parallelResult (run : TaskRun) : OptimizationResult :=
  match run.pool with
  | .finished workerId creates executionTimeMs =>
      executeOptimizationInWorker run.service workerId creates executionTimeMs run.task
  | .timedOut =>
      { taskId := run.task.taskId
        success := false
        resultData := none
        errorMessage := some "Optimization timeout"
        executionTimeMs := 30000
        workerId := "timeout"
        source := "parallel" }
  | .raised e => resultOf run.task (.error e) 0 "error" "parallel"

/-- What `_process_sequential` appends for a task; the service may not come into being. -/
def sequentialResult (creates : Except PyError Unit) (run : TaskRun) : OptimizationResult :=
  match creates with
  | .error e =>
      resultOf run.task
        (.error (.exception ("OR-Tools service initialization failed: " ++ e.text)))
        0 "main_thread" "sequential"
  | .ok () =>
      resultOf run.task (run.service.call "optimize_itinerary_async" run.task.request)
        run.sequentialTimeMs "main_thread" "sequential"

/-- The tasks of a batch, and how the processes around it behave: whether the main process can
create the service, whether the pool takes the tasks, and how long the batch takes. -/
structure Batch where
  runs : List TaskRun
  creates : Except PyError Unit := .ok ()
  accepts : Except PyError Unit := .ok ()
  totalTimeMs : ℚ := 0

/-- The tasks of a batch. -/
def Batch.tasks (batch : Batch) : List OptimizationTask := batch.runs.map TaskRun.task

@[simp]
theorem taskId_resultOf (task : OptimizationTask) (outcome : Except PyError PyDict) (ms : ℚ)
    (workerId source : String) :
    (resultOf task outcome ms workerId source).taskId = task.taskId := by
  cases outcome <;> rfl

theorem taskId_parallelResult (run : TaskRun) : (parallelResult run).taskId = run.task.taskId := by
  unfold parallelResult
  split
  · exact taskId_resultOf _ _ _ _ _
  · rfl
  · exact taskId_resultOf _ _ _ _ _

theorem taskId_sequentialResult (creates : Except PyError Unit) (run : TaskRun) :
    (sequentialResult creates run).taskId = run.task.taskId := by
  unfold sequentialResult
  split <;> exact taskId_resultOf _ _ _ _ _

/-- The task finds an instance of `City2GraphORToolsService`. -/
structure City2graphRun where
  task : OptimizationTask
  answer : String → PyDict → Except PyError PyDict
  pool : PoolOutcome
  sequentialTimeMs : ℚ

/-- What happens to the task. -/
def City2graphRun.toTaskRun (run : City2graphRun) : TaskRun where
  task := run.task
  service := .city2graph run.answer
  pool := run.pool
  sequentialTimeMs := run.sequentialTimeMs

/-- What the service answers to the request of the task. -/
def City2graphRun.optimizes (run : City2graphRun) : Except PyError PyDict :=
  (ServiceObject.city2graph run.answer).optimizes run.task

/-- The result is a success with what the service answers, if it answers. -/
def City2graphRun.CarriedBy (run : City2graphRun) (result : OptimizationResult) : Prop :=
  ∀ data, run.optimizes = .ok data → result.success = true ∧ result.resultData = some data

/-- Two results of a task say the same of its optimization. -/
structure SameOutcome (first second : OptimizationResult) : Prop where
  taskId : first.taskId = second.taskId
  success : first.success = second.success
  resultData : first.resultData = second.resultData
  errorMessage : first.errorMessage = second.errorMessage

/-- Both ways carry the answers of the service for the tasks. -/
def CarriesAnswers (creates : Except PyError Unit) (runs : List City2graphRun) : Prop :=
  ∀ run ∈ runs, run.CarriedBy (parallelResult run.toTaskRun) ∧
    run.CarriedBy (sequentialResult creates run.toTaskRun)

/-- A task whose worker creates the service and returns in time. -/
structure CompletedRun where
  task : OptimizationTask
  answer : String → PyDict → Except PyError PyDict
  workerId : String
  executionTimeMs : ℚ
  sequentialTimeMs : ℚ

/-- What happens to the task, and nothing else. -/
def CompletedRun.toCity2graphRun (run : CompletedRun) : City2graphRun where
  task := run.task
  answer := run.answer
  pool := .finished run.workerId (.ok ()) run.executionTimeMs
  sequentialTimeMs := run.sequentialTimeMs

/-- Both ways carry the answers of the service, and their results do not differ. -/
structure MeetsService (creates : Except PyError Unit) (runs : List City2graphRun) : Prop where
  carries : CarriesAnswers creates runs
  same : ∀ run ∈ runs, SameOutcome (parallelResult run.toTaskRun)
    (sequentialResult creates run.toTaskRun)

/-- How the failure of a task in the pool reads: that of a worker, or that of the pool itself. -/
def PoolOutcome.failureText : PoolOutcome → String
  | .finished _ (.ok ()) _ => missingMethod "optimize_itinerary_sync"
  | .finished _ (.error e) _ => e.text
  | .timedOut => "Optimization timeout"
  | .raised e => e.text

/-- How the failure of a task in the main process reads. -/
def sequentialFailureText : Except PyError Unit → String
  | .ok () => missingMethod "optimize_itinerary_async"
  | .error e => "OR-Tools service initialization failed: " ++ e.text

/-- The service has neither of the methods that are called. -/
theorem call_city2graph_of_not_mem (answer : String → PyDict → Except PyError PyDict)
    {name : String} (hname : name ∉ serviceMethods) (arguments : PyDict) :
    (ServiceObject.city2graph answer).call name arguments =
      .error (.attributeError (missingMethod name)) :=
  if_neg hname

/-- A result that says that the task failed, and how. -/
structure OptimizationResult.FailedWith (result : OptimizationResult) (text : String) : Prop where
  success : result.success = false
  resultData : result.resultData = none
  errorMessage : result.errorMessage = some text

theorem failedWith_resultOf_error (task : OptimizationTask) (e : PyError) (ms : ℚ)
    (workerId source : String) :
    (resultOf task (.error e) ms workerId source).FailedWith e.text :=
  ⟨rfl, rfl, rfl⟩

/-- No worker reports a success. -/
theorem failedWith_parallelResult (run : City2graphRun) :
    (parallelResult run.toTaskRun).FailedWith run.pool.failureText := by
  obtain ⟨task, answer, pool, sequentialTimeMs⟩ := run
  cases pool with
  | finished workerId creates ms =>
      cases creates with
      | error e => exact failedWith_resultOf_error task e ms workerId "parallel"
      | ok created =>
          unfold parallelResult executeOptimizationInWorker City2graphRun.toTaskRun
          dsimp only
          rw [call_city2graph_of_not_mem answer (by decide)]
          exact failedWith_resultOf_error task _ ms workerId "parallel"
  | timedOut => exact ⟨rfl, rfl, rfl⟩
  | raised e => exact failedWith_resultOf_error task e 0 "error" "parallel"

/-- Nor does the main process. -/
theorem failedWith_sequentialResult (creates : Except PyError Unit) (run : City2graphRun) :
    (sequentialResult creates run.toTaskRun).FailedWith (sequentialFailureText creates) := by
  cases creates with
  | error e => exact failedWith_resultOf_error run.task _ 0 "main_thread" "sequential"
  | ok created =>
      unfold sequentialResult City2graphRun.toTaskRun
      dsimp only
      rw [call_city2graph_of_not_mem run.answer (by decide)]
      exact failedWith_resultOf_error run.task _ _ "main_thread" "sequential"

/-- A failed result carries an answer only if there is none. -/
theorem carriedBy_iff_of_failedWith {run : City2graphRun} {result : OptimizationResult}
    {text : String} (hfailed : result.FailedWith text) :
    run.CarriedBy result ↔ ∀ data, run.optimizes ≠ .ok data := by
  constructor
  · intro hcarries data hanswer
    have hsuccess : result.success = true := (hcarries data hanswer).1
    rw [hfailed.success] at hsuccess
    cases hsuccess
  · intro hnone data hanswer
    exact absurd hanswer (hnone data)

/-- The answers are carried exactly when there are none. -/
theorem carriesAnswers_iff (creates : Except PyError Unit) (runs : List City2graphRun) :
    CarriesAnswers creates runs ↔ ∀ run ∈ runs, ∀ data, run.optimizes ≠ .ok data := by
  apply forall₂_congr
  intro run _
  rw [carriedBy_iff_of_failedWith (failedWith_parallelResult run),
    carriedBy_iff_of_failedWith (failedWith_sequentialResult creates run), and_self_iff]

/-- Two failures of a task differ by what they say. -/
theorem sameOutcome_iff (creates : Except PyError Unit) (run : City2graphRun) :
    SameOutcome (parallelResult run.toTaskRun) (sequentialResult creates run.toTaskRun) ↔
      run.pool.failureText = sequentialFailureText creates := by
  have hparallel := failedWith_parallelResult run
  have hsequential := failedWith_sequentialResult creates run
  constructor
  · intro hsame
    have hmessages := hsame.errorMessage
    rw [hparallel.errorMessage, hsequential.errorMessage] at hmessages
    exact Option.some.inj hmessages
  · intro htext
    exact
      { taskId := (taskId_parallelResult _).trans (taskId_sequentialResult creates _).symm
        success := hparallel.success.trans hsequential.success.symm
        resultData := hparallel.resultData.trans hsequential.resultData.symm
        errorMessage := by
          rw [hparallel.errorMessage, hsequential.errorMessage, htext] }

theorem meetsService_iff (creates : Except PyError Unit) (runs : List City2graphRun) :
    MeetsService creates runs ↔ (∀ run ∈ runs, ∀ data, run.optimizes ≠ .ok data) ∧
      ∀ run ∈ runs, run.pool.failureText = sequentialFailureText creates := by
  rw [← carriesAnswers_iff creates runs]
  constructor
  · rintro ⟨hcarries, hsame⟩
    exact ⟨hcarries, fun run hrun => (sameOutcome_iff creates run).mp (hsame run hrun)⟩
  · rintro ⟨hcarries, htexts⟩
    exact ⟨hcarries, fun run hrun => (sameOutcome_iff creates run).mpr (htexts run hrun)⟩

/-- The two ways look for methods with different names, and say so. -/
theorem failureText_completed (run : CompletedRun) :
    run.toCity2graphRun.pool.failureText ≠ sequentialFailureText (.ok ()) := by
  show missingMethod "optimize_itinerary_sync" ≠ missingMethod "optimize_itinerary_async"
  decide

/-- Whatever happens to the tasks of a batch, the results carry the answers of the service and are
the same on both ways exactly when the service answers none of the tasks and both ways fail with the
same text; where the workers complete, only for a batch without tasks. -/
theorem meetsService_iff_failAlike (creates : Except PyError Unit) (runs : List City2graphRun)
    (completed : List CompletedRun) :
    (MeetsService creates runs ↔ (∀ run ∈ runs, ∀ data, run.optimizes ≠ .ok data) ∧
        ∀ run ∈ runs, run.pool.failureText = sequentialFailureText creates) ∧
      (MeetsService (.ok ()) (completed.map CompletedRun.toCity2graphRun) ↔ completed = []) := by
  refine ⟨meetsService_iff creates runs, fun hmeets => ?_, ?_⟩
  · have htexts := ((meetsService_iff _ _).mp hmeets).2
    cases completed with
    | nil => rfl
    | cons run rest =>
        exact absurd (htexts _ List.mem_cons_self) (failureText_completed run)
  · rintro rfl
    exact (meetsService_iff _ _).mpr ⟨by simp, by simp⟩

/-! ## A task that the service answers -/

/-- A task without places for a service that answers every request with an empty itinerary; its
worker takes ten milliseconds. -/
def CompletedRun.placeless : CompletedRun where
  task := { taskId := "batch_0", places := [], preferences := [] }
  answer := fun _ _ => .ok [("success", .bool true), ("days", .list [])]
  workerId := "worker_1"
  executionTimeMs := 10
  sequentialTimeMs := 10

/-- The service answers the task, and both ways report it as a failure. -/
theorem not_meetsService_placeless :
    CompletedRun.placeless.toCity2graphRun.optimizes =
        .ok [("success", .bool true), ("days", .list [])] ∧
      ¬MeetsService (.ok ()) [CompletedRun.placeless.toCity2graphRun] := by
  refine ⟨rfl, fun hmeets => ?_⟩
  have hcarries := hmeets.carries CompletedRun.placeless.toCity2graphRun
    (List.mem_singleton.mpr rfl)
  have hsuccess := (hcarries.1 _ rfl).1
  rw [(failedWith_parallelResult CompletedRun.placeless.toCity2graphRun).success] at hsuccess
  cases hsuccess

end Goveling.Ortools.Parallel
