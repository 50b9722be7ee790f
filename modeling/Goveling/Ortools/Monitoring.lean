/-
# The windows of the production monitor

Every optimization that is recorded is remembered among the latest metrics, counted
in the current window, and may find that the window is over. Closing a window
computes its statistics and then calls a method that the class does not have: with
a metric of the window still remembered the call raises, the window stays, and the
next call finds it again. Only a window of which nothing is remembered is replaced.
-/

import Goveling.Math.OrderedMap
import Goveling.Math.Runs
import Goveling.Python.Value

namespace Goveling.Ortools

open Goveling.Math Goveling.Python

/-! ## Metrics and windows -/

/-- `OptimizationStatus`. -/
inductive OptimizationStatus
  | success | failure | timeout | error
  deriving DecidableEq, Repr

/-- `OptimizationMetric`. -/
structure OptimizationMetric where
  timestamp : ℚ
  method : String
  executionTimeMs : ℤ
  status : OptimizationStatus
  deriving DecidableEq

/-- `PerformanceWindow`. -/
structure PerformanceWindow where
  startTime : ℚ
  endTime : ℚ
  totalRequests : ℕ := 0
  successCount : ℕ := 0
  failureCount : ℕ := 0
  timeoutCount : ℕ := 0
  errorCount : ℕ := 0
  avgExecutionTime : ℚ := 0
  medianExecutionTime : ℚ := 0
  p95ExecutionTime : ℚ := 0
  ortoolsRequests : ℕ := 0
  legacyRequests : ℕ := 0
  ortoolsSuccessRate : ℚ := 0
  legacySuccessRate : ℚ := 0
  deriving DecidableEq

namespace PerformanceWindow

/-- `window.start_time <= now < window.end_time`. -/
def Contains (window : PerformanceWindow) (now : ℚ) : Prop :=
  window.startTime ≤ now ∧ now < window.endTime

instance (window : PerformanceWindow) (now : ℚ) : Decidable (window.Contains now) :=
  inferInstanceAs (Decidable (_ ∧ _))

/-- `_create_new_window`. -/
def createNew (windowSize now : ℚ) : PerformanceWindow where
  startTime := now
  endTime := now + windowSize

/-- `_update_current_window`. -/
def update (window : PerformanceWindow) (metric : OptimizationMetric) : PerformanceWindow :=
  let one (counts : Bool) : ℕ := if counts then 1 else 0
  { window with
    totalRequests := window.totalRequests + 1
    successCount := window.successCount + one (metric.status = .success)
    failureCount := window.failureCount + one (metric.status = .failure)
    timeoutCount := window.timeoutCount + one (metric.status = .timeout)
    errorCount := window.errorCount + one (metric.status = .error)
    ortoolsRequests := window.ortoolsRequests + one (metric.method = "ortools")
    legacyRequests := window.legacyRequests + one (metric.method ≠ "ortools") }

end PerformanceWindow

/-- What an alert is about. -/
inductive AlertType
  | successRate | avgExecutionTime | p95ExecutionTime | errorRate
  deriving DecidableEq, Repr

/-- An alert with the data that triggered it. -/
structure Alert where
  type : AlertType
  timestamp : ℚ
  severity : PyVal
  data : PyDict

/-- `ORToolsMonitoring`. Times are minutes. -/
structure ORToolsMonitoring where
  windowSize : ℚ
  maxMetrics : ℕ
  metrics : List OptimizationMetric
  currentWindow : PerformanceWindow
  dailyStats : OrderedMap String PerformanceWindow
  activeAlerts : OrderedMap AlertType Alert

/-- A call of `record_optimization`, with what its readings of the clock give: for the
metric, for the end of the window, for a new window and for alerts. -/
structure RecordCall where
  method : String
  executionTimeMs : ℤ
  status : OptimizationStatus
  recordedAt : ℚ
  checkedAt : ℚ
  createdAt : ℚ
  alertedAt : ℚ

/-- The readings of a clock that does not go back, after some time. -/
structure RecordCall.After (now : ℚ) (call : RecordCall) : Prop where
  recorded : now ≤ call.recordedAt
  checked : call.recordedAt ≤ call.checkedAt
  created : call.checkedAt ≤ call.createdAt
  alerted : call.createdAt ≤ call.alertedAt

/-- Calls one after the other. -/
def InOrder : ℚ → List RecordCall → Prop
  | _, [] => True
  | now, call :: rest => call.After now ∧ InOrder call.alertedAt rest

/-! ## Closing a window -/

/-- `statistics.mean` of a list that is not empty. -/
def mean (values : List ℤ) : ℚ := (values.sum : ℚ) / values.length

/-- `statistics.median` of a list that is not empty. -/
def median (values : List ℤ) : ℚ :=
  let sorted := sortedBy id values
  let middle := sorted.length / 2
  if sorted.length % 2 = 1 then sorted.getD middle 0
  else ((sorted.getD (middle - 1) 0 + sorted.getD middle 0 : ℤ) : ℚ) / 2

/-- `_calculate_percentile`. -/
def calculatePercentile (values : List ℤ) (percentile : ℚ) : ℚ :=
  if values = [] then 0
  else
    let sorted := sortedBy id values
    let index := ⌊(sorted.length : ℚ) * percentile⌋.toNat
    sorted.getD (min index (sorted.length - 1)) 0

/-- The share of successes among the metrics of a method, or the rate so far without any. -/
def successRate (metrics : List OptimizationMetric) (method : String) (soFar : ℚ) : ℚ :=
  let ofMethod := metrics.filter fun metric => metric.method = method
  if ofMethod = [] then soFar
  else (ofMethod.countP fun metric => metric.status = .success : ℚ) / ofMethod.length

/-- The window with the statistics of its metrics. -/
def PerformanceWindow.withStatistics (window : PerformanceWindow)
    (metrics : List OptimizationMetric) : PerformanceWindow :=
  let executionTimes := metrics.map OptimizationMetric.executionTimeMs
  { window with
    avgExecutionTime := mean executionTimes
    medianExecutionTime := median executionTimes
    p95ExecutionTime := calculatePercentile executionTimes (95 / 100)
    ortoolsSuccessRate := successRate metrics "ortools" window.ortoolsSuccessRate
    legacySuccessRate := successRate metrics "legacy" window.legacySuccessRate }

namespace ORToolsMonitoring

/-- The metrics that are remembered of the current window. -/
def windowMetrics (monitoring : ORToolsMonitoring) : List OptimizationMetric :=
  monitoring.metrics.filter fun metric => monitoring.currentWindow.Contains metric.timestamp

/-- The current window gets its statistics. -/
def withStatistics (monitoring : ORToolsMonitoring) : ORToolsMonitoring :=
  { monitoring with
    currentWindow := monitoring.currentWindow.withStatistics monitoring.windowMetrics }

/-- `_finalize_window` on the current window. The class has no `_create_daily_aggregate`. -/
def finalizeWindow (dayText : ℚ → String) (monitoring : ORToolsMonitoring) :
    Except PyError Unit × ORToolsMonitoring :=
  if monitoring.windowMetrics = [] then (.ok (), monitoring)
  else
    match monitoring.dailyStats.get? (dayText monitoring.currentWindow.startTime) with
    | some _ => (.ok (), monitoring.withStatistics)
    | none =>
        (.error (.attributeError
          "'ORToolsMonitoring' object has no attribute '_create_daily_aggregate'"),
          monitoring.withStatistics)

/-- A new window, from some time on. -/
def replaceWindow (monitoring : ORToolsMonitoring) (now : ℚ) : ORToolsMonitoring :=
  { monitoring with currentWindow := .createNew monitoring.windowSize now }

/-- `_check_window_rotation`. -/
def checkWindowRotation (dayText : ℚ → String) (monitoring : ORToolsMonitoring)
    (checkedAt createdAt : ℚ) : Except PyError Unit × ORToolsMonitoring :=
  if monitoring.currentWindow.endTime ≤ checkedAt then
    match monitoring.finalizeWindow dayText with
    | (.error e, finalized) => (.error e, finalized)
    | (.ok _, finalized) => (.ok (), finalized.replaceWindow createdAt)
  else (.ok (), monitoring)

end ORToolsMonitoring

/-! ## Alerts -/

/-- `count / total`. -/
def rate (count total : ℕ) : Except PyError ℚ :=
  if total = 0 then .error (.zeroDivisionError "division by zero") else .ok (count / total)

/-- `_check_success_rate_alert`. -/
def checkSuccessRateAlert (window : PerformanceWindow) : Except PyError (Option PyDict) := do
  let successRate ← rate window.successCount window.totalRequests
  return if successRate < 95 / 100 then
    some [("current_rate", .float successRate),
      ("threshold", .float (95 / 100)),
      ("failures", .int window.failureCount),
      ("total", .int window.totalRequests),
      ("severity", .str (if successRate < 8 / 10 then "HIGH" else "MEDIUM"))]
  else none

/-- `_check_avg_time_alert`. -/
def checkAvgTimeAlert (window : PerformanceWindow) : Except PyError (Option PyDict) :=
  .ok (if 5000 < window.avgExecutionTime then
    some [("current_time", .float window.avgExecutionTime),
      ("threshold", .int 5000),
      ("severity", .str "MEDIUM")]
  else none)

/-- `_check_p95_time_alert`. -/
def checkP95TimeAlert (window : PerformanceWindow) : Except PyError (Option PyDict) :=
  .ok (if 10000 < window.p95ExecutionTime then
    some [("current_time", .float window.p95ExecutionTime),
      ("threshold", .int 10000),
      ("severity", .str "HIGH")]
  else none)

/-- `_check_error_rate_alert`. -/
def checkErrorRateAlert (window : PerformanceWindow) : Except PyError (Option PyDict) := do
  let errorRate ← rate (window.errorCount + window.timeoutCount) window.totalRequests
  return if 5 / 100 < errorRate then
    some [("current_rate", .float errorRate),
      ("threshold", .float (5 / 100)),
      ("errors", .int window.errorCount),
      ("timeouts", .int window.timeoutCount),
      ("total", .int window.totalRequests),
      ("severity", .str "HIGH")]
  else none

/-- `alerts_to_check`. -/
def alertsToCheck : List (AlertType × (PerformanceWindow → Except PyError (Option PyDict))) :=
  [(.successRate, checkSuccessRateAlert), (.avgExecutionTime, checkAvgTimeAlert),
    (.p95ExecutionTime, checkP95TimeAlert), (.errorRate, checkErrorRateAlert)]

namespace ORToolsMonitoring

/-- `_trigger_alert`. -/
def triggerAlert (monitoring : ORToolsMonitoring) (type : AlertType) (data : PyDict) (now : ℚ) :
    ORToolsMonitoring :=
  { monitoring with
    activeAlerts := monitoring.activeAlerts.set type
      { type := type
        timestamp := now
        severity := PyDict.get data "severity" (.str "MEDIUM")
        data := data } }

/-- `_clear_alert`. -/
def clearAlert (monitoring : ORToolsMonitoring) (type : AlertType) : ORToolsMonitoring :=
  { monitoring with activeAlerts := monitoring.activeAlerts.erase type }

/-- One turn of the loop over the alerts. -/
def checkAlert (now : ℚ) (monitoring : ORToolsMonitoring)
    (alert : AlertType × (PerformanceWindow → Except PyError (Option PyDict))) :
    Except PyError ORToolsMonitoring := do
  match ← alert.2 monitoring.currentWindow with
  | some data => return monitoring.triggerAlert alert.1 data now
  | none => return monitoring.clearAlert alert.1

/-- `_check_alerts`. -/
def checkAlerts (monitoring : ORToolsMonitoring) (now : ℚ) : Except PyError ORToolsMonitoring :=
  if monitoring.currentWindow.totalRequests < 5 then .ok monitoring
  else alertsToCheck.foldlM (checkAlert now) monitoring

/-! ## Recording -/

/-- `self.metrics.append(metric)`: the oldest metric goes when there are too many. -/
def pushMetric (monitoring : ORToolsMonitoring) (metric : OptimizationMetric) :
    List OptimizationMetric :=
  let appended := monitoring.metrics ++ [metric]
  appended.drop (appended.length - monitoring.maxMetrics)

/-- The metric is remembered and counted. -/
def addMetric (monitoring : ORToolsMonitoring) (metric : OptimizationMetric) :
    ORToolsMonitoring :=
  { monitoring with
    metrics := monitoring.pushMetric metric
    currentWindow := monitoring.currentWindow.update metric }

/-- The monitor with the metric of a call. -/
def addCall (monitoring : ORToolsMonitoring) (call : RecordCall) : ORToolsMonitoring :=
  monitoring.addMetric
    { timestamp := call.recordedAt
      method := call.method
      executionTimeMs := call.executionTimeMs
      status := call.status }

/-- `record_optimization`. -/
def recordOptimization (dayText : ℚ → String) (monitoring : ORToolsMonitoring)
    (call : RecordCall) : Except PyError Unit × ORToolsMonitoring :=
  match (monitoring.addCall call).checkWindowRotation dayText call.checkedAt call.createdAt with
  | (.error e, rotated) => (.error e, rotated)
  | (.ok _, rotated) =>
      match rotated.checkAlerts call.alertedAt with
      | .error e => (.error e, rotated)
      | .ok alerted => (.ok (), alerted)

/-- A monitor that has been created at some time. -/
def fresh (windowSize : ℚ) (maxMetrics : ℕ) (now : ℚ) : ORToolsMonitoring where
  windowSize := windowSize
  maxMetrics := maxMetrics
  metrics := []
  currentWindow := .createNew windowSize now
  dailyStats := .empty
  activeAlerts := .empty

end ORToolsMonitoring

/-! ## What a call leaves -/

namespace ORToolsMonitoring

variable {dayText : ℚ → String} {monitoring : ORToolsMonitoring}

theorem exists_rate (count : ℕ) {total : ℕ} (htotal : total ≠ 0) :
    ∃ share, rate count total = .ok share :=
  ⟨_, if_neg htotal⟩

/-- With a request in the window no check divides by zero. -/
theorem exists_check {window : PerformanceWindow} (hrequests : window.totalRequests ≠ 0) :
    ∀ alert ∈ alertsToCheck, ∃ found, alert.2 window = .ok found := by
  intro alert halert
  simp only [alertsToCheck, List.mem_cons, List.not_mem_nil, or_false] at halert
  rcases halert with rfl | rfl | rfl | rfl
  · obtain ⟨share, hshare⟩ := exists_rate window.successCount hrequests
    show ∃ found, checkSuccessRateAlert window = .ok found
    unfold checkSuccessRateAlert
    rw [hshare]
    exact ⟨_, rfl⟩
  · exact ⟨_, rfl⟩
  · exact ⟨_, rfl⟩
  · obtain ⟨share, hshare⟩ := exists_rate (window.errorCount + window.timeoutCount) hrequests
    show ∃ found, checkErrorRateAlert window = .ok found
    unfold checkErrorRateAlert
    rw [hshare]
    exact ⟨_, rfl⟩

/-- The checks return, and change nothing but the alerts. -/
theorem exists_checkAlerts (monitoring : ORToolsMonitoring) (now : ℚ) :
    ∃ alerts, monitoring.checkAlerts now = .ok { monitoring with activeAlerts := alerts } := by
  unfold checkAlerts
  split
  · exact ⟨_, rfl⟩
  · rename_i hmany
    have hrequests : monitoring.currentWindow.totalRequests ≠ 0 := by omega
    have hchecks := exists_check hrequests
    generalize alertsToCheck = checks at hchecks
    induction checks generalizing monitoring with
    | nil => exact ⟨_, rfl⟩
    | cons alert rest ih =>
        obtain ⟨hfirst, hrest⟩ := List.forall_mem_cons.mp hchecks
        obtain ⟨found, hfound⟩ := hfirst
        have hturn : ∃ alerts, checkAlert now monitoring alert =
            .ok { monitoring with activeAlerts := alerts } := by
          unfold checkAlert
          rw [hfound]
          cases found <;> exact ⟨_, rfl⟩
        obtain ⟨alerts, hturn⟩ := hturn
        rw [List.foldlM_cons, hturn]
        exact ih { monitoring with activeAlerts := alerts } hmany hrequests hrest

/-- A call finds metrics of the current window when the window is over. -/
def FindsOldMetrics (moment : ORToolsMonitoring × RecordCall) : Prop :=
  moment.1.currentWindow.endTime ≤ moment.2.checkedAt ∧
    ∃ metric ∈ (moment.1.addCall moment.2).metrics,
      moment.1.currentWindow.Contains metric.timestamp

theorem windowMetrics_addCall_eq_nil_iff (call : RecordCall) :
    (monitoring.addCall call).windowMetrics = [] ↔
      ¬ ∃ metric ∈ (monitoring.addCall call).metrics,
        monitoring.currentWindow.Contains metric.timestamp := by
  unfold windowMetrics
  rw [List.filter_eq_nil_iff]
  simp only [decide_eq_true_eq, not_exists, not_and]
  rfl

/-- What a call does: in a window that is not over it counts and checks the alerts, a window of
which nothing is remembered is replaced, and otherwise it raises and leaves the window with its
statistics. -/
theorem recordOptimization_cases (dayText : ℚ → String)
    (hdaily : monitoring.dailyStats = .empty) (call : RecordCall) :
    (call.checkedAt < monitoring.currentWindow.endTime ∧
      ∃ alerts, monitoring.recordOptimization dayText call =
          (.ok (), { monitoring.addCall call with activeAlerts := alerts }) ∧
        (monitoring.addCall call).checkAlerts call.alertedAt =
          .ok { monitoring.addCall call with activeAlerts := alerts }) ∨
    (monitoring.currentWindow.endTime ≤ call.checkedAt ∧ ¬ FindsOldMetrics (monitoring, call) ∧
      monitoring.recordOptimization dayText call =
        (.ok (), (monitoring.addCall call).replaceWindow call.createdAt)) ∨
    (FindsOldMetrics (monitoring, call) ∧
      ∃ error, monitoring.recordOptimization dayText call =
        (.error error, (monitoring.addCall call).withStatistics)) := by
  unfold recordOptimization checkWindowRotation
  have hend : (monitoring.addCall call).currentWindow.endTime =
      monitoring.currentWindow.endTime := rfl
  rw [hend]
  by_cases hover : monitoring.currentWindow.endTime ≤ call.checkedAt
  · rw [if_pos hover]
    unfold finalizeWindow
    by_cases hnone : (monitoring.addCall call).windowMetrics = []
    · refine .inr (.inl ⟨hover, fun hfinds => ?_, ?_⟩)
      · exact (windowMetrics_addCall_eq_nil_iff call).mp hnone hfinds.2
      · rw [if_pos hnone]
        rfl
    · refine .inr (.inr ⟨⟨hover, ?_⟩, ?_⟩)
      · by_contra hmissing
        exact hnone ((windowMetrics_addCall_eq_nil_iff call).mpr hmissing)
      · have hmissing : ∀ day, (monitoring.addCall call).dailyStats.get? day = none := by
          intro day
          have hempty : (monitoring.addCall call).dailyStats = .empty := hdaily
          rw [hempty]
          rfl
        rw [if_neg hnone, hmissing]
        exact ⟨_, rfl⟩
  · rw [if_neg hover]
    obtain ⟨alerts, halerts⟩ := exists_checkAlerts (monitoring.addCall call) call.alertedAt
    refine .inl ⟨not_le.mp hover, alerts, ?_, halerts⟩
    dsimp only
    rw [halerts]

/-! ## Runs -/

/-- The monitor after a call. -/
def next (dayText : ℚ → String) (monitoring : ORToolsMonitoring) (call : RecordCall) :
    ORToolsMonitoring :=
  (monitoring.recordOptimization dayText call).2

/-- What is true of a monitor at a time. -/
structure Running (windowSize now : ℚ) (monitoring : ORToolsMonitoring) : Prop where
  windowSize_eq : monitoring.windowSize = windowSize
  spans : monitoring.currentWindow.endTime = monitoring.currentWindow.startTime + windowSize
  started : monitoring.currentWindow.startTime ≤ now
  dailyStats_eq : monitoring.dailyStats = .empty

theorem running_fresh (windowSize : ℚ) (maxMetrics : ℕ) (now : ℚ) :
    Running windowSize now (fresh windowSize maxMetrics now) :=
  ⟨rfl, rfl, le_refl now, rfl⟩

variable {windowSize now : ℚ} {call : RecordCall}

/-- A call leaves a monitor that runs on. -/
theorem Running.next (dayText : ℚ → String) (hrunning : Running windowSize now monitoring)
    (hafter : call.After now) :
    Running windowSize call.alertedAt (monitoring.next dayText call) := by
  obtain ⟨hsize, hspans, hstarted, hdaily⟩ := hrunning
  have hlater : now ≤ call.alertedAt :=
    hafter.recorded.trans (hafter.checked.trans (hafter.created.trans hafter.alerted))
  unfold ORToolsMonitoring.next
  rcases recordOptimization_cases dayText hdaily call with
    ⟨-, alerts, hcall, -⟩ | ⟨-, -, hcall⟩ | ⟨-, error, hcall⟩
  · rw [hcall]
    exact ⟨hsize, hspans, hstarted.trans hlater, hdaily⟩
  · rw [hcall]
    exact ⟨hsize, congrArg (call.createdAt + ·) hsize, hafter.alerted, hdaily⟩
  · rw [hcall]
    exact ⟨hsize, hspans, hstarted.trans hlater, hdaily⟩

/-- The last time at which a call looks at the clock for its window. -/
def windowTime (monitoring : ORToolsMonitoring) (call : RecordCall) : ℚ :=
  if monitoring.currentWindow.endTime ≤ call.checkedAt then call.createdAt else call.checkedAt

/-- What is promised of a call: it returns, the current window contains the current time,
and a window that was over has been replaced by a fresh one. -/
structure KeepsWindow (dayText : ℚ → String) (moment : ORToolsMonitoring × RecordCall) :
    Prop where
  returns : (moment.1.recordOptimization dayText moment.2).1.isOk = true
  contains : (moment.1.next dayText moment.2).currentWindow.Contains
    (moment.1.windowTime moment.2)
  replaced : moment.1.currentWindow.endTime ≤ moment.2.checkedAt →
    (moment.1.next dayText moment.2).currentWindow =
      .createNew moment.1.windowSize moment.2.createdAt

/-- A call keeps its promise unless it finds old metrics, if windows have a length. -/
theorem keepsWindow_iff (hpos : 0 < windowSize) (hrunning : Running windowSize now monitoring)
    (hafter : call.After now) :
    KeepsWindow dayText (monitoring, call) ↔ ¬ FindsOldMetrics (monitoring, call) := by
  obtain ⟨hsize, hspans, hstarted, hdaily⟩ := hrunning
  rcases recordOptimization_cases dayText hdaily call with
    ⟨hbefore, alerts, hcall, -⟩ | ⟨hover, hnone, hcall⟩ | ⟨hfinds, error, hcall⟩
  · have hstill : ¬ monitoring.currentWindow.endTime ≤ call.checkedAt := not_le.mpr hbefore
    refine iff_of_true ⟨?_, ?_, fun hover => absurd hover hstill⟩ fun hfinds => hstill hfinds.1
    · rw [hcall]
      rfl
    · unfold windowTime ORToolsMonitoring.next
      rw [if_neg hstill, hcall]
      exact ⟨hstarted.trans (hafter.recorded.trans hafter.checked), hbefore⟩
  · refine iff_of_true ⟨?_, ?_, ?_⟩ hnone
    · rw [hcall]
      rfl
    · unfold windowTime ORToolsMonitoring.next
      rw [if_pos hover, hcall]
      exact ⟨le_refl _, lt_add_of_pos_right _ (hsize ▸ hpos)⟩
    · intro _
      unfold ORToolsMonitoring.next
      rw [hcall]
      rfl
  · refine iff_of_false (fun hkeeps => ?_) (not_not.mpr hfinds)
    have hreturns := hkeeps.returns
    rw [hcall] at hreturns
    cases hreturns

/-- The calls of a run, with the monitor each one meets. -/
def monitoredRun (dayText : ℚ → String) (monitoring : ORToolsMonitoring)
    (calls : List RecordCall) : List (ORToolsMonitoring × RecordCall) :=
  moments (ORToolsMonitoring.next dayText) monitoring calls

/-- Every call of a run returns and leaves a window around the current time. -/
def KeepsWindows (dayText : ℚ → String) (monitoring : ORToolsMonitoring)
    (calls : List RecordCall) : Prop :=
  ∀ moment ∈ monitoredRun dayText monitoring calls, KeepsWindow dayText moment

theorem running_monitoredRun (dayText : ℚ → String)
    (hrunning : Running windowSize now monitoring) {calls : List RecordCall}
    (horder : InOrder now calls) :
    ∀ moment ∈ monitoredRun dayText monitoring calls,
      ∃ now, Running windowSize now moment.1 ∧ moment.2.After now := by
  induction calls generalizing now monitoring with
  | nil => simp [monitoredRun]
  | cons call rest ih =>
      exact List.forall_mem_cons.mpr ⟨⟨now, hrunning, horder.1⟩,
        ih (hrunning.next dayText horder.1) horder.2⟩

/-- A window that contains a time has a length. -/
theorem windowSize_pos_of_keepsWindow (hrunning : Running windowSize now monitoring)
    (hafter : call.After now) (hkeeps : KeepsWindow dayText (monitoring, call)) :
    0 < windowSize := by
  obtain ⟨hstart, hend⟩ := hkeeps.contains
  have hspans := (hrunning.next dayText hafter).spans
  dsimp only at hstart hend
  linarith

end ORToolsMonitoring

open ORToolsMonitoring in
/-- In every run of a monitor under a clock that does not go back, every call returns and
leaves a window around the current time, exactly when windows have a length and no call
finds metrics of a window that is over. -/
theorem recordOptimization_keepsWindow_iff (dayText : ℚ → String) (windowSize : ℚ)
    (maxMetrics : ℕ) (createdAt : ℚ) (calls : List RecordCall) (horder : InOrder createdAt calls) :
    KeepsWindows dayText (fresh windowSize maxMetrics createdAt) calls ↔
      (calls = [] ∨ 0 < windowSize) ∧
        ∀ moment ∈ monitoredRun dayText (fresh windowSize maxMetrics createdAt) calls,
          ¬ FindsOldMetrics moment := by
  have hfresh := running_fresh windowSize maxMetrics createdAt
  have hruns := running_monitoredRun dayText hfresh horder
  have hiff : 0 < windowSize →
      ∀ moment ∈ monitoredRun dayText (fresh windowSize maxMetrics createdAt) calls,
        (KeepsWindow dayText moment ↔ ¬ FindsOldMetrics moment) := by
    intro hpos moment hmem
    obtain ⟨now, hrunning, hafter⟩ := hruns moment hmem
    exact keepsWindow_iff hpos hrunning hafter
  constructor
  · intro hkeeps
    cases calls with
    | nil => exact ⟨.inl rfl, by simp [monitoredRun]⟩
    | cons call rest =>
        have hpos : 0 < windowSize :=
          windowSize_pos_of_keepsWindow hfresh horder.1 (hkeeps _ List.mem_cons_self)
        exact ⟨.inr hpos, fun moment hmem => (hiff hpos moment hmem).mp (hkeeps moment hmem)⟩
  · rintro ⟨hempty | hpos, hnone⟩
    · subst hempty
      simp [KeepsWindows, monitoredRun]
    · exact fun moment hmem => (hiff hpos moment hmem).mpr (hnone moment hmem)

/-! ## Two windows -/

/-- A success in a second, recorded at some minute. -/
def successAt (now : ℚ) : RecordCall where
  method := "ortools"
  executionTimeMs := 1000
  status := .success
  recordedAt := now
  checkedAt := now
  createdAt := now
  alertedAt := now

/-- Ten minutes without a record: the empty window is replaced. -/
theorem recordOptimization_keepsWindow_late :
    ORToolsMonitoring.KeepsWindows (fun _ => "2025-01-01") (.fresh 10 10000 0)
      [successAt 11, successAt 12] := by
  refine (recordOptimization_keepsWindow_iff (fun _ => "2025-01-01") 10 10000 0
    [successAt 11, successAt 12] ?_).mpr ⟨.inr (by norm_num), ?_⟩
  · exact ⟨⟨by decide +kernel, le_refl _, le_refl _, le_refl _⟩,
      ⟨by decide +kernel, le_refl _, le_refl _, le_refl _⟩, trivial⟩
  · intro moment hmoment
    simp only [ORToolsMonitoring.monitoredRun, moments_cons, moments_nil, List.mem_cons,
      List.not_mem_nil, or_false] at hmoment
    rcases hmoment with rfl | rfl
    · unfold ORToolsMonitoring.FindsOldMetrics
      decide +kernel
    · unfold ORToolsMonitoring.FindsOldMetrics
      decide +kernel

/-- A record in the first window, and one a minute after it: the second call raises. -/
theorem recordOptimization_raises_after_window :
    InOrder 0 [successAt 1, successAt 11] ∧
      ¬ ORToolsMonitoring.KeepsWindows (fun _ => "2025-01-01") (.fresh 10 10000 0)
        [successAt 1, successAt 11] := by
  constructor
  · exact ⟨⟨by decide +kernel, le_refl _, le_refl _, le_refl _⟩,
      ⟨by decide +kernel, le_refl _, le_refl _, le_refl _⟩, trivial⟩
  · intro hkeeps
    have hsecond := (List.forall_mem_cons.mp (List.forall_mem_cons.mp hkeeps).2).1
    exact absurd hsecond.returns (by decide +kernel)

end Goveling.Ortools
