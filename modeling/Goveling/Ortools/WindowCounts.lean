/-
# What the windows of the monitor count

A metric is counted in the window that is current when it arrives, before the monitor
looks whether that window is over; closing a window selects its metrics by their times.
A ledger beside the monitor keeps for every window the metrics it was given, so that the
two views can be compared over a whole run. They agree exactly when every metric arrives
inside the current window, and the windows of a monitor that remembers nothing do not
share one of these times.
-/

import Goveling.Math.Tally
import Goveling.Ortools.Monitoring

namespace Goveling.Ortools

open Goveling.Math Goveling.Python

/-- The metric of a call. -/
def RecordCall.metric (call : RecordCall) : OptimizationMetric where
  timestamp := call.recordedAt
  method := call.method
  executionTimeMs := call.executionTimeMs
  status := call.status

/-! ## Windows and the metrics they were given -/

/-- The counters of a window are those of some metrics. -/
structure PerformanceWindow.Tallies (window : PerformanceWindow)
    (counted : List OptimizationMetric) : Prop where
  requests : window.totalRequests = counted.length
  outcomes : window.totalRequests =
    window.successCount + window.failureCount + window.timeoutCount + window.errorCount
  methods : window.totalRequests = window.ortoolsRequests + window.legacyRequests

namespace PerformanceWindow

variable {window : PerformanceWindow} {counted : List OptimizationMetric}

theorem tallies_createNew (windowSize now : ℚ) : (createNew windowSize now).Tallies [] :=
  ⟨rfl, rfl, rfl⟩

/-- One more metric in a window is one more of one outcome and of one method. -/
theorem Tallies.update (htallies : window.Tallies counted) (metric : OptimizationMetric) :
    (window.update metric).Tallies (counted ++ [metric]) := by
  obtain ⟨hrequests, houtcomes, hmethods⟩ := htallies
  constructor
  · rw [List.length_append, ← hrequests]
    rfl
  · cases hstatus : metric.status <;>
      simp only [PerformanceWindow.update, hstatus, decide_true, decide_false, if_true,
        reduceCtorEq, Bool.false_eq_true, if_false, add_zero] <;>
      rw [houtcomes] <;>
      ring
  · by_cases hmethod : metric.method = "ortools"
    · simp only [PerformanceWindow.update, hmethod, ne_eq, not_true_eq_false, decide_true,
        decide_false, if_true, Bool.false_eq_true, if_false]
      rw [hmethods]
      ring
    · simp only [PerformanceWindow.update, hmethod, ne_eq, not_false_eq_true, decide_true,
        decide_false, if_true, Bool.false_eq_true, if_false]
      rw [hmethods]
      ring

/-- The statistics of a window leave its counters alone. -/
theorem Tallies.withStatistics (htallies : window.Tallies counted)
    (metrics : List OptimizationMetric) : (window.withStatistics metrics).Tallies counted :=
  ⟨htallies.requests, htallies.outcomes, htallies.methods⟩

end PerformanceWindow

/-- A window with the metrics that were counted in it. -/
structure CountedWindow where
  window : PerformanceWindow
  counted : List OptimizationMetric
  tallied : window.Tallies counted

/-- The metrics that were counted in a window are of its time. -/
def CountedWindow.Inside (entry : CountedWindow) : Prop :=
  ∀ metric ∈ entry.counted, entry.window.Contains metric.timestamp

/-- A monitor with the metrics that were counted in its windows. -/
structure MonitorLedger where
  monitoring : ORToolsMonitoring
  closed : List CountedWindow
  counted : List OptimizationMetric
  tallied : monitoring.currentWindow.Tallies counted

namespace ORToolsMonitoring

variable {dayText : ℚ → String} {monitoring : ORToolsMonitoring}

/-- A call replaces the current window: it is over, and closing it does not raise. -/
def Replaces (dayText : ℚ → String) (monitoring : ORToolsMonitoring) (call : RecordCall) : Prop :=
  monitoring.currentWindow.endTime ≤ call.checkedAt ∧
    ((monitoring.addCall call).finalizeWindow dayText).1.isOk = true

instance (dayText : ℚ → String) (monitoring : ORToolsMonitoring) (call : RecordCall) :
    Decidable (Replaces dayText monitoring call) :=
  inferInstanceAs (Decidable (_ ∧ _))

/-- A window is replaced when it is over and none of its metrics is found. -/
theorem replaces_iff (dayText : ℚ → String) (hdaily : monitoring.dailyStats = .empty)
    (call : RecordCall) :
    Replaces dayText monitoring call ↔
      monitoring.currentWindow.endTime ≤ call.checkedAt ∧ ¬ FindsOldMetrics (monitoring, call) := by
  unfold Replaces finalizeWindow
  refine and_congr_right fun hover => ?_
  have hfinds : FindsOldMetrics (monitoring, call) ↔
      ¬ (monitoring.addCall call).windowMetrics = [] := by
    rw [windowMetrics_addCall_eq_nil_iff, not_not]
    exact and_iff_right hover
  rw [hfinds, not_not]
  split
  · rename_i hnone
    exact iff_of_true rfl hnone
  · rename_i hfound
    refine iff_of_false ?_ hfound
    have hempty : (monitoring.addCall call).dailyStats = .empty := hdaily
    rw [hempty]
    exact Bool.false_ne_true

/-- The current window of a call when it has been closed. -/
def finalizedWindow (dayText : ℚ → String) (monitoring : ORToolsMonitoring) (call : RecordCall) :
    PerformanceWindow :=
  ((monitoring.addCall call).finalizeWindow dayText).2.currentWindow

/-- Closing a window leaves it, or gives it its statistics. -/
theorem currentWindow_finalizeWindow (dayText : ℚ → String) (monitoring : ORToolsMonitoring) :
    (monitoring.finalizeWindow dayText).2.currentWindow = monitoring.currentWindow ∨
      (monitoring.finalizeWindow dayText).2.currentWindow =
        monitoring.currentWindow.withStatistics monitoring.windowMetrics := by
  unfold finalizeWindow
  split
  · exact .inl rfl
  · split <;> exact .inr rfl

/-- What a call leaves as the current window. -/
theorem currentWindow_next (dayText : ℚ → String) (monitoring : ORToolsMonitoring)
    (call : RecordCall) :
    (Replaces dayText monitoring call ∧
      (monitoring.next dayText call).currentWindow =
        .createNew ((monitoring.addCall call).finalizeWindow dayText).2.windowSize call.createdAt) ∨
    (¬ Replaces dayText monitoring call ∧
      ((monitoring.next dayText call).currentWindow = monitoring.currentWindow.update call.metric ∨
        (monitoring.next dayText call).currentWindow =
          finalizedWindow dayText monitoring call)) := by
  unfold ORToolsMonitoring.next recordOptimization checkWindowRotation
  have hend : (monitoring.addCall call).currentWindow.endTime =
      monitoring.currentWindow.endTime := rfl
  by_cases hover : monitoring.currentWindow.endTime ≤ call.checkedAt
  · rw [if_pos (hend ▸ hover)]
    obtain ⟨outcome, finalized, hfinalized⟩ :
        ∃ outcome finalized,
          (monitoring.addCall call).finalizeWindow dayText = (outcome, finalized) :=
      ⟨_, _, rfl⟩
    unfold Replaces finalizedWindow
    rw [hfinalized]
    cases outcome with
    | error e => exact .inr ⟨fun hreplaces => (nomatch hreplaces.2), .inr rfl⟩
    | ok _ =>
        obtain ⟨alerts, halerts⟩ := exists_checkAlerts (finalized.replaceWindow call.createdAt)
          call.alertedAt
        refine .inl ⟨⟨hover, rfl⟩, ?_⟩
        dsimp only
        rw [halerts]
        rfl
  · rw [if_neg (hend ▸ hover)]
    obtain ⟨alerts, halerts⟩ := exists_checkAlerts (monitoring.addCall call) call.alertedAt
    refine .inr ⟨fun hreplaces => hover hreplaces.1, .inl ?_⟩
    dsimp only
    rw [halerts]
    rfl

/-- A window that a call closes has the counters of its metrics and the call's. -/
theorem tallies_finalizedWindow {counted : List OptimizationMetric}
    (htallies : monitoring.currentWindow.Tallies counted) (call : RecordCall) :
    (finalizedWindow dayText monitoring call).Tallies (counted ++ [call.metric]) := by
  have hupdated := htallies.update call.metric
  unfold finalizedWindow
  rcases currentWindow_finalizeWindow dayText (monitoring.addCall call) with hsame | hstatistics
  · rw [hsame]
    exact hupdated
  · rw [hstatistics]
    exact hupdated.withStatistics _

/-- A window that a call closes keeps its times. -/
theorem contains_finalizedWindow_iff (call : RecordCall) (time : ℚ) :
    (finalizedWindow dayText monitoring call).Contains time ↔
      monitoring.currentWindow.Contains time := by
  unfold finalizedWindow
  rcases currentWindow_finalizeWindow dayText (monitoring.addCall call) with hsame | hstatistics
  · rw [hsame]
    rfl
  · rw [hstatistics]
    rfl

/-- A window that a call does not replace keeps its times. -/
theorem contains_next_iff {call : RecordCall} (hkeeps : ¬ Replaces dayText monitoring call)
    (time : ℚ) :
    (monitoring.next dayText call).currentWindow.Contains time ↔
      monitoring.currentWindow.Contains time := by
  rcases currentWindow_next dayText monitoring call with ⟨hreplaces, -⟩ | ⟨-, hcounts | hcloses⟩
  · exact absurd hreplaces hkeeps
  · rw [hcounts]
    rfl
  · rw [hcloses]
    apply contains_finalizedWindow_iff

/-- After a call that replaces the window, nothing is counted yet. -/
theorem tallies_next_of_replaces {call : RecordCall}
    (hreplaces : Replaces dayText monitoring call) :
    (monitoring.next dayText call).currentWindow.Tallies [] := by
  rcases currentWindow_next dayText monitoring call with ⟨-, hnew⟩ | ⟨hkeeps, -⟩
  · rw [hnew]
    apply PerformanceWindow.tallies_createNew
  · exact absurd hreplaces hkeeps

/-- After any other call, its metric is counted too. -/
theorem tallies_next_of_keeps {counted : List OptimizationMetric}
    (htallies : monitoring.currentWindow.Tallies counted) {call : RecordCall}
    (hkeeps : ¬ Replaces dayText monitoring call) :
    (monitoring.next dayText call).currentWindow.Tallies (counted ++ [call.metric]) := by
  rcases currentWindow_next dayText monitoring call with ⟨hreplaces, -⟩ | ⟨-, hcounts | hcloses⟩
  · exact absurd hreplaces hkeeps
  · rw [hcounts]
    exact htallies.update call.metric
  · rw [hcloses]
    exact tallies_finalizedWindow htallies call

end ORToolsMonitoring

/-! ## The ledger of a run -/

open ORToolsMonitoring

namespace MonitorLedger

/-- The ledger of a monitor that has been created at some time. -/
def fresh (windowSize : ℚ) (maxMetrics : ℕ) (now : ℚ) : MonitorLedger where
  monitoring := .fresh windowSize maxMetrics now
  closed := []
  counted := []
  tallied := PerformanceWindow.tallies_createNew windowSize now

/-- A call with the ledger beside it. -/
def record (dayText : ℚ → String) (ledger : MonitorLedger) (call : RecordCall) : MonitorLedger :=
  if hreplaces : Replaces dayText ledger.monitoring call then
    { monitoring := ledger.monitoring.next dayText call
      closed := ledger.closed ++
        [{ window := finalizedWindow dayText ledger.monitoring call
           counted := ledger.counted ++ [call.metric]
           tallied := tallies_finalizedWindow ledger.tallied call }]
      counted := []
      tallied := tallies_next_of_replaces hreplaces }
  else
    { monitoring := ledger.monitoring.next dayText call
      closed := ledger.closed
      counted := ledger.counted ++ [call.metric]
      tallied := tallies_next_of_keeps ledger.tallied hreplaces }

/-- The windows so far, the current one last. -/
def windows (ledger : MonitorLedger) : List CountedWindow :=
  ledger.closed ++ [⟨ledger.monitoring.currentWindow, ledger.counted, ledger.tallied⟩]

/-- The ledger after calls of a monitor that has been created at some time. -/
def afterRun (dayText : ℚ → String) (windowSize : ℚ) (maxMetrics : ℕ) (createdAt : ℚ)
    (calls : List RecordCall) : MonitorLedger :=
  runEnd (record dayText) (fresh windowSize maxMetrics createdAt) calls

variable {dayText : ℚ → String} {ledger : MonitorLedger} {call : RecordCall}

/-- The ledger does not change what the monitor does. -/
@[simp]
theorem monitoring_record (dayText : ℚ → String) (ledger : MonitorLedger) (call : RecordCall) :
    (ledger.record dayText call).monitoring = ledger.monitoring.next dayText call := by
  unfold record
  split <;> rfl

/-- The monitor of a run with its ledger is the monitor of the run. -/
theorem monitoring_runEnd (dayText : ℚ → String) (ledger : MonitorLedger)
    (calls : List RecordCall) :
    (runEnd (record dayText) ledger calls).monitoring =
      runEnd (ORToolsMonitoring.next dayText) ledger.monitoring calls :=
  (List.foldl_hom MonitorLedger.monitoring fun ledger call =>
    (monitoring_record dayText ledger call).symm).symm

/-- A call adds its metric to one window. -/
theorem counted_record (dayText : ℚ → String) (ledger : MonitorLedger) (call : RecordCall) :
    (ledger.record dayText call).windows.flatMap CountedWindow.counted =
      ledger.windows.flatMap CountedWindow.counted ++ [call.metric] := by
  unfold record windows
  split <;> simp

/-- The windows of a run were given its metrics. -/
theorem counted_runEnd (dayText : ℚ → String) (ledger : MonitorLedger) (calls : List RecordCall) :
    (runEnd (record dayText) ledger calls).windows.flatMap CountedWindow.counted =
      ledger.windows.flatMap CountedWindow.counted ++ calls.map RecordCall.metric := by
  induction calls generalizing ledger with
  | nil => simp
  | cons call rest ih =>
      rw [runEnd_cons, ih, counted_record, List.map_cons, List.append_assoc]
      rfl

/-- Every metric was counted in a window of its time. -/
def AllInside (ledger : MonitorLedger) : Prop := ∀ entry ∈ ledger.windows, entry.Inside

theorem allInside_iff (ledger : MonitorLedger) :
    ledger.AllInside ↔ (∀ entry ∈ ledger.closed, entry.Inside) ∧
      ∀ metric ∈ ledger.counted,
        ledger.monitoring.currentWindow.Contains metric.timestamp := by
  unfold AllInside windows
  rw [List.forall_mem_append, List.forall_mem_singleton]
  rfl

/-- A call keeps the metrics inside their windows exactly when it arrives in the current one. -/
theorem allInside_record_iff (dayText : ℚ → String) (ledger : MonitorLedger) (call : RecordCall) :
    (ledger.record dayText call).AllInside ↔
      ledger.AllInside ∧ ledger.monitoring.currentWindow.Contains call.recordedAt := by
  rw [allInside_iff, allInside_iff]
  unfold record
  split
  · rw [List.forall_mem_append, List.forall_mem_singleton]
    unfold CountedWindow.Inside
    simp only [contains_finalizedWindow_iff, List.forall_mem_append, List.forall_mem_singleton,
      List.not_mem_nil, false_implies, implies_true, and_true]
    rw [and_assoc]
    rfl
  · rename_i hkeeps
    simp only [contains_next_iff hkeeps, List.forall_mem_append, List.forall_mem_singleton]
    rw [and_assoc]
    rfl

/-- The metrics of a run are inside their windows exactly when each call arrives in the
window that is current. -/
theorem allInside_runEnd_iff (dayText : ℚ → String) (ledger : MonitorLedger)
    (calls : List RecordCall) :
    (runEnd (record dayText) ledger calls).AllInside ↔
      ledger.AllInside ∧ ∀ moment ∈ monitoredRun dayText ledger.monitoring calls,
        moment.1.currentWindow.Contains moment.2.recordedAt := by
  induction calls generalizing ledger with
  | nil => simp [monitoredRun]
  | cons call rest ih =>
      unfold monitoredRun at ih ⊢
      rw [runEnd_cons, ih, allInside_record_iff, monitoring_record, moments_cons,
        List.forall_mem_cons, and_assoc]

theorem allInside_fresh (windowSize : ℚ) (maxMetrics : ℕ) (now : ℚ) :
    (fresh windowSize maxMetrics now).AllInside := by
  rw [allInside_iff]
  constructor <;> intro _ hmem <;> cases hmem

/-! ## A monitor that remembers -/

/-- A call whose metric is remembered and inside the current window does not replace it:
closing the window raises. -/
theorem not_replaces_of_contains (dayText : ℚ → String) {monitoring : ORToolsMonitoring}
    (hdaily : monitoring.dailyStats = .empty) (hmax : 0 < monitoring.maxMetrics)
    (hcontains : monitoring.currentWindow.Contains call.recordedAt) :
    ¬ Replaces dayText monitoring call := by
  rw [replaces_iff dayText hdaily]
  rintro ⟨hover, hnone⟩
  refine hnone ⟨hover, call.metric, ?_, hcontains⟩
  show call.metric ∈ monitoring.pushMetric call.metric
  unfold ORToolsMonitoring.pushMetric
  dsimp only
  rw [List.length_append, List.length_singleton, List.drop_append_of_le_length (by omega)]
  exact List.mem_append_right _ (List.mem_singleton_self _)

/-- No call gives the monitor a daily aggregate or another capacity. -/
theorem dailyStats_next (dayText : ℚ → String) {monitoring : ORToolsMonitoring}
    (hdaily : monitoring.dailyStats = .empty) (call : RecordCall) :
    (monitoring.next dayText call).dailyStats = .empty ∧
      (monitoring.next dayText call).maxMetrics = monitoring.maxMetrics := by
  unfold ORToolsMonitoring.next
  rcases recordOptimization_cases dayText hdaily call with
    ⟨-, alerts, hcall, -⟩ | ⟨-, -, hcall⟩ | ⟨-, error, hcall⟩
  all_goals
    rw [hcall]
    exact ⟨hdaily, rfl⟩

/-- A monitor that remembers metrics closes no window as long as they arrive inside. -/
theorem closed_runEnd_eq_nil {calls : List RecordCall}
    (hdaily : ledger.monitoring.dailyStats = .empty) (hmax : 0 < ledger.monitoring.maxMetrics)
    (hclosed : ledger.closed = [])
    (hinside : ∀ moment ∈ monitoredRun dayText ledger.monitoring calls,
      moment.1.currentWindow.Contains moment.2.recordedAt) :
    (runEnd (record dayText) ledger calls).closed = [] := by
  induction calls generalizing ledger with
  | nil => exact hclosed
  | cons call rest ih =>
      obtain ⟨hfirst, hrest⟩ := List.forall_mem_cons.mp hinside
      have hkeeps := not_replaces_of_contains dayText hdaily hmax hfirst
      obtain ⟨hstill, hsame⟩ := dailyStats_next dayText hdaily call
      apply ih
      · rw [monitoring_record]
        exact hstill
      · rw [monitoring_record, hsame]
        exact hmax
      · unfold record
        rw [dif_neg hkeeps]
        exact hclosed
      · rw [monitoring_record]
        exact hrest

end MonitorLedger

/-! ## The two views -/

open MonitorLedger

/-- What is promised of the windows of a run: every metric is counted in one window, which
contains its time, and the requests of every window are the sum of its outcomes, the sum of
its methods, and the number of the metrics of its time. -/
structure CountsEach (windows : List CountedWindow) (recorded : List OptimizationMetric) :
    Prop where
  once : windows.flatMap CountedWindow.counted = recorded
  inside : ∀ entry ∈ windows, entry.Inside
  outcomes : ∀ entry ∈ windows, entry.window.totalRequests =
    entry.window.successCount + entry.window.failureCount + entry.window.timeoutCount +
      entry.window.errorCount
  methods : ∀ entry ∈ windows, entry.window.totalRequests =
    entry.window.ortoolsRequests + entry.window.legacyRequests
  total : ∀ entry ∈ windows, entry.window.totalRequests =
    recorded.countP fun metric => entry.window.Contains metric.timestamp

/-- Windows that were given some metrics of their times count each of them exactly when
no metric is of the time of two windows. -/
theorem countsEach_iff {windows : List CountedWindow} (hinside : ∀ entry ∈ windows, entry.Inside) :
    CountsEach windows (windows.flatMap CountedWindow.counted) ↔
      ∀ metric ∈ windows.flatMap CountedWindow.counted,
        windows.countP (fun entry => entry.window.Contains metric.timestamp) ≤ 1 := by
  have hholds : ∀ entry ∈ windows, ∀ metric ∈ entry.counted,
      decide (entry.window.Contains metric.timestamp) = true :=
    fun entry hentry metric hmetric => decide_eq_true (hinside entry hentry metric hmetric)
  have hsizes := length_eq_countP_iff hholds
  constructor
  · intro hcounts metric hmetric
    refine (hsizes.mp (fun entry hentry => ?_) metric hmetric).ge
    rw [← entry.tallied.requests]
    exact hcounts.total entry hentry
  · intro hsingle
    have hlengths := hsizes.mpr fun metric hmetric =>
      le_antisymm (one_le_countP_bins hholds hmetric) (hsingle metric hmetric)
    constructor
    · rfl
    · exact hinside
    · exact fun entry _ => entry.tallied.outcomes
    · exact fun entry _ => entry.tallied.methods
    · intro entry hentry
      rw [entry.tallied.requests]
      exact hlengths entry hentry

/-- In every run of a monitor, at any times, every metric is counted in just the window of its
time exactly when each arrives inside the window that is current, and, in a monitor that
remembers no metrics, none of these times lies in two of its windows. -/
theorem recordOptimization_countsEach_iff (dayText : ℚ → String) (windowSize : ℚ)
    (maxMetrics : ℕ) (createdAt : ℚ) (calls : List RecordCall) :
    CountsEach (afterRun dayText windowSize maxMetrics createdAt calls).windows
        (calls.map RecordCall.metric) ↔
      (∀ moment ∈ monitoredRun dayText (.fresh windowSize maxMetrics createdAt) calls,
        moment.1.currentWindow.Contains moment.2.recordedAt) ∧
      (maxMetrics = 0 → ∀ call ∈ calls,
        (afterRun dayText windowSize maxMetrics createdAt calls).windows.countP
          (fun entry => entry.window.Contains call.recordedAt) ≤ 1) := by
  have hrecorded : (afterRun dayText windowSize maxMetrics createdAt calls).windows.flatMap
      CountedWindow.counted = calls.map RecordCall.metric :=
    counted_runEnd dayText (.fresh windowSize maxMetrics createdAt) calls
  have hinside : (afterRun dayText windowSize maxMetrics createdAt calls).AllInside ↔
      ∀ moment ∈ monitoredRun dayText (.fresh windowSize maxMetrics createdAt) calls,
        moment.1.currentWindow.Contains moment.2.recordedAt :=
    (allInside_runEnd_iff dayText (.fresh windowSize maxMetrics createdAt) calls).trans
      (and_iff_right (allInside_fresh windowSize maxMetrics createdAt))
  rw [← hrecorded, ← hinside]
  constructor
  · intro hcounts
    refine ⟨hcounts.inside, fun _ call hcall => ?_⟩
    refine (countsEach_iff hcounts.inside).mp hcounts call.metric ?_
    rw [hrecorded]
    exact List.mem_map_of_mem hcall
  · rintro ⟨hall, hsingle⟩
    rw [countsEach_iff hall]
    intro metric hmetric
    rcases Nat.eq_zero_or_pos maxMetrics with hzero | hpos
    · rw [hrecorded] at hmetric
      obtain ⟨call, hcall, rfl⟩ := List.mem_map.mp hmetric
      exact hsingle hzero call hcall
    · have hclosed : (afterRun dayText windowSize maxMetrics createdAt calls).closed = [] :=
        closed_runEnd_eq_nil rfl hpos rfl (hinside.mp hall)
      unfold MonitorLedger.windows
      rw [hclosed]
      exact List.countP_le_length

/-- A metric a minute after the first window is still counted in it. -/
theorem recordOptimization_counts_late_metric :
    InOrder 0 [successAt 1, successAt 11] ∧
      ¬ CountsEach (afterRun (fun _ => "2025-01-01") 10 10000 0 [successAt 1, successAt 11]).windows
        ([successAt 1, successAt 11].map RecordCall.metric) := by
  constructor
  · exact ⟨⟨by decide +kernel, le_refl _, le_refl _, le_refl _⟩,
      ⟨by decide +kernel, le_refl _, le_refl _, le_refl _⟩, trivial⟩
  · intro hcounts
    exact absurd hcounts.total (by decide +kernel)

end Goveling.Ortools
