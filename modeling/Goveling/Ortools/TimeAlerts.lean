/-
# The alerts on execution times

The alerts on the mean and on the 95th percentile of the execution times read two fields
of the current window, which are set when a window is closed and not before. A window
whose alerts are checked is still open, so its fields are 0 unless the clock goes back:
no request is slow enough to set off these alerts.
-/

import Goveling.Ortools.WindowCounts

namespace Goveling.Ortools

open Goveling.Math Goveling.Python ORToolsMonitoring

/-! ## What a check leaves active -/

namespace ORToolsMonitoring

variable {dayText : ℚ → String} {monitoring : ORToolsMonitoring} {now : ℚ}

/-- A turn of the loop decides its own alert and no other one. -/
theorem exists_checkAlert (monitoring : ORToolsMonitoring) (now : ℚ)
    {alert : AlertType × (PerformanceWindow → Except PyError (Option PyDict))}
    {found : Option PyDict} (hfound : alert.2 monitoring.currentWindow = .ok found) :
    ∃ alerts, checkAlert now monitoring alert = .ok { monitoring with activeAlerts := alerts } ∧
      (alert.1 ∈ alerts.keys ↔ found.isSome = true) ∧
      ∀ type, type ≠ alert.1 → (type ∈ alerts.keys ↔ type ∈ monitoring.activeAlerts.keys) := by
  unfold checkAlert
  rw [hfound]
  cases found with
  | none =>
      refine ⟨_, rfl, ?_, fun type hne => ?_⟩
      · rw [OrderedMap.mem_keys_iff_isSome, OrderedMap.get?_erase, if_pos rfl]
        rfl
      · rw [OrderedMap.mem_keys_iff_isSome, OrderedMap.get?_erase, if_neg hne,
          ← OrderedMap.mem_keys_iff_isSome]
  | some data =>
      refine ⟨_, rfl, ?_, fun type hne => ?_⟩
      · rw [OrderedMap.mem_keys_set]
        exact iff_of_true (.inl rfl) rfl
      · rw [OrderedMap.mem_keys_set, or_iff_right hne]

/-- After the loop the alerts of its checks are active if they are found, and the others as
they were. -/
theorem exists_foldlM_checkAlert
    {checks : List (AlertType × (PerformanceWindow → Except PyError (Option PyDict)))}
    (hnodup : (checks.map Prod.fst).Nodup) (monitoring : ORToolsMonitoring) (now : ℚ)
    (hchecks : ∀ alert ∈ checks, ∃ found, alert.2 monitoring.currentWindow = .ok found) :
    ∃ alerts,
      checks.foldlM (checkAlert now) monitoring = .ok { monitoring with activeAlerts := alerts } ∧
      (∀ alert ∈ checks, alert.1 ∈ alerts.keys ↔
        ∃ data, alert.2 monitoring.currentWindow = .ok (some data)) ∧
      ∀ type, type ∉ checks.map Prod.fst →
        (type ∈ alerts.keys ↔ type ∈ monitoring.activeAlerts.keys) := by
  induction checks generalizing monitoring with
  | nil => exact ⟨_, rfl, by simp, fun _ _ => Iff.rfl⟩
  | cons alert rest ih =>
      obtain ⟨⟨found, hfound⟩, hrest⟩ := List.forall_mem_cons.mp hchecks
      obtain ⟨hfresh, hnodup⟩ := List.nodup_cons.mp hnodup
      obtain ⟨turned, hturn, hown, hothers⟩ := exists_checkAlert monitoring now hfound
      obtain ⟨alerts, hloop, hactive, hkept⟩ :=
        ih hnodup { monitoring with activeAlerts := turned } hrest
      refine ⟨alerts, ?_, List.forall_mem_cons.mpr ⟨?_, hactive⟩, ?_⟩
      · rw [List.foldlM_cons, hturn]
        exact hloop
      · rw [hkept alert.1 hfresh, hown, hfound, Option.isSome_iff_exists]
        simp
      · intro type hmissing
        rw [List.map_cons, List.mem_cons, not_or] at hmissing
        rw [hkept type hmissing.2, hothers type hmissing.1]

/-- The alerts on times are active as the fields of the window say. -/
structure TimeAlertsRead (window : PerformanceWindow) (alerts : OrderedMap AlertType Alert) :
    Prop where
  average : AlertType.avgExecutionTime ∈ alerts.keys ↔ 5000 < window.avgExecutionTime
  p95 : AlertType.p95ExecutionTime ∈ alerts.keys ↔ 10000 < window.p95ExecutionTime

/-- With five requests, the checks read the fields of the window. -/
theorem exists_checkAlerts_of_five (hfive : 5 ≤ monitoring.currentWindow.totalRequests) (now : ℚ) :
    ∃ alerts, monitoring.checkAlerts now = .ok { monitoring with activeAlerts := alerts } ∧
      TimeAlertsRead monitoring.currentWindow alerts := by
  have hrequests : monitoring.currentWindow.totalRequests ≠ 0 := by omega
  have hnodup : (alertsToCheck.map Prod.fst).Nodup := by decide
  obtain ⟨alerts, hloop, hactive, -⟩ :=
    exists_foldlM_checkAlert hnodup monitoring now (exists_check hrequests)
  unfold checkAlerts
  rw [if_neg (not_lt.mpr hfive)]
  refine ⟨alerts, hloop, ?_, ?_⟩
  · rw [hactive (.avgExecutionTime, checkAvgTimeAlert) (by simp [alertsToCheck])]
    simp [checkAvgTimeAlert]
  · rw [hactive (.p95ExecutionTime, checkP95TimeAlert) (by simp [alertsToCheck])]
    simp [checkP95TimeAlert]

/-- A call in an open window reads its fields from five requests on, and before it leaves the
alerts as they are. -/
theorem next_cases (dayText : ℚ → String) (hdaily : monitoring.dailyStats = .empty)
    (call : RecordCall) :
    (call.checkedAt < monitoring.currentWindow.endTime ∧
      ∃ alerts, monitoring.next dayText call = { monitoring.addCall call with
          activeAlerts := alerts } ∧
        if 4 ≤ monitoring.currentWindow.totalRequests then
          TimeAlertsRead monitoring.currentWindow alerts
        else alerts = monitoring.activeAlerts) ∨
    (monitoring.currentWindow.endTime ≤ call.checkedAt ∧ ¬ FindsOldMetrics (monitoring, call) ∧
      monitoring.next dayText call = (monitoring.addCall call).replaceWindow call.createdAt) ∨
    (FindsOldMetrics (monitoring, call) ∧
      monitoring.next dayText call = (monitoring.addCall call).withStatistics) := by
  unfold ORToolsMonitoring.next
  rcases recordOptimization_cases dayText hdaily call with
    ⟨hbefore, alerts, hcall, halerts⟩ | ⟨hover, hnone, hcall⟩ | ⟨hfinds, error, hcall⟩
  · refine .inl ⟨hbefore, alerts, congrArg Prod.snd hcall, ?_⟩
    split
    · rename_i hfour
      have hfive : 5 ≤ (monitoring.addCall call).currentWindow.totalRequests :=
        Nat.succ_le_succ hfour
      obtain ⟨found, hfound, haverage, hp95⟩ := exists_checkAlerts_of_five hfive call.alertedAt
      rw [hfound] at halerts
      cases halerts
      exact ⟨haverage, hp95⟩
    · rename_i hfew
      have hfive : (monitoring.addCall call).currentWindow.totalRequests < 5 :=
        Nat.succ_lt_succ (not_le.mp hfew)
      unfold checkAlerts at halerts
      rw [if_pos hfive] at halerts
      exact (congrArg ORToolsMonitoring.activeAlerts (Except.ok.inj halerts)).symm
  · exact .inr (.inl ⟨hover, hnone, congrArg Prod.snd hcall⟩)
  · exact .inr (.inr ⟨hfinds, congrArg Prod.snd hcall⟩)

/-! ## A clock that does not go back -/

/-- No alert on times is active, and an open window has no statistics yet. -/
structure NoTimeAlerts (windowSize now : ℚ) (monitoring : ORToolsMonitoring) : Prop
    extends Running windowSize now monitoring where
  average : AlertType.avgExecutionTime ∉ monitoring.activeAlerts.keys
  p95 : AlertType.p95ExecutionTime ∉ monitoring.activeAlerts.keys
  unset : now < monitoring.currentWindow.endTime →
    monitoring.currentWindow.avgExecutionTime = 0 ∧ monitoring.currentWindow.p95ExecutionTime = 0

theorem noTimeAlerts_fresh (windowSize : ℚ) (maxMetrics : ℕ) (now : ℚ) :
    NoTimeAlerts windowSize now (fresh windowSize maxMetrics now) where
  toRunning := running_fresh windowSize maxMetrics now
  average := List.not_mem_nil
  p95 := List.not_mem_nil
  unset _ := ⟨rfl, rfl⟩

/-- A call that is not before the last one sets off no alert on times. -/
theorem NoTimeAlerts.next {windowSize : ℚ} {call : RecordCall} (dayText : ℚ → String)
    (hquiet : NoTimeAlerts windowSize now monitoring) (hafter : call.After now) :
    NoTimeAlerts windowSize call.alertedAt (monitoring.next dayText call) := by
  have hrunning := hquiet.toRunning.next dayText hafter
  rcases next_cases dayText hquiet.dailyStats_eq call with
    ⟨hbefore, alerts, hnext, hread⟩ | ⟨hover, hnone, hnext⟩ | ⟨hfinds, hnext⟩
  · have hopen : now < monitoring.currentWindow.endTime :=
      (hafter.recorded.trans hafter.checked).trans_lt hbefore
    obtain ⟨haverage, hp95⟩ := hquiet.unset hopen
    rw [hnext] at hrunning ⊢
    split at hread
    · refine ⟨hrunning, ?_, ?_, fun _ => ⟨haverage, hp95⟩⟩
      · rw [hread.average, haverage]
        norm_num
      · rw [hread.p95, hp95]
        norm_num
    · rw [hread] at hrunning ⊢
      exact ⟨hrunning, hquiet.average, hquiet.p95, fun _ => ⟨haverage, hp95⟩⟩
  · rw [hnext] at hrunning ⊢
    exact ⟨hrunning, hquiet.average, hquiet.p95, fun _ => ⟨rfl, rfl⟩⟩
  · have hlate : monitoring.currentWindow.endTime ≤ call.alertedAt :=
      hfinds.1.trans (hafter.created.trans hafter.alerted)
    rw [hnext] at hrunning ⊢
    exact ⟨hrunning, hquiet.average, hquiet.p95, fun hopen => absurd hlate (not_le.mpr hopen)⟩

end ORToolsMonitoring

/-! ## Calls that leave five requests -/

namespace MonitorLedger

variable {dayText : ℚ → String} {ledger : MonitorLedger} {call : RecordCall}

/-- The execution times that are recorded in the current window. -/
def executionTimes (ledger : MonitorLedger) : List ℤ :=
  ledger.counted.map OptimizationMetric.executionTimeMs

/-- The alerts on times are active exactly when the times of the window exceed a limit. -/
structure TimeAlertsRight (ledger : MonitorLedger) : Prop where
  average : AlertType.avgExecutionTime ∈ ledger.monitoring.activeAlerts.keys ↔
    5000 < mean ledger.executionTimes
  p95 : AlertType.p95ExecutionTime ∈ ledger.monitoring.activeAlerts.keys ↔
    10000 < calculatePercentile ledger.executionTimes (95 / 100)

/-- After a call that leaves five requests in the window, the alerts on times are right. -/
def AlertsRight (dayText : ℚ → String) (moment : MonitorLedger × RecordCall) : Prop :=
  5 ≤ (moment.1.record dayText moment.2).monitoring.currentWindow.totalRequests →
    (moment.1.record dayText moment.2).TimeAlertsRight

/-- A call finds four requests in a window that is open, or that it cannot close. -/
def FillsFive (moment : MonitorLedger × RecordCall) : Prop :=
  4 ≤ moment.1.monitoring.currentWindow.totalRequests ∧
    (moment.2.checkedAt < moment.1.monitoring.currentWindow.endTime ∨
      FindsOldMetrics (moment.1.monitoring, moment.2))

/-- The execution times of a window with the one of a call. -/
def timesWith (moment : MonitorLedger × RecordCall) : List ℤ :=
  moment.1.executionTimes ++ [moment.2.executionTimeMs]

/-- The limits are exceeded as the fields of an open window say, or as the alerts do that
stand when a window cannot be closed. -/
structure Foretells (moment : MonitorLedger × RecordCall) : Prop where
  average : (if moment.2.checkedAt < moment.1.monitoring.currentWindow.endTime then
      5000 < moment.1.monitoring.currentWindow.avgExecutionTime
    else AlertType.avgExecutionTime ∈ moment.1.monitoring.activeAlerts.keys) ↔
      5000 < mean (timesWith moment)
  p95 : (if moment.2.checkedAt < moment.1.monitoring.currentWindow.endTime then
      10000 < moment.1.monitoring.currentWindow.p95ExecutionTime
    else AlertType.p95ExecutionTime ∈ moment.1.monitoring.activeAlerts.keys) ↔
      10000 < calculatePercentile (timesWith moment) (95 / 100)

theorem executionTimes_record (hkeeps : ¬ Replaces dayText ledger.monitoring call) :
    (ledger.record dayText call).executionTimes = timesWith (ledger, call) := by
  unfold record executionTimes timesWith
  rw [dif_neg hkeeps, List.map_append]
  rfl

/-- A window that is not replaced has one request more. -/
theorem totalRequests_record (hkeeps : ¬ Replaces dayText ledger.monitoring call) :
    (ledger.record dayText call).monitoring.currentWindow.totalRequests =
      ledger.monitoring.currentWindow.totalRequests + 1 := by
  rw [(ledger.record dayText call).tallied.requests, ledger.tallied.requests]
  unfold record
  rw [dif_neg hkeeps, List.length_append]
  rfl

/-- The requests of a window that has been replaced are gone. -/
theorem totalRequests_record_of_replaces (hreplaces : Replaces dayText ledger.monitoring call) :
    (ledger.record dayText call).monitoring.currentWindow.totalRequests = 0 := by
  rw [(ledger.record dayText call).tallied.requests]
  unfold record
  rw [dif_pos hreplaces]
  rfl

/-- What a call leaves active among the alerts on times, if it leaves five requests. -/
theorem mem_keys_record (dayText : ℚ → String) (hdaily : ledger.monitoring.dailyStats = .empty)
    (hfills : FillsFive (ledger, call)) :
    (AlertType.avgExecutionTime ∈ (ledger.record dayText call).monitoring.activeAlerts.keys ↔
      if call.checkedAt < ledger.monitoring.currentWindow.endTime then
        5000 < ledger.monitoring.currentWindow.avgExecutionTime
      else AlertType.avgExecutionTime ∈ ledger.monitoring.activeAlerts.keys) ∧
    (AlertType.p95ExecutionTime ∈ (ledger.record dayText call).monitoring.activeAlerts.keys ↔
      if call.checkedAt < ledger.monitoring.currentWindow.endTime then
        10000 < ledger.monitoring.currentWindow.p95ExecutionTime
      else AlertType.p95ExecutionTime ∈ ledger.monitoring.activeAlerts.keys) := by
  obtain ⟨hfour, hopen⟩ := hfills
  rw [monitoring_record]
  rcases next_cases dayText hdaily call with
    ⟨hbefore, alerts, hnext, hread⟩ | ⟨hover, hnone, hnext⟩ | ⟨hfinds, hnext⟩
  · rw [if_pos hfour] at hread
    rw [hnext, if_pos hbefore, if_pos hbefore]
    exact ⟨hread.average, hread.p95⟩
  · exact absurd hopen (not_or.mpr ⟨not_lt.mpr hover, hnone⟩)
  · have hover : ¬ call.checkedAt < ledger.monitoring.currentWindow.endTime :=
      not_lt.mpr hfinds.1
    rw [hnext, if_neg hover, if_neg hover]
    exact ⟨Iff.rfl, Iff.rfl⟩

/-- A call leaves five requests exactly when it finds four in a window that it does not
replace. -/
theorem five_le_record_iff (hdaily : ledger.monitoring.dailyStats = .empty) (call : RecordCall) :
    5 ≤ (ledger.record dayText call).monitoring.currentWindow.totalRequests ↔
      FillsFive (ledger, call) := by
  have hreplaces := replaces_iff dayText hdaily call
  unfold FillsFive
  by_cases hkeeps : Replaces dayText ledger.monitoring call
  · obtain ⟨hover, hnone⟩ := hreplaces.mp hkeeps
    rw [totalRequests_record_of_replaces hkeeps]
    refine iff_of_false (by omega) ?_
    rintro ⟨-, hbefore | hfinds⟩
    · exact absurd hover (not_le.mpr hbefore)
    · exact hnone hfinds
  · rw [totalRequests_record hkeeps]
    rw [hreplaces, not_and_or, not_le, not_not] at hkeeps
    exact ⟨fun hfive => ⟨Nat.le_of_succ_le_succ hfive, hkeeps⟩,
      fun hfills => Nat.succ_le_succ hfills.1⟩

/-- A call leaves the alerts on times right exactly when they are foretold, if it leaves five
requests. -/
theorem alertsRight_iff (hdaily : ledger.monitoring.dailyStats = .empty) (call : RecordCall) :
    AlertsRight dayText (ledger, call) ↔
      (FillsFive (ledger, call) → Foretells (ledger, call)) := by
  unfold AlertsRight
  rw [five_le_record_iff hdaily]
  refine forall_congr' fun hfills => ?_
  have hkeeps : ¬ Replaces dayText ledger.monitoring call := by
    rw [replaces_iff dayText hdaily, not_and_or, not_le, not_not]
    exact hfills.2
  obtain ⟨haverage, hp95⟩ := mem_keys_record dayText hdaily hfills
  constructor
  · rintro ⟨hmean, hpercentile⟩
    rw [executionTimes_record hkeeps] at hmean hpercentile
    exact ⟨haverage.symm.trans hmean, hp95.symm.trans hpercentile⟩
  · rintro ⟨hmean, hpercentile⟩
    constructor
    · rw [executionTimes_record hkeeps]
      exact haverage.trans hmean
    · rw [executionTimes_record hkeeps]
      exact hp95.trans hpercentile

/-! ## Runs -/

/-- The calls of a run, with the ledger each one meets. -/
def ledgerRun (dayText : ℚ → String) (ledger : MonitorLedger) (calls : List RecordCall) :
    List (MonitorLedger × RecordCall) :=
  moments (record dayText) ledger calls

/-- The times of a window with the one of a call are within the limits. -/
structure WithinLimits (moment : MonitorLedger × RecordCall) : Prop where
  average : mean (timesWith moment) ≤ 5000
  p95 : calculatePercentile (timesWith moment) (95 / 100) ≤ 10000

theorem dailyStats_ledgerRun (dayText : ℚ → String)
    (hdaily : ledger.monitoring.dailyStats = .empty) (calls : List RecordCall) :
    ∀ moment ∈ ledgerRun dayText ledger calls, moment.1.monitoring.dailyStats = .empty := by
  have hstep : ∀ (state : MonitorLedger) (event : RecordCall),
      state.monitoring.dailyStats = .empty →
        (state.record dayText event).monitoring.dailyStats = .empty := by
    intro state event hstate
    rw [monitoring_record]
    exact (dailyStats_next dayText hstate event).1
  intro moment hmem
  obtain ⟨before, -, -, hstate⟩ := mem_moments_iff.mp hmem
  rw [hstate]
  exact runEnd_invariant hstep hdaily before

/-- Under a clock that does not go back, no alert on times is ever active. -/
theorem noTimeAlerts_ledgerRun {windowSize now : ℚ} (dayText : ℚ → String)
    (hquiet : NoTimeAlerts windowSize now ledger.monitoring) {calls : List RecordCall}
    (horder : InOrder now calls) :
    ∀ moment ∈ ledgerRun dayText ledger calls,
      ∃ now, NoTimeAlerts windowSize now moment.1.monitoring ∧ moment.2.After now := by
  induction calls generalizing now ledger with
  | nil => simp [ledgerRun]
  | cons call rest ih =>
      refine List.forall_mem_cons.mpr ⟨⟨now, hquiet, horder.1⟩, ih ?_ horder.2⟩
      rw [monitoring_record]
      exact hquiet.next dayText horder.1

/-- A call under such a clock leaves the alerts on times right exactly when the times are
within the limits, if it leaves five requests. -/
theorem alertsRight_iff_withinLimits {windowSize now : ℚ}
    (hquiet : NoTimeAlerts windowSize now ledger.monitoring) (hafter : call.After now) :
    AlertsRight dayText (ledger, call) ↔
      (FillsFive (ledger, call) → WithinLimits (ledger, call)) := by
  have hnext := hquiet.next dayText hafter
  rw [← monitoring_record] at hnext
  unfold AlertsRight
  rw [five_le_record_iff hquiet.dailyStats_eq]
  refine forall_congr' fun hfills => ?_
  have hkeeps : ¬ Replaces dayText ledger.monitoring call := by
    rw [replaces_iff dayText hquiet.dailyStats_eq, not_and_or, not_le, not_not]
    exact hfills.2
  constructor
  · rintro ⟨hmean, hpercentile⟩
    rw [executionTimes_record hkeeps] at hmean hpercentile
    exact ⟨not_lt.mp (hnext.average ∘ hmean.mpr), not_lt.mp (hnext.p95 ∘ hpercentile.mpr)⟩
  · rintro ⟨hmean, hpercentile⟩
    constructor
    · rw [executionTimes_record hkeeps]
      exact iff_of_false hnext.average (not_lt.mpr hmean)
    · rw [executionTimes_record hkeeps]
      exact iff_of_false hnext.p95 (not_lt.mpr hpercentile)

end MonitorLedger

open MonitorLedger

/-- In every run of a monitor, the alerts on times are right after every call that leaves five
requests exactly when they are foretold by what each call finds. Under a clock that does not
go back this says that the times of no window exceed a limit. -/
theorem timeAlerts_iff (dayText : ℚ → String) (windowSize : ℚ) (maxMetrics : ℕ) (createdAt : ℚ)
    (calls : List RecordCall) :
    ((∀ moment ∈ ledgerRun dayText (.fresh windowSize maxMetrics createdAt) calls,
        AlertsRight dayText moment) ↔
      ∀ moment ∈ ledgerRun dayText (.fresh windowSize maxMetrics createdAt) calls,
        FillsFive moment → Foretells moment) ∧
    (InOrder createdAt calls →
      ((∀ moment ∈ ledgerRun dayText (.fresh windowSize maxMetrics createdAt) calls,
          AlertsRight dayText moment) ↔
        ∀ moment ∈ ledgerRun dayText (.fresh windowSize maxMetrics createdAt) calls,
          FillsFive moment → WithinLimits moment)) := by
  constructor
  · refine forall₂_congr fun moment hmem => ?_
    exact alertsRight_iff (dailyStats_ledgerRun dayText rfl calls moment hmem) moment.2
  · intro horder
    refine forall₂_congr fun moment hmem => ?_
    obtain ⟨now, hquiet, hafter⟩ := noTimeAlerts_ledgerRun dayText
      (noTimeAlerts_fresh windowSize maxMetrics createdAt) horder moment hmem
    exact alertsRight_iff_withinLimits hquiet hafter

/-! ## Five slow requests -/

/-- A success in twenty seconds, recorded at some minute. -/
def slowAt (now : ℚ) : RecordCall := { successAt now with executionTimeMs := 20000 }

/-- Five requests of a second in one window set off no alert on times, rightly. -/
theorem timeAlerts_iff_five_fast :
    ∀ moment ∈ ledgerRun (fun _ => "2025-01-01") (.fresh 10 10000 0)
        [successAt 1, successAt 2, successAt 3, successAt 4, successAt 5],
      AlertsRight (fun _ => "2025-01-01") moment := by
  refine ((timeAlerts_iff (fun _ => "2025-01-01") 10 10000 0 _).2 ?_).mpr ?_
  · refine ⟨⟨?_, le_refl _, le_refl _, le_refl _⟩, ⟨?_, le_refl _, le_refl _, le_refl _⟩,
      ⟨?_, le_refl _, le_refl _, le_refl _⟩, ⟨?_, le_refl _, le_refl _, le_refl _⟩,
      ⟨?_, le_refl _, le_refl _, le_refl _⟩, trivial⟩ <;> decide +kernel
  · simp only [ledgerRun, moments_cons, moments_nil, List.forall_mem_cons, List.not_mem_nil,
      false_implies, implies_true, and_true]
    refine ⟨?_, ?_, ?_, ?_, fun _ => ⟨?_, ?_⟩⟩
    · exact fun hfills => absurd hfills.1 (by decide +kernel)
    · exact fun hfills => absurd hfills.1 (by decide +kernel)
    · exact fun hfills => absurd hfills.1 (by decide +kernel)
    · exact fun hfills => absurd hfills.1 (by decide +kernel)
    · decide +kernel
    · decide +kernel

/-- Five requests of twenty seconds in one window set off no alert on times. -/
theorem timeAlerts_miss_five_slow :
    InOrder 0 [slowAt 1, slowAt 2, slowAt 3, slowAt 4, slowAt 5] ∧
      ¬ ∀ moment ∈ ledgerRun (fun _ => "2025-01-01") (.fresh 10 10000 0)
          [slowAt 1, slowAt 2, slowAt 3, slowAt 4, slowAt 5],
        AlertsRight (fun _ => "2025-01-01") moment := by
  constructor
  · refine ⟨⟨?_, le_refl _, le_refl _, le_refl _⟩, ⟨?_, le_refl _, le_refl _, le_refl _⟩,
      ⟨?_, le_refl _, le_refl _, le_refl _⟩, ⟨?_, le_refl _, le_refl _, le_refl _⟩,
      ⟨?_, le_refl _, le_refl _, le_refl _⟩, trivial⟩ <;> decide +kernel
  · intro hright
    simp only [ledgerRun, moments_cons, moments_nil, List.forall_mem_cons] at hright
    obtain ⟨-, -, -, -, hfifth, -⟩ := hright
    have hactive := (hfifth (by decide +kernel)).average
    revert hactive
    decide +kernel

end Goveling.Ortools
