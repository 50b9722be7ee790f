/-
# The statistics of an hour

Closing a window stores it under the hour in which it started, in place of what was
stored there, and only if some of its metrics are still remembered. What is stored is the
window itself, so it goes on counting while it stays current. Every window that has been
closed has a request, so an hour's statistics are those of its windows exactly when it has
one window only, and that one was stored.
-/

import Goveling.Ortools.WindowCounts

namespace Goveling.Ortools

open Goveling.Math Goveling.Python ORToolsMonitoring

/-! ## Windows as objects -/

/-- A monitor with its ledger and `hourly_stats`. A window is kept there by its place among
the windows of the ledger, and `finalized` says whether the current one has been finalised. -/
structure HourlyLedger where
  ledger : MonitorLedger
  hourlyStats : OrderedMap String ℕ
  finalized : Bool

namespace HourlyLedger

variable {dayText hourText : ℚ → String} {state : HourlyLedger} {call : RecordCall}

/-- The ledger of a monitor that has been created at some time. -/
def fresh (windowSize : ℚ) (maxMetrics : ℕ) (now : ℚ) : HourlyLedger where
  ledger := .fresh windowSize maxMetrics now
  hourlyStats := .empty
  finalized := false

/-- `self.hourly_stats[hour_key] = window` in `_finalize_window`, which is called on a window
that is over and returns early if none of its metrics is remembered. -/
def storeWindow (hourText : ℚ → String) (state : HourlyLedger) (call : RecordCall) :
    OrderedMap String ℕ :=
  let monitoring := state.ledger.monitoring
  if monitoring.currentWindow.endTime ≤ call.checkedAt ∧
      (monitoring.addCall call).windowMetrics ≠ [] then
    state.hourlyStats.set (hourText monitoring.currentWindow.startTime) state.ledger.closed.length
  else state.hourlyStats

/-- A call with the hours beside it. -/
def record (dayText hourText : ℚ → String) (state : HourlyLedger) (call : RecordCall) :
    HourlyLedger where
  ledger := state.ledger.record dayText call
  hourlyStats := state.storeWindow hourText call
  finalized :=
    if Replaces dayText state.ledger.monitoring call then false
    else state.finalized || state.ledger.monitoring.currentWindow.endTime ≤ call.checkedAt

/-- The windows that have been finalised. -/
def finalizedWindows (state : HourlyLedger) : List CountedWindow :=
  if state.finalized then state.ledger.windows else state.ledger.closed

/-- The hour in which a window started. -/
def hourOf (hourText : ℚ → String) (entry : CountedWindow) : String :=
  hourText entry.window.startTime

/-- The finalised windows of an hour. -/
def windowsOf (hourText : ℚ → String) (state : HourlyLedger) (hour : String) :
    List CountedWindow :=
  state.finalizedWindows.filter fun entry => hourOf hourText entry = hour

/-- What is kept for an hour has the counts of some windows. -/
structure Sums (kept : PerformanceWindow) (windows : List CountedWindow) : Prop where
  requests : kept.totalRequests = (windows.map fun entry => entry.window.totalRequests).sum
  successes : kept.successCount = (windows.map fun entry => entry.window.successCount).sum

/-- The statistics that are kept for an hour aggregate all its finalised windows. -/
def Aggregates (hourText : ℚ → String) (state : HourlyLedger) : Prop :=
  ∀ hour, state.windowsOf hourText hour ≠ [] →
    ∃ place entry, state.hourlyStats.get? hour = some place ∧
      state.ledger.windows[place]? = some entry ∧
      Sums entry.window (state.windowsOf hourText hour)

/-- The hour of the current window. -/
def currentHour (hourText : ℚ → String) (state : HourlyLedger) : String :=
  hourText state.ledger.monitoring.currentWindow.startTime

/-- A call that finalises a window stores it in an hour without a closed window, or finds it
stored. -/
def StoresAlone (hourText : ℚ → String) : HourlyLedger × RecordCall → Prop
  | (state, call) => state.ledger.monitoring.currentWindow.endTime ≤ call.checkedAt →
      (FindsOldMetrics (state.ledger.monitoring, call) →
        state.currentHour hourText ∉ state.ledger.closed.map (hourOf hourText)) ∧
      (¬ FindsOldMetrics (state.ledger.monitoring, call) →
        state.hourlyStats.get? (state.currentHour hourText) = some state.ledger.closed.length)

/-! ## What a call stores -/

theorem startTime_finalizedWindow (dayText : ℚ → String) (monitoring : ORToolsMonitoring)
    (call : RecordCall) :
    (finalizedWindow dayText monitoring call).startTime = monitoring.currentWindow.startTime := by
  unfold finalizedWindow
  rcases currentWindow_finalizeWindow dayText (monitoring.addCall call) with hsame | hstatistics
  · rw [hsame]
    rfl
  · rw [hstatistics]
    rfl

/-- A window that a call does not replace started when it did. -/
theorem startTime_next {monitoring : ORToolsMonitoring}
    (hkeeps : ¬ Replaces dayText monitoring call) :
    (monitoring.next dayText call).currentWindow.startTime =
      monitoring.currentWindow.startTime := by
  rcases currentWindow_next dayText monitoring call with ⟨hreplaces, -⟩ | ⟨-, hcounts | hcloses⟩
  · exact absurd hreplaces hkeeps
  · rw [hcounts]
    rfl
  · rw [hcloses, startTime_finalizedWindow]

/-- The hours of the finalised windows. -/
def hours (hourText : ℚ → String) (state : HourlyLedger) : List String :=
  state.finalizedWindows.map (hourOf hourText)

/-- The hours of the windows that are not current any more. -/
def closedHours (hourText : ℚ → String) (state : HourlyLedger) : List String :=
  state.ledger.closed.map (hourOf hourText)

theorem hours_eq (hourText : ℚ → String) (state : HourlyLedger) :
    state.hours hourText =
      state.closedHours hourText ++
        if state.finalized then [state.currentHour hourText] else [] := by
  unfold hours closedHours finalizedWindows MonitorLedger.windows
  split
  · rw [List.map_append]
    rfl
  · rw [List.append_nil]

theorem currentHour_record (hkeeps : ¬ Replaces dayText state.ledger.monitoring call) :
    (state.record dayText hourText call).currentHour hourText = state.currentHour hourText := by
  unfold currentHour record
  rw [MonitorLedger.monitoring_record, startTime_next hkeeps]

theorem closed_record (hkeeps : ¬ Replaces dayText state.ledger.monitoring call) :
    (state.record dayText hourText call).ledger.closed = state.ledger.closed := by
  unfold record MonitorLedger.record
  rw [dif_neg hkeeps]

theorem closedHours_record_of_replaces
    (hreplaces : Replaces dayText state.ledger.monitoring call) :
    (state.record dayText hourText call).closedHours hourText =
      state.closedHours hourText ++ [state.currentHour hourText] := by
  unfold closedHours record MonitorLedger.record
  rw [dif_pos hreplaces, List.map_append, List.map_singleton]
  unfold hourOf currentHour
  rw [startTime_finalizedWindow]

/-- What a call does to the hours: in a window that is not over nothing, a window that it
replaces is finalised, and one that it cannot close is finalised and stored. -/
theorem record_cases (dayText hourText : ℚ → String)
    (hdaily : state.ledger.monitoring.dailyStats = .empty) (call : RecordCall) :
    (call.checkedAt < state.ledger.monitoring.currentWindow.endTime ∧
      (state.record dayText hourText call).hours hourText = state.hours hourText ∧
      (state.record dayText hourText call).hourlyStats = state.hourlyStats) ∨
    (state.ledger.monitoring.currentWindow.endTime ≤ call.checkedAt ∧
      ¬ FindsOldMetrics (state.ledger.monitoring, call) ∧
      (state.record dayText hourText call).hours hourText =
        state.closedHours hourText ++ [state.currentHour hourText] ∧
      (state.record dayText hourText call).hourlyStats = state.hourlyStats) ∨
    (FindsOldMetrics (state.ledger.monitoring, call) ∧
      (state.record dayText hourText call).hours hourText =
        state.closedHours hourText ++ [state.currentHour hourText] ∧
      (state.record dayText hourText call).hourlyStats =
        state.hourlyStats.set (state.currentHour hourText) state.ledger.closed.length) := by
  have hreplaces := replaces_iff dayText hdaily call
  have hfound : (state.ledger.monitoring.addCall call).windowMetrics ≠ [] ↔
      ∃ metric ∈ (state.ledger.monitoring.addCall call).metrics,
        state.ledger.monitoring.currentWindow.Contains metric.timestamp := by
    rw [Ne, windowMetrics_addCall_eq_nil_iff, not_not]
  rw [hours_eq hourText (state.record dayText hourText call), hours_eq hourText state]
  by_cases hover : state.ledger.monitoring.currentWindow.endTime ≤ call.checkedAt
  · by_cases hfinds : FindsOldMetrics (state.ledger.monitoring, call)
    · have hkeeps : ¬ Replaces dayText state.ledger.monitoring call :=
        fun hreplaced => (hreplaces.mp hreplaced).2 hfinds
      refine .inr (.inr ⟨hfinds, ?_, if_pos ⟨hover, hfound.mpr hfinds.2⟩⟩)
      rw [currentHour_record hkeeps]
      unfold closedHours
      rw [closed_record hkeeps]
      simp [record, hkeeps, hover]
    · have hreplaced : Replaces dayText state.ledger.monitoring call :=
        hreplaces.mpr ⟨hover, hfinds⟩
      have hnone : ¬ (state.ledger.monitoring.addCall call).windowMetrics ≠ [] :=
        fun hsome => hfinds ⟨hover, hfound.mp hsome⟩
      refine .inr (.inl ⟨hover, hfinds, ?_, if_neg fun hboth => hnone hboth.2⟩)
      rw [closedHours_record_of_replaces hreplaced]
      simp [record, hreplaced]
  · have hkeeps : ¬ Replaces dayText state.ledger.monitoring call :=
      fun hreplaced => hover hreplaced.1
    refine .inl ⟨not_le.mp hover, ?_, if_neg fun hboth => hover hboth.1⟩
    rw [currentHour_record hkeeps]
    unfold closedHours
    rw [closed_record hkeeps]
    simp [record, hkeeps, hover]

/-! ## Windows that are kept -/

/-- Every hour of a list leads to its place. -/
def LeadBack (stats : OrderedMap String ℕ) (hours : List String) : Prop :=
  ∀ place hour, hours[place]? = some hour → stats.get? hour = some place

theorem leadBack_append_singleton {stats : OrderedMap String ℕ} {hours : List String}
    {hour : String} :
    LeadBack stats (hours ++ [hour]) ↔
      LeadBack stats hours ∧ stats.get? hour = some hours.length := by
  constructor
  · intro hall
    refine ⟨fun place other hplace => hall place other ?_, hall hours.length hour (by simp)⟩
    rw [List.getElem?_append_left (List.getElem?_eq_some_iff.mp hplace).1]
    exact hplace
  · rintro ⟨hall, hlast⟩ place other hplace
    rw [List.getElem?_append] at hplace
    split at hplace
    · exact hall place other hplace
    · rename_i hbeyond
      rw [List.getElem?_singleton] at hplace
      split at hplace
      · cases hplace
        rw [hlast]
        exact congrArg some (by omega)
      · cases hplace

/-- An hour that is stored leads to a new place, and back to no older one. -/
theorem leadBack_set {stats : OrderedMap String ℕ} {hours : List String} {hour : String} :
    LeadBack (stats.set hour hours.length) hours ↔ LeadBack stats hours ∧ hour ∉ hours := by
  constructor
  · intro hall
    have hmissing : hour ∉ hours := by
      intro hmem
      obtain ⟨place, hplace⟩ := List.mem_iff_getElem?.mp hmem
      have hback := hall place hour hplace
      rw [OrderedMap.get?_set, if_pos rfl] at hback
      have hlt := (List.getElem?_eq_some_iff.mp hplace).1
      exact absurd (Option.some.inj hback) (by omega)
    refine ⟨fun place other hplace => ?_, hmissing⟩
    have hne : other ≠ hour := fun hsame => hmissing (hsame ▸ List.mem_of_getElem? hplace)
    have hback := hall place other hplace
    rwa [OrderedMap.get?_set, if_neg hne] at hback
  · rintro ⟨hall, hmissing⟩ place other hplace
    have hne : other ≠ hour := fun hsame => hmissing (hsame ▸ List.mem_of_getElem? hplace)
    rw [OrderedMap.get?_set, if_neg hne]
    exact hall place other hplace

/-- What is true of a ledger at any time. -/
structure Stored (hourText : ℚ → String) (state : HourlyLedger) : Prop where
  daily : state.ledger.monitoring.dailyStats = .empty
  leads : ∀ hour place, state.hourlyStats.get? hour = some place →
    (state.hours hourText)[place]? = some hour
  current : state.finalized = true →
    state.hourlyStats.get? (state.currentHour hourText) = some state.ledger.closed.length
  counted : ∀ entry ∈ state.finalizedWindows, 1 ≤ entry.window.totalRequests

/-- Every finalised window is kept. -/
def Kept (hourText : ℚ → String) (state : HourlyLedger) : Prop :=
  LeadBack state.hourlyStats (state.hours hourText)

theorem kept_iff (hstored : Stored hourText state) :
    state.Kept hourText ↔ LeadBack state.hourlyStats (state.closedHours hourText) := by
  unfold Kept
  rw [hours_eq]
  split
  · rename_i hfinalized
    rw [leadBack_append_singleton]
    refine and_iff_left ?_
    rw [hstored.current hfinalized]
    exact congrArg some (List.length_map _).symm
  · rw [List.append_nil]

/-- A call keeps the windows kept exactly when it stores alone. -/
theorem kept_record_iff (hstored : Stored hourText state) (call : RecordCall) :
    (state.record dayText hourText call).Kept hourText ↔
      state.Kept hourText ∧ StoresAlone hourText (state, call) := by
  have hlength : (state.closedHours hourText).length = state.ledger.closed.length :=
    List.length_map _
  rw [kept_iff hstored]
  unfold Kept StoresAlone
  rcases record_cases dayText hourText hstored.daily call with
    ⟨hbefore, hhours, hstats⟩ | ⟨hover, hnone, hhours, hstats⟩ | ⟨hfinds, hhours, hstats⟩
  · rw [hhours, hstats, ← kept_iff hstored]
    exact (and_iff_left fun hover => absurd hbefore (not_lt.mpr hover)).symm
  · rw [hhours, hstats, leadBack_append_singleton, hlength]
    refine and_congr_right fun _ => ⟨fun hkept _ => ⟨fun hfinds => absurd hfinds hnone,
      fun _ => hkept⟩, fun hallowed => (hallowed hover).2 hnone⟩
  · rw [hhours, hstats, leadBack_append_singleton, ← hlength, leadBack_set, and_assoc]
    refine and_congr_right fun _ => ⟨?_, fun hallowed => ⟨(hallowed hfinds.1).1 hfinds, ?_⟩⟩
    · rintro ⟨hmissing, -⟩ -
      exact ⟨fun _ => hmissing, fun hnone => absurd hfinds hnone⟩
    · rw [OrderedMap.get?_set, if_pos rfl]

theorem closed_subset_finalizedWindows (state : HourlyLedger) :
    state.ledger.closed ⊆ state.finalizedWindows := by
  unfold finalizedWindows MonitorLedger.windows
  split
  · exact List.subset_append_left _ _
  · exact List.Subset.refl _

theorem hours_prefix (hourText : ℚ → String) (state : HourlyLedger) :
    state.hours hourText <+: state.closedHours hourText ++ [state.currentHour hourText] := by
  rw [hours_eq]
  split
  · exact List.prefix_rfl
  · rw [List.append_nil]
    exact List.prefix_append _ _

/-- A finalised window has the request that finalised it. -/
theorem counted_record (dayText hourText : ℚ → String)
    (hcounted : ∀ entry ∈ state.finalizedWindows, 1 ≤ entry.window.totalRequests)
    (call : RecordCall) :
    ∀ entry ∈ (state.record dayText hourText call).finalizedWindows,
      1 ≤ entry.window.totalRequests := by
  have hclosed : ∀ entry ∈ state.ledger.closed, 1 ≤ entry.window.totalRequests :=
    fun entry hentry => hcounted entry (closed_subset_finalizedWindows state hentry)
  have hlast : ∀ entry : CountedWindow, entry.counted = state.ledger.counted ++ [call.metric] →
      1 ≤ entry.window.totalRequests := by
    intro entry hentry
    rw [entry.tallied.requests, hentry, List.length_append]
    exact Nat.le_add_left _ _
  by_cases hreplaces : Replaces dayText state.ledger.monitoring call
  · have hwindows : (state.record dayText hourText call).finalizedWindows =
        state.ledger.closed ++ [{
          window := finalizedWindow dayText state.ledger.monitoring call
          counted := state.ledger.counted ++ [call.metric]
          tallied := tallies_finalizedWindow state.ledger.tallied call }] := by
      simp [finalizedWindows, record, MonitorLedger.record, hreplaces]
    rw [hwindows, List.forall_mem_append, List.forall_mem_singleton]
    exact ⟨hclosed, hlast _ rfl⟩
  · intro entry hentry
    have hmem : entry ∈ (state.record dayText hourText call).ledger.windows := by
      unfold finalizedWindows at hentry
      split at hentry
      · exact hentry
      · exact List.mem_append_left _ hentry
    unfold MonitorLedger.windows at hmem
    rw [closed_record hreplaces, List.mem_append, List.mem_singleton] at hmem
    rcases hmem with hold | rfl
    · exact hclosed entry hold
    · apply hlast
      unfold record MonitorLedger.record
      rw [dif_neg hreplaces]

/-- A call leaves what is stored in order. -/
theorem Stored.record (dayText : ℚ → String) (hstored : Stored hourText state)
    (call : RecordCall) : Stored hourText (state.record dayText hourText call) := by
  have hlength : (state.closedHours hourText).length = state.ledger.closed.length :=
    List.length_map _
  have hprefix {place : ℕ} {hour : String} (hplace : (state.hours hourText)[place]? = some hour) :
      (state.closedHours hourText ++ [state.currentHour hourText])[place]? = some hour := by
    obtain ⟨later, hlater⟩ := state.hours_prefix hourText
    rw [← hlater, List.getElem?_append_left (List.getElem?_eq_some_iff.mp hplace).1]
    exact hplace
  have hreplaces := replaces_iff dayText hstored.daily call
  have hdaily : (state.record dayText hourText call).ledger.monitoring.dailyStats = .empty := by
    unfold HourlyLedger.record
    rw [MonitorLedger.monitoring_record]
    exact (MonitorLedger.dailyStats_next dayText hstored.daily call).1
  have hcounted := counted_record dayText hourText hstored.counted call
  rcases record_cases dayText hourText hstored.daily call with
    ⟨hbefore, hhours, hstats⟩ | ⟨hover, hnone, hhours, hstats⟩ | ⟨hfinds, hhours, hstats⟩
  · have hkeeps : ¬ Replaces dayText state.ledger.monitoring call :=
      fun hreplaced => absurd hbefore (not_lt.mpr hreplaced.1)
    refine ⟨hdaily, ?_, ?_, hcounted⟩
    · rw [hhours, hstats]
      exact hstored.leads
    · intro hfinalized
      rw [hstats, currentHour_record hkeeps, closed_record hkeeps]
      refine hstored.current ?_
      simpa [HourlyLedger.record, hkeeps, not_le.mpr hbefore] using hfinalized
  · refine ⟨hdaily, ?_, ?_, hcounted⟩
    · rw [hhours, hstats]
      exact fun hour place hplace => hprefix (hstored.leads hour place hplace)
    · intro hfinalized
      have hreplaced : Replaces dayText state.ledger.monitoring call :=
        hreplaces.mpr ⟨hover, hnone⟩
      simp [HourlyLedger.record, hreplaced] at hfinalized
  · have hkeeps : ¬ Replaces dayText state.ledger.monitoring call :=
      fun hreplaced => (hreplaces.mp hreplaced).2 hfinds
    refine ⟨hdaily, ?_, ?_, hcounted⟩
    · intro hour place hplace
      rw [hstats, OrderedMap.get?_set] at hplace
      rw [hhours]
      split at hplace
      · rename_i hsame
        cases hplace
        rw [← hlength, hsame]
        simp
      · exact hprefix (hstored.leads hour place hplace)
    · intro _
      rw [hstats, currentHour_record hkeeps, closed_record hkeeps, OrderedMap.get?_set, if_pos rfl]

theorem stored_fresh (hourText : ℚ → String) (windowSize : ℚ) (maxMetrics : ℕ) (now : ℚ) :
    Stored hourText (fresh windowSize maxMetrics now) where
  daily := rfl
  leads _ _ hplace := nomatch hplace
  current hfinalized := nomatch hfinalized
  counted _ hentry := nomatch hentry

/-! ## Windows and their sums -/

theorem finalizedWindows_prefix (state : HourlyLedger) :
    state.finalizedWindows <+: state.ledger.windows := by
  unfold finalizedWindows
  split
  · exact List.prefix_rfl
  · exact List.prefix_append _ _

theorem getElem?_windows {place : ℕ} {entry : CountedWindow}
    (hplace : state.finalizedWindows[place]? = some entry) :
    state.ledger.windows[place]? = some entry := by
  obtain ⟨later, hlater⟩ := state.finalizedWindows_prefix
  rw [← hlater, List.getElem?_append_left (List.getElem?_eq_some_iff.mp hplace).1]
  exact hplace

theorem getElem?_hours_iff {place : ℕ} {hour : String} :
    (state.hours hourText)[place]? = some hour ↔
      ∃ entry, state.finalizedWindows[place]? = some entry ∧ hourOf hourText entry = hour := by
  unfold hours
  rw [List.getElem?_map, Option.map_eq_some_iff]

/-- The hours have the sums of their windows exactly when every finalised window is kept. -/
theorem aggregates_iff_kept (hstored : Stored hourText state) :
    state.Aggregates hourText ↔ state.Kept hourText := by
  constructor
  · intro haggregates place hour hplace
    obtain ⟨entry, hentry, hhour⟩ := getElem?_hours_iff.mp hplace
    have hmem : entry ∈ state.windowsOf hourText hour :=
      List.mem_filter.mpr ⟨List.mem_of_getElem? hentry, decide_eq_true hhour⟩
    obtain ⟨kept, window, hkept, hwindow, hsums⟩ :=
      haggregates hour (List.ne_nil_of_mem hmem)
    obtain ⟨found, hfound, hsame⟩ := getElem?_hours_iff.mp (hstored.leads hour kept hkept)
    rw [getElem?_windows hfound] at hwindow
    cases hwindow
    have hplaces : place = kept :=
      eq_of_sum_filter_le hstored.counted hfound (decide_eq_true hsame) hsums.requests.ge hentry
        (decide_eq_true hhour)
    rw [hkept, hplaces]
  · intro hkept hour hsome
    obtain ⟨entry, hmem⟩ := List.exists_mem_of_ne_nil _ hsome
    obtain ⟨hfinalized, hhour⟩ := List.mem_filter.mp hmem
    obtain ⟨place, hplace⟩ := List.mem_iff_getElem?.mp hfinalized
    have hback := hkept place hour (getElem?_hours_iff.mpr ⟨entry, hplace, of_decide_eq_true hhour⟩)
    have honly : state.windowsOf hourText hour = [entry] := by
      refine filter_eq_singleton hplace hhour fun other found hother hfound => ?_
      have hagain := hkept other hour
        (getElem?_hours_iff.mpr ⟨found, hother, of_decide_eq_true hfound⟩)
      exact Option.some.inj (hagain.symm.trans hback)
    refine ⟨place, entry, hback, getElem?_windows hplace, ?_⟩
    rw [honly]
    exact ⟨rfl, rfl⟩

end HourlyLedger

open HourlyLedger in
/-- In every run of a monitor, at any times, the statistics of every hour are the sums over its
finalised windows exactly when every call that finalises a window either finds none of its
metrics and the window stored, or stores it in an hour of no other window. -/
theorem hourlyStats_aggregates_iff (dayText hourText : ℚ → String) (windowSize : ℚ)
    (maxMetrics : ℕ) (createdAt : ℚ) (calls : List RecordCall) :
    (runEnd (record dayText hourText) (.fresh windowSize maxMetrics createdAt) calls).Aggregates
        hourText ↔
      ∀ moment ∈ moments (record dayText hourText) (.fresh windowSize maxMetrics createdAt) calls,
        StoresAlone hourText moment := by
  have hfresh := stored_fresh hourText windowSize maxMetrics createdAt
  have hstep : ∀ (state : HourlyLedger) (call : RecordCall), Stored hourText state →
      Stored hourText (state.record dayText hourText call) :=
    fun state call hstored => hstored.record dayText call
  have hkept : (HourlyLedger.fresh windowSize maxMetrics createdAt).Kept hourText := by
    intro place hour hplace
    simp [hours, finalizedWindows, HourlyLedger.fresh, MonitorLedger.fresh] at hplace
  rw [aggregates_iff_kept (runEnd_invariant hstep hfresh calls),
    holds_runEnd_iff (Stored hourText) (fun state call _ => hstep state call)
      (fun state call _ hstored => kept_record_iff hstored call) hfresh]
  exact and_iff_right hkept

/-- A record that begins in one minute and is checked in the next. -/
def recordAcross (now : ℚ) : RecordCall where
  method := "ortools"
  executionTimeMs := 1000
  status := .success
  recordedAt := now
  checkedAt := now + 1
  createdAt := now + 1
  alertedAt := now + 1

open HourlyLedger in
/-- Two windows of ten minutes in an hour, of a monitor that remembers one metric: the hour
has the one request of the second and not the two of the first. -/
theorem hourlyStats_overwritten :
    InOrder 0 [recordAcross 9, successAt 11, recordAcross 20] ∧
      ¬ (runEnd (record (fun _ => "2025-01-01") fun _ => "2025-01-01-00") (.fresh 10 1 0)
        [recordAcross 9, successAt 11, recordAcross 20]).Aggregates fun _ => "2025-01-01-00" := by
  constructor
  · refine ⟨⟨?_, ?_, ?_, ?_⟩, ⟨?_, ?_, ?_, ?_⟩, ⟨?_, ?_, ?_, ?_⟩, trivial⟩ <;> decide +kernel
  · intro haggregates
    obtain ⟨place, entry, hkept, hwindow, hsums⟩ :=
      haggregates "2025-01-01-00" (by decide +kernel)
    have hsecond : (runEnd (record (fun _ => "2025-01-01") fun _ => "2025-01-01-00")
        (.fresh 10 1 0) [recordAcross 9, successAt 11, recordAcross 20]).hourlyStats.get?
          "2025-01-01-00" = some 1 := by decide +kernel
    have hone : ((runEnd (record (fun _ => "2025-01-01") fun _ => "2025-01-01-00")
        (.fresh 10 1 0) [recordAcross 9, successAt 11, recordAcross 20]).ledger.windows[1]?.map
          fun entry => entry.window.totalRequests) = some 1 := by decide +kernel
    rw [hsecond] at hkept
    cases hkept
    rw [hwindow] at hone
    have hthree := hsums.requests.symm.trans (Option.some.inj hone)
    revert hthree
    decide +kernel

end Goveling.Ortools
