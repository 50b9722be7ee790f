/-
# Alerts and their history

An alert is one object: it is kept under its type while it is active, and it stands in the
history for good. Triggering a type that is active puts a new alert under the type, and
the old one is never resolved: the history shows it as active from then on. So the history
and the active alerts agree after a run of checks exactly when no check has triggered a
type that was active.
-/

import Goveling.Math.OpenLog
import Goveling.Ortools.Monitoring

namespace Goveling.Ortools

open Goveling.Math Goveling.Python

/-! ## Alerts as objects -/

/-- The status of an alert. -/
inductive AlertStatus
  | active | resolved
  deriving DecidableEq, Repr

/-- The text of a type of alerts. -/
def AlertType.text : AlertType → String
  | .successRate => "success_rate"
  | .avgExecutionTime => "avg_execution_time"
  | .p95ExecutionTime => "p95_execution_time"
  | .errorRate => "error_rate"

/-- An alert of the history. -/
structure AlertEntry extends Alert where
  id : String
  status : AlertStatus := .active
  resolvedAt : Option ℚ := none

/-- What the readings of the clock give in the turn of a type. -/
structure AlertClock where
  namedAt : ℚ
  triggeredAt : ℚ
  resolvedAt : ℚ

/-- `active_alerts` and `alert_history`. The alert of a type is kept by its place in the
history, where the same object stands. -/
structure AlertBoard where
  activeAlerts : OrderedMap AlertType ℕ
  alertHistory : List AlertEntry

/-- A look at a window with its readings of the clock. -/
structure AlertCheck where
  window : PerformanceWindow
  clock : AlertType → AlertClock

/-- The alert that `_trigger_alert` builds. -/
def newAlert (isoText : ℚ → String) (type : AlertType) (data : PyDict) (clock : AlertClock) :
    AlertEntry where
  type := type
  timestamp := clock.triggeredAt
  severity := PyDict.get data "severity" (.str "MEDIUM")
  data := data
  id := type.text ++ "_" ++ isoText clock.namedAt

/-- What `_clear_alert` writes into an alert. -/
def AlertEntry.resolve (clock : AlertClock) (alert : AlertEntry) : AlertEntry :=
  { alert with
    status := .resolved
    resolvedAt := some clock.resolvedAt }

namespace AlertBoard

/-- A board without alerts. -/
def fresh : AlertBoard := ⟨.empty, []⟩

/-- `_trigger_alert`. -/
def triggerAlert (isoText : ℚ → String) (board : AlertBoard) (type : AlertType) (data : PyDict)
    (clock : AlertClock) : AlertBoard where
  activeAlerts := board.activeAlerts.set type board.alertHistory.length
  alertHistory := board.alertHistory ++ [newAlert isoText type data clock]

/-- `_clear_alert`. -/
def clearAlert (board : AlertBoard) (type : AlertType) (clock : AlertClock) : AlertBoard :=
  match board.activeAlerts.get? type with
  | some place =>
      { activeAlerts := board.activeAlerts.erase type
        alertHistory := board.alertHistory.modify place (AlertEntry.resolve clock) }
  | none => board

/-- One turn of the loop over the alerts. -/
def checkAlert (isoText : ℚ → String) (check : AlertCheck) (board : AlertBoard)
    (alert : AlertType × (PerformanceWindow → Except PyError (Option PyDict))) :
    Except PyError AlertBoard := do
  match ← alert.2 check.window with
  | some data => return board.triggerAlert isoText alert.1 data (check.clock alert.1)
  | none => return board.clearAlert alert.1 (check.clock alert.1)

/-- `_check_alerts`. -/
def checkAlerts (isoText : ℚ → String) (board : AlertBoard) (check : AlertCheck) :
    Except PyError AlertBoard :=
  if check.window.totalRequests < 5 then .ok board
  else alertsToCheck.foldlM (checkAlert isoText check) board

/-- The board after a check. -/
def next (isoText : ℚ → String) (board : AlertBoard) (check : AlertCheck) : AlertBoard :=
  match board.checkAlerts isoText check with
  | .ok checked => checked
  | .error _ => board

/-- The alerts of a type that the history shows as active. -/
def activeEntries (board : AlertBoard) (type : AlertType) : List AlertEntry :=
  board.alertHistory.filter fun alert => alert.status = .active ∧ alert.type = type

/-- What is promised of a board: the active alerts are the alerts that the history shows as
active, an active type has one of these and a type that has been cleared has none. -/
structure Agrees (board : AlertBoard) : Prop where
  values : ∀ place, place ∈ board.activeAlerts.values ↔
    ∃ alert, board.alertHistory[place]? = some alert ∧ alert.status = .active
  active : ∀ type ∈ board.activeAlerts.keys, (board.activeEntries type).length = 1
  cleared : ∀ type, type ∉ board.activeAlerts.keys → board.activeEntries type = []

/-- A check triggers a type that is active. -/
def Retriggers : AlertBoard × AlertCheck → Prop
  | (board, check) => 5 ≤ check.window.totalRequests ∧ ∃ alert ∈ alertsToCheck,
      alert.1 ∈ board.activeAlerts.keys ∧ ∃ data, alert.2 check.window = .ok (some data)

/-! ## The history as a log -/

/-- Alerts are entries of a log under their types, open while they are active. -/
def alertKind : EntryKind AlertType AlertEntry where
  keyOf alert := alert.type
  isOpen alert := alert.status = .active

/-- A board as a log with the places of its open entries. -/
def toOpenLog (board : AlertBoard) : OpenLog AlertType AlertEntry :=
  ⟨board.activeAlerts, board.alertHistory⟩

theorem toOpenLog_triggerAlert (isoText : ℚ → String) (board : AlertBoard) (type : AlertType)
    (data : PyDict) (clock : AlertClock) :
    (board.triggerAlert isoText type data clock).toOpenLog =
      board.toOpenLog.opens alertKind (newAlert isoText type data clock) := rfl

theorem toOpenLog_clearAlert (board : AlertBoard) (type : AlertType) (clock : AlertClock) :
    (board.clearAlert type clock).toOpenLog =
      board.toOpenLog.closes type (AlertEntry.resolve clock) := by
  unfold clearAlert OpenLog.closes
  show _ = match board.activeAlerts.get? type with
    | some place => _
    | none => _
  cases board.activeAlerts.get? type <;> rfl

theorem openCount_toOpenLog (board : AlertBoard) (type : AlertType) :
    OpenLog.openCount alertKind board.toOpenLog type = (board.activeEntries type).length := by
  unfold OpenLog.openCount activeEntries
  rw [List.countP_eq_length_filter]
  congr 1
  apply List.filter_congr
  intro alert _
  exact (Bool.decide_and _ _).symm

/-- The promise about a board is that the log and its map agree. -/
theorem agrees_iff_toOpenLog (board : AlertBoard) :
    board.Agrees ↔ OpenLog.Agrees alertKind board.toOpenLog := by
  constructor
  · rintro ⟨hvalues, hactive, hcleared⟩
    constructor
    · simpa [alertKind, toOpenLog] using hvalues
    · intro type htype
      rw [openCount_toOpenLog, hactive type htype]
    · intro type htype
      rw [openCount_toOpenLog, hcleared type htype, List.length_nil]
  · rintro ⟨hplaces, hheld, hreleased⟩
    constructor
    · simpa [alertKind, toOpenLog] using hplaces
    · intro type htype
      rw [← openCount_toOpenLog, hheld type htype]
    · intro type htype
      apply List.eq_nil_of_length_eq_zero
      rw [← openCount_toOpenLog, hreleased type htype]

/-- What the turn of a type does to the log, given what its check finds. -/
def turnEvent (isoText : ℚ → String) (check : AlertCheck) (type : AlertType) :
    Option PyDict → LogEvent AlertType AlertEntry
  | some data => .opens (newAlert isoText type data (check.clock type))
  | none => .closes type (AlertEntry.resolve (check.clock type))

theorem lawful_turnEvent (isoText : ℚ → String) (check : AlertCheck) (type : AlertType)
    (found : Option PyDict) : (turnEvent isoText check type found).Lawful alertKind := by
  cases found with
  | none => exact fun _ => ⟨rfl, rfl⟩
  | some data => rfl

theorem key_turnEvent (isoText : ℚ → String) (check : AlertCheck) (type : AlertType)
    (found : Option PyDict) : (turnEvent isoText check type found).key alertKind = type := by
  cases found <;> rfl

/-- The turns of a loop over alerts whose checks return are a run of the log. -/
theorem exists_foldlM_checkAlert (isoText : ℚ → String) (check : AlertCheck)
    {alerts : List (AlertType × (PerformanceWindow → Except PyError (Option PyDict)))}
    (hreturns : ∀ alert ∈ alerts, ∃ found, alert.2 check.window = .ok found)
    (board : AlertBoard) :
    ∃ checked events, alerts.foldlM (checkAlert isoText check) board = .ok checked ∧
      checked.toOpenLog = runEnd (OpenLog.step alertKind) board.toOpenLog events ∧
      (∀ event ∈ events, event.Lawful alertKind) ∧
      events.map (LogEvent.key alertKind) = alerts.map Prod.fst ∧
      ∀ log : OpenLog AlertType AlertEntry,
        (∃ event ∈ events, OpenLog.Reopens alertKind (log, event)) ↔
          ∃ alert ∈ alerts, alert.1 ∈ log.places.keys ∧
            ∃ data, alert.2 check.window = .ok (some data) := by
  induction alerts generalizing board with
  | nil => exact ⟨board, [], rfl, rfl, by simp, rfl, by simp⟩
  | cons alert rest ih =>
      obtain ⟨⟨found, hfound⟩, hrest⟩ := List.forall_mem_cons.mp hreturns
      have hturn : ∃ turned, checkAlert isoText check board alert = .ok turned ∧
          turned.toOpenLog =
            board.toOpenLog.step alertKind (turnEvent isoText check alert.1 found) := by
        unfold checkAlert
        rw [hfound]
        cases found with
        | none => exact ⟨_, rfl, toOpenLog_clearAlert board alert.1 _⟩
        | some data => exact ⟨_, rfl, rfl⟩
      obtain ⟨turned, hturned, hlog⟩ := hturn
      obtain ⟨checked, events, hchecked, hrun, hlawful, hkeys, hreopens⟩ := ih hrest turned
      refine ⟨checked, turnEvent isoText check alert.1 found :: events, ?_, ?_, ?_, ?_, ?_⟩
      · rw [List.foldlM_cons, hturned]
        exact hchecked
      · rw [hrun, hlog]
        rfl
      · exact List.forall_mem_cons.mpr ⟨lawful_turnEvent isoText check alert.1 found, hlawful⟩
      · rw [List.map_cons, List.map_cons, hkeys, key_turnEvent]
      · intro log
        rw [List.exists_mem_cons_iff, List.exists_mem_cons_iff, hreopens log]
        apply or_congr_left
        rw [hfound]
        cases found with
        | none => simp [turnEvent, OpenLog.Reopens]
        | some data => simp [turnEvent, OpenLog.Reopens, newAlert, alertKind]

/-- A check is a run of the log that reopens a type exactly when the check triggers one that
is active. -/
theorem exists_checkAlerts (isoText : ℚ → String) (board : AlertBoard) (check : AlertCheck) :
    ∃ checked events, board.checkAlerts isoText check = .ok checked ∧
      checked.toOpenLog = runEnd (OpenLog.step alertKind) board.toOpenLog events ∧
      (∀ event ∈ events, event.Lawful alertKind) ∧
      ((∀ moment ∈ moments (OpenLog.step alertKind) board.toOpenLog events,
        ¬ OpenLog.Reopens alertKind moment) ↔ ¬ Retriggers (board, check)) := by
  unfold checkAlerts
  by_cases hfew : check.window.totalRequests < 5
  · rw [if_pos hfew]
    refine ⟨board, [], rfl, rfl, by simp, ?_⟩
    simp [Retriggers, not_le.mpr hfew]
  · rw [if_neg hfew]
    have hmany : 5 ≤ check.window.totalRequests := not_lt.mp hfew
    have hrequests : check.window.totalRequests ≠ 0 := by omega
    obtain ⟨checked, events, hchecked, hrun, hlawful, hkeys, hreopens⟩ :=
      exists_foldlM_checkAlert isoText check
        (ORToolsMonitoring.exists_check hrequests) board
    refine ⟨checked, events, hchecked, hrun, hlawful, ?_⟩
    have hnodup : (events.map (LogEvent.key alertKind)).Nodup := by
      rw [hkeys]
      decide
    have hstart : (∃ event ∈ events, OpenLog.Reopens alertKind (board.toOpenLog, event)) ↔
        Retriggers (board, check) := (hreopens board.toOpenLog).trans (and_iff_right hmany).symm
    rw [OpenLog.not_reopens_moments_iff hnodup, ← hstart]
    simp only [not_exists, not_and]

theorem checkAlerts_eq_next (isoText : ℚ → String) (board : AlertBoard) (check : AlertCheck) :
    board.checkAlerts isoText check = .ok (board.next isoText check) := by
  obtain ⟨checked, -, hchecked, -⟩ := exists_checkAlerts isoText board check
  unfold next
  rw [hchecked]

/-! ## Runs of checks -/

variable {isoText : ℚ → String} {board : AlertBoard}

/-- A check keeps the places of the active alerts. -/
theorem leads_next (hleads : OpenLog.Leads alertKind board.toOpenLog) (isoText : ℚ → String)
    (check : AlertCheck) : OpenLog.Leads alertKind (board.next isoText check).toOpenLog := by
  obtain ⟨checked, events, hchecked, hrun, hlawful, -⟩ := exists_checkAlerts isoText board check
  unfold next
  rw [hchecked]
  show OpenLog.Leads alertKind checked.toOpenLog
  rw [hrun]
  exact OpenLog.leads_runEnd hleads hlawful

/-- A check keeps history and active alerts in agreement exactly when it triggers no type
that is active. -/
theorem agrees_next_iff (hleads : OpenLog.Leads alertKind board.toOpenLog) (isoText : ℚ → String)
    (check : AlertCheck) :
    (board.next isoText check).Agrees ↔ board.Agrees ∧ ¬ Retriggers (board, check) := by
  obtain ⟨checked, events, hchecked, hrun, hlawful, hretriggers⟩ :=
    exists_checkAlerts isoText board check
  unfold next
  rw [hchecked, agrees_iff_toOpenLog, agrees_iff_toOpenLog]
  show OpenLog.Agrees alertKind checked.toOpenLog ↔ _
  rw [hrun, OpenLog.agrees_runEnd_iff hleads hlawful, hretriggers]

theorem agrees_runEnd_iff (hleads : OpenLog.Leads alertKind board.toOpenLog)
    (isoText : ℚ → String) (checks : List AlertCheck) :
    (runEnd (next isoText) board checks).Agrees ↔
      board.Agrees ∧ ∀ moment ∈ moments (next isoText) board checks, ¬ Retriggers moment := by
  refine holds_runEnd_iff (fun board => OpenLog.Leads alertKind board.toOpenLog) ?_ ?_ hleads
  · intro board check _ hleads
    exact leads_next hleads isoText check
  · intro board check _ hleads
    exact agrees_next_iff hleads isoText check

end AlertBoard

open AlertBoard in
/-- After every sequence of checks, history and active alerts agree exactly when no check has
triggered a type that was active. -/
theorem checkAlerts_agrees_iff (isoText : ℚ → String) (checks : List AlertCheck) :
    (runEnd (next isoText) .fresh checks).Agrees ↔
      ∀ moment ∈ moments (next isoText) .fresh checks, ¬ Retriggers moment := by
  rw [agrees_runEnd_iff OpenLog.leads_empty]
  apply and_iff_right
  rw [agrees_iff_toOpenLog]
  exact OpenLog.agrees_empty

/-- Readings of a clock that shows one time. -/
def steadyClock (now : ℚ) : AlertType → AlertClock := fun _ => ⟨now, now, now⟩

/-- A window that has counted one error among some requests. -/
def oneError (requests : ℕ) : PerformanceWindow where
  startTime := 0
  endTime := 10
  totalRequests := requests
  successCount := requests - 1
  errorCount := 1

/-- One error in a window: the alert is triggered at the tenth and the eleventh request, and
cleared at the twentieth. The first entry stays active. -/
theorem checkAlerts_leaves_active_entry :
    ¬ (runEnd (AlertBoard.next fun _ => "2025-01-01T00:00:00") .fresh
      [⟨oneError 10, steadyClock 1⟩, ⟨oneError 11, steadyClock 2⟩,
        ⟨oneError 20, steadyClock 3⟩]).Agrees := by
  intro hagrees
  exact absurd (hagrees.cleared .successRate (by decide +kernel)) (by decide +kernel)

/-! ## The board beside the monitor -/

namespace AlertBoard

variable {isoText : ℚ → String} {board : AlertBoard} {monitoring : ORToolsMonitoring}

/-- The active alert of a type. -/
def alertOf (board : AlertBoard) (type : AlertType) : Option Alert :=
  (board.activeAlerts.get? type).bind fun place =>
    board.alertHistory[place]?.map AlertEntry.toAlert

/-- A board shows the active alerts of a monitor. -/
def Shows (board : AlertBoard) (monitoring : ORToolsMonitoring) : Prop :=
  ∀ type, monitoring.activeAlerts.get? type = board.alertOf type

theorem alertOf_triggerAlert (hleads : OpenLog.Leads alertKind board.toOpenLog)
    (isoText : ℚ → String) (type : AlertType) (data : PyDict) (clock : AlertClock)
    (other : AlertType) :
    (board.triggerAlert isoText type data clock).alertOf other =
      if other = type then some (newAlert isoText type data clock).toAlert
      else board.alertOf other := by
  unfold alertOf triggerAlert
  dsimp only
  rw [OrderedMap.get?_set]
  by_cases hother : other = type
  · rw [if_pos hother, if_pos hother, Option.bind_some, List.getElem?_concat_length]
    rfl
  · rw [if_neg hother, if_neg hother]
    cases hplace : board.activeAlerts.get? other with
    | none => rfl
    | some place =>
        obtain ⟨alert, halert, -⟩ := hleads other place hplace
        have hlt : place < board.alertHistory.length := (List.getElem?_eq_some_iff.mp halert).1
        rw [Option.bind_some, Option.bind_some, List.getElem?_append_left hlt]

theorem alertOf_clearAlert (type : AlertType) (clock : AlertClock) (other : AlertType) :
    (board.clearAlert type clock).alertOf other =
      if other = type then none else board.alertOf other := by
  unfold clearAlert
  cases hplace : board.activeAlerts.get? type with
  | none =>
      by_cases hother : other = type
      · rw [if_pos hother, hother]
        unfold alertOf
        rw [hplace]
        rfl
      · rw [if_neg hother]
  | some place =>
      unfold alertOf
      dsimp only
      rw [OrderedMap.get?_erase]
      by_cases hother : other = type
      · rw [if_pos hother, if_pos hother]
        rfl
      · rw [if_neg hother, if_neg hother]
        congr 1
        funext held
        -- Resolving an alert leaves what the monitor keeps of it.
        rw [List.getElem?_modify]
        cases board.alertHistory[held]? with
        | none => rfl
        | some alert => by_cases hheld : place = held <;> simp [hheld, AlertEntry.resolve]

theorem leads_triggerAlert (hleads : OpenLog.Leads alertKind board.toOpenLog)
    (isoText : ℚ → String) (type : AlertType) (data : PyDict) (clock : AlertClock) :
    OpenLog.Leads alertKind (board.triggerAlert isoText type data clock).toOpenLog := by
  have hopen : alertKind.isOpen (newAlert isoText type data clock) = true := rfl
  exact hleads.opens hopen

theorem leads_clearAlert (hleads : OpenLog.Leads alertKind board.toOpenLog) (type : AlertType)
    (clock : AlertClock) : OpenLog.Leads alertKind (board.clearAlert type clock).toOpenLog := by
  rw [toOpenLog_clearAlert]
  apply hleads.closes

theorem Shows.triggerAlert (hshows : board.Shows monitoring)
    (hleads : OpenLog.Leads alertKind board.toOpenLog) (type : AlertType) (data : PyDict)
    (now : ℚ) :
    (board.triggerAlert isoText type data (steadyClock now type)).Shows
      (monitoring.triggerAlert type data now) := by
  intro other
  rw [alertOf_triggerAlert hleads, ← hshows other]
  apply OrderedMap.get?_set

theorem Shows.clearAlert (hshows : board.Shows monitoring) (type : AlertType)
    (clock : AlertClock) :
    (board.clearAlert type clock).Shows (monitoring.clearAlert type) := by
  intro other
  rw [alertOf_clearAlert, ← hshows other]
  apply OrderedMap.get?_erase

/-- The turns of a loop do the same to the monitor and to its board. -/
theorem shows_foldlM {now : ℚ} {window : PerformanceWindow}
    {alerts : List (AlertType × (PerformanceWindow → Except PyError (Option PyDict)))}
    (hwindow : monitoring.currentWindow = window)
    (hleads : OpenLog.Leads alertKind board.toOpenLog) (hshows : board.Shows monitoring)
    {alerted : ORToolsMonitoring} {checked : AlertBoard}
    (halerted : alerts.foldlM (ORToolsMonitoring.checkAlert now) monitoring = .ok alerted)
    (hchecked : alerts.foldlM (checkAlert isoText ⟨window, steadyClock now⟩) board =
      .ok checked) :
    checked.Shows alerted := by
  induction alerts generalizing monitoring board with
  | nil =>
      cases halerted
      cases hchecked
      exact hshows
  | cons alert rest ih =>
      rw [List.foldlM_cons] at halerted hchecked
      obtain ⟨turned, hturned, halerted⟩ := exists_of_bind_eq_ok halerted
      obtain ⟨marked, hmarked, hchecked⟩ := exists_of_bind_eq_ok hchecked
      unfold ORToolsMonitoring.checkAlert at hturned
      unfold checkAlert at hmarked
      rw [hwindow] at hturned
      cases hfound : alert.2 window with
      | error e =>
          rw [hfound] at hturned
          cases hturned
      | ok found =>
          rw [hfound] at hturned hmarked
          cases found with
          | none =>
              cases hturned
              cases hmarked
              refine ih ?_ (leads_clearAlert hleads _ _) (hshows.clearAlert _ _) halerted hchecked
              exact hwindow
          | some data =>
              cases hturned
              cases hmarked
              refine ih ?_ (leads_triggerAlert hleads isoText _ data _)
                (hshows.triggerAlert hleads _ data now) halerted hchecked
              exact hwindow

/-- A check does the same to the monitor and to its board. -/
theorem shows_checkAlerts (isoText : ℚ → String) {now : ℚ}
    (hleads : OpenLog.Leads alertKind board.toOpenLog) (hshows : board.Shows monitoring)
    {alerted : ORToolsMonitoring} (halerted : monitoring.checkAlerts now = .ok alerted) :
    (board.next isoText ⟨monitoring.currentWindow, steadyClock now⟩).Shows alerted := by
  have hchecked := checkAlerts_eq_next isoText board ⟨monitoring.currentWindow, steadyClock now⟩
  unfold checkAlerts at hchecked
  unfold ORToolsMonitoring.checkAlerts at halerted
  split at halerted
  · rename_i hfew
    rw [if_pos hfew] at hchecked
    cases halerted
    rw [← Except.ok.inj hchecked]
    exact hshows
  · rename_i hmany
    rw [if_neg hmany] at hchecked
    exact shows_foldlM rfl hleads hshows halerted hchecked

/-- The board after `record_optimization` on a monitor: its alerts are checked when the window
has been looked at without an error. -/
def afterCall (dayText isoText : ℚ → String) (monitoring : ORToolsMonitoring)
    (board : AlertBoard) (call : RecordCall) : AlertBoard :=
  match (monitoring.addCall call).checkWindowRotation dayText call.checkedAt call.createdAt with
  | (.error _, _) => board
  | (.ok _, rotated) => board.next isoText ⟨rotated.currentWindow, steadyClock call.alertedAt⟩

/-- A call on a monitor with its board. -/
def recordWithBoard (dayText isoText : ℚ → String) (state : ORToolsMonitoring × AlertBoard)
    (call : RecordCall) : ORToolsMonitoring × AlertBoard :=
  (state.1.next dayText call, state.2.afterCall dayText isoText state.1 call)

/-- Closing a window leaves the active alerts alone. -/
theorem activeAlerts_checkWindowRotation (dayText : ℚ → String) (monitoring : ORToolsMonitoring)
    (checkedAt createdAt : ℚ) :
    (monitoring.checkWindowRotation dayText checkedAt createdAt).2.activeAlerts =
      monitoring.activeAlerts := by
  have hfinalized : (monitoring.finalizeWindow dayText).2.activeAlerts =
      monitoring.activeAlerts := by
    unfold ORToolsMonitoring.finalizeWindow
    split
    · rfl
    · split <;> rfl
  unfold ORToolsMonitoring.checkWindowRotation
  split
  · split <;> rename_i heq <;> rw [heq] at hfinalized <;> exact hfinalized
  · rfl

/-- A call does the same to the monitor and to its board. -/
theorem shows_recordWithBoard (dayText isoText : ℚ → String)
    (hleads : OpenLog.Leads alertKind board.toOpenLog) (hshows : board.Shows monitoring)
    (call : RecordCall) :
    (board.afterCall dayText isoText monitoring call).Shows (monitoring.next dayText call) := by
  unfold afterCall ORToolsMonitoring.next ORToolsMonitoring.recordOptimization
  have hrotated := activeAlerts_checkWindowRotation dayText (monitoring.addCall call)
    call.checkedAt call.createdAt
  obtain ⟨outcome, rotated, houtcome⟩ :
      ∃ outcome rotated, (monitoring.addCall call).checkWindowRotation dayText call.checkedAt
        call.createdAt = (outcome, rotated) := ⟨_, _, rfl⟩
  rw [houtcome] at hrotated ⊢
  have hsame : board.Shows rotated := by
    intro type
    rw [hrotated]
    exact hshows type
  cases outcome with
  | error e => exact hsame
  | ok _ =>
      obtain ⟨alerts, halerts⟩ := ORToolsMonitoring.exists_checkAlerts rotated call.alertedAt
      dsimp only
      rw [halerts]
      exact shows_checkAlerts isoText hleads hsame halerts

/-- At the end of every run of calls the board shows the active alerts of the monitor. -/
theorem shows_runEnd (dayText isoText : ℚ → String) (windowSize : ℚ) (maxMetrics : ℕ)
    (createdAt : ℚ) (calls : List RecordCall) :
    (runEnd (recordWithBoard dayText isoText)
        (.fresh windowSize maxMetrics createdAt, fresh) calls).2.Shows
      (runEnd (recordWithBoard dayText isoText)
        (.fresh windowSize maxMetrics createdAt, fresh) calls).1 := by
  have hinvariant : ∀ state : ORToolsMonitoring × AlertBoard, ∀ call,
      OpenLog.Leads alertKind state.2.toOpenLog ∧ state.2.Shows state.1 →
        OpenLog.Leads alertKind (recordWithBoard dayText isoText state call).2.toOpenLog ∧
          (recordWithBoard dayText isoText state call).2.Shows
            (recordWithBoard dayText isoText state call).1 := by
    rintro ⟨monitoring, board⟩ call ⟨hleads, hshows⟩
    refine ⟨?_, shows_recordWithBoard dayText isoText hleads hshows call⟩
    show OpenLog.Leads alertKind (board.afterCall dayText isoText monitoring call).toOpenLog
    unfold afterCall
    split
    · exact hleads
    · exact leads_next hleads isoText _
  exact (runEnd_invariant hinvariant ⟨OpenLog.leads_empty, fun _ => rfl⟩ calls).2

end AlertBoard

end Goveling.Ortools
