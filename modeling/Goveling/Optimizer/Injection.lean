/-
# Transfers between consecutive days

`_inject_intercity_transfers_between_days` looks at every pair of consecutive
days. If their bases are more than 30 km apart and the later day lists no
transfer of about that distance yet, it adds one and patches the totals of the
later day. The patch reaches the number of intercity transfers, their minutes,
the transport minutes and the distance, but not the total travel time.
-/

import Goveling.Optimizer.DayRoute

namespace Goveling.Optimizer

open Goveling.Math Goveling.Python

universe u v

variable {σ : Type u}

/-! ## The pass over the days -/

/-- A flight of a distance: cruising plus the time at the airports. -/
def flightEta (settings : Settings) (distanceKm : ℚ≥0) : Eta where
  distanceKm := distanceKm
  durationMinutes := ⌊distanceKm / settings.airSpeedKmph * 60 + settings.airBuffersMin⌋₊

/-- How to travel between two bases: a drive, or a flight when the routing fell
back on a long way or the way is very long. -/
def betweenDaysLeg (settings : Settings) (distanceKm : ℚ≥0) (answer : Eta) :
    TransportMode × Eta :=
  if (answer.fallbackUsed ∧ 1000 < distanceKm) ∨ settings.flightThresholdKm < distanceKm then
    (.flight, flightEta settings distanceKm)
  else (.drive, answer)

/-- The transfer between the bases of two days. -/
def betweenDaysRecord (currBase nextBase : BaseInfo) (leg : TransportMode × Eta) :
    TransferRecord where
  type := "intercity_transfer"
  fromName := currBase.name
  toName := nextBase.name
  origin := currBase.location
  destination := nextBase.location
  distanceKm := leg.2.distanceKm
  durationMinutes := leg.2.wholeMinutes
  mode := leg.1
  time := "09:00"
  overnight := false
  hasActivity := some false
  isBetweenDays := some true

/-- An intercity transfer of nearly the same distance is taken for the same one. -/
def similarTransfer (distanceKm : ℚ≥0) (existing : TransferRecord) : Bool :=
  existing.type = "intercity_transfer" ∧ |(existing.distanceKm : ℚ) - distanceKm| < 1

/-- The transfer a pair of days calls for, with the service after it. -/
def missingTransfer (globe : Globe) (services : Services σ) (settings : Settings) (service : σ)
    (curr next : DayRecord) : Reply σ (Option TransferRecord) :=
  match curr.base, next.base with
  | some currBase, some nextBase =>
      let distanceKm := globe.haversineKm currBase.location nextBase.location
      if intercityKm < distanceKm then
        let asked := services.routingServiceRobust service currBase.location nextBase.location
          .drive
        let leg := betweenDaysLeg settings distanceKm asked.value
        if next.transfers.any (similarTransfer leg.2.distanceKm) then ⟨none, asked.next⟩
        else ⟨some (betweenDaysRecord currBase nextBase leg), asked.next⟩
      else ⟨none, service⟩
  | _, _ => ⟨none, service⟩

/-- Put a transfer in front of a day's transfers and add it to the totals. -/
def addTransfer (day : DayRecord) (transfer : TransferRecord) : DayRecord :=
  { day with
    transfers := transfer :: day.transfers
    travelSummary :=
      { day.travelSummary with
        intercityTransfersCount := day.travelSummary.intercityTransfersCount + 1
        intercityTotalMinutes :=
          day.travelSummary.intercityTotalMinutes + transfer.durationMinutes
        transportTimeMinutes := day.travelSummary.transportTimeMinutes + transfer.durationMinutes
        totalDistanceKm := day.travelSummary.totalDistanceKm + transfer.distanceKm } }

/-- The body of the loop: the later day of a pair after the pass. -/
def injectPair (globe : Globe) (services : Services σ) (settings : Settings) (service : σ)
    (curr next : DayRecord) : Reply σ DayRecord :=
  let missing := missingTransfer globe services settings service curr next
  { value := missing.value.elim next (addTransfer next)
    next := missing.next }

/-- The loop over the days after `curr`. -/
def injectAfter (globe : Globe) (services : Services σ) (settings : Settings) :
    DayRecord → σ → List DayRecord → Reply σ (List DayRecord)
  | _, service, [] => ⟨[], service⟩
  | curr, service, next :: rest =>
      let injected := injectPair globe services settings service curr next
      let later := injectAfter globe services settings injected.value injected.next rest
      ⟨injected.value :: later.value, later.next⟩

/-- `_inject_intercity_transfers_between_days`. -/
def injectIntercityTransfersBetweenDays (globe : Globe) (services : Services σ)
    (settings : Settings) (service : σ) : List DayRecord → Reply σ (List DayRecord)
  | [] => ⟨[], service⟩
  | first :: rest =>
      let later := injectAfter globe services settings first service rest
      ⟨first :: later.value, later.next⟩

/-! ## Days and their summaries -/

/-- The days the pass is given. -/
inductive BuiltDay (σ : Type u) : DayRecord → Prop
  | routed (ctx : DayContext σ) (service : σ) (request : DayRequest) :
      BuiltDay σ (routeDayEnhanced ctx service request).value
  | free (ctx : DayContext σ) (service : σ) (date : ℤ) (origin : Option SuggestionOrigin)
      (inheritedBase : Option BaseInfo) (dayNumber : ℤ) :
      BuiltDay σ (freeDay ctx service date origin inheritedBase dayNumber).value

/-- The intercity transfers of a day. -/
def intercityTransfers (day : DayRecord) : List TransferRecord :=
  day.transfers.filter (·.type = "intercity_transfer")

/-- The intercity totals of a day are those of its transfers. -/
structure IntercityAgrees (day : DayRecord) : Prop where
  count : day.travelSummary.intercityTransfersCount = (intercityTransfers day).length
  minutes : day.travelSummary.intercityTotalMinutes =
    ((intercityTransfers day).map TransferRecord.durationMinutes).sum

/-- The summary of a day agrees with its transfers and with itself. -/
structure SummaryAgrees (day : DayRecord) : Prop extends IntercityAgrees day where
  seconds : day.travelSummary.totalTravelTimeS =
    60 * (day.travelSummary.walkingTimeMinutes + day.travelSummary.transportTimeMinutes)

/-- The loop over the clusters keeps the intercity totals in step. -/
structure RecordsInStep (state : DayState σ) : Prop where
  types : ∀ transfer ∈ state.transfers, transfer.type = "intercity_transfer"
  count : state.intercityTransfersCount = state.transfers.length
  minutes : state.intercityTotalMinutes =
    (state.transfers.map TransferRecord.durationMinutes).sum

theorem RecordsInStep.recordInbound {state : DayState σ} (hstep : RecordsInStep state)
    (transfer : TransferItem) : RecordsInStep (recordInbound state transfer) where
  types := by
    intro listed hlisted
    rcases List.mem_append.mp hlisted with hold | hnew
    · exact hstep.types listed hold
    · rw [List.mem_singleton.mp hnew]
      rfl
  count := by
    simp [Optimizer.recordInbound, hstep.count]
  minutes := by
    simp [Optimizer.recordInbound, hstep.minutes, inboundRecord]

theorem RecordsInStep.routeCluster (ctx : DayContext σ) {state : DayState σ}
    (hstep : RecordsInStep state) (cluster : Cluster) :
    RecordsInStep (routeCluster ctx state cluster).value := by
  unfold Optimizer.routeCluster
  rcases enterCluster_cases ctx state cluster with ⟨service, hdone⟩ |
    ⟨location, service, hyield⟩ | ⟨transfer, location, service, hpos, hyield⟩
  · rw [hdone]
    exact ⟨hstep.types, hstep.count, hstep.minutes⟩
  · rw [hyield]
    simp only [ForInStep.value, addRoute_of_visits
      (routeClusterWithTimeWindows_visits ctx service cluster state.currentTime)]
    exact ⟨hstep.types, hstep.count, hstep.minutes⟩
  · rw [hyield]
    have hplaced := hstep.recordInbound transfer
    simp only [ForInStep.value]
    rw [addRoute_of_visits (routeClusterWithTimeWindows_visits ctx _ cluster _)]
    exact ⟨hplaced.types, hplaced.count, hplaced.minutes⟩

theorem summaryAgrees_routed (ctx : DayContext σ) (service : σ) (request : DayRequest) :
    SummaryAgrees (routeDayEnhanced ctx service request).value := by
  have hstep : RecordsInStep (routedState ctx service request) :=
    forBreak_invariant (fun state cluster h => h.routeCluster ctx cluster)
      request.assignedClusters ⟨by simp [dayInit], rfl, rfl⟩
  have hall : intercityTransfers (routeDayEnhanced ctx service request).value =
      (routedState ctx service request).transfers :=
    List.filter_eq_self.mpr fun transfer hmem => by simpa using hstep.types transfer hmem
  exact
    { count := by rw [hall]; exact hstep.count
      minutes := by rw [hall]; exact hstep.minutes
      seconds := Nat.mul_comm _ _ }

theorem BuiltDay.summaryAgrees {day : DayRecord} (hbuilt : BuiltDay σ day) :
    SummaryAgrees day := by
  cases hbuilt with
  | routed ctx service request => exact summaryAgrees_routed ctx service request
  | free ctx service date origin inheritedBase dayNumber => exact ⟨⟨rfl, rfl⟩, rfl⟩

/-! ## One pair -/

section Pair

variable (globe : Globe) (services : Services σ) (settings : Settings)

/-- Nothing but transfers of no whole minute is missing between two days. -/
def QuietPair (service : σ) (curr next : DayRecord) : Prop :=
  ∀ transfer ∈ (missingTransfer globe services settings service curr next).value,
    transfer.durationMinutes = 0

theorem type_of_missing {service : σ} {curr next : DayRecord} {transfer : TransferRecord}
    (hmissing : transfer ∈ (missingTransfer globe services settings service curr next).value) :
    transfer.type = "intercity_transfer" := by
  unfold missingTransfer at hmissing
  split at hmissing
  · dsimp only at hmissing
    split at hmissing
    · split at hmissing
      · cases hmissing
      · cases hmissing
        rfl
    · cases hmissing
  · cases hmissing

/-- A transfer that is added to the totals as well keeps them in step. -/
theorem intercityAgrees_addTransfer_iff {day : DayRecord} {transfer : TransferRecord}
    (htype : transfer.type = "intercity_transfer") :
    IntercityAgrees (addTransfer day transfer) ↔ IntercityAgrees day := by
  have hlist : intercityTransfers (addTransfer day transfer) =
      transfer :: intercityTransfers day := by
    simp [intercityTransfers, addTransfer, htype]
  constructor
  · rintro ⟨hcount, hminutes⟩
    rw [hlist, List.length_cons] at hcount
    rw [hlist, List.map_cons, List.sum_cons, Nat.add_comm] at hminutes
    exact ⟨Nat.add_right_cancel hcount, Nat.add_right_cancel hminutes⟩
  · rintro ⟨hcount, hminutes⟩
    constructor
    · rw [hlist, List.length_cons, ← hcount]
      rfl
    · rw [hlist, List.map_cons, List.sum_cons, ← hminutes]
      exact Nat.add_comm _ _

/-- The later day of a pair still agrees with its summary exactly when no
minutes were added to it. -/
theorem summaryAgrees_injectPair_iff (service : σ) (curr : DayRecord) {next : DayRecord}
    (hagrees : SummaryAgrees next) :
    SummaryAgrees (injectPair globe services settings service curr next).value ↔
      QuietPair globe services settings service curr next := by
  simp only [injectPair, QuietPair]
  cases hmissing : (missingTransfer globe services settings service curr next).value with
  | none => simpa using hagrees
  | some transfer =>
      have htype := type_of_missing globe services settings
        (show transfer ∈ (missingTransfer globe services settings service curr next).value
          from hmissing)
      have hseconds := hagrees.seconds
      simp only [Option.elim_some, Option.mem_def, Option.some.injEq, forall_eq']
      constructor
      · intro hafter
        have hpatched := hafter.seconds
        simp only [addTransfer] at hpatched
        omega
      · intro hnone
        refine ⟨(intercityAgrees_addTransfer_iff htype).mpr hagrees.toIntercityAgrees, ?_⟩
        simp only [addTransfer]
        omega

/-- A transfer is similar to itself. -/
theorem similarTransfer_self (transfer : TransferRecord)
    (htype : transfer.type = "intercity_transfer") :
    similarTransfer transfer.distanceKm transfer = true := by
  simp [similarTransfer, htype]

/-- A second look at a pair finds nothing missing and asks the same of the service. -/
theorem missingTransfer_injectPair (service : σ) {curr curr' : DayRecord}
    (hbase : curr'.base = curr.base) (next : DayRecord) :
    missingTransfer globe services settings service curr'
        (injectPair globe services settings service curr next).value =
      ⟨none, (injectPair globe services settings service curr next).next⟩ := by
  unfold injectPair
  cases hcurr : curr.base with
  | none => simp [missingTransfer, hbase, hcurr]
  | some currBase =>
      cases hnext : next.base with
      | none => simp [missingTransfer, hbase, hcurr, hnext]
      | some nextBase =>
          by_cases hfar : intercityKm < globe.haversineKm currBase.location nextBase.location
          · by_cases hlisted : next.transfers.any (similarTransfer (betweenDaysLeg settings
                (globe.haversineKm currBase.location nextBase.location)
                (services.routingServiceRobust service currBase.location nextBase.location
                  .drive).value).2.distanceKm) = true
            · simp [missingTransfer, hbase, hcurr, hnext, hfar, hlisted]
            · have hself := similarTransfer_self (betweenDaysRecord currBase nextBase
                (betweenDaysLeg settings
                  (globe.haversineKm currBase.location nextBase.location)
                  (services.routingServiceRobust service currBase.location nextBase.location
                    .drive).value)) rfl
              simp only [betweenDaysRecord] at hself
              simp [missingTransfer, hbase, hcurr, hnext, hfar, hlisted, addTransfer,
                betweenDaysRecord, hself]
          · simp [missingTransfer, hbase, hcurr, hnext, hfar]

theorem injectPair_injectPair (service : σ) {curr curr' : DayRecord}
    (hbase : curr'.base = curr.base) (next : DayRecord) :
    injectPair globe services settings service curr'
        (injectPair globe services settings service curr next).value =
      injectPair globe services settings service curr next := by
  have hagain := missingTransfer_injectPair globe services settings service hbase next
  rw [injectPair, hagain]
  rfl

end Pair

/-! ## All days -/

section Days

variable (globe : Globe) (services : Services σ) (settings : Settings)

/-- No pair of the pass is missing a transfer that takes a minute or more. -/
def QuietAfter : DayRecord → σ → List DayRecord → Prop
  | _, _, [] => True
  | curr, service, next :: rest =>
      let injected := injectPair globe services settings service curr next
      QuietPair globe services settings service curr next ∧
        QuietAfter injected.value injected.next rest

/-- The same for a whole list of days. -/
def QuietDays (service : σ) : List DayRecord → Prop
  | [] => True
  | first :: rest => QuietAfter globe services settings first service rest

theorem summaryAgrees_injectAfter_iff (curr : DayRecord) (service : σ) {rest : List DayRecord}
    (hagrees : ∀ day ∈ rest, SummaryAgrees day) :
    (∀ day ∈ (injectAfter globe services settings curr service rest).value, SummaryAgrees day) ↔
      QuietAfter globe services settings curr service rest := by
  induction rest generalizing curr service with
  | nil => simp [injectAfter, QuietAfter]
  | cons next later ih =>
      obtain ⟨hnext, hlater⟩ := List.forall_mem_cons.mp hagrees
      simp only [injectAfter, QuietAfter, List.forall_mem_cons]
      exact and_congr (summaryAgrees_injectPair_iff globe services settings service curr hnext)
        (ih _ _ hlater)

/-- A second pass from days with the same bases in front changes nothing. -/
theorem injectAfter_injectAfter {curr curr' : DayRecord} (hbase : curr'.base = curr.base)
    (service : σ) (rest : List DayRecord) :
    injectAfter globe services settings curr' service
        (injectAfter globe services settings curr service rest).value =
      injectAfter globe services settings curr service rest := by
  induction rest generalizing curr curr' service with
  | nil => rfl
  | cons next later ih =>
      simp only [injectAfter, injectPair_injectPair globe services settings service hbase, ih rfl]

theorem inject_inject (service : σ) (days : List DayRecord) :
    injectIntercityTransfersBetweenDays globe services settings service
        (injectIntercityTransfersBetweenDays globe services settings service days).value =
      injectIntercityTransfersBetweenDays globe services settings service days := by
  cases days with
  | nil => rfl
  | cons first rest =>
      simp only [injectIntercityTransfersBetweenDays,
        injectAfter_injectAfter globe services settings rfl]

/-- What adding a transfer leaves alone the pass leaves alone. -/
theorem map_injectPair {β : Type v} (f : DayRecord → β)
    (hadd : ∀ day transfer, f (addTransfer day transfer) = f day) (service : σ)
    (curr next : DayRecord) :
    f (injectPair globe services settings service curr next).value = f next := by
  simp only [injectPair]
  cases (missingTransfer globe services settings service curr next).value with
  | none => rfl
  | some transfer => exact hadd next transfer

theorem map_injectAfter {β : Type v} (f : DayRecord → β)
    (hadd : ∀ day transfer, f (addTransfer day transfer) = f day) (curr : DayRecord) (service : σ)
    (rest : List DayRecord) :
    (injectAfter globe services settings curr service rest).value.map f = rest.map f := by
  induction rest generalizing curr service with
  | nil => rfl
  | cons next later ih =>
      simp only [injectAfter, List.map_cons, map_injectPair globe services settings f hadd, ih]

/-- So it is with all days: the pass adds transfers, and for one leaves the visits of every day
as they were. -/
theorem map_inject {β : Type v} (f : DayRecord → β)
    (hadd : ∀ day transfer, f (addTransfer day transfer) = f day) (service : σ)
    (days : List DayRecord) :
    (injectIntercityTransfersBetweenDays globe services settings service days).value.map f =
      days.map f := by
  cases days with
  | nil => rfl
  | cons first rest =>
      simp only [injectIntercityTransfersBetweenDays, List.map_cons,
        map_injectAfter globe services settings f hadd]

/-- Every pair of the pass meets `P`, which sees the service before the pair, the earlier day
after the pass and the later day before it. -/
def AlongPass (P : σ → DayRecord → DayRecord → Prop) : DayRecord → σ → List DayRecord → Prop
  | _, _, [] => True
  | curr, service, next :: rest =>
      let injected := injectPair globe services settings service curr next
      P service curr next ∧ AlongPass P injected.value injected.next rest

/-- The same for a whole list of days. -/
def AlongDays (P : σ → DayRecord → DayRecord → Prop) (service : σ) : List DayRecord → Prop
  | [] => True
  | first :: rest => AlongPass globe services settings P first service rest

/-- If a pair keeps `G` of the later day precisely when `P` held before it, the pass keeps `G`
of all days precisely when `P` held at every pair. -/
theorem forall_inject_iff {G : DayRecord → Prop} {P : σ → DayRecord → DayRecord → Prop}
    (step : ∀ service curr next,
      G (injectPair globe services settings service curr next).value ↔
        G next ∧ P service curr next)
    (service : σ) (days : List DayRecord) :
    (∀ day ∈ (injectIntercityTransfersBetweenDays globe services settings service days).value,
        G day) ↔
      (∀ day ∈ days, G day) ∧ AlongDays globe services settings P service days := by
  have hafter : ∀ (curr : DayRecord) (service : σ) (rest : List DayRecord),
      (∀ day ∈ (injectAfter globe services settings curr service rest).value, G day) ↔
        (∀ day ∈ rest, G day) ∧ AlongPass globe services settings P curr service rest := by
    intro curr service rest
    induction rest generalizing curr service with
    | nil => simp [injectAfter, AlongPass]
    | cons next later ih =>
        simp only [injectAfter, AlongPass, List.forall_mem_cons, step, ih]
        exact and_and_and_comm
  cases days with
  | nil => simp [injectIntercityTransfersBetweenDays, AlongDays]
  | cons first rest =>
      simp only [injectIntercityTransfersBetweenDays, AlongDays, List.forall_mem_cons, hafter,
        and_assoc]

/-- For days built by the optimizer, every summary agrees with its transfers
after the pass, and a second pass changes nothing, exactly when no transfer of a
minute or more had to be added. -/
theorem injectIntercityTransfers_agrees_iff (service : σ) {days : List DayRecord}
    (hbuilt : ∀ day ∈ days, BuiltDay σ day) :
    ((∀ day ∈ (injectIntercityTransfersBetweenDays globe services settings service days).value,
          SummaryAgrees day) ∧
        (injectIntercityTransfersBetweenDays globe services settings service
            (injectIntercityTransfersBetweenDays globe services settings service
              days).value).value =
          (injectIntercityTransfersBetweenDays globe services settings service days).value) ↔
      QuietDays globe services settings service days := by
  rw [inject_inject]
  simp only [and_true]
  cases days with
  | nil => simp [injectIntercityTransfersBetweenDays, QuietDays]
  | cons first rest =>
      obtain ⟨hfirst, hrest⟩ := List.forall_mem_cons.mp hbuilt
      simp only [injectIntercityTransfersBetweenDays, QuietDays, List.forall_mem_cons]
      rw [summaryAgrees_injectAfter_iff globe services settings first service
        fun day hmem => (hrest day hmem).summaryAgrees]
      exact and_iff_right hfirst.summaryAgrees

end Days

/-- Services on the equator: a degree is driven in 80 minutes. -/
def degreeServices : Services Unit := .steady { distanceKm := 112, durationMinutes := 80 }

/-- A day from nine to six whose trips are all that long. -/
def degreeContext : DayContext Unit :=
  .steady { distanceKm := 112, durationMinutes := 80 } { start := 540, stop := 1080 }

/-- A day that never leaves its hotel. -/
def dayAtHotel (date : ℤ) (location : Location) : DayRecord :=
  (routeDayEnhanced (.steady { distanceKm := 112, durationMinutes := 80 }
      { start := 540, stop := 1080 }) ()
    { date := date
      assignedClusters := [
        { label := "0"
          centroid := location
          places := [{ name := "Spa", location := location }]
          homeBase := some { name := "Hotel", location := location } }]
      dayNumber := 2 }).value

theorem builtDay_dayAtHotel (date : ℤ) (location : Location) :
    BuiltDay Unit (dayAtHotel date location) :=
  .routed _ _ _

/-- Two days at one hotel. -/
theorem injectIntercityTransfers_agrees_sameHotel :
    (∀ day ∈ (injectIntercityTransfersBetweenDays .equatorial degreeServices {} ()
          [dayAtHotel 1 (.onEquator 0), dayAtHotel 2 (.onEquator 0)]).value, SummaryAgrees day) ∧
      (injectIntercityTransfersBetweenDays .equatorial degreeServices {} ()
          (injectIntercityTransfersBetweenDays .equatorial degreeServices {} ()
            [dayAtHotel 1 (.onEquator 0), dayAtHotel 2 (.onEquator 0)]).value).value =
        (injectIntercityTransfersBetweenDays .equatorial degreeServices {} ()
          [dayAtHotel 1 (.onEquator 0), dayAtHotel 2 (.onEquator 0)]).value := by
  refine (injectIntercityTransfers_agrees_iff .equatorial degreeServices {} () ?_).mpr ?_
  · simp [builtDay_dayAtHotel]
  · have hnone : (missingTransfer .equatorial degreeServices {} () (dayAtHotel 1 (.onEquator 0))
        (dayAtHotel 2 (.onEquator 0))).value = none := by
      decide +kernel
    exact ⟨by simp [QuietPair, hnone], trivial⟩

/-- Two days at hotels one degree apart: the later day gets a drive of 80 minutes
and keeps the total travel time it had. -/
theorem injectIntercityTransfers_leaves_seconds :
    ¬ ((∀ day ∈ (injectIntercityTransfersBetweenDays .equatorial degreeServices {} ()
          [dayAtHotel 1 (.onEquator 0), dayAtHotel 2 (.onEquator 1)]).value, SummaryAgrees day) ∧
      (injectIntercityTransfersBetweenDays .equatorial degreeServices {} ()
          (injectIntercityTransfersBetweenDays .equatorial degreeServices {} ()
            [dayAtHotel 1 (.onEquator 0), dayAtHotel 2 (.onEquator 1)]).value).value =
        (injectIntercityTransfersBetweenDays .equatorial degreeServices {} ()
          [dayAtHotel 1 (.onEquator 0), dayAtHotel 2 (.onEquator 1)]).value) := by
  rintro ⟨hagree, -⟩
  have hsecond := (hagree _ (.tail _ (.head _))).seconds
  exact absurd hsecond (by decide +kernel)

end Goveling.Optimizer
