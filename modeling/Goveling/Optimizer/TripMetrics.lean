/-
# The metrics of a trip

`calculate_enhanced_metrics` adds up the summaries of the days and lists their transfers between
cities. A day counts the trips to the home bases and no leg between two places, and what is added
between the days is counted in the same way. So the travel of a whole trip is that of the listed
transfers: no minute of it is walked, and the score of efficiency depends on their minutes alone.
-/

import Goveling.Optimizer.TripLoop
import Mathlib.Data.Rat.Cast.Order

namespace Goveling.Optimizer

open Goveling.Math Goveling.Python

universe u

variable {σ : Type u}

/-! ## The metrics -/

/-- An entry of `intercity_transfers`. -/
structure TransferEntry where
  fromName : String
  toName : String
  origin : Location
  destination : Location
  distanceKm : ℚ≥0
  duration : String
  durationMinutes : ℕ
  estimatedTimeHours : ℚ
  mode : TransportMode
  overnight : Bool

/-- A duration as it is shown. -/
def durationText (durationMinutes : ℕ) : String :=
  if 60 ≤ durationMinutes then
    let hours := durationMinutes / 60
    let mins := durationMinutes % 60
    if 0 < mins then toString hours ++ "h" ++ toString mins ++ "min" else toString hours ++ "h"
  else toString durationMinutes ++ "min"

/-- The entry for a transfer. -/
def TransferRecord.entry (transfer : TransferRecord) : TransferEntry where
  fromName := transfer.fromName
  toName := transfer.toName
  origin := transfer.origin
  destination := transfer.destination
  distanceKm := transfer.distanceKm
  duration := durationText transfer.durationMinutes
  durationMinutes := transfer.durationMinutes
  estimatedTimeHours := transfer.durationMinutes / 60
  mode := transfer.mode
  overnight := transfer.overnight

/-- `optimization_metrics`. -/
structure EnhancedMetrics where
  efficiencyScore : ℚ
  optimizationMode : String
  fallbackActive : Bool
  totalDistanceKm : ℚ≥0
  totalTravelTimeMinutes : ℕ
  walkingTimeMinutes : ℕ
  transportTimeMinutes : ℕ
  longTransfersDetected : ℕ
  intercityTransfers : List TransferEntry
  totalIntercityTimeHours : ℚ
  totalIntercityDistanceKm : ℚ≥0

/-- The sum of a number over the summaries of the days. -/
def sumOfDays {M : Type} [AddMonoid M] (days : List DayRecord) (field : TravelSummary → M) : M :=
  (days.map fun day => field day.travelSummary).sum

/-- The score, from the minutes of all travel and of that between cities. -/
def efficiencyScore (totalTravelMinutes intercityTotalMinutes : ℕ) : ℚ :=
  let efficiencyBase := 95 / 100
  let travelPenalty := min (4 / 10) ((totalTravelMinutes : ℚ) / 480 * (2 / 10))
  let intercityPenalty := min (2 / 10) ((intercityTotalMinutes : ℚ) / 240 * (1 / 10))
  max (1 / 10) (efficiencyBase - travelPenalty - intercityPenalty)

/-- `calculate_enhanced_metrics`. -/
def calculateEnhancedMetrics (days : List DayRecord) : EnhancedMetrics :=
  let totalWalkingTime := sumOfDays days TravelSummary.walkingTimeMinutes
  let totalTransportTime := sumOfDays days TravelSummary.transportTimeMinutes
  let intercityTotalMinutes := sumOfDays days TravelSummary.intercityTotalMinutes
  let totalTravelMinutes := totalWalkingTime + totalTransportTime
  let intercityTransfers := (days.flatMap intercityTransfers).map TransferRecord.entry
  { efficiencyScore := efficiencyScore totalTravelMinutes intercityTotalMinutes
    optimizationMode := "geographic_v31"
    fallbackActive := false
    totalDistanceKm := sumOfDays days TravelSummary.totalDistanceKm
    totalTravelTimeMinutes := totalTravelMinutes
    walkingTimeMinutes := totalWalkingTime
    transportTimeMinutes := totalTransportTime
    longTransfersDetected := sumOfDays days TravelSummary.intercityTransfersCount
    intercityTransfers := intercityTransfers
    totalIntercityTimeHours := intercityTotalMinutes / 60
    totalIntercityDistanceKm := (intercityTransfers.map TransferEntry.distanceKm).sum }

/-! ## What a day counts -/

/-- The loop over the clusters counts its trips to home bases as all travel there is. -/
structure TravelInStep (state : DayState σ) : Prop extends RecordsInStep state where
  walking : state.walkingTime = 0
  transport : state.transportTime = state.intercityTotalMinutes
  distance : state.totalDistance = (state.transfers.map TransferRecord.distanceKm).sum

/-- The summary of a day says what its transfers say, all of which are between cities. -/
structure CountsTransfers (day : DayRecord) : Prop where
  types : ∀ transfer ∈ day.transfers, transfer.type = "intercity_transfer"
  count : day.travelSummary.intercityTransfersCount = day.transfers.length
  minutes : day.travelSummary.intercityTotalMinutes =
    (day.transfers.map TransferRecord.durationMinutes).sum
  walking : day.travelSummary.walkingTimeMinutes = 0
  transport : day.travelSummary.transportTimeMinutes = day.travelSummary.intercityTotalMinutes
  distance : day.travelSummary.totalDistanceKm =
    (day.transfers.map TransferRecord.distanceKm).sum

section Day

variable {ctx : DayContext σ} {state : DayState σ}

theorem TravelInStep.recordInbound (hstep : TravelInStep state) (transfer : TransferItem) :
    TravelInStep (recordInbound state transfer) where
  toRecordsInStep := hstep.toRecordsInStep.recordInbound transfer
  walking := hstep.walking
  transport := by
    simp [Optimizer.recordInbound, hstep.transport]
  distance := by
    simp [Optimizer.recordInbound, hstep.distance, inboundRecord]

/-- The route of a cluster adds nothing to the totals. -/
theorem TravelInStep.routeCluster (hstep : TravelInStep state) (cluster : Cluster) :
    TravelInStep (routeCluster ctx state cluster).value := by
  unfold Optimizer.routeCluster
  rcases enterCluster_cases ctx state cluster with ⟨service, hdone⟩ |
    ⟨location, service, hyield⟩ | ⟨transfer, location, service, hpos, hyield⟩
  · rw [hdone]
    exact ⟨⟨hstep.types, hstep.count, hstep.minutes⟩, hstep.walking, hstep.transport,
      hstep.distance⟩
  · rw [hyield]
    simp only [ForInStep.value, addRoute_of_visits
      (routeClusterWithTimeWindows_visits ctx service cluster state.currentTime)]
    exact ⟨⟨hstep.types, hstep.count, hstep.minutes⟩, hstep.walking, hstep.transport,
      hstep.distance⟩
  · rw [hyield]
    have hplaced := hstep.recordInbound transfer
    simp only [ForInStep.value]
    rw [addRoute_of_visits (routeClusterWithTimeWindows_visits ctx _ cluster _)]
    exact ⟨⟨hplaced.types, hplaced.count, hplaced.minutes⟩, hplaced.walking, hplaced.transport,
      hplaced.distance⟩

theorem countsTransfers_routeDayEnhanced (service : σ) (request : DayRequest) :
    CountsTransfers (routeDayEnhanced ctx service request).value := by
  have hstep : TravelInStep (routedState ctx service request) :=
    forBreak_invariant (fun _ cluster hstate => hstate.routeCluster cluster)
      request.assignedClusters ⟨⟨by simp [dayInit], rfl, rfl⟩, rfl, rfl, rfl⟩
  exact ⟨hstep.types, hstep.count, hstep.minutes, hstep.walking, hstep.transport, hstep.distance⟩

theorem countsTransfers_freeDay (service : σ) (date : ℤ) (origin : Option SuggestionOrigin)
    (inheritedBase : Option BaseInfo) (dayNumber : ℤ) :
    CountsTransfers (freeDay ctx service date origin inheritedBase dayNumber).value :=
  ⟨by simp [freeDay], rfl, rfl, rfl, rfl, rfl⟩

end Day

/-! ## What a trip counts -/

section Trip

variable (ctx : TripContext σ) (assignments : OrderedMap ℤ (List Cluster))

/-- Every day of the loop counts its transfers. -/
theorem countsTransfers_planDays (service : σ) :
    ∀ day ∈ (planDays ctx service assignments).days, CountsTransfers day := by
  refine forBreak_invariant
    (I := fun state : TripState σ => ∀ day ∈ state.days, CountsTransfers day) ?_ _
    (by simp [tripInit])
  intro state date hdays
  unfold planDate
  cases assignments.bucket date.1 with
  | nil =>
      refine List.forall_mem_append.mpr ⟨hdays, List.forall_mem_singleton.mpr ?_⟩
      exact countsTransfers_freeDay _ _ _ _ _
  | cons cluster rest =>
      refine List.forall_mem_append.mpr ⟨hdays, List.forall_mem_singleton.mpr ?_⟩
      exact countsTransfers_routeDayEnhanced _ _

/-- What is added between two days is counted as well. -/
theorem CountsTransfers.addTransfer {day : DayRecord} (hday : CountsTransfers day)
    {transfer : TransferRecord} (htype : transfer.type = "intercity_transfer") :
    CountsTransfers (addTransfer day transfer) where
  types := List.forall_mem_cons.mpr ⟨htype, hday.types⟩
  count := by
    simp [Optimizer.addTransfer, hday.count]
  minutes := by
    simp [Optimizer.addTransfer, hday.minutes, Nat.add_comm]
  walking := hday.walking
  transport := by
    simp [Optimizer.addTransfer, hday.transport]
  distance := by
    simp [Optimizer.addTransfer, hday.distance, add_comm]

theorem CountsTransfers.injectPair {globe : Globe} {services : Services σ} {settings : Settings}
    {service : σ} {curr next : DayRecord} (hnext : CountsTransfers next) :
    CountsTransfers (injectPair globe services settings service curr next).value := by
  unfold Optimizer.injectPair
  dsimp only
  cases hmissing : (missingTransfer globe services settings service curr next).value with
  | none => exact hnext
  | some transfer => exact hnext.addTransfer (type_of_missing globe services settings hmissing)

theorem countsTransfers_inject (globe : Globe) (services : Services σ) (settings : Settings)
    (service : σ) {days : List DayRecord} (hdays : ∀ day ∈ days, CountsTransfers day) :
    ∀ day ∈ (injectIntercityTransfersBetweenDays globe services settings service days).value,
      CountsTransfers day := by
  have hafter : ∀ (curr : DayRecord) (service : σ) (rest : List DayRecord),
      (∀ day ∈ rest, CountsTransfers day) →
        ∀ day ∈ (injectAfter globe services settings curr service rest).value,
          CountsTransfers day := by
    intro curr service rest hrest
    induction rest generalizing curr service with
    | nil => simp [injectAfter]
    | cons next later ih =>
        obtain ⟨hnext, hlater⟩ := List.forall_mem_cons.mp hrest
        exact List.forall_mem_cons.mpr ⟨hnext.injectPair, ih _ _ hlater⟩
  cases days with
  | nil => simp [injectIntercityTransfersBetweenDays]
  | cons first rest =>
      obtain ⟨hfirst, hrest⟩ := List.forall_mem_cons.mp hdays
      exact List.forall_mem_cons.mpr ⟨hfirst, hafter first service rest hrest⟩

/-- Every day of the result counts its transfers. -/
theorem countsTransfers_classicDays (service : σ) :
    ∀ day ∈ (classicDays ctx service assignments).value, CountsTransfers day :=
  countsTransfers_inject _ _ _ _ (countsTransfers_planDays ctx assignments service)

end Trip

/-! ## What the metrics say -/

/-- The travel in the metrics is that of the transfers of the days. -/
structure TellsTransfers (days : List DayRecord) (metrics : EnhancedMetrics) : Prop where
  listed : metrics.intercityTransfers =
    (days.flatMap DayRecord.transfers).map TransferRecord.entry
  count : metrics.longTransfersDetected = metrics.intercityTransfers.length
  walking : metrics.walkingTimeMinutes = 0
  travel : metrics.totalTravelTimeMinutes =
    (metrics.intercityTransfers.map TransferEntry.durationMinutes).sum
  hours : metrics.totalIntercityTimeHours = metrics.totalTravelTimeMinutes / 60
  distance : metrics.totalDistanceKm = metrics.totalIntercityDistanceKm
  score : metrics.efficiencyScore =
    19 / 20 - min (2 / 5) ((metrics.totalTravelTimeMinutes : ℚ) / 2400) -
      min (1 / 5) ((metrics.totalTravelTimeMinutes : ℚ) / 2400)

section Metrics

variable {days : List DayRecord}

/-- A number that each summary has from the transfers of its day is added up over all of them. -/
theorem sumOfDays_eq {M : Type} [AddCommMonoid M] {field : TravelSummary → M}
    {share : TransferRecord → M}
    (hdays : ∀ day ∈ days, field day.travelSummary = (day.transfers.map share).sum) :
    sumOfDays days field = ((days.flatMap DayRecord.transfers).map share).sum := by
  unfold sumOfDays
  induction days with
  | nil => rfl
  | cons day rest ih =>
      obtain ⟨hday, hrest⟩ := List.forall_mem_cons.mp hdays
      rw [List.map_cons, List.sum_cons, ih hrest, hday, List.flatMap_cons, List.map_append,
        List.sum_append]

theorem flatMap_intercityTransfers (hdays : ∀ day ∈ days, CountsTransfers day) :
    days.flatMap intercityTransfers = days.flatMap DayRecord.transfers := by
  refine List.flatMap_congr fun day hday => ?_
  exact List.filter_eq_self.mpr fun transfer htransfer =>
    decide_eq_true ((hdays day hday).types transfer htransfer)

/-- When all travel is between cities, the two penalties grow alike and the score stays above its
lower bound. -/
theorem efficiencyScore_self (minutes : ℕ) :
    efficiencyScore minutes minutes =
      19 / 20 - min (2 / 5) ((minutes : ℚ) / 2400) - min (1 / 5) ((minutes : ℚ) / 2400) := by
  unfold efficiencyScore
  dsimp only
  have htravel : (minutes : ℚ) / 480 * (2 / 10) = minutes / 2400 := by ring
  have hintercity : (minutes : ℚ) / 240 * (1 / 10) = minutes / 2400 := by ring
  rw [htravel, hintercity, show (4 / 10 : ℚ) = 2 / 5 by norm_num,
    show (2 / 10 : ℚ) = 1 / 5 by norm_num, show (95 / 100 : ℚ) = 19 / 20 by norm_num]
  apply max_eq_right
  have htravel := min_le_left (2 / 5) ((minutes : ℚ) / 2400)
  have hintercity := min_le_left (1 / 5) ((minutes : ℚ) / 2400)
  linarith

theorem tellsTransfers (hdays : ∀ day ∈ days, CountsTransfers day) :
    TellsTransfers days (calculateEnhancedMetrics days) := by
  have hlisted := flatMap_intercityTransfers hdays
  have hwalking : sumOfDays days TravelSummary.walkingTimeMinutes = 0 := by
    refine List.sum_eq_zero fun minutes hminutes => ?_
    obtain ⟨day, hday, rfl⟩ := List.mem_map.mp hminutes
    exact (hdays day hday).walking
  have hintercity := sumOfDays_eq fun day hday => (hdays day hday).minutes
  have htransport := sumOfDays_eq fun day hday =>
    (hdays day hday).transport.trans (hdays day hday).minutes
  have hdistance := sumOfDays_eq fun day hday => (hdays day hday).distance
  have hcount : sumOfDays days TravelSummary.intercityTransfersCount =
      ((days.flatMap DayRecord.transfers).map fun _ => 1).sum := by
    refine sumOfDays_eq fun day hday => ?_
    rw [(hdays day hday).count]
    simp
  refine ⟨?_, ?_, hwalking, ?_, ?_, ?_, ?_⟩
  · simp only [calculateEnhancedMetrics, hlisted]
  · simp [calculateEnhancedMetrics, hlisted, hcount]
  · simp only [calculateEnhancedMetrics, hlisted, hwalking, htransport, Nat.zero_add,
      List.map_map]
    rfl
  · simp only [calculateEnhancedMetrics, hwalking, htransport, hintercity, Nat.zero_add]
  · simp only [calculateEnhancedMetrics, hlisted, hdistance, List.map_map]
    rfl
  · simp only [calculateEnhancedMetrics, hwalking, htransport, hintercity, Nat.zero_add]
    exact efficiencyScore_self _

end Metrics

/-- Whatever is assigned to the dates of a trip and whatever the services answer, its metrics
tell the transfers of its days and no other travel: what is walked or driven from place to place
is in none of the totals. -/
theorem classicDays_tellsTransfers (ctx : TripContext σ) (service : σ)
    (assignments : OrderedMap ℤ (List Cluster)) :
    TellsTransfers (classicDays ctx service assignments).value
      (calculateEnhancedMetrics (classicDays ctx service assignments).value) :=
  tellsTransfers (countsTransfers_classicDays ctx assignments service)

end Goveling.Optimizer
