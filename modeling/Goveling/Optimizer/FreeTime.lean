/-
# Two accounts of free time

A day says twice how much of it is free. Its free minutes are the window less what was
counted as activity and travel; its free blocks are what the clock leaves of the window.
The clock passes over legs and waiting times that nobody counts, and it stops at the last
leg of a cluster, behind which the visits of the cluster are counted but not clocked.
-/

import Goveling.Optimizer.ClusterSchedule

namespace Goveling.Optimizer

open Goveling.Math Goveling.Python

universe u

variable {σ : Type u}

/-- Both accounts of a day: the free minutes, if the day says them, and the minutes of its
free blocks. -/
structure FreeAccounts where
  freeMinutes : Option ℤ
  blockMinutes : List ℤ
  deriving DecidableEq

/-- The free minutes are there and are those of the blocks. -/
def FreeAccounts.Agree (accounts : FreeAccounts) : Prop :=
  accounts.freeMinutes = some accounts.blockMinutes.sum

/-- The accounts of a planned day. -/
def DayRecord.freeAccounts (day : DayRecord) : FreeAccounts where
  freeMinutes := some day.freeMinutes
  blockMinutes := day.freeBlocks.map FreeBlock.durationMinutes

theorem agree_freeAccounts_iff (day : DayRecord) :
    day.freeAccounts.Agree ↔
      day.freeMinutes = (day.freeBlocks.map FreeBlock.durationMinutes).sum := by
  simp [FreeAccounts.Agree, DayRecord.freeAccounts]

/-! ## One cluster -/

instance (ctx : DayContext σ) (state : ClusterState σ) (place : Place) :
    Decidable (Fits ctx state place) :=
  inferInstanceAs (Decidable (_ ≤ _))

/-- The minutes of the visit of the next place. -/
def visitMinutes (ctx : DayContext σ) (state : ClusterState σ) (place : Place) : ℤ :=
  if Fits ctx state place then estimateActivityDuration place else 0

/-- The minutes before this visit: the leg to the place, and waiting for its hours. -/
def idleMinutes (ctx : DayContext σ) (state : ClusterState σ) (place : Place) : ℤ :=
  match chooseStart ctx (approachPlace ctx state place).currentTime place with
  | some begins => begins - state.currentTime
  | none => 0

/-- Where the loop over the places stops. -/
def stoppedState (ctx : DayContext σ) (service : σ) (cluster : Cluster) (first : Place)
    (startTime : ℤ) : ClusterState σ :=
  lastYield (visitPlace ctx) (activityPlaces ctx.settings cluster startTime)
    (clusterInit service cluster first startTime)

/-- The place that breaks the loop, if one does. -/
def misfit? (ctx : DayContext σ) (service : σ) (cluster : Cluster) (first : Place)
    (startTime : ℤ) : Option Place :=
  (leftOver (visitPlace ctx) (activityPlaces ctx.settings cluster startTime)
    (clusterInit service cluster first startTime)).head?

/-- A cluster ends with a visit: some place was visited, the place that breaks the loop is
where the traveller already is, and so is the hotel. -/
def EndsWithVisit (ctx : DayContext σ) (service : σ) (cluster : Cluster) (first : Place)
    (startTime : ℤ) : Prop :=
  (stoppedState ctx service cluster first startTime).activities ≠ [] ∧
    (∀ place ∈ misfit? ctx service cluster first startTime,
      (stoppedState ctx service cluster first startTime).currentLocation = place.location) ∧
    ∀ base ∈ cluster.homeBase,
      (stoppedState ctx service cluster first startTime).currentLocation = base.location

instance (ctx : DayContext σ) (service : σ) (cluster : Cluster) (first : Place)
    (startTime : ℤ) : Decidable (EndsWithVisit ctx service cluster first startTime) :=
  inferInstanceAs (Decidable (_ ∧ _))

/-- The minutes of the visits of a cluster that is entered at `startTime`. -/
def clusterVisits (ctx : DayContext σ) (service : σ) (cluster : Cluster) (startTime : ℤ) : ℤ :=
  match cluster.places with
  | [] => 0
  | first :: _ =>
      sumAlong (visitPlace ctx) (visitMinutes ctx) (activityPlaces ctx.settings cluster startTime)
        (clusterInit service cluster first startTime)

/-- The minutes that the clock of the day moves on in a cluster: to the end of the last visit,
unless there is a leg behind it. -/
def clusterClock (ctx : DayContext σ) (service : σ) (cluster : Cluster) (startTime : ℤ) : ℤ :=
  match cluster.places with
  | [] => 0
  | first :: _ =>
      if EndsWithVisit ctx service cluster first startTime then
        sumAlong (visitPlace ctx)
          (fun state place => idleMinutes ctx state place + visitMinutes ctx state place)
          (activityPlaces ctx.settings cluster startTime)
          (clusterInit service cluster first startTime)
      else 0

section Cluster

variable {ctx : DayContext σ} {state : ClusterState σ} {place : Place}

/-- A place that is visited takes the way to it, the waiting and the visit. -/
theorem visitPlace_yields_minutes {state' : ClusterState σ}
    (hbody : visitPlace ctx state place = .yield state') :
    state'.currentTime =
        state.currentTime + (idleMinutes ctx state place + visitMinutes ctx state place) ∧
      (scheduledMinutes (state'.activities.map .activity) : ℤ) =
        scheduledMinutes (state.activities.map .activity) + visitMinutes ctx state place := by
  have hfits : Fits ctx state place := by
    by_contra hlate
    rw [visitPlace_of_not_fits hlate] at hbody
    cases hbody
  unfold visitPlace at hbody
  dsimp only at hbody
  split at hbody
  · rename_i begins hbegins
    cases hbody
    unfold idleMinutes visitMinutes
    rw [hbegins, if_pos hfits]
    refine ⟨?_, ?_⟩
    · simp only [schedulePlace, placeActivity]
      ring
    · simp only [schedulePlace, activities_approachPlace, List.map_append, scheduledMinutes_append]
      simp [scheduledMinutes, Scheduled.durationMinutes, placeActivity]
  · cases hbody

/-- A place that breaks the loop takes no minutes. -/
theorem visitPlace_breaks_minutes {state' : ClusterState σ}
    (hbody : visitPlace ctx state place = .done state') :
    idleMinutes ctx state place = 0 ∧ visitMinutes ctx state place = 0 := by
  have hlate : ¬ Fits ctx state place := by
    intro hfits
    obtain ⟨begins, hyield⟩ := visitPlace_of_fits hfits
    rw [hyield] at hbody
    cases hbody
  have hnone := (chooseStart_eq_none_iff ctx (approachPlace ctx state place).currentTime
    place).mpr (not_le.mp hlate)
  unfold idleMinutes visitMinutes
  rw [hnone, if_neg hlate]
  exact ⟨rfl, rfl⟩

/-- When the last item of a timeline ends, if it says so. -/
def lastEnd (timeline : List TimelineItem) : Option ℤ :=
  timeline.getLast?.bind TimelineItem.endTime?

/-- A leg does not say when it ends. -/
theorem lastEnd_leg (timeline : List TimelineItem) (transfer : TransferItem) :
    lastEnd (timeline ++ [TimelineItem.transferDict transfer]) = none := by
  simp [lastEnd, TimelineItem.endTime?]

theorem lastEnd_returnToHotel {cluster : Cluster} (hnone : lastEnd state.timeline = none) :
    lastEnd (returnToHotel ctx cluster state).timeline = none := by
  rcases returnToHotel_timeline ctx cluster state with hsame | ⟨transfer, hback⟩
  · rw [hsame, hnone]
  · rw [hback, lastEnd_leg]

/-- Without a visit, or at the hotel, there is no leg back. -/
theorem returnToHotel_of_stays {cluster : Cluster}
    (hstays : ∀ base ∈ cluster.homeBase, state.currentLocation = base.location) :
    returnToHotel ctx cluster state = state := by
  unfold returnToHotel
  cases hbase : cluster.homeBase with
  | none => rfl
  | some base =>
      dsimp only
      rw [if_neg]
      exact fun haway => haway.1 (hstays base hbase)

theorem lastEnd_returnToHotel_of_away {cluster : Cluster} {base : HomeBase}
    (hbase : cluster.homeBase = some base) (haway : state.currentLocation ≠ base.location)
    (hany : state.activities ≠ []) :
    lastEnd (returnToHotel ctx cluster state).timeline = none := by
  unfold returnToHotel
  rw [hbase]
  dsimp only
  rw [if_pos ⟨haway, hany⟩]
  exact lastEnd_leg _ _

/-- Until the loop breaks the timeline ends with the clock. -/
structure EndsOnClock (startTime : ℤ) (state : ClusterState σ) : Prop where
  clock : (lastEnd state.timeline).getD startTime = state.currentTime
  empty : state.activities = [] → state.timeline = []

theorem EndsOnClock.visitPlace {startTime : ℤ} {state' : ClusterState σ}
    (hbody : visitPlace ctx state place = .yield state') : EndsOnClock startTime state' := by
  unfold Optimizer.visitPlace at hbody
  dsimp only at hbody
  split at hbody
  · cases hbody
    constructor
    · simp [lastEnd, schedulePlace, TimelineItem.endTime?, Scheduled.endTime]
    · intro hnone
      simp [schedulePlace] at hnone
  · cases hbody

section Route

variable (ctx : DayContext σ) (service : σ) (cluster : Cluster) (first : Place) (startTime : ℤ)

theorem endsOnClock_stoppedState :
    EndsOnClock startTime (stoppedState ctx service cluster first startTime) :=
  lastYield_invariant (fun _ _ _ _ hbody => EndsOnClock.visitPlace hbody) _
    ⟨rfl, fun _ => rfl⟩

/-- The loop ends where it stopped, after a leg to the place that broke it. -/
theorem visitedState_eq :
    visitedState ctx service cluster first startTime =
      (misfit? ctx service cluster first startTime).elim
        (stoppedState ctx service cluster first startTime)
        (approachPlace ctx (stoppedState ctx service cluster first startTime)) := by
  unfold visitedState misfit? stoppedState
  rw [forBreak_eq_lastYield]
  cases hhead : (leftOver (visitPlace ctx) (activityPlaces ctx.settings cluster startTime)
      (clusterInit service cluster first startTime)).head? with
  | none => rfl
  | some place =>
      obtain ⟨state', hdone⟩ := done_of_head_leftOver hhead
      have hlate : ¬ Fits ctx (lastYield (visitPlace ctx)
          (activityPlaces ctx.settings cluster startTime)
          (clusterInit service cluster first startTime)) place := by
        intro hfits
        obtain ⟨begins, hyield⟩ := visitPlace_of_fits hfits
        rw [hyield] at hdone
        cases hdone
      simp only [Option.elim_some]
      rw [visitPlace_of_not_fits hlate]
      rfl

/-- What the clock of the day reads off the timeline of a cluster. -/
theorem lastEnd_visits :
    (lastEnd (returnToHotel ctx cluster
        (visitedState ctx service cluster first startTime)).timeline).getD startTime =
      if EndsWithVisit ctx service cluster first startTime then
        (stoppedState ctx service cluster first startTime).currentTime
      else startTime := by
  have hends := endsOnClock_stoppedState ctx service cluster first startTime
  rw [visitedState_eq]
  set stopped := stoppedState ctx service cluster first startTime
  by_cases hany : stopped.activities = []
  · -- at most the leg to the misfit is on the timeline
    have hnone : lastEnd ((misfit? ctx service cluster first startTime).elim stopped
        (approachPlace ctx stopped)).timeline = none := by
      cases misfit? ctx service cluster first startTime with
      | none =>
          rw [Option.elim_none, hends.empty hany]
          rfl
      | some place =>
          rw [Option.elim_some]
          by_cases hthere : stopped.currentLocation = place.location
          · rw [approachPlace_of_eq hthere, hends.empty hany]
            rfl
          · rw [approachPlace_of_ne hthere, lastEnd_leg]
    rw [lastEnd_returnToHotel hnone, if_neg (fun hvisit => hvisit.1 hany), Option.getD_none]
  · by_cases hmisfit : ∀ place ∈ misfit? ctx service cluster first startTime,
        stopped.currentLocation = place.location
    · have hreached : (misfit? ctx service cluster first startTime).elim stopped
          (approachPlace ctx stopped) = stopped := by
        cases hplace : misfit? ctx service cluster first startTime with
        | none => rfl
        | some place => exact approachPlace_of_eq (hmisfit place hplace)
      rw [hreached]
      by_cases hbase : ∀ base ∈ cluster.homeBase, stopped.currentLocation = base.location
      · rw [returnToHotel_of_stays hbase, if_pos ⟨hany, hmisfit, hbase⟩, hends.clock]
      · rw [if_neg (fun hvisit => hbase hvisit.2.2)]
        push Not at hbase
        obtain ⟨base, hsome, haway⟩ := hbase
        rw [lastEnd_returnToHotel_of_away hsome haway hany, Option.getD_none]
    · rw [if_neg (fun hvisit => hmisfit hvisit.2.1)]
      push Not at hmisfit
      obtain ⟨place, hplace, haway⟩ := hmisfit
      rw [Option.mem_def.mp hplace, Option.elim_some]
      have hnone : lastEnd (approachPlace ctx stopped place).timeline = none := by
        rw [approachPlace_of_ne haway, lastEnd_leg]
      rw [lastEnd_returnToHotel hnone, Option.getD_none]

/-- The visits of a route are those of the places that fit. -/
theorem scheduledMinutes_route :
    (scheduledMinutes ((routeClusterWithTimeWindows ctx service cluster startTime).activities.map
        .activity) : ℤ) = clusterVisits ctx service cluster startTime := by
  unfold routeClusterWithTimeWindows clusterVisits
  cases cluster.places with
  | nil => rfl
  | cons first rest =>
      dsimp only
      rw [activities_returnToHotel]
      have hsum := lastYield_eq_add_sumAlong (f := visitMinutes ctx)
        (fun state : ClusterState σ => (scheduledMinutes (state.activities.map .activity) : ℤ))
        (fun _ _ _ hbody => (visitPlace_yields_minutes hbody).2)
        (fun _ _ _ hbody => (visitPlace_breaks_minutes hbody).2)
        (activityPlaces ctx.settings cluster startTime)
        (clusterInit service cluster first startTime)
      have hvisited : (visitedState ctx service cluster first startTime).activities =
          (stoppedState ctx service cluster first startTime).activities := by
        rw [visitedState_eq]
        cases misfit? ctx service cluster first startTime with
        | none => rfl
        | some place => exact activities_approachPlace ctx _ place
      rw [hvisited]
      refine hsum.trans ?_
      simp [clusterInit, scheduledMinutes]

/-- The clock of the day moves on by the minutes of the cluster. -/
theorem lastEnd_route :
    (lastEnd (routeClusterWithTimeWindows ctx service cluster startTime).timeline).getD startTime =
      startTime + clusterClock ctx service cluster startTime := by
  unfold routeClusterWithTimeWindows clusterClock
  cases cluster.places with
  | nil => exact (add_zero startTime).symm
  | cons first rest =>
      dsimp only
      rw [lastEnd_visits]
      split
      · exact lastYield_eq_add_sumAlong ClusterState.currentTime
          (fun _ _ _ hbody => (visitPlace_yields_minutes hbody).1)
          (fun _ _ _ hbody => by
            rw [(visitPlace_breaks_minutes hbody).1, (visitPlace_breaks_minutes hbody).2, add_zero])
          (activityPlaces ctx.settings cluster startTime)
          (clusterInit service cluster first startTime)
      · exact (add_zero startTime).symm

end Route

end Cluster

/-! ## One day -/

/-- The minutes that the next cluster takes off the free minutes: the trip to it, the trip once
more when it is made into an activity, and the visits. -/
def countedMinutes (ctx : DayContext σ) (state : DayState σ) (cluster : Cluster) : ℤ :=
  match enterCluster ctx state cluster with
  | .done _ => 0
  | .yield entered =>
      let trip := entered.currentTime - state.currentTime
      trip + (if 180 ≤ trip then trip else 0) +
        clusterVisits ctx entered.service cluster entered.currentTime

/-- The minutes that the clock moves on with the next cluster. -/
def clockedMinutes (ctx : DayContext σ) (state : DayState σ) (cluster : Cluster) : ℤ :=
  match enterCluster ctx state cluster with
  | .done _ => 0
  | .yield entered =>
      entered.currentTime - state.currentTime +
        clusterClock ctx entered.service cluster entered.currentTime

/-- Both accounts of a routed day agree: with the check-in of the first day, as many minutes
were counted as clocked, or both fill the window. -/
def DayFreeAgrees (ctx : DayContext σ) (service : σ) (request : DayRequest) : Prop :=
  let start := dayInit ctx service request.assignedClusters request.previousDayEndLocation
    request.dayNumber
  let checkInMinutes := start.currentTime - ctx.dailyWindow.start
  let counted := checkInMinutes +
    sumAlong (routeCluster ctx) (countedMinutes ctx) request.assignedClusters start
  let clocked := checkInMinutes +
    sumAlong (routeCluster ctx) (clockedMinutes ctx) request.assignedClusters start
  let length := ctx.dailyWindow.stop - ctx.dailyWindow.start
  counted = clocked ∨ length ≤ counted ∧ length ≤ clocked

section Day

variable (ctx : DayContext σ)

/-- The minutes of what was scheduled and travelled. -/
def spentMinutes (state : DayState σ) : ℤ :=
  scheduledMinutes state.activitiesScheduled + (state.walkingTime + state.transportTime : ℕ)

theorem scheduledMinutes_tripActivities (transfer : TransferItem) (currentTime : ℤ) :
    scheduledMinutes (tripActivities transfer currentTime) =
      if 180 ≤ transfer.durationMinutes then transfer.durationMinutes else 0 := by
  rw [← tripMinutes_tripActivities transfer currentTime, scheduledMinutes_eq]
  unfold tripActivities
  cases createIntercityActivity transfer currentTime <;>
    simp [scheduledMinutes, Scheduled.isTransfer]

/-- Entering a cluster counts the trip, and once more when it is an activity. -/
theorem spentMinutes_enterCluster (state : DayState σ) (cluster : Cluster) {entered : DayState σ}
    (henter : enterCluster ctx state cluster = .yield entered) :
    spentMinutes entered = spentMinutes state +
      ((entered.currentTime - state.currentTime) +
        if 180 ≤ entered.currentTime - state.currentTime then
          entered.currentTime - state.currentTime else 0) := by
  rcases enterCluster_cases ctx state cluster with ⟨service, hdone⟩ |
    ⟨location, service, hyield⟩ | ⟨transfer, location, service, hpos, hyield⟩
  · rw [hdone] at henter
    cases henter
  · rw [hyield] at henter
    cases henter
    simp [spentMinutes]
  · rw [hyield] at henter
    cases henter
    have htrip := scheduledMinutes_tripActivities transfer state.currentTime
    simp only [spentMinutes, recordInbound, scheduledMinutes_append, htrip, add_sub_cancel_left]
    split <;> split <;> omega

/-- A trip that does not fit leaves the day as it was. -/
theorem eq_of_enterCluster_eq_done {state overnight : DayState σ} {cluster : Cluster}
    (henter : enterCluster ctx state cluster = .done overnight) :
    ∃ service, overnight = { state with service := service } := by
  rcases enterCluster_cases ctx state cluster with ⟨service, hdone⟩ |
    ⟨location, service, hyield⟩ | ⟨transfer, location, service, hpos, hyield⟩
  · rw [hdone] at henter
    cases henter
    exact ⟨service, rfl⟩
  · rw [hyield] at henter
    cases henter
  · rw [hyield] at henter
    cases henter

theorem spentMinutes_routeCluster (state : DayState σ) (cluster : Cluster) :
    spentMinutes (routeCluster ctx state cluster).value =
      spentMinutes state + countedMinutes ctx state cluster := by
  unfold routeCluster countedMinutes
  cases henter : enterCluster ctx state cluster with
  | done overnight =>
      obtain ⟨service, rfl⟩ := eq_of_enterCluster_eq_done ctx henter
      exact (add_zero _).symm
  | yield entered =>
      have hspent := spentMinutes_enterCluster ctx state cluster henter
      have hvisits := scheduledMinutes_route ctx entered.service cluster entered.currentTime
      dsimp only [ForInStep.value]
      rw [addRoute_of_visits (routeClusterWithTimeWindows_visits ctx _ cluster _)]
      unfold spentMinutes at hspent ⊢
      dsimp only
      rw [scheduledMinutes_append]
      push_cast at hspent ⊢
      rw [hvisits]
      linarith

theorem currentTime_routeCluster (state : DayState σ) (cluster : Cluster) :
    (routeCluster ctx state cluster).value.currentTime =
      state.currentTime + clockedMinutes ctx state cluster := by
  unfold routeCluster clockedMinutes
  cases henter : enterCluster ctx state cluster with
  | done overnight =>
      obtain ⟨service, rfl⟩ := eq_of_enterCluster_eq_done ctx henter
      exact (add_zero _).symm
  | yield entered =>
      have hclock := lastEnd_route ctx entered.service cluster entered.currentTime
      dsimp only [ForInStep.value]
      rw [addRoute_of_visits (routeClusterWithTimeWindows_visits ctx _ cluster _)]
      refine hclock.trans ?_
      ring

/-- A day starts with the minutes of its check-in on both accounts. -/
theorem spentMinutes_dayInit (service : σ) (clusters : List Cluster)
    (previous : Option Location) (dayNumber : ℤ) :
    spentMinutes (dayInit ctx service clusters previous dayNumber) =
      (dayInit ctx service clusters previous dayNumber).currentTime - ctx.dailyWindow.start := by
  unfold spentMinutes dayInit
  dsimp only
  split
  · split <;> simp [scheduledMinutes, Scheduled.durationMinutes, checkIn]
  · simp [scheduledMinutes]

/-- The free block is what the clock leaves of the day. -/
theorem blockMinutes_generateFreeBlocks (services : Services σ) (service : σ)
    (currentTime dayEnd : ℤ) (origin : Option SuggestionOrigin) (dayNumber : ℤ) :
    ((generateFreeBlocksEnhanced services service currentTime dayEnd origin dayNumber).value.map
        FreeBlock.durationMinutes).sum = max 0 (dayEnd - currentTime) := by
  unfold generateFreeBlocksEnhanced
  split
  · rename_i hearly
    simpa using hearly.le
  · rename_i hlate
    simpa using not_lt.mp hlate

theorem agree_routeDayEnhanced_iff (service : σ) (request : DayRequest) :
    (routeDayEnhanced ctx service request).value.freeAccounts.Agree ↔
      DayFreeAgrees ctx service request := by
  have hblocks := blockMinutes_generateFreeBlocks ctx.services
    (routedState ctx service request).service (routedState ctx service request).currentTime
    ctx.dailyWindow.stop
    ((suggestionsOrigin ctx.globe request.assignedClusters
      (routedState ctx service request).currentLocation).map .point) request.dayNumber
  have hspent := forBreak_eq_add_sumAlong spentMinutes (spentMinutes_routeCluster ctx)
    request.assignedClusters (dayInit ctx service request.assignedClusters
      request.previousDayEndLocation request.dayNumber)
  have hclock := forBreak_eq_add_sumAlong DayState.currentTime (currentTime_routeCluster ctx)
    request.assignedClusters (dayInit ctx service request.assignedClusters
      request.previousDayEndLocation request.dayNumber)
  have hinit := spentMinutes_dayInit ctx service request.assignedClusters
    request.previousDayEndLocation request.dayNumber
  rw [agree_freeAccounts_iff]
  unfold routeDayEnhanced closeDay DayFreeAgrees
  dsimp only
  rw [hblocks]
  unfold spentMinutes at hspent hinit
  unfold routedState
  rw [hclock]
  push_cast at hspent hinit ⊢
  omega

/-- A free day is as long as its block, unless its window is reversed. -/
theorem agree_freeDay_iff (service : σ) (date : ℤ) (origin : Option SuggestionOrigin)
    (inheritedBase : Option BaseInfo) (dayNumber : ℤ) :
    (freeDay ctx service date origin inheritedBase dayNumber).value.freeAccounts.Agree ↔
      ctx.dailyWindow.start ≤ ctx.dailyWindow.stop := by
  have hblocks := blockMinutes_generateFreeBlocks ctx.services service ctx.dailyWindow.start
    ctx.dailyWindow.stop origin dayNumber
  rw [agree_freeAccounts_iff]
  unfold freeDay
  dsimp only
  rw [hblocks]
  omega

end Day

/-! ## All days of a trip -/

/-- A day of `_generate_free_days_with_suggestions`: it has a free block, and no free minutes. -/
structure SuggestedDay where
  day : ℤ
  date : ℤ
  freeBlocks : List FreeBlock

/-- `_generate_free_days_with_suggestions`; `search` has the suggestions found for a day. -/
def generateFreeDaysWithSuggestions (timeWindow : TimeWindow) (search : ℤ → List Suggestion)
    (startDate endDate : ℤ) : List SuggestedDay :=
  let totalDays := endDate - startDate + 1
  (List.range totalDays.toNat).map fun i : ℕ =>
    let dayNumber : ℤ := i + 1
    let suggestions := search dayNumber
    { day := dayNumber
      date := startDate + i
      freeBlocks := [
        { startTime := timeWindow.start
          endTime := timeWindow.stop
          durationMinutes := timeWindow.stop - timeWindow.start
          suggestions := suggestions
          note := "Día libre completo con " ++ toString suggestions.length ++
            " sugerencias de lugares para explorar" }] }

/-- The accounts of such a day. -/
def SuggestedDay.freeAccounts (day : SuggestedDay) : FreeAccounts where
  freeMinutes := none
  blockMinutes := day.freeBlocks.map FreeBlock.durationMinutes

/-- What `_optimize_classic_method` makes the days of a trip from: its dates alone, when no
valid place or no cluster is there, or the clusters assigned to its dates. -/
inductive TripPlan
  | withoutClusters (search : ℤ → List Suggestion) (startDate endDate : ℤ)
  | assigned (assignments : OrderedMap ℤ (List Cluster))

/-- The accounts of the days of a trip. -/
def classicAccounts (ctx : TripContext σ) (service : σ) : TripPlan → List FreeAccounts
  | .withoutClusters search startDate endDate =>
      (generateFreeDaysWithSuggestions ctx.timeWindow search startDate endDate).map
        SuggestedDay.freeAccounts
  | .assigned assignments => (classicDays ctx service assignments).value.map DayRecord.freeAccounts

/-- The accounts of the next date agree. -/
def DateFreeAgrees (ctx : TripContext σ) (assignments : OrderedMap ℤ (List Cluster))
    (hotel : Option Location) (state : TripState σ) (date : ℤ × ℕ) : Prop :=
  match assignments.bucket date.1 with
  | [] => (ctx.windowOf date.1).start ≤ (ctx.windowOf date.1).stop
  | clusters =>
      DayFreeAgrees (ctx.dayContext date.1) state.service (tripRequest ctx hotel state clusters date)

/-- The accounts of all dates agree. A trip without clusters has free days, whose free minutes
are missing, unless it has no date. -/
def TripFreeAgrees (ctx : TripContext σ) (service : σ) : TripPlan → Prop
  | .withoutClusters _ startDate endDate => endDate < startDate
  | .assigned assignments =>
      Along (planDate ctx assignments (firstDayHotel assignments (sortedDates assignments)))
        (fun state date _ => DateFreeAgrees ctx assignments
          (firstDayHotel assignments (sortedDates assignments)) state date)
        (sortedDates assignments).zipIdx (tripInit service)

section Trip

variable (ctx : TripContext σ)

theorem agree_planDate_iff (assignments : OrderedMap ℤ (List Cluster)) (hotel : Option Location)
    (state : TripState σ) (date : ℤ × ℕ) :
    (∀ day ∈ (planDate ctx assignments hotel state date).value.days, day.freeAccounts.Agree) ↔
      (∀ day ∈ state.days, day.freeAccounts.Agree) ∧
        DateFreeAgrees ctx assignments hotel state date := by
  unfold planDate DateFreeAgrees
  cases assignments.bucket date.1 with
  | nil =>
      dsimp only [ForInStep.value]
      rw [List.forall_mem_append, List.forall_mem_singleton, agree_freeDay_iff]
      rfl
  | cons cluster rest =>
      dsimp only [ForInStep.value]
      rw [List.forall_mem_append, List.forall_mem_singleton, agree_routeDayEnhanced_iff]

theorem agree_classicDays_iff (service : σ) (assignments : OrderedMap ℤ (List Cluster)) :
    (∀ day ∈ (classicDays ctx service assignments).value, day.freeAccounts.Agree) ↔
      TripFreeAgrees ctx service (.assigned assignments) := by
  have hkept := map_inject ctx.globe ctx.services ctx.settings DayRecord.freeAccounts
    (fun _ _ => rfl) (planDays ctx service assignments).service
    (planDays ctx service assignments).days
  have hloop := forBreak_iff_along (I := fun _ => True)
    (G := fun state : TripState σ => ∀ day ∈ state.days, day.freeAccounts.Agree)
    (fun _ _ _ => trivial)
    (fun state date (_ : List (ℤ × ℕ)) _ => agree_planDate_iff ctx assignments
      (firstDayHotel assignments (sortedDates assignments)) state date)
    (sortedDates assignments).zipIdx (tripInit service) trivial
  have hinit : ∀ day ∈ (tripInit service).days, day.freeAccounts.Agree := by simp [tripInit]
  calc (∀ day ∈ (classicDays ctx service assignments).value, day.freeAccounts.Agree)
      ↔ ∀ accounts ∈ (classicDays ctx service assignments).value.map DayRecord.freeAccounts,
          accounts.Agree := List.forall_mem_map.symm
    _ ↔ ∀ accounts ∈ (planDays ctx service assignments).days.map DayRecord.freeAccounts,
          accounts.Agree := by rw [← hkept]; rfl
    _ ↔ ∀ day ∈ (planDays ctx service assignments).days, day.freeAccounts.Agree :=
        List.forall_mem_map
    _ ↔ TripFreeAgrees ctx service (.assigned assignments) := hloop.trans (and_iff_right hinit)

/-- A free day without free minutes agrees with nothing. -/
theorem agree_generateFreeDays_iff (search : ℤ → List Suggestion) (startDate endDate : ℤ) :
    (∀ day ∈ generateFreeDaysWithSuggestions ctx.timeWindow search startDate endDate,
        day.freeAccounts.Agree) ↔ endDate < startDate := by
  have hmissing : ∀ day : SuggestedDay, ¬ day.freeAccounts.Agree := by
    intro day hagree
    cases hagree
  constructor
  · intro hall
    by_contra hdates
    have hmem : 0 ∈ List.range (endDate - startDate + 1).toNat := List.mem_range.mpr (by omega)
    exact hmissing _ (hall _ (List.mem_map_of_mem hmem))
  · intro hnone
    have hzero : (endDate - startDate + 1).toNat = 0 := by omega
    simp [generateFreeDaysWithSuggestions, hzero]

/-- The accounts of all days of a trip agree exactly when every day counts as many minutes as
its clock moves on, or its window is filled on both accounts, no free day has a reversed
window, and there are clusters to plan. -/
theorem classicAccounts_agree_iff (service : σ) (plan : TripPlan) :
    (∀ accounts ∈ classicAccounts ctx service plan, accounts.Agree) ↔
      TripFreeAgrees ctx service plan := by
  cases plan with
  | withoutClusters search startDate endDate =>
      unfold classicAccounts TripFreeAgrees
      rw [List.forall_mem_map]
      exact agree_generateFreeDays_iff ctx search startDate endDate
  | assigned assignments =>
      unfold classicAccounts
      rw [List.forall_mem_map]
      exact agree_classicDays_iff ctx service assignments

end Trip

/-- One day at a hotel, with a park ten minutes away. -/
def parkTrip : OrderedMap ℤ (List Cluster) := OrderedMap.empty.set 1 [.parkNearHotel]

/-- Check-in and park leave 450 of the nine hours to the free minutes; the clock, which stands
where the check-in ended, leaves 510. -/
theorem not_agree_parkTrip :
    ¬ ∀ accounts ∈ classicAccounts
        { globe := .equatorial
          services := .steady { distanceKm := 556 / 100, durationMinutes := 10 }
          settings := {}
          timeWindow := { start := 540, stop := 1080 }
          transportMode := .drive } () (.assigned parkTrip), accounts.Agree := by
  intro hagree
  have haccounts : classicAccounts
        { globe := .equatorial
          services := .steady { distanceKm := 556 / 100, durationMinutes := 10 }
          settings := {}
          timeWindow := { start := 540, stop := 1080 }
          transportMode := .drive } () (.assigned parkTrip) = [⟨some 450, [510]⟩] := by
    decide +kernel
  rw [haccounts] at hagree
  have hsame := hagree _ (.head _)
  exact absurd hsame (by simp [FreeAccounts.Agree])

end Goveling.Optimizer
