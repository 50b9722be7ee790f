/-
# The totals of a routed day

The travel totals of a day count the trips between home bases and nothing else:
the legs of a cluster are in the timeline as dictionaries, and only `TransferItem`
objects are counted. A long trip is counted as travel and once more as an
activity. So the totals say what the timeline says exactly when every leg inside
a cluster is free and no long trip eats into the free minutes.
-/

import Goveling.Optimizer.DayRoute
import Mathlib.Tactic.Linarith

namespace Goveling.Optimizer

open Goveling.Math

universe u

variable {σ : Type u}

/-! ## The transfers of a timeline -/

/-- The transfers of a timeline, each once. -/
def timelineTransfers (timeline : List TimelineItem) : List TransferItem :=
  timeline.filterMap TimelineItem.transfer?

@[simp]
theorem timelineTransfers_transferDict (transfer : TransferItem) (rest : List TimelineItem) :
    timelineTransfers (.transferDict transfer :: rest) = transfer :: timelineTransfers rest := rfl

@[simp]
theorem timelineTransfers_scheduled (item : Scheduled) (rest : List TimelineItem) :
    timelineTransfers (.scheduled item :: rest) = timelineTransfers rest := rfl

@[simp]
theorem timelineTransfers_nil : timelineTransfers [] = [] := rfl

@[simp]
theorem timelineTransfers_append (first second : List TimelineItem) :
    timelineTransfers (first ++ second) = timelineTransfers first ++ timelineTransfers second :=
  List.filterMap_append

/-- Their minutes. -/
def transferMinutes (timeline : List TimelineItem) : ℕ :=
  ((timelineTransfers timeline).map TransferItem.durationMinutes).sum

/-- Their kilometers. -/
def transferKm (timeline : List TimelineItem) : ℚ≥0 :=
  ((timelineTransfers timeline).map TransferItem.distanceKm).sum

/-- The totals of a day say what its timeline says. -/
structure TotalsAgree (dailyWindow : TimeWindow) (day : DayRecord) : Prop where
  minutes : day.travelSummary.walkingTimeMinutes + day.travelSummary.transportTimeMinutes =
    transferMinutes day.timeline
  distance : day.travelSummary.totalDistanceKm = transferKm day.timeline
  free : day.freeMinutes = max 0 ((dailyWindow.stop - dailyWindow.start) -
    scheduledMinutes (day.pureActivities.filter (!·.isTransfer)) -
    (day.travelSummary.walkingTimeMinutes + day.travelSummary.transportTimeMinutes))

theorem transferMinutes_append (first second : List TimelineItem) :
    transferMinutes (first ++ second) = transferMinutes first + transferMinutes second := by
  simp [transferMinutes]

theorem transferKm_append (first second : List TimelineItem) :
    transferKm (first ++ second) = transferKm first + transferKm second := by
  simp [transferKm]

/-- A transfer that adds nothing to any total. -/
def FreeLeg (transfer : TransferItem) : Prop :=
  transfer.durationMinutes = 0 ∧ transfer.distanceKm = 0

theorem sums_eq_zero_iff (timeline : List TimelineItem) :
    (transferMinutes timeline = 0 ∧ transferKm timeline = 0) ↔
      ∀ transfer ∈ timelineTransfers timeline, FreeLeg transfer := by
  simp only [transferMinutes, transferKm, List.sum_eq_zero_iff, List.forall_mem_map, FreeLeg]
  exact ⟨fun h transfer hmem => ⟨h.1 transfer hmem, h.2 transfer hmem⟩,
    fun h => ⟨fun transfer hmem => (h transfer hmem).1, fun transfer hmem => (h transfer hmem).2⟩⟩

/-! ## The legs of a cluster -/

/-- The next place is where the traveller is, or the leg to it is free. -/
def FreeApproach (ctx : DayContext σ) (state : ClusterState σ) (place : Place) : Prop :=
  state.currentLocation = place.location ∨ FreeLeg (approachTransfer ctx state place)

/-- The leg back to the hotel is not made or free. -/
def FreeReturn (ctx : DayContext σ) (cluster : Cluster) (state : ClusterState σ) : Prop :=
  ∀ base ∈ cluster.homeBase, state.currentLocation ≠ base.location → state.activities ≠ [] →
    FreeLeg (returnTransfer ctx state base)

/-- Every leg made inside a cluster is free. -/
def FreeLegs (ctx : DayContext σ) (service : σ) (cluster : Cluster) (startTime : ℤ) : Prop :=
  ∀ first ∈ cluster.places.head?,
    Along (visitPlace ctx) (fun state place _ => FreeApproach ctx state place)
        (activityPlaces ctx.settings cluster startTime)
        (clusterInit service cluster first startTime) ∧
      FreeReturn ctx cluster (visitedState ctx service cluster first startTime)

section Cluster

variable (ctx : DayContext σ)

/-- The leg to the next place meets `P`, if it is made. -/
def ApproachMeets (P : TransferItem → Prop) (state : ClusterState σ) (place : Place) : Prop :=
  state.currentLocation = place.location ∨ P (approachTransfer ctx state place)

/-- So does the leg back to the hotel. -/
def ReturnMeets (P : TransferItem → Prop) (cluster : Cluster) (state : ClusterState σ) : Prop :=
  ∀ base ∈ cluster.homeBase, state.currentLocation ≠ base.location → state.activities ≠ [] →
    P (returnTransfer ctx state base)

/-- So does every leg made inside a cluster. -/
def LegsMeet (P : TransferItem → Prop) (service : σ) (cluster : Cluster) (startTime : ℤ) : Prop :=
  ∀ first ∈ cluster.places.head?,
    Along (visitPlace ctx) (fun state place _ => ApproachMeets ctx P state place)
        (activityPlaces ctx.settings cluster startTime)
        (clusterInit service cluster first startTime) ∧
      ReturnMeets ctx P cluster (visitedState ctx service cluster first startTime)

variable {P Q : TransferItem → Prop}

theorem forall_approachPlace_iff (state : ClusterState σ) (place : Place) :
    (∀ transfer ∈ timelineTransfers (approachPlace ctx state place).timeline, P transfer) ↔
      (∀ transfer ∈ timelineTransfers state.timeline, P transfer) ∧
        ApproachMeets ctx P state place := by
  unfold approachPlace ApproachMeets
  split
  · rename_i hthere
    simp [hthere]
  · rename_i haway
    simp only [timelineTransfers_append, timelineTransfers_transferDict, timelineTransfers_nil,
      List.forall_mem_append, List.forall_mem_singleton,
      haway, false_or]

theorem forall_visitPlace_iff (state : ClusterState σ) (place : Place) :
    (∀ transfer ∈ timelineTransfers (visitPlace ctx state place).value.timeline, P transfer) ↔
      (∀ transfer ∈ timelineTransfers state.timeline, P transfer) ∧
        ApproachMeets ctx P state place := by
  rw [← forall_approachPlace_iff]
  simp only [visitPlace]
  split
  · simp [ForInStep.value, schedulePlace]
  · rfl

theorem forall_returnToHotel_iff (cluster : Cluster) (state : ClusterState σ) :
    (∀ transfer ∈ timelineTransfers (returnToHotel ctx cluster state).timeline, P transfer) ↔
      (∀ transfer ∈ timelineTransfers state.timeline, P transfer) ∧
        ReturnMeets ctx P cluster state := by
  unfold returnToHotel ReturnMeets
  cases cluster.homeBase with
  | none => simp
  | some base =>
      dsimp only
      split
      · rename_i hback
        simp only [timelineTransfers_append, timelineTransfers_transferDict, timelineTransfers_nil,
          List.forall_mem_append, List.forall_mem_singleton, Option.mem_def, Option.some.injEq,
          forall_eq', hback.1, hback.2, ne_eq, not_false_eq_true, forall_const]
      · rename_i hstay
        simp only [ne_eq, not_and_or, not_not] at hstay
        simp only [Option.mem_def, Option.some.injEq, forall_eq', iff_self_and]
        exact fun _ haway hany => absurd hstay (by simp [haway, hany])

/-- Every transfer of a cluster's timeline meets `P` exactly when every leg made
on the way does. -/
theorem forall_routeCluster_iff (service : σ) (cluster : Cluster) (startTime : ℤ) :
    (∀ transfer ∈ timelineTransfers
        (routeClusterWithTimeWindows ctx service cluster startTime).timeline,
        P transfer) ↔ LegsMeet ctx P service cluster startTime := by
  cases hplaces : cluster.places with
  | nil => simp [routeClusterWithTimeWindows, LegsMeet, hplaces]
  | cons first rest =>
      have hloop := forBreak_iff_along (I := fun _ => True)
        (G := fun state : ClusterState σ =>
          ∀ transfer ∈ timelineTransfers state.timeline, P transfer)
        (fun _ _ _ => trivial)
        (fun state place (_ : List Place) _ => forall_visitPlace_iff ctx state place)
        (activityPlaces ctx.settings cluster startTime)
        (clusterInit service cluster first startTime) trivial
      have hinit : ∀ transfer ∈ timelineTransfers
          (clusterInit service cluster first startTime).timeline, P transfer := by
        simp [clusterInit]
      simp only [routeClusterWithTimeWindows, LegsMeet, hplaces, List.head?_cons,
        Option.mem_def, Option.some.injEq, forall_eq']
      rw [forall_returnToHotel_iff]
      exact and_congr_left fun _ => hloop.trans (and_iff_right hinit)

/-- Conditions that agree on the legs of clusters are met by the same clusters. -/
theorem legsMeet_congr
    (hsame : ∀ (state : ClusterState σ) eta destination fromPlace toPlace isReturnToHotel,
      P (legTransfer ctx state eta destination fromPlace toPlace isReturnToHotel) ↔
        Q (legTransfer ctx state eta destination fromPlace toPlace isReturnToHotel))
    (service : σ) (cluster : Cluster) (startTime : ℤ) :
    LegsMeet ctx P service cluster startTime ↔ LegsMeet ctx Q service cluster startTime := by
  refine forall₂_congr fun first _ => and_congr ?_ ?_
  · exact along_congr (I := fun _ => True) (fun _ _ _ => trivial)
      (fun state place _ _ => or_congr_right (hsame state _ _ _ _ _)) _ trivial
  · exact forall₄_congr fun base _ _ _ => hsame _ _ _ _ _ _

/-- Every transfer of a cluster's timeline is free exactly when every leg made
on the way is. -/
theorem freeLegs_routeCluster_iff (service : σ) (cluster : Cluster) (startTime : ℤ) :
    (∀ transfer ∈ timelineTransfers
        (routeClusterWithTimeWindows ctx service cluster startTime).timeline,
        FreeLeg transfer) ↔ FreeLegs ctx service cluster startTime :=
  forall_routeCluster_iff ctx service cluster startTime

end Cluster

/-! ## The day -/

/-- The legs made inside the next cluster are free, if it is entered. -/
def EntersFreeLegs (ctx : DayContext σ) (state : DayState σ) (cluster : Cluster) : Prop :=
  match enterCluster ctx state cluster with
  | .done _ => True
  | .yield entered => FreeLegs ctx entered.service cluster entered.currentTime

/-- The trip to the next cluster is not made into an activity. -/
def EntersWithoutTrip (ctx : DayContext σ) (state : DayState σ) (cluster : Cluster) : Prop :=
  match enterCluster ctx state cluster with
  | .done _ => True
  | .yield entered => entered.currentTime - state.currentTime < 180

/-- Minutes and kilometers counted so far, against those of the timeline. -/
structure Counted (state : DayState σ) : Prop where
  minutes : state.walkingTime + state.transportTime = transferMinutes state.timeline
  distance : state.totalDistance = transferKm state.timeline

/-- The totals never run ahead of the timeline. -/
structure Behind (state : DayState σ) : Prop where
  minutes : state.walkingTime + state.transportTime ≤ transferMinutes state.timeline
  distance : state.totalDistance ≤ transferKm state.timeline

theorem transferMinutes_inbound (transfer : TransferItem) (currentTime : ℤ) :
    transferMinutes (.transferDict transfer ::
      (tripActivities transfer currentTime).map .scheduled) = transfer.durationMinutes := by
  unfold tripActivities
  cases createIntercityActivity transfer currentTime <;>
    simp [transferMinutes]

theorem transferKm_inbound (transfer : TransferItem) (currentTime : ℤ) :
    transferKm (.transferDict transfer ::
      (tripActivities transfer currentTime).map .scheduled) = transfer.distanceKm := by
  unfold tripActivities
  cases createIntercityActivity transfer currentTime <;>
    simp [transferKm]

/-- Entering a cluster counts exactly what it places. -/
theorem enterCluster_counts (ctx : DayContext σ) (state : DayState σ) (cluster : Cluster) :
    ∃ added : List TimelineItem,
      (enterCluster ctx state cluster).value.timeline = state.timeline ++ added ∧
      (enterCluster ctx state cluster).value.walkingTime +
          (enterCluster ctx state cluster).value.transportTime =
        state.walkingTime + state.transportTime + transferMinutes added ∧
      (enterCluster ctx state cluster).value.totalDistance =
        state.totalDistance + transferKm added := by
  rcases enterCluster_cases ctx state cluster with ⟨service, hdone⟩ |
    ⟨location, service, hyield⟩ | ⟨transfer, location, service, hpos, hyield⟩
  · rw [hdone]
    exact ⟨[], by simp [ForInStep.value], by simp [ForInStep.value, transferMinutes],
      by simp [ForInStep.value, transferKm]⟩
  · rw [hyield]
    exact ⟨[], by simp [ForInStep.value], by simp [ForInStep.value, transferMinutes],
      by simp [ForInStep.value, transferKm]⟩
  · rw [hyield]
    refine ⟨_, rfl, ?_, ?_⟩
    · rw [transferMinutes_inbound]
      simp only [ForInStep.value, recordInbound]
      omega
    · rw [transferKm_inbound]
      rfl

/-- One iteration places, besides what it counts, the legs of its cluster. -/
theorem routeCluster_counts (ctx : DayContext σ) (state : DayState σ) (cluster : Cluster) :
    ∃ counted legs : List TimelineItem,
      transferMinutes (routeCluster ctx state cluster).value.timeline =
        transferMinutes state.timeline + transferMinutes counted + transferMinutes legs ∧
      transferKm (routeCluster ctx state cluster).value.timeline =
        transferKm state.timeline + transferKm counted + transferKm legs ∧
      (routeCluster ctx state cluster).value.walkingTime +
          (routeCluster ctx state cluster).value.transportTime =
        state.walkingTime + state.transportTime + transferMinutes counted ∧
      (routeCluster ctx state cluster).value.totalDistance =
        state.totalDistance + transferKm counted ∧
      ((transferMinutes legs = 0 ∧ transferKm legs = 0) ↔ EntersFreeLegs ctx state cluster) := by
  obtain ⟨counted, htimeline, hminutes, hdistance⟩ := enterCluster_counts ctx state cluster
  unfold routeCluster EntersFreeLegs
  cases henter : enterCluster ctx state cluster with
  | done overnight =>
      rw [henter] at htimeline hminutes hdistance
      simp only [ForInStep.value] at htimeline hminutes hdistance ⊢
      refine ⟨counted, [], ?_, ?_, hminutes, hdistance, ?_⟩
      · rw [htimeline, transferMinutes_append]
        rfl
      · rw [htimeline, transferKm_append]
        exact (add_zero _).symm
      · exact iff_true_intro ⟨rfl, rfl⟩
  | yield entered =>
      rw [henter] at htimeline hminutes hdistance
      simp only [ForInStep.value] at htimeline hminutes hdistance ⊢
      rw [addRoute_of_visits (routeClusterWithTimeWindows_visits ctx entered.service cluster
        entered.currentTime)]
      refine ⟨counted, _, ?_, ?_, hminutes, hdistance,
        (sums_eq_zero_iff _).trans (freeLegs_routeCluster_iff ctx entered.service cluster
          entered.currentTime)⟩
      · rw [htimeline, transferMinutes_append, transferMinutes_append]
      · rw [htimeline, transferKm_append, transferKm_append]

theorem Behind.routeCluster (ctx : DayContext σ) {state : DayState σ} (hbehind : Behind state)
    (cluster : Cluster) : Behind (routeCluster ctx state cluster).value := by
  obtain ⟨counted, legs, hminutes, hkm, hcounted, hdistance, -⟩ :=
    routeCluster_counts ctx state cluster
  constructor
  · have hle := hbehind.minutes
    omega
  · rw [hdistance, hkm]
    exact (add_le_add_left hbehind.distance _).trans le_self_add

/-- The totals keep up with the timeline exactly when the legs are free. -/
theorem counted_routeCluster_iff (ctx : DayContext σ) {state : DayState σ}
    (hbehind : Behind state) (cluster : Cluster) :
    Counted (routeCluster ctx state cluster).value ↔
      Counted state ∧ EntersFreeLegs ctx state cluster := by
  obtain ⟨counted, legs, hminutes, hkm, hcounted, hdistance, hfree⟩ :=
    routeCluster_counts ctx state cluster
  obtain ⟨hleMinutes, hleKm⟩ := hbehind
  rw [← hfree]
  constructor
  · rintro ⟨hsame, hsameKm⟩
    rw [hcounted, hminutes] at hsame
    rw [hdistance, hkm] at hsameKm
    have hexact : state.totalDistance = transferKm state.timeline + transferKm legs := by
      refine add_right_cancel (b := transferKm counted) ?_
      rw [hsameKm]
      ring
    have hzero : transferKm legs = 0 := by
      have hle : transferKm state.timeline + transferKm legs ≤ transferKm state.timeline :=
        hexact ▸ hleKm
      exact le_antisymm (by simpa using hle) zero_le
    exact ⟨⟨by omega, by rw [hexact, hzero, add_zero]⟩, by omega, hzero⟩
  · rintro ⟨⟨hsame, hsameKm⟩, hnone, hnoneKm⟩
    exact ⟨by omega, by rw [hdistance, hkm, hsameKm, hnoneKm, add_zero]⟩

/-! ## Long trips among the activities -/

/-- Minutes of the activities that are themselves transfers. -/
def tripMinutes (items : List Scheduled) : ℕ := scheduledMinutes (items.filter (·.isTransfer))

theorem scheduledMinutes_append (first second : List Scheduled) :
    scheduledMinutes (first ++ second) = scheduledMinutes first + scheduledMinutes second := by
  simp [scheduledMinutes]

theorem tripMinutes_append (first second : List Scheduled) :
    tripMinutes (first ++ second) = tripMinutes first + tripMinutes second := by
  simp [tripMinutes, scheduledMinutes_append]

theorem tripMinutes_visits (activities : List ActivityItem) :
    tripMinutes (activities.map .activity) = 0 := by
  induction activities with
  | nil => rfl
  | cons activity rest ih => simpa [tripMinutes, Scheduled.isTransfer] using ih

theorem tripMinutes_tripActivities (transfer : TransferItem) (currentTime : ℤ) :
    tripMinutes (tripActivities transfer currentTime) =
      if 180 ≤ transfer.durationMinutes then transfer.durationMinutes else 0 := by
  cases htrip : createIntercityActivity transfer currentTime with
  | none =>
      have hshort := short_of_createIntercityActivity_eq_none htrip
      rw [if_neg hshort]
      simp [tripActivities, htrip, tripMinutes, scheduledMinutes]
  | some trip =>
      obtain ⟨hlong, hminutes, -, -⟩ := createIntercityActivity_eq_some htrip
      rw [if_pos hlong]
      simp [tripActivities, htrip, tripMinutes, scheduledMinutes, Scheduled.isTransfer,
        Scheduled.durationMinutes, hminutes]

/-- The activities split into those that are transfers and those that are not. -/
theorem scheduledMinutes_eq (items : List Scheduled) :
    scheduledMinutes items =
      scheduledMinutes (items.filter (!·.isTransfer)) + tripMinutes items := by
  induction items with
  | nil => rfl
  | cons item rest ih =>
      have hcons : scheduledMinutes (item :: rest) =
          item.durationMinutes + scheduledMinutes rest := by
        simp [scheduledMinutes]
      rw [hcons, ih]
      cases htransfer : item.isTransfer <;>
        simp [tripMinutes, scheduledMinutes, htransfer] <;> omega

theorem tripMinutes_routeCluster_iff (ctx : DayContext σ) (state : DayState σ)
    (cluster : Cluster) :
    tripMinutes (routeCluster ctx state cluster).value.activitiesScheduled = 0 ↔
      tripMinutes state.activitiesScheduled = 0 ∧ EntersWithoutTrip ctx state cluster := by
  unfold routeCluster EntersWithoutTrip
  rcases enterCluster_cases ctx state cluster with ⟨service, hdone⟩ |
    ⟨location, service, hyield⟩ | ⟨transfer, location, service, hpos, hyield⟩
  · rw [hdone]
    simp [ForInStep.value]
  · rw [hyield]
    simp only [ForInStep.value, addRoute_of_visits
      (routeClusterWithTimeWindows_visits ctx service cluster state.currentTime)]
    rw [tripMinutes_append, tripMinutes_visits]
    simp
  · rw [hyield]
    simp only [ForInStep.value, recordInbound, addRoute_of_visits
      (routeClusterWithTimeWindows_visits ctx service cluster
        (state.currentTime + transfer.durationMinutes))]
    rw [tripMinutes_append, tripMinutes_append, tripMinutes_visits, tripMinutes_tripActivities,
      add_sub_cancel_left]
    split <;> omega

/-! ## The totals -/

theorem behind_dayInit (ctx : DayContext σ) (service : σ) (clusters : List Cluster)
    (previous : Option Location) (dayNumber : ℤ) :
    Behind (dayInit ctx service clusters previous dayNumber) where
  minutes := Nat.zero_le _
  distance := zero_le

theorem timelineTransfers_dayInit (ctx : DayContext σ) (service : σ) (clusters : List Cluster)
    (previous : Option Location) (dayNumber : ℤ) :
    timelineTransfers (dayInit ctx service clusters previous dayNumber).timeline = [] := by
  unfold dayInit
  dsimp only
  split
  · split <;> rfl
  · rfl

theorem tripMinutes_dayInit (ctx : DayContext σ) (service : σ) (clusters : List Cluster)
    (previous : Option Location) (dayNumber : ℤ) :
    tripMinutes (dayInit ctx service clusters previous dayNumber).activitiesScheduled = 0 := by
  unfold dayInit
  dsimp only
  split
  · split <;> rfl
  · rfl

/-- The free minutes leave long trips out of the activities exactly when there
is none or nothing would be left anyway. -/
theorem free_eq_iff (spare : ℤ) (trips : ℕ) :
    max 0 (spare - trips) = max 0 spare ↔ trips = 0 ∨ spare ≤ 0 := by
  omega

section Day

variable (ctx : DayContext σ) (service : σ) (request : DayRequest)

theorem counted_routedState_iff :
    Counted (routedState ctx service request) ↔
      Along (routeCluster ctx) (fun state cluster _ => EntersFreeLegs ctx state cluster)
        request.assignedClusters
        (dayInit ctx service request.assignedClusters request.previousDayEndLocation
          request.dayNumber) := by
  refine (forBreak_iff_along (I := Behind) (G := Counted)
    (fun state cluster hbehind => hbehind.routeCluster ctx cluster)
    (fun state cluster _ hbehind => counted_routeCluster_iff ctx hbehind cluster)
    request.assignedClusters _ (behind_dayInit ctx service _ _ _)).trans (and_iff_right ?_)
  have hnone := timelineTransfers_dayInit ctx service request.assignedClusters
    request.previousDayEndLocation request.dayNumber
  exact ⟨by rw [transferMinutes, hnone]; rfl, by rw [transferKm, hnone]; rfl⟩

theorem tripMinutes_routedState_iff :
    tripMinutes (routedState ctx service request).activitiesScheduled = 0 ↔
      Along (routeCluster ctx) (fun state cluster _ => EntersWithoutTrip ctx state cluster)
        request.assignedClusters
        (dayInit ctx service request.assignedClusters request.previousDayEndLocation
          request.dayNumber) :=
  (forBreak_iff_along (I := fun _ => True)
    (G := fun state : DayState σ => tripMinutes state.activitiesScheduled = 0)
    (fun _ _ _ => trivial)
    (fun state cluster _ _ => tripMinutes_routeCluster_iff ctx state cluster)
    request.assignedClusters _ trivial).trans
    (and_iff_right (tripMinutes_dayInit ctx service _ _ _))

/-- The totals of a routed day agree with its timeline exactly when every leg
inside a cluster is free and either no trip to a cluster is made into an
activity or the other activities and the travel already fill the window. -/
theorem routeDayEnhanced_totalsAgree_iff :
    TotalsAgree ctx.dailyWindow (routeDayEnhanced ctx service request).value ↔
      Along (routeCluster ctx) (fun state cluster _ => EntersFreeLegs ctx state cluster)
          request.assignedClusters
          (dayInit ctx service request.assignedClusters request.previousDayEndLocation
            request.dayNumber) ∧
        (Along (routeCluster ctx) (fun state cluster _ => EntersWithoutTrip ctx state cluster)
            request.assignedClusters
            (dayInit ctx service request.assignedClusters request.previousDayEndLocation
              request.dayNumber) ∨
          ctx.dailyWindow.stop - ctx.dailyWindow.start ≤
            scheduledMinutes ((routedState ctx service request).activitiesScheduled.filter
                (!·.isTransfer)) +
              ((routedState ctx service request).walkingTime +
                (routedState ctx service request).transportTime)) := by
  rw [← counted_routedState_iff, ← tripMinutes_routedState_iff]
  set state := routedState ctx service request with hstate
  have hfree := free_eq_iff ((ctx.dailyWindow.stop - ctx.dailyWindow.start) -
    scheduledMinutes (state.activitiesScheduled.filter (!·.isTransfer)) -
    (state.walkingTime + state.transportTime)) (tripMinutes state.activitiesScheduled)
  have hsplit := scheduledMinutes_eq state.activitiesScheduled
  constructor
  · rintro ⟨hminutes, hdistance, hminutesFree⟩
    refine ⟨⟨hminutes, hdistance⟩, ?_⟩
    simp only [routeDayEnhanced, closeDay, ← hstate] at hminutesFree
    have hspare := hfree.mp (by push_cast at hminutesFree ⊢; omega)
    exact hspare.imp_right fun h => by omega
  · rintro ⟨⟨hminutes, hdistance⟩, hspare⟩
    refine ⟨hminutes, hdistance, ?_⟩
    have heq := hfree.mpr (hspare.imp_right fun h => by omega)
    simp only [routeDayEnhanced, closeDay, ← hstate]
    push_cast
    omega

end Day

/-- The park of a day that starts at the hotel, ten minutes and 5.56 km away: the
two legs of the timeline are missing from the totals. -/
theorem routeDayEnhanced_totals_miss_legs :
    ¬ TotalsAgree { start := 540, stop := 1080 } (routeDayEnhanced
      (.steady { distanceKm := 556 / 100, durationMinutes := 10 } { start := 540, stop := 1080 })
      ()
      { date := 1
        assignedClusters := [.parkNearHotel]
        previousDayEndLocation := some (.onEquator 0)
        dayNumber := 2 }).value := by
  intro hagree
  exact absurd hagree.minutes (by decide +kernel)

end Goveling.Optimizer
