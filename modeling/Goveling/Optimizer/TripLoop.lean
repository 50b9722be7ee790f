/-
# The loop over the days of a trip

The last part of `_optimize_classic_method` plans the dates of the allocation one
after the other. What it hands on from one day to the next is where the day
ended and the base of the last active day; clusters or places that a day leaves
out are not among it, and the result has no list of them. So a place is
scheduled on its own day or not at all, and `TripServed` says when every place
is: each day enters all its clusters and each place still fits at its turn.
-/

import Goveling.Math.OrderedMap
import Goveling.Optimizer.Injection
import Mathlib.Data.Multiset.OrderedMonoid

namespace Goveling.Optimizer

open Goveling.Math Goveling.Python

universe u

variable {σ : Type u}

/-! ## The loop -/

/-- The hours of a date that has its own. -/
structure CustomSchedule where
  startHour : ℤ
  endHour : ℤ

/-- What stays fixed while a trip is planned. -/
structure TripContext (σ : Type u) where
  globe : Globe
  services : Services σ
  settings : Settings
  timeWindow : TimeWindow
  transportMode : TransportMode
  customSchedules : OrderedMap ℤ CustomSchedule := .empty
  noOriginalAccommodations : Bool := false

/-- The window of a date. -/
def TripContext.windowOf (ctx : TripContext σ) (date : ℤ) : TimeWindow :=
  match ctx.customSchedules.get? date with
  | some custom => { start := custom.startHour * 60, stop := custom.endHour * 60 }
  | none => ctx.timeWindow

/-- The context a date is planned in. -/
def TripContext.dayContext (ctx : TripContext σ) (date : ℤ) : DayContext σ where
  globe := ctx.globe
  services := ctx.services
  settings := ctx.settings
  dailyWindow := ctx.windowOf date
  transportMode := ctx.transportMode

/-- The local variables of the loop over the dates. -/
structure TripState (σ : Type u) where
  days : List DayRecord
  previousEndLocation : Option Location
  lastActiveBase : Option BaseInfo
  service : σ

/-- The home base of the first date whose first cluster has one. -/
def firstDayHotel (assignments : OrderedMap ℤ (List Cluster)) (sortedDates : List ℤ) :
    Option Location :=
  sortedDates.findSome? fun date =>
    (assignments.bucket date).head?.bind fun cluster => cluster.homeBase.map HomeBase.location

/-- The call of `route_day_enhanced` for a date. -/
def tripRequest (ctx : TripContext σ) (hotel : Option Location) (state : TripState σ)
    (clusters : List Cluster) (date : ℤ × ℕ) : DayRequest where
  date := date.1
  assignedClusters := clusters
  previousDayEndLocation := state.previousEndLocation.or hotel
  dayNumber := date.2 + 1
  noOriginalAccommodations := ctx.noOriginalAccommodations

/-- The body of the loop over the dates and their indices. -/
def planDate (ctx : TripContext σ) (assignments : OrderedMap ℤ (List Cluster))
    (hotel : Option Location) (state : TripState σ) (date : ℤ × ℕ) :
    ForInStep (TripState σ) :=
  match assignments.bucket date.1 with
  | [] =>
      let origin := (state.previousEndLocation.map SuggestionOrigin.point).or
        (state.lastActiveBase.map SuggestionOrigin.base)
      let day := freeDay (ctx.dayContext date.1) state.service date.1 origin
        state.lastActiveBase (date.2 + 1)
      .yield { state with days := state.days ++ [day.value], service := day.next }
  | clusters =>
      let day := routeDayEnhanced (ctx.dayContext date.1) state.service
        (tripRequest ctx hotel state clusters date)
      .yield
        { days := state.days ++ [day.value]
          previousEndLocation := day.value.endLocation
          lastActiveBase := day.value.base.or state.lastActiveBase
          service := day.next }

/-- `sorted(day_assignments.keys())`. -/
def sortedDates (assignments : OrderedMap ℤ (List Cluster)) : List ℤ :=
  sortedBy id assignments.keys

/-- The local variables before the loop. -/
def tripInit (service : σ) : TripState σ where
  days := []
  previousEndLocation := none
  lastActiveBase := none
  service := service

/-- The loop over the dates in `_optimize_classic_method`. -/
def planDays (ctx : TripContext σ) (service : σ) (assignments : OrderedMap ℤ (List Cluster)) :
    TripState σ :=
  forBreak
    (planDate ctx assignments (firstDayHotel assignments (sortedDates assignments)))
    (sortedDates assignments).zipIdx (tripInit service)

/-- The days of the result: the loop, then the transfers between days. -/
def classicDays (ctx : TripContext σ) (service : σ)
    (assignments : OrderedMap ℤ (List Cluster)) : Reply σ (List DayRecord) :=
  let planned := planDays ctx service assignments
  injectIntercityTransfersBetweenDays ctx.globe ctx.services ctx.settings planned.service
    planned.days

/-! ## Places and visits -/

/-- What a place and its visit have in common. -/
abbrev Spot := String × Location

def Place.spot (place : Place) : Spot := (place.name, place.location)

/-- The places of some clusters, with multiplicity. -/
def spotsOf (clusters : List Cluster) : Multiset Spot :=
  (clusters.flatMap Cluster.places : Multiset Place).map Place.spot

/-- The spot of a visit; check-ins and long trips visit no place. -/
def visitedSpot? : Scheduled → Option Spot
  | .activity item => some (item.name, item.location)
  | _ => none

/-- The places visited by scheduled items, with multiplicity. -/
def visitedSpots (items : List Scheduled) : Multiset Spot :=
  (items.filterMap visitedSpot? : List Spot)

/-- The places visited on some days. -/
def scheduledSpots (days : List DayRecord) : Multiset Spot :=
  visitedSpots (days.flatMap DayRecord.pureActivities)

/-- The places of all allocated clusters. -/
def allocatedSpots (assignments : OrderedMap ℤ (List Cluster)) : Multiset Spot :=
  spotsOf assignments.values.flatten

@[simp]
theorem visitedSpots_append (first second : List Scheduled) :
    visitedSpots (first ++ second) = visitedSpots first + visitedSpots second := by
  simp [visitedSpots]

/-- The loop keeps its books in activities. -/
def activitySpots (activities : List ActivityItem) : Multiset Spot :=
  visitedSpots (activities.map .activity)

@[simp]
theorem activitySpots_append (first second : List ActivityItem) :
    activitySpots (first ++ second) = activitySpots first + activitySpots second := by
  simp [activitySpots]

theorem activitySpots_placeActivity (place : Place) (startTime : ℤ) :
    activitySpots [placeActivity place startTime] = {place.spot} := rfl

/-! ## One cluster -/

/-- The visit of the next place ends within the window if it starts at once. -/
def Fits (ctx : DayContext σ) (state : ClusterState σ) (place : Place) : Prop :=
  (approachPlace ctx state place).currentTime + estimateActivityDuration place ≤
    ctx.dailyWindow.stop

/-- Every place of a cluster entered at `startTime` is visited: none is an
accommodation and each still fits at its turn. -/
def PlacesServed (ctx : DayContext σ) (service : σ) (cluster : Cluster) (startTime : ℤ) :
    Prop :=
  (∀ place ∈ cluster.places, isAccommodation place = false) ∧
    ∀ first ∈ cluster.places.head?,
      Along (visitPlace ctx) (fun state place _ => Fits ctx state place)
        (activityPlaces ctx.settings cluster startTime)
        (clusterInit service cluster first startTime)

section Cluster

variable (ctx : DayContext σ)

theorem chooseStart_eq_none_iff (currentTime : ℤ) (place : Place) :
    chooseStart ctx currentTime place = none ↔
      ctx.dailyWindow.stop < currentTime + estimateActivityDuration place := by
  have hle := le_findBestTimeSlot currentTime (estimateActivityDuration place)
    (getPreferredTimeWindow ctx.settings (place.type.getD "") ctx.dailyWindow)
  simp only [chooseStart]
  split
  · split
    · rename_i hfits
      simpa using hfits
    · rename_i hlate
      simpa using hlate
  · simp only [reduceCtorEq, false_iff, not_lt]
    omega

theorem activities_approachPlace (state : ClusterState σ) (place : Place) :
    (approachPlace ctx state place).activities = state.activities := by
  unfold approachPlace
  split <;> rfl

/-- A place that fits is visited; one that does not ends the loop. -/
theorem visitPlace_cases (state : ClusterState σ) (place : Place) :
    (Fits ctx state place ∧ ∃ next, visitPlace ctx state place = .yield next ∧
        activitySpots next.activities = activitySpots state.activities + {place.spot}) ∨
      (¬Fits ctx state place ∧ ∃ next, visitPlace ctx state place = .done next ∧
        activitySpots next.activities = activitySpots state.activities) := by
  have hnone := chooseStart_eq_none_iff ctx (approachPlace ctx state place).currentTime place
  unfold visitPlace Fits
  dsimp only
  split
  · rename_i startTime hchoose
    refine .inl ⟨not_lt.mp fun hlate => ?_, _, rfl, ?_⟩
    · rw [hnone.mpr hlate] at hchoose
      cases hchoose
    · simp only [schedulePlace, activitySpots_append, activities_approachPlace,
        activitySpots_placeActivity]
  · rename_i hchoose
    refine .inr ⟨not_le.mpr (hnone.mp hchoose), _, rfl, ?_⟩
    rw [activities_approachPlace]

theorem visitPlace_serves_le (state : ClusterState σ) (place : Place) :
    activitySpots (visitPlace ctx state place).value.activities ≤
      activitySpots state.activities + {place.spot} := by
  rcases visitPlace_cases ctx state place with ⟨-, next, hnext, hspots⟩ |
    ⟨-, next, hnext, hspots⟩
  · rw [hnext]
    exact hspots.le
  · rw [hnext]
    exact hspots.le.trans (Multiset.le_add_right _ _)

/-- Within the loop, serving in full means that the place fits. -/
theorem servesFully_visitPlace_iff (state : ClusterState σ) (place : Place)
    (rest : List Place) :
    ServesFully (visitPlace ctx) (fun state => activitySpots state.activities)
        (fun place => {place.spot}) state place rest ↔ Fits ctx state place := by
  rcases visitPlace_cases ctx state place with ⟨hfits, next, hnext, hspots⟩ |
    ⟨hlate, next, hnext, hspots⟩
  · simp [ServesFully, hnext, ForInStep.value, hspots, hfits]
  · simp [ServesFully, hnext, ForInStep.value, hspots, hlate]

theorem activities_returnToHotel (cluster : Cluster) (state : ClusterState σ) :
    (returnToHotel ctx cluster state).activities = state.activities := by
  unfold returnToHotel
  split
  · rfl
  · split <;> rfl

theorem sum_spots (places : List Place) :
    (places.map fun place => ({place.spot} : Multiset Spot)).sum =
      (places : Multiset Place).map Place.spot := by
  induction places with
  | nil => rfl
  | cons place rest ih =>
      rw [List.map_cons, List.sum_cons, ih, ← Multiset.cons_coe, Multiset.map_cons,
        Multiset.singleton_add]

theorem spotsOf_singleton (cluster : Cluster) :
    spotsOf [cluster] = (cluster.places : Multiset Place).map Place.spot := by
  simp [spotsOf]

/-- The activities of a cluster are among its places. -/
theorem spots_activityPlaces_le (settings : Settings) (cluster : Cluster) (startTime : ℤ) :
    (activityPlaces settings cluster startTime : Multiset Place).map Place.spot ≤
      spotsOf [cluster] := by
  have hsorted := sortedByDescending_perm (timePreferenceScore settings startTime) cluster.places
  rw [spotsOf_singleton]
  exact Multiset.map_le_map
    (Multiset.coe_le.mpr (List.filter_sublist.subperm.trans hsorted.subperm))

theorem spots_activityPlaces_eq_iff (settings : Settings) (cluster : Cluster) (startTime : ℤ) :
    (activityPlaces settings cluster startTime : Multiset Place).map Place.spot =
        spotsOf [cluster] ↔
      ∀ place ∈ cluster.places, isAccommodation place = false := by
  have hsorted : (sortPlacesByTimePreference settings cluster.places startTime).Perm
      cluster.places := sortedByDescending_perm _ _
  rw [spotsOf_singleton]
  constructor
  · intro hsame place hmem
    have hlength := congrArg Multiset.card hsame
    simp only [Multiset.card_map, Multiset.coe_card] at hlength
    have hall := List.length_filter_eq_length_iff.mp (hlength.trans hsorted.length_eq.symm)
    simpa using hall place (hsorted.mem_iff.mpr hmem)
  · intro hall
    have hkept : activityPlaces settings cluster startTime =
        sortPlacesByTimePreference settings cluster.places startTime :=
      List.filter_eq_self.mpr fun place hmem => by
        simpa using hall place (hsorted.mem_iff.mp hmem)
    rw [hkept, Multiset.coe_eq_coe.mpr hsorted]

/-- A routed cluster visits some of its places, and all of them exactly when it
serves them all. -/
theorem routeClusterWithTimeWindows_serves (service : σ) (cluster : Cluster) (startTime : ℤ) :
    activitySpots (routeClusterWithTimeWindows ctx service cluster startTime).activities ≤
        spotsOf [cluster] ∧
      (activitySpots (routeClusterWithTimeWindows ctx service cluster startTime).activities =
          spotsOf [cluster] ↔ PlacesServed ctx service cluster startTime) := by
  have hplacesLe := spots_activityPlaces_le ctx.settings cluster startTime
  have hplacesEq := spots_activityPlaces_eq_iff ctx.settings cluster startTime
  cases hplaces : cluster.places with
  | nil =>
      simp [routeClusterWithTimeWindows, PlacesServed, spotsOf, activitySpots, visitedSpots,
        hplaces]
  | cons first rest =>
      have hle := served_forBreak_le (fun state : ClusterState σ => activitySpots state.activities)
        (fun place : Place => {place.spot}) (visitPlace_serves_le ctx)
        (activityPlaces ctx.settings cluster startTime)
        (clusterInit service cluster first startTime)
      have heq := served_forBreak_eq_iff
        (fun state : ClusterState σ => activitySpots state.activities)
        (fun place : Place => {place.spot}) (visitPlace_serves_le ctx)
        (activityPlaces ctx.settings cluster startTime)
        (clusterInit service cluster first startTime)
      rw [along_congr (I := fun _ => True) (fun _ _ _ => trivial)
        (fun state place rest _ => servesFully_visitPlace_iff ctx state place rest) _ trivial]
        at heq
      have hinit : activitySpots (clusterInit service cluster first startTime).activities = 0 :=
        rfl
      rw [hinit, zero_add, sum_spots] at hle heq
      simp only [routeClusterWithTimeWindows, hplaces, activities_returnToHotel, PlacesServed,
        visitedState, List.head?_cons, Option.mem_def, Option.some.injEq, forall_eq']
      refine ⟨hle.trans hplacesLe, ?_⟩
      rw [← heq, ← hplaces, ← hplacesEq]
      constructor
      · intro hall
        have hactive := le_antisymm hplacesLe (hall ▸ hle)
        exact ⟨hactive, hall.trans hactive.symm⟩
      · rintro ⟨hactive, hloop⟩
        exact hloop.trans hactive

end Cluster

/-! ## One day -/

/-- The next cluster is entered and all its places are visited; or its trip does
not fit in the day, and neither it nor the clusters after it have places. -/
def ClusterServed (ctx : DayContext σ) (state : DayState σ) (cluster : Cluster)
    (rest : List Cluster) : Prop :=
  match enterCluster ctx state cluster with
  | .done _ => cluster.places = [] ∧ ∀ later ∈ rest, later.places = []
  | .yield entered => PlacesServed ctx entered.service cluster entered.currentTime

/-- Every cluster of the day is served. -/
def DayServed (ctx : DayContext σ) (service : σ) (request : DayRequest) : Prop :=
  Along (routeCluster ctx) (ClusterServed ctx) request.assignedClusters
    (dayInit ctx service request.assignedClusters request.previousDayEndLocation
      request.dayNumber)

section Day

variable (ctx : DayContext σ)

theorem spotsOf_eq_zero_iff (clusters : List Cluster) :
    spotsOf clusters = 0 ↔ ∀ cluster ∈ clusters, cluster.places = [] := by
  simp [spotsOf]

theorem sum_spotsOf (clusters : List Cluster) :
    (clusters.map fun cluster => spotsOf [cluster]).sum = spotsOf clusters := by
  induction clusters with
  | nil => rfl
  | cons cluster rest ih =>
      rw [List.map_cons, List.sum_cons, ih]
      simp [spotsOf, ← Multiset.coe_add]

theorem visitedSpots_tripActivities (transfer : TransferItem) (currentTime : ℤ) :
    visitedSpots (tripActivities transfer currentTime) = 0 := by
  unfold tripActivities
  cases createIntercityActivity transfer currentTime <;> rfl

/-- Entering a cluster visits no place. -/
theorem visitedSpots_enterCluster (state : DayState σ) (cluster : Cluster) :
    visitedSpots (enterCluster ctx state cluster).value.activitiesScheduled =
      visitedSpots state.activitiesScheduled := by
  rcases enterCluster_cases ctx state cluster with ⟨service, hdone⟩ |
    ⟨location, service, hyield⟩ | ⟨transfer, location, service, hpos, hyield⟩
  · rw [hdone]
    rfl
  · rw [hyield]
    rfl
  · rw [hyield]
    simp [ForInStep.value, recordInbound, visitedSpots_tripActivities]

theorem visitedSpots_routeCluster_of_done {state overnight : DayState σ} {cluster : Cluster}
    (henter : enterCluster ctx state cluster = .done overnight) :
    visitedSpots (routeCluster ctx state cluster).value.activitiesScheduled =
      visitedSpots state.activitiesScheduled := by
  have hspots := visitedSpots_enterCluster ctx state cluster
  rw [henter] at hspots
  unfold routeCluster
  rw [henter]
  exact hspots

/-- A cluster that is reached adds the visits of its schedule. -/
theorem visitedSpots_routeCluster_of_yield {state entered : DayState σ} {cluster : Cluster}
    (henter : enterCluster ctx state cluster = .yield entered) :
    visitedSpots (routeCluster ctx state cluster).value.activitiesScheduled =
      visitedSpots state.activitiesScheduled +
        activitySpots (routeClusterWithTimeWindows ctx entered.service cluster
          entered.currentTime).activities := by
  have hspots := visitedSpots_enterCluster ctx state cluster
  rw [henter] at hspots
  unfold routeCluster
  rw [henter]
  dsimp only [ForInStep.value] at hspots ⊢
  rw [addRoute_of_visits (routeClusterWithTimeWindows_visits ctx _ cluster _),
    visitedSpots_append, hspots]
  rfl

theorem routeCluster_serves_le (state : DayState σ) (cluster : Cluster) :
    visitedSpots (routeCluster ctx state cluster).value.activitiesScheduled ≤
      visitedSpots state.activitiesScheduled + spotsOf [cluster] := by
  cases hstep : enterCluster ctx state cluster with
  | done overnight =>
      rw [visitedSpots_routeCluster_of_done ctx hstep]
      exact Multiset.le_add_right _ _
  | yield entered =>
      rw [visitedSpots_routeCluster_of_yield ctx hstep]
      exact add_le_add_right
        (routeClusterWithTimeWindows_serves ctx entered.service cluster entered.currentTime).1 _

theorem servesFully_routeCluster_iff (state : DayState σ) (cluster : Cluster)
    (rest : List Cluster) :
    ServesFully (routeCluster ctx) (fun state => visitedSpots state.activitiesScheduled)
        (fun cluster => spotsOf [cluster]) state cluster rest ↔
      ClusterServed ctx state cluster rest := by
  cases hstep : enterCluster ctx state cluster with
  | done overnight =>
      have hspots := visitedSpots_routeCluster_of_done ctx hstep
      simp only [ServesFully, ClusterServed, sum_spotsOf, hstep, hspots]
      simp [routeCluster, hstep, spotsOf_eq_zero_iff]
  | yield entered =>
      have hspots := visitedSpots_routeCluster_of_yield ctx hstep
      simp only [ServesFully, ClusterServed, sum_spotsOf, hstep, hspots]
      simp only [routeCluster, hstep, reduceCtorEq, exists_false, false_imp_iff, and_true,
        add_right_inj]
      exact (routeClusterWithTimeWindows_serves ctx entered.service cluster
        entered.currentTime).2

theorem visitedSpots_dayInit (service : σ) (clusters : List Cluster)
    (previous : Option Location) (dayNumber : ℤ) :
    visitedSpots (dayInit ctx service clusters previous dayNumber).activitiesScheduled = 0 := by
  unfold dayInit
  dsimp only
  split
  · split <;> rfl
  · rfl

/-- A routed day visits places of its clusters only, and all of them exactly when
it serves them all. -/
theorem routeDayEnhanced_serves (service : σ) (request : DayRequest) :
    visitedSpots (routeDayEnhanced ctx service request).value.pureActivities ≤
        spotsOf request.assignedClusters ∧
      (visitedSpots (routeDayEnhanced ctx service request).value.pureActivities =
          spotsOf request.assignedClusters ↔ DayServed ctx service request) := by
  have hle := served_forBreak_le
    (fun state : DayState σ => visitedSpots state.activitiesScheduled)
    (fun cluster => spotsOf [cluster]) (routeCluster_serves_le ctx) request.assignedClusters
    (dayInit ctx service request.assignedClusters request.previousDayEndLocation
      request.dayNumber)
  have heq := served_forBreak_eq_iff
    (fun state : DayState σ => visitedSpots state.activitiesScheduled)
    (fun cluster => spotsOf [cluster]) (routeCluster_serves_le ctx) request.assignedClusters
    (dayInit ctx service request.assignedClusters request.previousDayEndLocation
      request.dayNumber)
  rw [along_congr (I := fun _ => True) (fun _ _ _ => trivial)
    (fun state cluster rest _ => servesFully_routeCluster_iff ctx state cluster rest) _ trivial]
    at heq
  rw [visitedSpots_dayInit, zero_add, sum_spotsOf] at hle heq
  exact ⟨hle, heq⟩

end Day

/-! ## The trip -/

/-- The clusters of the next date, if it has any, are all served on it. -/
def DateServed (ctx : TripContext σ) (assignments : OrderedMap ℤ (List Cluster))
    (hotel : Option Location) (state : TripState σ) (date : ℤ × ℕ) : Prop :=
  assignments.bucket date.1 ≠ [] →
    DayServed (ctx.dayContext date.1) state.service
      (tripRequest ctx hotel state (assignments.bucket date.1) date)

/-- Every date of the trip serves its clusters. -/
def TripServed (ctx : TripContext σ) (service : σ)
    (assignments : OrderedMap ℤ (List Cluster)) : Prop :=
  Along (planDate ctx assignments (firstDayHotel assignments (sortedDates assignments)))
    (fun state date _ => DateServed ctx assignments
      (firstDayHotel assignments (sortedDates assignments)) state date)
    (sortedDates assignments).zipIdx (tripInit service)

section Trip

variable (ctx : TripContext σ) (assignments : OrderedMap ℤ (List Cluster))

theorem scheduledSpots_append (days : List DayRecord) (day : DayRecord) :
    scheduledSpots (days ++ [day]) = scheduledSpots days + visitedSpots day.pureActivities := by
  simp [scheduledSpots]

/-- A date never ends the loop, visits places of its own clusters only, and
visits them all exactly when it serves them. -/
theorem planDate_serves (hotel : Option Location) (state : TripState σ) (date : ℤ × ℕ) :
    ∃ next, planDate ctx assignments hotel state date = .yield next ∧
      scheduledSpots next.days ≤
        scheduledSpots state.days + spotsOf (assignments.bucket date.1) ∧
      (scheduledSpots next.days =
          scheduledSpots state.days + spotsOf (assignments.bucket date.1) ↔
        DateServed ctx assignments hotel state date) := by
  unfold planDate DateServed
  cases hbucket : assignments.bucket date.1 with
  | nil =>
      refine ⟨_, rfl, ?_, ?_⟩ <;> simp [scheduledSpots_append, freeDay, visitedSpots, spotsOf]
  | cons cluster rest =>
      obtain ⟨hle, heq⟩ := routeDayEnhanced_serves (ctx.dayContext date.1) state.service
        (tripRequest ctx hotel state (cluster :: rest) date)
      refine ⟨_, rfl, ?_, ?_⟩
      · simp only [scheduledSpots_append]
        exact add_le_add_right hle _
      · simp only [scheduledSpots_append, add_right_inj, ne_eq, reduceCtorEq, not_false_eq_true,
          forall_const]
        exact heq

theorem planDate_serves_le (hotel : Option Location) (state : TripState σ) (date : ℤ × ℕ) :
    scheduledSpots (planDate ctx assignments hotel state date).value.days ≤
      scheduledSpots state.days + spotsOf (assignments.bucket date.1) := by
  obtain ⟨next, hnext, hle, -⟩ := planDate_serves ctx assignments hotel state date
  rw [hnext]
  exact hle

theorem servesFully_planDate_iff (hotel : Option Location) (state : TripState σ) (date : ℤ × ℕ)
    (rest : List (ℤ × ℕ)) :
    ServesFully (planDate ctx assignments hotel) (fun state => scheduledSpots state.days)
        (fun date => spotsOf (assignments.bucket date.1)) state date rest ↔
      DateServed ctx assignments hotel state date := by
  obtain ⟨next, hnext, -, heq⟩ := planDate_serves ctx assignments hotel state date
  simpa [ServesFully, hnext, ForInStep.value] using heq

/-- Going through the dates is going through the clusters of the allocation. -/
theorem sum_spots_sortedDates :
    ((sortedDates assignments).zipIdx.map fun date => spotsOf (assignments.bucket date.1)).sum =
      allocatedSpots assignments := by
  have hdates : (sortedDates assignments).zipIdx.map
      (fun date => spotsOf (assignments.bucket date.1)) =
      (sortedDates assignments).map fun date => spotsOf (assignments.bucket date) := by
    conv_rhs => rw [← List.zipIdx_map_fst 0 (sortedDates assignments)]
    rw [List.map_map]
    rfl
  have hflatten : ∀ buckets : List (List Cluster),
      (buckets.map spotsOf).sum = spotsOf buckets.flatten := by
    intro buckets
    induction buckets with
    | nil => rfl
    | cons bucket rest ih =>
        rw [List.map_cons, List.sum_cons, ih]
        simp [spotsOf, ← Multiset.coe_add]
  have hsorted : (sortedDates assignments).Perm assignments.keys := sortedBy_perm id _
  rw [hdates, (hsorted.map _).sum_eq, allocatedSpots, ← hflatten, ← OrderedMap.map_bucket_keys,
    List.map_map]
  rfl

end Trip

/-- After the loop over the dates every place of the allocated clusters is
scheduled on some day exactly when every date serves its clusters: each trip to
a cluster fits in its day, no place is an accommodation and each place still
fits at its turn. -/
theorem planDays_schedules_iff (ctx : TripContext σ) (service : σ)
    (assignments : OrderedMap ℤ (List Cluster)) :
    allocatedSpots assignments ≤ scheduledSpots (planDays ctx service assignments).days ↔
      TripServed ctx service assignments := by
  have hle := served_forBreak_le (fun state : TripState σ => scheduledSpots state.days)
    (fun date : ℤ × ℕ => spotsOf (assignments.bucket date.1))
    (planDate_serves_le ctx assignments
      (firstDayHotel assignments (sortedDates assignments)))
    (sortedDates assignments).zipIdx (tripInit service)
  have heq := served_forBreak_eq_iff (fun state : TripState σ => scheduledSpots state.days)
    (fun date : ℤ × ℕ => spotsOf (assignments.bucket date.1))
    (planDate_serves_le ctx assignments
      (firstDayHotel assignments (sortedDates assignments)))
    (sortedDates assignments).zipIdx (tripInit service)
  rw [along_congr (I := fun _ => True) (fun _ _ _ => trivial)
    (fun state date rest _ => servesFully_planDate_iff ctx assignments _ state date rest) _
    trivial] at heq
  have hinit : scheduledSpots (tripInit service).days = 0 := rfl
  rw [hinit, zero_add, sum_spots_sortedDates] at hle heq
  exact ⟨fun hall => heq.mp (le_antisymm hle hall), fun hserved => (heq.mpr hserved).ge⟩

/-- Two hotels 111 km apart, each with a park at the door, on the first of two days. -/
def twoHotels : OrderedMap ℤ (List Cluster) :=
  (OrderedMap.empty.set 1
    [{ label := "0", centroid := .onEquator 0
       places := [{ name := "Parque", location := .onEquator 0, type := some "park" }]
       homeBase := some { name := "Hotel", location := .onEquator 0 } },
     { label := "1", centroid := .onEquator 1
       places := [{ name := "Jardín", location := .onEquator 1, type := some "park" }]
       homeBase := some { name := "Posada", location := .onEquator 1 } }]).set 2 []

/-- When the way to the second hotel takes ten hours, its park is on no day, also
not on the second day, which stays free. -/
theorem planDays_drops_overnight :
    ¬ allocatedSpots twoHotels ≤ scheduledSpots (planDays
      { globe := .equatorial
        services := .steady { distanceKm := 112, durationMinutes := 600 }
        settings := {}
        timeWindow := { start := 540, stop := 1080 }
        transportMode := .drive } () twoHotels).days := by
  intro hall
  exact absurd (Multiset.card_le_card hall) (by decide +kernel)

end Goveling.Optimizer
