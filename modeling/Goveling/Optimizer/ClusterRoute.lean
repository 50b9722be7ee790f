/-
# Routing the places of one cluster

`_route_cluster_with_time_windows` visits the places of a cluster from its home
base: a leg to each place, the place itself in its preferred hours if they fit,
and a leg back. The clock it keeps is the agenda it builds: after every place
the agenda of the timeline is taken exactly up to the clock. Only the leg back
at the end is placed without moving the clock.
-/

import Goveling.Math.Agenda
import Goveling.Math.EarlyExit
import Goveling.Optimizer.Transfer

namespace Goveling.Optimizer

open Goveling.Math Goveling.Python

universe u

variable {σ : Type u}

/-! ## Time windows -/

/-- `get_preferred_time_window`. -/
def getPreferredTimeWindow (settings : Settings) (placeType : String)
    (dailyWindow : TimeWindow) : List TimeWindow :=
  match placeType.toLower with
  | "restaurant" =>
      [{ start := settings.restaurantLunchStart * 60, stop := settings.restaurantLunchEnd * 60 },
        { start := settings.restaurantDinnerStart * 60
          stop := settings.restaurantDinnerEnd * 60 }]
  | "museum" =>
      [{ start := max dailyWindow.start (settings.museumPreferredStart * 60)
         stop := min dailyWindow.stop (settings.museumPreferredEnd * 60) }]
  | "shopping" =>
      [{ start := max dailyWindow.start (settings.shoppingPreferredStart * 60)
         stop := min dailyWindow.stop (settings.shoppingPreferredEnd * 60) }]
  | _ => [dailyWindow]

/-- `_find_best_time_slot`. -/
def findBestTimeSlot (earliestStart : ℤ) (duration : ℕ) : List TimeWindow → ℤ
  | [] => earliestStart
  | window :: rest =>
      if window.start ≤ earliestStart ∧ earliestStart + duration ≤ window.stop then earliestStart
      else if earliestStart < window.start ∧ window.start + duration ≤ window.stop then
        window.start
      else findBestTimeSlot earliestStart duration rest

/-- `_estimate_activity_duration`. -/
def estimateActivityDuration (place : Place) : ℕ :=
  match (place.type.getD "").toLower with
  | "restaurant" => 90
  | "museum" => 120
  | "tourist_attraction" => 90
  | "shopping" => 120
  | "park" => 60
  | "entertainment" => 180
  | _ => 60

/-- The key of `_sort_places_by_time_preference`. -/
def timePreferenceScore (settings : Settings) (currentTime : ℤ) (place : Place) : ℤ :=
  let lunchStart := settings.restaurantLunchStart * 60
  let dinnerStart := settings.restaurantDinnerStart * 60
  if (place.type.getD "").toLower = "restaurant" ∧
      (lunchStart ≤ currentTime ∧ currentTime ≤ lunchStart + 180 ∨
        dinnerStart ≤ currentTime ∧ currentTime ≤ dinnerStart + 180) then 1000
  else place.priority.getD 5

/-- `_sort_places_by_time_preference`. -/
def sortPlacesByTimePreference (settings : Settings) (places : List Place)
    (currentTime : ℤ) : List Place :=
  sortedByDescending (timePreferenceScore settings currentTime) places

/-- The home base is where the day starts from, not one of its activities. -/
def isAccommodation (place : Place) : Bool :=
  place.placeType = some "accommodation" || place.type = some "accommodation"

/-- `activity_places`. -/
def activityPlaces (settings : Settings) (cluster : Cluster) (startTime : ℤ) : List Place :=
  (sortPlacesByTimePreference settings cluster.places startTime).filter (!isAccommodation ·)

/-! ## The loop -/

/-- The local variables of `_route_cluster_with_time_windows`. -/
structure ClusterState (σ : Type u) where
  currentTime : ℤ
  currentLocation : Location
  activities : List ActivityItem
  timeline : List TimelineItem
  service : σ

/-- What stays fixed while a day is planned. -/
structure DayContext (σ : Type u) where
  globe : Globe
  services : Services σ
  settings : Settings
  dailyWindow : TimeWindow
  transportMode : TransportMode

/-- The leg to the next stop, as the routing service answers it. -/
def askLeg (ctx : DayContext σ) (state : ClusterState σ) (destination : Location) :
    Reply σ Eta :=
  ctx.services.routingServiceRobust state.service state.currentLocation destination
    ctx.transportMode

/-- The transfer made from an answer of the routing service. -/
def legTransfer (ctx : DayContext σ) (state : ClusterState σ) (eta : Eta)
    (destination : Location) (fromPlace toPlace : String) (isReturnToHotel : Bool) :
    TransferItem where
  fromPlace := fromPlace
  toPlace := toPlace
  distanceKm := eta.distanceKm
  durationMinutes := eta.wholeMinutes
  recommendedMode := decideModeByDistanceKm ctx.settings eta.distanceKm ctx.transportMode
  isIntercity := false
  isReturnToHotel := isReturnToHotel
  origin := state.currentLocation
  destination := destination

/-- The transfer to a place. -/
def approachTransfer (ctx : DayContext σ) (state : ClusterState σ) (place : Place) :
    TransferItem :=
  legTransfer ctx state (askLeg ctx state place.location).value place.location "" place.name false

/-- Travel to a place, unless the traveller is already there. -/
def approachPlace (ctx : DayContext σ) (state : ClusterState σ) (place : Place) :
    ClusterState σ :=
  if state.currentLocation = place.location then state
  else
    { state with
      timeline := state.timeline ++ [.transferDict (approachTransfer ctx state place)]
      currentTime := state.currentTime + (approachTransfer ctx state place).durationMinutes
      service := (askLeg ctx state place.location).next }

/-- The start of the activity: its preferred hours, else at once, else never. -/
def chooseStart (ctx : DayContext σ) (currentTime : ℤ) (place : Place) : Option ℤ :=
  let duration := estimateActivityDuration place
  let bestStart := findBestTimeSlot currentTime duration
    (getPreferredTimeWindow ctx.settings (place.type.getD "") ctx.dailyWindow)
  if ctx.dailyWindow.stop < bestStart + duration then
    if currentTime + duration ≤ ctx.dailyWindow.stop then some currentTime else none
  else some bestStart

/-- The activity of a place. -/
def placeActivity (place : Place) (startTime : ℤ) : ActivityItem where
  name := place.name
  location := place.location
  placeType := place.type.getD "point_of_interest"
  durationMinutes := estimateActivityDuration place
  startTime := startTime
  endTime := startTime + estimateActivityDuration place
  priority := place.priority.getD 5
  rating := place.rating.getD (9 / 2)
  image := place.image.getD ""
  address := place.address.getD ""
  qualityFlag := place.qualityFlag

/-- Schedule the activity of a place the traveller has reached. -/
def schedulePlace (state : ClusterState σ) (place : Place) (startTime : ℤ) :
    ClusterState σ :=
  let activity := placeActivity place startTime
  { state with
    activities := state.activities ++ [activity]
    timeline := state.timeline ++ [.scheduled (.activity activity)]
    currentTime := activity.endTime
    currentLocation := place.location }

/-- The body of the loop over the places. A place that does not fit ends the
loop, with the leg towards it already placed. -/
def visitPlace (ctx : DayContext σ) (state : ClusterState σ) (place : Place) :
    ForInStep (ClusterState σ) :=
  let reached := approachPlace ctx state place
  match chooseStart ctx reached.currentTime place with
  | some startTime => .yield (schedulePlace reached place startTime)
  | none => .done reached

/-- The transfer back to the hotel. -/
def returnTransfer (ctx : DayContext σ) (state : ClusterState σ) (base : HomeBase) :
    TransferItem :=
  legTransfer ctx state (askLeg ctx state base.location).value base.location
    "última actividad" base.name true

/-- The leg back to the hotel, after at least one activity elsewhere. -/
def returnToHotel (ctx : DayContext σ) (cluster : Cluster) (state : ClusterState σ) :
    ClusterState σ :=
  match cluster.homeBase with
  | none => state
  | some base =>
      if state.currentLocation ≠ base.location ∧ state.activities ≠ [] then
        { state with
          timeline := state.timeline ++ [.transferDict (returnTransfer ctx state base)]
          service := (askLeg ctx state base.location).next }
      else state

/-- Where the visit of a cluster with at least one place starts. -/
def clusterStart (cluster : Cluster) (first : Place) : Location :=
  cluster.homeBase.elim first.location HomeBase.location

/-- The local variables before the loop over the places. -/
def clusterInit (service : σ) (cluster : Cluster) (first : Place) (startTime : ℤ) :
    ClusterState σ where
  currentTime := startTime
  currentLocation := clusterStart cluster first
  activities := []
  timeline := []
  service := service

/-- The local variables after the loop over the places. -/
def visitedState (ctx : DayContext σ) (service : σ) (cluster : Cluster) (first : Place)
    (startTime : ℤ) : ClusterState σ :=
  forBreak (visitPlace ctx) (activityPlaces ctx.settings cluster startTime)
    (clusterInit service cluster first startTime)

/-- What `_route_cluster_with_time_windows` returns, with the service after it. -/
structure ClusterRoute (σ : Type u) where
  activities : List ActivityItem
  timeline : List TimelineItem
  next : σ

/-- `_route_cluster_with_time_windows`. -/
def routeClusterWithTimeWindows (ctx : DayContext σ) (service : σ) (cluster : Cluster)
    (startTime : ℤ) : ClusterRoute σ :=
  match cluster.places with
  | [] => { activities := [], timeline := [], next := service }
  | first :: _ =>
      let last := returnToHotel ctx cluster (visitedState ctx service cluster first startTime)
      { activities := last.activities, timeline := last.timeline, next := last.service }

/-! ## When activities start -/

theorem le_findBestTimeSlot (earliestStart : ℤ) (duration : ℕ) (windows : List TimeWindow) :
    earliestStart ≤ findBestTimeSlot earliestStart duration windows := by
  induction windows with
  | nil => exact le_refl _
  | cons window rest ih =>
      unfold findBestTimeSlot
      split
      · exact le_refl _
      · split
        · rename_i hlater
          exact hlater.1.le
        · exact ih

/-- An activity never starts before the clock. -/
theorem le_of_chooseStart_eq_some {ctx : DayContext σ} {currentTime startTime : ℤ}
    {place : Place} (hstart : chooseStart ctx currentTime place = some startTime) :
    currentTime ≤ startTime := by
  simp only [chooseStart] at hstart
  split at hstart
  · split at hstart
    · cases hstart
      exact le_refl _
    · cases hstart
  · cases hstart
    exact le_findBestTimeSlot _ _ _

/-! ## What a cluster adds to the timeline -/

/-- The items a cluster's timeline is made of. -/
inductive IsVisitItem : TimelineItem → Prop
  | leg (transfer : TransferItem) : IsVisitItem (.transferDict transfer)
  | visit (item : ActivityItem) : IsVisitItem (.scheduled (.activity item))

/-- The loop over the places only adds visits at the end of the timeline. -/
theorem exists_append_of_visits (ctx : DayContext σ) (places : List Place)
    (state : ClusterState σ) :
    ∃ more, (forBreak (visitPlace ctx) places state).timeline = state.timeline ++ more ∧
      ∀ item ∈ more, IsVisitItem item := by
  refine forBreak_invariant
    (I := fun (later : ClusterState σ) => ∃ more, later.timeline = state.timeline ++ more ∧
      ∀ item ∈ more, IsVisitItem item) ?_ places ⟨[], by simp, by simp⟩
  rintro later place ⟨more, hmore, hvisits⟩
  have hreached : ∃ legs, (approachPlace ctx later place).timeline =
      state.timeline ++ legs ∧ ∀ item ∈ legs, IsVisitItem item := by
    unfold approachPlace
    split
    · exact ⟨more, hmore, hvisits⟩
    · refine ⟨more ++ [.transferDict (approachTransfer ctx later place)], ?_, ?_⟩
      · simp only [hmore, List.append_assoc]
      · simpa using fun item hitem => hitem.elim (hvisits item) fun h => h ▸ .leg _
  obtain ⟨legs, hlegs, hlegvisits⟩ := hreached
  simp only [visitPlace]
  split
  · rename_i begins _
    refine ⟨legs ++ [.scheduled (.activity (placeActivity place begins))], ?_, ?_⟩
    · simp only [ForInStep.value, schedulePlace, hlegs, List.append_assoc]
    · simpa using fun item hitem => hitem.elim (hlegvisits item) fun h => h ▸ .visit _
  · exact ⟨legs, hlegs, hlegvisits⟩

/-- The leg back adds at most a transfer to the timeline. -/
theorem returnToHotel_timeline (ctx : DayContext σ) (cluster : Cluster)
    (state : ClusterState σ) :
    (returnToHotel ctx cluster state).timeline = state.timeline ∨
      ∃ transfer, (returnToHotel ctx cluster state).timeline =
        state.timeline ++ [.transferDict transfer] := by
  unfold returnToHotel
  split
  · exact .inl rfl
  · split
    · exact .inr ⟨_, rfl⟩
    · exact .inl rfl

/-- So do the rest of the loop and the leg back together. -/
theorem exists_append_of_return (ctx : DayContext σ) (cluster : Cluster) (places : List Place)
    (state : ClusterState σ) :
    ∃ tail, (returnToHotel ctx cluster (forBreak (visitPlace ctx) places state)).timeline =
        state.timeline ++ tail ∧ ∀ item ∈ tail, IsVisitItem item := by
  obtain ⟨more, hmore, hvisits⟩ := exists_append_of_visits ctx places state
  rcases returnToHotel_timeline ctx cluster (forBreak (visitPlace ctx) places state) with
    hsame | ⟨transfer, hback⟩
  · exact ⟨more, hsame.trans hmore, hvisits⟩
  · refine ⟨more ++ [.transferDict transfer], by rw [hback, hmore, List.append_assoc], ?_⟩
    simpa using fun item hitem => hitem.elim (hvisits item) fun h => h ▸ .leg _

/-- The timeline of a cluster consists of legs and visits. -/
theorem routeClusterWithTimeWindows_visits (ctx : DayContext σ) (service : σ)
    (cluster : Cluster) (startTime : ℤ) :
    ∀ item ∈ (routeClusterWithTimeWindows ctx service cluster startTime).timeline,
      IsVisitItem item := by
  cases hplaces : cluster.places with
  | nil => simp [routeClusterWithTimeWindows, hplaces]
  | cons first rest =>
      simp only [routeClusterWithTimeWindows, hplaces, visitedState]
      obtain ⟨tail, htail, hvisits⟩ := exists_append_of_return ctx cluster
        (activityPlaces ctx.settings cluster startTime)
        (clusterInit service cluster first startTime)
      rw [htail]
      simpa [clusterInit] using hvisits

end Goveling.Optimizer
