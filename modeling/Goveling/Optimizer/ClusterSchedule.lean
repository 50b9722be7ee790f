/-
# The schedule of one cluster

What the loop over the places of a cluster leaves behind, read from its results: the
activities follow one another with room for the legs between them and end inside the
day, whatever the services answer. Two more things a reader would expect depend on the
place that no longer fits. The leg to it is already in the timeline when the loop stops,
so the timeline is a path only if no such leg was needed; and all places behind it are
left out with it, whether they would have fitted or not.
-/

import Goveling.Optimizer.DayAgenda
import Goveling.Optimizer.DayTotals
import Goveling.Optimizer.TripLoop

namespace Goveling.Optimizer

open Goveling.Math Goveling.Math.Agenda Goveling.Python

universe u

variable {σ : Type u}

/-! ## Activities in order -/

/-- The activity that an element of a timeline is. -/
def TimelineItem.activity? : TimelineItem → Option ActivityItem
  | .scheduled (.activity item) => some item
  | _ => none

/-- The activities of a timeline. -/
def timelineActivities (timeline : List TimelineItem) : List ActivityItem :=
  timeline.filterMap TimelineItem.activity?

/-- The activities of a cluster that is entered at `startTime` are in order: they increase,
do not overlap, leave room for the legs between them and end inside the day. -/
structure ScheduleInOrder (startTime : ℤ) (dailyWindow : TimeWindow)
    (route : ClusterRoute σ) : Prop where
  listed : route.activities = timelineActivities route.timeline
  forward : ∀ activity ∈ route.activities, activity.startTime < activity.endTime
  increasing : route.activities.Pairwise fun earlier later =>
    earlier.startTime < later.startTime
  disjoint : route.activities.Pairwise fun earlier later => earlier.endTime ≤ later.startTime
  first : ∀ (legs : List TimelineItem) (activity : ActivityItem) (rest : List TimelineItem),
    route.timeline = legs ++ .scheduled (.activity activity) :: rest →
    timelineActivities legs = [] →
    startTime + transferMinutes legs ≤ activity.startTime
  room : ∀ (before : List TimelineItem) (earlier : ActivityItem) (legs : List TimelineItem)
    (later : ActivityItem) (rest : List TimelineItem),
    route.timeline = before ++ .scheduled (.activity earlier) ::
      (legs ++ .scheduled (.activity later) :: rest) →
    timelineActivities legs = [] →
    earlier.endTime + transferMinutes legs ≤ later.startTime
  inside : ∀ activity ∈ route.activities, activity.endTime ≤ dailyWindow.stop

theorem timelineActivities_append (first second : List TimelineItem) :
    timelineActivities (first ++ second) =
      timelineActivities first ++ timelineActivities second :=
  List.filterMap_append

section Agenda

variable {timeline : List TimelineItem}

/-- The stays of a cluster's timeline are its activities. -/
theorem stays_agendaOf_of_visits (hvisits : ∀ item ∈ timeline, IsVisitItem item) :
    stays (agendaOf timeline) =
      (timelineActivities timeline).map fun activity =>
        (activity.startTime, activity.endTime) := by
  induction timeline with
  | nil => rfl
  | cons item rest ih =>
      obtain ⟨hitem, hrest⟩ := List.forall_mem_cons.mp hvisits
      cases hitem with
      | leg transfer =>
          rw [agendaOf, if_neg (by simp [opensWithTrip_of_visits hrest])]
          exact ih hrest
      | visit activity => exact congrArg (List.cons _) (ih hrest)

/-- Its moves are its transfers. -/
theorem moved_agendaOf_of_visits (hvisits : ∀ item ∈ timeline, IsVisitItem item) :
    moved (agendaOf timeline) = transferMinutes timeline := by
  induction timeline with
  | nil => rfl
  | cons item rest ih =>
      obtain ⟨hitem, hrest⟩ := List.forall_mem_cons.mp hvisits
      cases hitem with
      | leg transfer =>
          rw [agendaOf, if_neg (by simp [opensWithTrip_of_visits hrest]), moved, ih hrest]
          simp [transferMinutes]
      | visit activity => exact ih hrest

end Agenda

theorem estimateActivityDuration_pos (place : Place) : 0 < estimateActivityDuration place := by
  unfold estimateActivityDuration
  split <;> decide

/-- An activity that gets a start ends inside the day. -/
theorem stop_of_chooseStart_eq_some {ctx : DayContext σ} {currentTime startTime : ℤ}
    {place : Place} (hstart : chooseStart ctx currentTime place = some startTime) :
    startTime + estimateActivityDuration place ≤ ctx.dailyWindow.stop := by
  simp only [chooseStart] at hstart
  split at hstart
  · split at hstart
    · rename_i hfits
      cases hstart
      exact hfits
    · cases hstart
  · rename_i hearly
    cases hstart
    exact not_lt.mp hearly

/-- What the loop keeps of its activities. -/
structure ActivitiesKept (ctx : DayContext σ) (state : ClusterState σ) : Prop where
  listed : state.activities = timelineActivities state.timeline
  forward : ∀ activity ∈ state.activities, activity.startTime < activity.endTime
  inside : ∀ activity ∈ state.activities, activity.endTime ≤ ctx.dailyWindow.stop

section Kept

variable {ctx : DayContext σ} {state : ClusterState σ}

theorem ActivitiesKept.approachPlace (hkept : ActivitiesKept ctx state) (place : Place) :
    ActivitiesKept ctx (approachPlace ctx state place) := by
  unfold Optimizer.approachPlace
  split
  · exact hkept
  · refine ⟨?_, hkept.forward, hkept.inside⟩
    rw [timelineActivities_append]
    exact hkept.listed.trans (List.append_nil _).symm

theorem ActivitiesKept.visitPlace (hkept : ActivitiesKept ctx state) (place : Place) :
    ActivitiesKept ctx (visitPlace ctx state place).value := by
  have hreached := hkept.approachPlace place
  unfold Optimizer.visitPlace
  dsimp only
  split
  · rename_i begins hbegins
    have hpos := estimateActivityDuration_pos place
    refine ⟨?_, ?_, ?_⟩
    · simp only [ForInStep.value, schedulePlace]
      rw [timelineActivities_append, hreached.listed]
      rfl
    · simp only [ForInStep.value, schedulePlace, List.forall_mem_append,
        List.forall_mem_singleton]
      refine ⟨hreached.forward, ?_⟩
      simp only [placeActivity]
      omega
    · simp only [ForInStep.value, schedulePlace, List.forall_mem_append,
        List.forall_mem_singleton]
      exact ⟨hreached.inside, stop_of_chooseStart_eq_some hbegins⟩
  · exact hreached

theorem ActivitiesKept.returnToHotel (hkept : ActivitiesKept ctx state) (cluster : Cluster) :
    ActivitiesKept ctx (returnToHotel ctx cluster state) := by
  refine ⟨?_, ?_, ?_⟩
  · rw [activities_returnToHotel]
    rcases returnToHotel_timeline ctx cluster state with hsame | ⟨transfer, hback⟩
    · rw [hsame]
      exact hkept.listed
    · rw [hback, timelineActivities_append]
      exact hkept.listed.trans (List.append_nil _).symm
  · rw [activities_returnToHotel]
    exact hkept.forward
  · rw [activities_returnToHotel]
    exact hkept.inside

theorem activitiesKept_visitedState (service : σ) (cluster : Cluster) (first : Place)
    (startTime : ℤ) : ActivitiesKept ctx (visitedState ctx service cluster first startTime) :=
  forBreak_invariant (fun _ place hkept => hkept.visitPlace place)
    (activityPlaces ctx.settings cluster startTime)
    ⟨rfl, by simp [clusterInit], by simp [clusterInit]⟩

end Kept

section InOrder

variable {timeline : List TimelineItem}

/-- The agenda of a timeline with an activity in it. -/
theorem agendaOf_split (before : List TimelineItem) (activity : ActivityItem)
    (after : List TimelineItem) :
    agendaOf (before ++ .scheduled (.activity activity) :: after) =
      agendaOf before ++ .stay activity.startTime activity.endTime :: agendaOf after := by
  rw [agendaOf_append before _ rfl]
  rfl

/-- Legs without an activity take up the time of their transfers. -/
theorem moved_of_no_activities {legs : List TimelineItem}
    (hvisits : ∀ item ∈ legs, IsVisitItem item) (hnone : timelineActivities legs = []) :
    stays (agendaOf legs) = [] ∧ moved (agendaOf legs) = transferMinutes legs := by
  refine ⟨?_, moved_agendaOf_of_visits hvisits⟩
  rw [stays_agendaOf_of_visits hvisits, hnone, List.map_nil]

end InOrder

/-- The activities of a cluster are those of its timeline, and end inside the day. -/
theorem activities_routeCluster (ctx : DayContext σ) (service : σ) (cluster : Cluster)
    (startTime : ℤ) :
    (routeClusterWithTimeWindows ctx service cluster startTime).activities =
        timelineActivities (routeClusterWithTimeWindows ctx service cluster startTime).timeline ∧
      ∀ activity ∈ (routeClusterWithTimeWindows ctx service cluster startTime).activities,
        activity.startTime < activity.endTime ∧ activity.endTime ≤ ctx.dailyWindow.stop := by
  cases hplaces : cluster.places with
  | nil => simp [routeClusterWithTimeWindows, hplaces, timelineActivities]
  | cons first rest =>
      simp only [routeClusterWithTimeWindows, hplaces]
      have hlast : ActivitiesKept ctx (returnToHotel ctx cluster
          (visitedState ctx service cluster first startTime)) :=
        (activitiesKept_visitedState service cluster first startTime).returnToHotel cluster
      exact ⟨hlast.listed, fun activity hmem =>
        ⟨hlast.forward activity hmem, hlast.inside activity hmem⟩⟩

/-- Whatever the services answer, the activities of a cluster are in order. -/
theorem routeClusterWithTimeWindows_inOrder (ctx : DayContext σ) (service : σ)
    (cluster : Cluster) (startTime : ℤ) :
    ScheduleInOrder startTime ctx.dailyWindow
      (routeClusterWithTimeWindows ctx service cluster startTime) := by
  have hvisits := routeClusterWithTimeWindows_visits ctx service cluster startTime
  have hfollows := routeClusterWithTimeWindows_follows ctx service cluster startTime
  have hkept := activities_routeCluster ctx service cluster startTime
  generalize routeClusterWithTimeWindows ctx service cluster startTime = route at *
  obtain ⟨hlisted, hwithin⟩ := hkept
  -- The agenda with the start of the cluster in front of it is in order.
  have hin : InOrder (.stay startTime startTime :: agendaOf route.timeline) := by
    refine (inOrder_iff_followsFrom fun length hmove => ?_).mpr ⟨by simp, le_rfl, hfollows⟩
    exact nonneg_of_move_mem_agendaOf ((List.mem_cons.mp hmove).resolve_left (by simp))
  have hdisjoint : route.activities.Pairwise fun earlier later =>
      earlier.endTime ≤ later.startTime := by
    have hapart := hin.apart
    rw [stays, stays_agendaOf_of_visits hvisits, ← hlisted] at hapart
    exact List.pairwise_map.mp (List.pairwise_cons.mp hapart).2
  refine ⟨hlisted, fun activity hmem => (hwithin activity hmem).1, ?_, hdisjoint, ?_, ?_,
    fun activity hmem => (hwithin activity hmem).2⟩
  · exact hdisjoint.imp_of_mem fun hearlier _ hle => (hwithin _ hearlier).1.trans_le hle
  · rintro legs activity rest hsplit hnone
    obtain ⟨hstays, hmoved⟩ := moved_of_no_activities
      (fun item hitem => hvisits item (by rw [hsplit]; simp [hitem])) hnone
    have hroom := hin.room [] startTime startTime (agendaOf legs) activity.startTime
      activity.endTime (agendaOf rest) (by rw [hsplit, agendaOf_split]; rfl) hstays
    rwa [hmoved] at hroom
  · rintro before earlier legs later rest hsplit hnone
    obtain ⟨hstays, hmoved⟩ := moved_of_no_activities
      (fun item hitem => hvisits item (by rw [hsplit]; simp [hitem])) hnone
    have hroom := hin.room (.stay startTime startTime :: agendaOf before) earlier.startTime
      earlier.endTime (agendaOf legs) later.startTime later.endTime (agendaOf rest)
      (by rw [hsplit, agendaOf_split, agendaOf_split]; rfl) hstays
    rwa [hmoved] at hroom

/-! ## The path -/

/-- A timeline that a traveller can follow from a place: visits take place where the traveller
is, a leg starts there and is followed by the visit it leads to, and only the leg back to the
hotel may be the last item. -/
inductive PathFrom (hotel : Option Location) : Location → List TimelineItem → Prop
  | rest (here : Location) : PathFrom hotel here []
  | visit (item : ActivityItem) (later : List TimelineItem) :
      PathFrom hotel item.location later →
      PathFrom hotel item.location (.scheduled (.activity item) :: later)
  | leg (transfer : TransferItem) (item : ActivityItem) (later : List TimelineItem) :
      item.location = transfer.destination → PathFrom hotel item.location later →
      PathFrom hotel transfer.origin
        (.transferDict transfer :: .scheduled (.activity item) :: later)
  | back (transfer : TransferItem) :
      transfer.isReturnToHotel = true → hotel = some transfer.destination →
      PathFrom hotel transfer.origin [.transferDict transfer]

/-- A part of a path from one place to another. -/
inductive PathBetween : Location → List TimelineItem → Location → Prop
  | rest (here : Location) : PathBetween here [] here
  | visit {earlier : Location} {before : List TimelineItem} (item : ActivityItem) :
      PathBetween earlier before item.location →
      PathBetween earlier (before ++ [.scheduled (.activity item)]) item.location
  | leg {earlier : Location} {before : List TimelineItem} (transfer : TransferItem)
      (item : ActivityItem) :
      PathBetween earlier before transfer.origin → item.location = transfer.destination →
      PathBetween earlier (before ++ [.transferDict transfer, .scheduled (.activity item)])
        item.location

section Paths

variable {hotel : Option Location}

theorem pathFrom_visit_iff {here : Location} {item : ActivityItem} {later : List TimelineItem} :
    PathFrom hotel here (.scheduled (.activity item) :: later) ↔
      here = item.location ∧ PathFrom hotel here later := by
  constructor
  · rintro (_ | ⟨_, _, hlater⟩)
    exact ⟨rfl, hlater⟩
  · rintro ⟨rfl, hlater⟩
    exact .visit item later hlater

theorem pathFrom_leg_iff {here : Location} {transfer : TransferItem} {item : ActivityItem}
    {later : List TimelineItem} :
    PathFrom hotel here (.transferDict transfer :: .scheduled (.activity item) :: later) ↔
      here = transfer.origin ∧ item.location = transfer.destination ∧
        PathFrom hotel item.location later := by
  constructor
  · rintro (_ | _ | ⟨_, _, _, harrives, hlater⟩)
    exact ⟨rfl, harrives, hlater⟩
  · rintro ⟨rfl, harrives, hlater⟩
    exact .leg transfer item later harrives hlater

/-- A leg that is not followed by a visit is the last item, and leads back to the hotel. -/
theorem pathFrom_back_iff {here : Location} {transfer : TransferItem}
    {later : List TransferItem} :
    PathFrom hotel here (.transferDict transfer :: later.map .transferDict) ↔
      here = transfer.origin ∧ later = [] ∧ transfer.isReturnToHotel = true ∧
        hotel = some transfer.destination := by
  constructor
  · intro hpath
    cases later with
    | nil =>
        cases hpath with
        | back _ hback hhotel => exact ⟨rfl, rfl, hback, hhotel⟩
    | cons next others => cases hpath
  · rintro ⟨rfl, rfl, hback, hhotel⟩
    exact .back transfer hback hhotel

/-- Behind a part of a path the path goes on from where the part leads to. -/
theorem PathBetween.pathFrom_append_iff {start here : Location} {before later : List TimelineItem}
    (hbetween : PathBetween start before here) :
    PathFrom hotel start (before ++ later) ↔ PathFrom hotel here later := by
  induction hbetween generalizing later with
  | rest => rfl
  | visit item hearlier ih =>
      rw [List.append_assoc, ih, List.singleton_append, pathFrom_visit_iff]
      exact and_iff_right rfl
  | leg transfer item hearlier harrives ih =>
      rw [List.append_assoc, ih, List.cons_append, List.singleton_append, pathFrom_leg_iff]
      exact (and_iff_right rfl).trans (and_iff_right harrives)

end Paths

/-- No leg is wasted on a place that does not fit: the traveller is there already, or the
place fits. -/
def WastesNoLeg (ctx : DayContext σ) (state : ClusterState σ) (place : Place) : Prop :=
  state.currentLocation = place.location ∨ Fits ctx state place

section Legs

variable {ctx : DayContext σ} {state : ClusterState σ} {place : Place}

theorem visitPlace_of_fits (hfits : Fits ctx state place) :
    ∃ begins, visitPlace ctx state place =
      .yield (schedulePlace (approachPlace ctx state place) place begins) := by
  have hsome := (chooseStart_eq_none_iff ctx (approachPlace ctx state place).currentTime
    place).not.mpr (not_lt.mpr hfits)
  obtain ⟨begins, hbegins⟩ := Option.ne_none_iff_exists'.mp hsome
  refine ⟨begins, ?_⟩
  unfold visitPlace
  dsimp only
  rw [hbegins]

theorem visitPlace_of_not_fits (hlate : ¬ Fits ctx state place) :
    visitPlace ctx state place = .done (approachPlace ctx state place) := by
  have hnone := (chooseStart_eq_none_iff ctx (approachPlace ctx state place).currentTime
    place).mpr (not_le.mp hlate)
  unfold visitPlace
  dsimp only
  rw [hnone]

theorem approachPlace_of_ne (haway : state.currentLocation ≠ place.location) :
    (approachPlace ctx state place).timeline =
      state.timeline ++ [.transferDict (approachTransfer ctx state place)] := by
  unfold approachPlace
  rw [if_neg haway]

theorem approachPlace_of_eq (hthere : state.currentLocation = place.location) :
    approachPlace ctx state place = state := by
  unfold approachPlace
  rw [if_pos hthere]

/-- A visited place goes on with the path. -/
theorem PathBetween.schedulePlace {start : Location} (begins : ℤ)
    (hpath : PathBetween start state.timeline state.currentLocation) :
    PathBetween start
      (schedulePlace (approachPlace ctx state place) place begins).timeline place.location := by
  have hvisit : (placeActivity place begins).location = place.location := rfl
  unfold Optimizer.schedulePlace
  dsimp only
  rw [← hvisit]
  by_cases hthere : state.currentLocation = place.location
  · rw [hthere] at hpath
    rw [approachPlace_of_eq hthere]
    exact .visit _ hpath
  · rw [approachPlace_of_ne hthere, List.append_assoc]
    exact .leg (approachTransfer ctx state place) _ hpath rfl

/-- From the last visit, with or without the leg back, the timeline is a path. -/
theorem PathBetween.returnToHotel {start : Location} {cluster : Cluster}
    (hpath : PathBetween start state.timeline state.currentLocation) :
    PathFrom (cluster.homeBase.map HomeBase.location) start
      (returnToHotel ctx cluster state).timeline := by
  have hstays : PathFrom (cluster.homeBase.map HomeBase.location) start state.timeline := by
    rw [← List.append_nil state.timeline, hpath.pathFrom_append_iff]
    exact .rest _
  unfold Optimizer.returnToHotel
  cases hbase : cluster.homeBase with
  | none => rwa [hbase] at hstays
  | some base =>
      rw [hbase] at hstays
      dsimp only
      split
      · rw [hpath.pathFrom_append_iff]
        exact .back (returnTransfer ctx state base) rfl rfl
      · exact hstays

/-- With a leg towards a place that is not visited, it is none. -/
theorem PathBetween.not_pathFrom_approach {start : Location} {cluster : Cluster}
    {hotel : Option Location}
    (hpath : PathBetween start state.timeline state.currentLocation)
    (haway : state.currentLocation ≠ place.location) :
    ¬ PathFrom hotel start
      (Optimizer.returnToHotel ctx cluster (approachPlace ctx state place)).timeline := by
  obtain ⟨later, hlater⟩ : ∃ later : List TransferItem,
      (Optimizer.returnToHotel ctx cluster (approachPlace ctx state place)).timeline =
        state.timeline ++
          .transferDict (approachTransfer ctx state place) :: later.map .transferDict := by
    rcases returnToHotel_timeline ctx cluster (approachPlace ctx state place) with
      hsame | ⟨transfer, hback⟩
    · exact ⟨[], by rw [hsame, approachPlace_of_ne haway]; rfl⟩
    · refine ⟨[transfer], ?_⟩
      rw [hback, approachPlace_of_ne haway, List.append_assoc]
      rfl
  rw [hlater, hpath.pathFrom_append_iff, pathFrom_back_iff]
  rintro ⟨-, -, hback, -⟩
  cases hback

end Legs

/-- The loop over the places and the leg back leave a path exactly when no leg is wasted. -/
theorem pathFrom_returnToHotel_iff (ctx : DayContext σ) (cluster : Cluster) {start : Location}
    (places : List Place) {state : ClusterState σ}
    (hpath : PathBetween start state.timeline state.currentLocation) :
    PathFrom (cluster.homeBase.map HomeBase.location) start
        (returnToHotel ctx cluster (forBreak (visitPlace ctx) places state)).timeline ↔
      Along (visitPlace ctx) (fun state place _ => WastesNoLeg ctx state place) places state := by
  induction places generalizing state with
  | nil => exact iff_of_true hpath.returnToHotel trivial
  | cons place rest ih =>
      by_cases hfits : Fits ctx state place
      · obtain ⟨begins, hvisit⟩ := visitPlace_of_fits hfits
        rw [forBreak_cons_of_yield hvisit, along_cons_of_yield hvisit]
        exact (ih (hpath.schedulePlace begins)).trans (and_iff_right (.inr hfits)).symm
      · have hvisit := visitPlace_of_not_fits hfits
        rw [forBreak_cons_of_done hvisit, along_cons_of_done hvisit]
        by_cases hthere : state.currentLocation = place.location
        · refine iff_of_true ?_ (.inl hthere)
          rw [approachPlace_of_eq hthere]
          exact hpath.returnToHotel
        · refine iff_of_false (hpath.not_pathFrom_approach hthere) ?_
          rintro (hhere | hinside)
          · exact hthere hhere
          · exact hfits hinside

/-- The timeline of a cluster is a path from its start. -/
def RouteIsPath (ctx : DayContext σ) (service : σ) (cluster : Cluster) (startTime : ℤ) : Prop :=
  ∀ first ∈ cluster.places.head?,
    PathFrom (cluster.homeBase.map HomeBase.location) (clusterStart cluster first)
      (routeClusterWithTimeWindows ctx service cluster startTime).timeline

/-- The timeline of a cluster is a path exactly when every place that the loop turns to fits
in the day or is where the traveller is. -/
theorem routeIsPath_iff (ctx : DayContext σ) (service : σ) (cluster : Cluster)
    (startTime : ℤ) :
    RouteIsPath ctx service cluster startTime ↔
      ∀ first ∈ cluster.places.head?,
        Along (visitPlace ctx) (fun state place _ => WastesNoLeg ctx state place)
          (activityPlaces ctx.settings cluster startTime)
          (clusterInit service cluster first startTime) := by
  unfold RouteIsPath
  cases hplaces : cluster.places with
  | nil => simp
  | cons first rest =>
      simp only [routeClusterWithTimeWindows, hplaces, List.head?_cons, Option.mem_def,
        Option.some.injEq, forall_eq']
      exact pathFrom_returnToHotel_iff ctx cluster (activityPlaces ctx.settings cluster startTime)
        (.rest (clusterStart cluster first))

/-- A hotel with one museum, which is five hours away. -/
def farMuseum : Cluster where
  label := "0"
  centroid := .onEquator 0
  places := [{ name := "Museo", location := .onEquator 1, type := some "museum" }]
  homeBase := some { name := "Hotel", location := .onEquator 0 }

/-- The visit would end at 18:00, and the day ends at 16:00: the way there is all there is. -/
theorem not_routeIsPath_farMuseum :
    ¬ RouteIsPath (.steady { distanceKm := 112, durationMinutes := 300 }
      { start := 660, stop := 960 }) () farMuseum 660 := by
  intro hpath
  have hleg := hpath _ rfl
  have htimeline : (routeClusterWithTimeWindows (.steady
      { distanceKm := 112, durationMinutes := 300 } { start := 660, stop := 960 }) () farMuseum
      660).timeline = [.transferDict
        { fromPlace := ""
          toPlace := "Museo"
          distanceKm := 112
          durationMinutes := 300
          recommendedMode := .drive
          isIntercity := false
          isReturnToHotel := false
          origin := .onEquator 0
          destination := .onEquator 1 }] := by
    decide +kernel
  rw [htimeline] at hleg
  obtain ⟨-, -, hback, -⟩ := (@pathFrom_back_iff _ _ _ []).mp hleg
  cases hback

/-! ## What is left out -/

/-- The places of a cluster to visit that are not among its activities: the loop takes them
in order and the activities are its first places. -/
def leftOutPlaces (ctx : DayContext σ) (service : σ) (cluster : Cluster) (startTime : ℤ) :
    List Place :=
  (activityPlaces ctx.settings cluster startTime).drop
    (routeClusterWithTimeWindows ctx service cluster startTime).activities.length

/-- The traveller at the end of the last activity, or at the start if there is none. The
service is as the loop has it there. -/
def lastStop (ctx : DayContext σ) (service : σ) (cluster : Cluster) (first : Place)
    (startTime : ℤ) : ClusterState σ :=
  let route := routeClusterWithTimeWindows ctx service cluster startTime
  let last := route.activities.getLast?
  { currentTime := (last.map ActivityItem.endTime).getD startTime
    currentLocation := (last.map ActivityItem.location).getD (clusterStart cluster first)
    activities := route.activities
    timeline := route.timeline
    service := (lastYield (visitPlace ctx) (activityPlaces ctx.settings cluster startTime)
      (clusterInit service cluster first startTime)).service }

/-- The activities are visits to the first places of a list, each at some time. -/
def VisitsFirst (places : List Place) (activities : List ActivityItem) : Prop :=
  List.Forall₂ (fun place activity => ∃ begins, activity = placeActivity place begins)
    (places.take activities.length) activities

/-- A place is left out only if a visit to it after the last activity, with the way from
there, would end after the day. -/
def LeavesOutMisfitsOnly (ctx : DayContext σ) (service : σ) (cluster : Cluster)
    (startTime : ℤ) : Prop :=
  ∀ first ∈ cluster.places.head?, ∀ place ∈ leftOutPlaces ctx service cluster startTime,
    ¬ Fits ctx (lastStop ctx service cluster first startTime) place

section LeftOut

variable (ctx : DayContext σ)

/-- Whether a place fits depends on time, location and the service only. -/
theorem fits_congr {state other : ClusterState σ} (htime : state.currentTime = other.currentTime)
    (hlocation : state.currentLocation = other.currentLocation)
    (hservice : state.service = other.service) (place : Place) :
    Fits ctx state place ↔ Fits ctx other place := by
  unfold Fits approachPlace approachTransfer legTransfer askLeg
  rw [htime, hlocation, hservice]
  split <;> simp [htime]

theorem visitPlace_yields {state next : ClusterState σ} {place : Place}
    (hvisit : visitPlace ctx state place = .yield next) :
    Fits ctx state place ∧
      ∃ begins, next = schedulePlace (approachPlace ctx state place) place begins := by
  by_cases hfits : Fits ctx state place
  · obtain ⟨begins, hyield⟩ := visitPlace_of_fits hfits
    rw [hyield] at hvisit
    cases hvisit
    exact ⟨hfits, begins, rfl⟩
  · rw [visitPlace_of_not_fits hfits] at hvisit
    cases hvisit

theorem visitPlace_breaks {state next : ClusterState σ} {place : Place}
    (hvisit : visitPlace ctx state place = .done next) :
    ¬ Fits ctx state place ∧ next = approachPlace ctx state place := by
  by_cases hfits : Fits ctx state place
  · obtain ⟨begins, hyield⟩ := visitPlace_of_fits hfits
    rw [hyield] at hvisit
    cases hvisit
  · rw [visitPlace_of_not_fits hfits] at hvisit
    cases hvisit
    exact ⟨hfits, rfl⟩

/-- Where the loop goes on from, the traveller is at the last activity, or at the start. -/
structure AtLastActivity (start : Location) (startTime : ℤ) (state : ClusterState σ) :
    Prop where
  time : state.currentTime =
    (state.activities.getLast?.map ActivityItem.endTime).getD startTime
  location : state.currentLocation =
    (state.activities.getLast?.map ActivityItem.location).getD start

theorem atLastActivity_lastYield (service : σ) (cluster : Cluster) (first : Place)
    (startTime : ℤ) (places : List Place) :
    AtLastActivity (clusterStart cluster first) startTime
      (lastYield (visitPlace ctx) places (clusterInit service cluster first startTime)) := by
  refine lastYield_invariant (fun state place next _ hvisit => ?_) places ⟨rfl, rfl⟩
  obtain ⟨-, begins, rfl⟩ := visitPlace_yields ctx hvisit
  constructor
  · simp [schedulePlace]
  · simp [schedulePlace, placeActivity]

/-- The activities are those the loop had when it stopped. -/
theorem activities_lastYield (service : σ) (cluster : Cluster) (first : Place) (startTime : ℤ)
    {rest : List Place} (hplaces : cluster.places = first :: rest) :
    (routeClusterWithTimeWindows ctx service cluster startTime).activities =
      (lastYield (visitPlace ctx) (activityPlaces ctx.settings cluster startTime)
        (clusterInit service cluster first startTime)).activities := by
  simp only [routeClusterWithTimeWindows, hplaces, activities_returnToHotel]
  refine map_forBreak_eq ClusterState.activities (fun state place next hvisit => ?_)
    (activityPlaces ctx.settings cluster startTime)
    (clusterInit service cluster first startTime)
  obtain ⟨-, rfl⟩ := visitPlace_breaks ctx hvisit
  exact activities_approachPlace ctx state place

/-- The places that are left out are those the loop leaves over. -/
theorem leftOutPlaces_eq (service : σ) (cluster : Cluster) (first : Place) (startTime : ℤ)
    {rest : List Place} (hplaces : cluster.places = first :: rest) :
    leftOutPlaces ctx service cluster startTime =
      leftOver (visitPlace ctx) (activityPlaces ctx.settings cluster startTime)
        (clusterInit service cluster first startTime) := by
  have hyield : ∀ (state : ClusterState σ) (place : Place) (next : ClusterState σ),
      visitPlace ctx state place = .yield next →
        next.activities.length = state.activities.length + 1 := by
    intro state place next hvisit
    obtain ⟨-, begins, rfl⟩ := visitPlace_yields ctx hvisit
    simp [schedulePlace, activities_approachPlace]
  obtain ⟨done, hcount, hdrop⟩ := leftOver_eq_drop (fun state => state.activities.length) hyield
    (activityPlaces ctx.settings cluster startTime)
    (clusterInit service cluster first startTime)
  have hnone : (clusterInit service cluster first startTime).activities.length = 0 := rfl
  rw [hnone, zero_add] at hcount
  rw [leftOutPlaces, activities_lastYield ctx service cluster first startTime hplaces, hcount,
    hdrop]

/-- The loop visits the first of its places, one activity each. -/
theorem exists_visits_lastYield (places : List Place) (state : ClusterState σ) :
    ∃ visits, (lastYield (visitPlace ctx) places state).activities = state.activities ++ visits ∧
      VisitsFirst places visits := by
  induction places generalizing state with
  | nil => exact ⟨[], (List.append_nil _).symm, .nil⟩
  | cons place rest ih =>
      unfold lastYield
      cases hvisit : visitPlace ctx state place with
      | done next => exact ⟨[], (List.append_nil _).symm, .nil⟩
      | yield next =>
          obtain ⟨-, begins, rfl⟩ := visitPlace_yields ctx hvisit
          obtain ⟨visits, hactivities, hfirst⟩ :=
            ih (schedulePlace (approachPlace ctx state place) place begins)
          refine ⟨placeActivity place begins :: visits, ?_, .cons ⟨begins, rfl⟩ hfirst⟩
          dsimp only
          rw [hactivities]
          simp [schedulePlace, activities_approachPlace]

/-- The activities of a cluster are visits to the first of its places. -/
theorem visitsFirst_activities (service : σ) (cluster : Cluster) (startTime : ℤ) :
    VisitsFirst (activityPlaces ctx.settings cluster startTime)
      (routeClusterWithTimeWindows ctx service cluster startTime).activities := by
  cases hplaces : cluster.places with
  | nil =>
      simp only [routeClusterWithTimeWindows, hplaces]
      exact .nil
  | cons first rest =>
      obtain ⟨visits, hactivities, hfirst⟩ := exists_visits_lastYield ctx
        (activityPlaces ctx.settings cluster startTime)
        (clusterInit service cluster first startTime)
      rw [activities_lastYield ctx service cluster first startTime hplaces, hactivities]
      exact hfirst

end LeftOut

/-- A place is left out only if it does not fit exactly when, at the place the loop breaks
off at, no place behind it would fit either. -/
theorem leavesOutMisfitsOnly_iff (ctx : DayContext σ) (service : σ) (cluster : Cluster)
    (startTime : ℤ) :
    LeavesOutMisfitsOnly ctx service cluster startTime ↔
      ∀ first ∈ cluster.places.head?,
        Along (visitPlace ctx)
          (fun state place rest =>
            ¬ Fits ctx state place → ∀ later ∈ rest, ¬ Fits ctx state later)
          (activityPlaces ctx.settings cluster startTime)
          (clusterInit service cluster first startTime) := by
  unfold LeavesOutMisfitsOnly
  cases hplaces : cluster.places with
  | nil => simp
  | cons first rest =>
      simp only [List.head?_cons, Option.mem_def, Option.some.injEq, forall_eq']
      have hmisfits := @forall_leftOver_iff _ _ (visitPlace ctx)
        (fun state place => ¬ Fits ctx state place)
        (fun state place next hvisit => (visitPlace_breaks ctx hvisit).1)
        (fun state place next hvisit => not_not_intro (visitPlace_yields ctx hvisit).1)
        (activityPlaces ctx.settings cluster startTime)
        (clusterInit service cluster first startTime)
      rw [leftOutPlaces_eq ctx service cluster first startTime hplaces, ← hmisfits]
      obtain ⟨htime, hlocation⟩ := atLastActivity_lastYield ctx service cluster first startTime
        (activityPlaces ctx.settings cluster startTime)
      rw [← activities_lastYield ctx service cluster first startTime hplaces] at htime hlocation
      refine forall₂_congr fun place _ => not_congr ?_
      exact @fits_congr _ ctx (lastStop ctx service cluster first startTime) _ htime.symm
        hlocation.symm rfl place

/-- A hotel, a museum two hours of visit and a park of one hour, all at one spot. -/
def museumBeforePark : Cluster where
  label := "0"
  centroid := .onEquator 0
  places := [{ name := "Museo", location := .onEquator 0, type := some "museum" },
    { name := "Parque", location := .onEquator 0, type := some "park" }]
  homeBase := some { name := "Hotel", location := .onEquator 0 }

/-- With ninety minutes left the museum does not fit, and the park, which would, is left out. -/
theorem not_leavesOutMisfitsOnly_museumBeforePark :
    ¬ LeavesOutMisfitsOnly (.steady { distanceKm := 1, durationMinutes := 10 }
      { start := 540, stop := 1080 }) () museumBeforePark 990 := by
  intro hall
  have hleft : leftOutPlaces (.steady { distanceKm := 1, durationMinutes := 10 }
      { start := 540, stop := 1080 }) () museumBeforePark 990 =
        [{ name := "Museo", location := .onEquator 0, type := some "museum" },
          { name := "Parque", location := .onEquator 0, type := some "park" }] := by
    decide +kernel
  have hpark := hall _ rfl { name := "Parque", location := .onEquator 0, type := some "park" }
    (by rw [hleft]; exact .tail _ (.head _))
  revert hpark
  unfold Fits
  decide +kernel

end Goveling.Optimizer
