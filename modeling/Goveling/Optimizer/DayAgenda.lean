/-
# The agenda of a routed day

Read as an agenda, a timeline is a list of stays and of the transfers between
them. A long trip is in the timeline twice, as a transfer and as the intercity
activity right after it; the agenda has it once, as a stay.

Routing a cluster keeps this agenda in step with its clock. Routing a day does
not: the clock follows the last item of a cluster's timeline, and when that is a
transfer the day goes on from the clock the cluster was entered with. The
difference is the day's `overrun`. What is placed next is in order exactly when
it waits for at least the overrun, and this condition at every step is exactly
what makes the whole day an agenda in order.
-/

import Goveling.Optimizer.DayRoute

namespace Goveling.Optimizer

open Goveling.Math Goveling.Math.Agenda

universe u

variable {σ : Type u}

/-! ## Timelines as agendas -/

/-- The timeline goes on with the activity of a long trip. -/
def opensWithTrip : List TimelineItem → Bool
  | .scheduled (.intercity _) :: _ => true
  | _ => false

/-- The agenda of a timeline. The transfer in front of the activity of a long
trip is that same trip and takes no time of its own. -/
def agendaOf : List TimelineItem → List (Entry ℤ)
  | [] => []
  | .scheduled item :: rest => .stay item.startTime item.endTime :: agendaOf rest
  | .transferItem transfer :: rest => .move transfer.durationMinutes :: agendaOf rest
  | .transferDict transfer :: rest =>
      if opensWithTrip rest then agendaOf rest
      else .move transfer.durationMinutes :: agendaOf rest

/-- The scheduled items of a day, the transfers between them and the free blocks
at its end. -/
def dayAgenda (day : DayRecord) : List (Entry ℤ) :=
  agendaOf day.timeline ++ day.freeBlocks.map fun block => .stay block.startTime block.endTime

theorem opensWithTrip_append {first second : List TimelineItem}
    (hsecond : opensWithTrip second = false) :
    opensWithTrip (first ++ second) = opensWithTrip first := by
  cases first with
  | nil => simpa [opensWithTrip] using hsecond
  | cons item rest =>
      cases item with
      | scheduled scheduled => cases scheduled <;> rfl
      | transferDict transfer => rfl
      | transferItem transfer => rfl

theorem agendaOf_append (first second : List TimelineItem)
    (hsecond : opensWithTrip second = false) :
    agendaOf (first ++ second) = agendaOf first ++ agendaOf second := by
  induction first with
  | nil => rfl
  | cons item rest ih =>
      cases item with
      | scheduled scheduled => simp [agendaOf, ih]
      | transferItem transfer => simp [agendaOf, ih]
      | transferDict transfer =>
          simp only [List.cons_append, agendaOf, opensWithTrip_append hsecond, ih]
          split <;> rfl

/-- Transfers take no negative time. -/
theorem nonneg_of_move_mem_agendaOf {timeline : List TimelineItem} {length : ℤ}
    (hmove : Entry.move length ∈ agendaOf timeline) : 0 ≤ length := by
  induction timeline with
  | nil => simp [agendaOf] at hmove
  | cons item rest ih =>
      cases item with
      | scheduled scheduled =>
          simp only [agendaOf, List.mem_cons, reduceCtorEq, false_or] at hmove
          exact ih hmove
      | transferItem transfer =>
          simp only [agendaOf, List.mem_cons, Entry.move.injEq] at hmove
          rcases hmove with rfl | hrest
          · exact Int.natCast_nonneg _
          · exact ih hrest
      | transferDict transfer =>
          simp only [agendaOf] at hmove
          split at hmove
          · exact ih hmove
          · simp only [List.mem_cons, Entry.move.injEq] at hmove
            rcases hmove with rfl | hrest
            · exact Int.natCast_nonneg _
            · exact ih hrest

/-! ## Routing a cluster -/

theorem opensWithTrip_of_visits {timeline : List TimelineItem}
    (hvisits : ∀ item ∈ timeline, IsVisitItem item) : opensWithTrip timeline = false := by
  cases timeline with
  | nil => rfl
  | cons item rest => cases hvisits item List.mem_cons_self <;> rfl

/-- The timeline of a cluster entered at `startTime`, as an agenda, can be
placed from there and is taken exactly up to the clock. -/
structure InStep (startTime : ℤ) (state : ClusterState σ) : Prop where
  follows : FollowsFrom (some startTime) (agendaOf state.timeline)
  taken : frontier (some startTime) (agendaOf state.timeline) = some state.currentTime

section Cluster

variable (ctx : DayContext σ) {startTime : ℤ} {state : ClusterState σ}

theorem agendaOf_append_leg (timeline : List TimelineItem) (transfer : TransferItem) :
    agendaOf (timeline ++ [.transferDict transfer]) =
      agendaOf timeline ++ [.move transfer.durationMinutes] :=
  agendaOf_append timeline [.transferDict transfer] rfl

theorem InStep.append_leg (hstep : InStep startTime state) (transfer : TransferItem) :
    FollowsFrom (some startTime) (agendaOf (state.timeline ++ [.transferDict transfer])) ∧
      frontier (some startTime) (agendaOf (state.timeline ++ [.transferDict transfer])) =
        some (state.currentTime + transfer.durationMinutes) := by
  rw [agendaOf_append_leg, followsFrom_append, frontier_append, hstep.taken]
  exact ⟨⟨hstep.follows, trivial⟩, rfl⟩

theorem InStep.approachPlace (hstep : InStep startTime state) (place : Place) :
    InStep startTime (approachPlace ctx state place) := by
  unfold Optimizer.approachPlace
  split
  · exact hstep
  · obtain ⟨hfollows, htaken⟩ := hstep.append_leg (approachTransfer ctx state place)
    exact ⟨hfollows, htaken⟩

theorem InStep.schedulePlace (hstep : InStep startTime state) (place : Place) {begins : ℤ}
    (hbegin : state.currentTime ≤ begins) :
    InStep startTime (schedulePlace state place begins) := by
  have hagenda := agendaOf_append state.timeline
    [.scheduled (.activity (placeActivity place begins))] rfl
  constructor
  · simp only [Optimizer.schedulePlace, hagenda, followsFrom_append]
    refine ⟨hstep.follows, ?_, ?_, trivial⟩
    · rw [hstep.taken]
      intro moment hmoment
      cases hmoment
      exact hbegin
    · exact le_add_of_nonneg_right (Int.natCast_nonneg _)
  · simp only [Optimizer.schedulePlace, hagenda, frontier_append, hstep.taken]
    rfl

theorem InStep.visitPlace (hstep : InStep startTime state) (place : Place) :
    InStep startTime (visitPlace ctx state place).value := by
  have hreached := hstep.approachPlace ctx place
  simp only [Optimizer.visitPlace]
  split
  · rename_i begins hbegin
    exact hreached.schedulePlace place (le_of_chooseStart_eq_some hbegin)
  · exact hreached

theorem InStep.init (service : σ) (cluster : Cluster) (first : Place) (startTime : ℤ) :
    InStep startTime (clusterInit service cluster first startTime) where
  follows := trivial
  taken := rfl

end Cluster

/-- The traveller at the first place to visit. -/
def atFirstPlace (ctx : DayContext σ) (service : σ) (cluster : Cluster) (first place : Place)
    (startTime : ℤ) : ClusterState σ :=
  approachPlace ctx (clusterInit service cluster first startTime) place

/-- How long the first activity of a cluster waits for its hours, if there is one. -/
def clusterWait (ctx : DayContext σ) (service : σ) (cluster : Cluster) (startTime : ℤ) :
    Option ℤ :=
  match cluster.places with
  | [] => none
  | first :: _ =>
      (activityPlaces ctx.settings cluster startTime).head?.bind fun place =>
        let reached := atFirstPlace ctx service cluster first place startTime
        (chooseStart ctx reached.currentTime place).map (· - reached.currentTime)

theorem returnToHotel_of_no_activities (ctx : DayContext σ) (cluster : Cluster)
    {state : ClusterState σ} (hnone : state.activities = []) :
    returnToHotel ctx cluster state = state := by
  unfold returnToHotel
  split
  · rfl
  · simp [hnone]

/-- The timeline of a routed cluster can be placed from the clock it was
entered with. -/
theorem routeClusterWithTimeWindows_follows (ctx : DayContext σ) (service : σ)
    (cluster : Cluster) (startTime : ℤ) :
    FollowsFrom (some startTime)
      (agendaOf (routeClusterWithTimeWindows ctx service cluster startTime).timeline) := by
  cases hplaces : cluster.places with
  | nil =>
      simp only [routeClusterWithTimeWindows, hplaces]
      trivial
  | cons first rest =>
      simp only [routeClusterWithTimeWindows, hplaces]
      have hvisited : InStep startTime (visitedState ctx service cluster first startTime) :=
        forBreak_invariant (fun state place hstep => hstep.visitPlace ctx place)
          (activityPlaces ctx.settings cluster startTime)
          (InStep.init service cluster first startTime)
      rcases returnToHotel_timeline ctx cluster
        (visitedState ctx service cluster first startTime) with hsame | ⟨transfer, hback⟩
      · rw [hsame]
        exact hvisited.follows
      · rw [hback]
        exact (hvisited.append_leg transfer).1

section FirstPlace

variable (ctx : DayContext σ) (service : σ) (cluster : Cluster) (first place : Place)
  (startTime : ℤ)

theorem activities_atFirstPlace :
    (atFirstPlace ctx service cluster first place startTime).activities = [] := by
  unfold atFirstPlace approachPlace
  split <;> rfl

theorem lead_atFirstPlace :
    lead (agendaOf (atFirstPlace ctx service cluster first place startTime).timeline) =
      none := by
  unfold atFirstPlace approachPlace
  split <;> rfl

theorem lead_schedule_atFirstPlace (begins : ℤ) :
    lead (agendaOf (schedulePlace (atFirstPlace ctx service cluster first place startTime)
        place begins).timeline) =
      some (startTime +
        (begins - (atFirstPlace ctx service cluster first place startTime).currentTime)) := by
  unfold atFirstPlace approachPlace
  split
  · simp [schedulePlace, clusterInit, agendaOf, lead, placeActivity, Scheduled.startTime]
  · simp [schedulePlace, clusterInit, agendaOf, lead, placeActivity, Scheduled.startTime,
      opensWithTrip]
    ring

theorem visitPlace_first :
    visitPlace ctx (clusterInit service cluster first startTime) place =
      match chooseStart ctx (atFirstPlace ctx service cluster first place startTime).currentTime
          place with
      | some begins =>
          .yield (schedulePlace (atFirstPlace ctx service cluster first place startTime) place
            begins)
      | none => .done (atFirstPlace ctx service cluster first place startTime) :=
  rfl

/-- What a routed cluster schedules first starts when the clock and the wait for
its hours say. -/
theorem lead_routeClusterWithTimeWindows :
    lead (agendaOf (routeClusterWithTimeWindows ctx service cluster startTime).timeline) =
      (clusterWait ctx service cluster startTime).map (startTime + ·) := by
  cases hplaces : cluster.places with
  | nil =>
      simp only [routeClusterWithTimeWindows, clusterWait, hplaces]
      rfl
  | cons first rest =>
      simp only [routeClusterWithTimeWindows, clusterWait, hplaces, visitedState]
      cases hactive : activityPlaces ctx.settings cluster startTime with
      | nil =>
          rw [forBreak_nil, returnToHotel_of_no_activities ctx cluster rfl]
          rfl
      | cons place later =>
          have hfirst := visitPlace_first ctx service cluster first place startTime
          rw [List.head?_cons, Option.bind_some]
          cases hchoose : chooseStart ctx
              (atFirstPlace ctx service cluster first place startTime).currentTime place with
          | none =>
              -- the first place does not fit: the loop ends with nothing scheduled
              rw [hchoose] at hfirst
              rw [forBreak_cons_of_done hfirst, returnToHotel_of_no_activities ctx cluster
                (activities_atFirstPlace ctx service cluster first place startTime),
                lead_atFirstPlace]
              rfl
          | some begins =>
              rw [hchoose] at hfirst
              rw [forBreak_cons_of_yield hfirst]
              obtain ⟨tail, htail, hvisits⟩ := exists_append_of_return ctx cluster later
                (schedulePlace (atFirstPlace ctx service cluster first place startTime) place
                  begins)
              rw [htail, agendaOf_append _ tail (opensWithTrip_of_visits hvisits)]
              exact lead_append_of_eq_some _
                (lead_schedule_atFirstPlace ctx service cluster first place startTime begins)

end FirstPlace

/-! ## Routing a day -/

/-- The moment up to which the day is taken. -/
def taken (state : DayState σ) : Option ℤ := frontier none (agendaOf state.timeline)

/-- How far the day is taken beyond its clock. -/
def overrun (state : DayState σ) : Option ℤ := (taken state).map (· - state.currentTime)

/-- How long after the clock the next cluster schedules something, not counting
the transfers before it: a long trip at once, else the first activity. -/
def firstWait (ctx : DayContext σ) (state : DayState σ) (cluster : Cluster) : Option ℤ :=
  match enterCluster ctx state cluster with
  | .done _ => none
  | .yield entered =>
      if 180 ≤ entered.currentTime - state.currentTime then some 0
      else clusterWait ctx entered.service cluster entered.currentTime

/-- What the next cluster schedules first waits at least for the overrun. -/
def AwaitsOverrun (ctx : DayContext σ) (state : DayState σ) (cluster : Cluster) : Prop :=
  ∀ late ∈ overrun state, ∀ wait ∈ firstWait ctx state cluster, late ≤ wait

/-- A trip to a home base is a stay if it is long and a move otherwise. -/
theorem agendaOf_inbound (transfer : TransferItem) (currentTime : ℤ) {tail : List TimelineItem}
    (htail : opensWithTrip tail = false) :
    agendaOf (.transferDict transfer ::
        ((tripActivities transfer currentTime).map .scheduled ++ tail)) =
      (if 180 ≤ transfer.durationMinutes then
          .stay currentTime (currentTime + transfer.durationMinutes)
        else .move transfer.durationMinutes) :: agendaOf tail := by
  cases htrip : createIntercityActivity transfer currentTime with
  | none =>
      have hshort := short_of_createIntercityActivity_eq_none htrip
      simp [tripActivities, htrip, agendaOf, htail, hshort]
  | some trip =>
      obtain ⟨hlong, -, hstart, hend⟩ := createIntercityActivity_eq_some htrip
      simp [tripActivities, htrip, agendaOf, opensWithTrip, hlong, Scheduled.startTime,
        Scheduled.endTime, hstart, hend]

/-- One iteration adds entries that can be placed from the clock, the first of
them after the wait. -/
theorem routeCluster_adds (ctx : DayContext σ) (state : DayState σ) (cluster : Cluster) :
    ∃ added, (routeCluster ctx state cluster).value.timeline = state.timeline ++ added ∧
      opensWithTrip added = false ∧
      FollowsFrom (some state.currentTime) (agendaOf added) ∧
      lead (agendaOf added) = (firstWait ctx state cluster).map (state.currentTime + ·) := by
  have hcases := enterCluster_cases ctx state cluster
  unfold routeCluster firstWait
  rcases hcases with ⟨service, hdone⟩ | ⟨location, service, hyield⟩ |
    ⟨transfer, location, service, hpos, hyield⟩
  · rw [hdone]
    exact ⟨[], by simp [ForInStep.value], rfl, trivial, rfl⟩
  · rw [hyield]
    have hvisits := routeClusterWithTimeWindows_visits ctx service cluster state.currentTime
    refine ⟨_, ?_, opensWithTrip_of_visits hvisits,
      routeClusterWithTimeWindows_follows ctx service cluster state.currentTime, ?_⟩
    · simp only [ForInStep.value, addRoute_of_visits hvisits]
    · simpa using lead_routeClusterWithTimeWindows ctx service cluster state.currentTime
  · rw [hyield]
    have hvisits := routeClusterWithTimeWindows_visits ctx service cluster
      (state.currentTime + transfer.durationMinutes)
    have hfollows := routeClusterWithTimeWindows_follows ctx service cluster
      (state.currentTime + transfer.durationMinutes)
    have hlead := lead_routeClusterWithTimeWindows ctx service cluster
      (state.currentTime + transfer.durationMinutes)
    have hagenda := agendaOf_inbound transfer state.currentTime (opensWithTrip_of_visits hvisits)
    refine ⟨.transferDict transfer :: ((tripActivities transfer state.currentTime).map .scheduled ++
      (routeClusterWithTimeWindows ctx service cluster
        (state.currentTime + transfer.durationMinutes)).timeline), ?_, rfl, ?_, ?_⟩
    · simp [ForInStep.value, recordInbound, addRoute_of_visits hvisits]
    · rw [hagenda]
      split
      · refine ⟨fun moment hmoment => ?_, ?_, hfollows⟩
        · cases hmoment
          exact le_refl _
        · exact le_add_of_nonneg_right (Int.natCast_nonneg _)
      · exact hfollows
    · rw [hagenda]
      simp only [recordInbound, add_sub_cancel_left, Nat.ofNat_le_cast]
      split
      · simp [lead]
      · simp only [lead, hlead, Option.map_map]
        congr 1
        funext wait
        simp only [Function.comp_apply]
        ring

/-- The iterations that keep the agenda in order are those whose first item
waits for the overrun. -/
theorem routeCluster_follows_iff (ctx : DayContext σ) (state : DayState σ) (cluster : Cluster) :
    FollowsFrom none (agendaOf (routeCluster ctx state cluster).value.timeline) ↔
      FollowsFrom none (agendaOf state.timeline) ∧ AwaitsOverrun ctx state cluster := by
  obtain ⟨added, hadded, hopens, hfollows, hlead⟩ := routeCluster_adds ctx state cluster
  have hwait : (∀ moment ∈ taken state, ∀ latest ∈ lead (agendaOf added), moment ≤ latest) ↔
      AwaitsOverrun ctx state cluster := by
    simp only [hlead, AwaitsOverrun, overrun, Option.mem_map, forall_exists_index, and_imp,
      forall_apply_eq_imp_iff₂]
    simp only [sub_le_iff_le_add']
  rw [hadded, agendaOf_append _ added hopens, followsFrom_append,
    followsFrom_iff_lead (frontier _ _)]
  rw [followsFrom_iff_lead] at hfollows
  rw [← hwait]
  exact and_congr_right fun _ => and_iff_right hfollows.1

theorem follows_dayInit (ctx : DayContext σ) (service : σ) (clusters : List Cluster)
    (previous : Option Location) (dayNumber : ℤ) :
    FollowsFrom none (agendaOf (dayInit ctx service clusters previous dayNumber).timeline) := by
  unfold dayInit
  dsimp only
  split
  · split
    · simp [agendaOf, FollowsFrom, Scheduled.startTime, Scheduled.endTime, checkIn]
    · trivial
  · trivial

/-- The free block of a day with time left. -/
theorem freeBlocks_agenda (ctx : DayContext σ) (request : DayRequest) (state : DayState σ) :
    (closeDay ctx request state).value.freeBlocks.map
        (fun block => Entry.stay block.startTime block.endTime) =
      if state.currentTime < ctx.dailyWindow.stop then
        [.stay state.currentTime ctx.dailyWindow.stop]
      else [] := by
  simp only [closeDay, generateFreeBlocksEnhanced]
  split <;> rfl

/-- The items and free blocks of a routed day are in order, with room for the
transfers between them, exactly when every cluster's first item waits for the
day's overrun and no overrun is left where the free block starts. -/
theorem routeDayEnhanced_inOrder_iff (ctx : DayContext σ) (service : σ) (request : DayRequest) :
    InOrder (dayAgenda (routeDayEnhanced ctx service request).value) ↔
      Along (routeCluster ctx) (fun state cluster _ => AwaitsOverrun ctx state cluster)
          request.assignedClusters
          (dayInit ctx service request.assignedClusters request.previousDayEndLocation
            request.dayNumber) ∧
        ((routedState ctx service request).currentTime < ctx.dailyWindow.stop →
          ∀ late ∈ overrun (routedState ctx service request), late ≤ 0) := by
  have hloop : FollowsFrom none (agendaOf (routedState ctx service request).timeline) ↔
      Along (routeCluster ctx) (fun state cluster _ => AwaitsOverrun ctx state cluster)
        request.assignedClusters
        (dayInit ctx service request.assignedClusters request.previousDayEndLocation
          request.dayNumber) :=
    (forBreak_iff_along (I := fun _ => True)
      (G := fun state : DayState σ => FollowsFrom none (agendaOf state.timeline))
      (fun _ _ _ => trivial) (fun state cluster _ _ => routeCluster_follows_iff ctx state cluster)
      request.assignedClusters _ trivial).trans
      (and_iff_right (follows_dayInit ctx service _ _ _))
  have hagenda : dayAgenda (routeDayEnhanced ctx service request).value =
      agendaOf (routedState ctx service request).timeline ++
        if (routedState ctx service request).currentTime < ctx.dailyWindow.stop then
          [.stay (routedState ctx service request).currentTime ctx.dailyWindow.stop]
        else [] := by
    rw [← freeBlocks_agenda ctx request]
    rfl
  rw [inOrder_iff_followsFrom, hagenda, followsFrom_append, hloop]
  · refine and_congr_right fun _ => ?_
    split
    · rename_i hfree
      simp [FollowsFrom, hfree, hfree.le, overrun, taken]
    · rename_i hfull
      simp [FollowsFrom, hfull]
  · intro length hmove
    rcases List.mem_append.mp hmove with htimeline | hblocks
    · exact nonneg_of_move_mem_agendaOf htimeline
    · obtain ⟨block, -, hblock⟩ := List.mem_map.mp hblocks
      cases hblock

/-- A park ten minutes from the hotel, on a day that starts at the hotel. The
visit is from 09:10 to 10:10 and the way back takes until 10:20, but the clock is
still at 09:00 and the whole window becomes free time. -/
theorem routeDayEnhanced_freeBlock_overlaps :
    ¬ InOrder (dayAgenda (routeDayEnhanced
      (.steady { distanceKm := 556 / 100, durationMinutes := 10 } { start := 540, stop := 1080 })
      ()
      { date := 1
        assignedClusters := [.parkNearHotel]
        previousDayEndLocation := some (.onEquator 0)
        dayNumber := 2 }).value) := by
  intro hin
  exact absurd hin.apart (by decide +kernel)

end Goveling.Optimizer
