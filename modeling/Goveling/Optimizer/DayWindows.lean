/-
# The window of a date

Every date is planned in a window of its own: the hours of its custom schedule, or those
of the trip. What is put on the timeline of a day starts and ends inside its window, since
each of the three ways to put something there looks at the window: a visit is placed only
if it ends in time, a trip to a home base only if it arrives in time, and the check-in is
the first half hour.
-/

import Goveling.Optimizer.ClusterSchedule

namespace Goveling.Optimizer

open Goveling.Math Goveling.Math.Agenda

universe u

variable {σ : Type u}

/-- Nothing that is scheduled on a timeline starts before a window or ends after it. -/
def InsideWindow (window : TimeWindow) (timeline : List TimelineItem) : Prop :=
  ∀ item : Scheduled, .scheduled item ∈ timeline →
    window.start ≤ item.startTime ∧ item.endTime ≤ window.stop

@[simp]
theorem insideWindow_nil (window : TimeWindow) : InsideWindow window [] := by
  intro item hitem
  cases hitem

theorem insideWindow_append {window : TimeWindow} {first second : List TimelineItem} :
    InsideWindow window (first ++ second) ↔
      InsideWindow window first ∧ InsideWindow window second := by
  unfold InsideWindow
  constructor
  · intro hall
    exact ⟨fun item hitem => hall item (List.mem_append_left _ hitem),
      fun item hitem => hall item (List.mem_append_right _ hitem)⟩
  · rintro ⟨hfirst, hsecond⟩ item hitem
    obtain hitem | hitem := List.mem_append.mp hitem
    · exact hfirst item hitem
    · exact hsecond item hitem

/-- A transfer is not scheduled. -/
theorem insideWindow_transfer_cons {window : TimeWindow} {transfer : TransferItem}
    {rest : List TimelineItem} (hrest : InsideWindow window rest) :
    InsideWindow window (.transferDict transfer :: rest) := by
  intro item hitem
  obtain heq | hitem := List.mem_cons.mp hitem
  · cases heq
  · exact hrest item hitem

/-! ## One cluster -/

section Cluster

variable (ctx : DayContext σ)

/-- The activities of a cluster start when the cluster is entered, or later. -/
theorem le_startTime_of_mem_route {service : σ} {cluster : Cluster} {startTime : ℤ}
    {activity : ActivityItem}
    (hmem : activity ∈ (routeClusterWithTimeWindows ctx service cluster startTime).activities) :
    startTime ≤ activity.startTime := by
  have hvisits := routeClusterWithTimeWindows_visits ctx service cluster startTime
  have hfollows := routeClusterWithTimeWindows_follows ctx service cluster startTime
  have hstays := hfollows.le_stays fun length hmove => nonneg_of_move_mem_agendaOf hmove
  rw [stays_agendaOf_of_visits hvisits,
    ← (activities_routeCluster ctx service cluster startTime).1] at hstays
  exact hstays _ (List.mem_map_of_mem hmem)

/-- What is scheduled on the timeline of a cluster is one of its activities. -/
theorem exists_activity_of_mem_route {service : σ} {cluster : Cluster} {startTime : ℤ}
    {item : Scheduled}
    (hmem : .scheduled item ∈
      (routeClusterWithTimeWindows ctx service cluster startTime).timeline) :
    ∃ activity ∈ (routeClusterWithTimeWindows ctx service cluster startTime).activities,
      item = .activity activity := by
  have hvisit := routeClusterWithTimeWindows_visits ctx service cluster startTime _ hmem
  cases hvisit with
  | visit activity =>
      refine ⟨activity, ?_, rfl⟩
      rw [(activities_routeCluster ctx service cluster startTime).1]
      exact List.mem_filterMap.mpr ⟨_, hmem, rfl⟩

/-- A cluster that is entered inside the window stays inside it. -/
theorem insideWindow_routeCluster (service : σ) (cluster : Cluster) {startTime : ℤ}
    (hstart : ctx.dailyWindow.start ≤ startTime) :
    InsideWindow ctx.dailyWindow
      (routeClusterWithTimeWindows ctx service cluster startTime).timeline := by
  intro item hitem
  obtain ⟨activity, hactivity, rfl⟩ := exists_activity_of_mem_route ctx hitem
  exact ⟨hstart.trans (le_startTime_of_mem_route ctx hactivity),
    ((activities_routeCluster ctx service cluster startTime).2 activity hactivity).2⟩

/-- The clock does not go back behind the time a cluster was entered. -/
theorem le_clock_routeCluster (service : σ) (cluster : Cluster) (startTime : ℤ) :
    startTime ≤ ((routeClusterWithTimeWindows ctx service cluster startTime).timeline.getLast?.bind
      TimelineItem.endTime?).getD startTime := by
  cases hlast :
      (routeClusterWithTimeWindows ctx service cluster startTime).timeline.getLast? with
  | none => exact le_rfl
  | some last =>
      have hmem := List.mem_of_getLast? hlast
      have hvisit := routeClusterWithTimeWindows_visits ctx service cluster startTime _ hmem
      cases hvisit with
      | leg transfer => exact le_rfl
      | visit activity =>
          obtain ⟨found, hfound, heq⟩ := exists_activity_of_mem_route ctx hmem
          cases heq
          have hforward :=
            ((activities_routeCluster ctx service cluster startTime).2 activity hfound).1
          exact (le_startTime_of_mem_route ctx hfound).trans hforward.le

end Cluster

/-! ## One day -/

/-- What the loop over the clusters keeps of the window. -/
structure StaysInWindow (ctx : DayContext σ) (state : DayState σ) : Prop where
  clock : ctx.dailyWindow.start ≤ state.currentTime
  inside : InsideWindow ctx.dailyWindow state.timeline

section Day

variable {ctx : DayContext σ} {state : DayState σ}

/-- A trip that arrives in time is inside the window, also as an activity. -/
theorem StaysInWindow.recordInbound (hstays : StaysInWindow ctx state) {transfer : TransferItem}
    (harrives : state.currentTime + transfer.durationMinutes ≤ ctx.dailyWindow.stop) :
    StaysInWindow ctx (recordInbound state transfer) := by
  constructor
  · exact hstays.clock.trans (Int.le_add_of_nonneg_right (Int.natCast_nonneg _))
  · refine insideWindow_append.mpr ⟨hstays.inside, insideWindow_transfer_cons ?_⟩
    intro item hitem
    obtain ⟨trip, htrip, heq⟩ := List.mem_map.mp hitem
    cases heq
    rw [tripActivities, Option.mem_toList] at htrip
    obtain ⟨activity, hactivity, rfl⟩ := Option.map_eq_some_iff.mp htrip
    obtain ⟨-, -, hstart, hstop⟩ := createIntercityActivity_eq_some hactivity
    exact ⟨hstays.clock.trans_eq hstart.symm, hstop.trans_le harrives⟩

/-- Only a trip that arrives in time lets the day go on. -/
theorem StaysInWindow.enterCluster (hstays : StaysInWindow ctx state) (cluster : Cluster) :
    StaysInWindow ctx (enterCluster ctx state cluster).value := by
  unfold Optimizer.enterCluster
  split
  · split
    · dsimp only
      split
      · exact ⟨hstays.clock, hstays.inside⟩
      · rename_i harrives
        split
        · have hasked : StaysInWindow ctx { state with service := _ } :=
            ⟨hstays.clock, hstays.inside⟩
          obtain ⟨hclock, hinside⟩ := hasked.recordInbound (not_lt.mp harrives)
          exact ⟨hclock, hinside⟩
        · exact ⟨hstays.clock, hstays.inside⟩
    · exact ⟨hstays.clock, hstays.inside⟩
  · exact hstays

theorem StaysInWindow.routeCluster (hstays : StaysInWindow ctx state) (cluster : Cluster) :
    StaysInWindow ctx (routeCluster ctx state cluster).value := by
  have henter := hstays.enterCluster cluster
  unfold Optimizer.routeCluster
  cases hstep : Optimizer.enterCluster ctx state cluster with
  | done overnight =>
      rw [hstep] at henter
      exact henter
  | yield entered =>
      rw [hstep] at henter
      dsimp only [ForInStep.value] at henter ⊢
      rw [addRoute_of_visits (routeClusterWithTimeWindows_visits ctx _ cluster _)]
      constructor
      · exact henter.clock.trans
          (le_clock_routeCluster ctx entered.service cluster entered.currentTime)
      · exact insideWindow_append.mpr
          ⟨henter.inside, insideWindow_routeCluster ctx entered.service cluster henter.clock⟩

/-- There is room for the check-in. -/
theorem staysInWindow_dayInit (hroom : ctx.dailyWindow.start + 30 ≤ ctx.dailyWindow.stop)
    (service : σ) (clusters : List Cluster) (previous : Option Location) (dayNumber : ℤ) :
    StaysInWindow ctx (dayInit ctx service clusters previous dayNumber) := by
  constructor
  · exact Int.le_add_of_nonneg_right (by positivity)
  · unfold dayInit
    dsimp only
    split
    · split
      · intro item hitem
        obtain heq := List.mem_singleton.mp hitem
        cases heq
        exact ⟨le_rfl, hroom⟩
      · exact insideWindow_nil _
    · exact insideWindow_nil _

/-- A routed day is inside its window. -/
theorem insideWindow_routeDayEnhanced
    (hroom : ctx.dailyWindow.start + 30 ≤ ctx.dailyWindow.stop) (service : σ)
    (request : DayRequest) :
    InsideWindow ctx.dailyWindow (routeDayEnhanced ctx service request).value.timeline := by
  have hrouted : StaysInWindow ctx (routedState ctx service request) :=
    forBreak_invariant (fun _ cluster hstays => hstays.routeCluster cluster)
      request.assignedClusters (staysInWindow_dayInit hroom _ _ _ _)
  exact hrouted.inside

end Day

/-! ## The trip -/

section Trip

variable (ctx : TripContext σ) (assignments : OrderedMap ℤ (List Cluster))

/-- A turn of the loop adds the day of its date. -/
theorem exists_day_planDate (hotel : Option Location) (state : TripState σ) (date : ℤ × ℕ) :
    ∃ day next, planDate ctx assignments hotel state date = .yield next ∧
      next.days = state.days ++ [day] ∧ day.date = date.1 ∧
      ((ctx.windowOf date.1).start + 30 ≤ (ctx.windowOf date.1).stop →
        InsideWindow (ctx.windowOf date.1) day.timeline) := by
  unfold planDate
  cases assignments.bucket date.1 with
  | nil => exact ⟨_, _, rfl, rfl, rfl, fun _ => insideWindow_nil _⟩
  | cons cluster rest =>
      refine ⟨_, _, rfl, rfl, rfl, fun hroom => ?_⟩
      exact @insideWindow_routeDayEnhanced _ (ctx.dayContext date.1) hroom _ _

/-- The days of the loop are those of its dates, each inside the window of its date. -/
theorem exists_days_planDates
    (hroom : ∀ date, (ctx.windowOf date).start + 30 ≤ (ctx.windowOf date).stop)
    (hotel : Option Location) (dates : List (ℤ × ℕ)) (state : TripState σ) :
    ∃ days, (forBreak (planDate ctx assignments hotel) dates state).days = state.days ++ days ∧
      days.map DayRecord.date = dates.map Prod.fst ∧
      ∀ day ∈ days, InsideWindow (ctx.windowOf day.date) day.timeline := by
  induction dates generalizing state with
  | nil => exact ⟨[], by simp, rfl, by simp⟩
  | cons date rest ih =>
      obtain ⟨day, next, hyield, hdays, hdate, hinside⟩ :=
        exists_day_planDate ctx assignments hotel state date
      obtain ⟨later, hlater, hdates, hall⟩ := ih next
      refine ⟨day :: later, ?_, ?_, ?_⟩
      · rw [forBreak_cons_of_yield hyield, hlater, hdays, List.append_assoc]
        rfl
      · rw [List.map_cons, List.map_cons, hdate, hdates]
      · rw [List.forall_mem_cons, hdate]
        exact ⟨hinside (hroom date.1), hall⟩

/-- The days of a trip are its dates in their order, each inside the window of its date. -/
theorem windows_classicDays (service : σ)
    (hroom : ∀ date, (ctx.windowOf date).start + 30 ≤ (ctx.windowOf date).stop) :
    (classicDays ctx service assignments).value.map DayRecord.date = sortedDates assignments ∧
      ∀ day ∈ (classicDays ctx service assignments).value,
        InsideWindow (ctx.windowOf day.date) day.timeline := by
  obtain ⟨days, hdays, hdates, hinside⟩ := exists_days_planDates ctx assignments hroom
    (firstDayHotel assignments (sortedDates assignments)) (sortedDates assignments).zipIdx
    (tripInit service)
  have hplanned : (planDays ctx service assignments).days = days := hdays
  have hkept := map_inject ctx.globe ctx.services ctx.settings
    (fun day : DayRecord => (day.date, day.timeline)) (fun _ _ => rfl)
    (planDays ctx service assignments).service (planDays ctx service assignments).days
  rw [hplanned] at hkept
  have hdaysKept : (classicDays ctx service assignments).value.map
      (fun day : DayRecord => (day.date, day.timeline)) =
        days.map fun day : DayRecord => (day.date, day.timeline) := by
    rw [← hkept, ← hplanned]
    rfl
  constructor
  · have hfirst := congrArg (List.map Prod.fst) hdaysKept
    rw [List.map_map, List.map_map] at hfirst
    exact hfirst.trans (hdates.trans (List.zipIdx_map_fst 0 _))
  · intro day hday
    have hmem := List.mem_map_of_mem (f := fun day : DayRecord => (day.date, day.timeline)) hday
    rw [hdaysKept] at hmem
    obtain ⟨planned, hplanned, heq⟩ := List.mem_map.mp hmem
    obtain ⟨hdate, htimeline⟩ := Prod.mk.inj heq
    rw [← hdate, ← htimeline]
    exact hinside planned hplanned

end Trip

end Goveling.Optimizer
