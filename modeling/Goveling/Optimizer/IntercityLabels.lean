/-
# Which transfers are called intercity

More than thirty kilometres make a transfer intercity. The optimizer makes transfers in
four places, and each labels them in its own way: trips to a home base are all recorded as
intercity, legs inside a cluster and back to the hotel never are, and between the days it is
the distance of the bases that counts. So the labels are right exactly when the routed
distances happen to suit the place.
-/

import Goveling.Optimizer.BetweenDays
import Goveling.Optimizer.DayTotals
import Goveling.Optimizer.TripLoop

namespace Goveling.Optimizer

open Goveling.Math Goveling.Python

universe u

variable {σ : Type u}

/-! ## Labels -/

/-- A record of a transfer is called intercity just when it is long. -/
def RecordLabelled (record : TransferRecord) : Prop :=
  record.type = "intercity_transfer" ↔ intercityKm < record.distanceKm

/-- So is an item of a timeline. -/
def ItemLabelled (transfer : TransferItem) : Prop :=
  transfer.isIntercity = true ↔ intercityKm < transfer.distanceKm

/-- The transfers of a day are called intercity just when they are long, and the totals count
those that are called so. -/
structure DayLabelled (day : DayRecord) : Prop where
  records : ∀ record ∈ day.transfers, RecordLabelled record
  items : ∀ transfer ∈ timelineTransfers day.timeline, ItemLabelled transfer
  totals : IntercityAgrees day

/-! ## Inside a cluster -/

/-- A leg that is not between cities. -/
def ShortLeg (transfer : TransferItem) : Prop := transfer.distanceKm ≤ intercityKm

/-- The legs of a cluster have the right label exactly when they are short. -/
theorem forall_itemLabelled_route_iff (ctx : DayContext σ) (service : σ) (cluster : Cluster)
    (startTime : ℤ) :
    (∀ transfer ∈ timelineTransfers
        (routeClusterWithTimeWindows ctx service cluster startTime).timeline,
        ItemLabelled transfer) ↔ LegsMeet ctx ShortLeg service cluster startTime := by
  rw [forall_routeCluster_iff]
  apply legsMeet_congr
  intro state eta destination fromPlace toPlace isReturnToHotel
  simp [ItemLabelled, ShortLeg, legTransfer]

/-! ## Between clusters -/

/-- The trip to the home base of a cluster that is placed on the day: it fits, and it takes a
minute or more. -/
def placedTrip? (ctx : DayContext σ) (state : DayState σ) (cluster : Cluster) :
    Option TransferItem :=
  match state.currentLocation, cluster.homeBase with
  | some here, some base =>
      let built := buildEnhancedTransfer ctx.services ctx.settings state.service here
        base.location ctx.transportMode cluster
      if atBaseKm < ctx.globe.haversineKm here base.location ∧
          state.currentTime + built.value.durationMinutes ≤ ctx.dailyWindow.stop ∧
          0 < built.value.durationMinutes then some built.value
      else none
  | _, _ => none

/-- A built transfer knows whether it is intercity. -/
theorem itemLabelled_buildEnhancedTransfer (services : Services σ) (settings : Settings)
    (service : σ) (origin destination : Location) (transportMode : TransportMode)
    (targetCluster : Cluster) :
    ItemLabelled (buildEnhancedTransfer services settings service origin destination transportMode
      targetCluster).value := by
  simp [ItemLabelled, buildEnhancedTransfer]

/-- The activity of a long trip is not one more transfer. -/
theorem timelineTransfers_trip (transfer : TransferItem) (currentTime : ℤ) :
    timelineTransfers ((tripActivities transfer currentTime).map .scheduled) = [] := by
  unfold tripActivities
  cases createIntercityActivity transfer currentTime <;> rfl

section Cluster

variable (ctx : DayContext σ) (state : DayState σ) (cluster : Cluster)

theorem itemLabelled_placedTrip {trip : TransferItem}
    (htrip : placedTrip? ctx state cluster = some trip) : ItemLabelled trip := by
  unfold placedTrip? at htrip
  split at htrip
  · dsimp only at htrip
    split at htrip
    · cases htrip
      exact itemLabelled_buildEnhancedTransfer _ _ _ _ _ _ _
    · cases htrip
  · cases htrip

/-- Entering a cluster adds its trip to the records and to the timeline. -/
theorem enterCluster_adds :
    (enterCluster ctx state cluster).value.transfers = state.transfers ++
        ((placedTrip? ctx state cluster).map (inboundRecord · state.currentTime)).toList ∧
      timelineTransfers (enterCluster ctx state cluster).value.timeline =
        timelineTransfers state.timeline ++ (placedTrip? ctx state cluster).toList := by
  unfold enterCluster placedTrip?
  cases state.currentLocation with
  | none => simp [ForInStep.value]
  | some here =>
      cases cluster.homeBase with
      | none => simp [ForInStep.value]
      | some base =>
          dsimp only
          split
          · rename_i hfar
            split
            · rename_i hlate
              simp [ForInStep.value, hlate]
            · rename_i hfits
              split
              · rename_i hpos
                simp [ForInStep.value, hfar, hpos, not_lt.mp hfits, recordInbound,
                  timelineTransfers_trip]
              · rename_i hzero
                simp [ForInStep.value, hzero]
          · rename_i hnear
            simp [ForInStep.value, hnear]

end Cluster

/-! ## One day -/

/-- The next cluster has the right labels: the trip to it is long, if one is placed, and the
legs inside it and back to the hotel are short. -/
def ClusterLabelled (ctx : DayContext σ) (state : DayState σ) (cluster : Cluster) : Prop :=
  (∀ trip ∈ placedTrip? ctx state cluster, intercityKm < trip.distanceKm) ∧
    match enterCluster ctx state cluster with
    | .done _ => True
    | .yield entered => LegsMeet ctx ShortLeg entered.service cluster entered.currentTime

/-- The transfers of the day so far have the right labels. -/
def StateLabelled (state : DayState σ) : Prop :=
  (∀ record ∈ state.transfers, RecordLabelled record) ∧
    ∀ transfer ∈ timelineTransfers state.timeline, ItemLabelled transfer

section Day

variable (ctx : DayContext σ)

/-- The record of a trip has the right label when the trip is long. -/
theorem recordLabelled_inboundRecord_iff (transfer : TransferItem) (currentTime : ℤ) :
    RecordLabelled (inboundRecord transfer currentTime) ↔ intercityKm < transfer.distanceKm := by
  simp [RecordLabelled, inboundRecord]

theorem stateLabelled_enterCluster_iff (state : DayState σ) (cluster : Cluster) :
    StateLabelled (enterCluster ctx state cluster).value ↔
      StateLabelled state ∧
        ∀ trip ∈ placedTrip? ctx state cluster, intercityKm < trip.distanceKm := by
  obtain ⟨hrecords, hitems⟩ := enterCluster_adds ctx state cluster
  unfold StateLabelled
  rw [hrecords, hitems, List.forall_mem_append, List.forall_mem_append]
  cases htrip : placedTrip? ctx state cluster with
  | none => simp
  | some trip =>
      have hlabelled := itemLabelled_placedTrip ctx state cluster htrip
      simp only [Option.map_some, Option.toList_some, List.forall_mem_singleton,
        recordLabelled_inboundRecord_iff, Option.mem_def, Option.some.injEq, forall_eq']
      constructor
      · rintro ⟨⟨hold, hlong⟩, hitems, -⟩
        exact ⟨⟨hold, hitems⟩, hlong⟩
      · rintro ⟨⟨hold, hitems⟩, hlong⟩
        exact ⟨⟨hold, hlong⟩, hitems, hlabelled⟩

theorem stateLabelled_routeCluster_iff (state : DayState σ) (cluster : Cluster) :
    StateLabelled (routeCluster ctx state cluster).value ↔
      StateLabelled state ∧ ClusterLabelled ctx state cluster := by
  have henters := stateLabelled_enterCluster_iff ctx state cluster
  unfold routeCluster ClusterLabelled
  cases henter : enterCluster ctx state cluster with
  | done overnight =>
      rw [henter] at henters
      simpa [ForInStep.value] using henters
  | yield entered =>
      rw [henter] at henters
      dsimp only [ForInStep.value] at henters ⊢
      rw [addRoute_of_visits (routeClusterWithTimeWindows_visits ctx _ cluster _), ← and_assoc,
        ← henters, ← forall_itemLabelled_route_iff]
      unfold StateLabelled
      dsimp only
      rw [timelineTransfers_append, List.forall_mem_append, and_assoc]

/-- Every cluster of the day has the right labels. -/
def ClustersLabelled (service : σ) (request : DayRequest) : Prop :=
  Along (routeCluster ctx) (fun state cluster _ => ClusterLabelled ctx state cluster)
    request.assignedClusters
    (dayInit ctx service request.assignedClusters request.previousDayEndLocation
      request.dayNumber)

theorem stateLabelled_routedState_iff (service : σ) (request : DayRequest) :
    StateLabelled (routedState ctx service request) ↔ ClustersLabelled ctx service request := by
  have hinit : StateLabelled (dayInit ctx service request.assignedClusters
      request.previousDayEndLocation request.dayNumber) := by
    unfold StateLabelled
    rw [timelineTransfers_dayInit]
    simp [dayInit]
  exact (forBreak_iff_along (I := fun _ => True) (G := StateLabelled) (fun _ _ _ => trivial)
    (fun state cluster (_ : List Cluster) _ => stateLabelled_routeCluster_iff ctx state cluster)
    request.assignedClusters _ trivial).trans (and_iff_right hinit)

theorem dayLabelled_routeDayEnhanced_iff (service : σ) (request : DayRequest) :
    DayLabelled (routeDayEnhanced ctx service request).value ↔
      ClustersLabelled ctx service request := by
  rw [← stateLabelled_routedState_iff]
  constructor
  · intro hlabelled
    exact ⟨hlabelled.records, hlabelled.items⟩
  · intro hlabelled
    exact ⟨hlabelled.1, hlabelled.2,
      (summaryAgrees_routed ctx service request).toIntercityAgrees⟩

theorem dayLabelled_freeDay (service : σ) (date : ℤ) (origin : Option SuggestionOrigin)
    (inheritedBase : Option BaseInfo) (dayNumber : ℤ) :
    DayLabelled (freeDay ctx service date origin inheritedBase dayNumber).value where
  records := by simp [freeDay]
  items := by simp [freeDay]
  totals := ⟨rfl, rfl⟩

end Day

/-! ## Between the days -/

section Pass

variable (globe : Globe) (services : Services σ) (settings : Settings)

/-- The trip that is added to the later of two days is long, if one is added: the bases are
far apart, and no listed transfer is about as long. -/
def AddsLongTrip (service : σ) (curr next : DayRecord) : Prop :=
  ∀ currBase ∈ curr.base, ∀ nextBase ∈ next.base,
    intercityKm < globe.haversineKm currBase.location nextBase.location →
      (∃ existing ∈ next.transfers,
          similarTransfer (tripKm globe services settings service currBase nextBase) existing) ∨
        intercityKm < tripKm globe services settings service currBase nextBase

theorem recordLabelled_betweenDaysRecord_iff (currBase nextBase : BaseInfo)
    (leg : TransportMode × Eta) :
    RecordLabelled (betweenDaysRecord currBase nextBase leg) ↔ intercityKm < leg.2.distanceKm := by
  simp [RecordLabelled, betweenDaysRecord]

/-- The trip that is missing is long when the one that would be added is. -/
theorem recordLabelled_missingTransfer_iff (service : σ) (curr next : DayRecord) :
    (∀ transfer ∈ (missingTransfer globe services settings service curr next).value,
        RecordLabelled transfer) ↔
      AddsLongTrip globe services settings service curr next := by
  unfold missingTransfer AddsLongTrip
  cases curr.base with
  | none => simp
  | some currBase =>
      cases next.base with
      | none => simp
      | some nextBase =>
          simp only [Option.mem_def, Option.some.injEq, forall_eq']
          by_cases hfar : intercityKm < globe.haversineKm currBase.location nextBase.location
          · by_cases hlisted : next.transfers.any (similarTransfer
                (tripKm globe services settings service currBase nextBase)) = true
            · have hsome := List.any_eq_true.mp hlisted
              unfold tripKm at hlisted
              simp [hfar, hlisted, hsome]
            · have hnone : ¬ ∃ existing ∈ next.transfers, similarTransfer
                  (tripKm globe services settings service currBase nextBase) existing :=
                fun hsome => hlisted (List.any_eq_true.mpr hsome)
              unfold tripKm at hlisted
              rw [if_pos hfar, if_neg hlisted]
              simp only [Option.some.injEq, forall_eq', recordLabelled_betweenDaysRecord_iff,
                hfar, hnone, false_or, forall_const]
              rfl
          · simp [hfar]

theorem dayLabelled_injectPair_iff (service : σ) (curr next : DayRecord) :
    DayLabelled (injectPair globe services settings service curr next).value ↔
      DayLabelled next ∧ AddsLongTrip globe services settings service curr next := by
  rw [← recordLabelled_missingTransfer_iff]
  simp only [injectPair]
  cases hmissing : (missingTransfer globe services settings service curr next).value with
  | none => simp
  | some transfer =>
      have htype := type_of_missing globe services settings
        (show transfer ∈ (missingTransfer globe services settings service curr next).value
          from hmissing)
      simp only [Option.elim_some, Option.mem_def, Option.some.injEq, forall_eq']
      constructor
      · rintro ⟨hrecords, hitems, htotals⟩
        obtain ⟨hlong, hold⟩ := List.forall_mem_cons.mp hrecords
        exact ⟨⟨hold, hitems, (intercityAgrees_addTransfer_iff htype).mp htotals⟩, hlong⟩
      · rintro ⟨⟨hrecords, hitems, htotals⟩, hlong⟩
        exact ⟨List.forall_mem_cons.mpr ⟨hlong, hrecords⟩, hitems,
          (intercityAgrees_addTransfer_iff htype).mpr htotals⟩

end Pass

/-! ## The trip -/

/-- The next date has the right labels; a free day has no transfers. -/
def DateLabelled (ctx : TripContext σ) (assignments : OrderedMap ℤ (List Cluster))
    (hotel : Option Location) (state : TripState σ) (date : ℤ × ℕ) : Prop :=
  assignments.bucket date.1 ≠ [] →
    ClustersLabelled (ctx.dayContext date.1) state.service
      (tripRequest ctx hotel state (assignments.bucket date.1) date)

section Trip

variable (ctx : TripContext σ) (assignments : OrderedMap ℤ (List Cluster))

theorem dayLabelled_planDate_iff (hotel : Option Location) (state : TripState σ)
    (date : ℤ × ℕ) :
    (∀ day ∈ (planDate ctx assignments hotel state date).value.days, DayLabelled day) ↔
      (∀ day ∈ state.days, DayLabelled day) ∧
        DateLabelled ctx assignments hotel state date := by
  unfold planDate DateLabelled
  cases hbucket : assignments.bucket date.1 with
  | nil =>
      dsimp only [ForInStep.value]
      rw [List.forall_mem_append, List.forall_mem_singleton]
      simp [dayLabelled_freeDay]
  | cons cluster rest =>
      dsimp only [ForInStep.value]
      rw [List.forall_mem_append, List.forall_mem_singleton, dayLabelled_routeDayEnhanced_iff]
      simp

/-- Every transfer of a trip is called intercity just when it is longer than thirty kilometres
exactly when every trip to a home base is longer, no leg inside a cluster or back to the
hotel is, and every trip that is added between the days is. -/
theorem dayLabelled_classicDays_iff (service : σ) :
    (∀ day ∈ (classicDays ctx service assignments).value, DayLabelled day) ↔
      Along (planDate ctx assignments (firstDayHotel assignments (sortedDates assignments)))
          (fun state date _ => DateLabelled ctx assignments
            (firstDayHotel assignments (sortedDates assignments)) state date)
          (sortedDates assignments).zipIdx (tripInit service) ∧
        AlongDays ctx.globe ctx.services ctx.settings
          (AddsLongTrip ctx.globe ctx.services ctx.settings)
          (planDays ctx service assignments).service
          (planDays ctx service assignments).days := by
  have hpass := forall_inject_iff ctx.globe ctx.services ctx.settings
    (dayLabelled_injectPair_iff ctx.globe ctx.services ctx.settings)
    (planDays ctx service assignments).service (planDays ctx service assignments).days
  have hloop := forBreak_iff_along (I := fun _ => True)
    (G := fun state : TripState σ => ∀ day ∈ state.days, DayLabelled day)
    (fun _ _ _ => trivial)
    (fun state date (_ : List (ℤ × ℕ)) _ => dayLabelled_planDate_iff ctx assignments
      (firstDayHotel assignments (sortedDates assignments)) state date)
    (sortedDates assignments).zipIdx (tripInit service) trivial
  have hinit : ∀ day ∈ (tripInit service).days, DayLabelled day := by simp [tripInit]
  exact hpass.trans (and_congr_left fun _ => hloop.trans (and_iff_right hinit))

end Trip

/-- Two hotels eleven kilometres apart on one day. -/
def nearHotels : OrderedMap ℤ (List Cluster) :=
  OrderedMap.empty.set 1
    [{ label := "0", centroid := .onEquator 0
       places := [{ name := "Parque", location := .onEquator 0, type := some "park" }]
       homeBase := some { name := "Hotel", location := .onEquator 0 } },
     { label := "1", centroid := .onEquator (1 / 10)
       places := [{ name := "Jardín", location := .onEquator (1 / 10), type := some "park" }]
       homeBase := some { name := "Posada", location := .onEquator (1 / 10) } }]

/-- The short drive from one hotel to the other is recorded as intercity. -/
theorem not_dayLabelled_nearHotels :
    ¬ ∀ day ∈ (classicDays
        { globe := .equatorial
          services := .steady { distanceKm := 12, durationMinutes := 20 }
          settings := {}
          timeWindow := { start := 540, stop := 1080 }
          transportMode := .drive } () nearHotels).value, DayLabelled day := by
  intro hlabelled
  have hlabels := fun day hday => (hlabelled day hday).records
  have hrecords : (classicDays
        { globe := .equatorial
          services := .steady { distanceKm := 12, durationMinutes := 20 }
          settings := {}
          timeWindow := { start := 540, stop := 1080 }
          transportMode := .drive } () nearHotels).value.map
        (fun day => day.transfers.map fun record => (record.type, record.distanceKm)) =
      [[("intercity_transfer", 12)]] := by
    decide +kernel
  obtain ⟨day, hday, hlisted⟩ := List.mem_map.mp (hrecords ▸ List.mem_singleton_self _)
  obtain ⟨record, hrecord, hlabel⟩ := List.mem_map.mp (hlisted ▸ List.mem_singleton_self _)
  rw [Prod.mk.injEq] at hlabel
  have hlong := (hlabels day hday record hrecord).mp hlabel.1
  rw [hlabel.2] at hlong
  exact absurd hlong (by decide)

end Goveling.Optimizer
