/-
# Where the base of a day says it comes from

`assign_home_base_to_clusters` writes down where the base of a cluster comes from, and a day shows
it with the base of its first cluster. The modes that cut clusters into smaller ones hand on the
base and not its source. So what a day shows is the source of the cluster it was opened with just
when the mode has not cut it: always in the intensive mode, never in the relaxed one.
-/

import Goveling.Math.Matching
import Goveling.Optimizer.HomeBases
import Goveling.Optimizer.Packing
import Goveling.Optimizer.TripLoop

namespace Goveling.Optimizer

open Goveling.Math Goveling.Python

universe u

/-! ## What becomes of a cluster -/

/-- The modes of `allocate_clusters_to_days`. -/
inductive DistributionMode
  | relaxed | balanced | intensive
  deriving DecidableEq

/-- The mode for some clusters and dates. -/
def distributionMode (clusters : List Cluster) (startDate endDate : ℤ) : DistributionMode :=
  let numDays := endDate - startDate + 1
  let totalPlaces := (clusters.map fun cluster => cluster.places.length).sum
  let daysPerPlaceRatio : ℚ := numDays / (totalPlaces ⊔ 1 : ℕ)
  if 3 / 2 ≤ daysPerPlaceRatio then .relaxed
  else if 4 / 5 ≤ daysPerPlaceRatio then .balanced
  else .intensive

/-- The mode puts the cluster on a day as it is. -/
def keepsWhole (globe : Globe) (mode : DistributionMode) (cluster : Cluster) : Bool :=
  match mode with
  | .relaxed => false
  | .balanced =>
      cluster.places.length = 1 ||
        (evaluateRouteSequences globe cluster.places
          cluster.homeBase).optimizationSuggestion = .groupSameDay
  | .intensive => true

/-- A smaller cluster with some of the places of another one. -/
def CutFrom (part origin : Cluster) : Prop :=
  ∃ label centroid places, places ⊆ origin.places ∧
    part = miniCluster origin label centroid places

/-- The cluster of the trip that an allocated one is or was cut from. -/
def CameFrom (clusters : List Cluster) (part origin : Cluster) : Prop :=
  origin ∈ clusters ∧ (part = origin ∨ CutFrom part origin)

/-- An allocated cluster is one of the trip that is kept, or was cut from one that is not. -/
def Tracked (kept : Cluster → Bool) (clusters : List Cluster) (part : Cluster) : Prop :=
  ∃ origin ∈ clusters,
    kept origin = true ∧ part = origin ∨ kept origin = false ∧ CutFrom part origin

/-- All allocated clusters have a property. -/
def AllAllocated (P : Cluster → Prop) (assignments : DayAssignments) : Prop :=
  ∀ part ∈ assignments.values.flatten, P part

section Allocation

variable {P : Cluster → Prop} {assignments next : DayAssignments}

theorem AllAllocated.push (hall : AllAllocated P assignments) (day : ℤ) {cluster : Cluster}
    (hcluster : P cluster) : AllAllocated P (assignments.push day cluster) := by
  intro part hpart
  rcases OrderedMap.mem_flatten_values_push hpart with rfl | hbefore
  · exact hcluster
  · exact hall part hbefore

theorem AllAllocated.assignLeastLoaded (hall : AllAllocated P assignments) {cluster : Cluster}
    (hcluster : P cluster) (hnext : assignLeastLoaded assignments cluster = .ok next) :
    AllAllocated P next := by
  obtain ⟨minDay, -, hpushed⟩ := exists_of_bind_eq_ok hnext
  cases hpushed
  exact hall.push minDay hcluster

theorem AllAllocated.assignSingle (hall : AllAllocated P assignments) {dayKeys : List ℤ}
    {cluster : Cluster} {suffix : String} {item : Place × ℕ}
    (hmini : ∀ label centroid, P (miniCluster cluster label centroid [item.1]))
    (hnext : assignSingle dayKeys cluster suffix assignments item = .ok next) :
    AllAllocated P next := by
  obtain ⟨day, -, hpushed⟩ := exists_of_bind_eq_ok hnext
  cases hpushed
  exact hall.push day (hmini _ _)

theorem AllAllocated.relaxedPlace {dayKeys : List ℤ} {cluster : Cluster}
    {state after : DayAssignments × ℕ} {place : Place} (hall : AllAllocated P state.1)
    (hmini : ∀ label centroid, P (miniCluster cluster label centroid [place]))
    (hnext : relaxedPlace dayKeys cluster state place = .ok after) : AllAllocated P after.1 := by
  unfold Optimizer.relaxedPlace at hnext
  dsimp only at hnext
  split at hnext
  · cases hnext
    exact hall.push _ (hmini _ _)
  · obtain ⟨assigned, hassigned, hpure⟩ := exists_of_bind_eq_ok hnext
    cases hpure
    exact hall.assignLeastLoaded (hmini _ _) hassigned

theorem mem_of_mem_pairSlices {places slice : List Place} (hslice : slice ∈ pairSlices places) :
    slice ⊆ places := by
  intro place hplace
  rw [← flatten_pairSlices places]
  exact List.mem_flatten.mpr ⟨slice, hslice, hplace⟩

variable {clusters : List Cluster}

/-- The relaxed mode cuts every cluster. -/
theorem distributeRelaxedMode_tracked
    (hall : AllAllocated (Tracked (fun _ => false) clusters) assignments)
    (hnext : distributeRelaxedMode clusters assignments = .ok next) :
    AllAllocated (Tracked (fun _ => false) clusters) next := by
  obtain ⟨last, hlast, hpure⟩ := exists_of_bind_eq_ok hnext
  cases hpure
  refine foldlM_invariant
    (fun state : DayAssignments × ℕ => AllAllocated (Tracked (fun _ => false) clusters) state.1)
    ?_ hall hlast
  intro state cluster after hcluster hstate hafter
  refine foldlM_invariant
    (fun state : DayAssignments × ℕ => AllAllocated (Tracked (fun _ => false) clusters) state.1)
    ?_ hstate hafter
  intro inner place later hplace hinner hlater
  refine hinner.relaxedPlace (fun label centroid => ?_) hlater
  exact ⟨cluster, hcluster, .inr ⟨rfl, label, centroid, [place], by simpa using hplace, rfl⟩⟩

/-- Placing a cluster's places one by one allocates smaller clusters only. -/
theorem AllAllocated.assignSingles (hall : AllAllocated P assignments) {dayKeys : List ℤ}
    {cluster : Cluster} {suffix : String} {places : List Place}
    (hplaces : places ⊆ cluster.places)
    (hminis : ∀ label centroid part, part ⊆ cluster.places →
      P (miniCluster cluster label centroid part))
    (hnext : places.zipIdx.foldlM (Optimizer.assignSingle dayKeys cluster suffix) assignments =
      .ok next) : AllAllocated P next := by
  refine foldlM_invariant _ ?_ hall hnext
  intro state item after hitem hstate hafter
  refine hstate.assignSingle (fun label centroid => hminis label centroid _ ?_) hafter
  simpa using hplaces (List.fst_mem_of_mem_zipIdx hitem)

/-- One cluster in the balanced mode is kept or cut. -/
theorem balancedCluster_tracked {globe : Globe} {dayKeys : List ℤ} {cluster : Cluster}
    (hcluster : cluster ∈ clusters)
    (hall : AllAllocated (Tracked (keepsWhole globe .balanced) clusters) assignments)
    (hnext : balancedCluster globe dayKeys assignments cluster = .ok next) :
    AllAllocated (Tracked (keepsWhole globe .balanced) clusters) next := by
  unfold balancedCluster at hnext
  split at hnext
  · rename_i hsingle
    refine hall.assignLeastLoaded ⟨cluster, hcluster, .inl ⟨?_, rfl⟩⟩ hnext
    simp [keepsWhole, hsingle]
  · rename_i hseveral
    have hcut : ∀ suggestion, (evaluateRouteSequences globe cluster.places
        cluster.homeBase).optimizationSuggestion = suggestion → suggestion ≠ .groupSameDay →
          ∀ label centroid part, part ⊆ cluster.places →
            Tracked (keepsWhole globe .balanced) clusters
              (miniCluster cluster label centroid part) := by
      intro suggestion hsuggestion hother label centroid part hpart
      refine ⟨cluster, hcluster, .inr ⟨?_, label, centroid, part, hpart, rfl⟩⟩
      simp [keepsWhole, hseveral, hsuggestion, hother]
    dsimp only at hnext
    split at hnext
    · cases hnext
    · split at hnext
      · rename_i hsuggestion
        refine hall.assignLeastLoaded ⟨cluster, hcluster, .inl ⟨?_, rfl⟩⟩ hnext
        simp [keepsWhole, hsuggestion]
      · rename_i hsuggestion
        refine foldlM_invariant _ ?_ hall hnext
        intro state slice after hslice hstate hafter
        refine hstate.assignLeastLoaded (hcut _ hsuggestion nofun _ _ _ ?_) hafter
        exact mem_of_mem_pairSlices (List.fst_mem_of_mem_zipIdx hslice)
      · rename_i hsuggestion
        exact hall.assignSingles (sortedBy_perm _ _).subset (hcut _ hsuggestion nofun) hnext
      · rename_i hsuggestion
        exact hall.assignSingles (List.Subset.refl _) (hcut _ hsuggestion nofun) hnext
      · rename_i hsuggestion
        exact hall.assignSingles (List.Subset.refl _) (hcut _ hsuggestion nofun) hnext

theorem allAllocated_emptyAssignments (startDate endDate : ℤ) :
    AllAllocated P (emptyAssignments startDate endDate) := by
  intro part hpart
  simp [OrderedMap.values, entries_emptyAssignments] at hpart

/-- What the allocation puts on the days is tracked. -/
theorem allocateClustersToDays_tracked {globe : Globe} {startDate endDate : ℤ}
    (hnext : allocateClustersToDays globe clusters startDate endDate = .ok next) :
    AllAllocated (Tracked (keepsWhole globe (distributionMode clusters startDate endDate))
      clusters) next := by
  have hempty := fun kept => @allAllocated_emptyAssignments (Tracked kept clusters)
    startDate endDate
  unfold allocateClustersToDays at hnext
  unfold distributionMode
  dsimp only at hnext ⊢
  split
  · rename_i hrelaxed
    rw [if_pos hrelaxed] at hnext
    exact distributeRelaxedMode_tracked (hempty _) hnext
  · rename_i hfew
    rw [if_neg hfew] at hnext
    split
    · rename_i hbalanced
      rw [if_pos hbalanced] at hnext
      refine foldlM_invariant _ ?_ (hempty _) hnext
      intro state cluster after hcluster hstate hafter
      exact balancedCluster_tracked hcluster hstate hafter
    · rename_i hfewer
      rw [if_neg hfewer] at hnext
      refine foldlM_invariant _ ?_ (hempty _) hnext
      intro state cluster after hcluster hstate hafter
      exact hstate.assignLeastLoaded ⟨cluster, hcluster, .inl ⟨rfl, rfl⟩⟩ hafter

/-- No strategy puts anything on a day that was not on one. -/
theorem AllAllocated.packed {settings : Settings} {strategy : PackingStrategy}
    (hall : AllAllocated P assignments)
    (hnext : packActivitiesByStrategy settings strategy assignments = .ok next) :
    AllAllocated P next := by
  cases strategy with
  | clusterFirst =>
      cases hnext
      exact hall
  | compact =>
      cases hnext
      obtain ⟨idx, hfilled⟩ := packCompact_filled settings assignments
      obtain ⟨dropped, hperm, -⟩ := hfilled.placed_perm
      exact fun part hpart => hall part (hperm.symm.subset (List.mem_append_left _ hpart))
  | balanced =>
      obtain ⟨packed, hpacked, -, hperm⟩ := packBalanced_conserves assignments
      cases hpacked.symm.trans hnext
      exact fun part hpart => hall part (hperm.subset hpart)

end Allocation

/-! ## What the days show -/

section Days

variable {σ : Type u} (ctx : TripContext σ) (assignments : DayAssignments)

/-- The day is for the date, and one with clusters shows the base of the first. -/
def IsDayOf (date : ℤ × ℕ) (day : DayRecord) : Prop :=
  day.date = date.1 ∧ ∀ first ∈ (assignments.bucket date.1).head?,
    day.base = buildEnhancedBaseInfo first ctx.noOriginalAccommodations

theorem planDate_days (hotel : Option Location) (state : TripState σ) (date : ℤ × ℕ) :
    ∃ after day, planDate ctx assignments hotel state date = .yield after ∧
      after.days = state.days ++ [day] ∧ IsDayOf ctx assignments date day := by
  unfold planDate IsDayOf
  cases hbucket : assignments.bucket date.1 with
  | nil =>
      refine ⟨_, _, rfl, rfl, rfl, ?_⟩
      rintro first ⟨⟩
  | cons cluster rest =>
      refine ⟨_, _, rfl, rfl, rfl, ?_⟩
      rintro first ⟨⟩
      rfl

/-- The loop plans a day for every date. -/
theorem forBreak_planDate_days (hotel : Option Location) (dates : List (ℤ × ℕ))
    (state : TripState σ) :
    ∃ planned, (forBreak (planDate ctx assignments hotel) dates state).days =
        state.days ++ planned ∧ List.Forall₂ (IsDayOf ctx assignments) dates planned := by
  induction dates generalizing state with
  | nil => exact ⟨[], (List.append_nil _).symm, .nil⟩
  | cons date rest ih =>
      obtain ⟨after, day, hyield, hdays, hday⟩ := planDate_days ctx assignments hotel state date
      obtain ⟨planned, hplanned, hall⟩ := ih after
      refine ⟨day :: planned, ?_, .cons hday hall⟩
      rw [forBreak_cons_of_yield hyield, hplanned, hdays, List.append_assoc, List.cons_append,
        List.nil_append]

/-- The transfers between the days change neither their dates nor their bases. -/
theorem classicDays_days (service : σ) :
    ∃ planned, (classicDays ctx service assignments).value.map
        (fun day => (day.date, day.base)) = planned.map (fun day => (day.date, day.base)) ∧
      List.Forall₂ (IsDayOf ctx assignments) (sortedDates assignments).zipIdx planned := by
  obtain ⟨planned, hplanned, hall⟩ := forBreak_planDate_days ctx assignments
    (firstDayHotel assignments (sortedDates assignments)) (sortedDates assignments).zipIdx
    (tripInit service)
  refine ⟨planned, ?_, hall⟩
  have hdays : (planDays ctx service assignments).days = planned := hplanned
  rw [← hdays]
  exact map_inject ctx.globe ctx.services ctx.settings (fun day => (day.date, day.base))
    (fun _ _ => rfl) (planDays ctx service assignments).service
    (planDays ctx service assignments).days

/-- Every date with clusters is shown with the base of the first. -/
theorem forall_classicDays_iff (service : σ) {Q : Cluster → Option BaseInfo → Prop} :
    (∀ day ∈ (classicDays ctx service assignments).value,
        ∀ first ∈ (assignments.bucket day.date).head?, Q first day.base) ↔
      ∀ date ∈ assignments.keys, ∀ first ∈ (assignments.bucket date).head?,
        Q first (buildEnhancedBaseInfo first ctx.noOriginalAccommodations) := by
  obtain ⟨planned, hshown, hall⟩ := classicDays_days ctx assignments service
  have hdates : (∀ date ∈ (sortedDates assignments).zipIdx,
      ∀ first ∈ (assignments.bucket date.1).head?,
        Q first (buildEnhancedBaseInfo first ctx.noOriginalAccommodations)) ↔
      ∀ day ∈ planned, ∀ first ∈ (assignments.bucket day.date).head?, Q first day.base := by
    refine forall_mem_iff_of_forall₂ ?_ hall
    rintro date day ⟨hdate, hbase⟩
    rw [hdate]
    apply forall₂_congr
    intro first hfirst
    rw [hbase first hfirst]
  have hsorted : (sortedDates assignments).Perm assignments.keys := sortedBy_perm id _
  calc (∀ day ∈ (classicDays ctx service assignments).value,
        ∀ first ∈ (assignments.bucket day.date).head?, Q first day.base)
      ↔ ∀ shown ∈ (classicDays ctx service assignments).value.map
          (fun day => (day.date, day.base)),
          ∀ first ∈ (assignments.bucket shown.1).head?, Q first shown.2 := by
        rw [List.forall_mem_map]
    _ ↔ ∀ day ∈ planned, ∀ first ∈ (assignments.bucket day.date).head?, Q first day.base := by
        rw [hshown]
        exact List.forall_mem_map
    _ ↔ ∀ date ∈ (sortedDates assignments).zipIdx.map Prod.fst,
          ∀ first ∈ (assignments.bucket date).head?,
            Q first (buildEnhancedBaseInfo first ctx.noOriginalAccommodations) := by
        rw [List.forall_mem_map]
        exact hdates.symm
    _ ↔ ∀ date ∈ assignments.keys, ∀ first ∈ (assignments.bucket date).head?,
          Q first (buildEnhancedBaseInfo first ctx.noOriginalAccommodations) := by
        rw [List.zipIdx_map_fst]
        exact forall_congr' fun date => imp_congr_left hsorted.mem_iff

end Days

/-! ## The trip -/

/-- What a trip is planned from, up to the services. -/
structure TripRun where
  clusters : List Cluster
  accommodations : List HomeBase
  allPlaces : List ListedPlace
  startDate : ℤ
  endDate : ℤ
  strategy : PackingStrategy

namespace TripRun

variable {σ : Type u} (ctx : TripContext σ) (services : HotelServices) (run : TripRun)

/-- The clusters as `assign_home_base_to_clusters` leaves them. -/
def housed : List Cluster :=
  assignHomeBaseToClusters ctx.globe services run.clusters run.accommodations run.allPlaces

/-- The mode that the clusters are distributed in. -/
def mode : DistributionMode :=
  distributionMode (run.housed ctx services) run.startDate run.endDate

/-- The clusters of every date: the allocation, packed. -/
def assignments : Except PyError DayAssignments := do
  let allocated ← allocateClustersToDays ctx.globe (run.housed ctx services) run.startDate
    run.endDate
  packActivitiesByStrategy ctx.settings run.strategy allocated

/-- A day shows the source of the base of the cluster that its first place came from. -/
def ShowsSource (first : Cluster) (base : Option BaseInfo) : Prop :=
  ∀ origin, CameFrom (run.housed ctx services) first origin →
    ∃ info, base = some info ∧ info.recommendationSource = origin.homeBaseSource ∧
      info.autoRecommended =
        ["recommended", "auto_recommended_by_system"].contains origin.homeBaseSource

/-- Every day with places shows where its base comes from. -/
def ShowsSources (service : σ) : Prop :=
  ∀ assigned, run.assignments ctx services = .ok assigned →
    ∀ day ∈ (classicDays ctx service assigned).value,
      ∀ first ∈ (assigned.bucket day.date).head?, run.ShowsSource ctx services first day.base

/-- No day is opened with a part of a cluster that its mode has cut. -/
def OpensWhole : Prop :=
  ∀ assigned, run.assignments ctx services = .ok assigned →
    ∀ date ∈ assigned.keys, ∀ first ∈ (assigned.bucket date).head?,
      ∀ origin, CameFrom (run.housed ctx services) first origin →
        keepsWhole ctx.globe (run.mode ctx services) origin = true

end TripRun

section Trip

variable {σ : Type u} {ctx : TripContext σ} {services : HotelServices} {run : TripRun}

theorem homeBaseSource_of_cutFrom {part origin : Cluster} (hcut : CutFrom part origin) :
    part.homeBaseSource = "none" := by
  obtain ⟨label, centroid, places, -, rfl⟩ := hcut
  rfl

/-- What is put on the days is tracked. -/
theorem tracked_of_assignments {assigned : DayAssignments}
    (hassigned : run.assignments ctx services = .ok assigned) {date : ℤ} {first : Cluster}
    (hfirst : first ∈ (assigned.bucket date).head?) :
    Tracked (keepsWhole ctx.globe (run.mode ctx services)) (run.housed ctx services) first := by
  obtain ⟨allocated, hallocated, hpacked⟩ := exists_of_bind_eq_ok hassigned
  have hall := (allocateClustersToDays_tracked hallocated).packed hpacked
  apply hall
  exact OrderedMap.mem_flatten_values_of_mem_bucket (List.mem_of_mem_head? hfirst)

/-- A cluster of the trip was not cut from another one. -/
theorem eq_of_cameFrom {clusters : List Cluster} {first origin : Cluster}
    (hhoused : ∀ cluster ∈ clusters, Housed cluster) (hfirst : first ∈ clusters)
    (hcame : CameFrom clusters first origin) : first = origin := by
  rcases hcame.2 with heq | hcut
  · exact heq
  · have hsource := (hhoused first hfirst).source
    rw [homeBaseSource_of_cutFrom hcut] at hsource
    exact absurd hsource (by decide)

/-- A day shows the right source exactly when the cluster it opens with was not cut. -/
theorem showsSource_iff (hhoused : ∀ cluster ∈ run.housed ctx services, Housed cluster)
    {first : Cluster} (htracked : Tracked (keepsWhole ctx.globe (run.mode ctx services))
      (run.housed ctx services) first) :
    run.ShowsSource ctx services first (buildEnhancedBaseInfo first false) ↔
      ∀ origin, CameFrom (run.housed ctx services) first origin →
        keepsWhole ctx.globe (run.mode ctx services) origin = true := by
  obtain ⟨source, hsource, ⟨hkept, rfl⟩ | ⟨hcut, hpart⟩⟩ := htracked
  · -- The cluster is one of the trip, and so the only one it came from.
    obtain ⟨base, hbase⟩ := Option.ne_none_iff_exists'.mp (hhoused first hsource).base
    constructor
    · intro _ origin hcame
      rwa [← eq_of_cameFrom hhoused hsource hcame]
    · intro _ origin hcame
      obtain rfl := eq_of_cameFrom hhoused hsource hcame
      refine ⟨_, by rw [buildEnhancedBaseInfo, hbase]; rfl, rfl, ?_⟩
      simp
  · have hcame : CameFrom (run.housed ctx services) first source := ⟨hsource, .inr hpart⟩
    constructor
    · intro hshows
      obtain ⟨info, hinfo, hnamed, -⟩ := hshows source hcame
      obtain ⟨base, -, rfl⟩ := Option.map_eq_some_iff.mp hinfo
      have hnone : first.homeBaseSource = source.homeBaseSource := hnamed
      rw [homeBaseSource_of_cutFrom hpart] at hnone
      have hmem := (hhoused source hsource).source
      rw [← hnone] at hmem
      exact absurd hmem (by decide)
    · intro hwhole
      rw [hwhole source hcame] at hcut
      cases hcut

end Trip

/-- The days of a trip that had accommodations show where their bases come from exactly when no
day opens with a part of a cluster that was cut. -/
theorem showsSources_iff {σ : Type u} (ctx : TripContext σ) (services : HotelServices)
    (service : σ) (run : TripRun)
    (hfresh : ∀ cluster ∈ run.clusters, cluster.homeBase = none)
    (horiginal : ctx.noOriginalAccommodations = false) :
    run.ShowsSources ctx services service ↔ run.OpensWhole ctx services := by
  have hhoused : ∀ cluster ∈ run.housed ctx services, Housed cluster :=
    housed_assignHomeBaseToClusters hfresh
  apply forall₂_congr
  intro assigned hassigned
  rw [forall_classicDays_iff, horiginal]
  apply forall₂_congr
  intro date hdate
  apply forall₂_congr
  intro first hfirst
  exact showsSource_iff hhoused (tracked_of_assignments hassigned hfirst)

/-- Trips of one place from day to day, in the balanced mode or in the relaxed one. -/
def museumTrip (endDate : ℤ) : TripRun where
  clusters := [museumCluster]
  accommodations := []
  allPlaces := [hotelAt "Hotel" (1 / 100)]
  startDate := 1
  endDate := endDate
  strategy := .balanced

/-- A trip along the equator whose request had accommodations. -/
def equatorTrip : TripContext Unit where
  globe := .equatorial
  services := degreeServices
  settings := degreeContext.settings
  timeWindow := { start := 540, stop := 1080 }
  transportMode := .drive

/-- One place on one day: the mode is balanced and keeps its cluster. -/
theorem showsSources_museumTrip : (museumTrip 1).ShowsSources equatorTrip .silent () :=
  (showsSources_iff equatorTrip .silent () (museumTrip 1) (by decide) rfl).mpr (by
    intro assigned hassigned date hdate first hfirst origin hcame
    obtain ⟨horigin, -⟩ := hcame
    revert origin
    decide +kernel)

/-- The museum with the hotel it has found. -/
def housedMuseum : Cluster := museumCluster.takeListed (hotelAt "Hotel" (1 / 100))

/-- The museum as the relaxed mode allocates it. -/
def relaxedMuseum : Cluster :=
  miniCluster housedMuseum "relaxed_Museo" (.onEquator 0) museumCluster.places

/-- One place and two days: the mode is relaxed, and the first day does not show that its hotel was
detected among the places. -/
theorem not_showsSources_museumTrip : ¬ (museumTrip 2).ShowsSources equatorTrip .silent () := by
  intro hshows
  have hassigned : (museumTrip 2).assignments equatorTrip .silent =
      .ok ((OrderedMap.empty.set 1 [relaxedMuseum]).set 2 []) := by
    decide +kernel
  have hfirst := (forall_classicDays_iff equatorTrip _ ()).mp (hshows _ hassigned) 1
    (by decide +kernel) relaxedMuseum rfl
  have hcame : CameFrom ((museumTrip 2).housed equatorTrip .silent) relaxedMuseum housedMuseum :=
    ⟨by decide +kernel, .inr ⟨_, _, _, List.Subset.refl _, rfl⟩⟩
  obtain ⟨info, hinfo, hsource, -⟩ := hfirst housedMuseum hcame
  cases hinfo
  revert hsource
  decide +kernel

end Goveling.Optimizer
