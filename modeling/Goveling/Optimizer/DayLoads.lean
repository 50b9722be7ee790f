/-
# How many clusters a day gets

The relaxed mode gives every place a day of its own as long as there are days, and
it is only chosen when there are. The intensive mode puts every cluster on a day
with the fewest. Balanced packing deals the clusters out again, day after day.
-/

import Goveling.Math.Loads
import Goveling.Optimizer.BaseSources

namespace Goveling.Optimizer

open Goveling.Math Goveling.Python

/-- The number of clusters on a day. -/
def clustersOn (assignments : DayAssignments) (day : ℤ) : ℕ := (assignments.bucket day).length

/-- No day has more than one place. -/
def OnePlaceADay (assignments : DayAssignments) : Prop :=
  ∀ day ∈ assignments.keys, ((assignments.bucket day).flatMap Cluster.places).length ≤ 1

/-- The numbers of clusters of any two days are at most one apart. -/
def EvenDays (assignments : DayAssignments) : Prop :=
  Level assignments.keys (clustersOn assignments)

variable {assignments next : DayAssignments} {dayKeys : List ℤ}

theorem gains_push {day : ℤ} (hday : day ∈ assignments.keys) (cluster : Cluster) :
    Gains day (clustersOn assignments) (clustersOn (assignments.push day cluster)) where
  self := by
    unfold clustersOn
    rw [OrderedMap.bucket_push_self hday, List.length_append, List.length_singleton]
  others := by
    intro other hne
    unfold clustersOn
    rw [OrderedMap.bucket_push_of_ne assignments hne]

theorem clustersOn_emptyAssignments (startDate endDate day : ℤ) :
    clustersOn (emptyAssignments startDate endDate) day = 0 := by
  unfold clustersOn OrderedMap.bucket
  cases hget : (emptyAssignments startDate endDate).get? day with
  | none => rfl
  | some value =>
      have hmem := OrderedMap.mem_of_get?_eq_some hget
      rw [entries_emptyAssignments] at hmem
      obtain ⟨date, -, hentry⟩ := List.mem_map.mp hmem
      rw [← (Prod.mk.inj hentry).2]
      rfl

/-! ## The intensive mode -/

theorem evenDays_assignLeastLoaded {cluster : Cluster} (heven : EvenDays assignments)
    (hnext : assignLeastLoaded assignments cluster = .ok next) :
    EvenDays next ∧ next.keys = assignments.keys := by
  obtain ⟨minDay, hmin, hpushed⟩ := exists_of_bind_eq_ok hnext
  cases hpushed
  unfold leastLoadedDay minBy at hmin
  split at hmin
  · rename_i day hargmin
    cases hmin
    refine ⟨?_, OrderedMap.keys_push _ _ _⟩
    unfold EvenDays
    rw [OrderedMap.keys_push]
    apply heven.gains (gains_push (List.argmin_mem hargmin) cluster)
    intro other hother
    exact List.le_of_mem_argmin hother hargmin
  · cases hmin

theorem evenDays_distributeIntensiveMode {clusters : List Cluster} (heven : EvenDays assignments)
    (hnext : distributeIntensiveMode clusters assignments = .ok next) : EvenDays next := by
  refine foldlM_invariant EvenDays ?_ heven hnext
  intro state cluster after _ hstate hafter
  exact (evenDays_assignLeastLoaded hstate hafter).1

/-! ## The relaxed mode -/

/-- As long as there are days, the places get the next ones. -/
theorem dealt_relaxedPlaces (hnodup : dayKeys.Nodup) (cluster : Cluster) {places : List Place}
    {state : DayAssignments × ℕ} (hkeys : state.1.keys = dayKeys)
    (hdealt : Dealt dayKeys (clustersOn state.1) state.2)
    (hroom : state.2 + places.length ≤ dayKeys.length) :
    ∃ after, places.foldlM (relaxedPlace dayKeys cluster) state = .ok after ∧
      after.1.keys = dayKeys ∧ after.2 = state.2 + places.length ∧
      Dealt dayKeys (clustersOn after.1) after.2 := by
  induction places generalizing state with
  | nil => exact ⟨state, rfl, hkeys, rfl, hdealt⟩
  | cons place rest ih =>
      rw [List.length_cons] at hroom
      have hfree : state.2 < dayKeys.length := by omega
      have hday : dayKeys[state.2]? = some dayKeys[state.2] := List.getElem?_eq_getElem hfree
      have hmem : dayKeys[state.2] ∈ state.1.keys := hkeys ▸ List.getElem_mem hfree
      let mini := miniCluster cluster ("relaxed_" ++ String.ofList (place.name.toList.take 20))
        place.location [place]
      have hplace : relaxedPlace dayKeys cluster state place =
          .ok (state.1.push dayKeys[state.2] mini, state.2 + 1) := by
        unfold relaxedPlace
        rw [hday]
        rfl
      have hturn : dayKeys[state.2 % dayKeys.length]? = some dayKeys[state.2] := by
        rw [Nat.mod_eq_of_lt hfree]
        exact hday
      have hdealt' := hdealt.gains hnodup hturn (gains_push hmem mini)
      have hkeys' : (state.1.push dayKeys[state.2] mini).keys = dayKeys :=
        (OrderedMap.keys_push _ _ _).trans hkeys
      obtain ⟨after, hafter, hsame, hcount, hlast⟩ :=
        @ih (state.1.push dayKeys[state.2] mini, state.2 + 1) hkeys' hdealt'
          (by dsimp only; omega)
      refine ⟨after, ?_, hsame, ?_, hlast⟩
      · rw [List.foldlM_cons, hplace]
        exact hafter
      · rw [hcount, List.length_cons]
        omega

theorem dealt_relaxedClusters (hnodup : dayKeys.Nodup) {clusters : List Cluster}
    {state : DayAssignments × ℕ} (hkeys : state.1.keys = dayKeys)
    (hdealt : Dealt dayKeys (clustersOn state.1) state.2)
    (hroom : state.2 + (clusters.map fun cluster => cluster.places.length).sum ≤
      dayKeys.length) :
    ∃ after, clusters.foldlM (fun state cluster =>
        cluster.places.foldlM (relaxedPlace dayKeys cluster) state) state = .ok after ∧
      after.1.keys = dayKeys ∧
      after.2 = state.2 + (clusters.map fun cluster => cluster.places.length).sum ∧
      Dealt dayKeys (clustersOn after.1) after.2 := by
  induction clusters generalizing state with
  | nil => exact ⟨state, rfl, hkeys, rfl, hdealt⟩
  | cons cluster rest ih =>
      rw [List.map_cons, List.sum_cons] at hroom
      obtain ⟨between, hbetween, hkeys', hcount, hdealt'⟩ :=
        dealt_relaxedPlaces hnodup cluster hkeys hdealt
          (show state.2 + cluster.places.length ≤ dayKeys.length by omega)
      obtain ⟨after, hafter, hsame, hcount', hlast⟩ := ih hkeys' hdealt' (by omega)
      refine ⟨after, ?_, hsame, ?_, hlast⟩
      · rw [List.foldlM_cons, hbetween]
        exact hafter
      · rw [hcount', hcount, List.map_cons, List.sum_cons]
        omega

/-- The relaxed mode cuts out clusters of one place. -/
theorem singlePlaces_distributeRelaxedMode {clusters : List Cluster}
    (hall : AllAllocated (fun part => part.places.length = 1) assignments)
    (hnext : distributeRelaxedMode clusters assignments = .ok next) :
    AllAllocated (fun part => part.places.length = 1) next := by
  obtain ⟨last, hlast, hpure⟩ := exists_of_bind_eq_ok hnext
  cases hpure
  refine foldlM_invariant (fun state : DayAssignments × ℕ =>
    AllAllocated (fun part => part.places.length = 1) state.1) ?_ hall hlast
  intro state cluster after _ hstate hafter
  refine foldlM_invariant (fun state : DayAssignments × ℕ =>
    AllAllocated (fun part => part.places.length = 1) state.1) ?_ hstate hafter
  intro inner place later _ hinner hlater
  exact hinner.relaxedPlace (fun _ _ => rfl) hlater

/-- Days with at most one cluster of one place. -/
theorem onePlaceADay_of_clustersOn
    (hall : AllAllocated (fun part => part.places.length = 1) assignments)
    (hfew : ∀ day ∈ assignments.keys, clustersOn assignments day ≤ 1) :
    OnePlaceADay assignments := by
  intro day hday
  have hone := hfew day hday
  unfold clustersOn at hone
  match hbucket : assignments.bucket day with
  | [] => simp
  | [part] =>
      have hpart : part ∈ assignments.bucket day := hbucket ▸ List.mem_singleton_self part
      have hplaces := hall part (OrderedMap.mem_flatten_values_of_mem_bucket hpart)
      simp [hplaces]
  | first :: second :: rest =>
      rw [hbucket] at hone
      simp at hone

/-! ## Balanced packing -/

theorem dealt_balancedSteps (hnodup : dayKeys.Nodup) {clusters : List Cluster} {dealtSoFar : ℕ}
    (hkeys : assignments.keys = dayKeys)
    (hdealt : Dealt dayKeys (clustersOn assignments) dealtSoFar)
    (hnext : (clusters.zipIdx dealtSoFar).foldlM (balancedStep dayKeys) assignments = .ok next) :
    Dealt dayKeys (clustersOn next) (dealtSoFar + clusters.length) := by
  induction clusters generalizing assignments dealtSoFar with
  | nil =>
      cases hnext
      exact hdealt
  | cons cluster rest ih =>
      rw [List.zipIdx_cons, List.foldlM_cons] at hnext
      obtain ⟨between, hbetween, hrest⟩ := exists_of_bind_eq_ok hnext
      obtain ⟨day, hday, hpushed⟩ := exists_of_bind_eq_ok hbetween
      cases hpushed
      have hturn : dayKeys[dealtSoFar % dayKeys.length]? = some day := by
        unfold dayInTurn at hday
        split at hday
        · rename_i found hfound
          cases hday
          exact hfound
        · cases hday
      have hmem : day ∈ assignments.keys := hkeys ▸ List.mem_of_getElem? hturn
      have hlast := ih ((OrderedMap.keys_push _ _ _).trans hkeys)
        (hdealt.gains hnodup hturn (gains_push hmem cluster)) hrest
      rw [List.length_cons, Nat.add_comm rest.length, ← Nat.add_assoc]
      exact hlast

/-- Packing deals out all clusters. -/
theorem packBalanced_dealt (hpacked : packBalanced assignments = .ok next) :
    Dealt assignments.keys (clustersOn next) assignments.values.flatten.length := by
  have hzero : Dealt assignments.keys (clustersOn (clearedDays assignments)) 0 := by
    apply dealt_zero
    intro day _
    unfold clustersOn
    rw [bucket_clearedDays]
    rfl
  have hlast := dealt_balancedSteps assignments.nodup (keys_clearedDays assignments) hzero hpacked
  rwa [Nat.zero_add] at hlast

theorem length_flatten_values_le (hfew : ∀ day ∈ assignments.keys, clustersOn assignments day ≤ 1) :
    assignments.values.flatten.length ≤ assignments.keys.length := by
  rw [← OrderedMap.map_bucket_keys, List.length_flatten, List.map_map]
  have hsum := List.sum_le_card_nsmul (assignments.keys.map (List.length ∘ assignments.bucket)) 1
    (by
      intro load hload
      obtain ⟨day, hday, rfl⟩ := List.mem_map.mp hload
      exact hfew day hday)
  simpa using hsum

/-! ## Allocation and packing -/

/-- The relaxed mode is chosen only when every place can have a day. -/
theorem places_le_of_relaxed {clusters : List Cluster} {startDate endDate : ℤ}
    (hmode : distributionMode clusters startDate endDate = .relaxed) :
    (clusters.map fun cluster => cluster.places.length).sum ≤
      (tripDates startDate endDate).length := by
  unfold distributionMode at hmode
  dsimp only at hmode
  split at hmode
  · rename_i hratio
    generalize (clusters.map fun cluster => cluster.places.length).sum = places at hratio ⊢
    have hpos : (0 : ℚ) < (places ⊔ 1 : ℕ) := by
      exact_mod_cast Nat.lt_of_lt_of_le Nat.one_pos (le_max_right _ _)
    rw [le_div_iff₀ hpos] at hratio
    have hplaces : (places : ℚ) ≤ (places ⊔ 1 : ℕ) := by
      exact_mod_cast le_max_left _ _
    have hdays : ((places : ℤ) : ℚ) ≤ ((endDate - startDate + 1 : ℤ) : ℚ) := by
      push_cast at hratio hplaces hpos ⊢
      linarith
    have hcount : (places : ℤ) ≤ endDate - startDate + 1 := by exact_mod_cast hdays
    unfold tripDates
    rw [List.length_map, List.length_range]
    omega
  · split at hmode <;> cases hmode

theorem allocateClustersToDays_of_relaxed (globe : Globe) {clusters : List Cluster}
    {startDate endDate : ℤ} (hmode : distributionMode clusters startDate endDate = .relaxed) :
    allocateClustersToDays globe clusters startDate endDate =
      distributeRelaxedMode clusters (emptyAssignments startDate endDate) := by
  unfold distributionMode at hmode
  unfold allocateClustersToDays
  dsimp only at hmode ⊢
  split at hmode
  · rename_i hratio
    rw [if_pos hratio]
  · split at hmode <;> cases hmode

theorem allocateClustersToDays_of_intensive (globe : Globe) {clusters : List Cluster}
    {startDate endDate : ℤ} (hmode : distributionMode clusters startDate endDate = .intensive) :
    allocateClustersToDays globe clusters startDate endDate =
      distributeIntensiveMode clusters (emptyAssignments startDate endDate) := by
  unfold distributionMode at hmode
  unfold allocateClustersToDays
  dsimp only at hmode ⊢
  split at hmode
  · cases hmode
  · rename_i hfew
    split at hmode
    · cases hmode
    · rename_i hfewer
      rw [if_neg hfew, if_neg hfewer]

/-- Packing an assignment with one place a day keeps one place a day. -/
theorem packBalanced_onePlaceADay
    (hall : AllAllocated (fun part => part.places.length = 1) assignments)
    (hfew : ∀ day ∈ assignments.keys, clustersOn assignments day ≤ 1) :
    ∃ packed, packBalanced assignments = .ok packed ∧ OnePlaceADay packed := by
  obtain ⟨packed, hpacked, hkeys, hperm⟩ := packBalanced_conserves assignments
  have hdealt := packBalanced_dealt hpacked
  refine ⟨packed, hpacked, onePlaceADay_of_clustersOn ?_ ?_⟩
  · exact fun part hpart => hall part (hperm.subset hpart)
  · intro day hday
    exact hdealt.le_one (length_flatten_values_le hfew) (hkeys ▸ hday)

/-- In the relaxed mode the allocation leaves no day with more than one place, and neither does
balanced packing after it. -/
theorem allocateClustersToDays_relaxed (globe : Globe) {clusters : List Cluster}
    {startDate endDate : ℤ} (hmode : distributionMode clusters startDate endDate = .relaxed) :
    ∃ assigned packed, allocateClustersToDays globe clusters startDate endDate = .ok assigned ∧
      packBalanced assigned = .ok packed ∧ OnePlaceADay assigned ∧ OnePlaceADay packed := by
  have hkeys := keys_emptyAssignments startDate endDate
  have hroom := places_le_of_relaxed hmode
  have hdealtNone : Dealt (tripDates startDate endDate)
      (clustersOn (emptyAssignments startDate endDate)) 0 :=
    dealt_zero fun day _ => clustersOn_emptyAssignments startDate endDate day
  have hstart : (emptyAssignments startDate endDate, 0).1.keys = tripDates startDate endDate :=
    hkeys
  obtain ⟨last, hlast, hsame, hcount, hdealt⟩ :=
    dealt_relaxedClusters (nodup_tripDates startDate endDate) hstart hdealtNone
      (by rwa [Nat.zero_add])
  have hassigned : distributeRelaxedMode clusters (emptyAssignments startDate endDate) =
      .ok last.1 := by
    unfold distributeRelaxedMode
    rw [hkeys]
    dsimp only
    rw [hlast]
    rfl
  have hall : AllAllocated (fun part => part.places.length = 1) last.1 :=
    singlePlaces_distributeRelaxedMode (allAllocated_emptyAssignments startDate endDate) hassigned
  have hfew : ∀ day ∈ last.1.keys, clustersOn last.1 day ≤ 1 := by
    intro day hday
    exact hdealt.le_one (by rwa [hcount, Nat.zero_add]) (hsame ▸ hday)
  obtain ⟨packed, hpacked, hone⟩ := packBalanced_onePlaceADay hall hfew
  refine ⟨last.1, packed, ?_, hpacked, onePlaceADay_of_clustersOn hall hfew, hone⟩
  rw [allocateClustersToDays_of_relaxed globe hmode, hassigned]

/-- In the intensive mode the days have equally many clusters, up to one, before balanced packing
and after it. -/
theorem allocateClustersToDays_intensive (globe : Globe) {clusters : List Cluster}
    {startDate endDate : ℤ} (hmode : distributionMode clusters startDate endDate = .intensive)
    {assigned : DayAssignments}
    (hassigned : allocateClustersToDays globe clusters startDate endDate = .ok assigned) :
    EvenDays assigned ∧ ∃ packed, packBalanced assigned = .ok packed ∧ EvenDays packed := by
  rw [allocateClustersToDays_of_intensive globe hmode] at hassigned
  constructor
  · refine evenDays_distributeIntensiveMode ?_ hassigned
    exact level_of_zero fun day _ => clustersOn_emptyAssignments startDate endDate day
  · obtain ⟨packed, hpacked, hkeys, -⟩ := packBalanced_conserves assigned
    refine ⟨packed, hpacked, ?_⟩
    unfold EvenDays
    rw [hkeys]
    exact (packBalanced_dealt hpacked).level

/-- For all clusters and dates: in the relaxed mode allocation and balanced packing leave no day
with more than one place, and in the intensive mode both leave days whose numbers of clusters are
at most one apart. The intensive mode returns for every trip of at least one day. -/
theorem allocateClustersToDays_spreads (globe : Globe) (clusters : List Cluster)
    (startDate endDate : ℤ) :
    (distributionMode clusters startDate endDate = .relaxed →
      ∃ assigned packed, allocateClustersToDays globe clusters startDate endDate = .ok assigned ∧
        packBalanced assigned = .ok packed ∧ OnePlaceADay assigned ∧ OnePlaceADay packed) ∧
    (distributionMode clusters startDate endDate = .intensive →
      (startDate ≤ endDate →
        ∃ assigned, allocateClustersToDays globe clusters startDate endDate = .ok assigned) ∧
      ∀ assigned, allocateClustersToDays globe clusters startDate endDate = .ok assigned →
        EvenDays assigned ∧ ∃ packed, packBalanced assigned = .ok packed ∧ EvenDays packed) := by
  refine ⟨allocateClustersToDays_relaxed globe, fun hmode => ⟨fun hrange => ?_, ?_⟩⟩
  · have hdays : (emptyAssignments startDate endDate).keys ≠ [] := by
      rw [keys_emptyAssignments]
      exact List.ne_nil_of_mem (mem_tripDates.mpr ⟨le_refl startDate, hrange⟩)
    obtain ⟨assigned, hassigned, -⟩ := distributeIntensiveMode_receives clusters hdays
    exact ⟨assigned, (allocateClustersToDays_of_intensive globe hmode).trans hassigned⟩
  · intro assigned hassigned
    exact allocateClustersToDays_intensive globe hmode hassigned

/-- A museum for two days, and two museums for one. -/
theorem allocateClustersToDays_spreads_museums :
    let museum (name : String) : Cluster :=
      { label := name, centroid := .origin, places := [{ name := name, location := .origin }] }
    (∃ assigned packed, allocateClustersToDays .equatorial [museum "Museo"] 10 11 = .ok assigned ∧
        packBalanced assigned = .ok packed ∧ OnePlaceADay assigned ∧ OnePlaceADay packed) ∧
      ∃ assigned, allocateClustersToDays .equatorial [museum "Museo", museum "Galería"] 10 10 =
        .ok assigned := by
  refine ⟨?_, ?_⟩
  · exact (allocateClustersToDays_spreads .equatorial _ 10 11).1 (by decide +kernel)
  · exact ((allocateClustersToDays_spreads .equatorial _ 10 10).2 (by decide +kernel)).1
      (by decide)

end Goveling.Optimizer
