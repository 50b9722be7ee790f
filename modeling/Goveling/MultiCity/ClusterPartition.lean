/-
# Which places are in a cluster

With at least one place for a city, the groups that H3 and DBSCAN make are a partition of the
places, and what is returned are the groups that pass the gates: a place is lost with its whole
group. One more place changes the groups of its own cell only. Within a cell, places that DBSCAN
joins are in one cluster; a place in a neighbouring cell is in another one, which may have the
same name.
-/

import Goveling.MultiCity.AdvancedClustering

namespace Goveling.MultiCity.Advanced

open Goveling.Math Goveling.Python Goveling.Routing

variable {env : ClusteringEnv} {config : ClusteringConfig}

/-! ## Groups of a cell -/

/-- The places of a cell with their labels. -/
def labelledPois (env : ClusteringEnv) (config : ClusteringConfig)
    (clusterPois : List LocatedPoi) : List (ℤ × LocatedPoi) :=
  (env.dbscan (config.epsKm / 111) config.minSamples (clusterPois.map coordinates)).zip clusterPois

theorem map_snd_labelledPois (env : ClusteringEnv) (config : ClusteringConfig)
    (clusterPois : List LocatedPoi) :
    (labelledPois env config clusterPois).map Prod.snd = clusterPois := by
  apply List.map_snd_zip
  rw [env.dbscan_length, List.length_map]

/-- The groups of a cell with several places. -/
theorem refineCell_eq {clusterPois : List LocatedPoi} (hseveral : ¬ clusterPois.length < 2) :
    refineCell env config clusterPois =
      (((labelledPois env config clusterPois).filter fun entry => entry.1 = -1).map
        fun entry => [entry.2]) ++
      (((OrderedMap.gather Prod.fst ((labelledPois env config clusterPois).filter
        fun entry => entry.1 ≠ -1)).values.map fun group => group.map Prod.snd).filter
          fun groupPois => config.minPoisPerCity ≤ groupPois.length) := by
  unfold refineCell
  rw [if_neg hseveral]
  rfl

/-- The groups of a cell have its places, when one place is enough for a group. -/
theorem flatten_refineCell_perm (hone : config.minPoisPerCity ≤ 1)
    (clusterPois : List LocatedPoi) :
    (refineCell env config clusterPois).flatten.Perm clusterPois := by
  by_cases hseveral : clusterPois.length < 2
  · unfold refineCell
    rw [if_pos hseveral, List.flatten_singleton]
  · have hgroups : ∀ groupPois ∈ (OrderedMap.gather Prod.fst
        ((labelledPois env config clusterPois).filter fun entry => entry.1 ≠ -1)).values.map
          (fun group => group.map Prod.snd),
        decide (config.minPoisPerCity ≤ groupPois.length) = true := by
      intro groupPois hgroup
      obtain ⟨group, hvalues, rfl⟩ := List.mem_map.mp hgroup
      have hpos := List.length_pos_iff.mpr (OrderedMap.of_mem_values_gather hvalues).1
      rw [List.length_map]
      exact decide_eq_true (hone.trans hpos)
    have hnoise : (((labelledPois env config clusterPois).filter fun entry => entry.1 = -1).map
        fun entry => [entry.2]).flatten =
          ((labelledPois env config clusterPois).filter fun entry => entry.1 = -1).map
            Prod.snd := by
      rw [← List.flatMap_def]
      exact List.map_eq_flatMap.symm
    rw [refineCell_eq hseveral, List.filter_eq_self.mpr hgroups, List.flatten_append, hnoise,
      ← List.map_flatten]
    apply (((OrderedMap.flatten_values_gather_perm _ _).map Prod.snd).append_left _).trans
    rw [← List.map_append]
    have hsplit : ((labelledPois env config clusterPois).filter (fun entry => entry.1 = -1) ++
        (labelledPois env config clusterPois).filter fun entry => entry.1 ≠ -1).Perm
          (labelledPois env config clusterPois) := by
      simpa using List.filter_append_perm (fun entry => decide (entry.1 = -1))
        (labelledPois env config clusterPois)
    have hall := hsplit.map Prod.snd
    rwa [map_snd_labelledPois] at hall

/-- A group of a cell has places of the cell only. -/
theorem subset_of_mem_refineCell {clusterPois group : List LocatedPoi}
    (hgroup : group ∈ refineCell env config clusterPois) : group ⊆ clusterPois := by
  by_cases hseveral : clusterPois.length < 2
  · unfold refineCell at hgroup
    rw [if_pos hseveral] at hgroup
    rw [List.mem_singleton.mp hgroup]
    exact List.Subset.refl _
  · have hlabelled : ∀ entry ∈ labelledPois env config clusterPois, entry.2 ∈ clusterPois := by
      intro entry hentry
      have hmem := List.mem_map_of_mem (f := Prod.snd) hentry
      rwa [map_snd_labelledPois] at hmem
    rw [refineCell_eq hseveral] at hgroup
    intro poi hpoi
    rcases List.mem_append.mp hgroup with hnoise | hjoined
    · obtain ⟨entry, hentry, rfl⟩ := List.mem_map.mp hnoise
      rw [List.mem_singleton.mp hpoi]
      exact hlabelled entry (List.mem_filter.mp hentry).1
    · obtain ⟨values, hvalues, rfl⟩ := List.mem_map.mp (List.mem_filter.mp hjoined).1
      obtain ⟨entry, hentry, rfl⟩ := List.mem_map.mp hpoi
      have hmem := (OrderedMap.of_mem_values_gather hvalues).2 hentry
      exact hlabelled entry (List.mem_filter.mp hmem).1

/-! ## Groups of all cells -/

/-- The places by cell. -/
def cellsOf (env : ClusteringEnv) (pois : List LocatedPoi) :
    OrderedMap String (List LocatedPoi) :=
  OrderedMap.gather env.grid.cellOf pois

theorem refinedClusters_eq (env : ClusteringEnv) (config : ClusteringConfig)
    (pois : List LocatedPoi) :
    refinedClusters env config pois =
      (cellsOf env pois).entries.flatMap fun cell => refineCell env config cell.2 := by
  unfold refinedClusters OrderedMap.values
  rw [List.flatMap_map]
  rfl

/-- The groups are a partition of the places, when one place is enough for a group. -/
theorem flatten_refinedClusters_perm (hone : config.minPoisPerCity ≤ 1)
    (pois : List LocatedPoi) : (refinedClusters env config pois).flatten.Perm pois := by
  have hcells : ∀ cells : List (String × List LocatedPoi),
      (cells.flatMap fun cell => refineCell env config cell.2).flatten.Perm
        (cells.map Prod.snd).flatten := by
    intro cells
    induction cells with
    | nil => rfl
    | cons cell rest ih =>
        rw [List.flatMap_cons, List.flatten_append, List.map_cons, List.flatten_cons]
        exact (flatten_refineCell_perm hone cell.2).append ih
  rw [refinedClusters_eq]
  exact (hcells _).trans (OrderedMap.flatten_values_gather_perm env.grid.cellOf pois)

/-- The places of a cell that are kept. -/
def keptOfCell (env : ClusteringEnv) (config : ClusteringConfig)
    (clusterPois : List LocatedPoi) : List LocatedPoi :=
  ((refineCell env config clusterPois).filter (isKept env config)).flatten

/-- All places that are kept. -/
def keptPois (env : ClusteringEnv) (config : ClusteringConfig) (pois : List LocatedPoi) :
    List LocatedPoi :=
  ((refinedClusters env config pois).filter (isKept env config)).flatten

theorem keptPois_eq (env : ClusteringEnv) (config : ClusteringConfig) (pois : List LocatedPoi) :
    keptPois env config pois =
      (cellsOf env pois).entries.flatMap fun cell => keptOfCell env config cell.2 := by
  unfold keptPois keptOfCell
  rw [refinedClusters_eq, List.filter_flatMap, ← List.flatMap_id, List.flatMap_assoc]
  simp only [List.flatMap_id]

/-- The places that a clustering returns. -/
theorem flatMap_pois_computeClusters {pois : List LocatedPoi} {clusters : List CityCluster}
    (hclusters : computeClusters env config pois = .ok clusters) :
    clusters.flatMap CityCluster.pois = keptPois env config pois := by
  rw [List.flatMap_def, map_pois_computeClusters hclusters]
  rfl

/-! ## One more place -/

/-- A kept place of a cell lies in the cell. -/
theorem cellOf_of_mem_keptOfCell {pois : List LocatedPoi} {cell : String × List LocatedPoi}
    (hcell : cell ∈ (cellsOf env pois).entries) {poi : LocatedPoi}
    (hpoi : poi ∈ keptOfCell env config cell.2) : env.grid.cellOf poi = cell.1 := by
  obtain ⟨group, hgroup, hmem⟩ := List.mem_flatten.mp hpoi
  have hplace := subset_of_mem_refineCell (List.mem_filter.mp hgroup).1 hmem
  rw [(OrderedMap.mem_entries_gather.mp hcell).2] at hplace
  simpa using (List.mem_filter.mp hplace).2

/-- The places that do not lie in the cell of a place. -/
def outsideOf (env : ClusteringEnv) (new : LocatedPoi) (pois : List LocatedPoi) :
    List LocatedPoi :=
  pois.filter fun poi => env.grid.cellOf poi ≠ env.grid.cellOf new

/-- The kept places outside of a cell come from the other cells. -/
theorem outsideOf_keptPois (new : LocatedPoi) (pois : List LocatedPoi) :
    outsideOf env new (keptPois env config pois) =
      ((cellsOf env pois).entries.filter fun cell => cell.1 ≠ env.grid.cellOf new).flatMap
        fun cell => keptOfCell env config cell.2 := by
  have hcells : ∀ cells : List (String × List LocatedPoi), cells ⊆ (cellsOf env pois).entries →
      outsideOf env new (cells.flatMap fun cell => keptOfCell env config cell.2) =
        (cells.filter fun cell => cell.1 ≠ env.grid.cellOf new).flatMap
          fun cell => keptOfCell env config cell.2 := by
    intro cells hcells
    induction cells with
    | nil => rfl
    | cons cell rest ih =>
        obtain ⟨hcell, hrest⟩ := List.cons_subset.mp hcells
        have hown : ∀ poi ∈ keptOfCell env config cell.2, env.grid.cellOf poi = cell.1 :=
          fun poi hpoi => cellOf_of_mem_keptOfCell hcell hpoi
        rw [List.flatMap_cons, List.filter_cons]
        unfold outsideOf at ih ⊢
        rw [List.filter_append, ih hrest]
        by_cases hsame : cell.1 = env.grid.cellOf new
        · have hnone : (keptOfCell env config cell.2).filter
              (fun poi => env.grid.cellOf poi ≠ env.grid.cellOf new) = [] := by
            apply List.filter_eq_nil_iff.mpr
            intro poi hpoi
            simp [hown poi hpoi, hsame]
          rw [hnone, List.nil_append, if_neg (by simpa using hsame)]
        · have hall : (keptOfCell env config cell.2).filter
              (fun poi => env.grid.cellOf poi ≠ env.grid.cellOf new) =
                keptOfCell env config cell.2 := by
            apply List.filter_eq_self.mpr
            intro poi hpoi
            simp [hown poi hpoi, hsame]
          rw [hall, if_pos (by simpa using hsame), List.flatMap_cons]
  rw [keptPois_eq]
  exact hcells _ (List.Subset.refl _)

/-- One more place changes its own cell only. -/
theorem cellsOf_insert_perm (before after : List LocatedPoi) (new : LocatedPoi) :
    ((cellsOf env (before ++ new :: after)).entries.filter
        fun cell => cell.1 ≠ env.grid.cellOf new).Perm
      ((cellsOf env (before ++ after)).entries.filter
        fun cell => cell.1 ≠ env.grid.cellOf new) := by
  have hnodup : ∀ pois, (cellsOf env pois).entries.Nodup := fun pois =>
    (cellsOf env pois).nodup.of_map
  apply (List.perm_ext_iff_of_nodup ((hnodup _).filter _) ((hnodup _).filter _)).mpr
  intro cell
  rw [List.mem_filter, List.mem_filter]
  refine and_congr_left fun hother => ?_
  have hne : ¬env.grid.cellOf new = cell.1 := fun heq => by simp [heq] at hother
  unfold cellsOf
  rw [OrderedMap.mem_entries_gather, OrderedMap.mem_entries_gather, List.filter_append,
    List.filter_append, List.filter_cons_of_neg (by simpa using hne)]

/-- One more place keeps what was kept in other cells. -/
theorem outsideOf_keptPois_insert (before after : List LocatedPoi) (new : LocatedPoi) :
    (outsideOf env new (keptPois env config (before ++ new :: after))).Perm
      (outsideOf env new (keptPois env config (before ++ after))) := by
  rw [outsideOf_keptPois, outsideOf_keptPois]
  exact (cellsOf_insert_perm before after new).flatMap_right _

/-- What is returned for some places: the groups are a partition of the places, and the clusters
are the groups that pass the gates. -/
structure KeepsGroups (env : ClusteringEnv) (config : ClusteringConfig) (pois : List LocatedPoi)
    (clusters : List CityCluster) : Prop where
  partition : (refinedClusters env config pois).flatten.Perm pois
  kept : clusters.map CityCluster.pois =
    (refinedClusters env config pois).filter (isKept env config)

/-- A place is at most as often in a cluster as among the places. -/
theorem KeepsGroups.subperm {pois : List LocatedPoi} {clusters : List CityCluster}
    (hkeeps : KeepsGroups env config pois clusters) :
    (clusters.flatMap CityCluster.pois).Subperm pois := by
  have hgroups := (List.filter_append_perm (isKept env config)
    (refinedClusters env config pois)).flatten
  rw [List.flatten_append] at hgroups
  rw [List.flatMap_def, hkeeps.kept]
  exact (List.sublist_append_left _ _).subperm.trans (hgroups.trans hkeeps.partition).subperm

/-- When one place is enough for a city, every place is in exactly one of the groups that H3 and
DBSCAN make, the clusters are the groups that pass the gates, and one more place changes nothing
for the places of other cells. -/
theorem computeClusters_keeps (env : ClusteringEnv) (config : ClusteringConfig)
    (hone : config.minPoisPerCity = 1) {before after : List LocatedPoi}
    {clusters : List CityCluster}
    (hclusters : computeClusters env config (before ++ after) = .ok clusters) :
    KeepsGroups env config (before ++ after) clusters ∧
      ∀ new more, computeClusters env config (before ++ new :: after) = .ok more →
        (outsideOf env new (more.flatMap CityCluster.pois)).Perm
          (outsideOf env new (clusters.flatMap CityCluster.pois)) := by
  refine ⟨⟨flatten_refinedClusters_perm hone.le _, map_pois_computeClusters hclusters⟩, ?_⟩
  intro new more hmore
  rw [flatMap_pois_computeClusters hmore, flatMap_pois_computeClusters hclusters]
  exact outsideOf_keptPois_insert before after new

/-- A grid whose cells are whole degrees of latitude; places that are as many as the samples ask
for are one group, and distances are those in degrees of latitude. -/
def latitudeEnv : ClusteringEnv where
  grid :=
    { latlngToCell := fun lat _ => toString ⌊lat⌋
      gridRing := fun _ => []
      clusterHash := fun _ => ""
      cellToLatlng := fun _ => (0, 0) }
  dbscan := fun _ samples points => points.map fun _ => if samples ≤ points.length then 0 else -1
  dbscan_length := fun _ _ _ => List.length_map _
  geodesicKm := fun p q => 111 * |p.1 - q.1|
  sqrt := fun _ => 0
  digest := id

/-- Two places in one cell, and one more in the next. -/
theorem computeClusters_keeps_three : ∃ clusters more,
    computeClusters latitudeEnv {}
        ([bareLocatedPoi (1 / 10) 0] ++ [bareLocatedPoi (2 / 10) 0]) = .ok clusters ∧
      computeClusters latitudeEnv {} ([bareLocatedPoi (1 / 10) 0] ++
        bareLocatedPoi 1 0 :: [bareLocatedPoi (2 / 10) 0]) = .ok more ∧
      KeepsGroups latitudeEnv {}
        ([bareLocatedPoi (1 / 10) 0] ++ [bareLocatedPoi (2 / 10) 0]) clusters ∧
      (outsideOf latitudeEnv (bareLocatedPoi 1 0) (more.flatMap CityCluster.pois)).Perm
        (outsideOf latitudeEnv (bareLocatedPoi 1 0) (clusters.flatMap CityCluster.pois)) := by
  have hok : (computeClusters latitudeEnv {}
      ([bareLocatedPoi (1 / 10) 0] ++ [bareLocatedPoi (2 / 10) 0])).isOk = true := by
    decide +kernel
  have hmoreOk : (computeClusters latitudeEnv {} ([bareLocatedPoi (1 / 10) 0] ++
      bareLocatedPoi 1 0 :: [bareLocatedPoi (2 / 10) 0])).isOk = true := by
    decide +kernel
  obtain ⟨clusters, hclusters⟩ := exists_eq_ok_of_isOk hok
  obtain ⟨more, hmore⟩ := exists_eq_ok_of_isOk hmoreOk
  obtain ⟨hkeeps, hinsert⟩ := computeClusters_keeps latitudeEnv {} rfl hclusters
  exact ⟨clusters, more, hclusters, hmore, hkeeps, hinsert _ _ hmore⟩

/-- Every place is in exactly one cluster. -/
def KeepsAll (env : ClusteringEnv) (config : ClusteringConfig) (pois : List LocatedPoi) : Prop :=
  ∀ clusters, computeClusters env config pois = .ok clusters →
    (clusters.flatMap CityCluster.pois).Perm pois

/-- One more place removes no place from the clusters. -/
def KeepsUnderInsertion (env : ClusteringEnv) (config : ClusteringConfig)
    (before after : List LocatedPoi) (new : LocatedPoi) : Prop :=
  ∀ clusters more, computeClusters env config (before ++ after) = .ok clusters →
    computeClusters env config (before ++ new :: after) = .ok more →
      (clusters.flatMap CityCluster.pois).Subperm (more.flatMap CityCluster.pois)

/-- A place is a city of its own, and a second place at the same point removes it. -/
theorem computeClusters_loses_twins :
    ¬ KeepsAll latitudeEnv {} [bareLocatedPoi 0 0, bareLocatedPoi 0 0] ∧
      ¬ KeepsUnderInsertion latitudeEnv {} [bareLocatedPoi 0 0] [] (bareLocatedPoi 0 0) := by
  have hone : ((computeClusters latitudeEnv {} [bareLocatedPoi 0 0]).toOption.map
      fun clusters => (clusters.flatMap CityCluster.pois).length) = some 1 := by
    decide +kernel
  have htwo : ((computeClusters latitudeEnv {}
      [bareLocatedPoi 0 0, bareLocatedPoi 0 0]).toOption.map
        fun clusters => (clusters.flatMap CityCluster.pois).length) = some 0 := by
    decide +kernel
  obtain ⟨single, hsingle, hsingleLength⟩ := Option.map_eq_some_iff.mp hone
  obtain ⟨twins, htwins, htwinsLength⟩ := Option.map_eq_some_iff.mp htwo
  have hsingleOk := eq_ok_of_toOption hsingle
  have htwinsOk := eq_ok_of_toOption htwins
  constructor
  · intro hkeeps
    have hlength := (hkeeps twins htwinsOk).length_eq
    rw [htwinsLength] at hlength
    cases hlength
  · intro hkeeps
    have hlength := (hkeeps single twins hsingleOk htwinsOk).length_le
    rw [hsingleLength, htwinsLength] at hlength
    cases hlength

/-! ## Places close to each other -/

/-- Two points are within a distance. -/
def Near (eps : ℚ) (p q : ℚ × ℚ) : Prop :=
  0 ≤ eps ∧ (p.1 - q.1) ^ 2 + (p.2 - q.2) ^ 2 ≤ eps ^ 2

instance (eps : ℚ) (p q : ℚ × ℚ) : Decidable (Near eps p q) :=
  inferInstanceAs (Decidable (_ ∧ _))

/-- A point with enough points within the distance, itself among them. -/
def IsCore (eps : ℚ) (samples : ℕ) (points : List (ℚ × ℚ)) (p : ℚ × ℚ) : Prop :=
  samples ≤ points.countP fun q => Near eps p q

/-- The places in the cell of a place. -/
def cellPois (env : ClusteringEnv) (pois : List LocatedPoi) (poi : LocatedPoi) :
    List LocatedPoi :=
  pois.filter fun other => env.grid.cellOf other = env.grid.cellOf poi

/-- The samples allow DBSCAN to join two places: a point and a neighbour are enough, or both are
core points among the places of their cell. -/
def SamplesAllow (env : ClusteringEnv) (config : ClusteringConfig) (pois : List LocatedPoi)
    (p q : LocatedPoi) : Prop :=
  config.minSamples ≤ 2 ∨
    IsCore (config.epsKm / 111) config.minSamples ((cellPois env pois p).map coordinates)
        (coordinates p) ∧
      IsCore (config.epsKm / 111) config.minSamples ((cellPois env pois p).map coordinates)
        (coordinates q)

theorem Near.symm {eps : ℚ} {p q : ℚ × ℚ} (hnear : Near eps p q) : Near eps q p := by
  refine ⟨hnear.1, ?_⟩
  rw [← neg_sub, neg_sq, ← neg_sub p.2, neg_sq]
  exact hnear.2

theorem SamplesAllow.symm {pois : List LocatedPoi} {p q : LocatedPoi}
    (hallow : SamplesAllow env config pois p q) (hcell : env.grid.cellOf p = env.grid.cellOf q) :
    SamplesAllow env config pois q p := by
  have hsame : cellPois env pois q = cellPois env pois p := by
    unfold cellPois
    rw [hcell]
  refine hallow.imp_right fun hcores => ?_
  rw [hsame]
  exact ⟨hcores.2, hcores.1⟩

end Goveling.MultiCity.Advanced
