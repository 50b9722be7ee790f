/-
# The clusters of the places

`cluster_pois` leaves the accommodations out, asks DBSCAN for a label for each of the places and
gathers the places under their labels. Noise has the label `-1`, and each such place gets a label
of its own from its position. So no place is lost and none is in two clusters, whatever DBSCAN
answers, and the cluster that is made for the case that there is none is never made.
-/

import Goveling.Math.OrderedMap
import Goveling.Optimizer.HomeBases
import Goveling.Python.Text

namespace Goveling.Optimizer

open Goveling.Math Goveling.Python

/-! ## Labels -/

/-- The settings of the clustering, with their default values. -/
structure ClusterSettings where
  clusterEpsKmUrban : ℚ := 8
  clusterEpsKmRural : ℚ := 15
  clusterMinSamples : ℕ := 1

/-- `DBSCAN` with the metric `haversine`: a label for each point, from the radius on the unit
sphere, the number of samples and the points. Noise has the label `-1`. -/
structure Dbscan where
  labels : ℚ → ℕ → List Location → List ℤ
  length_labels : ∀ eps samples points, (labels eps samples points).length = points.length

/-- The label of a cluster: one of DBSCAN, or the position of a place that is noise. -/
inductive ClusterLabel
  | group (label : ℤ)
  | noise (index : ℕ)
  deriving DecidableEq

namespace ClusterLabel

/-- The label of the place at an index. -/
def ofAnswer (answer : ℤ × ℕ) : ClusterLabel :=
  if answer.1 = -1 then .noise answer.2 else .group answer.1

/-- The label as it is written. -/
def text : ClusterLabel → String
  | .group label => toString label
  | .noise index => "noise_" ++ toString index

/-- Different labels are written differently: a number has no `n`. -/
theorem text_injective : Function.Injective text := by
  have hmixed : ∀ (label : ℤ) (index : ℕ), toString label ≠ "noise_" ++ toString index := by
    intro label index htexts
    apply not_mem_toString (c := 'n') (by decide) (by decide) label
    rw [htexts, String.toList_append]
    exact List.mem_append_left _ (by decide)
  intro first second htexts
  cases first with
  | group label =>
      cases second with
      | group other => rw [toString_injective htexts]
      | noise index => exact absurd htexts (hmixed label index)
  | noise index =>
      cases second with
      | group label => exact absurd htexts.symm (hmixed label index)
      | noise other => rw [append_toString_inj "noise_" htexts]

/-- Noise is labelled by its position. -/
theorem ofAnswer_eq_noise_iff {answer : ℤ × ℕ} {index : ℕ} :
    ofAnswer answer = .noise index ↔ answer = (-1, index) := by
  obtain ⟨label, position⟩ := answer
  unfold ofAnswer
  split
  · rename_i hnoise
    simp_all
  · rename_i hgroup
    simp_all

end ClusterLabel

/-! ## The clusters -/

/-- `np.max(values) - np.min(values)`. -/
def spanOf (values : List ℚ) : ℚ := values.max?.getD 0 - values.min?.getD 0

/-- `_choose_eps_km`. The root of a sum of squares exceeds a half when the sum exceeds a
quarter. -/
def chooseEpsKm (settings : ClusterSettings) (coordinates : List Location) : ℚ :=
  if coordinates.length < 5 then settings.clusterEpsKmRural
  else
    let latRange := spanOf (coordinates.map Location.lat)
    let lonRange := spanOf (coordinates.map Location.lon)
    if 1 / 4 < latRange ^ 2 + lonRange ^ 2 then settings.clusterEpsKmRural
    else settings.clusterEpsKmUrban

/-- `_calculate_centroid`. -/
def calculateCentroid (places : List Place) : Except PyError Location :=
  if hplaces : places = [] then .error (.zeroDivisionError "division by zero")
  else .ok (meanLocation places hplaces)

/-- The place is not an accommodation by its type; here the case of the type does not matter. -/
def isPoi (place : Place) : Bool := lowerText (place.type.getD "") ≠ "accommodation"

/-- What DBSCAN answers for the places. -/
def dbscanAnswers (settings : ClusterSettings) (dbscan : Dbscan) (pois : List Place) : List ℤ :=
  let coordinates := pois.map Place.location
  let epsRad := chooseEpsKm settings coordinates / 6371
  dbscan.labels epsRad settings.clusterMinSamples coordinates

/-- The labels of the places. -/
def clusterLabels (answers : List ℤ) : List ClusterLabel :=
  answers.zipIdx.map ClusterLabel.ofAnswer

/-- The cluster of a group. -/
def clusterObject (group : ClusterLabel × List (ClusterLabel × Place)) :
    Except PyError Cluster := do
  let clusterPlaces := group.2.map Prod.snd
  let centroid ← calculateCentroid clusterPlaces
  return { label := group.1.text, centroid := centroid, places := clusterPlaces }

/-- `cluster_pois`. -/
def clusterPois (settings : ClusterSettings) (dbscan : Dbscan) (places : List Place) :
    Except PyError (List Cluster) := do
  let pois := places.filter isPoi
  if pois = [] then return []
  let labels := clusterLabels (dbscanAnswers settings dbscan pois)
  let clusters := OrderedMap.gather Prod.fst (labels.zip pois)
  let clusterObjects ← clusters.entries.mapM clusterObject
  if clusterObjects = [] then
    let centroid ← calculateCentroid pois
    return [{ label := "emergency_single", centroid := centroid, places := pois }]
  return clusterObjects

/-- `create_clusters`; the hotel is not looked at. -/
def createClusters (settings : ClusterSettings) (dbscan : Dbscan) (places : List Place)
    (_hotel : Option HomeBase) : Except PyError (List Cluster) :=
  clusterPois settings dbscan places

/-! ## What a clustering is -/

/-- The places with a label, in the order they came in. -/
def placesLabelled (labels : List ClusterLabel) (pois : List Place) (label : ClusterLabel) :
    List Place :=
  ((labels.zip pois).filter fun entry => entry.1 = label).map Prod.snd

/-- The clusters are the places, sorted by their labels. -/
structure Clusters (labels : List ClusterLabel) (pois : List Place) (clusters : List Cluster) :
    Prop where
  perm : (clusters.flatMap Cluster.places).Perm pois
  nodup : (clusters.map Cluster.label).Nodup
  labelled : ∀ cluster ∈ clusters, ∃ label ∈ labels,
    cluster.label = label.text ∧ cluster.places = placesLabelled labels pois label
  covered : ∀ label ∈ labels, ∃ cluster ∈ clusters, cluster.label = label.text
  centred : ∀ cluster ∈ clusters, calculateCentroid cluster.places = .ok cluster.centroid
  unhoused : ∀ cluster ∈ clusters, cluster.homeBase = none

section Groups

variable {labels : List ClusterLabel} {pois : List Place}

theorem calculateCentroid_eq_ok_iff {places : List Place} :
    (∃ centroid, calculateCentroid places = .ok centroid) ↔ places ≠ [] := by
  unfold calculateCentroid
  split
  · rename_i hnil
    simp [hnil]
  · rename_i hplaces
    simp [hplaces]

/-- A group that has places becomes a cluster of these. -/
theorem clusterObject_eq_ok_iff {group : ClusterLabel × List (ClusterLabel × Place)}
    {cluster : Cluster} :
    clusterObject group = .ok cluster ↔
      ∃ centroid, calculateCentroid (group.2.map Prod.snd) = .ok centroid ∧
        cluster =
          { label := group.1.text, centroid := centroid, places := group.2.map Prod.snd } := by
  unfold clusterObject
  cases hcentroid : calculateCentroid (group.2.map Prod.snd) with
  | error e => simp [bind, Except.bind, hcentroid]
  | ok centroid => simp [bind, Except.bind, pure, Except.pure, hcentroid, eq_comm]

/-- No gathered group is without places, so none fails. -/
theorem exists_clusterObjects (labelled : List (ClusterLabel × Place)) :
    ∃ clusters, (OrderedMap.gather Prod.fst labelled).entries.mapM clusterObject =
      .ok clusters := by
  refine (exists_mapM_eq_ok_iff _).mpr fun group hgroup => ?_
  obtain ⟨hne, -⟩ := OrderedMap.mem_entries_gather.mp hgroup
  obtain ⟨centroid, hcentroid⟩ := calculateCentroid_eq_ok_iff.mpr
    (show group.2.map Prod.snd ≠ [] by simpa using hne)
  exact ⟨_, clusterObject_eq_ok_iff.mpr ⟨centroid, hcentroid, rfl⟩⟩

/-- The clusters of the gathered groups are the places, sorted by their labels. -/
theorem clusters_clusterObjects (hlength : labels.length = pois.length)
    {clusters : List Cluster}
    (hclusters : (OrderedMap.gather Prod.fst (labels.zip pois)).entries.mapM clusterObject =
      .ok clusters) :
    Clusters labels pois clusters := by
  have hlabels : clusters.map Cluster.label =
      (OrderedMap.gather Prod.fst (labels.zip pois)).keys.map ClusterLabel.text := by
    rw [OrderedMap.keys, List.map_map]
    refine map_eq_of_mapM_eq_ok (fun group cluster hgroup => ?_) hclusters
    obtain ⟨centroid, -, rfl⟩ := clusterObject_eq_ok_iff.mp hgroup
    rfl
  have hplaces : clusters.map Cluster.places =
      (OrderedMap.gather Prod.fst (labels.zip pois)).values.map fun group =>
        group.map Prod.snd := by
    rw [OrderedMap.values, List.map_map]
    refine map_eq_of_mapM_eq_ok (fun group cluster hgroup => ?_) hclusters
    obtain ⟨centroid, -, rfl⟩ := clusterObject_eq_ok_iff.mp hgroup
    rfl
  have hobjects : ∀ cluster ∈ clusters,
      ∃ group ∈ (OrderedMap.gather Prod.fst (labels.zip pois)).entries, ∃ centroid,
        calculateCentroid (group.2.map Prod.snd) = .ok centroid ∧
          cluster = { label := group.1.text, centroid := centroid
                      places := group.2.map Prod.snd } := by
    intro cluster hcluster
    obtain ⟨group, hgroup, hobject⟩ := (mem_of_mapM_eq_ok hclusters).mp hcluster
    exact ⟨group, hgroup, clusterObject_eq_ok_iff.mp hobject⟩
  refine ⟨?_, ?_, ?_, ?_, ?_, ?_⟩
  · have hgathered := (OrderedMap.flatten_values_gather_perm Prod.fst (labels.zip pois)).map
      Prod.snd
    rw [List.map_snd_zip hlength.ge, List.map_flatten, ← hplaces] at hgathered
    rwa [List.flatMap_def]
  · rw [hlabels]
    exact (OrderedMap.nodup _).map ClusterLabel.text_injective
  · intro cluster hcluster
    obtain ⟨group, hgroup, centroid, -, rfl⟩ := hobjects cluster hcluster
    obtain ⟨hne, hgathered⟩ := OrderedMap.mem_entries_gather.mp hgroup
    refine ⟨group.1, ?_, rfl, by rw [hgathered]; rfl⟩
    obtain ⟨entry, rest, hcons⟩ := List.exists_cons_of_ne_nil hne
    have hentry : entry ∈ (labels.zip pois).filter fun other => other.1 = group.1 := by
      rw [← hgathered, hcons]
      exact List.mem_cons_self
    obtain ⟨hzip, hlabel⟩ := List.mem_filter.mp hentry
    rw [← of_decide_eq_true hlabel]
    exact (List.of_mem_zip hzip).1
  · intro label hlabel
    obtain ⟨index, hindex⟩ := List.mem_iff_getElem?.mp hlabel
    obtain ⟨hlt, -⟩ := List.getElem?_eq_some_iff.mp hindex
    have hentry : (label, pois[index]) ∈ labels.zip pois :=
      List.mem_iff_getElem?.mpr ⟨index, by
        rw [List.getElem?_zip_eq_some]
        exact ⟨hindex, List.getElem?_eq_getElem (hlength ▸ hlt)⟩⟩
    have hgroup : (label, (labels.zip pois).filter fun entry => entry.1 = label) ∈
        (OrderedMap.gather Prod.fst (labels.zip pois)).entries :=
      OrderedMap.mem_entries_gather.mpr
        ⟨List.ne_nil_of_mem (List.mem_filter.mpr ⟨hentry, decide_eq_true rfl⟩), rfl⟩
    have hfound : label.text ∈ clusters.map Cluster.label := by
      rw [hlabels]
      exact List.mem_map_of_mem (List.mem_map_of_mem hgroup)
    exact List.mem_map.mp hfound
  · intro cluster hcluster
    obtain ⟨group, -, centroid, hcentroid, rfl⟩ := hobjects cluster hcluster
    exact hcentroid
  · intro cluster hcluster
    obtain ⟨group, -, centroid, -, rfl⟩ := hobjects cluster hcluster
    rfl

/-- No earlier position is the label of noise. -/
theorem noise_not_mem (answers : List ℤ) {start index : ℕ} (hearlier : index < start) :
    ClusterLabel.noise index ∉ (answers.zipIdx start).map ClusterLabel.ofAnswer := by
  intro hmem
  obtain ⟨answer, hanswer, hnoise⟩ := List.mem_map.mp hmem
  rw [ClusterLabel.ofAnswer_eq_noise_iff] at hnoise
  have hposition := List.le_snd_of_mem_zipIdx hanswer
  rw [hnoise] at hposition
  exact absurd hposition (Nat.not_le.mpr hearlier)

/-- The places labelled with the position of a place that is noise are this place alone. -/
theorem placesLabelled_noise {answers : List ℤ} (start : ℕ) {index : ℕ}
    (hnoise : answers[index]? = some (-1)) :
    placesLabelled ((answers.zipIdx start).map ClusterLabel.ofAnswer) pois
      (.noise (start + index)) = pois[index]?.toList := by
  induction answers generalizing start index pois with
  | nil => cases hnoise
  | cons answer rest ih =>
      cases pois with
      | nil => rfl
      | cons poi pois =>
          unfold placesLabelled
          rw [List.zipIdx_cons, List.map_cons, List.zip_cons_cons, List.filter_cons]
          cases index with
          | zero =>
              rw [List.getElem?_cons_zero] at hnoise
              have hlater := noise_not_mem rest (Nat.lt_succ_self start)
              have hnone : (((rest.zipIdx (start + 1)).map ClusterLabel.ofAnswer).zip
                  pois).filter (fun entry => entry.1 = .noise start) = [] := by
                refine List.filter_eq_nil_iff.mpr fun entry hentry hlabel => ?_
                rw [← of_decide_eq_true hlabel] at hlater
                exact hlater (List.of_mem_zip hentry).1
              have hfirst : ClusterLabel.ofAnswer (answer, start) = .noise start := by
                rw [ClusterLabel.ofAnswer_eq_noise_iff, Option.some.inj hnoise]
              rw [Nat.add_zero, hfirst, if_pos (decide_eq_true rfl), hnone]
              rfl
          | succ index =>
              rw [List.getElem?_cons_succ] at hnoise
              have hfirst : ClusterLabel.ofAnswer (answer, start) ≠
                  .noise (start + (index + 1)) := by
                rw [Ne, ClusterLabel.ofAnswer_eq_noise_iff, Prod.mk.injEq]
                omega
              rw [if_neg (by simpa using hfirst), List.getElem?_cons_succ, ← ih (start + 1) hnoise,
                Nat.add_right_comm, Nat.add_assoc]
              rfl

/-- Noise is a cluster of its own. -/
theorem Clusters.noise_alone {answers : List ℤ} {clusters : List Cluster}
    (hclusters : Clusters (clusterLabels answers) pois clusters) {index : ℕ} {place : Place}
    (hnoise : answers[index]? = some (-1)) (hplace : pois[index]? = some place) :
    ∃ cluster ∈ clusters, cluster.label = "noise_" ++ toString index ∧
      cluster.places = [place] := by
  have hlabel : ClusterLabel.noise index ∈ clusterLabels answers := by
    refine List.mem_map.mpr ⟨(-1, index), ?_, rfl⟩
    exact List.mem_zipIdx_iff_getElem?.mpr hnoise
  obtain ⟨cluster, hcluster, htext⟩ := hclusters.covered _ hlabel
  refine ⟨cluster, hcluster, htext, ?_⟩
  obtain ⟨label, -, hlabelled, hplaces⟩ := hclusters.labelled cluster hcluster
  rw [ClusterLabel.text_injective (hlabelled.symm.trans htext), clusterLabels] at hplaces
  have halone := @placesLabelled_noise pois answers 0 index hnoise
  rw [Nat.zero_add, hplace] at halone
  exact hplaces.trans halone

end Groups

/-! ## The clusters of a trip -/

theorem length_clusterLabels (settings : ClusterSettings) (dbscan : Dbscan) (pois : List Place) :
    (clusterLabels (dbscanAnswers settings dbscan pois)).length = pois.length := by
  rw [clusterLabels, List.length_map, List.length_zipIdx, dbscanAnswers, dbscan.length_labels,
    List.length_map]

/-- `cluster_pois` succeeds, and its clusters are the places that are no accommodations, sorted by
their labels. -/
theorem exists_clusterPois (settings : ClusterSettings) (dbscan : Dbscan) (places : List Place) :
    ∃ clusters, clusterPois settings dbscan places = .ok clusters ∧
      Clusters (clusterLabels (dbscanAnswers settings dbscan (places.filter isPoi)))
        (places.filter isPoi) clusters := by
  obtain ⟨clusters, hobjects⟩ := exists_clusterObjects
    ((clusterLabels (dbscanAnswers settings dbscan (places.filter isPoi))).zip
      (places.filter isPoi))
  have hclusters := clusters_clusterObjects
    (length_clusterLabels settings dbscan (places.filter isPoi)) hobjects
  refine ⟨clusters, ?_, hclusters⟩
  unfold clusterPois
  by_cases hnone : places.filter isPoi = []
  · have hempty : clusters = [] := by
      refine List.eq_nil_iff_forall_not_mem.mpr fun cluster hcluster => ?_
      obtain ⟨label, -, -, hplaces⟩ := hclusters.labelled cluster hcluster
      refine calculateCentroid_eq_ok_iff.mp ⟨_, hclusters.centred cluster hcluster⟩ ?_
      rw [hplaces, placesLabelled, hnone, List.zip_nil_right]
      rfl
    rw [if_pos hnone, hempty]
    rfl
  · have hsome : clusters ≠ [] := by
      rintro rfl
      exact hnone (List.Perm.nil_eq hclusters.perm).symm
    rw [if_neg hnone]
    dsimp only
    rw [hobjects]
    exact if_neg hsome

/-- Whatever DBSCAN answers, `cluster_pois` succeeds, and its clusters are the places that are
no accommodations, sorted by their labels; each place that is noise is a cluster of its own. -/
theorem clusterPois_clusters (settings : ClusterSettings) (dbscan : Dbscan)
    (places : List Place) :
    ∃ clusters, clusterPois settings dbscan places = .ok clusters ∧
      Clusters (clusterLabels (dbscanAnswers settings dbscan (places.filter isPoi)))
        (places.filter isPoi) clusters ∧
      ∀ (index : ℕ) (place : Place),
        (dbscanAnswers settings dbscan (places.filter isPoi))[index]? = some (-1) →
          (places.filter isPoi)[index]? = some place →
            ∃ cluster ∈ clusters, cluster.label = "noise_" ++ toString index ∧
              cluster.places = [place] := by
  obtain ⟨clusters, hclustered, hclusters⟩ := exists_clusterPois settings dbscan places
  exact ⟨clusters, hclustered, hclusters, fun index place => hclusters.noise_alone⟩

end Goveling.Optimizer
