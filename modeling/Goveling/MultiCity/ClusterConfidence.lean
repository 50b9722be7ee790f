/-
# The confidence in a cluster

The confidence is the mean of four factors: how many places there are, how dense they are, how
good the name is, and how evenly far they are from the centre. It is computed here in any
ordered field, so that the same definition gives the scores of the service in rational numbers
and those in exact real ones. Distances up to a radius deviate from their mean by at most half
of it. So a cluster of three places inside the maximum radius has at least half of the last
factor, and passes the filter.
-/

import Goveling.Math.Dispersion
import Goveling.Math.FirstLeast
import Goveling.MultiCity.AdvancedClustering
import Mathlib.Analysis.Real.Sqrt

namespace Goveling.MultiCity.Advanced

open Goveling.Math Goveling.Python Goveling.Routing

universe u

/-! ## The four factors -/

section Factors

variable {K : Type u} [Field K] [LinearOrder K] (geodesicKm : ℚ × ℚ → ℚ × ℚ → K) (sqrt : K → K)

namespace CityCluster

/-- The distances of the places from the centre, in the numbers of `geodesicKm`. -/
def distancesIn (cluster : CityCluster) : List K :=
  cluster.pois.map fun poi =>
    geodesicKm (cluster.centerLat, cluster.centerLon) (coordinates poi)

/-- `calculate_radius_km`. -/
def radiusIn (cluster : CityCluster) : K :=
  if cluster.pois.length < 2 then 0 else ((cluster.distancesIn geodesicKm).max?).getD 0

/-- `poi_factor`. -/
def poiFactorIn (K : Type u) [Field K] [LinearOrder K] (cluster : CityCluster) : K :=
  min 1 (cluster.pois.length / ((5 : ℕ) : K))

/-- `density_factor`. -/
def densityFactorIn (cluster : CityCluster) : K :=
  if 0 < cluster.radiusIn geodesicKm then
    min 1 (cluster.pois.length / cluster.radiusIn geodesicKm)
  else 1

/-- `_assess_geographic_consistency`. -/
def geoConsistencyIn (cluster : CityCluster) : K :=
  if cluster.pois.length < 2 then 1
  else
    min 1 (max ((1 / 10 : ℚ) : K)
      (1 - sqrt (variance (cluster.distancesIn geodesicKm)) / ((50 : ℕ) : K)))

/-- The confidence for a quality of the name. -/
def confidenceWith (cluster : CityCluster) (nameQuality : ℚ) : K :=
  (cluster.poiFactorIn K + cluster.densityFactorIn geodesicKm + nameQuality +
    cluster.geoConsistencyIn geodesicKm sqrt) / ((4 : ℕ) : K)

/-- `_calculate_confidence_scores` for one cluster. -/
def scoreIn (cluster : CityCluster) : Except PyError K :=
  (assessNameQuality cluster.name).map (cluster.confidenceWith geodesicKm sqrt)

/-- In rational numbers these are the scores of the service. -/
theorem scoreIn_rat (env : ClusteringEnv) (cluster : CityCluster) :
    cluster.scoreIn env.geodesicKm env.sqrt = cluster.score env := by
  unfold scoreIn score
  cases assessNameQuality cluster.name with
  | error e => rfl
  | ok nameQuality => rfl

end CityCluster

/-- A name is worth between a tenth and one. -/
theorem assessNameQuality_bounds {name : PyVal} {quality : ℚ}
    (hquality : assessNameQuality name = .ok quality) : 1 / 10 ≤ quality ∧ quality ≤ 1 := by
  unfold assessNameQuality at hquality
  split_ifs at hquality with hunknown
  · cases hquality
    norm_num
  · split at hquality
    · cases hquality
      split_ifs <;> norm_num
    · cases hquality

/-- Every text is worth something. -/
theorem exists_assessNameQuality_text (text : String) :
    ∃ quality, assessNameQuality (.str text) = .ok quality := by
  unfold assessNameQuality
  split_ifs
  · exact ⟨_, rfl⟩
  · exact ⟨_, rfl⟩

end Factors

/-! ## Bounds -/

section Bounds

variable {K : Type u} [Field K] [LinearOrder K] [IsStrictOrderedRing K]
  {geodesicKm : ℚ × ℚ → ℚ × ℚ → K} {sqrt : K → K} {cluster : CityCluster}

/-- A name is worth between a tenth and one in any numbers. -/
theorem nameQuality_bounds {name : PyVal} {quality : ℚ}
    (hquality : assessNameQuality name = .ok quality) :
    1 / 10 ≤ (quality : K) ∧ (quality : K) ≤ 1 := by
  obtain ⟨hlow, hhigh⟩ := assessNameQuality_bounds hquality
  have hlowK : ((1 / 10 : ℚ) : K) ≤ quality := Rat.cast_le.mpr hlow
  have hhighK : (quality : K) ≤ ((1 : ℚ) : K) := Rat.cast_le.mpr hhigh
  push_cast at hlowK hhighK
  exact ⟨hlowK, hhighK⟩

namespace CityCluster

omit [IsStrictOrderedRing K] in
/-- The places lie inside the radius. -/
theorem le_radiusIn (hseveral : ¬ cluster.pois.length < 2) {distance : K}
    (hmem : distance ∈ cluster.distancesIn geodesicKm) :
    distance ≤ cluster.radiusIn geodesicKm := by
  unfold radiusIn
  rw [if_neg hseveral]
  cases hmax : (cluster.distancesIn geodesicKm).max? with
  | none =>
      rw [List.max?_eq_none_iff.mp hmax] at hmem
      cases hmem
  | some farthest => exact (List.max?_le_iff hmax).mp le_rfl distance hmem

/-- Inside fifty kilometres the distances keep at least half of the consistency. -/
theorem half_le_geoConsistencyIn (hdistance : ∀ p q, 0 ≤ geodesicKm p q)
    (hsqrt : ∀ x y : K, 0 ≤ y → x ≤ y ^ 2 → sqrt x ≤ y)
    (hradius : cluster.radiusIn geodesicKm ≤ 50) :
    1 / 2 ≤ cluster.geoConsistencyIn geodesicKm sqrt := by
  unfold geoConsistencyIn
  split_ifs with hfew
  · norm_num
  · have hne : cluster.distancesIn geodesicKm ≠ [] := by
      rw [distancesIn, Ne, List.map_eq_nil_iff]
      rintro hnil
      exact hfew (by rw [hnil]; decide)
    have hnonneg : ∀ distance ∈ cluster.distancesIn geodesicKm, 0 ≤ distance := by
      intro distance hmem
      obtain ⟨poi, -, rfl⟩ := List.mem_map.mp hmem
      exact hdistance _ _
    have hvariance := variance_le_sq_half hne hnonneg fun distance => le_radiusIn hfew
    rw [sub_zero] at hvariance
    have hhalf : 0 ≤ cluster.radiusIn geodesicKm / 2 := by
      obtain ⟨distance, hmem⟩ := List.exists_mem_of_ne_nil _ hne
      have hle := (hnonneg distance hmem).trans (le_radiusIn hfew hmem)
      linarith
    have hdeviation := hsqrt _ _ hhalf hvariance
    refine le_min (by norm_num) (le_max_of_le_right ?_)
    linarith

/-- Three places or more inside fifty kilometres. -/
theorem confidence_of_three {confidence : K} (hdistance : ∀ p q, 0 ≤ geodesicKm p q)
    (hsqrt : ∀ x y : K, 0 ≤ y → x ≤ y ^ 2 → sqrt x ≤ y)
    (hthree : 3 ≤ cluster.pois.length) (hradius : cluster.radiusIn geodesicKm ≤ 50)
    (hscore : cluster.scoreIn geodesicKm sqrt = .ok confidence) : 3 / 10 ≤ confidence := by
  obtain ⟨quality, hquality, rfl⟩ := exists_of_map_eq_ok hscore
  have hcount : (3 : K) ≤ cluster.pois.length := by exact_mod_cast hthree
  have hpois : 3 / 5 ≤ cluster.poiFactorIn K := le_min (by norm_num) (by linarith)
  have hdensity : 3 / 50 ≤ cluster.densityFactorIn geodesicKm := by
    unfold densityFactorIn
    split_ifs with hpositive
    · refine le_min (by norm_num) ?_
      exact div_le_div₀ (by positivity) hcount hpositive hradius
    · norm_num
  have hname := @nameQuality_bounds K _ _ _ _ _ hquality
  have hgeo := half_le_geoConsistencyIn hdistance hsqrt hradius
  unfold confidenceWith
  linarith

end CityCluster

end Bounds

/-! ## The filter -/

section Groups

variable {env : ClusteringEnv} {config : ClusteringConfig} {group : List LocatedPoi}

/-- The radius by which a group is judged bounds the radius of its cluster. -/
theorem radiusIn_le_of_clusterRadius_le {cluster : CityCluster} {limit : ℚ}
    (hradius : clusterRadius env cluster.pois (cluster.centerLat, cluster.centerLon) ≤ limit) :
    cluster.radiusIn env.geodesicKm ≤ limit := by
  obtain ⟨hlimit, hplaces⟩ := foldl_max_le_iff.mp hradius
  unfold CityCluster.radiusIn
  split_ifs with hfew
  · exact hlimit
  · cases hmax : (cluster.distancesIn env.geodesicKm).max? with
    | none => exact hlimit
    | some farthest =>
        exact (List.max?_le_iff hmax).mpr (List.forall_mem_map.mpr hplaces)

/-- Where the limit is at most fifty kilometres, a group of three places whose name is a text is
not dropped for its confidence. -/
theorem isKept_of_three (hdistance : ∀ p q, 0 ≤ env.geodesicKm p q)
    (hsqrt : ∀ x y : ℚ, 0 ≤ y → x ≤ y ^ 2 → env.sqrt x ≤ y)
    (hlimit : config.maxCityRadiusKm ≤ 50) (hthree : 3 ≤ group.length)
    (hfew : config.minPoisPerCity ≤ group.length) (hradius : RadiusValid env config group)
    {text : String} (hname : determineClusterName group = .ok (.str text)) :
    isKept env config group = true := by
  let cluster := cityCluster 0 (.str text) .none group
  obtain ⟨quality, hquality⟩ := exists_assessNameQuality_text text
  have hscore : cluster.scoreIn env.geodesicKm env.sqrt =
      .ok (cluster.confidenceWith env.geodesicKm env.sqrt quality) := by
    show (assessNameQuality (.str text)).map _ = _
    rw [hquality]
    rfl
  have hinside : cluster.radiusIn env.geodesicKm ≤ 50 := by
    rcases hradius with hone | ⟨-, hmax⟩
    · omega
    · exact radiusIn_le_of_clusterRadius_le (hmax.trans hlimit)
  have henough := CityCluster.confidence_of_three hdistance hsqrt hthree hinside hscore
  have hgroup : groupConfidence env group =
      .ok (cluster.confidenceWith env.geodesicKm env.sqrt quality) := by
    rw [groupConfidence, hname, ← hscore, CityCluster.scoreIn_rat]
    rfl
  have hne : group ≠ [] := List.ne_nil_of_length_pos (by omega)
  unfold isKept
  rw [hgroup]
  simp [hne, hradius, hfew, henough]

end Groups

end Goveling.MultiCity.Advanced
