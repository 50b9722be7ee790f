/-
# The cache of a clustering service

A service keeps the clusters of a request under a key that is made of the rounded coordinates of
its places. The clusters hold the records of the places and are named after other fields, so a
request with the same key gets the clusters of the request that stored them. Up to order, these
are its own exactly when the two requests have the same groups with the same names.
-/

import Goveling.Math.Matching
import Goveling.Math.Provenance
import Goveling.MultiCity.ClusterPartition

namespace Goveling.MultiCity.Advanced

open Goveling.Math Goveling.Python Goveling.Routing

/-- A list of places to be clustered. -/
abbrev PoiRequest := List LocatedPoi

/-- `_generate_cache_key`. -/
def generateCacheKey (env : ClusteringEnv) (pois : PoiRequest) : String :=
  env.digest (String.intercalate ";"
    ((sortedBy toLex (pois.map coordinates)).map fun point =>
      fixedText 4 point.1 ++ "," ++ fixedText 4 point.2))

/-- `CityClusteringService`. The cache keeps, besides clusters, the request they were computed
for, which is only talked about. -/
structure CityClusteringService where
  clusteringCache : TracedMap String PoiRequest (List CityCluster) Unit := .empty

namespace CityClusteringService

variable (env : ClusteringEnv) (config : ClusteringConfig)

/-- The entry that a request is served from. -/
def served (service : CityClusteringService) (pois : PoiRequest) :
    Option (Traced PoiRequest (List CityCluster) Unit) :=
  if pois.isEmpty then none
  else OrderedMap.get? service.clusteringCache (generateCacheKey env pois)

/-- `cluster_pois_advanced`. -/
def clusterPoisAdvanced (service : CityClusteringService) (pois : PoiRequest) :
    Except PyError (List CityCluster) × CityClusteringService :=
  if pois.isEmpty then (.ok [], service)
  else
    match service.served env pois with
    | some entry => (.ok entry.answer, service)
    | none =>
        match computeClusters env config pois with
        | .ok qualityClusters =>
            (.ok qualityClusters,
              { clusteringCache :=
                  OrderedMap.set service.clusteringCache (generateCacheKey env pois)
                    { origin := pois
                      answer := qualityClusters
                      stamp := () } })
        | .error e => (.error e, service)

/-- The service after a request. -/
def next (service : CityClusteringService) (pois : PoiRequest) : CityClusteringService :=
  (service.clusterPoisAdvanced env config pois).2

end CityClusteringService

/-- What a service without any history returns. -/
def freshClusters (env : ClusteringEnv) (config : ClusteringConfig) (pois : PoiRequest) :
    Except PyError (List CityCluster) :=
  (CityClusteringService.clusterPoisAdvanced env config {} pois).1

variable {env : ClusteringEnv} {config : ClusteringConfig}

theorem freshClusters_eq (env : ClusteringEnv) (config : ClusteringConfig) (pois : PoiRequest) :
    freshClusters env config pois = computeClusters env config pois := by
  unfold freshClusters CityClusteringService.clusterPoisAdvanced
  split
  · rename_i hempty
    rw [List.isEmpty_iff.mp hempty]
    rfl
  · rename_i hne
    have hserved : CityClusteringService.served env {} pois = none := by
      unfold CityClusteringService.served
      rw [if_neg hne]
      rfl
    rw [hserved]
    dsimp only
    cases computeClusters env config pois <;> rfl

/-! ## The same up to order -/

/-- Clusters that are the same but for their ids and the order of their places. -/
structure CityCluster.Same (first second : CityCluster) : Prop where
  name : first.name = second.name
  country : first.country = second.country
  centerLat : first.centerLat = second.centerLat
  centerLon : first.centerLon = second.centerLon
  confidence : first.confidence = second.confidence
  pois : first.pois.Perm second.pois

theorem CityCluster.Same.refl (cluster : CityCluster) : cluster.Same cluster :=
  ⟨rfl, rfl, rfl, rfl, rfl, .refl _⟩

/-- Groups of the same places that get the same name and country. -/
structure Alike (first second : List LocatedPoi) : Prop where
  pois : first.Perm second
  name : determineClusterName first = determineClusterName second
  country : determineClusterCountry first = determineClusterCountry second

theorem meanOf_perm {first second : List ℚ} (hperm : first.Perm second) :
    meanOf first = meanOf second := by
  unfold meanOf
  rw [hperm.sum_eq, hperm.length_eq]

theorem centerOf_perm {first second : List LocatedPoi} (hperm : first.Perm second) :
    centerOf first = centerOf second := by
  unfold centerOf
  rw [meanOf_perm (hperm.map LocatedPoi.lat), meanOf_perm (hperm.map LocatedPoi.lon)]

theorem max?_perm {first second : List ℚ} (hperm : first.Perm second) :
    first.max? = second.max? := by
  cases hmax : second.max? with
  | none =>
      rw [List.max?_eq_none_iff] at hmax ⊢
      rw [hmax] at hperm
      exact hperm.eq_nil
  | some largest =>
      rw [List.max?_eq_some_iff] at hmax ⊢
      exact ⟨hperm.mem_iff.mpr hmax.1, fun b hb => hmax.2 b (hperm.mem_iff.mp hb)⟩

section Scores

variable {first second : CityCluster} (hlength : first.pois.length = second.pois.length)
  (hdistances : (first.distances env).Perm (second.distances env))

include hlength hdistances

theorem CityCluster.radiusKm_congr : first.radiusKm env = second.radiusKm env := by
  unfold CityCluster.radiusKm
  rw [hlength, max?_perm hdistances]

theorem CityCluster.geographicConsistency_congr :
    first.geographicConsistency env = second.geographicConsistency env := by
  have hvariance : ∀ meanDistance,
      meanOf ((first.distances env).map fun d => (d - meanDistance) ^ 2) =
        meanOf ((second.distances env).map fun d => (d - meanDistance) ^ 2) :=
    fun meanDistance => meanOf_perm (hdistances.map _)
  unfold CityCluster.geographicConsistency
  dsimp only
  rw [hlength, meanOf_perm hdistances, hvariance]

/-- The score depends on the number of places, their distances and the name. -/
theorem CityCluster.score_congr (hname : first.name = second.name) :
    first.score env = second.score env := by
  unfold CityCluster.score
  rw [hname, hlength, CityCluster.radiusKm_congr hlength hdistances,
    CityCluster.geographicConsistency_congr hlength hdistances]

end Scores

/-- The confidence in a group does not depend on the order of its places. -/
theorem Alike.confidence (env : ClusteringEnv) {first second : List LocatedPoi}
    (halike : Alike first second) :
    groupConfidence env first = groupConfidence env second := by
  have hscore : ∀ name, (cityCluster 0 name .none first).score env =
      (cityCluster 0 name .none second).score env := by
    intro name
    refine CityCluster.score_congr halike.pois.length_eq ?_ rfl
    unfold CityCluster.distances cityCluster
    rw [centerOf_perm halike.pois]
    exact halike.pois.map _
  unfold groupConfidence
  rw [halike.name]
  exact congrArg _ (funext hscore)

/-- Clusters are the same exactly when their groups are alike. -/
theorem same_iff_alike {first second : CityCluster} {firstGroup secondGroup : List LocatedPoi × ℕ}
    (hfirst : first.Describes env firstGroup) (hsecond : second.Describes env secondGroup) :
    first.Same second ↔ Alike firstGroup.1 secondGroup.1 := by
  constructor
  · intro hsame
    refine ⟨?_, ?_, ?_⟩
    · rw [← hfirst.pois, ← hsecond.pois]
      exact hsame.pois
    · rw [hfirst.name, hsecond.name, hsame.name]
    · rw [hfirst.country, hsecond.country, hsame.country]
  · intro halike
    have hcenter : (first.centerLat, first.centerLon) = (second.centerLat, second.centerLon) := by
      rw [hfirst.center, hsecond.center, centerOf_perm halike.pois]
    refine ⟨?_, ?_, congrArg Prod.fst hcenter, congrArg Prod.snd hcenter, ?_, ?_⟩
    · have hname := halike.name
      rw [hfirst.name, hsecond.name] at hname
      exact Except.ok.inj hname
    · have hcountry := halike.country
      rw [hfirst.country, hsecond.country] at hcountry
      exact Except.ok.inj hcountry
    · have hconfidence := halike.confidence env
      rw [hfirst.confidence, hsecond.confidence] at hconfidence
      exact Except.ok.inj hconfidence
    · rw [hfirst.pois, hsecond.pois]
      exact halike.pois

/-- Two requests have the same groups in clusters, with the same names and countries. -/
def SameGroups (env : ClusteringEnv) (config : ClusteringConfig) (first second : PoiRequest) :
    Prop :=
  Matches (fun a b => Alike a.1 b.1) (keptGroups env config first) (keptGroups env config second)

/-- Two requests get the same clusters exactly when they have the same groups. -/
theorem matches_clusters_iff {first second : PoiRequest} {clusters others : List CityCluster}
    (hclusters : computeClusters env config first = .ok clusters)
    (hothers : computeClusters env config second = .ok others) :
    Matches CityCluster.Same clusters others ↔ SameGroups env config first second := by
  have hfirst := describes_computeClusters hclusters
  have hsecond := describes_computeClusters hothers
  constructor
  · intro hmatches
    refine Matches.describing ?_ hfirst.flip hsecond.flip hmatches
    intro group cluster other otherGroup hdescribes hsame hother
    exact (same_iff_alike hdescribes hother).mp hsame
  · intro hmatches
    refine Matches.describing ?_ hfirst hsecond hmatches
    intro cluster group otherGroup other hdescribes halike hother
    exact (same_iff_alike hdescribes hother).mpr halike

/-! ## Histories -/

/-- Requests one after the other to a new service. -/
def serviceRun (env : ClusteringEnv) (config : ClusteringConfig) (requests : List PoiRequest) :
    List (CityClusteringService × PoiRequest) :=
  moments (CityClusteringService.next env config) {} requests

/-- The clusters that a service returns are those that a new service returns, up to order. -/
def AnswersFresh (env : ClusteringEnv) (config : ClusteringConfig)
    (service : CityClusteringService) (pois : PoiRequest) : Prop :=
  ∀ clusters, (service.clusterPoisAdvanced env config pois).1 = .ok clusters →
    ∃ fresh, freshClusters env config pois = .ok fresh ∧ Matches CityCluster.Same clusters fresh

namespace CityClusteringService

variable {service : CityClusteringService} {pois : PoiRequest}

/-- What is computed is the answer to its request. -/
def Computed (env : ClusteringEnv) (config : ClusteringConfig) (pois : PoiRequest)
    (clusters : List CityCluster) : Prop :=
  computeClusters env config pois = .ok clusters

theorem stores_next (env : ClusteringEnv) (config : ClusteringConfig)
    (service : CityClusteringService) (pois : PoiRequest) :
    TracedMap.Stores (Computed env config) service.clusteringCache
      (service.next env config pois).clusteringCache := by
  unfold next clusterPoisAdvanced
  split
  · exact .inl rfl
  · cases service.served env pois with
    | some entry => exact .inl rfl
    | none =>
        dsimp only
        cases hclusters : computeClusters env config pois with
        | error e => exact .inl rfl
        | ok clusters =>
            exact .inr ⟨generateCacheKey env pois, ⟨pois, clusters, ()⟩, hclusters, rfl⟩

/-- A request that is not served gets what a new service computes. -/
theorem clusterPoisAdvanced_of_not_served (hserved : service.served env pois = none) :
    (service.clusterPoisAdvanced env config pois).1 = freshClusters env config pois := by
  unfold freshClusters clusterPoisAdvanced
  split
  · rfl
  · rename_i hne
    have hnone : served env {} pois = none := by
      unfold served
      rw [if_neg hne]
      rfl
    rw [hserved, hnone]
    dsimp only
    cases computeClusters env config pois <;> rfl

theorem clusterPoisAdvanced_of_served {entry : Traced PoiRequest (List CityCluster) Unit}
    (hserved : service.served env pois = some entry) :
    (service.clusterPoisAdvanced env config pois).1 = .ok entry.answer := by
  have hne : ¬pois.isEmpty = true := by
    intro hempty
    unfold served at hserved
    rw [if_pos hempty] at hserved
    cases hserved
  unfold clusterPoisAdvanced
  rw [if_neg hne, hserved]

/-- What serves a request is in the cache. -/
theorem get?_of_served {entry : Traced PoiRequest (List CityCluster) Unit}
    (hserved : service.served env pois = some entry) :
    OrderedMap.get? service.clusteringCache (generateCacheKey env pois) = some entry := by
  unfold served at hserved
  split at hserved
  · cases hserved
  · exact hserved

/-- A request gets its own clusters if it is not served, or if it has the groups of the request
that it is served from. -/
theorem answersFresh_iff (hsound : TracedMap.Sound (Computed env config) service.clusteringCache) :
    AnswersFresh env config service pois ↔
      ∀ entry, service.served env pois = some entry →
        (computeClusters env config pois).isOk = true ∧
          SameGroups env config entry.origin pois := by
  unfold AnswersFresh
  cases hserved : service.served env pois with
  | none =>
      apply TracedMap.iff_of_not_served rfl
      intro clusters hclusters
      rw [clusterPoisAdvanced_of_not_served hserved] at hclusters
      refine ⟨clusters, hclusters, .of_forall₂ ?_⟩
      exact List.forall₂_same.mpr fun cluster _ => .refl cluster
  | some entry =>
      have hright : computeClusters env config entry.origin = .ok entry.answer :=
        hsound.right_of_get? (get?_of_served hserved)
      rw [clusterPoisAdvanced_of_served hserved, freshClusters_eq]
      apply TracedMap.iff_of_served rfl
      constructor
      · intro hfresh
        obtain ⟨fresh, hown, hmatches⟩ := hfresh entry.answer rfl
        exact ⟨by rw [hown]; rfl, (matches_clusters_iff hright hown).mp hmatches⟩
      · rintro ⟨hok, hgroups⟩ clusters hclusters
        cases hclusters
        obtain ⟨fresh, hown⟩ := exists_eq_ok_of_isOk hok
        exact ⟨fresh, hown, (matches_clusters_iff hright hown).mpr hgroups⟩

end CityClusteringService

/-- In every history of a service, the clusters returned are those of a new service up to order
exactly when every request that is served from the cache can be clustered and has, up to order,
the groups of the request that stored the clusters, with their names and countries. -/
theorem clusterPoisAdvanced_fresh_iff (env : ClusteringEnv) (config : ClusteringConfig)
    (requests : List PoiRequest) :
    (∀ moment ∈ serviceRun env config requests, AnswersFresh env config moment.1 moment.2) ↔
      ∀ moment ∈ serviceRun env config requests, ∀ entry,
        moment.1.served env moment.2 = some entry →
          (computeClusters env config moment.2).isOk = true ∧
            SameGroups env config entry.origin moment.2 := by
  refine forall₂_congr fun moment hmem => ?_
  obtain ⟨hsound, -⟩ := TracedMap.sound_moments CityClusteringService.clusteringCache
    (fun service pois _ => CityClusteringService.stores_next env config service pois)
    TracedMap.sound_empty moment hmem
  exact CityClusteringService.answersFresh_iff hsound

/-- A place with a name. -/
def namedPoi (name : String) : LocatedPoi where
  fields := [("name", .str name), ("lat", .float 0), ("lon", .float 0)]
  lat := 0
  lon := 0
  lat_eq := by simp [PyDict.get, List.lookup_cons, PyVal.number?]
  lon_eq := by simp [PyDict.get, List.lookup_cons, PyVal.number?]

/-- Clusters that match have the same names, up to order. -/
theorem names_of_matches {clusters others : List CityCluster}
    (hmatches : Matches CityCluster.Same clusters others) :
    (clusters.map CityCluster.name).Perm (others.map CityCluster.name) := by
  obtain ⟨ordered, hperm, hsame⟩ := hmatches
  have hnames : ordered.map CityCluster.name = others.map CityCluster.name :=
    map_eq_map_of_forall₂ hsame fun _ _ hcluster => hcluster.name
  rw [← hnames]
  exact hperm.map CityCluster.name

/-- A place at one point, and then another one there: the second request gets the first place. -/
theorem clusterPoisAdvanced_keeps_plaza :
    ¬ ∀ moment ∈ serviceRun latitudeEnv {} [[namedPoi "Plaza"], [namedPoi "Museo"]],
      AnswersFresh latitudeEnv {} moment.1 moment.2 := by
  intro hfresh
  have hsecond : AnswersFresh latitudeEnv {}
      (CityClusteringService.next latitudeEnv {} {} [namedPoi "Plaza"]) [namedPoi "Museo"] :=
    hfresh (_, _) (List.mem_cons_of_mem _ List.mem_cons_self)
  have hreturned : (((CityClusteringService.next latitudeEnv {} {}
      [namedPoi "Plaza"]).clusterPoisAdvanced latitudeEnv {}
        [namedPoi "Museo"]).1.toOption.map fun clusters =>
          clusters.map fun cluster => cluster.name.isText "Plaza") = some [true] := by
    decide +kernel
  have hown : ((freshClusters latitudeEnv {} [namedPoi "Museo"]).toOption.map fun clusters =>
      clusters.map fun cluster => cluster.name.isText "Plaza") = some [false] := by
    decide +kernel
  obtain ⟨clusters, hclusters, hplaza⟩ := Option.map_eq_some_iff.mp hreturned
  obtain ⟨fresh, hfreshClusters, hmatches⟩ := hsecond clusters (eq_ok_of_toOption hclusters)
  rw [hfreshClusters] at hown
  have hmuseo : fresh.map (fun cluster => cluster.name.isText "Plaza") = [false] :=
    Option.some.inj hown
  have hnames := (names_of_matches hmatches).map fun name => name.isText "Plaza"
  rw [List.map_map, List.map_map] at hnames
  have hsame : [true].Perm [false] := hplaza ▸ hmuseo ▸ hnames
  exact absurd (List.perm_singleton.mp hsame) (by decide)

end Goveling.MultiCity.Advanced
