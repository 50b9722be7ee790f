/-
# Clustering places into cities

`CityClusteringService` gathers places by H3 cell, splits the cells with DBSCAN,
drops clusters that are too small or too wide, names the rest and keeps those it
has confidence in. A cluster only has places it was given, and has at least one.
-/

import Goveling.MultiCity.Intercity
import Goveling.Math.OrderedMap
import Mathlib.Data.List.Infix

namespace Goveling.MultiCity

open Goveling.Math

/-- A point of interest as the multi-city endpoint writes it. The keys `city` and
`country` are optional; `locality`, `municipality` and `address` are never there. -/
structure Poi where
  name : String
  lat : ℚ
  lon : ℚ
  category : String
  visitDurationHours : ℚ
  city : Option String
  country : Option String
  deriving DecidableEq

/-- `(poi['lat'], poi['lon'])`. -/
def Poi.coordinates (poi : Poi) : ℚ × ℚ := (poi.lat, poi.lon)

/-- `CityCluster`, without its score. -/
structure CityCluster where
  name : String
  country : String
  centerLat : ℚ
  centerLon : ℚ
  pois : List Poi

/-- What the service asks libraries for. The score of a cluster is floating point
arithmetic over such answers. -/
structure ClusteringEnv where
  latlngToCell : ℚ → ℚ → String
  dbscanLabels : List (ℚ × ℚ) → List ℤ
  geodesicKm : ℚ × ℚ → ℚ × ℚ → ℚ
  confidence : CityCluster → ℚ

/-! ## Names -/

/-- What `str.isspace` says of a character. -/
def isSpace (c : Char) : Bool :=
  let code := c.toNat
  (9 ≤ code && code ≤ 13) || (28 ≤ code && code ≤ 32) || code = 133 || code = 160 ||
    code = 5760 || (8192 ≤ code && code ≤ 8202) || code = 8232 || code = 8233 ||
    code = 8239 || code = 8287 || code = 12288

/-- The last word of a text with more than one, as `split` sees words. -/
def lastOfSeveralWords (text : String) : Option String :=
  let words := (text.toList.splitOnP isSpace).filter fun word => !word.isEmpty
  if 1 < words.length then words.getLast?.map String.ofList else none

/-- `Counter(names).most_common(1)`: the first of the most frequent. -/
def mostCommon (names : List String) : Option String :=
  names.argmax fun name => names.count name

/-- Words that show that a place is named after its city. -/
def landmarkKeywords : List String :=
  ["tower", "museum", "cathedral", "palace", "bridge", "square"]

/-- A name that has one of the keywords and several words. -/
def landmarkCity (poi : Poi) : Option String :=
  if landmarkKeywords.any fun keyword =>
      decide (keyword.toList <:+: poi.name.toLower.toList) then
    lastOfSeveralWords poi.name
  else none

/-- A text that is there and is not empty. -/
def nonempty (text : Option String) : Option String :=
  text.filter fun text => text ≠ ""

/-- `_determine_cluster_name`. -/
def determineClusterName (pois : List Poi) : String :=
  let cityNames := pois.filterMap fun poi => nonempty poi.city
  match mostCommon cityNames with
  | some name => name
  | none =>
      match pois.findSome? landmarkCity with
      | some name => name
      | none => (pois.head?.map Poi.name).getD ""

/-- `_determine_cluster_country`. -/
def determineClusterCountry (pois : List Poi) : String :=
  (mostCommon (pois.filterMap fun poi => nonempty poi.country)).getD "Unknown"

/-! ## Clusters -/

/-- `_dbscan_refinement` for the places of one cell: noise first, each place on its
own, then the groups in the order of their first place. -/
def refineCell (env : ClusteringEnv) (clusterPois : List Poi) : List (List Poi) :=
  if clusterPois.length < 2 then [clusterPois]
  else
    let labelled := (env.dbscanLabels (clusterPois.map Poi.coordinates)).zip clusterPois
    let noise := (labelled.filter fun entry => entry.1 = -1).map fun entry => [entry.2]
    let groups := (OrderedMap.gather Prod.fst (labelled.filter fun entry => entry.1 ≠ -1)).values
    noise ++ groups.map fun group => group.map Prod.snd

/-- The mean of a coordinate. -/
def meanOf (values : List ℚ) : ℚ := values.sum / values.length

/-- `_calculate_cluster_radius`. -/
def clusterRadius (env : ClusteringEnv) (pois : List Poi) (center : ℚ × ℚ) : ℚ :=
  pois.foldl (fun maxDistance poi => max maxDistance (env.geodesicKm center poi.coordinates)) 0

/-- `_validate_and_name_clusters` for one cluster. -/
def validateCluster (env : ClusteringEnv) (clusterPois : List Poi) : Option CityCluster :=
  let centerLat := meanOf (clusterPois.map Poi.lat)
  let centerLon := meanOf (clusterPois.map Poi.lon)
  let radiusKm := clusterRadius env clusterPois (centerLat, centerLon)
  if clusterPois.isEmpty then none
  else if clusterPois.length ≠ 1 ∧ ¬ (mkRat 1 10 ≤ radiusKm ∧ radiusKm ≤ mkRat 50 1) then none
  else some
    { name := determineClusterName clusterPois
      country := determineClusterCountry clusterPois
      centerLat := centerLat
      centerLon := centerLon
      pois := clusterPois }

/-- `cluster_pois_advanced`; the service is new for every request, so nothing is cached. -/
def clusterPoisAdvanced (env : ClusteringEnv) (pois : List Poi) : List CityCluster :=
  let h3Clusters := OrderedMap.gather (fun poi => env.latlngToCell poi.lat poi.lon) pois
  let refinedClusters := h3Clusters.values.flatMap (refineCell env)
  let validatedClusters := refinedClusters.filterMap (validateCluster env)
  validatedClusters.filter fun cluster =>
    mkRat 3 10 ≤ env.confidence cluster ∧ 1 ≤ cluster.pois.length

/-- A cluster has places, and only places it was given. -/
theorem pois_of_mem_clusterPoisAdvanced {env : ClusteringEnv} {pois : List Poi}
    {cluster : CityCluster} (hcluster : cluster ∈ clusterPoisAdvanced env pois) :
    cluster.pois ≠ [] ∧ cluster.pois ⊆ pois := by
  have hvalidated := (List.mem_filter.mp hcluster).1
  obtain ⟨refined, hrefined, hvalid⟩ := List.mem_filterMap.mp hvalidated
  obtain ⟨cell, hcell, hmem⟩ := List.mem_flatMap.mp hrefined
  have hcellPois := (OrderedMap.of_mem_values_gather hcell).2
  have hsubset : refined ⊆ cell := by
    unfold refineCell at hmem
    split at hmem
    · rw [List.mem_singleton.mp hmem]
      exact List.Subset.refl _
    · intro poi hpoi
      rcases List.mem_append.mp hmem with hnoise | hgroup
      · obtain ⟨entry, hentry, rfl⟩ := List.mem_map.mp hnoise
        rw [List.mem_singleton.mp hpoi]
        exact (List.of_mem_zip (List.mem_filter.mp hentry).1).2
      · obtain ⟨group, hvalues, rfl⟩ := List.mem_map.mp hgroup
        obtain ⟨entry, hentry, rfl⟩ := List.mem_map.mp hpoi
        have hlabelled := (OrderedMap.of_mem_values_gather hvalues).2 hentry
        exact (List.of_mem_zip (List.mem_filter.mp hlabelled).1).2
  unfold validateCluster at hvalid
  dsimp only at hvalid
  split at hvalid
  · cases hvalid
  · rename_i hne
    split at hvalid
    · cases hvalid
    · cases hvalid
      exact ⟨by simpa using hne, fun poi hpoi => hcellPois (hsubset hpoi)⟩

end Goveling.MultiCity
