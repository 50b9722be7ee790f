/-
# Clusters of places with any fields

`cluster_pois_advanced` for places that are dictionaries with coordinates. Places are gathered by
H3 cell and every cell is split by DBSCAN. A group of several places is dropped when it is too
small or too wide; the others get a name, a country and a score, and those with a low score are
dropped as well. What becomes of a group depends on the group alone.
-/

import Goveling.Math.Matching
import Goveling.MultiCity.CityClustering
import Goveling.Routing.CityDetection
import Mathlib.Data.List.Forall2
import Mathlib.Data.List.ReduceOption

namespace Goveling.MultiCity.Advanced

open Goveling.Math Goveling.Python Goveling.Routing

/-- `ClusteringConfig`, as far as it is read. -/
structure ClusteringConfig where
  epsKm : ℚ := 25
  minSamples : ℕ := 2
  minCityRadiusKm : ℚ := 1 / 10
  maxCityRadiusKm : ℚ := 50
  minPoisPerCity : ℕ := 1

/-- The libraries: the grid, DBSCAN with its radius and its number of samples, geodesic
distances, square roots, and the first sixteen digits of a hash. -/
structure ClusteringEnv where
  grid : CellGrid
  dbscan : ℚ → ℕ → List (ℚ × ℚ) → List ℤ
  dbscan_length : ∀ eps samples points, (dbscan eps samples points).length = points.length
  geodesicKm : ℚ × ℚ → ℚ × ℚ → ℚ
  sqrt : ℚ → ℚ
  digest : String → String

/-- `CityCluster`. -/
structure CityCluster where
  clusterId : String
  name : PyVal
  country : PyVal
  centerLat : ℚ
  centerLon : ℚ
  pois : List LocatedPoi
  confidence : ℚ := 0

/-- `(poi['lat'], poi['lon'])`. -/
def coordinates (poi : LocatedPoi) : ℚ × ℚ := (poi.lat, poi.lon)

/-! ## Texts -/

/-- The words of a text. -/
def wordsOf (text : String) : List String :=
  ((text.toList.splitOnP isSpace).filter fun word => !word.isEmpty).map String.ofList

/-- `text.strip()` for characters of some kind. -/
def stripOf (strips : Char → Bool) (text : List Char) : String :=
  String.ofList (((text.dropWhile strips).reverse.dropWhile strips).reverse)

/-- A letter of ASCII or of Latin-1 in the other case, `offset` characters on. -/
def shifted (offset : ℤ) (c : Char) : Char := Char.ofNat (c.toNat + offset).toNat

/-- The capital and the small letters of ASCII and Latin-1. -/
def isCapital (c : Char) : Bool :=
  (65 ≤ c.toNat && c.toNat ≤ 90) || (192 ≤ c.toNat && c.toNat ≤ 222 && c.toNat ≠ 215)

def isSmall (c : Char) : Bool :=
  (97 ≤ c.toNat && c.toNat ≤ 122) || (224 ≤ c.toNat && c.toNat ≤ 254 && c.toNat ≠ 247)

/-- The characters of `text.title()`: a letter is small after a letter and a capital elsewhere. -/
def titleChars : Bool → List Char → List Char
  | _, [] => []
  | afterLetter, c :: rest =>
      let letter := isCapital c || isSmall c
      let changed :=
        if afterLetter && isCapital c then shifted 32 c
        else if !afterLetter && isSmall c then shifted (-32) c
        else c
      changed :: titleChars letter rest

/-- `city_keywords`. -/
def cityKeywords : List String :=
  ["santiago", "valparaiso", "antofagasta", "calama", "iquique", "temuco", "concepcion",
    "valdivia", "paris", "london", "madrid", "barcelona", "rome", "amsterdam", "berlin", "prague",
    "vienna"]

/-- The word of an address that has one of the keywords. -/
def keywordCity (address : String) : Option String :=
  cityKeywords.findSome? fun keyword =>
    if textIn keyword (lowerText address) then
      (wordsOf address).findSome? fun word =>
        if textIn keyword (lowerText word) then
          let cleanWord := stripOf (fun c => c ∈ ['.', ',', ';', ':']) word.toList
          some (String.ofList (titleChars false cleanWord.toList))
        else none
    else none

/-- `_extract_city_from_address_string`. -/
def extractCityFromAddressString (text : String) : Option String :=
  if text = "" then none
  else
    let address := stripOf isSpace text.toList
    match address.toList.splitOn ',' with
    | [] | [_] => keywordCity address
    | [city, _] =>
        let cityCandidate := stripOf isSpace city
        if cityCandidate.toList.any Char.isDigit then keywordCity address else some cityCandidate
    | parts => some (stripOf isSpace ((parts.dropLast.getLast?).getD []))

example : extractCityFromAddressString "123 Main St, New York, USA" = some "New York" := by
  decide +kernel

/-- `country_mapping`. -/
def countryMapping : List (String × String) :=
  [("chile", "Chile"), ("argentina", "Argentina"), ("peru", "Peru"), ("bolivia", "Bolivia"),
    ("brazil", "Brazil"), ("france", "France"), ("spain", "Spain"), ("italy", "Italy"),
    ("germany", "Germany"), ("netherlands", "Netherlands"), ("uk", "United Kingdom"),
    ("usa", "United States"), ("canada", "Canada")]

/-- `_extract_country_from_address_string`. -/
def extractCountryFromAddressString (text : String) : Option String :=
  if text = "" then none
  else
    let address := lowerText (stripOf isSpace text.toList)
    (countryMapping.find? fun country => textIn country.1 address).map Prod.snd

/-! ## Names -/

/-- `city_fields`. -/
def cityFields : List String := ["city", "locality", "municipality"]

/-- The values under some keys that count as true. -/
def truthyValues (entries : PyDict) (keys : List String) : List PyVal :=
  keys.filterMap fun key => (entries.lookup key).filter PyVal.truthy

/-- The names of cities that a place gives. -/
def cityNamesOf (poi : LocatedPoi) : List PyVal :=
  truthyValues poi.fields cityFields ++
    match poi.fields.lookup "address" with
    | some (.dict entries) => truthyValues entries cityFields
    | some (.str address) =>
        (((extractCityFromAddressString address).filter fun city => city ≠ "").map
          PyVal.str).toList
    | _ => []

/-- `Counter(values).most_common(1)[0][0]`: the first of the most frequent. -/
def mostCommonValue (values : List PyVal) : Except PyError PyVal :=
  match values.find? fun value => !value.hashable with
  | some value => .error (.typeError ("unhashable type: '" ++ value.typeName ++ "'"))
  | none =>
      match values.argmax fun value => values.countP value.equals with
      | some value => .ok value
      | none => .error (.indexError "list index out of range")

/-- The last word of the first name that has a keyword and several words. -/
def landmarkName : List LocatedPoi → Except PyError (Option String)
  | [] => .ok none
  | poi :: rest =>
      match PyDict.get poi.fields "name" (.str "") with
      | .str name =>
          if landmarkKeywords.any fun keyword => textIn keyword (lowerText name) then
            match lastOfSeveralWords name with
            | some word => .ok (some word)
            | none => landmarkName rest
          else landmarkName rest
      | other =>
          .error (.attributeError ("'" ++ other.typeName ++ "' object has no attribute 'lower'"))

/-- The name of the first place. -/
def firstName (pois : List LocatedPoi) : PyVal :=
  match pois with
  | [] => .none
  | poi :: _ => PyDict.get poi.fields "name" (.str ("City_" ++ toString pois.length ++ "_pois"))

/-- `_determine_cluster_name`. -/
def determineClusterName (pois : List LocatedPoi) : Except PyError PyVal :=
  let cityNames := pois.flatMap cityNamesOf
  if cityNames.isEmpty then do
    let landmark ← landmarkName pois
    .ok ((landmark.map PyVal.str).getD (firstName pois))
  else mostCommonValue cityNames

/-- The country that a place gives. -/
def countryOf (poi : LocatedPoi) : Option PyVal :=
  match (poi.fields.lookup "country").filter PyVal.truthy with
  | some country => some country
  | none =>
      match poi.fields.lookup "address" with
      | some (.dict entries) => (List.lookup "country" entries).filter PyVal.truthy
      | some (.str address) => (extractCountryFromAddressString address).map PyVal.str
      | _ => none

/-- `_determine_cluster_country`. -/
def determineClusterCountry (pois : List LocatedPoi) : Except PyError PyVal :=
  let countries := pois.filterMap countryOf
  if countries.isEmpty then .ok (.str "Unknown") else mostCommonValue countries

/-! ## Groups -/

variable (env : ClusteringEnv) (config : ClusteringConfig)

/-- `_dbscan_refinement` for the places of one cell: noise first, each place on its own, then
the groups in the order of their first place. -/
def refineCell (clusterPois : List LocatedPoi) : List (List LocatedPoi) :=
  if clusterPois.length < 2 then [clusterPois]
  else
    let epsDegrees := config.epsKm / 111
    let clusterLabels := env.dbscan epsDegrees config.minSamples (clusterPois.map coordinates)
    let labelled := clusterLabels.zip clusterPois
    let noise := (labelled.filter fun entry => entry.1 = -1).map fun entry => [entry.2]
    let dbscanGroups :=
      (OrderedMap.gather Prod.fst (labelled.filter fun entry => entry.1 ≠ -1)).values.map
        fun group => group.map Prod.snd
    noise ++ dbscanGroups.filter fun groupPois => config.minPoisPerCity ≤ groupPois.length

/-- The groups of all cells. -/
def refinedClusters (pois : List LocatedPoi) : List (List LocatedPoi) :=
  (OrderedMap.gather env.grid.cellOf pois).values.flatMap (refineCell env config)

/-- The centre of a group. -/
def centerOf (pois : List LocatedPoi) : ℚ × ℚ :=
  (meanOf (pois.map LocatedPoi.lat), meanOf (pois.map LocatedPoi.lon))

/-- `_calculate_cluster_radius`. -/
def clusterRadius (pois : List LocatedPoi) (center : ℚ × ℚ) : ℚ :=
  pois.foldl (fun maxDistance poi => max maxDistance (env.geodesicKm center (coordinates poi))) 0

/-- A group of several places is neither too small nor too wide. -/
def RadiusValid (pois : List LocatedPoi) : Prop :=
  pois.length = 1 ∨
    config.minCityRadiusKm ≤ clusterRadius env pois (centerOf pois) ∧
      clusterRadius env pois (centerOf pois) ≤ config.maxCityRadiusKm

instance (pois : List LocatedPoi) : Decidable (RadiusValid env config pois) :=
  inferInstanceAs (Decidable (_ ∨ _))

/-- The cluster of a group with a name and a country. -/
def cityCluster (i : ℕ) (name country : PyVal) (pois : List LocatedPoi) : CityCluster where
  clusterId := "cluster_" ++ toString i
  name := name
  country := country
  centerLat := (centerOf pois).1
  centerLon := (centerOf pois).2
  pois := pois

/-- `_validate_and_name_clusters` for one group. -/
def validateCluster (clusterPois : List LocatedPoi) (i : ℕ) :
    Except PyError (Option CityCluster) :=
  if clusterPois.isEmpty then .ok none
  else if RadiusValid env config clusterPois then do
    let cityName ← determineClusterName clusterPois
    let country ← determineClusterCountry clusterPois
    .ok (some (cityCluster i cityName country clusterPois))
  else .ok none

/-! ## Scores -/

/-- The distances of the places of a cluster from its centre. -/
def CityCluster.distances (cluster : CityCluster) : List ℚ :=
  cluster.pois.map fun poi =>
    env.geodesicKm (cluster.centerLat, cluster.centerLon) (coordinates poi)

/-- `calculate_radius_km`. -/
def CityCluster.radiusKm (cluster : CityCluster) : ℚ :=
  if cluster.pois.length < 2 then 0 else ((cluster.distances env).max?).getD 0

/-- Words of generic names, and names of well-known cities. -/
def genericNames : List String := ["city", "cluster", "location", "place", "area"]

def knownCities : List String :=
  ["paris", "london", "berlin", "madrid", "rome", "amsterdam", "santiago", "valparaiso",
    "antofagasta", "calama"]

/-- `_assess_name_quality`. -/
def assessNameQuality (name : PyVal) : Except PyError ℚ :=
  if !name.truthy || name.isText "Unknown" then .ok (1 / 10)
  else
    match name with
    | .str text =>
        .ok
          (if genericNames.any fun generic => textIn generic (lowerText text) then 3 / 10
          else if text.toList.any Char.isDigit then 1 / 2
          else if lowerText text ∈ knownCities then 1
          else 7 / 10)
    | other =>
        .error (.attributeError ("'" ++ other.typeName ++ "' object has no attribute 'lower'"))

/-- `_assess_geographic_consistency`. -/
def CityCluster.geographicConsistency (cluster : CityCluster) : ℚ :=
  if cluster.pois.length < 2 then 1
  else
    let meanDistance := meanOf (cluster.distances env)
    let variance := meanOf ((cluster.distances env).map fun d => (d - meanDistance) ^ 2)
    min 1 (max (1 / 10) (1 - env.sqrt variance / 50))

/-- The confidence in a cluster. -/
def CityCluster.score (cluster : CityCluster) : Except PyError ℚ := do
  let poiFactor : ℚ := min 1 (cluster.pois.length / 5)
  let radius := cluster.radiusKm env
  let densityFactor := if 0 < radius then min 1 (cluster.pois.length / radius) else 1
  let nameQuality ← assessNameQuality cluster.name
  let geoConsistency := cluster.geographicConsistency env
  .ok ((poiFactor + densityFactor + nameQuality + geoConsistency) / 4)

/-- `_calculate_confidence_scores` for one cluster. -/
def CityCluster.scored (cluster : CityCluster) : Except PyError CityCluster := do
  let confidence ← cluster.score env
  .ok { cluster with confidence := confidence }

/-- `quality_clusters`. -/
def CityCluster.HasQuality (cluster : CityCluster) : Prop :=
  3 / 10 ≤ cluster.confidence ∧ config.minPoisPerCity ≤ cluster.pois.length

instance (cluster : CityCluster) : Decidable (cluster.HasQuality config) :=
  inferInstanceAs (Decidable (_ ∧ _))

/-- `cluster_pois_advanced` without its cache. -/
def computeClusters (pois : List LocatedPoi) : Except PyError (List CityCluster) := do
  let validated ← (refinedClusters env config pois).zipIdx.mapM fun group =>
    validateCluster env config group.1 group.2
  let final ← validated.reduceOption.mapM (CityCluster.scored env)
  .ok (final.filter fun cluster => cluster.HasQuality config)

/-! ## What becomes of a group -/

/-- The confidence in the cluster of a group. It depends on the name and the places only. -/
def groupConfidence (pois : List LocatedPoi) : Except PyError ℚ := do
  let cityName ← determineClusterName pois
  (cityCluster 0 cityName .none pois).score env

/-- A group becomes a cluster that is returned. -/
def isKept (pois : List LocatedPoi) : Bool :=
  !pois.isEmpty && RadiusValid env config pois && config.minPoisPerCity ≤ pois.length &&
    match groupConfidence env pois with
    | .ok confidence => 3 / 10 ≤ confidence
    | .error _ => false

variable {env config}

/-- A group is dropped, or gets a name and a country. -/
theorem validateCluster_cases {group : List LocatedPoi} {i : ℕ} {result : Option CityCluster}
    (hresult : validateCluster env config group i = .ok result) :
    (result = none ∧ isKept env config group = false) ∨
      ∃ name country, result = some (cityCluster i name country group) ∧ group ≠ [] ∧
        RadiusValid env config group ∧ determineClusterName group = .ok name ∧
        determineClusterCountry group = .ok country := by
  unfold validateCluster at hresult
  split at hresult
  · rename_i hempty
    cases hresult
    exact .inl ⟨rfl, by simp [isKept, hempty]⟩
  · rename_i hne
    split at hresult
    · rename_i hradius
      obtain ⟨name, hname, hrest⟩ := exists_of_bind_eq_ok hresult
      obtain ⟨country, hcountry, hdone⟩ := exists_of_bind_eq_ok hrest
      cases hdone
      exact .inr ⟨name, country, rfl, by simpa using hne, hradius, hname, hcountry⟩
    · rename_i hradius
      cases hresult
      exact .inl ⟨rfl, by simp [isKept, hradius]⟩

/-- A cluster is the one of a group that stands at an index among all groups. -/
structure CityCluster.Describes (env : ClusteringEnv) (cluster : CityCluster)
    (group : List LocatedPoi × ℕ) : Prop where
  clusterId : cluster.clusterId = "cluster_" ++ toString group.2
  pois : cluster.pois = group.1
  name : determineClusterName group.1 = .ok cluster.name
  country : determineClusterCountry group.1 = .ok cluster.country
  center : (cluster.centerLat, cluster.centerLon) = centerOf group.1
  confidence : groupConfidence env group.1 = .ok cluster.confidence

/-- A scored cluster has quality exactly when its group is kept. -/
theorem describes_of_scored {group : List LocatedPoi} {i : ℕ} {name country : PyVal}
    {cluster : CityCluster} (hne : group ≠ []) (hradius : RadiusValid env config group)
    (hname : determineClusterName group = .ok name)
    (hcountry : determineClusterCountry group = .ok country)
    (hscored : (cityCluster i name country group).scored env = .ok cluster) :
    cluster.Describes env (group, i) ∧
      (cluster.HasQuality config ↔ isKept env config group = true) := by
  obtain ⟨confidence, hscore, hdone⟩ := exists_of_bind_eq_ok hscored
  cases hdone
  have hconfidence : groupConfidence env group = .ok confidence := by
    unfold groupConfidence
    rw [hname]
    exact hscore
  refine ⟨⟨rfl, rfl, hname, hcountry, rfl, hconfidence⟩, ?_⟩
  unfold CityCluster.HasQuality isKept
  rw [hconfidence]
  simp [hne, hradius, cityCluster, and_comm]

/-- The groups that are kept, with their indices. -/
def keptGroups (env : ClusteringEnv) (config : ClusteringConfig) (pois : List LocatedPoi) :
    List (List LocatedPoi × ℕ) :=
  (refinedClusters env config pois).zipIdx.filter fun group => isKept env config group.1

/-- The scored clusters with quality are those of the groups that are kept. -/
theorem describes_of_mapM {groups : List (List LocatedPoi × ℕ)}
    {validated : List (Option CityCluster)} {final : List CityCluster}
    (hvalidated : groups.mapM (fun group => validateCluster env config group.1 group.2) =
      .ok validated)
    (hfinal : validated.reduceOption.mapM (CityCluster.scored env) = .ok final) :
    List.Forall₂ (CityCluster.Describes env)
      (final.filter fun cluster => cluster.HasQuality config)
      (groups.filter fun group => isKept env config group.1) := by
  induction groups generalizing validated final with
  | nil =>
      cases hvalidated
      cases hfinal
      exact .nil
  | cons group rest ih =>
      rw [List.mapM_cons] at hvalidated
      obtain ⟨first, hfirst, hothers⟩ := exists_of_bind_eq_ok hvalidated
      obtain ⟨others, hrest, hlist⟩ := exists_of_bind_eq_ok hothers
      cases hlist
      rcases validateCluster_cases hfirst with
        ⟨rfl, hdropped⟩ | ⟨name, country, rfl, hne, hradius, hname, hcountry⟩
      · rw [List.reduceOption_cons_of_none] at hfinal
        rw [List.filter_cons_of_neg (by simp [hdropped])]
        exact ih hrest hfinal
      · rw [List.reduceOption_cons_of_some, List.mapM_cons] at hfinal
        obtain ⟨cluster, hcluster, hothers⟩ := exists_of_bind_eq_ok hfinal
        obtain ⟨scored, hscored, hlist⟩ := exists_of_bind_eq_ok hothers
        cases hlist
        obtain ⟨hdescribes, hquality⟩ := describes_of_scored hne hradius hname hcountry hcluster
        have hkept := ih hrest hscored
        rw [List.filter_cons, List.filter_cons]
        by_cases hgood : cluster.HasQuality config
        · rw [if_pos (decide_eq_true hgood), if_pos (hquality.mp hgood)]
          exact .cons hdescribes hkept
        · rw [if_neg (by simpa using hgood), if_neg fun hkeeps => hgood (hquality.mpr hkeeps)]
          exact hkept

/-- The clusters are those of the groups that are kept, in their order. -/
theorem describes_computeClusters {pois : List LocatedPoi} {clusters : List CityCluster}
    (hclusters : computeClusters env config pois = .ok clusters) :
    List.Forall₂ (CityCluster.Describes env) clusters (keptGroups env config pois) := by
  obtain ⟨validated, hvalidated, hrest⟩ := exists_of_bind_eq_ok hclusters
  obtain ⟨final, hfinal, hdone⟩ := exists_of_bind_eq_ok hrest
  cases hdone
  exact describes_of_mapM hvalidated hfinal

/-- The places of the clusters are those of the groups that are kept. -/
theorem map_pois_computeClusters {pois : List LocatedPoi} {clusters : List CityCluster}
    (hclusters : computeClusters env config pois = .ok clusters) :
    clusters.map CityCluster.pois =
      (refinedClusters env config pois).filter (isKept env config) := by
  have hkept : (keptGroups env config pois).map Prod.fst =
      (refinedClusters env config pois).filter (isKept env config) := by
    rw [← List.zipIdx_map_fst 0 (refinedClusters env config pois), List.filter_map]
    rfl
  rw [← hkept]
  apply map_eq_map_of_forall₂ (describes_computeClusters hclusters)
  exact fun cluster group hdescribes => hdescribes.pois

end Goveling.MultiCity.Advanced
