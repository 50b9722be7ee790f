/-
# Whether City2Graph is worth it

`should_use_city2graph` adds up how many places, days, areas and kinds of places a request has and
how far they lie apart, and asks for City2Graph from a threshold on. More places and more days
only raise the sum, unless they join areas that were apart.

A list of cities restricts the choice to requests with one of them. The cities of a request are
the clusters of its places under names that are made up, so no city of a list is ever found while
the clustering works: with a list the classic optimizer answers every request.
-/

import Goveling.Api.MultimodalEngine
import Goveling.Api.RebuiltRequest
import Goveling.Math.FirstLeast
import Goveling.Math.Runs
import Goveling.Optimizer.Allocation
import Goveling.Ortools.DecisionEngine

namespace Goveling.Api.Hybrid

open Goveling.Math Goveling.Optimizer Goveling.Python
open Goveling.Ortools (AnalysisLibrary GeographicCluster cityNames detectGeographicClusters)

/-! ## The factors -/

/-- The settings that the decision reads. -/
structure City2graphSettings where
  enableCity2graph : Bool := false
  minPlaces : ℤ := 8
  minDays : ℤ := 3
  complexityThreshold : ℚ := 5
  cities : String := ""
  geoSpreadThresholdKm : ℚ := 50
  semanticTypesThreshold : ℤ := 3

/-- What the decision asks for: the libraries of the clustering, `haversine_km`, and the city that
`_extract_city_from_place` finds with Google or in the texts of a place. -/
structure City2graphServices where
  library : AnalysisLibrary
  haversineKm : ℚ → ℚ → ℚ → ℚ → ℚ
  extractCityFromPlace : PlaceFields → Except PyError (Option String)

/-- The types of places about which City2Graph knows more. -/
def semanticTypeTexts : List String :=
  ["museum", "tourist_attraction", "park", "art_gallery", "church", "synagogue", "mosque",
    "cemetery", "natural_feature", "university", "library", "town_hall", "courthouse", "locality",
    "neighborhood", "sublocality", "administrative_area", "cultural_center", "historical_site",
    "monument"]

/-- The type of a place as a text. -/
def placeTypeText (place : PlaceFields) : String :=
  lowerText (match place.type with
    | some type => type.value
    | none => "None")

/-- `_count_semantic_place_types`. -/
def countSemanticPlaceTypes (places : List PlaceFields) : List String :=
  ((places.map placeTypeText).filter (· ∈ semanticTypeTexts)).dedup

/-- The attributes of a place that the clustering reads. -/
def placeAttributes (place : PlaceFields) : PyVal :=
  .dict [("lat", .float place.lat), ("lon", .float place.lon)]

/-- The names of the clusters: the centre of a single one, or the numbers of several. -/
def clusterNames : List GeographicCluster → List String
  | [cluster] =>
      ["cluster_" ++ fixedText 1 cluster.centerLat ++ "_" ++ fixedText 1 cluster.centerLon]
  | clusters => clusters.zipIdx.map fun (cluster, i) =>
      "city_" ++ toString (i + 1) ++ "_" ++ toString cluster.placesCount ++ "_places"

/-- `_detect_multiple_cities_from_places`. -/
def detectMultipleCitiesFromPlaces (services : City2graphServices) (places : List PlaceFields) :
    Except PyError (List String) :=
  match detectGeographicClusters services.library (places.map placeAttributes) with
  | .ok clusters => .ok (clusterNames clusters)
  | .error _ => do
      let cities ← places.mapM services.extractCityFromPlace
      return ((cities.reduceOption.filter (· ≠ "")).map lowerText).dedup

/-- `_calculate_geographic_spread`. -/
def calculateGeographicSpread (services : City2graphServices) (places : List PlaceFields) : ℚ :=
  if places.length < 2 then 0
  else (orderedPairs places).foldl (fun maxDistance pair =>
    max maxDistance (services.haversineKm pair.1.lat pair.1.lon pair.2.lat pair.2.lon)) 0

/-- `min(value / threshold, most)`. -/
def cappedRatio (message : String) (value threshold most : ℚ) : Except PyError ℚ :=
  if threshold = 0 then .error (.zeroDivisionError message)
  else .ok (min (value / threshold) most)

/-- `trip_days`. -/
def RebuiltRequest.tripDays (request : RebuiltRequest) : ℤ :=
  request.startDate.daysUntil request.endDate + 1

/-- `complexity_factors`. -/
structure ComplexityFactors where
  placesCount : ℕ
  placesScore : ℚ
  tripDays : ℤ
  daysScore : ℚ
  citiesDetected : List String
  semanticTypes : List String
  typesScore : ℚ
  geoSpreadKm : ℚ
  spreadScore : ℚ

/-- The score of several areas. -/
def ComplexityFactors.citiesScore (factors : ComplexityFactors) : ℚ :=
  if 1 < factors.citiesDetected.length then 2 else 0

/-- `total_score`. -/
def ComplexityFactors.totalScore (factors : ComplexityFactors) : ℚ :=
  factors.placesScore + factors.daysScore + factors.citiesScore + factors.typesScore +
    factors.spreadScore

/-- A list in a description, or what stands for none. -/
def listedOr (empty : String) (items : List String) : String :=
  if items = [] then empty else String.intercalate ", " items

/-- The dictionary of the factors. -/
def ComplexityFactors.toDict (settings : City2graphSettings) (factors : ComplexityFactors) :
    PyDict :=
  let rated (value threshold : ℤ) (noun many few : String) : String :=
    toString value ++ noun ++ (if threshold ≤ value then many else few) ++ ")"
  [("places_complexity", .dict
      [("value", .int factors.placesCount),
        ("score", .float factors.placesScore),
        ("threshold", .int settings.minPlaces),
        ("description", .str
          (rated factors.placesCount settings.minPlaces " lugares (" "complejo" "simple"))]),
    ("duration_complexity", .dict
      [("value", .int factors.tripDays),
        ("score", .float factors.daysScore),
        ("threshold", .int settings.minDays),
        ("description", .str (rated factors.tripDays settings.minDays " días (" "largo" "corto"))]),
    ("multi_city", .dict
      [("cities", .list (factors.citiesDetected.map .str)),
        ("score", .float factors.citiesScore),
        ("description", .str (toString factors.citiesDetected.length ++ " ciudades detectadas: " ++
          listedOr "ninguna" factors.citiesDetected))]),
    ("semantic_richness", .dict
      [("semantic_types", .list (factors.semanticTypes.map .str)),
        ("score", .float factors.typesScore),
        ("description", .str (toString factors.semanticTypes.length ++ " tipos semánticos: " ++
          listedOr "ninguno" factors.semanticTypes))]),
    ("geographic_spread", .dict
      [("spread_km", .float factors.geoSpreadKm),
        ("score", .float factors.spreadScore),
        ("description", .str
          (fixedText 1 factors.geoSpreadKm ++ "km dispersión geográfica"))])]

/-! ## The decision -/

section Decision

variable (settings : City2graphSettings) (services : City2graphServices)

/-- The factors of a request. -/
def complexityFactors (request : RebuiltRequest) : Except PyError ComplexityFactors := do
  let placesRatio ← cappedRatio "division by zero" request.places.length settings.minPlaces 2
  let daysRatio ← cappedRatio "division by zero" request.tripDays settings.minDays 2
  let citiesDetected ← detectMultipleCitiesFromPlaces services request.places
  let semanticTypes := countSemanticPlaceTypes request.places
  let typesRatio ← cappedRatio "division by zero" semanticTypes.length
    settings.semanticTypesThreshold 1
  let geoSpreadKm := calculateGeographicSpread services request.places
  let spreadRatio ← cappedRatio "float division by zero" geoSpreadKm
    settings.geoSpreadThresholdKm 1
  return {
    placesCount := request.places.length
    placesScore := placesRatio * 3
    tripDays := request.tripDays
    daysScore := daysRatio * 3
    citiesDetected := citiesDetected
    semanticTypes := semanticTypes
    typesScore := typesRatio * 1
    geoSpreadKm := geoSpreadKm
    spreadScore := spreadRatio * 1 }

/-- The cities that City2Graph is enabled for do not have any of the detected ones. -/
def cityRestricted (citiesDetected : List String) : Bool :=
  settings.cities ≠ "" && cityNames settings.cities ≠ [] &&
    citiesDetected.all fun city => lowerText city ∉ cityNames settings.cities

/-- The factor that is added when the list of cities decides. -/
def cityRestriction (citiesDetected : List String) : PyDict :=
  [("city_restriction", .dict
    [("enabled_cities", .list ((cityNames settings.cities).map .str)),
      ("detected_cities", .list (citiesDetected.map .str)),
      ("description", .str "Ciudades detectadas no están en lista habilitada")])]

/-- `should_use_city2graph`. -/
def shouldUseCity2graph (request : RebuiltRequest) : Except PyError City2graphDecision :=
  if !settings.enableCity2graph then .ok { useCity2graph := false, complexityScore := 0 }
  else do
    let factors ← complexityFactors settings services request
    let complex := decide (settings.complexityThreshold ≤ factors.totalScore)
    let restricted := complex && cityRestricted settings factors.citiesDetected
    return {
      useCity2graph := complex && !restricted
      complexityScore := roundHalfEven (factors.totalScore * 10 ^ 2) / 10 ^ 2
      factors := factors.toDict settings ++
        if restricted then cityRestriction settings factors.citiesDetected else [] }

end Decision

/-! ## What larger requests score -/

/-- The settings divide by what is not zero. -/
structure City2graphSettings.Sound (settings : City2graphSettings) : Prop where
  minPlaces : 0 < settings.minPlaces
  minDays : 0 < settings.minDays
  geoSpreadThresholdKm : 0 < settings.geoSpreadThresholdKm
  semanticTypesThreshold : 0 < settings.semanticTypesThreshold

/-- DBSCAN has a label for whatever coordinates. -/
def City2graphServices.Clusters (services : City2graphServices) : Prop :=
  ∀ coordinates, ∃ labels, services.library.dbscanLabels coordinates = .ok labels

/-- A request with the places of another one and perhaps more in between, for as many days or
more. -/
structure RebuiltRequest.Within (request larger : RebuiltRequest) : Prop where
  places : request.places.Sublist larger.places
  days : request.tripDays ≤ larger.tripDays

/-- Several areas were found. -/
def ComplexityFactors.SeveralAreas (factors : ComplexityFactors) : Prop :=
  1 < factors.citiesDetected.length

instance (factors : ComplexityFactors) : Decidable factors.SeveralAreas :=
  inferInstanceAs (Decidable (_ < _))

/-- The factors of a request with the cities that were detected. -/
def factorsWith (settings : City2graphSettings) (services : City2graphServices)
    (request : RebuiltRequest) (citiesDetected : List String) : ComplexityFactors where
  placesCount := request.places.length
  placesScore := min ((request.places.length : ℚ) / settings.minPlaces) 2 * 3
  tripDays := request.tripDays
  daysScore := min ((request.tripDays : ℚ) / settings.minDays) 2 * 3
  citiesDetected := citiesDetected
  semanticTypes := countSemanticPlaceTypes request.places
  typesScore := min (((countSemanticPlaceTypes request.places).length : ℚ) /
    settings.semanticTypesThreshold) 1 * 1
  geoSpreadKm := calculateGeographicSpread services request.places
  spreadScore := min (calculateGeographicSpread services request.places /
    settings.geoSpreadThresholdKm) 1 * 1

section Scores

variable {settings : City2graphSettings} {services : City2graphServices}
  {request larger : RebuiltRequest} {places more : List PlaceFields}

theorem cappedRatio_of_ne_zero (message : String) (value : ℚ) {threshold : ℚ} (most : ℚ)
    (hthreshold : threshold ≠ 0) :
    cappedRatio message value threshold most = .ok (min (value / threshold) most) :=
  if_neg hthreshold

/-- Only the cities of a request can be missing. -/
theorem complexityFactors_eq (hsound : settings.Sound) (request : RebuiltRequest) :
    complexityFactors settings services request =
      (detectMultipleCitiesFromPlaces services request.places).map
        (factorsWith settings services request) := by
  have hplaces : (settings.minPlaces : ℚ) ≠ 0 := Int.cast_ne_zero.mpr hsound.minPlaces.ne'
  have hdays : (settings.minDays : ℚ) ≠ 0 := Int.cast_ne_zero.mpr hsound.minDays.ne'
  have htypes : (settings.semanticTypesThreshold : ℚ) ≠ 0 :=
    Int.cast_ne_zero.mpr hsound.semanticTypesThreshold.ne'
  unfold complexityFactors
  simp only [cappedRatio_of_ne_zero _ _ _ hplaces, cappedRatio_of_ne_zero _ _ _ hdays,
    cappedRatio_of_ne_zero _ _ _ htypes,
    cappedRatio_of_ne_zero _ _ _ hsound.geoSpreadThresholdKm.ne']
  cases detectMultipleCitiesFromPlaces services request.places with
  | error e => rfl
  | ok citiesDetected => rfl

/-- While the clustering works, the cities of a request are its clusters. -/
theorem exists_clusterNames (hclusters : services.Clusters) (places : List PlaceFields) :
    ∃ clusters, detectMultipleCitiesFromPlaces services places = .ok (clusterNames clusters) := by
  obtain ⟨clusters, hdetected⟩ : ∃ clusters,
      detectGeographicClusters services.library (places.map placeAttributes) = .ok clusters := by
    unfold detectGeographicClusters
    dsimp only
    obtain ⟨labels, hlabels⟩ :=
      hclusters (Ortools.validCoordinates services.library (places.map placeAttributes))
    rw [hlabels]
    split_ifs
    · exact ⟨[], rfl⟩
    · exact ⟨[], rfl⟩
    · exact ⟨_, rfl⟩
  refine ⟨clusters, ?_⟩
  unfold detectMultipleCitiesFromPlaces
  rw [hdetected]

theorem countSemanticPlaceTypes_length_le (hplaces : places ⊆ more) :
    (countSemanticPlaceTypes places).length ≤ (countSemanticPlaceTypes more).length := by
  have hsubset : countSemanticPlaceTypes places ⊆ countSemanticPlaceTypes more := by
    intro text htext
    unfold countSemanticPlaceTypes at htext ⊢
    rw [List.mem_dedup, List.mem_filter] at htext ⊢
    exact ⟨List.map_subset placeTypeText hplaces htext.1, htext.2⟩
  exact (List.subperm_of_subset (List.nodup_dedup _) hsubset).length_le

/-- Two elements of a list keep their order among more elements. -/
theorem orderedPairs_subset {α : Type} {items others : List α} (hitems : items.Sublist others) :
    orderedPairs items ⊆ orderedPairs others := by
  induction hitems with
  | slnil => exact List.Subset.refl _
  | cons other _ ih => exact List.subset_append_of_subset_right _ ih
  | cons_cons item hrest ih =>
      apply List.append_subset.mpr
      constructor
      · exact List.subset_append_of_subset_left _ (List.map_subset _ hrest.subset)
      · exact List.subset_append_of_subset_right _ ih

theorem orderedPairs_of_length_lt {α : Type} {items : List α} (hfew : items.length < 2) :
    orderedPairs items = [] := by
  match items, hfew with
  | [], _ => rfl
  | [_], _ => rfl

/-- Every two places are inside the spread. -/
theorem calculateGeographicSpread_le_iff {limit : ℚ} :
    calculateGeographicSpread services places ≤ limit ↔
      0 ≤ limit ∧ ∀ pair ∈ orderedPairs places,
        services.haversineKm pair.1.lat pair.1.lon pair.2.lat pair.2.lon ≤ limit := by
  have hloop := @foldl_max_le_iff _ _ _
    (fun pair : PlaceFields × PlaceFields =>
      services.haversineKm pair.1.lat pair.1.lon pair.2.lat pair.2.lon)
    (orderedPairs places) 0 limit
  unfold calculateGeographicSpread
  by_cases hfew : places.length < 2
  · rw [if_pos hfew, orderedPairs_of_length_lt hfew]
    exact (and_iff_left fun _ hpair => absurd hpair List.not_mem_nil).symm
  · rw [if_neg hfew]
    exact hloop

theorem calculateGeographicSpread_nonneg : 0 ≤ calculateGeographicSpread services places :=
  (calculateGeographicSpread_le_iff.mp le_rfl).1

/-- More places lie at least as far apart. -/
theorem calculateGeographicSpread_mono (hplaces : places.Sublist more) :
    calculateGeographicSpread services places ≤ calculateGeographicSpread services more := by
  obtain ⟨hnonneg, hpairs⟩ := calculateGeographicSpread_le_iff.mp
    (le_refl (calculateGeographicSpread services more))
  apply calculateGeographicSpread_le_iff.mpr
  exact ⟨hnonneg, fun pair hpair => hpairs pair (orderedPairs_subset hplaces hpair)⟩

/-- A capped ratio grows with its value. -/
theorem min_div_le_min_div {value other threshold : ℚ} (most : ℚ) (hthreshold : 0 < threshold)
    (hvalue : value ≤ other) : min (value / threshold) most ≤ min (other / threshold) most :=
  min_le_min_right most (div_le_div_of_nonneg_right hvalue hthreshold.le)

/-- Joining areas costs a request two points, and nothing else that is added costs any. -/
theorem totalScore_factorsWith_le (hsound : settings.Sound) (hwithin : request.Within larger)
    (citiesDetected others : List String) :
    let factors := factorsWith settings services request citiesDetected
    let further := factorsWith settings services larger others
    factors.totalScore ≤ further.totalScore +
      if factors.SeveralAreas ∧ ¬ further.SeveralAreas then 2 else 0 := by
  intro factors further
  have hlength : (request.places.length : ℚ) ≤ larger.places.length :=
    Nat.cast_le.mpr hwithin.places.length_le
  have hplaces : factors.placesScore ≤ further.placesScore :=
    mul_le_mul_of_nonneg_right
      (min_div_le_min_div 2 (Int.cast_pos.mpr hsound.minPlaces) hlength) (by norm_num)
  have hdays : factors.daysScore ≤ further.daysScore :=
    mul_le_mul_of_nonneg_right
      (min_div_le_min_div 2 (Int.cast_pos.mpr hsound.minDays) (Int.cast_le.mpr hwithin.days))
      (by norm_num)
  have htypes : factors.typesScore ≤ further.typesScore :=
    mul_le_mul_of_nonneg_right
      (min_div_le_min_div 1 (Int.cast_pos.mpr hsound.semanticTypesThreshold)
        (Nat.cast_le.mpr (countSemanticPlaceTypes_length_le hwithin.places.subset))) zero_le_one
  have hspread : factors.spreadScore ≤ further.spreadScore :=
    mul_le_mul_of_nonneg_right
      (min_div_le_min_div 1 hsound.geoSpreadThresholdKm
        (calculateGeographicSpread_mono hwithin.places)) zero_le_one
  have hcities : factors.citiesScore ≤ further.citiesScore +
      if factors.SeveralAreas ∧ ¬ further.SeveralAreas then 2 else 0 := by
    unfold ComplexityFactors.citiesScore ComplexityFactors.SeveralAreas
    by_cases hmany : 1 < factors.citiesDetected.length
    · by_cases hstill : 1 < further.citiesDetected.length <;> simp [hmany, hstill]
    · by_cases hnew : 1 < further.citiesDetected.length <;> simp [hmany, hnew]
  unfold ComplexityFactors.totalScore
  linarith

theorem tripDays_pos (hdates : request.startDate.toordinal ≤ request.endDate.toordinal) :
    0 < request.tripDays := by
  unfold RebuiltRequest.tripDays Date.daysUntil
  omega

/-- The score has sixteen points. -/
theorem totalScore_factorsWith_mem (hsound : settings.Sound)
    (hdates : request.startDate.toordinal ≤ request.endDate.toordinal)
    (citiesDetected : List String) :
    0 ≤ (factorsWith settings services request citiesDetected).totalScore ∧
      (factorsWith settings services request citiesDetected).totalScore ≤ 16 := by
  have hminPlaces : (0 : ℚ) < settings.minPlaces := Int.cast_pos.mpr hsound.minPlaces
  have hminDays : (0 : ℚ) < settings.minDays := Int.cast_pos.mpr hsound.minDays
  have htypes : (0 : ℚ) < settings.semanticTypesThreshold :=
    Int.cast_pos.mpr hsound.semanticTypesThreshold
  have hdays : (0 : ℚ) < request.tripDays := Int.cast_pos.mpr (tripDays_pos hdates)
  have hcapped : ∀ {value threshold : ℚ} (most : ℚ), 0 ≤ value → 0 < threshold → 0 ≤ most →
      0 ≤ min (value / threshold) most ∧ min (value / threshold) most ≤ most :=
    fun most hvalue hthreshold hmost =>
      ⟨le_min (div_nonneg hvalue hthreshold.le) hmost, min_le_right _ most⟩
  have hfirst := hcapped 2 (Nat.cast_nonneg request.places.length) hminPlaces zero_le_two
  have hsecond := hcapped 2 hdays.le hminDays zero_le_two
  have hthird := hcapped 1
    (Nat.cast_nonneg (countSemanticPlaceTypes request.places).length) htypes zero_le_one
  have hfourth := hcapped 1 (@calculateGeographicSpread_nonneg services request.places)
    hsound.geoSpreadThresholdKm zero_le_one
  have hcities : ∀ factors : ComplexityFactors,
      0 ≤ factors.citiesScore ∧ factors.citiesScore ≤ 2 := by
    intro factors
    unfold ComplexityFactors.citiesScore
    split_ifs <;> norm_num
  have hareas := hcities (factorsWith settings services request citiesDetected)
  unfold ComplexityFactors.totalScore
  simp only [factorsWith] at hareas ⊢
  constructor <;> linarith [hfirst.1, hfirst.2, hsecond.1, hsecond.2, hthird.1, hthird.2,
    hfourth.1, hfourth.2, hareas.1, hareas.2]

end Scores

/-! ## When City2Graph is selected -/

section Selection

variable {settings : City2graphSettings} {services : City2graphServices}
  {request larger : RebuiltRequest}

/-- A list of cities restricts the choice unless it is empty or has a detected one. -/
theorem cityRestricted_eq_false_iff {citiesDetected : List String} :
    cityRestricted settings citiesDetected = false ↔
      cityNames settings.cities = [] ∨
        ∃ city ∈ citiesDetected, lowerText city ∈ cityNames settings.cities := by
  have hnone : settings.cities = "" → cityNames settings.cities = [] := by
    intro hcities
    rw [hcities]
    decide
  unfold cityRestricted
  simp only [ne_eq, decide_not, Bool.and_eq_false_iff, Bool.not_eq_false', decide_eq_true_eq,
    List.all_eq_false, Bool.not_eq_true]
  grind

/-- City2Graph is selected when it is enabled, the score reaches the threshold, and one of the
cities is listed if any are. -/
theorem selects_iff :
    Selects (shouldUseCity2graph settings services) request ↔
      settings.enableCity2graph = true ∧
        ∃ factors, complexityFactors settings services request = .ok factors ∧
          settings.complexityThreshold ≤ factors.totalScore ∧
          (cityNames settings.cities = [] ∨
            ∃ city ∈ factors.citiesDetected, lowerText city ∈ cityNames settings.cities) := by
  have hboth : ∀ complex restricted : Bool,
      (complex && !(complex && restricted)) = true ↔ complex = true ∧ restricted = false := by
    decide
  unfold Selects shouldUseCity2graph
  cases settings.enableCity2graph with
  | false => simp
  | true =>
      cases complexityFactors settings services request with
      | error e => simp [bind, Except.bind]
      | ok factors =>
          simp only [bind, Except.bind, pure, Except.pure, Bool.not_true, Bool.false_eq_true,
            if_false, Except.ok.injEq, exists_eq_left', hboth, decide_eq_true_eq,
            cityRestricted_eq_false_iff, true_and]

/-- The decision about a request, while the clustering works: the score has sixteen points, and a
larger request has at least as many, but for the two of areas that were joined. So without a list
of cities it is selected as well, if it has several areas where the request has. -/
theorem shouldUseCity2graph_grows (settings : City2graphSettings) (hsound : settings.Sound)
    (services : City2graphServices) (hclusters : services.Clusters)
    (request larger : RebuiltRequest)
    (hdates : request.startDate.toordinal ≤ request.endDate.toordinal)
    (hwithin : request.Within larger) :
    ∃ factors further, complexityFactors settings services request = .ok factors ∧
      complexityFactors settings services larger = .ok further ∧
      (0 ≤ factors.totalScore ∧ factors.totalScore ≤ 16) ∧
      factors.totalScore ≤ further.totalScore +
        (if factors.SeveralAreas ∧ ¬ further.SeveralAreas then 2 else 0) ∧
      (cityNames settings.cities = [] → (factors.SeveralAreas → further.SeveralAreas) →
        Selects (shouldUseCity2graph settings services) request →
          Selects (shouldUseCity2graph settings services) larger) := by
  obtain ⟨clusters, hdetected⟩ := exists_clusterNames hclusters request.places
  obtain ⟨others, hothers⟩ := exists_clusterNames hclusters larger.places
  have hfactors := @complexityFactors_eq settings services hsound request
  have hfurther := @complexityFactors_eq settings services hsound larger
  rw [hdetected] at hfactors
  rw [hothers] at hfurther
  have hle := @totalScore_factorsWith_le settings services request larger hsound hwithin
    (clusterNames clusters) (clusterNames others)
  refine ⟨_, _, hfactors, hfurther, totalScore_factorsWith_mem hsound hdates _, hle, ?_⟩
  intro hlist hareas hselects
  obtain ⟨henabled, factors, hok, hthreshold, -⟩ := selects_iff.mp hselects
  rw [hfactors] at hok
  cases hok
  dsimp only at hle
  rw [if_neg fun hjoined => hjoined.2 (hareas hjoined.1), add_zero] at hle
  exact selects_iff.mpr ⟨henabled, _, hfurther, hthreshold.trans hle, .inl hlist⟩

end Selection

/-! ## Lists of cities -/

/-- A name begins like those that clusters are given. -/
def ClusterLike (name : String) : Prop :=
  "cluster_".toList <+: name.toList ∨ "city_".toList <+: name.toList

instance (name : String) : Decidable (ClusterLike name) :=
  inferInstanceAs (Decidable (_ ∨ _))

/-- A trip that the optimizer is asked for, with the dates as the decision has them. -/
structure DecidedTrip where
  env : EngineEnv
  services : City2graphServices
  trip : TripRequest
  startDate : Date
  endDate : Date
  starts : (startDate.toordinal : ℤ) = trip.startDate
  ends : (endDate.toordinal : ℤ) = trip.endDate
  now : ℚ

namespace DecidedTrip

variable (settings : City2graphSettings) (breaker : City2graphCircuitBreaker)

/-- The trip served. -/
def serve (decided : DecidedTrip) : EngineRun :=
  optimizeItineraryHybridV31
    (withDecision decided.env (shouldUseCity2graph settings decided.services) decided.trip.places
      decided.startDate decided.endDate)
    decided.now breaker decided.trip

/-- The breaker after the trip. -/
def step (decided : DecidedTrip) : City2graphCircuitBreaker :=
  (decided.serve settings breaker).breaker

end DecidedTrip

section Listed

variable {settings : City2graphSettings} {services : City2graphServices}

theorem toList_lowerText_append (first second : String) :
    (lowerText (first ++ second)).toList =
      first.toList.map Char.toLower ++ second.toList.map Char.toLower := by
  unfold lowerText
  rw [String.toList_ofList, String.toList_append, List.map_append]

/-- Clusters are never called like anything else. -/
theorem clusterLike_of_mem_clusterNames {clusters : List GeographicCluster} {city : String}
    (hcity : city ∈ clusterNames clusters) : ClusterLike (lowerText city) := by
  have hnumbered : ∀ others : List GeographicCluster,
      city ∈ others.zipIdx.map (fun (cluster, i) =>
        "city_" ++ toString (i + 1) ++ "_" ++ toString cluster.placesCount ++ "_places") →
      ClusterLike (lowerText city) := by
    intro others hmem
    obtain ⟨⟨cluster, i⟩, -, rfl⟩ := List.mem_map.mp hmem
    right
    dsimp only
    rw [String.append_assoc, String.append_assoc, String.append_assoc, toList_lowerText_append]
    exact List.prefix_append _ _
  unfold clusterNames at hcity
  split at hcity
  · rw [List.mem_singleton.mp hcity]
    left
    rw [String.append_assoc, String.append_assoc, toList_lowerText_append]
    exact List.prefix_append _ _
  · exact hnumbered clusters hcity

theorem citiesDetected_of_complexityFactors {request : RebuiltRequest} {factors : ComplexityFactors}
    (hfactors : complexityFactors settings services request = .ok factors) :
    detectMultipleCitiesFromPlaces services request.places = .ok factors.citiesDetected := by
  unfold complexityFactors at hfactors
  obtain ⟨placesRatio, -, hrest⟩ := exists_of_bind_eq_ok hfactors
  obtain ⟨daysRatio, -, hrest⟩ := exists_of_bind_eq_ok hrest
  obtain ⟨citiesDetected, hcities, hrest⟩ := exists_of_bind_eq_ok hrest
  obtain ⟨typesRatio, -, hrest⟩ := exists_of_bind_eq_ok hrest
  obtain ⟨spreadRatio, -, hrest⟩ := exists_of_bind_eq_ok hrest
  cases hrest
  exact hcities

/-- While the clustering works, no request has a city of a list. -/
theorem not_selects_of_listed (hlisted : cityNames settings.cities ≠ [])
    (hnames : ∀ name ∈ cityNames settings.cities, ¬ ClusterLike name)
    (hclusters : services.Clusters) (request : RebuiltRequest) :
    ¬ Selects (shouldUseCity2graph settings services) request := by
  intro hselects
  obtain ⟨-, factors, hfactors, -, hnone | ⟨city, hcity, hin⟩⟩ := selects_iff.mp hselects
  · exact hlisted hnone
  · obtain ⟨clusters, hdetected⟩ := exists_clusterNames hclusters request.places
    rw [citiesDetected_of_complexityFactors hfactors] at hdetected
    rw [Except.ok.inj hdetected] at hcity
    exact hnames _ hin (clusterLike_of_mem_clusterNames hcity)

/-- A trip that is not selected for City2Graph leaves everything to the classic optimizer. -/
theorem DecidedTrip.serve_of_not_selects {decided : DecidedTrip}
    (hselects : ∀ request, ¬ Selects (shouldUseCity2graph settings decided.services) request)
    (breaker : City2graphCircuitBreaker) :
    decided.serve settings breaker =
      { outcome := decided.env.classic, breaker := breaker, classicRuns := 1 } := by
  have hstage : city2graphStage (withDecision decided.env
      (shouldUseCity2graph settings decided.services) decided.trip.places decided.startDate
      decided.endDate) decided.now breaker decided.trip = none := by
    unfold city2graphStage
    cases hdecided : (withDecision decided.env (shouldUseCity2graph settings decided.services)
        decided.trip.places decided.startDate decided.endDate).city2graphDecision with
    | error e => rfl
    | ok decision =>
        obtain ⟨rebuilt, -, hdecision⟩ := exists_of_bind_eq_ok hdecided
        have huse : decision.useCity2graph ≠ true := fun huse =>
          hselects rebuilt ⟨decision, hdecision, huse⟩
        dsimp only
        rw [if_neg fun hboth => huse (Bool.and_eq_true_iff.mp hboth).1]
  unfold serve optimizeItineraryHybridV31
  rw [ortoolsStage_eq_none, hstage]
  rfl

/-- With a list of cities that are not called like clusters, and while the clustering works, the
classic optimizer answers every trip of every run, once, and the breaker of City2Graph never
changes. Nor does the multimodal endpoint ask for anything else. -/
theorem shouldUseCity2graph_listed (settings : City2graphSettings)
    (hlisted : cityNames settings.cities ≠ [])
    (hnames : ∀ name ∈ cityNames settings.cities, ¬ ClusterLike name)
    (breaker : City2graphCircuitBreaker) (trips : List DecidedTrip)
    (hclusters : ∀ decided ∈ trips, decided.services.Clusters) :
    (∀ moment ∈ moments (DecidedTrip.step settings) breaker trips,
      moment.2.serve settings moment.1 =
        { outcome := moment.2.env.classic, breaker := breaker, classicRuns := 1 }) ∧
      ∀ services : City2graphServices, services.Clusters →
        ∀ request decision, shouldUseCity2graph settings services request = .ok decision →
          ∀ outcomes : Multimodal.EngineOutcomes,
            outcomes.useCity2graph = decision.useCity2graph →
            (Multimodal.chooseEngine outcomes).engines = [.classic] := by
  constructor
  · have hserve : ∀ decided ∈ trips, ∀ current, decided.serve settings current =
        { outcome := decided.env.classic, breaker := current, classicRuns := 1 } :=
      fun decided hdecided current => DecidedTrip.serve_of_not_selects
        (not_selects_of_listed hlisted hnames (hclusters decided hdecided)) current
    intro moment hmoment
    obtain ⟨before, after, hsplit, hstate⟩ := mem_moments_iff.mp hmoment
    have hsame : moment.1 = breaker := by
      rw [hstate]
      refine @runEnd_history _ _ _ (fun _ current => current = breaker) _ rfl before ?_
      intro past current decided hdecided hcurrent
      have hmem : decided ∈ trips := by
        rw [hsplit]
        exact List.mem_append_left _ hdecided
      unfold DecidedTrip.step
      rw [hserve decided hmem current]
      exact hcurrent
    have hmem : moment.2 ∈ trips := by
      rw [hsplit]
      exact List.mem_append_right _ List.mem_cons_self
    rw [hserve moment.2 hmem moment.1, hsame]
  · intro services hservices request decision hdecision outcomes huse
    have hnot : decision.useCity2graph = false := by
      apply Bool.eq_false_iff.mpr
      intro hselected
      exact not_selects_of_listed hlisted hnames hservices request
        ⟨decision, hdecision, hselected⟩
    rw [Multimodal.chooseEngine_of_not_useCity2graph (huse.trans hnot)]

end Listed

/-! ## A month in the desert -/

/-- Functions that behave as the services do for places next to each other. -/
def nearbyServices : City2graphServices where
  library := Ortools.plainLibrary
  haversineKm := fun _ _ _ _ => 0
  extractCityFromPlace := fun _ => .ok none

theorem clusters_nearbyServices : nearbyServices.Clusters := fun _ => ⟨_, rfl⟩

/-- The park next to the museum. -/
def desertPark : PlaceFields :=
  { name := "Parque del Desierto", lat := -23, lon := -70, type := some .park }

theorem valid_2026 : 1 ≤ 2026 ∧ 2026 ≤ 9999 := by decide

theorem valid_march : 1 ≤ 3 ∧ 3 ≤ 12 := by decide

theorem valid_april : 1 ≤ 4 ∧ 4 ≤ 12 := by decide

/-- The first of March. -/
def firstOfMarch : Date := Date.firstOfMonth 2026 3 valid_2026 valid_march

/-- The first of April. -/
def firstOfApril : Date := Date.firstOfMonth 2026 4 valid_2026 valid_april

/-- A day at the museum. -/
def desertDay : RebuiltRequest where
  places := [desertMuseum.toPlaceFields]
  startDate := firstOfMarch
  endDate := firstOfMarch

/-- The museum and the park for a month. -/
def desertMonth : RebuiltRequest where
  places := [desertMuseum.toPlaceFields, desertPark]
  startDate := firstOfMarch
  endDate := firstOfApril

theorem desertDay_within_desertMonth : desertDay.Within desertMonth where
  places := List.Sublist.cons_cons _ (List.nil_sublist _)
  days := by decide +kernel

theorem shouldUseCity2graph_grows_desert :
    ∃ factors further, complexityFactors {} nearbyServices desertDay = .ok factors ∧
      complexityFactors {} nearbyServices desertMonth = .ok further ∧
      factors.totalScore ≤ further.totalScore + 2 := by
  obtain ⟨factors, further, hfactors, hfurther, -, hle, -⟩ :=
    shouldUseCity2graph_grows {} ⟨by decide, by decide, by norm_num, by decide⟩ nearbyServices
      clusters_nearbyServices desertDay desertMonth le_rfl desertDay_within_desertMonth
  refine ⟨factors, further, hfactors, hfurther, hle.trans (add_le_add_right ?_ _)⟩
  split_ifs <;> norm_num

/-- City2Graph is enabled for two cities. -/
def twoCitySettings : City2graphSettings :=
  { enableCity2graph := true, cities := "Santiago, Valparaíso" }

/-- A day at the museum that is asked for where City2Graph is enabled. -/
def museumTrip : DecidedTrip where
  env := { healthyOrtools with enableCity2graph := true }
  services := nearbyServices
  trip :=
    { places := [desertMuseum.modelDump]
      startDate := firstOfMarch.toordinal
      endDate := firstOfMarch.toordinal }
  startDate := firstOfMarch
  endDate := firstOfMarch
  starts := rfl
  ends := rfl
  now := 1

theorem shouldUseCity2graph_listed_museum :
    museumTrip.serve twoCitySettings {} =
      { outcome := .ok [("days", .list []), ("optimization_metrics", .dict [])]
        breaker := {}
        classicRuns := 1 } :=
  (shouldUseCity2graph_listed twoCitySettings (by decide +kernel) (by decide +kernel) {}
    [museumTrip] (List.forall_mem_singleton.mpr clusters_nearbyServices)).1
    ({}, museumTrip) List.mem_cons_self

end Goveling.Api.Hybrid
