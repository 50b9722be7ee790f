/-
# The analysis of a multi-city trip

The analysis measures all pairs of cities, and the score of the endpoint takes a share of the
largest distance off one. Three thousand kilometres take all of it. The schema of the response
asks for a score of at least zero, so a trip that is wider is answered with an error.
-/

import Goveling.Api.MultiCityEndpoint

namespace Goveling.MultiCity

open Goveling.Python

universe u

/-! ## The intercity service -/

/-- The dictionary of `analyze_multi_city_complexity`. Up to one city some keys are missing. -/
structure ComplexityAnalysis where
  complexity : String
  totalCities : ℕ
  totalCountries : Option ℕ := none
  maxIntercityDistanceKm : Option ℚ := none
  avgIntercityDistanceKm : Option ℚ := none
  requiresIntercityOptimization : Bool
  requiresAccommodation : Option Bool := none
  requiresInternationalPlanning : Option Bool := none
  estimatedTripDays : Option ℕ := none
  recommendation : String

section Complexity

variable {P : Type u} (distanceTo : DistanceTo P)

/-- `all_distances`: from each city to those behind it. -/
def allDistances : List (City P) → List ℚ
  | [] => []
  | city :: rest => rest.map (distanceTo city) ++ allDistances rest

/-- `max(all_distances) if all_distances else 0`. -/
def largestDistance (cities : List (City P)) : ℚ := ((allDistances distanceTo cities).max?).getD 0

/-- The complexity of a trip through several cities. -/
def complexityOf (cityCount : ℕ) (maxDistance : ℚ) : String :=
  if cityCount = 2 ∧ maxDistance ≤ 100 then "simple_intercity"
  else if cityCount ≤ 3 ∧ maxDistance ≤ 300 then "medium_intercity"
  else if cityCount ≤ 5 ∧ maxDistance ≤ 800 then "complex_intercity"
  else "international_complex"

/-- `_estimate_trip_days`. -/
def estimateTripDays (cityCount : ℕ) (maxDistance : ℚ) : ℕ :=
  if 500 < maxDistance then cityCount + 2
  else if 200 < maxDistance then cityCount + 1
  else cityCount

/-- `_get_optimization_recommendation`. -/
def getOptimizationRecommendation (complexity : String) : String :=
  match complexity with
  | "simple_intercity" => "hybrid_with_ortools"
  | "medium_intercity" => "intercity_with_accommodation"
  | "complex_intercity" => "full_multi_city_architecture"
  | "international_complex" => "specialized_international_planning"
  | _ => "custom_solution_needed"

/-- `analyze_multi_city_complexity`. -/
def analyzeMultiCityComplexity (cities : List (City P)) : ComplexityAnalysis :=
  if cities.length ≤ 1 then
    { complexity := "simple"
      totalCities := cities.length
      requiresIntercityOptimization := false
      recommendation := "single_city_optimization" }
  else
    let distances := allDistances distanceTo cities
    let maxDistance := largestDistance distanceTo cities
    let complexity := complexityOf cities.length maxDistance
    let countries := (cities.map City.country).dedup.length
    { complexity := complexity
      totalCities := cities.length
      totalCountries := some countries
      maxIntercityDistanceKm := some maxDistance
      avgIntercityDistanceKm :=
        some (if distances.isEmpty then 0 else distances.sum / distances.length)
      requiresIntercityOptimization := true
      requiresAccommodation := some (300 < maxDistance)
      requiresInternationalPlanning := some (1 < countries)
      estimatedTripDays := some (estimateTripDays cities.length maxDistance)
      recommendation := getOptimizationRecommendation complexity }

/-- All distances are inside a bound exactly when those of each pair are. -/
theorem forall_mem_allDistances_iff {cities : List (City P)} {bound : ℚ} :
    (∀ distance ∈ allDistances distanceTo cities, distance ≤ bound) ↔
      cities.Pairwise fun first second => distanceTo first second ≤ bound := by
  induction cities with
  | nil => simp [allDistances]
  | cons city rest ih =>
      rw [allDistances, List.pairwise_cons, ← ih, List.forall_mem_append]
      apply and_congr_left'
      simp

/-- The largest distance is inside a bound exactly when those of each pair are. -/
theorem largestDistance_le_iff {cities : List (City P)} {bound : ℚ} (hbound : 0 ≤ bound) :
    largestDistance distanceTo cities ≤ bound ↔
      cities.Pairwise fun first second => distanceTo first second ≤ bound := by
  rw [← forall_mem_allDistances_iff]
  unfold largestDistance
  cases hmax : (allDistances distanceTo cities).max? with
  | none =>
      rw [List.max?_eq_none_iff.mp hmax]
      simpa using hbound
  | some farthest => exact List.max?_le_iff hmax

/-- Up to one city there is no pair to measure. -/
theorem maxIntercityDistanceKm_le_iff {cities : List (City P)} {bound : ℚ} (hbound : 0 ≤ bound) :
    ((analyzeMultiCityComplexity distanceTo cities).maxIntercityDistanceKm).getD 0 ≤ bound ↔
      cities.Pairwise fun first second => distanceTo first second ≤ bound := by
  unfold analyzeMultiCityComplexity
  split_ifs with hfew
  · have hnone : cities.Pairwise fun first second => distanceTo first second ≤ bound := by
      match cities, hfew with
      | [], _ => exact List.Pairwise.nil
      | [city], _ => exact List.pairwise_singleton _ city
    exact iff_of_true hbound hnone
  · exact largestDistance_le_iff distanceTo hbound

end Complexity

end Goveling.MultiCity

namespace Goveling.Api.MultiCity

open Goveling.MultiCity Goveling.Python

/-! ## The endpoint -/

/-- `MultiCityAnalysisResponse`. The schema bounds the score, and takes five levels. -/
structure MultiCityAnalysisResponse where
  citiesDetected : ℕ
  countriesDetected : ℕ
  maxIntercityDistanceKm : ℚ
  complexityLevel : String
  recommendedDurationDays : ℕ
  optimizationRecommendation : String
  feasibilityScore : ℚ
  warnings : List String
  score_mem : 0 ≤ feasibilityScore ∧ feasibilityScore ≤ 1
  level_mem : complexityLevel ∈
    ["simple", "intercity", "international", "complex", "international_complex"]

/-- What the endpoint meets outside: the libraries of the clustering, and the text of the
exception that the schema raises for a score. -/
structure AnalysisEnv where
  clustering : ClusteringEnv
  scoreError : ℚ → String

/-- The dictionary that is analysed for a place. It has no duration of the visit. -/
def analysedPoi (place : Place) : Poi := { poiData place with visitDurationHours := 0 }

/-- The cities that are detected among places. -/
def detectedCities (env : AnalysisEnv) (places : List Place) : List (City Poi) :=
  Simple.convertClustersToCities (clusterPoisAdvanced env.clustering (places.map analysedPoi))

/-- `complexity_map.get(complexity, 'complex')`. -/
def complexityLevelOf (complexity : String) : String :=
  match complexity with
  | "simple_intercity" => "simple"
  | "medium_intercity" => "intercity"
  | "complex_intercity" => "international"
  | "international_complex" => "international_complex"
  | _ => "complex"

theorem complexityLevelOf_mem (complexity : String) : complexityLevelOf complexity ∈
    ["simple", "intercity", "international", "complex", "international_complex"] := by
  unfold complexityLevelOf
  split <;> decide

/-- `feasibility_score`. -/
def feasibilityScoreOf (maxIntercityDistanceKm : ℚ) : ℚ :=
  min 1 (1 - maxIntercityDistanceKm / 3000)

/-- The warnings about a trip. -/
def warningsOf (analysis : ComplexityAnalysis) (poisCount : ℕ) : List String :=
  (if 1500 < analysis.maxIntercityDistanceKm.getD 0 then
    ["Distancias muy largas entre ciudades - considerar vuelos"] else []) ++
  (if 3 < analysis.totalCountries.getD 0 then
    ["Viaje multi-país complejo - requiere planificación avanzada"] else []) ++
  (if 20 < poisCount then ["Muchos POIs - considerar extender duración del viaje"] else [])

/-- `analyze_multi_city_feasibility`. A score that the schema does not take becomes an error of
the server. -/
def analyzeMultiCityFeasibility (env : AnalysisEnv) (places : List Place) :
    Except HTTPException MultiCityAnalysisResponse :=
  let cities := detectedCities env places
  let analysis := analyzeMultiCityComplexity (Simple.ClusteringEnv.distanceTo env.clustering) cities
  let maxDistance := analysis.maxIntercityDistanceKm.getD 0
  if hscore : 0 ≤ feasibilityScoreOf maxDistance ∧ feasibilityScoreOf maxDistance ≤ 1 then
    .ok
      { citiesDetected := analysis.totalCities
        countriesDetected := analysis.totalCountries.getD 1
        maxIntercityDistanceKm := maxDistance
        complexityLevel := complexityLevelOf analysis.complexity
        recommendedDurationDays := analysis.estimatedTripDays.getD 7
        optimizationRecommendation := analysis.recommendation
        feasibilityScore := feasibilityScoreOf maxDistance
        warnings := warningsOf analysis places.length
        score_mem := hscore
        level_mem := complexityLevelOf_mem analysis.complexity }
  else
    .error ⟨500, "Error analyzing multi-city feasibility: " ++
      env.scoreError (feasibilityScoreOf maxDistance)⟩

/-! ## When the endpoint answers -/

/-- The score is one that the schema takes up to three thousand kilometres. -/
theorem feasibilityScoreOf_mem_iff {maxDistance : ℚ} :
    (0 ≤ feasibilityScoreOf maxDistance ∧ feasibilityScoreOf maxDistance ≤ 1) ↔
      maxDistance ≤ 3000 := by
  unfold feasibilityScoreOf
  rw [and_iff_left (min_le_left _ _), le_min_iff, and_iff_right zero_le_one, sub_nonneg,
    div_le_one (by norm_num)]

/-- The endpoint answers with a response of its schema exactly when no two detected cities are
more than three thousand kilometres apart. -/
theorem exists_analysis_iff (env : AnalysisEnv) (places : List Place) :
    (∃ response, analyzeMultiCityFeasibility env places = .ok response ∧
        0 ≤ response.feasibilityScore ∧ response.feasibilityScore ≤ 1) ↔
      (detectedCities env places).Pairwise fun first second =>
        Simple.ClusteringEnv.distanceTo env.clustering first second ≤ 3000 := by
  rw [← maxIntercityDistanceKm_le_iff _ (by norm_num), ← feasibilityScoreOf_mem_iff]
  unfold analyzeMultiCityFeasibility
  constructor
  · rintro ⟨response, hresponse, -⟩
    dsimp only at hresponse
    split_ifs at hresponse with hscore
    exact hscore
  · intro hscore
    exact ⟨_, dif_pos hscore, hscore⟩

/-- A library that tells places apart by whole degrees of longitude. -/
def longitudeClustering : ClusteringEnv where
  latlngToCell := fun _ lon => toString ⌊lon⌋
  dbscanLabels := fun points => points.map fun _ => 0
  geodesicKm := fun p q => 111 * |p.2 - q.2|
  confidence := fun _ => 1

def longitudeEnv : AnalysisEnv where
  clustering := longitudeClustering
  scoreError := fun _ => "1 validation error for MultiCityAnalysisResponse"

/-- A place in South America and one in Europe. -/
def twoContinents : List Place :=
  [{ name := "Santiago", lat := 0, lon := -70, category := none },
    { name := "Madrid", lat := 0, lon := -4, category := none }]

/-- A trip over an ocean is an error of the server. -/
theorem not_exists_analysis_twoContinents :
    ¬ ∃ response, analyzeMultiCityFeasibility longitudeEnv twoContinents = .ok response ∧
      0 ≤ response.feasibilityScore ∧ response.feasibilityScore ≤ 1 := by
  rintro ⟨response, hresponse, -⟩
  have hfar : ¬ (0 ≤ feasibilityScoreOf (66 * 111) ∧ feasibilityScoreOf (66 * 111) ≤ 1) := by
    decide +kernel
  have hdistance : (analyzeMultiCityComplexity
      (Simple.ClusteringEnv.distanceTo longitudeEnv.clustering)
      (detectedCities longitudeEnv twoContinents)).maxIntercityDistanceKm = some (66 * 111) := by
    decide +kernel
  unfold analyzeMultiCityFeasibility at hresponse
  simp only [hdistance, Option.getD_some, dif_neg hfar] at hresponse
  cases hresponse

end Goveling.Api.MultiCity
