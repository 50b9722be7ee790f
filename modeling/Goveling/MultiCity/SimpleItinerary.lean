/-
# The itinerary of `MultiCityOptimizerSimple`

Places are clustered into cities, and the number of the cities, their countries and
distances choose a strategy; all but one city end in the same loop. Whatever the
days of the cities are, some city has places in the schedules, and the schedules
hold nothing but the places of the request.
-/

import Goveling.MultiCity.CityClustering
import Goveling.MultiCity.SimpleOptimizer

namespace Goveling.MultiCity.Simple

open Goveling.Math Goveling.Python

universe u

/-- `_convert_clusters_to_cities`. -/
def convertClustersToCities (clusters : List CityCluster) : List (City Poi) :=
  clusters.map fun cluster =>
    { name := cluster.name
      centerLat := cluster.centerLat
      centerLon := cluster.centerLon
      country := cluster.country
      pois := cluster.pois }

section Strategy

variable {P : Type u} (distanceTo : DistanceTo P)

/-- The largest distance of a city to one behind it. -/
def maxDistance : List (City P) → ℚ → ℚ
  | [], farthest => farthest
  | city :: rest, farthest =>
      maxDistance rest (rest.foldl (fun farthest other =>
        max farthest (distanceTo city other)) farthest)

/-- `_determine_optimization_strategy`. -/
def determineOptimizationStrategy (cities : List (City P)) : OptimizationStrategy :=
  let farthest := maxDistance distanceTo cities 0
  let countries := (cities.map City.country).dedup
  if cities.length ≤ 1 then .singleCityOrtools
  else if cities.length = 2 ∧ farthest ≤ mkRat 300 1 then .intercityHybrid
  else if 1 < countries.length ∨ mkRat 800 1 < farthest then .multiCountryComplex
  else .intercityHybrid

end Strategy

/-- `_infer_city_name_from_pois`. -/
def inferCityNameFromPois (pois : List Poi) : String :=
  (pois.findSome? fun poi => nonempty poi.city).getD
    ("City_" ++ toString pois.length ++ "_POIs")

/-- `_infer_country_from_pois`. -/
def inferCountryFromPois (pois : List Poi) : String :=
  (pois.findSome? fun poi => nonempty poi.country).getD "Unknown"

/-- `_optimize_single_city_simple`; without places the mean divides by zero. -/
def optimizeSingleCitySimple (pois : List Poi) (days : ℤ) :
    Except PyError (MultiCityItinerary Poi) :=
  if pois.isEmpty then .error (.zeroDivisionError "division by zero")
  else .ok
    { cities := [{ name := inferCityNameFromPois pois
                   centerLat := meanOf (pois.map Poi.lat)
                   centerLon := meanOf (pois.map Poi.lon)
                   country := inferCountryFromPois pois
                   pois := pois }]
      dailySchedules := simpleDailyDistribution pois days
      totalDurationDays := days
      optimizationStrategy := .singleCityOrtools
      confidence := mkRat 8 10 }

/-- The distance the libraries give for two cities. -/
def ClusteringEnv.distanceTo (env : ClusteringEnv) : DistanceTo Poi := fun first second =>
  env.geodesicKm (first.centerLat, first.centerLon) (second.centerLat, second.centerLon)

/-- `optimize_multi_city_itinerary`. `_optimize_multi_country_simple` calls the same loop
as `_optimize_intercity_hybrid_simple`. -/
def optimizeMultiCityItinerary (env : ClusteringEnv) (share : Share) (pois : List Poi)
    (tripDurationDays : ℤ) (startCity : Option String) :
    Except PyError (MultiCityItinerary Poi) :=
  let distanceTo := ClusteringEnv.distanceTo env
  let cities := convertClustersToCities (clusterPoisAdvanced env pois)
  match determineOptimizationStrategy distanceTo cities with
  | .singleCityOrtools => optimizeSingleCitySimple pois tripDurationDays
  | _ => .ok (optimizeIntercityHybridSimple distanceTo share cities tripDurationDays startCity)

/-! ## What the schedules hold -/

/-- A day of one city holds places of the city. -/
theorem mem_pois_of_get? {P : Type u} {pois : List P} {days day : ℤ} {dayPois : List P}
    (hget : (simpleDailyDistribution pois days).get? day = some dayPois) : dayPois ⊆ pois := by
  have hmem := OrderedMap.mem_of_get?_eq_some hget
  unfold simpleDailyDistribution at hmem
  split at hmem
  · cases hmem
  · rcases OrderedMap.mem_entries_setAll hmem with hnone | hdealt
    · cases hnone
    · obtain ⟨offset, -, heq⟩ := List.mem_map.mp hdealt
      obtain ⟨-, rfl⟩ := Prod.mk.inj heq
      intro poi hpoi
      exact List.mem_of_mem_take (List.mem_of_mem_drop hpoi)

section Scheduled

variable {P : Type u} {share : Share} {days : ℤ} {sequence : List (City P)}

/-- The schedules hold only places of cities. -/
theorem mem_of_mem_cityBlocks {daysPerCity : OrderedMap String ℤ} {entry : ℤ × List P}
    (hentry : entry ∈ (OrderedMap.empty.setAll
      (laidOut 1 (sequence.map (cityBlock daysPerCity)))).entries) {poi : P}
    (hpoi : poi ∈ entry.2) : ∃ city ∈ sequence, poi ∈ city.pois := by
  rcases OrderedMap.mem_entries_setAll hentry with hnone | hlaid
  · cases hnone
  · have hcontents : entry.2 ∈ (sequence.map (cityBlock daysPerCity)).flatMap Block.contents := by
      rw [← map_snd_laidOut 1]
      exact List.mem_map_of_mem hlaid
    have hflat : poi ∈ ((sequence.map (cityBlock daysPerCity)).flatMap Block.contents).flatten :=
      List.mem_flatten.mpr ⟨entry.2, hcontents, hpoi⟩
    rw [flatten_contents_cityBlocks] at hflat
    obtain ⟨city, hcity, hmem⟩ := List.mem_flatMap.mp hflat
    split at hmem
    · exact ⟨city, hcity, hmem⟩
    · cases hmem

/-- Some city has a day. -/
theorem exists_daysOf_pos (hsequence : sequence ≠ []) (hdays : 1 ≤ days) :
    ∃ city ∈ sequence, 1 ≤ daysOf (distributeDays share (cityWeights sequence) days) city := by
  obtain ⟨first, rest, rfl⟩ := List.exists_cons_of_ne_nil hsequence
  have hfirst : first.name ∈ (cityWeights (first :: rest)).keys :=
    mem_keys_cityWeights.mpr List.mem_cons_self
  obtain ⟨maxCity, hheaviest⟩ := exists_heaviest hfirst
  by_cases hother : ∃ city ∈ first :: rest, city.name ≠ maxCity
  · obtain ⟨city, hcity, hname⟩ := hother
    exact ⟨city, hcity, one_le_daysOf hheaviest hcity hname⟩
  · -- All cities have one name, which has all the days.
    have hsame : ∀ city ∈ first :: rest, city.name = maxCity := by
      intro city hcity
      by_contra hname
      exact hother ⟨city, hcity, hname⟩
    have hkeys : (cityWeights (first :: rest)).keys = [maxCity] := by
      have hall : ∀ name ∈ (cityWeights (first :: rest)).keys, name = maxCity := by
        intro name hname
        obtain ⟨city, hcity, rfl⟩ := List.mem_map.mp (mem_keys_cityWeights.mp hname)
        exact hsame city hcity
      have hreplicate := List.eq_replicate_of_mem hall
      have hnodup : (cityWeights (first :: rest)).keys.Nodup := (cityWeights (first :: rest)).nodup
      rw [hreplicate] at hnodup hfirst ⊢
      have hone := List.nodup_replicate.mp hnodup
      have hpos := List.length_pos_of_mem hfirst
      rw [List.length_replicate] at hpos
      have hlength : (cityWeights (first :: rest)).keys.length = 1 := by omega
      rw [hlength]
      rfl
    have hsum := @sum_daysOf_keys _ share days _ _ hheaviest
    rw [hkeys] at hsum
    refine ⟨first, List.mem_cons_self, ?_⟩
    unfold daysOf
    rw [hsame first List.mem_cons_self]
    simp only [List.map_cons, List.map_nil, List.sum_cons, List.sum_nil, add_zero] at hsum
    omega

/-- If some element has a property, there is a last one. -/
theorem exists_last_of_exists {A : Type u} {holds : A → Prop} {items : List A}
    (hsome : ∃ a ∈ items, holds a) :
    ∃ before a after, items = before ++ a :: after ∧ holds a ∧ ∀ later ∈ after, ¬ holds later := by
  induction items with
  | nil =>
      obtain ⟨a, ha, -⟩ := hsome
      cases ha
  | cons first rest ih =>
      by_cases hrest : ∃ a ∈ rest, holds a
      · obtain ⟨before, a, after, rfl, ha, hafter⟩ := ih hrest
        exact ⟨first :: before, a, after, rfl, ha, hafter⟩
      · obtain ⟨a, ha, hholds⟩ := hsome
        have hfirst : a = first := by
          rcases List.mem_cons.mp ha with heq | hlater
          · exact heq
          · exact absurd ⟨a, hlater, hholds⟩ hrest
        exact ⟨[], first, rest, rfl, hfirst ▸ hholds,
          fun later hlater hnot => hrest ⟨later, hlater, hnot⟩⟩

/-- The last city with a day has a place in the schedules. -/
theorem exists_scheduled_cityBlocks {daysPerCity : OrderedMap String ℤ}
    (hpois : ∀ city ∈ sequence, city.pois ≠ [])
    (hday : ∃ city ∈ sequence, 1 ≤ daysOf daysPerCity city) :
    ∃ city ∈ sequence, ∃ dayPois ∈ (OrderedMap.empty.setAll
      (laidOut 1 (sequence.map (cityBlock daysPerCity)))).values,
        ∃ poi ∈ dayPois, poi ∈ city.pois := by
  obtain ⟨before, city, after, rfl, hcity, hafter⟩ := exists_last_of_exists hday
  have hmem : city ∈ before ++ city :: after := List.mem_append_right _ List.mem_cons_self
  have hcontents := flatten_contents_cityBlock daysPerCity city
  rw [if_pos hcity] at hcontents
  obtain ⟨poi, hpoi⟩ := List.exists_mem_of_ne_nil _ (hpois city hmem)
  have hwritten := hpoi
  rw [← hcontents] at hwritten
  obtain ⟨dayPois, hdayPois, hshown⟩ := List.mem_flatten.mp hwritten
  obtain ⟨offset, hoffset, hdayEq⟩ := List.mem_filterMap.mp hdayPois
  have hlater : ∀ block ∈ after.map (cityBlock daysPerCity), block.length ≤ 0 := by
    intro block hblock
    obtain ⟨other, hother, rfl⟩ := List.mem_map.mp hblock
    have hnot := hafter other hother
    show daysOf daysPerCity other ≤ 0
    omega
  have hlength : (offset : ℤ) < (cityBlock daysPerCity city).length := by
    have hlt := List.mem_range.mp hoffset
    omega
  have hget := @get?_setAll_laidOut_last _ (before.map (cityBlock daysPerCity)) _ _ 1 hlater _ _
    hlength hdayEq
  rw [← List.map_cons, ← List.map_append] at hget
  exact ⟨city, hmem, dayPois, List.mem_map_of_mem (OrderedMap.mem_of_get?_eq_some hget), poi,
    hshown, hpoi⟩

end Scheduled

/-- What every itinerary has: places of the request only, and a scheduled place of one
of its cities. -/
structure IsScheduled (pois : List Poi) (itinerary : MultiCityItinerary Poi) : Prop where
  places : ∀ dayPois ∈ itinerary.dailySchedules.values, dayPois ⊆ pois
  scheduled : ∃ city ∈ itinerary.cities, ∃ dayPois ∈ itinerary.dailySchedules.values,
    ∃ poi ∈ dayPois, poi ∈ city.pois

theorem isScheduled_optimizeSingleCitySimple {pois : List Poi} {days : ℤ} (hdays : 1 ≤ days)
    {itinerary : MultiCityItinerary Poi}
    (hitinerary : optimizeSingleCitySimple pois days = .ok itinerary) :
    IsScheduled pois itinerary := by
  unfold optimizeSingleCitySimple at hitinerary
  split at hitinerary
  · cases hitinerary
  · rename_i hpois
    cases hitinerary
    refine ⟨?_, _, List.mem_singleton_self _, ?_⟩
    · intro dayPois hdayPois
      obtain ⟨entry, hentry, rfl⟩ := List.mem_map.mp hdayPois
      exact mem_pois_of_get? (OrderedMap.get?_eq_some_of_mem hentry)
    · have hplaces := placesOn_simpleDailyDistribution pois hdays
      obtain ⟨poi, hpoi⟩ := List.exists_mem_of_ne_nil pois (by simpa using hpois)
      have hshown := hpoi
      rw [← hplaces] at hshown
      obtain ⟨offset, -, hmem⟩ := List.mem_flatMap.mp hshown
      cases hget : (simpleDailyDistribution pois days).get? ((offset : ℤ) + 1) with
      | none =>
          rw [hget] at hmem
          cases hmem
      | some dayPois =>
          rw [hget] at hmem
          exact ⟨dayPois, List.mem_map_of_mem (OrderedMap.mem_of_get?_eq_some hget), poi, hmem,
            hpoi⟩

theorem isScheduled_optimizeIntercityHybridSimple {distanceTo : DistanceTo Poi} {share : Share}
    {pois : List Poi} {cities : List (City Poi)} {days : ℤ} {startCity : Option String}
    (hdays : 1 ≤ days) (hcities : cities ≠ [])
    (hpois : ∀ city ∈ cities, city.pois ≠ [] ∧ city.pois ⊆ pois) :
    IsScheduled pois (optimizeIntercityHybridSimple distanceTo share cities days startCity) := by
  obtain ⟨current, hcurrent⟩ := exists_currentCity hcities startCity
  have hsubset : findOptimalCitySequence distanceTo cities startCity ⊆ cities := by
    intro city hcity
    apply (visited_append_dropped_perm hcurrent).subset
    apply List.mem_append_left
    exact (findOptimalCitySequence_perm distanceTo hcurrent).subset hcity
  obtain ⟨order, hsequence, -⟩ := findOptimalCitySequence_eq distanceTo hcurrent
  have hne : findOptimalCitySequence distanceTo cities startCity ≠ [] := by
    rw [hsequence]
    exact List.cons_ne_nil _ _
  have hschedules :
      (optimizeIntercityHybridSimple distanceTo share cities days startCity).dailySchedules =
        OrderedMap.empty.setAll (laidOut 1
          ((findOptimalCitySequence distanceTo cities startCity).map (cityBlock (distributeDays
            share (cityWeights (findOptimalCitySequence distanceTo cities startCity)) days)))) := by
    simp only [optimizeIntercityHybridSimple, distributeDaysAmongCities, foldl_scheduleCity,
      List.isEmpty_iff, hne, if_false]
  refine ⟨?_, ?_⟩
  · rw [hschedules]
    intro dayPois hdayPois poi hpoi
    obtain ⟨entry, hentry, rfl⟩ := List.mem_map.mp hdayPois
    obtain ⟨city, hcity, hmem⟩ := mem_of_mem_cityBlocks hentry hpoi
    exact (hpois city (hsubset hcity)).2 hmem
  · rw [hschedules]
    exact exists_scheduled_cityBlocks (fun city hcity => (hpois city (hsubset hcity)).1)
      (exists_daysOf_pos hne hdays)

/-- Every itinerary holds places of the request only, and schedules one of some city. -/
theorem isScheduled_optimizeMultiCityItinerary {env : ClusteringEnv} {share : Share}
    {pois : List Poi} {days : ℤ} {startCity : Option String} (hdays : 1 ≤ days)
    {itinerary : MultiCityItinerary Poi}
    (hitinerary : optimizeMultiCityItinerary env share pois days startCity = .ok itinerary) :
    IsScheduled pois itinerary := by
  have hpois : ∀ city ∈ convertClustersToCities (clusterPoisAdvanced env pois),
      city.pois ≠ [] ∧ city.pois ⊆ pois := by
    intro city hcity
    obtain ⟨cluster, hcluster, rfl⟩ := List.mem_map.mp hcity
    exact pois_of_mem_clusterPoisAdvanced hcluster
  unfold optimizeMultiCityItinerary at hitinerary
  dsimp only at hitinerary
  split at hitinerary
  · exact isScheduled_optimizeSingleCitySimple hdays hitinerary
  · rename_i hstrategy
    have hcities : convertClustersToCities (clusterPoisAdvanced env pois) ≠ [] := by
      intro hnil
      rw [hnil] at hstrategy
      exact hstrategy rfl
    cases hitinerary
    exact isScheduled_optimizeIntercityHybridSimple hdays hcities hpois

/-- There is an itinerary whenever there is a place. -/
theorem exists_optimizeMultiCityItinerary (env : ClusteringEnv) (share : Share) {pois : List Poi}
    (hpois : pois ≠ []) (days : ℤ) (startCity : Option String) :
    ∃ itinerary, optimizeMultiCityItinerary env share pois days startCity = .ok itinerary := by
  unfold optimizeMultiCityItinerary
  dsimp only
  split
  · unfold optimizeSingleCitySimple
    rw [if_neg (by simpa using hpois)]
    exact ⟨_, rfl⟩
  · exact ⟨_, rfl⟩

end Goveling.MultiCity.Simple
