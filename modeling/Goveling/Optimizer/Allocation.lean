/-
# Allocating clusters to the days of a trip

`allocate_clusters_to_days` spreads the clusters over the dates of the trip in
one of three modes, chosen from the number of days and places. The modes cut
clusters into smaller ones and put them on days in different ways; what they
share is that a day assignment only ever receives clusters. `Receives` records
which visits one assignment has more than another, and every mode is shown to
add exactly the visits of the clusters it is given.
-/

import Goveling.Math.EarlyExit
import Goveling.Math.OrderedMap
import Goveling.Optimizer.Types

namespace Goveling.Optimizer

open Goveling.Math Goveling.Python

/-- The clusters of every date, in the order the dates were added. -/
abbrev DayAssignments := OrderedMap ℤ (List Cluster)

/-! ## Distances between the places of a cluster -/

/-- The distances looked at by `_evaluate_route_sequences`. -/
inductive LegKind
  | hotelToPlace | placeToPlace | placeToHotel
  deriving DecidableEq

/-- One evaluated leg. -/
structure RouteLeg where
  type : LegKind
  fromName : String
  toName : String
  distance : ℚ≥0

/-- How the places of a cluster should be grouped. -/
inductive OptimizationSuggestion
  | none | groupSameDay | groupPairs | distributeFar | distribute
  deriving DecidableEq

/-- The part of an analysis that is missing when there are no places. -/
structure RouteMetrics where
  placeToPlaceAvg : ℚ≥0
  placeToPlaceMax : ℚ≥0
  placeToPlaceMin : ℚ≥0
  totalRoutesEvaluated : ℕ
  hotelRoutes : ℕ
  placeRoutes : ℕ

/-- The result of `_evaluate_route_sequences`. -/
structure RouteAnalysis where
  totalDistance : ℚ≥0
  sequences : List RouteLeg
  optimizationSuggestion : OptimizationSuggestion
  metrics : Option RouteMetrics

/-- Every pair of list elements, in the order of the two nested loops. -/
def orderedPairs {α : Type} : List α → List (α × α)
  | [] => []
  | a :: rest => rest.map (a, ·) ++ orderedPairs rest

/-- The choice at the end of `_evaluate_route_sequences`. -/
def suggestGrouping (places : ℕ) (avg max : ℚ≥0) : OptimizationSuggestion :=
  if places ≤ 2 then .groupSameDay
  else if avg ≤ 2 then .groupSameDay
  else if avg ≤ 5 ∧ max ≤ 8 then .groupPairs
  else if 15 < max then .distributeFar
  else .distribute

/-- `_evaluate_route_sequences`. -/
def evaluateRouteSequences (globe : Globe) (places : List Place)
    (hotelLocation : Option HomeBase) : RouteAnalysis :=
  if places = [] then
    { totalDistance := 0, sequences := [], optimizationSuggestion := .none, metrics := none }
  else
    let hotels := hotelLocation.toList
    let outbound : List RouteLeg := hotels.flatMap fun hotel => places.map fun place =>
      { type := .hotelToPlace, fromName := hotel.name, toName := place.name
        distance := globe.haversineKm hotel.location place.location }
    let between : List RouteLeg := (orderedPairs places).map fun pair =>
      { type := .placeToPlace, fromName := pair.1.name, toName := pair.2.name
        distance := globe.haversineKm pair.1.location pair.2.location }
    let inbound : List RouteLeg := hotels.flatMap fun hotel => places.map fun place =>
      { type := .placeToHotel, fromName := place.name, toName := hotel.name
        distance := globe.haversineKm place.location hotel.location }
    let sequences := outbound ++ between ++ inbound
    let distances := between.map RouteLeg.distance
    let avg := distances.sum / distances.length
    let max := distances.foldr (· ⊔ ·) 0
    let min := match distances with
      | [] => 0
      | first :: rest => rest.foldl (· ⊓ ·) first
    { totalDistance := (outbound.map RouteLeg.distance).sum
      sequences := sequences
      optimizationSuggestion := suggestGrouping places.length avg max
      metrics := some
        { placeToPlaceAvg := avg, placeToPlaceMax := max, placeToPlaceMin := min
          totalRoutesEvaluated := sequences.length
          hotelRoutes := (sequences.filter (·.type ≠ .placeToPlace)).length
          placeRoutes := (sequences.filter (·.type = .placeToPlace)).length } }

/-! ## The three modes -/

/-- `min(day_assignments.keys(), key=lambda d: len(day_assignments[d]))`. -/
def leastLoadedDay (assignments : DayAssignments) : Except PyError ℤ :=
  minBy (fun day => (assignments.bucket day).length) assignments.keys

/-- Put a cluster on the least loaded day. -/
def assignLeastLoaded (assignments : DayAssignments) (cluster : Cluster) :
    Except PyError DayAssignments := do
  let minDay ← leastLoadedDay assignments
  return assignments.push minDay cluster

/-- A cluster of some of the places of another one, which keeps its home base. -/
def miniCluster (cluster : Cluster) (label : String) (centroid : Location)
    (places : List Place) : Cluster :=
  { label := label, centroid := centroid, places := places, homeBase := cluster.homeBase }

/-- The body of the loop over the places of a cluster in `_distribute_relaxed_mode`. -/
def relaxedPlace (dayKeys : List ℤ) (cluster : Cluster) (state : DayAssignments × ℕ)
    (place : Place) : Except PyError (DayAssignments × ℕ) := do
  let mini := miniCluster cluster
    ("relaxed_" ++ String.ofList (place.name.toList.take 20)) place.location [place]
  match dayKeys[state.2]? with
  | some day => return (state.1.push day mini, state.2 + 1)
  | none =>
      -- the days are used up: the day with the fewest activities
      let assignments ← assignLeastLoaded state.1 mini
      return (assignments, state.2)

/-- `_distribute_relaxed_mode`. -/
def distributeRelaxedMode (clusters : List Cluster) (assignments : DayAssignments) :
    Except PyError DayAssignments := do
  let dayKeys := assignments.keys
  let state ← clusters.foldlM
    (fun state cluster => cluster.places.foldlM (relaxedPlace dayKeys cluster) state)
    (assignments, 0)
  return state.1

/-- The slices `places[i:i+2]`. -/
def pairSlices : List Place → List (List Place)
  | [] => []
  | [place] => [[place]]
  | first :: second :: rest => [first, second] :: pairSlices rest

/-- One slice of the strategy `group_pairs`. -/
def assignPair (cluster : Cluster) (assignments : DayAssignments) (slice : List Place × ℕ) :
    Except PyError DayAssignments :=
  assignLeastLoaded assignments (miniCluster cluster
    (cluster.label ++ "_pair_" ++ toString slice.2) cluster.centroid slice.1)

/-- `day_keys[i % len(day_keys)]`: the days in turn. -/
def dayInTurn (dayKeys : List ℤ) (i : ℕ) : Except PyError ℤ :=
  match dayKeys[i % dayKeys.length]? with
  | some day => .ok day
  | none => .error (.zeroDivisionError "integer modulo by zero")

/-- One place of the strategies that distribute them over the days in turn. -/
def assignSingle (dayKeys : List ℤ) (cluster : Cluster) (suffix : String)
    (assignments : DayAssignments) (item : Place × ℕ) : Except PyError DayAssignments := do
  let day ← dayInTurn dayKeys item.2
  return assignments.push day (miniCluster cluster
    (cluster.label ++ suffix ++ toString item.2) item.1.location [item.1])

/-- How far a place is from the other places of its cluster. -/
def remoteness (globe : Globe) (places : List Place) (place : Place) : ℚ≥0 :=
  ((places.filter (· ≠ place)).map fun other =>
    globe.haversineKm place.location other.location).sum

/-- The body of the loop of `_distribute_balanced_mode`. -/
def balancedCluster (globe : Globe) (dayKeys : List ℤ) (assignments : DayAssignments)
    (cluster : Cluster) : Except PyError DayAssignments :=
  if cluster.places.length = 1 then
    assignLeastLoaded assignments cluster
  else
    let analysis := evaluateRouteSequences globe cluster.places cluster.homeBase
    match analysis.metrics with
    | none => .error (.keyError "place_to_place_avg")
    | some _ =>
        match analysis.optimizationSuggestion with
        | .groupSameDay => assignLeastLoaded assignments cluster
        | .groupPairs =>
            (pairSlices cluster.places).zipIdx.foldlM (assignPair cluster) assignments
        | .distributeFar =>
            (sortedBy (remoteness globe cluster.places) cluster.places).zipIdx.foldlM
              (assignSingle dayKeys cluster "_single_") assignments
        | .distribute =>
            cluster.places.zipIdx.foldlM (assignSingle dayKeys cluster "_single_") assignments
        | .none =>
            cluster.places.zipIdx.foldlM (assignSingle dayKeys cluster "_fallback_") assignments

/-- `_distribute_balanced_mode`. -/
def distributeBalancedMode (globe : Globe) (clusters : List Cluster)
    (assignments : DayAssignments) : Except PyError DayAssignments :=
  clusters.foldlM (balancedCluster globe assignments.keys) assignments

/-- `_distribute_intensive_mode`. -/
def distributeIntensiveMode (clusters : List Cluster) (assignments : DayAssignments) :
    Except PyError DayAssignments :=
  clusters.foldlM assignLeastLoaded assignments

/-- The calendar dates of a trip. -/
def tripDates (startDate endDate : ℤ) : List ℤ :=
  (List.range (endDate - startDate + 1).toNat).map fun (dayNum : ℕ) => startDate + (dayNum : ℤ)

/-- `day_assignments` before any cluster is assigned: an empty list for each date. -/
def emptyAssignments (startDate endDate : ℤ) : DayAssignments :=
  (tripDates startDate endDate).foldl (fun assignments date => assignments.set date [])
    OrderedMap.empty

/-- `allocate_clusters_to_days`. -/
def allocateClustersToDays (globe : Globe) (clusters : List Cluster)
    (startDate endDate : ℤ) : Except PyError DayAssignments :=
  let numDays := endDate - startDate + 1
  let totalPlaces := (clusters.map fun cluster => cluster.places.length).sum
  let assignments := emptyAssignments startDate endDate
  let daysPerPlaceRatio : ℚ := numDays / (totalPlaces ⊔ 1 : ℕ)
  if 3 / 2 ≤ daysPerPlaceRatio then
    distributeRelaxedMode clusters assignments
  else if 4 / 5 ≤ daysPerPlaceRatio then
    distributeBalancedMode globe clusters assignments
  else
    distributeIntensiveMode clusters assignments

/-! ## What an assignment receives -/

/-- The visits a cluster stands for: each of its places from its home base. -/
def Cluster.visits (cluster : Cluster) : List (Place × Option HomeBase) :=
  cluster.places.map (·, cluster.homeBase)

/-- The visits of all days. -/
def visitsOf (assignments : DayAssignments) : List (Place × Option HomeBase) :=
  assignments.values.flatten.flatMap Cluster.visits

/-- `later` has the dates of `earlier` and, besides its visits, exactly `added`. -/
structure Receives (earlier later : DayAssignments)
    (added : List (Place × Option HomeBase)) : Prop where
  keys_eq : later.keys = earlier.keys
  visits_perm : (visitsOf later).Perm (visitsOf earlier ++ added)

namespace Receives

variable {first second third : DayAssignments} {added more : List (Place × Option HomeBase)}

theorem refl (assignments : DayAssignments) : Receives assignments assignments [] :=
  ⟨rfl, by simp⟩

theorem trans (hfirst : Receives first second added) (hsecond : Receives second third more) :
    Receives first third (added ++ more) where
  keys_eq := hsecond.keys_eq.trans hfirst.keys_eq
  visits_perm := by
    rw [← List.append_assoc]
    exact hsecond.visits_perm.trans (hfirst.visits_perm.append_right more)

/-- The order in which the visits were added does not matter. -/
theorem of_perm (hreceives : Receives first second added) (hperm : added.Perm more) :
    Receives first second more :=
  ⟨hreceives.keys_eq, hreceives.visits_perm.trans (hperm.append_left _)⟩

end Receives

theorem receives_push {assignments : DayAssignments} {day : ℤ} (cluster : Cluster)
    (hday : day ∈ assignments.keys) :
    Receives assignments (assignments.push day cluster) cluster.visits where
  keys_eq := OrderedMap.keys_push _ _ _
  visits_perm := by
    have hpush := (OrderedMap.flatten_values_push_perm cluster hday).flatMap_right Cluster.visits
    rw [List.flatMap_cons] at hpush
    exact hpush.trans List.perm_append_comm

/-- A loop whose body adds the visits `demand a` for each element `a` adds all
of them, as long as no date disappears on the way. -/
theorem receives_foldlM {α : Type} (step : DayAssignments → α → Except PyError DayAssignments)
    (demand : α → List (Place × Option HomeBase)) (dayKeys : List ℤ) (items : List α)
    (hstep : ∀ assignments a, a ∈ items → assignments.keys = dayKeys →
      ∃ next, step assignments a = .ok next ∧ Receives assignments next (demand a))
    {assignments : DayAssignments} (hkeys : assignments.keys = dayKeys) :
    ∃ last, items.foldlM step assignments = .ok last ∧
      Receives assignments last (items.flatMap demand) := by
  refine foldlM_ok_of_step step
    (fun state served => Receives assignments state (served.flatMap demand)) items ?_
    (Receives.refl assignments)
  intro state served a ha hserved
  obtain ⟨next, hnext, hreceives⟩ := hstep state a ha (hserved.keys_eq.trans hkeys)
  exact ⟨next, hnext, by simpa using hserved.trans hreceives⟩

theorem assignLeastLoaded_receives {assignments : DayAssignments} (cluster : Cluster)
    (hdays : assignments.keys ≠ []) :
    ∃ next, assignLeastLoaded assignments cluster = .ok next ∧
      Receives assignments next cluster.visits := by
  obtain ⟨minDay, hmem, hmin⟩ := exists_minBy_eq_ok
    (fun day => (assignments.bucket day).length) hdays
  refine ⟨assignments.push minDay cluster, ?_, receives_push cluster hmem⟩
  simp only [assignLeastLoaded, leastLoadedDay, hmin]
  rfl

theorem exists_dayInTurn {dayKeys : List ℤ} (hdays : dayKeys ≠ []) (i : ℕ) :
    ∃ day ∈ dayKeys, dayInTurn dayKeys i = .ok day := by
  have hlt : i % dayKeys.length < dayKeys.length := Nat.mod_lt _ (List.length_pos_iff.mpr hdays)
  refine ⟨dayKeys[i % dayKeys.length], List.getElem_mem hlt, ?_⟩
  simp only [dayInTurn, List.getElem?_eq_getElem hlt]

/-! ## Relaxed mode -/

theorem relaxedPlace_receives {dayKeys : List ℤ} (cluster : Cluster)
    {state : DayAssignments × ℕ} (place : Place) (hdays : dayKeys ≠ [])
    (hkeys : state.1.keys = dayKeys) :
    ∃ next, relaxedPlace dayKeys cluster state place = .ok next ∧
      Receives state.1 next.1 [(place, cluster.homeBase)] := by
  obtain ⟨assignments, dayIdx⟩ := state
  cases hday : dayKeys[dayIdx]? with
  | some day =>
      refine ⟨_, by simp only [relaxedPlace, hday]; rfl, receives_push _ ?_⟩
      rw [hkeys]
      exact List.mem_of_getElem? hday
  | none =>
      have hkeys' : assignments.keys ≠ [] := by
        rw [show assignments.keys = dayKeys from hkeys]
        exact hdays
      obtain ⟨next, hnext, hreceives⟩ := assignLeastLoaded_receives (miniCluster cluster
        ("relaxed_" ++ String.ofList (place.name.toList.take 20)) place.location [place]) hkeys'
      refine ⟨(next, dayIdx), ?_, hreceives⟩
      simp only [relaxedPlace, hday, hnext]
      rfl

theorem relaxedCluster_receives {dayKeys : List ℤ} (cluster : Cluster)
    (state : DayAssignments × ℕ) (hdays : dayKeys ≠ []) (hkeys : state.1.keys = dayKeys) :
    ∃ next, cluster.places.foldlM (relaxedPlace dayKeys cluster) state = .ok next ∧
      Receives state.1 next.1 cluster.visits := by
  refine foldlM_ok_of_step (relaxedPlace dayKeys cluster)
    (fun inner served => Receives state.1 inner.1 (served.map (·, cluster.homeBase)))
    cluster.places ?_ (Receives.refl state.1)
  intro inner served place _ hserved
  obtain ⟨next, hnext, hplace⟩ := relaxedPlace_receives cluster place hdays
    (hserved.keys_eq.trans hkeys)
  exact ⟨next, hnext, by simpa using hserved.trans hplace⟩

theorem distributeRelaxedMode_receives (clusters : List Cluster) {assignments : DayAssignments}
    (hdays : assignments.keys ≠ []) :
    ∃ last, distributeRelaxedMode clusters assignments = .ok last ∧
      Receives assignments last (clusters.flatMap Cluster.visits) := by
  -- The index of the next free day is carried along; only the assignment matters.
  obtain ⟨last, hlast, hreceives⟩ := foldlM_ok_of_step
    (fun state cluster => cluster.places.foldlM (relaxedPlace assignments.keys cluster) state)
    (fun (state : DayAssignments × ℕ) served =>
      Receives assignments state.1 (served.flatMap Cluster.visits)) clusters
    (by
      intro state served cluster _ hserved
      obtain ⟨next, hnext, hplaces⟩ := relaxedCluster_receives cluster state hdays
        hserved.keys_eq
      exact ⟨next, hnext, by simpa using hserved.trans hplaces⟩)
    (show Receives assignments (assignments, 0).1 [] from Receives.refl assignments)
  exact ⟨last.1, by simp only [distributeRelaxedMode, hlast]; rfl, hreceives⟩

/-! ## Balanced mode -/

theorem flatten_pairSlices (places : List Place) : (pairSlices places).flatten = places := by
  induction places using pairSlices.induct with
  | case1 => rfl
  | case2 place => rfl
  | case3 first second rest ih => simp [pairSlices, ih]

theorem assignPairs_receives (cluster : Cluster) {assignments : DayAssignments}
    (hdays : assignments.keys ≠ []) :
    ∃ last, (pairSlices cluster.places).zipIdx.foldlM (assignPair cluster) assignments =
        .ok last ∧ Receives assignments last cluster.visits := by
  obtain ⟨last, hlast, hreceives⟩ := receives_foldlM (assignPair cluster)
    (fun slice => slice.1.map (·, cluster.homeBase))
    assignments.keys (pairSlices cluster.places).zipIdx
    (fun state slice _ hkeys => assignLeastLoaded_receives _ (hkeys ▸ hdays)) rfl
  refine ⟨last, hlast, hreceives.of_perm ?_⟩
  have hslices : (pairSlices cluster.places).zipIdx.flatMap
      (fun slice => slice.1.map (·, cluster.homeBase)) = cluster.visits := by
    rw [Cluster.visits, ← List.flatMap_map, List.zipIdx_map_fst, List.flatMap_def,
      ← List.map_flatten, flatten_pairSlices]
  rw [hslices]

theorem assignSingles_receives (cluster : Cluster) (suffix : String)
    {assignments : DayAssignments} (hdays : assignments.keys ≠ []) {places : List Place}
    (hplaces : places.Perm cluster.places) :
    ∃ last, places.zipIdx.foldlM (assignSingle assignments.keys cluster suffix) assignments =
        .ok last ∧ Receives assignments last cluster.visits := by
  obtain ⟨last, hlast, hreceives⟩ := receives_foldlM
    (assignSingle assignments.keys cluster suffix)
    (fun item => [(item.1, cluster.homeBase)]) assignments.keys places.zipIdx
    (fun state item _ hkeys => by
      obtain ⟨day, hmem, hday⟩ := exists_dayInTurn hdays item.2
      refine ⟨_, by simp only [assignSingle, hday]; rfl, receives_push _ ?_⟩
      rw [hkeys]
      exact hmem) rfl
  refine ⟨last, hlast, hreceives.of_perm ?_⟩
  have hsingles : places.zipIdx.flatMap (fun item => [(item.1, cluster.homeBase)]) =
      places.map (·, cluster.homeBase) := by
    conv_rhs => rw [← List.zipIdx_map_fst 0 places]
    rw [List.map_map, List.map_eq_flatMap]
    rfl
  rw [hsingles]
  exact hplaces.map _

theorem evaluateRouteSequences_metrics (globe : Globe) {places : List Place}
    (hplaces : places ≠ []) (hotel : Option HomeBase) :
    ∃ metrics, (evaluateRouteSequences globe places hotel).metrics = some metrics := by
  simp [evaluateRouteSequences, hplaces]

theorem balancedCluster_receives (globe : Globe) {assignments : DayAssignments}
    (hdays : assignments.keys ≠ []) {cluster : Cluster} (hplaces : cluster.places ≠ []) :
    ∃ next, balancedCluster globe assignments.keys assignments cluster = .ok next ∧
      Receives assignments next cluster.visits := by
  unfold balancedCluster
  split
  · exact assignLeastLoaded_receives cluster hdays
  · obtain ⟨metrics, hmetrics⟩ := evaluateRouteSequences_metrics globe hplaces cluster.homeBase
    simp only [hmetrics]
    split
    · exact assignLeastLoaded_receives cluster hdays
    · exact assignPairs_receives cluster hdays
    · exact assignSingles_receives cluster _ hdays (sortedBy_perm _ _)
    · exact assignSingles_receives cluster _ hdays (List.Perm.refl _)
    · exact assignSingles_receives cluster _ hdays (List.Perm.refl _)

theorem distributeBalancedMode_receives (globe : Globe) {clusters : List Cluster}
    (hplaces : ∀ cluster ∈ clusters, cluster.places ≠ []) {assignments : DayAssignments}
    (hdays : assignments.keys ≠ []) :
    ∃ last, distributeBalancedMode globe clusters assignments = .ok last ∧
      Receives assignments last (clusters.flatMap Cluster.visits) :=
  receives_foldlM _ Cluster.visits assignments.keys clusters
    (fun state cluster hmem hkeys => by
      rw [← hkeys] at hdays ⊢
      exact balancedCluster_receives globe hdays (hplaces cluster hmem)) rfl

/-! ## Intensive mode -/

theorem distributeIntensiveMode_receives (clusters : List Cluster)
    {assignments : DayAssignments} (hdays : assignments.keys ≠ []) :
    ∃ last, distributeIntensiveMode clusters assignments = .ok last ∧
      Receives assignments last (clusters.flatMap Cluster.visits) :=
  receives_foldlM _ Cluster.visits assignments.keys clusters
    (fun _ cluster _ hkeys => assignLeastLoaded_receives cluster (hkeys ▸ hdays)) rfl

/-! ## The allocation -/

theorem mem_tripDates {startDate endDate date : ℤ} :
    date ∈ tripDates startDate endDate ↔ startDate ≤ date ∧ date ≤ endDate := by
  simp only [tripDates, List.mem_map, List.mem_range]
  constructor
  · rintro ⟨dayNum, hlt, rfl⟩
    omega
  · rintro ⟨hstart, hend⟩
    exact ⟨(date - startDate).toNat, by omega, by omega⟩

theorem nodup_tripDates (startDate endDate : ℤ) : (tripDates startDate endDate).Nodup :=
  List.nodup_range.map fun first second heq => by
    have hcast : (first : ℤ) = second := add_left_cancel heq
    exact_mod_cast hcast

theorem entries_emptyAssignments (startDate endDate : ℤ) :
    (emptyAssignments startDate endDate).entries =
      (tripDates startDate endDate).map fun date => (date, []) := by
  suffices hfold : ∀ (dates : List ℤ) (assignments : DayAssignments),
      (assignments.keys ++ dates).Nodup →
      (dates.foldl (fun assignments date => assignments.set date []) assignments).entries =
        assignments.entries ++ dates.map fun date => (date, []) from
    hfold (tripDates startDate endDate) OrderedMap.empty (nodup_tripDates startDate endDate)
  intro dates
  induction dates with
  | nil => simp
  | cons date rest ih =>
      intro assignments hnodup
      have hnew : date ∉ assignments.keys := fun hold =>
        (List.nodup_append.mp hnodup).2.2 date hold date List.mem_cons_self rfl
      have hentries := OrderedMap.entries_set_of_not_mem hnew ([] : List Cluster)
      rw [List.foldl_cons, ih, hentries, List.append_assoc]
      · rfl
      · rw [OrderedMap.keys_set_of_not_mem hnew, List.append_assoc]
        exact hnodup

theorem keys_emptyAssignments (startDate endDate : ℤ) :
    (emptyAssignments startDate endDate).keys = tripDates startDate endDate := by
  simp [OrderedMap.keys, entries_emptyAssignments, Function.comp_def]

/-- Every mode of the allocation succeeds on a trip of at least one day, and its dates
receive every visit. -/
theorem allocateClustersToDays_receives (globe : Globe) {clusters : List Cluster}
    (hplaces : ∀ cluster ∈ clusters, cluster.places ≠ []) {startDate endDate : ℤ}
    (hrange : startDate ≤ endDate) :
    ∃ assignments, allocateClustersToDays globe clusters startDate endDate = .ok assignments ∧
      Receives (emptyAssignments startDate endDate) assignments
        (clusters.flatMap Cluster.visits) := by
  have hdays : (emptyAssignments startDate endDate).keys ≠ [] := by
    rw [keys_emptyAssignments]
    exact List.ne_nil_of_mem (mem_tripDates.mpr ⟨le_refl startDate, hrange⟩)
  unfold allocateClustersToDays
  dsimp only
  split
  · exact distributeRelaxedMode_receives clusters hdays
  · split
    · exact distributeBalancedMode_receives globe hplaces hdays
    · exact distributeIntensiveMode_receives clusters hdays

end Goveling.Optimizer
