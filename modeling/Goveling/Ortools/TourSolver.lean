/-
# The solver of the professional optimizer

`solve_tsp_basic` asks the routing library for a route over all rows of the distance matrix.
`solve_vrptw` builds a model with a time dimension, a range of minutes for every place and
a disjunction for every mandatory place but the depot, and falls back to the plain
model when it finds nothing or raises. A place in a disjunction may be dropped, so in
the timed model it is the mandatory places that may be missing; and the fallback reports
its constraints as satisfied although it has none.
-/

import Goveling.Math.VehicleRoute
import Goveling.Ortools.ProfessionalOptimizer
import Goveling.Python.Text

namespace Goveling.Ortools

open Goveling.Math Goveling.Python

/-- The routing library, the seconds that its runs take, and the order in which a set of
numbers is listed. -/
structure SolverLibrary where
  solver : RoutingSolver
  seconds : RoutingProblem → ℚ
  listSet : List ℕ → List ℕ
  listSet_perm : ∀ numbers, (listSet numbers).Perm numbers

/-! ## Matrices -/

/-- `matrix[i][j]`. -/
def matrixAt (matrix : List (List ℚ)) (i j : ℕ) : Option ℚ := matrix[i]?.bind fun row => row[j]?

/-- A matrix with a row and a column for each of some places. -/
structure IsSquare (n : ℕ) (matrix : List (List ℚ)) : Prop where
  rows : matrix.length = n
  columns : ∀ row ∈ matrix, row.length = n

instance (n : ℕ) (matrix : List (List ℚ)) : Decidable (IsSquare n matrix) :=
  decidable_of_iff (_ ∧ _) ⟨fun h => ⟨h.1, h.2⟩, fun h => ⟨h.1, h.2⟩⟩

/-- The sum of a matrix over the legs of a route. -/
def sumLegs (matrix : List (List ℚ)) (route : List ℕ) : Option ℚ :=
  ((legs route).mapM fun leg => matrixAt matrix leg.1 leg.2).map List.sum

theorem IsSquare.exists_matrixAt {n : ℕ} {matrix : List (List ℚ)} (hsquare : IsSquare n matrix)
    {i j : ℕ} (hi : i < n) (hj : j < n) : ∃ value, matrixAt matrix i j = some value := by
  have hrow : i < matrix.length := hsquare.rows ▸ hi
  have hcolumn : j < matrix[i].length := by
    rw [hsquare.columns _ (List.getElem_mem hrow)]
    exact hj
  refine ⟨matrix[i][j], ?_⟩
  unfold matrixAt
  rw [List.getElem?_eq_getElem hrow, Option.bind_some, List.getElem?_eq_getElem hcolumn]

/-- A loop whose turns all give a value gives the list of these. -/
theorem mapM_eq_some_map {α β : Type} {f : α → Option β} {g : α → β} {items : List α}
    (hitems : ∀ a ∈ items, f a = some (g a)) : items.mapM f = some (items.map g) := by
  induction items with
  | nil => rfl
  | cons a rest ih =>
      obtain ⟨hfirst, hrest⟩ := List.forall_mem_cons.mp hitems
      rw [List.mapM_cons, hfirst, ih hrest]
      rfl

/-- The items of a loop that gives a list. -/
theorem getElem?_of_mapM_eq_some {α β : Type} {f : α → Option β} {items : List α}
    {results : List β} (hresults : items.mapM f = some results) (i : ℕ) :
    results[i]? = items[i]?.bind f := by
  induction items generalizing results i with
  | nil =>
      cases hresults
      rfl
  | cons a rest ih =>
      rw [List.mapM_cons] at hresults
      obtain ⟨first, hfirst, hothers⟩ := Option.bind_eq_some_iff.mp hresults
      obtain ⟨others, hrest, hlist⟩ := Option.bind_eq_some_iff.mp hothers
      cases hlist
      cases i with
      | zero => exact hfirst.symm
      | succ i => exact ih hrest i

/-- The value of a leg, zero outside of the matrix. -/
def legValue (matrix : List (List ℚ)) (leg : ℕ × ℕ) : ℚ := (matrixAt matrix leg.1 leg.2).getD 0

/-- The sum over the legs of a route within a square matrix. -/
theorem IsSquare.sumLegs_eq {n : ℕ} {matrix : List (List ℚ)} (hsquare : IsSquare n matrix)
    {route : List ℕ} (hroute : ∀ node ∈ route, node < n) :
    sumLegs matrix route = some ((legs route).map (legValue matrix)).sum := by
  have hlegs : ∀ leg ∈ legs route, matrixAt matrix leg.1 leg.2 = some (legValue matrix leg) := by
    intro leg hleg
    obtain ⟨hfrom, hto⟩ := mem_of_mem_legs hleg
    obtain ⟨value, hvalue⟩ := hsquare.exists_matrixAt (hroute _ hfrom) (hroute _ hto)
    unfold legValue
    rw [hvalue, Option.getD_some]
  unfold sumLegs
  rw [mapM_eq_some_map hlegs]
  rfl

/-! ## Extracting a solution -/

/-- The result of a run without a solution. -/
def failedResult (algorithmUsed : String) (seconds : ℚ) : OptimizationResult where
  success := false
  route := []
  totalDistanceM := 0
  totalTimeMinutes := 0
  optimizationTimeS := seconds
  algorithmUsed := algorithmUsed
  constraintsSatisfied := false

/-- The result of a plain solution. The time is estimated: 50 km/h and an hour for every place. -/
def plainResult (assignment : Assignment) (totalDistance seconds : ℚ) : OptimizationResult where
  success := true
  route := assignment.route
  totalDistanceM := totalDistance
  totalTimeMinutes := totalDistance / 1000 / 50 * 60 + assignment.route.length * 60
  optimizationTimeS := seconds
  algorithmUsed := "OR_TOOLS_TSP_BASIC"
  constraintsSatisfied := true

/-- `_extract_solution_basic`, unless the matrix misses a leg. -/
def extractSolutionBasic (assignment : Assignment) (distances : List (List ℚ)) (seconds : ℚ) :
    Option OptimizationResult :=
  (sumLegs distances assignment.route).map fun totalDistance =>
    plainResult assignment totalDistance seconds

/-- The clock at the last stop. -/
def lastCumul (assignment : Assignment) : ℤ :=
  (assignment.stops.getLast?.map RouteStop.cumul).getD 0

/-- The places that are not on a route. -/
def missingNodes (poisCount : ℕ) (route : List ℕ) : List ℕ :=
  (List.range poisCount).filter fun node => node ∉ route

/-- The result of a timed solution. -/
def timedResult (listSet : List ℕ → List ℕ) (assignment : Assignment) (poisCount : ℕ)
    (totalDistance seconds : ℚ) : OptimizationResult :=
  let dropped := listSet (missingNodes poisCount assignment.route)
  { success := true
    route := assignment.route
    totalDistanceM := totalDistance
    totalTimeMinutes := lastCumul assignment
    optimizationTimeS := seconds
    algorithmUsed := "OR_TOOLS_VRPTW"
    constraintsSatisfied := dropped.length = 0
    droppedPois := some dropped }

/-- `_extract_solution_vrptw`, unless the matrix misses a leg. -/
def extractSolutionVrptw (listSet : List ℕ → List ℕ) (assignment : Assignment)
    (distances : List (List ℚ)) (poisCount : ℕ) (seconds : ℚ) : Option OptimizationResult :=
  (sumLegs distances assignment.route).map fun totalDistance =>
    timedResult listSet assignment poisCount totalDistance seconds

/-! ## The models -/

/-- The model of `solve_tsp_basic`. -/
def tspProblem (distances : List (List ℚ)) : RoutingProblem where
  nodes := distances.length
  cost := fun i j => (matrixAt distances i j).map truncated

/-- The service time at a node. The library takes whole numbers. -/
def serviceTime (pois : List Poi) (i : ℕ) : Option ℤ :=
  match pois[i]? with
  | some poi => poi.durationMinutes.whole?
  | none => some 0

/-- The range of minutes of a place: the depot opens for ten hours from the start, and
other places from their opening to their closing hour, if these are whole numbers. -/
def timeRange (startTimeMinutes : ℤ) (i : ℕ) (poi : Poi) : Option (ℤ × ℤ) :=
  if i = 0 then some (startTimeMinutes, startTimeMinutes + 600)
  else do
    let openingHour ← poi.openingHour.whole?
    let closingHour ← poi.closingHour.whole?
    return (openingHour * 60, closingHour * 60)

/-- The ranges of all places, unless one raises. -/
def timeRanges (pois : List Poi) (startTimeMinutes : ℤ) : Option (List (ℤ × ℤ)) :=
  pois.zipIdx.mapM fun poi => timeRange startTimeMinutes poi.2 poi.1

/-- The range of a place in the list of ranges. -/
theorem getElem?_timeRanges {pois : List Poi} {startTimeMinutes : ℤ} {ranges : List (ℤ × ℤ)}
    (hranges : timeRanges pois startTimeMinutes = some ranges) (i : ℕ) :
    ranges[i]? = pois[i]?.bind (timeRange startTimeMinutes i) := by
  rw [getElem?_of_mapM_eq_some hranges i, List.getElem?_zipIdx]
  cases pois[i]? with
  | none => rfl
  | some poi =>
      rw [Option.map_some, Option.bind_some, Option.bind_some, zero_add]

/-- The dimension `Time`: the travel time in whole minutes and the service time. -/
def timeDimension (times : List (List ℚ)) (pois : List Poi) (ranges : List (ℤ × ℤ)) :
    Dimension where
  transit := fun i j => do
    let travelTime ← matrixAt times i j
    let serviceTime ← serviceTime pois i
    return truncated travelTime + serviceTime
  slackMax := 60
  capacity := 1440
  ranges := ranges

/-- Along a leg the clock moves by the whole minutes of the travel, the visit and a wait of at
most an hour. -/
theorem exists_of_arrives {times : List (List ℚ)} {pois : List Poi} {ranges : List (ℤ × ℤ)}
    {stop : RouteStop} {node : ℕ} {cumul : ℤ} (hstop : stop.node < pois.length)
    (harrives : (timeDimension times pois ranges).Arrives stop node cumul) :
    ∃ travel ∈ matrixAt times stop.node node,
      ∃ duration ∈ pois[stop.node].durationMinutes.whole?,
        (0 ≤ stop.slack ∧ stop.slack ≤ 60) ∧
          cumul = stop.cumul + (truncated travel + duration) + stop.slack := by
  obtain ⟨hslack, hmost, transit, htransit, hcumul⟩ := harrives
  obtain ⟨travel, htravel, htimed⟩ := Option.bind_eq_some_iff.mp htransit
  obtain ⟨duration, hduration, hsum⟩ := Option.bind_eq_some_iff.mp htimed
  have hsum : truncated travel + duration = transit := Option.some.inj hsum
  unfold serviceTime at hduration
  rw [List.getElem?_eq_getElem hstop] at hduration
  exact ⟨travel, htravel, duration, hduration, ⟨hslack, hmost⟩, hsum ▸ hcumul⟩

/-- The nodes that get a disjunction: the mandatory places but the depot. -/
def disjunctionNodes (pois : List Poi) : List ℕ :=
  (pois.zipIdx.filter fun poi => poi.1.isMandatory.truthy && 0 < poi.2).map Prod.snd

/-- The model of `solve_vrptw`, unless building it raises. -/
def vrptwProblem (distances times : List (List ℚ)) (pois : List Poi) (startTimeMinutes : ℤ) :
    Option RoutingProblem :=
  (timeRanges pois startTimeMinutes).map fun ranges =>
    { nodes := pois.length
      cost := fun i j => (matrixAt distances i j).map truncated
      dimension := some (timeDimension times pois ranges)
      disjunctions := (disjunctionNodes pois).map fun node => (node, 10000) }

namespace SolverLibrary

/-- `solve_tsp_basic`. -/
def solveTspBasic (library : SolverLibrary) (distances : List (List ℚ)) : OptimizationResult :=
  let problem := tspProblem distances
  let seconds := library.seconds problem
  match library.solver.solve problem with
  | .solution assignment =>
      (extractSolutionBasic assignment distances seconds).getD
        (failedResult "OR_TOOLS_ERROR" seconds)
  | .noSolution => failedResult "OR_TOOLS_TSP_FAILED" seconds
  | .raised => failedResult "OR_TOOLS_ERROR" seconds

/-- The solution of the timed model, if there is one and nothing raises. -/
def timedSolution (library : SolverLibrary) (distances times : List (List ℚ)) (pois : List Poi)
    (startTimeMinutes : ℤ) : Option Assignment := do
  let problem ← vrptwProblem distances times pois startTimeMinutes
  match library.solver.solve problem with
  | .solution assignment => some assignment
  | .noSolution => none
  | .raised => none

/-- The seconds that the timed model takes. -/
def timedSeconds (library : SolverLibrary) (distances times : List (List ℚ)) (pois : List Poi)
    (startTimeMinutes : ℤ) : ℚ :=
  ((vrptwProblem distances times pois startTimeMinutes).map library.seconds).getD 0

/-- `solve_vrptw`: without a solution of the timed model, `solve_tsp_basic`. -/
def solveVrptw (library : SolverLibrary) (distances times : List (List ℚ)) (pois : List Poi)
    (startTimeMinutes : ℤ) : OptimizationResult :=
  let result := do
    let assignment ← library.timedSolution distances times pois startTimeMinutes
    extractSolutionVrptw library.listSet assignment distances pois.length
      (library.timedSeconds distances times pois startTimeMinutes)
  result.getD (library.solveTspBasic distances)

/-! ## What the solver answers -/

variable {library : SolverLibrary} {distances times : List (List ℚ)} {pois : List Poi}
  {startTimeMinutes : ℤ}

/-- The plain model finds nothing, or an order of all rows of the matrix. -/
theorem solveTspBasic_cases (library : SolverLibrary) (distances : List (List ℚ)) :
    (∃ algorithm seconds, library.solveTspBasic distances = failedResult algorithm seconds) ∨
      ∃ assignment, (tspProblem distances).Allows assignment ∧
        library.solver.solve (tspProblem distances) = .solution assignment ∧
        extractSolutionBasic assignment distances (library.seconds (tspProblem distances)) =
          some (library.solveTspBasic distances) := by
  unfold solveTspBasic
  dsimp only
  cases hsolve : library.solver.solve (tspProblem distances) with
  | noSolution => exact .inl ⟨_, _, rfl⟩
  | raised => exact .inl ⟨_, _, rfl⟩
  | solution assignment =>
      have hallows := library.solver.allowed _ _ hsolve
      dsimp only
      cases hextract : extractSolutionBasic assignment distances
          (library.seconds (tspProblem distances)) with
      | none => exact .inl ⟨_, _, rfl⟩
      | some result =>
          refine .inr ⟨assignment, hallows, rfl, ?_⟩
          rw [hextract, Option.getD_some]

/-- The result of a solution whose legs are all in the matrix. -/
theorem solveTspBasic_eq {assignment : Assignment} {totalDistance : ℚ}
    (hsolve : library.solver.solve (tspProblem distances) = .solution assignment)
    (htotal : sumLegs distances assignment.route = some totalDistance) :
    library.solveTspBasic distances =
      plainResult assignment totalDistance (library.seconds (tspProblem distances)) := by
  unfold solveTspBasic extractSolutionBasic
  dsimp only
  rw [hsolve]
  dsimp only
  rw [htotal]
  rfl

theorem solveVrptw_eq {assignment : Assignment} {totalDistance : ℚ}
    (hsolution : library.timedSolution distances times pois startTimeMinutes = some assignment)
    (htotal : sumLegs distances assignment.route = some totalDistance) :
    library.solveVrptw distances times pois startTimeMinutes =
      timedResult library.listSet assignment pois.length totalDistance
        (library.timedSeconds distances times pois startTimeMinutes) := by
  unfold solveVrptw extractSolutionVrptw
  dsimp only
  rw [hsolution, Option.bind_eq_bind, Option.bind_some, htotal]
  rfl

theorem solveVrptw_of_none
    (hsolution : library.timedSolution distances times pois startTimeMinutes = none) :
    library.solveVrptw distances times pois startTimeMinutes = library.solveTspBasic distances := by
  unfold solveVrptw
  dsimp only
  rw [hsolution]
  rfl

/-- A solution of the timed model is one that its problem allows. -/
theorem timedSolution_eq_some {assignment : Assignment}
    (hsolution : library.timedSolution distances times pois startTimeMinutes = some assignment) :
    ∃ problem, vrptwProblem distances times pois startTimeMinutes = some problem ∧
      problem.Allows assignment := by
  unfold timedSolution at hsolution
  cases hproblem : vrptwProblem distances times pois startTimeMinutes with
  | none =>
      rw [hproblem] at hsolution
      cases hsolution
  | some problem =>
      rw [hproblem, Option.bind_eq_bind, Option.bind_some] at hsolution
      refine ⟨problem, rfl, ?_⟩
      cases hsolve : library.solver.solve problem with
      | noSolution =>
          rw [hsolve] at hsolution
          cases hsolution
      | raised =>
          rw [hsolve] at hsolution
          cases hsolution
      | solution found =>
          rw [hsolve] at hsolution
          cases hsolution
          exact library.solver.allowed _ _ hsolve

/-- The result is read off a solution of the timed model, or it is the plain one. -/
theorem solveVrptw_cases (library : SolverLibrary) (distances times : List (List ℚ))
    (pois : List Poi) (startTimeMinutes : ℤ) :
    library.solveVrptw distances times pois startTimeMinutes = library.solveTspBasic distances ∨
      ∃ problem assignment, vrptwProblem distances times pois startTimeMinutes = some problem ∧
        problem.Allows assignment ∧
        library.timedSolution distances times pois startTimeMinutes = some assignment ∧
        extractSolutionVrptw library.listSet assignment distances pois.length
            (library.timedSeconds distances times pois startTimeMinutes) =
          some (library.solveVrptw distances times pois startTimeMinutes) := by
  unfold solveVrptw
  dsimp only
  cases hsolution : library.timedSolution distances times pois startTimeMinutes with
  | none => exact .inl rfl
  | some assignment =>
      obtain ⟨problem, hproblem, hallows⟩ := timedSolution_eq_some hsolution
      rw [Option.bind_eq_bind, Option.bind_some]
      cases hextract : extractSolutionVrptw library.listSet assignment distances pois.length
          (library.timedSeconds distances times pois startTimeMinutes) with
      | none => exact .inl rfl
      | some result =>
          refine .inr ⟨problem, assignment, hproblem, hallows, rfl, ?_⟩
          rw [hextract, Option.getD_some]

/-- The nodes of the timed model are the places. -/
theorem nodes_vrptwProblem {problem : RoutingProblem}
    (hproblem : vrptwProblem distances times pois startTimeMinutes = some problem) :
    problem.nodes = pois.length := by
  obtain ⟨ranges, -, rfl⟩ := Option.map_eq_some_iff.mp hproblem
  rfl

/-- A place can be dropped from the timed model exactly when it is mandatory and not the
depot. -/
theorem droppable_vrptwProblem_iff {problem : RoutingProblem}
    (hproblem : vrptwProblem distances times pois startTimeMinutes = some problem) (i : ℕ) :
    problem.Droppable i ↔ 0 < i ∧ ∃ poi ∈ pois[i]?, poi.isMandatory.truthy = true := by
  obtain ⟨ranges, -, rfl⟩ := Option.map_eq_some_iff.mp hproblem
  unfold RoutingProblem.Droppable disjunctionNodes
  simp only [List.map_map, List.mem_map, List.mem_filter, Function.comp_apply, Prod.exists,
    List.mem_zipIdx_iff_getElem?, Bool.and_eq_true, decide_eq_true_eq, Option.mem_def]
  constructor
  · rintro ⟨poi, index, ⟨hpoi, hmandatory, hpos⟩, rfl⟩
    exact ⟨hpos, poi, hpoi, hmandatory⟩
  · rintro ⟨hpos, poi, hpoi, hmandatory⟩
    exact ⟨poi, i, ⟨hpoi, hmandatory, hpos⟩, rfl⟩

/-- A result that was read off an assignment has its route. -/
theorem route_extractSolutionVrptw {listSet : List ℕ → List ℕ} {assignment : Assignment}
    {poisCount : ℕ} {seconds : ℚ} {result : OptimizationResult}
    (hresult : extractSolutionVrptw listSet assignment distances poisCount seconds =
      some result) : result.route = assignment.route := by
  obtain ⟨total, -, rfl⟩ := Option.map_eq_some_iff.mp hresult
  rfl

theorem route_extractSolutionBasic {assignment : Assignment} {seconds : ℚ}
    {result : OptimizationResult}
    (hresult : extractSolutionBasic assignment distances seconds = some result) :
    result.route = assignment.route := by
  obtain ⟨total, -, rfl⟩ := Option.map_eq_some_iff.mp hresult
  rfl

/-- A successful plain result goes through all rows of the matrix. -/
theorem solveTspBasic_perm (hsuccess : (library.solveTspBasic distances).success = true) :
    (library.solveTspBasic distances).route.head? = some 0 ∧
      (library.solveTspBasic distances).route.Perm (List.range distances.length) := by
  rcases solveTspBasic_cases library distances with
    ⟨algorithm, seconds, hfailed⟩ | ⟨assignment, hallows, -, hextract⟩
  · rw [hfailed] at hsuccess
    cases hsuccess
  · rw [route_extractSolutionBasic hextract]
    exact ⟨hallows.starts, hallows.perm_range fun node hnode => hallows.mem_route rfl hnode⟩

/-- The library as the solver that the optimizer knows. -/
def toTspSolver (library : SolverLibrary) : TspSolver where
  solveTspBasic := library.solveTspBasic
  solveVrptw := library.solveVrptw
  tsp_route := by
    intro distances hsuccess
    obtain ⟨hstarts, hperm⟩ := solveTspBasic_perm hsuccess
    refine ⟨fun node hnode => List.mem_range.mp (hperm.mem_iff.mp hnode), ?_, hstarts⟩
    exact hperm.nodup_iff.mpr List.nodup_range
  vrptw_route := by
    intro distances durations pois start hlength hsuccess
    rcases solveVrptw_cases library distances durations pois start with
      hplain | ⟨problem, assignment, hproblem, hallows, -, hextract⟩
    · rw [hplain] at hsuccess ⊢
      obtain ⟨hstarts, hperm⟩ := solveTspBasic_perm hsuccess
      refine ⟨fun node hnode => ?_, hperm.nodup_iff.mpr List.nodup_range, hstarts⟩
      rw [← hlength]
      exact List.mem_range.mp (hperm.mem_iff.mp hnode)
    · rw [route_extractSolutionVrptw hextract]
      refine ⟨fun node hnode => ?_, hallows.nodup, hallows.starts⟩
      rw [← nodes_vrptwProblem hproblem]
      exact hallows.lt_nodes node hnode

end SolverLibrary
end Goveling.Ortools
