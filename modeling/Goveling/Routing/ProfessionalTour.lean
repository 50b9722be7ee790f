/-
# The tour of the professional stack

`_optimize_tsp_professional` asks the optimizer for a route over the matrix of a session, and goes
to the nearest place each time when the optimizer fails or raises. The entries of the matrix
may be infinite or missing, so the callbacks of the solver may raise, and so may what is left
when they do. A route that is returned goes through the places of the matrix all the same:
each place is on it once, or is told to be dropped.
-/

import Goveling.Math.EarlyExit
import Goveling.Ortools.TourSolver
import Goveling.Routing.BasicTsp
import Goveling.Routing.CityDetection

namespace Goveling.Routing

open Goveling.Math Goveling.Python Goveling.Ortools

/-! ## Entries as numbers -/

/-- A function of a number, where there is one. -/
def Cell.map (f : ℚ → ℚ) : Cell → Cell
  | .number value => .number (f value)
  | .infinite => .infinite
  | .null => .null

/-- `int(rows[i][j])`, unless it raises. -/
def wholeAt (rows : List (List Cell)) (i j : ℕ) : Option ℤ :=
  match cellAt rows i j with
  | .ok (.number value) => some (truncated value)
  | _ => none

/-- `total_distance += rows[i][j]`. -/
def addLeg (rows : List (List Cell)) (total : Cell) (leg : ℕ × ℕ) : Except PyError Cell := do
  total.plus "float" (← cellAt rows leg.1 leg.2)

/-- `total_distance` after the legs of a route. -/
def sumCells (rows : List (List Cell)) (route : List ℕ) : Except PyError Cell :=
  (legs route).foldlM (addLeg rows) (.number 0)

/-- `[[duration / 60 for duration in row] for row in durations]`. -/
def minutesOf (durations : List (List Cell)) : Except PyError (List (List Cell)) :=
  durations.mapM fun row => row.mapM fun duration =>
    match duration with
    | .null => .error (.typeError "unsupported operand type(s) for /: 'NoneType' and 'int'")
    | duration => .ok (duration.map (· / 60))

/-! ## The solver -/

/-- `OptimizationResult` over a matrix of cells. -/
structure TourResult where
  success : Bool
  route : List ℕ
  totalDistanceM : Cell
  totalTimeMinutes : Cell
  optimizationTimeS : ℚ
  algorithmUsed : String
  constraintsSatisfied : Bool
  droppedPois : Option (List ℕ) := none

/-- The result of a run without a solution. -/
def failedTour (algorithmUsed : String) (seconds : ℚ) : TourResult where
  success := false
  route := []
  totalDistanceM := .number 0
  totalTimeMinutes := .number 0
  optimizationTimeS := seconds
  algorithmUsed := algorithmUsed
  constraintsSatisfied := false

/-- The result of a plain solution. -/
def plainTour (assignment : Assignment) (totalDistance : Cell) (seconds : ℚ) : TourResult where
  success := true
  route := assignment.route
  totalDistanceM := totalDistance
  totalTimeMinutes :=
    totalDistance.map fun metres => metres / 1000 / 50 * 60 + assignment.route.length * 60
  optimizationTimeS := seconds
  algorithmUsed := "OR_TOOLS_TSP_BASIC"
  constraintsSatisfied := true

/-- The result of a timed solution. -/
def timedTour (listSet : List ℕ → List ℕ) (assignment : Assignment) (poisCount : ℕ)
    (totalDistance : Cell) (seconds : ℚ) : TourResult :=
  let dropped := listSet (missingNodes poisCount assignment.route)
  { success := true
    route := assignment.route
    totalDistanceM := totalDistance
    totalTimeMinutes := .number (lastCumul assignment)
    optimizationTimeS := seconds
    algorithmUsed := "OR_TOOLS_VRPTW"
    constraintsSatisfied := dropped.length = 0
    droppedPois := some dropped }

/-- The model of `solve_tsp_basic`. -/
def plainProblem (rows : List (List Cell)) : RoutingProblem where
  nodes := rows.length
  cost := wholeAt rows

/-- The model of `solve_vrptw`, unless building it raises. -/
def timedProblem (rows times : List (List Cell)) (pois : List Poi) (startTimeMinutes : ℤ) :
    Option RoutingProblem :=
  (timeRanges pois startTimeMinutes).map fun ranges =>
    { nodes := pois.length
      cost := wholeAt rows
      dimension := some
        { transit := fun i j => do
            let travelTime ← wholeAt times i j
            let serviceTime ← serviceTime pois i
            return travelTime + serviceTime
          slackMax := 60
          capacity := 1440
          ranges := ranges }
      disjunctions := (disjunctionNodes pois).map fun node => (node, 10000) }

section Solver

variable (library : SolverLibrary)

/-- `solve_tsp_basic`. -/
def solveTspBasic (rows : List (List Cell)) : TourResult :=
  let seconds := library.seconds (plainProblem rows)
  match library.solver.solve (plainProblem rows) with
  | .solution assignment =>
      match sumCells rows assignment.route with
      | .ok totalDistance => plainTour assignment totalDistance seconds
      | .error _ => failedTour "OR_TOOLS_ERROR" seconds
  | .noSolution => failedTour "OR_TOOLS_TSP_FAILED" seconds
  | .raised => failedTour "OR_TOOLS_ERROR" seconds

/-- The timed model, if it is solved and nothing raises. -/
def solveTimed (rows times : List (List Cell)) (pois : List Poi) (startTimeMinutes : ℤ) :
    Option TourResult := do
  let problem ← timedProblem rows times pois startTimeMinutes
  match library.solver.solve problem with
  | .solution assignment =>
      match sumCells rows assignment.route with
      | .ok totalDistance =>
          some (timedTour library.listSet assignment pois.length totalDistance
            (library.seconds problem))
      | .error _ => none
  | .noSolution => none
  | .raised => none

/-- `solve_vrptw`: without a timed solution, `solve_tsp_basic`. -/
def solveVrptw (rows times : List (List Cell)) (pois : List Poi) (startTimeMinutes : ℤ) :
    TourResult :=
  (solveTimed library rows times pois startTimeMinutes).getD (solveTspBasic library rows)

/-- The entries of the dictionary of `optimize_itinerary_advanced` that are read. -/
structure AdvancedItinerary where
  optimizedRoute : List ℕ
  totalDistanceKm : Cell
  totalTimeMinutes : Cell
  optimizationTimeS : ℚ
  algorithmUsed : String
  constraintsSatisfied : Bool
  droppedPois : List ℕ
  performanceMetrics : PyDict

/-- The dictionary of a successful optimization. -/
def advancedItinerary (poisCount : ℕ) (result : TourResult) : AdvancedItinerary :=
  let dropped := result.droppedPois.getD []
  { optimizedRoute := result.route
    totalDistanceKm := result.totalDistanceM.map (· / 1000)
    totalTimeMinutes := result.totalTimeMinutes
    optimizationTimeS := result.optimizationTimeS
    algorithmUsed := result.algorithmUsed
    constraintsSatisfied := result.constraintsSatisfied
    droppedPois := dropped
    performanceMetrics :=
      [("pois_optimized", .int result.route.length),
        ("efficiency_gain", .str
          (toString ((poisCount : ℤ) - dropped.length) ++ "/" ++ toString poisCount)),
        ("algorithm_speed", .str (fixedText 3 result.optimizationTimeS ++ "s"))] }

/-- The result of the solver that fits the configuration. -/
def solveItinerary (structured : List Poi) (distances timeMatrixMinutes : List (List Cell))
    (useTimeWindows : Bool) (startTime : String) : Except PyError TourResult :=
  if useTimeWindows && 1 < structured.length then do
    let startMinutes ← parseTimeToMinutes startTime
    return solveVrptw library distances timeMatrixMinutes structured startMinutes
  else .ok (solveTspBasic library distances)

/-- What `optimize_itinerary_advanced` makes of a result: nothing if it was no success. -/
def processResult (pois : List PyDict) (result : TourResult) :
    Except PyError (Option AdvancedItinerary) :=
  if result.success then do
    let _optimizedPois ← result.route.mapM (poiAt pois)
    return some (advancedItinerary pois.length result)
  else .ok none

/-- `optimize_itinerary_advanced`. -/
def optimizeItineraryAdvanced (pois : List PyDict) (matrix : ODMatrix) (useTimeWindows : Bool)
    (startTime : String) : Except PyError (Option AdvancedItinerary) := do
  let structured ← structurePois pois
  let timeMatrixMinutes ← minutesOf matrix.durations
  let result ← solveItinerary library structured matrix.distances timeMatrixMinutes
    useTimeWindows startTime
  processResult pois result

end Solver

/-! ## The tour -/

/-- `has_time_constraints`. -/
def hasTimeConstraints (pois : List LocatedPoi) : Bool :=
  pois.any fun poi =>
    (PyDict.get poi.fields "opening_hour" .none).truthy ||
      (PyDict.get poi.fields "closing_hour" .none).truthy ||
        (PyDict.get poi.fields "duration_minutes" .none).truthy

/-- The dictionary that is made of a route of the optimizer. -/
structure SolvedTour where
  route : List ℕ
  totalDistanceM : ℚ
  totalTimeS : ℚ
  algorithmUsed : String
  optimizationTimeS : ℚ
  constraintsSatisfied : Bool
  droppedPois : List ℕ
  performanceMetrics : PyDict

/-- What `_optimize_tsp_professional` returns: a route of the optimizer, or a tour without it. -/
inductive ProfessionalTour
  | solved (tour : SolvedTour)
  | basic (tour : BasicRoute)

namespace ProfessionalTour

/-- `tour['route']`. -/
def route : ProfessionalTour → List ℕ
  | solved tour => tour.route
  | basic tour => tour.route

/-- The places that are told to be dropped. -/
def droppedPois : ProfessionalTour → List ℕ
  | solved tour => tour.droppedPois
  | basic _ => []

/-- The distance that is reported. -/
def totalDistance : ProfessionalTour → ℚ
  | solved tour => tour.totalDistanceM
  | basic tour => tour.totalDistance

/-- `tour.get('algorithm_used', 'OR_TOOLS_PROFESSIONAL')`. A tour without the optimizer has its
name under another key. -/
def algorithmUsed : ProfessionalTour → String
  | solved tour => tour.algorithmUsed
  | basic _ => "OR_TOOLS_PROFESSIONAL"

end ProfessionalTour

/-- The cleaned dictionary of a success. -/
def solvedTour (result : AdvancedItinerary) : SolvedTour where
  route := result.optimizedRoute
  totalDistanceM := (result.totalDistanceKm.map (· * 1000)).cleanNumericValue 0
  totalTimeS := (result.totalTimeMinutes.map (· * 60)).cleanNumericValue 0
  algorithmUsed := result.algorithmUsed
  optimizationTimeS := result.optimizationTimeS
  constraintsSatisfied := result.constraintsSatisfied
  droppedPois := result.droppedPois
  performanceMetrics := result.performanceMetrics

/-- `_optimize_tsp_professional`. -/
def optimizeTspProfessional (library : SolverLibrary) (pois : List LocatedPoi)
    (matrix : ODMatrix) : Except PyError ProfessionalTour :=
  match optimizeItineraryAdvanced library (pois.map LocatedPoi.fields) matrix
      (hasTimeConstraints pois) "09:00" with
  | .ok (some result) => .ok (.solved (solvedTour result))
  | .ok none | .error _ => (optimizeTspBasic matrix).map .basic

/-! ## What is asked of a tour -/

/-- A matrix with a row and a column for each of some places. -/
structure SquareMatrix (n : ℕ) (rows : List (List Cell)) : Prop where
  height : rows.length = n
  width : ∀ row ∈ rows, row.length = n

/-- A tour from the first place on with every place on it once or dropped, that reports the sum
of its legs, or zero as soon as one of them is infinite. -/
structure VisitsPlaces (n : ℕ) (matrix : ODMatrix) (tour : ProfessionalTour) : Prop where
  starts : tour.route.head? = some 0
  perm : (tour.route ++ tour.droppedPois).Perm (List.range n)
  distance : ReportsTotal (legValues matrix.distances tour.route) tour.totalDistance

theorem TravelMatrix.square {n : ℕ} {rows : List (List Cell)} (htravel : TravelMatrix n rows) :
    SquareMatrix n rows :=
  ⟨htravel.height, htravel.width⟩

/-! ## Sums -/

section Sums

variable {rows : List (List Cell)} {total leg sum : Cell}

theorem value_of_plus {totalType : String} (hplus : total.plus totalType leg = .ok sum) :
    sum.value = total.value + leg.value := by
  cases total <;> cases leg <;> cases hplus <;> rfl

theorem value_of_cellAt {i j : ℕ} (hcell : cellAt rows i j = .ok leg) :
    leg.value = travel rows i j := by
  unfold cellAt at hcell
  unfold travel
  cases hfound : rows[i]?.bind fun row => row[j]? with
  | none =>
      rw [hfound] at hcell
      cases hcell
  | some cell =>
      rw [hfound] at hcell
      cases hcell
      rfl

theorem value_of_addLeg {ends : ℕ × ℕ} (hadd : addLeg rows total ends = .ok sum) :
    sum.value = total.value + travel rows ends.1 ends.2 := by
  obtain ⟨cell, hcell, hplus⟩ := exists_of_bind_eq_ok hadd
  exact (value_of_plus hplus).trans (congrArg _ (value_of_cellAt hcell))

/-- The loop over legs adds them up. -/
theorem value_of_foldlM_addLeg {ends : List (ℕ × ℕ)}
    (hloop : ends.foldlM (addLeg rows) total = .ok sum) :
    sum.value = total.value + (ends.map fun leg => travel rows leg.1 leg.2).sum := by
  induction ends generalizing total with
  | nil =>
      cases hloop
      exact (add_zero _).symm
  | cons first rest ih =>
      rw [List.foldlM_cons] at hloop
      obtain ⟨next, hnext, hrest⟩ := exists_of_bind_eq_ok hloop
      rw [ih hrest, value_of_addLeg hnext, List.map_cons, List.sum_cons, add_assoc]

theorem value_sumCells {route : List ℕ} (hsum : sumCells rows route = .ok sum) :
    sum.value = (legValues rows route).sum := by
  rw [value_of_foldlM_addLeg hsum]
  exact zero_add _

/-- The distance in kilometres and back. -/
theorem clean_metres (total : Cell) :
    ((total.map (· / 1000)).map (· * 1000)).cleanNumericValue 0 = total.cleanNumericValue 0 := by
  cases total with
  | number metres => exact div_mul_cancel₀ metres (by norm_num)
  | infinite => rfl
  | null => rfl

end Sums

/-! ## Routes of the optimizer -/

section Solved

variable {library : SolverLibrary} {n : ℕ} {rows times : List (List Cell)} {result : TourResult}

/-- What is asked of a successful result over a number of places. -/
structure SolvesTour (n : ℕ) (rows : List (List Cell)) (result : TourResult) : Prop where
  starts : result.route.head? = some 0
  perm : (result.route ++ result.droppedPois.getD []).Perm (List.range n)
  distance : result.totalDistanceM.value = (legValues rows result.route).sum

/-- A plain route goes through all rows. -/
theorem solvesTour_solveTspBasic (hsuccess : (solveTspBasic library rows).success = true) :
    SolvesTour rows.length rows (solveTspBasic library rows) := by
  unfold solveTspBasic at hsuccess ⊢
  cases hsolve : library.solver.solve (plainProblem rows) with
  | noSolution =>
      rw [hsolve] at hsuccess
      cases hsuccess
  | raised =>
      rw [hsolve] at hsuccess
      cases hsuccess
  | solution assignment =>
      have hallows := library.solver.allowed _ _ hsolve
      cases hsum : sumCells rows assignment.route with
      | error e =>
          rw [hsolve] at hsuccess
          dsimp only at hsuccess
          rw [hsum] at hsuccess
          cases hsuccess
      | ok totalDistance =>
          dsimp only
          rw [hsum]
          refine ⟨hallows.starts, ?_, value_sumCells hsum⟩
          show (assignment.route ++ []).Perm _
          rw [List.append_nil]
          exact hallows.perm_range fun node hnode => hallows.mem_route rfl hnode

/-- What is on a route and what is missing from it are all places. -/
theorem perm_append_missingNodes {route : List ℕ} (hnodup : route.Nodup)
    (hlt : ∀ node ∈ route, node < n) : (route ++ missingNodes n route).Perm (List.range n) := by
  have hmissing : ∀ {node}, node ∈ missingNodes n route ↔ node < n ∧ node ∉ route := by
    intro node
    unfold missingNodes
    rw [List.mem_filter, List.mem_range, decide_eq_true_eq]
  have happend : (route ++ missingNodes n route).Nodup := by
    refine List.nodup_append.mpr ⟨hnodup, List.nodup_range.filter _, ?_⟩
    rintro node hnode other hother rfl
    exact (hmissing.mp hother).2 hnode
  refine (List.perm_ext_iff_of_nodup happend List.nodup_range).mpr fun node => ?_
  rw [List.mem_append, hmissing, List.mem_range]
  constructor
  · rintro (hnode | ⟨hnode, -⟩)
    · exact hlt node hnode
    · exact hnode
  · intro hnode
    by_cases hroute : node ∈ route
    · exact .inl hroute
    · exact .inr ⟨hnode, hroute⟩

/-- A timed route drops the places that it misses. -/
theorem solvesTour_solveTimed {pois : List Poi} {startTimeMinutes : ℤ}
    (hresult : solveTimed library rows times pois startTimeMinutes = some result) :
    SolvesTour pois.length rows result := by
  obtain ⟨problem, hproblem, hsolved⟩ := Option.bind_eq_some_iff.mp hresult
  have hnodes : problem.nodes = pois.length := by
    obtain ⟨ranges, -, rfl⟩ := Option.map_eq_some_iff.mp hproblem
    rfl
  cases hsolve : library.solver.solve problem with
  | noSolution =>
      rw [hsolve] at hsolved
      cases hsolved
  | raised =>
      rw [hsolve] at hsolved
      cases hsolved
  | solution assignment =>
      rw [hsolve] at hsolved
      dsimp only at hsolved
      cases hsum : sumCells rows assignment.route with
      | error e =>
          rw [hsum] at hsolved
          cases hsolved
      | ok totalDistance =>
          rw [hsum] at hsolved
          cases hsolved
          have hallows := library.solver.allowed _ _ hsolve
          have hlt : ∀ node ∈ assignment.route, node < pois.length := hnodes ▸ hallows.lt_nodes
          refine ⟨hallows.starts, ?_, value_sumCells hsum⟩
          exact ((library.listSet_perm _).append_left _).trans
            (perm_append_missingNodes hallows.nodup hlt)

theorem solvesTour_solveVrptw {pois : List Poi} {startTimeMinutes : ℤ}
    (hheight : rows.length = pois.length)
    (hsuccess : (solveVrptw library rows times pois startTimeMinutes).success = true) :
    SolvesTour pois.length rows (solveVrptw library rows times pois startTimeMinutes) := by
  unfold solveVrptw at hsuccess ⊢
  cases hresult : solveTimed library rows times pois startTimeMinutes with
  | some result => exact solvesTour_solveTimed hresult
  | none =>
      rw [hresult] at hsuccess
      rw [← hheight]
      exact solvesTour_solveTspBasic hsuccess

/-- A successful itinerary of the optimizer is one of its solver. -/
theorem exists_of_optimizeItineraryAdvanced {pois : List PyDict} {matrix : ODMatrix}
    {useTimeWindows : Bool} {startTime : String} {itinerary : AdvancedItinerary}
    (hheight : matrix.distances.length = pois.length)
    (hitinerary : optimizeItineraryAdvanced library pois matrix useTimeWindows startTime =
      .ok (some itinerary)) :
    ∃ result, SolvesTour pois.length matrix.distances result ∧
      itinerary = advancedItinerary pois.length result := by
  obtain ⟨structured, hstructured, hrest⟩ := exists_of_bind_eq_ok hitinerary
  obtain ⟨minutes, -, hsolved⟩ := exists_of_bind_eq_ok hrest
  obtain ⟨result, hresult, hprocessed⟩ := exists_of_bind_eq_ok hsolved
  have hlength : structured.length = pois.length := by
    simpa using length_of_mapM_ok hstructured
  unfold processResult at hprocessed
  cases hsuccess : result.success with
  | false =>
      rw [hsuccess] at hprocessed
      cases hprocessed
  | true =>
      rw [hsuccess, if_pos rfl] at hprocessed
      obtain ⟨visited, -, hvisited⟩ := exists_of_bind_eq_ok hprocessed
      cases hvisited
      refine ⟨result, ?_, rfl⟩
      unfold solveItinerary at hresult
      by_cases htimed : (useTimeWindows && 1 < structured.length) = true
      · rw [if_pos htimed] at hresult
        obtain ⟨start, -, hstart⟩ := exists_of_bind_eq_ok hresult
        cases hstart
        rw [← hlength]
        exact solvesTour_solveVrptw (hheight.trans hlength.symm) hsuccess
      · rw [if_neg htimed] at hresult
        cases hresult
        rw [← hheight]
        exact solvesTour_solveTspBasic hsuccess

end Solved

/-! ## Tours without the optimizer -/

section Basic

variable {n : ℕ} {matrix : ODMatrix} {state next final : TourState}

/-- `min` finds one of the nodes. -/
theorem mem_of_nearestOf {rows : List (List Cell)} {current nearest : ℕ} {nodes : List ℕ}
    (hnearest : nearestOf rows current nodes = .ok nearest) : nearest ∈ nodes := by
  cases nodes with
  | nil => cases hnearest
  | cons first others =>
      obtain ⟨cell, -, hrest⟩ := exists_of_bind_eq_ok hnearest
      obtain ⟨best, hbest, hreturn⟩ := exists_of_bind_eq_ok hrest
      cases hreturn
      have hkept : ∀ (before : ℕ × Cell) (node : ℕ) (after : ℕ × Cell), node ∈ others →
          before.1 ∈ first :: others → compareNode rows current before node = .ok after →
          after.1 ∈ first :: others := by
        intro before node after hnode hbefore hturn
        obtain ⟨found, -, hcompared⟩ := exists_of_bind_eq_ok hturn
        obtain ⟨nearer, -, hafter⟩ := exists_of_bind_eq_ok hcompared
        cases hafter
        cases nearer with
        | true => exact List.mem_cons_of_mem first hnode
        | false => exact hbefore
      exact foldlM_invariant (fun best : ℕ × Cell => best.1 ∈ first :: others) hkept
        List.mem_cons_self hbest

/-- A turn of the loop goes on to a place that is left. -/
theorem exists_of_visitNearest (hnext : visitNearest matrix state = .ok next) :
    ∃ nearest ∈ state.unvisited, next.current = nearest ∧
      next.unvisited = state.unvisited.erase nearest ∧ GoesOn matrix state next [nearest] := by
  obtain ⟨nearest, hnearest, hnext⟩ := exists_of_bind_eq_ok hnext
  obtain ⟨distance, hdistance, hnext⟩ := exists_of_bind_eq_ok hnext
  obtain ⟨totalDistance, hplusDistance, hnext⟩ := exists_of_bind_eq_ok hnext
  obtain ⟨duration, hduration, hnext⟩ := exists_of_bind_eq_ok hnext
  obtain ⟨totalTime, hplusTime, hnext⟩ := exists_of_bind_eq_ok hnext
  cases hnext
  have hleg : ∀ rows, (legValues rows [state.current, nearest]).sum =
      travel rows state.current nearest := fun rows => by
    rw [sum_legValues_cons, legValues_singleton, List.sum_nil, add_zero]
  refine ⟨nearest, mem_of_nearestOf hnearest, rfl, rfl, rfl, ?_, ?_⟩
  · rw [hleg, ← value_of_cellAt hdistance]
    exact value_of_plus hplusDistance
  · rw [hleg, ← value_of_cellAt hduration]
    exact value_of_plus hplusTime

/-- The loop goes through the places that are left, in some order. -/
theorem exists_of_visitAll {steps : ℕ} (hsteps : state.unvisited.length = steps)
    (hfinal : visitAll matrix steps state = .ok final) :
    ∃ order, order.Perm state.unvisited ∧ GoesOn matrix state final order := by
  induction steps generalizing state with
  | zero =>
      cases hfinal
      refine ⟨[], ?_, ?_⟩
      · rw [List.eq_nil_of_length_eq_zero hsteps]
      · constructor <;> simp
  | succ steps ih =>
      obtain ⟨next, hnext, hrest⟩ := exists_of_bind_eq_ok hfinal
      obtain ⟨nearest, hmem, hcurrent, hunvisited, hgoes⟩ := exists_of_visitNearest hnext
      have hlength : next.unvisited.length = steps := by
        rw [hunvisited, List.length_erase_of_mem hmem, hsteps, Nat.add_sub_cancel]
      obtain ⟨order, horder, hlast⟩ := ih hlength hrest
      refine ⟨nearest :: order, ?_, hgoes.cons hcurrent hlast⟩
      rw [hunvisited] at horder
      exact (horder.cons nearest).trans (List.perm_cons_erase hmem).symm

/-- A tour without the optimizer goes through all places, whatever the entries are. -/
theorem visitsPlaces_basic {tour : BasicRoute} (hn : 1 ≤ n)
    (hheight : matrix.distances.length = n) (htour : optimizeTspBasic matrix = .ok tour) :
    VisitsPlaces n matrix (.basic tour) := by
  unfold optimizeTspBasic at htour
  dsimp only at htour
  rw [hheight] at htour
  by_cases hone : n ≤ 1
  · obtain rfl : n = 1 := le_antisymm hone hn
    rw [if_pos hone] at htour
    cases htour
    exact ⟨rfl, List.Perm.refl _, fun _ => rfl, fun _ => rfl⟩
  · rw [if_neg hone] at htour
    obtain ⟨final, hfinal, hreturn⟩ := exists_of_bind_eq_ok htour
    cases hreturn
    obtain ⟨order, horder, hgoes⟩ :=
      @exists_of_visitAll matrix { unvisited := List.range' 1 (n - 1) } final _ rfl hfinal
    have hroute : final.route = 0 :: order := hgoes.route
    refine ⟨congrArg List.head? hroute, ?_, reportsTotal_cleanNumericValue ?_⟩
    · show (final.route ++ []).Perm _
      rw [List.append_nil, hroute, range_eq_cons hn]
      exact horder.cons 0
    · show _ = (legValues matrix.distances final.route).sum
      rw [hroute, hgoes.distance]
      exact zero_add _

end Basic

/-! ## Tours of the stack -/

section Tour

variable {library : SolverLibrary} {pois : List LocatedPoi} {matrix : ODMatrix}

/-- Whatever the solver answers and whatever entries it meets, a tour that is returned visits or
drops each place once. -/
theorem visitsPlaces_optimizeTspProfessional {tour : ProfessionalTour} (hpois : pois ≠ [])
    (hsquare : SquareMatrix pois.length matrix.distances)
    (htour : optimizeTspProfessional library pois matrix = .ok tour) :
    VisitsPlaces pois.length matrix tour := by
  have hn : 1 ≤ pois.length := List.length_pos_iff.mpr hpois
  have hlength : (pois.map LocatedPoi.fields).length = pois.length := List.length_map _
  have hbasic : ∀ tour, (optimizeTspBasic matrix).map ProfessionalTour.basic = .ok tour →
      VisitsPlaces pois.length matrix tour := by
    intro tour htour
    obtain ⟨basic, hsome, rfl⟩ := exists_of_map_eq_ok htour
    exact visitsPlaces_basic hn hsquare.height hsome
  unfold optimizeTspProfessional at htour
  cases hitinerary : optimizeItineraryAdvanced library (pois.map LocatedPoi.fields) matrix
      (hasTimeConstraints pois) "09:00" with
  | error e =>
      rw [hitinerary] at htour
      exact hbasic tour htour
  | ok found =>
      rw [hitinerary] at htour
      cases found with
      | none => exact hbasic tour htour
      | some itinerary =>
          cases htour
          obtain ⟨result, hsolves, rfl⟩ :=
            exists_of_optimizeItineraryAdvanced (hsquare.height.trans hlength.symm) hitinerary
          rw [hlength] at hsolves
          refine ⟨hsolves.starts, hsolves.perm, ?_⟩
          show ReportsTotal _
            (((result.totalDistanceM.map (· / 1000)).map (· * 1000)).cleanNumericValue 0)
          rw [clean_metres]
          exact reportsTotal_cleanNumericValue hsolves.distance

/-- Over numbers and infinities a tour is always returned. -/
theorem exists_optimizeTspProfessional (hpois : pois ≠ [])
    (hdistances : TravelMatrix pois.length matrix.distances)
    (hdurations : TravelMatrix pois.length matrix.durations) :
    ∃ tour, optimizeTspProfessional library pois matrix = .ok tour := by
  have hn : 1 ≤ pois.length := List.length_pos_iff.mpr hpois
  have hbasic : ∃ basic, optimizeTspBasic matrix = .ok basic := by
    unfold optimizeTspBasic
    dsimp only
    rw [hdistances.height, List.length_range']
    by_cases hone : pois.length ≤ 1
    · rw [if_pos hone]
      exact ⟨_, rfl⟩
    · rw [if_neg hone]
      obtain ⟨final, hfinal, -, -⟩ := visitAll_eq hdistances hdurations (pois.length - 1)
        (ready_start pois.length hn) List.length_range'
      rw [hfinal]
      exact ⟨_, rfl⟩
  obtain ⟨basic, hbasic⟩ := hbasic
  unfold optimizeTspProfessional
  rw [hbasic]
  cases optimizeItineraryAdvanced library (pois.map LocatedPoi.fields) matrix
      (hasTimeConstraints pois) "09:00" with
  | error e => exact ⟨_, rfl⟩
  | ok found =>
      cases found with
      | none => exact ⟨_, rfl⟩
      | some itinerary => exact ⟨_, rfl⟩

end Tour

end Goveling.Routing
