/-
# The totals of an itinerary

`get_distance_matrix` takes metres and seconds from OSRM, and falls back to kilometres and
minutes by the haversine formula. The optimizer divides by 1000 and by 60 in both cases, a
plain route gets an estimated time, and a timed route the reading of the clock at its last
stop. The totals are compared with the route: its legs, its visits and its waits.
-/

import Mathlib.Algebra.BigOperators.Ring.List
import Goveling.Ortools.TourPromises

namespace Goveling.Ortools

open Goveling.Math Goveling.Python

/-! ## The matrix -/

/-- Where a matrix comes from. -/
inductive MatrixOrigin
  | osrm | haversine
  deriving DecidableEq

/-- A unit of distance of a source, in kilometres. -/
def MatrixOrigin.kmPerUnit : MatrixOrigin → ℚ
  | .osrm => 1 / 1000
  | .haversine => 1

/-- A unit of time of a source, in minutes. -/
def MatrixOrigin.minutesPerUnit : MatrixOrigin → ℚ
  | .osrm => 1 / 60
  | .haversine => 1

/-- Where the service gets distances from: OSRM, if there is one, which answers with square
matrices or not at all, and `_haversine_distance`. -/
structure MatrixEnv where
  osrm : Option (List (PyVal × PyVal) → Option OsrmMatrix)
  haversineDistance : PyVal × PyVal → PyVal × PyVal → Except PyError ℚ
  osrm_square : ∀ table ∈ osrm, ∀ coordinates, ∀ matrix ∈ table coordinates,
    IsSquare coordinates.length matrix.distances ∧ IsSquare coordinates.length matrix.durations

/-- `coordinates` in `get_distance_matrix`. -/
def placeCoordinates (place : PyDict) : PyVal × PyVal :=
  (place.get "lat" (place.get "latitude" (.int 0)),
    place.get "lon" (place.get "longitude" (.int 0)))

/-- The distances of `_create_euclidean_matrix`. -/
def euclideanDistances (env : MatrixEnv) (coordinates : List (PyVal × PyVal)) :
    Except PyError (List (List ℚ)) :=
  coordinates.zipIdx.mapM fun origin => coordinates.zipIdx.mapM fun destination =>
    if origin.2 = destination.2 then .ok 0
    else env.haversineDistance origin.1 destination.1

/-- `_create_euclidean_matrix`: 50 km/h on average. -/
def createEuclideanMatrix (env : MatrixEnv) (coordinates : List (PyVal × PyVal)) :
    Except PyError OsrmMatrix := do
  let distances ← euclideanDistances env coordinates
  .ok
    { distances := distances
      durations := distances.map fun row => row.map fun distance => distance / 50 * 60 }

/-- `get_distance_matrix`, with the source of the matrix. A matrix without rows raises when it
is logged. -/
def MatrixEnv.getDistanceMatrix (env : MatrixEnv) (places : List PyDict) :
    Except PyError (MatrixOrigin × OsrmMatrix) :=
  let coordinates := places.map placeCoordinates
  match env.osrm.bind fun table => table coordinates with
  | some matrix =>
      if matrix.distances = [] then
        (createEuclideanMatrix env coordinates).map fun matrix => (.haversine, matrix)
      else .ok (.osrm, matrix)
  | none => (createEuclideanMatrix env coordinates).map fun matrix => (.haversine, matrix)

/-- The matrices are over the places. -/
structure OsrmMatrix.IsOver (matrix : OsrmMatrix) (n : ℕ) : Prop where
  distances : IsSquare n matrix.distances
  durations : IsSquare n matrix.durations

/-- A matrix of some rows, with each of its numbers changed. -/
theorem IsSquare.map_map {n : ℕ} {matrix : List (List ℚ)} (hsquare : IsSquare n matrix)
    (change : ℚ → ℚ) : IsSquare n (matrix.map fun row => row.map change) := by
  refine ⟨by rw [List.length_map, hsquare.rows], ?_⟩
  intro row hrow
  obtain ⟨old, hold, rfl⟩ := List.mem_map.mp hrow
  rw [List.length_map, hsquare.columns old hold]

theorem isOver_createEuclideanMatrix {env : MatrixEnv} {coordinates : List (PyVal × PyVal)}
    {matrix : OsrmMatrix} (hmatrix : createEuclideanMatrix env coordinates = .ok matrix) :
    matrix.IsOver coordinates.length := by
  obtain ⟨distances, hdistances, hdone⟩ := exists_of_bind_eq_ok hmatrix
  cases hdone
  have hsquare : IsSquare coordinates.length distances := by
    refine ⟨by simpa using length_of_mapM_ok hdistances, ?_⟩
    intro row hrow
    obtain ⟨origin, -, hfrom⟩ := (mem_of_mapM_eq_ok hdistances).mp hrow
    simpa using length_of_mapM_ok hfrom
  exact ⟨hsquare, hsquare.map_map _⟩

/-- Wherever it comes from, the matrix is over the places. -/
theorem isOver_getDistanceMatrix {env : MatrixEnv} {places : List PyDict} {source : MatrixOrigin}
    {matrix : OsrmMatrix} (hmatrix : env.getDistanceMatrix places = .ok (source, matrix)) :
    matrix.IsOver places.length := by
  have hlength : (places.map placeCoordinates).length = places.length := List.length_map _
  have hfallback : (createEuclideanMatrix env (places.map placeCoordinates)).map
      (fun matrix => (MatrixOrigin.haversine, matrix)) = .ok (source, matrix) →
        matrix.IsOver places.length := by
    intro hcreated
    obtain ⟨created, hresult, hpair⟩ := exists_of_map_eq_ok hcreated
    cases hpair
    exact hlength ▸ isOver_createEuclideanMatrix hresult
  unfold MatrixEnv.getDistanceMatrix at hmatrix
  dsimp only at hmatrix
  split at hmatrix
  · rename_i found hfound
    split at hmatrix
    · exact hfallback hmatrix
    · cases hmatrix
      obtain ⟨table, htable, hanswer⟩ := Option.bind_eq_some_iff.mp hfound
      obtain ⟨hdistances, hdurations⟩ := env.osrm_square table htable _ _ hanswer
      exact hlength ▸ ⟨hdistances, hdurations⟩
  · exact hfallback hmatrix

/-! ## The route that is chosen -/

/-- `time_matrix_minutes`. -/
def timeMatrixMinutes (durations : List (List ℚ)) : List (List ℚ) :=
  durations.map fun row => row.map fun duration => duration / 60

theorem matrixAt_timeMatrixMinutes (durations : List (List ℚ)) (i j : ℕ) :
    matrixAt (timeMatrixMinutes durations) i j =
      (matrixAt durations i j).map fun duration => duration / 60 := by
  unfold matrixAt timeMatrixMinutes
  rw [List.getElem?_map]
  cases durations[i]? with
  | none => rfl
  | some row => rw [Option.map_some, Option.bind_some, Option.bind_some, List.getElem?_map]

/-- The answer that a result is made of. -/
inductive RouteChoice
  | timed (trip : Assignment)
  | plain (trip : Assignment)

/-- The assignment of a choice. -/
def RouteChoice.trip : RouteChoice → Assignment
  | .timed trip | .plain trip => trip

/-- The answer that the solver takes, with a time to start when time windows are used. -/
def SolverLibrary.choose (library : SolverLibrary) (matrix : OsrmMatrix) (pois : List Poi)
    (start : Option ℤ) : Option RouteChoice :=
  let timed := start.bind fun start =>
    library.timedSolution matrix.distances (timeMatrixMinutes matrix.durations) pois start
  match timed with
  | some trip => some (.timed trip)
  | none =>
      match library.solver.solve (tspProblem matrix.distances) with
      | .solution trip => some (.plain trip)
      | .noSolution => none
      | .raised => none

/-- The start of a timed model, unless a plain one is enough. -/
def timedStart (structured : List Poi) (useTimeWindows : Bool) (startTime : String) :
    Except PyError (Option ℤ) :=
  if useTimeWindows && 1 < structured.length then (parseTimeToMinutes startTime).map some
  else .ok none

/-- What an itinerary is made of. -/
structure ItineraryPlan where
  source : MatrixOrigin
  matrix : OsrmMatrix
  pois : List Poi
  choice : RouteChoice

/-- The plan of an itinerary over the matrix of its places, if the solver finds a route. -/
def itineraryPlan (library : SolverLibrary) (env : MatrixEnv) (pois : List PyDict)
    (useTimeWindows : Bool) (startTime : String) : Except PyError (Option ItineraryPlan) := do
  let (source, matrix) ← env.getDistanceMatrix pois
  let structured ← structurePois pois
  let start ← timedStart structured useTimeWindows startTime
  .ok ((library.choose matrix structured start).map fun choice =>
    { source := source
      matrix := matrix
      pois := structured
      choice := choice })

namespace ItineraryPlan

/-- The route of a plan. -/
def route (plan : ItineraryPlan) : List ℕ := plan.choice.trip.route

/-- The sum of a matrix over the legs of the route. -/
def overLegs (plan : ItineraryPlan) (matrix : List (List ℚ)) : ℚ :=
  ((legs plan.route).map (legValue matrix)).sum

/-- The duration of a visit. What is not a number counts as none. -/
def visitMinutes (plan : ItineraryPlan) (i : ℕ) : ℚ :=
  ((plan.pois[i]?).bind fun poi => poi.durationMinutes.number?).getD 0

/-- The waits before the visits of a timed route. -/
def waits (plan : ItineraryPlan) : ℚ :=
  match plan.choice with
  | .timed trip => ((legs trip.stops).map fun leg => (leg.1.slack : ℚ)).sum
  | .plain _ => 0

/-- The length of the route in kilometres. -/
def routeKm (plan : ItineraryPlan) : ℚ :=
  plan.source.kmPerUnit * plan.overLegs plan.matrix.distances

/-- The minutes from the start of the route to its end: visits, legs and waits. -/
def elapsedMinutes (plan : ItineraryPlan) : ℚ :=
  (plan.route.map plan.visitMinutes).sum +
    plan.source.minutesPerUnit * plan.overLegs plan.matrix.durations + plan.waits

/-- Off by nothing, or by less than a unit for every leg of the route. -/
def WithinLegs (plan : ItineraryPlan) (unit difference : ℚ) : Prop :=
  difference = 0 ∨ |difference| < (legs plan.route).length * unit

/-- The totals that are reported are those of the route: kilometres up to a unit of the matrix
for every leg, and minutes up to a minute for every leg. -/
structure Accurate (plan : ItineraryPlan) (km minutes : ℚ) : Prop where
  distance : plan.WithinLegs plan.source.kmPerUnit (km - plan.routeKm)
  time : plan.WithinLegs 1 (minutes - plan.elapsedMinutes)

/-- How far the reported kilometres are off: a kilometre is taken for a metre. -/
def kmError (plan : ItineraryPlan) : ℚ :=
  match plan.source with
  | .osrm => 0
  | .haversine => -(999 / 1000) * plan.overLegs plan.matrix.distances

/-- The clock when a timed route starts. -/
def startClock (trip : Assignment) : ℚ := ((trip.stops.head?.map RouteStop.cumul).getD 0 : ℤ)

/-- How far the reported minutes are off. A plain route is estimated at 1.2 minutes for 1000
units of distance and an hour for a visit. A timed route reports a clock reading, before
the last visit, with the decimals of its legs cut off. -/
def minutesError (plan : ItineraryPlan) : ℚ :=
  match plan.choice with
  | .plain trip =>
      (trip.route.map fun i => 60 - plan.visitMinutes i).sum +
        ((legs trip.route).map fun leg =>
          3 / 2500 * legValue plan.matrix.distances leg -
            plan.source.minutesPerUnit * legValue plan.matrix.durations leg).sum
  | .timed trip =>
      startClock trip - (trip.route.getLast?.map plan.visitMinutes).getD 0 -
        ((legs trip.route).map fun leg =>
          plan.source.minutesPerUnit * legValue plan.matrix.durations leg -
            truncated (legValue plan.matrix.durations leg / 60)).sum

/-- The minutes that are reported. -/
def reportedMinutes (plan : ItineraryPlan) : ℚ :=
  match plan.choice with
  | .timed trip => lastCumul trip
  | .plain trip =>
      plan.overLegs plan.matrix.distances / 1000 / 50 * 60 + (trip.route.length : ℚ) * 60

/-- What a plan of a run is: its route goes through the places from the first on, and a timed
route keeps to the time dimension. -/
structure Valid (plan : ItineraryPlan) : Prop where
  isOver : plan.matrix.IsOver plan.pois.length
  starts : plan.route.head? = some 0
  lt_pois : ∀ i ∈ plan.route, i < plan.pois.length
  timed : ∀ trip, plan.choice = .timed trip → ∃ ranges,
    (timeDimension (timeMatrixMinutes plan.matrix.durations) plan.pois ranges).Admits trip

variable {plan : ItineraryPlan}

theorem route_eq {choice : RouteChoice} (hchoice : plan.choice = choice) :
    plan.route = choice.trip.route := by
  rw [← hchoice]
  rfl

theorem kmError_eq (plan : ItineraryPlan) :
    plan.overLegs plan.matrix.distances / 1000 - plan.routeKm = plan.kmError := by
  unfold routeKm kmError
  cases plan.source <;> simp only [MatrixOrigin.kmPerUnit] <;> ring

/-- What a plain route reports. -/
theorem minutesError_eq_of_plain {trip : Assignment} (hchoice : plan.choice = .plain trip) :
    plan.reportedMinutes - plan.elapsedMinutes = plan.minutesError := by
  have hroute : plan.route = trip.route := route_eq hchoice
  unfold reportedMinutes elapsedMinutes waits minutesError overLegs
  rw [hchoice, hroute]
  dsimp only
  rw [sum_map_sub, sum_map_sub, List.map_const', List.sum_replicate, List.sum_map_mul_left,
    List.sum_map_mul_left, nsmul_eq_mul]
  ring

/-- The clock between two stops of a timed route: the whole minutes of the leg, the visit and
the wait. -/
theorem clock_leg (hvalid : plan.Valid) {trip : Assignment} (hchoice : plan.choice = .timed trip)
    {leg : RouteStop × RouteStop} (hleg : leg ∈ legs trip.stops) :
    (leg.2.cumul : ℚ) - leg.1.cumul =
      truncated (legValue plan.matrix.durations (leg.1.node, leg.2.node) / 60) +
        plan.visitMinutes leg.1.node + leg.1.slack := by
  obtain ⟨ranges, hadmits⟩ := hvalid.timed trip hchoice
  have hroute : plan.route = trip.route := route_eq hchoice
  have hnode : leg.1.node < plan.pois.length := by
    apply hvalid.lt_pois
    rw [hroute]
    exact List.mem_map_of_mem (mem_of_mem_legs hleg).1
  obtain ⟨travel, htravel, duration, hduration, -, hcumul⟩ :=
    exists_of_arrives hnode (forall_legs_of_isChain hadmits.follows leg hleg)
  have hvisit : plan.visitMinutes leg.1.node = duration := by
    unfold visitMinutes
    rw [List.getElem?_eq_getElem hnode, Option.bind_some, number?_of_whole? hduration,
      Option.getD_some]
  have hlegMinutes : legValue plan.matrix.durations (leg.1.node, leg.2.node) / 60 = travel := by
    have hentry : matrixAt (timeMatrixMinutes plan.matrix.durations) leg.1.node leg.2.node =
        some travel := htravel
    rw [matrixAt_timeMatrixMinutes] at hentry
    obtain ⟨seconds, hseconds, hminutes⟩ := Option.map_eq_some_iff.mp hentry
    unfold legValue
    rw [hseconds, Option.getD_some, hminutes]
  rw [hvisit, hlegMinutes, hcumul]
  push_cast
  ring

/-- What a timed route reports. -/
theorem minutesError_eq_of_timed (hvalid : plan.Valid) {trip : Assignment}
    (hchoice : plan.choice = .timed trip) :
    plan.reportedMinutes - plan.elapsedMinutes = plan.minutesError := by
  have hroute : plan.route = trip.route := route_eq hchoice
  have hstops : trip.stops ≠ [] := by
    intro hnil
    have hstarts := hvalid.starts
    rw [hroute, Assignment.route, hnil] at hstarts
    cases hstarts
  obtain ⟨first, hfirst⟩ : ∃ first, trip.stops.head? = some first :=
    ⟨_, List.head?_eq_some_head hstops⟩
  obtain ⟨last, hlast⟩ : ∃ last, trip.stops.getLast? = some last :=
    ⟨_, List.getLast?_eq_some_getLast hstops⟩
  have hclock := sum_legs_sub (fun stop : RouteStop => (stop.cumul : ℚ)) hfirst hlast
  rw [List.map_congr_left fun leg hleg => clock_leg hvalid hchoice hleg, List.sum_map_add,
    List.sum_map_add] at hclock
  have hvisits := sum_map_eq_sum_legs (fun stop : RouteStop => plan.visitMinutes stop.node) hlast
  have hlastNode : trip.route.getLast? = some last.node := by
    unfold Assignment.route
    rw [List.getLast?_map, hlast, Option.map_some]
  unfold reportedMinutes elapsedMinutes waits minutesError overLegs startClock lastCumul
  rw [hchoice, hroute]
  dsimp only
  rw [sum_map_sub, List.sum_map_mul_left, hlastNode, hfirst, hlast]
  unfold Assignment.route
  rw [legs_map, List.map_map, List.map_map, List.map_map]
  simp only [Function.comp_def, Prod.map, Option.map_some, Option.getD_some]
  rw [hvisits]
  linarith

/-- The reported minutes are off by the error of the choice. -/
theorem minutesError_eq (hvalid : plan.Valid) :
    plan.reportedMinutes - plan.elapsedMinutes = plan.minutesError := by
  cases hchoice : plan.choice with
  | timed trip => exact minutesError_eq_of_timed hvalid hchoice
  | plain trip => exact minutesError_eq_of_plain hchoice

end ItineraryPlan

/-! ## Runs of the optimizer -/

section Runs

variable {library : SolverLibrary} {env : MatrixEnv} {pois : List PyDict} {useTimeWindows : Bool}
  {startTime : String} {plan : ItineraryPlan}

/-- What a choice is: a solution of the timed model, or one of the plain model when there is
no solution of a timed one. -/
theorem choose_cases {matrix : OsrmMatrix} {structured : List Poi} {start : Option ℤ}
    {choice : RouteChoice} (hchoice : library.choose matrix structured start = some choice) :
    (∃ trip, choice = .timed trip ∧ (start.bind fun start => library.timedSolution
        matrix.distances (timeMatrixMinutes matrix.durations) structured start) = some trip) ∨
      ∃ trip, choice = .plain trip ∧
        (start.bind fun start => library.timedSolution matrix.distances
          (timeMatrixMinutes matrix.durations) structured start) = none ∧
        library.solver.solve (tspProblem matrix.distances) = .solution trip := by
  unfold SolverLibrary.choose at hchoice
  dsimp only at hchoice
  split at hchoice
  · rename_i trip htimed
    exact .inl ⟨trip, (Option.some.inj hchoice).symm, htimed⟩
  · rename_i hnone
    split at hchoice
    · rename_i trip hsolve
      exact .inr ⟨trip, (Option.some.inj hchoice).symm, hnone, hsolve⟩
    · cases hchoice
    · cases hchoice

/-- The parts of a plan. -/
theorem exists_of_itineraryPlan
    (hplan : itineraryPlan library env pois useTimeWindows startTime = .ok (some plan)) :
    ∃ start, env.getDistanceMatrix pois = .ok (plan.source, plan.matrix) ∧
      structurePois pois = .ok plan.pois ∧
      timedStart plan.pois useTimeWindows startTime = .ok start ∧
      library.choose plan.matrix plan.pois start = some plan.choice := by
  obtain ⟨⟨source, matrix⟩, hmatrix, hplan⟩ := exists_of_bind_eq_ok hplan
  obtain ⟨structured, hstructured, hplan⟩ := exists_of_bind_eq_ok hplan
  obtain ⟨start, hstart, hplan⟩ := exists_of_bind_eq_ok hplan
  obtain ⟨choice, hchoice, rfl⟩ := Option.map_eq_some_iff.mp (Except.ok.inj hplan)
  exact ⟨start, hmatrix, hstructured, hstart, hchoice⟩

theorem length_structurePois {structured : List Poi}
    (hstructured : structurePois pois = .ok structured) : structured.length = pois.length := by
  simpa using length_of_mapM_ok hstructured

/-- The plan of a run is valid. -/
theorem valid_of_itineraryPlan
    (hplan : itineraryPlan library env pois useTimeWindows startTime = .ok (some plan)) :
    plan.Valid := by
  obtain ⟨start, hmatrix, hstructured, -, hchoice⟩ := exists_of_itineraryPlan hplan
  have hover := isOver_getDistanceMatrix hmatrix
  rw [← length_structurePois hstructured] at hover
  rcases choose_cases hchoice with ⟨trip, htrip, htimed⟩ | ⟨trip, htrip, -, hsolve⟩
  · obtain ⟨minute, -, hsolution⟩ := Option.bind_eq_some_iff.mp htimed
    obtain ⟨problem, hproblem, hallows⟩ := SolverLibrary.timedSolution_eq_some hsolution
    have hnodes := SolverLibrary.nodes_vrptwProblem hproblem
    have hroute : plan.route = trip.route := ItineraryPlan.route_eq htrip
    refine ⟨hover, hroute ▸ hallows.starts, ?_, ?_⟩
    · rw [hroute]
      exact fun i hi => hnodes ▸ hallows.lt_nodes i hi
    · intro other hother
      rw [htrip] at hother
      cases hother
      obtain ⟨ranges, -, rfl⟩ := Option.map_eq_some_iff.mp hproblem
      exact ⟨ranges, hallows.admits _ rfl⟩
  · have hallows := library.solver.allowed _ _ hsolve
    have hroute : plan.route = trip.route := ItineraryPlan.route_eq htrip
    refine ⟨hover, hroute ▸ hallows.starts, ?_, ?_⟩
    · rw [hroute, ← hover.distances.rows]
      exact hallows.lt_nodes
    · intro other hother
      rw [htrip] at hother
      cases hother

/-- The result of the solver, with a time to start when time windows are used. -/
def SolverLibrary.solveFrom (library : SolverLibrary) (matrix : OsrmMatrix)
    (structured : List Poi) : Option ℤ → OptimizationResult
  | some start =>
      library.solveVrptw matrix.distances (timeMatrixMinutes matrix.durations) structured start
  | none => library.solveTspBasic matrix.distances

theorem solveItinerary_toTspSolver {structured : List Poi} {start : Option ℤ}
    (hstructured : structurePois pois = .ok structured)
    (hstart : timedStart structured useTimeWindows startTime = .ok start) (matrix : OsrmMatrix) :
    solveItinerary library.toTspSolver pois matrix useTimeWindows startTime =
      .ok (library.solveFrom matrix structured start) := by
  unfold timedStart at hstart
  unfold solveItinerary
  simp only [hstructured, bind, Except.bind]
  split at hstart
  · rename_i hwindows
    obtain ⟨minute, hminute, rfl⟩ := exists_of_map_eq_ok hstart
    rw [if_pos hwindows, hminute]
    rfl
  · rename_i hwindows
    cases hstart
    rw [if_neg hwindows]
    rfl

/-- The result of a choice whose legs are all in the matrix. -/
theorem solveFrom_of_choose {matrix : OsrmMatrix} {structured : List Poi} {start : Option ℤ}
    {choice : RouteChoice} (hchoice : library.choose matrix structured start = some choice)
    {total : ℚ} (htotal : sumLegs matrix.distances choice.trip.route = some total) :
    ∃ seconds, library.solveFrom matrix structured start =
      match choice with
      | .timed trip => timedResult library.listSet trip structured.length total seconds
      | .plain trip => plainResult trip total seconds := by
  rcases choose_cases hchoice with ⟨trip, rfl, htimed⟩ | ⟨trip, rfl, hnone, hsolve⟩
  · obtain ⟨minute, rfl, hsolution⟩ := Option.bind_eq_some_iff.mp htimed
    exact ⟨_, SolverLibrary.solveVrptw_eq hsolution htotal⟩
  · cases start with
    | none => exact ⟨_, SolverLibrary.solveTspBasic_eq hsolve htotal⟩
    | some minute =>
        refine ⟨library.seconds (tspProblem matrix.distances), ?_⟩
        exact (SolverLibrary.solveVrptw_of_none hnone).trans
          (SolverLibrary.solveTspBasic_eq hsolve htotal)

/-- Without a choice there is no route. -/
theorem success_solveFrom_of_choose_eq_none {matrix : OsrmMatrix} {structured : List Poi}
    {start : Option ℤ} (hchoice : library.choose matrix structured start = none) :
    (library.solveFrom matrix structured start).success = false := by
  unfold SolverLibrary.choose at hchoice
  dsimp only at hchoice
  split at hchoice
  · cases hchoice
  · rename_i hnone
    have hplain : (library.solveTspBasic matrix.distances).success = false := by
      rcases SolverLibrary.solveTspBasic_cases library matrix.distances with
        ⟨algorithm, seconds, hfailed⟩ | ⟨trip, -, hsolve, -⟩
      · rw [hfailed]
        rfl
      · rw [hsolve] at hchoice
        cases hchoice
    cases start with
    | none => exact hplain
    | some minute =>
        show (library.solveVrptw _ _ _ _).success = false
        rw [SolverLibrary.solveVrptw_of_none hnone]
        exact hplain

/-- The solver returns the route of the plan with its totals. -/
theorem solveItinerary_of_plan
    (hplan : itineraryPlan library env pois useTimeWindows startTime = .ok (some plan)) :
    ∃ solution, solveItinerary library.toTspSolver pois plan.matrix useTimeWindows startTime =
        .ok solution ∧ solution.success = true ∧ solution.route = plan.route ∧
      solution.totalDistanceM = plan.overLegs plan.matrix.distances ∧
      solution.totalTimeMinutes = plan.reportedMinutes := by
  obtain ⟨start, hmatrix, hstructured, hstart, hchoice⟩ := exists_of_itineraryPlan hplan
  have hvalid := valid_of_itineraryPlan hplan
  have htotal : sumLegs plan.matrix.distances plan.choice.trip.route =
      some (plan.overLegs plan.matrix.distances) :=
    hvalid.isOver.distances.sumLegs_eq hvalid.lt_pois
  obtain ⟨seconds, hresult⟩ := solveFrom_of_choose hchoice htotal
  refine ⟨_, solveItinerary_toTspSolver hstructured hstart plan.matrix, ?_⟩
  rw [hresult]
  unfold ItineraryPlan.route ItineraryPlan.reportedMinutes
  cases plan.choice <;> exact ⟨rfl, rfl, rfl, rfl⟩

/-- A successful result comes from a plan. -/
theorem exists_plan_of_success {source : MatrixOrigin} {matrix : OsrmMatrix}
    {solution : OptimizationResult} (hmatrix : env.getDistanceMatrix pois = .ok (source, matrix))
    (hsolution : solveItinerary library.toTspSolver pois matrix useTimeWindows startTime =
      .ok solution) (hsuccess : solution.success = true) :
    ∃ plan, itineraryPlan library env pois useTimeWindows startTime = .ok (some plan) ∧
      plan.matrix = matrix := by
  have hsplit := hsolution
  obtain ⟨structured, hstructured, -⟩ := exists_of_bind_eq_ok hsplit
  obtain ⟨start, hstart⟩ : ∃ start, timedStart structured useTimeWindows startTime = .ok start := by
    unfold timedStart
    split
    · rename_i hwindows
      unfold solveItinerary at hsolution
      simp only [hstructured, bind, Except.bind] at hsolution
      rw [if_pos hwindows] at hsolution
      obtain ⟨minute, hminute, -⟩ := exists_of_bind_eq_ok hsolution
      rw [hminute]
      exact ⟨_, rfl⟩
    · exact ⟨_, rfl⟩
  rw [solveItinerary_toTspSolver hstructured hstart matrix] at hsolution
  obtain rfl := Except.ok.inj hsolution
  cases hchoice : library.choose matrix structured start with
  | some choice =>
      refine ⟨⟨source, matrix, structured, choice⟩, ?_, rfl⟩
      unfold itineraryPlan
      simp only [hmatrix, hstructured, hstart, hchoice, bind, Except.bind, Option.map_some]
  | none =>
      rw [success_solveFrom_of_choose_eq_none hchoice] at hsuccess
      cases hsuccess

end Runs

/-- The totals of a plan are reported. -/
def ReportsPlan (library : SolverLibrary) (pois : List PyDict) (useTimeWindows : Bool)
    (startTime : String) (plan : ItineraryPlan) : Prop :=
  ∃ result km minutes,
    optimizeItineraryAdvanced library.toTspSolver pois plan.matrix useTimeWindows startTime =
      .ok result ∧
    result.item "total_distance_km" = .ok (.float km) ∧
    result.item "total_time_minutes" = .ok (.float minutes) ∧ plan.Accurate km minutes

/-- What is promised of a run: it reports the totals of the route it has chosen. -/
def ReportsTotals (library : SolverLibrary) (env : MatrixEnv) (pois : List PyDict)
    (useTimeWindows : Bool) (startTime : String) : Prop :=
  ∀ plan, itineraryPlan library env pois useTimeWindows startTime = .ok (some plan) →
    ReportsPlan library pois useTimeWindows startTime plan

open ItineraryPlan in
/-- The totals of a plan are reported exactly when its errors are small enough. -/
theorem reportsPlan_iff {library : SolverLibrary} {env : MatrixEnv} {pois : List PyDict}
    {useTimeWindows : Bool} {startTime : String} {plan : ItineraryPlan}
    (hplan : itineraryPlan library env pois useTimeWindows startTime = .ok (some plan)) :
    ReportsPlan library pois useTimeWindows startTime plan ↔
      plan.WithinLegs plan.source.kmPerUnit plan.kmError ∧ plan.WithinLegs 1 plan.minutesError := by
  have hvalid := valid_of_itineraryPlan hplan
  obtain ⟨start, -, hstructured, -, -⟩ := exists_of_itineraryPlan hplan
  obtain ⟨solution, hsolution, hsuccess, hroute, hdistance, htime⟩ := solveItinerary_of_plan hplan
  have hlt : ∀ i ∈ solution.route, i < pois.length := by
    rw [hroute, ← length_structurePois hstructured]
    exact hvalid.lt_pois
  have hresult := optimizeItineraryAdvanced_eq hsolution hsuccess hlt
  have hkm : (optimizedResult pois.length solution (visitedPois pois solution.route)).item
      "total_distance_km" = .ok (.float (plan.overLegs plan.matrix.distances / 1000)) := by
    rw [← hdistance]
    simp [optimizedResult, PyDict.item, List.lookup_cons]
  have hminutes : (optimizedResult pois.length solution (visitedPois pois solution.route)).item
      "total_time_minutes" = .ok (.float plan.reportedMinutes) := by
    rw [← htime]
    simp [optimizedResult, PyDict.item, List.lookup_cons]
  rw [← kmError_eq plan, ← minutesError_eq hvalid]
  constructor
  · rintro ⟨result, km, minutes, hrun, hitemKm, hitemMinutes, haccurate⟩
    rw [hresult] at hrun
    cases hrun
    rw [hkm] at hitemKm
    rw [hminutes] at hitemMinutes
    cases hitemKm
    cases hitemMinutes
    exact ⟨haccurate.distance, haccurate.time⟩
  · rintro ⟨hdistanceError, htimeError⟩
    exact ⟨_, _, _, hresult, hkm, hminutes, hdistanceError, htimeError⟩

/-- A run reports the totals of its route exactly when the error of the kilometres is below a unit
of the matrix for every leg, and the error of the minutes below a minute for every leg. -/
theorem optimizeItineraryAdvanced_reportsTotals_iff (library : SolverLibrary) (env : MatrixEnv)
    (pois : List PyDict) (useTimeWindows : Bool) (startTime : String) :
    ReportsTotals library env pois useTimeWindows startTime ↔
      ∀ plan, itineraryPlan library env pois useTimeWindows startTime = .ok (some plan) →
        plan.WithinLegs plan.source.kmPerUnit plan.kmError ∧
          plan.WithinLegs 1 plan.minutesError :=
  forall₂_congr fun _ hplan => reportsPlan_iff hplan

/-- No OSRM, and any two places are 100 km apart. -/
def farApart : MatrixEnv where
  osrm := none
  haversineDistance := fun _ _ => .ok 100
  osrm_square := by
    intro table htable
    cases htable

/-- Two places with coordinates. -/
def twoPlaces : List PyDict :=
  [[("lat", .float (-33)), ("lon", .float (-70))], [("lat", .float (-34)), ("lon", .float (-70))]]

/-- The library that visits two places one after the other, at nine o'clock and 62 minutes
later. -/
def twoStops : SolverLibrary :=
  .answering fun _ => some ⟨[⟨0, 540, 0⟩, ⟨1, 602, 0⟩], 664⟩

/-- A leg of 100 km and two hours is reported as 100 metres, and the trip as ten hours. -/
theorem optimizeItineraryAdvanced_misreports :
    ¬ ReportsTotals twoStops farApart twoPlaces true "09:00" := by
  intro hreports
  have hparts : ((itineraryPlan twoStops farApart twoPlaces true "09:00").toOption.join.map
      fun plan => (plan.source, plan.kmError, (legs plan.route).length)) =
        some (.haversine, -(999 / 10), 1) := by
    decide +kernel
  obtain ⟨plan, hsome, hplan⟩ := Option.map_eq_some_iff.mp hparts
  have hok : itineraryPlan twoStops farApart twoPlaces true "09:00" = .ok (some plan) :=
    eq_ok_of_toOption (Option.join_eq_some_iff.mp hsome)
  obtain ⟨hsource, herror, hlegs⟩ : plan.source = .haversine ∧ plan.kmError = -(999 / 10) ∧
      (legs plan.route).length = 1 := by
    simpa using hplan
  have hdistance := ((reportsPlan_iff hok).mp (hreports plan hok)).1
  unfold ItineraryPlan.WithinLegs at hdistance
  rw [hsource, herror, hlegs] at hdistance
  norm_num [MatrixOrigin.kmPerUnit, abs_of_pos] at hdistance

end Goveling.Ortools
