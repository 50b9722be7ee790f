/-
# Mandatory places and schedules

A tour is a list of places with matrices over them and a time to start. The library may give
any answer that the model allows, so a promise about the result of `solve_vrptw` is kept
when every answer keeps it. Mandatory places are the ones that may be dropped, and they
are all visited exactly when no timed trip through the optional places leaves one out. The
flag for satisfied constraints may come from the plain model: a result with the flag has
a schedule exactly when every order of the places has one.
-/

import Goveling.Ortools.TourSolver

namespace Goveling.Ortools

open Goveling.Math Goveling.Python

/-- The arguments of `solve_vrptw`: places, matrices over them in metres and minutes, and the
minute to start. -/
structure Tour where
  pois : List Poi
  distances : List (List ℚ)
  times : List (List ℚ)
  startTimeMinutes : ℤ
  distances_square : IsSquare pois.length distances
  times_square : IsSquare pois.length times

/-- `solve_vrptw` on a tour. -/
def SolverLibrary.solveTour (library : SolverLibrary) (tour : Tour) : OptimizationResult :=
  library.solveVrptw tour.distances tour.times tour.pois tour.startTimeMinutes

/-- The library that answers with the assignments of a plan, and lists a set in order. -/
def SolverLibrary.answering (plan : RoutingProblem → Option Assignment) : SolverLibrary where
  solver := .answering plan
  seconds := fun _ => 2
  listSet := id
  listSet_perm := List.Perm.refl

/-! ## Mandatory places -/

/-- A successful result visits every mandatory place. -/
def VisitsMandatory (pois : List Poi) (result : OptimizationResult) : Prop :=
  result.success = true →
    ∀ i, ∀ poi ∈ pois[i]?, poi.isMandatory.truthy = true → i ∈ result.route

/-- A timed trip: it starts at the first place, repeats nothing and visits all optional places,
and the clock keeps to the time dimension. -/
structure Tour.IsTrip (tour : Tour) (trip : Assignment) : Prop where
  starts : trip.route.head? = some 0
  nodup : trip.route.Nodup
  places : ∀ i ∈ trip.route, i < tour.pois.length
  optional : ∀ i, ∀ poi ∈ tour.pois[i]?, poi.isMandatory.truthy = false → i ∈ trip.route
  timed : ∃ ranges ∈ timeRanges tour.pois tour.startTimeMinutes,
    (timeDimension tour.times tour.pois ranges).Admits trip

section Tours

variable {tour : Tour} {trip : Assignment}

/-- The trips are what the timed model allows. -/
theorem isTrip_iff (tour : Tour) (trip : Assignment) :
    tour.IsTrip trip ↔
      ∃ problem ∈ vrptwProblem tour.distances tour.times tour.pois tour.startTimeMinutes,
        problem.Allows trip := by
  constructor
  · rintro ⟨hstarts, hnodup, hplaces, hoptional, ranges, hranges, hadmits⟩
    have hproblem := congrArg (Option.map fun ranges => ({
      nodes := tour.pois.length
      cost := fun i j => (matrixAt tour.distances i j).map truncated
      dimension := some (timeDimension tour.times tour.pois ranges)
      disjunctions := (disjunctionNodes tour.pois).map fun node => (node, 10000) } :
        RoutingProblem)) hranges
    refine ⟨_, hproblem, hstarts, hnodup, hplaces, ?_, ?_⟩
    · intro i hi hmissing
      apply (SolverLibrary.droppable_vrptwProblem_iff hproblem i).mpr
      refine ⟨Nat.pos_of_ne_zero ?_, tour.pois[i], List.getElem?_eq_getElem hi, ?_⟩
      · rintro rfl
        exact hmissing (List.mem_of_head? hstarts)
      · by_contra hoptionalPlace
        rw [Bool.not_eq_true] at hoptionalPlace
        exact hmissing (hoptional i _ (List.getElem?_eq_getElem hi) hoptionalPlace)
    · rintro dimension ⟨⟩
      exact hadmits
  · rintro ⟨problem, hproblem, hallows⟩
    have hnodes := SolverLibrary.nodes_vrptwProblem hproblem
    refine ⟨hallows.starts, hallows.nodup, fun i hi => hnodes ▸ hallows.lt_nodes i hi, ?_, ?_⟩
    · intro i poi hpoi hoptional
      by_contra hmissing
      have hi : i < problem.nodes := by
        rw [hnodes]
        exact (List.getElem?_eq_some_iff.mp hpoi).1
      obtain ⟨-, other, hother, hmandatory⟩ :=
        (SolverLibrary.droppable_vrptwProblem_iff hproblem i).mp (hallows.visits i hi hmissing)
      rw [Option.mem_def, hpoi] at hother
      cases hother
      rw [hoptional] at hmandatory
      cases hmandatory
    · obtain ⟨ranges, hranges, rfl⟩ := Option.map_eq_some_iff.mp hproblem
      exact ⟨ranges, hranges, hallows.admits _ rfl⟩

/-- A result of the plain model visits every place. -/
theorem mem_route_solveTspBasic {library : SolverLibrary}
    (hsuccess : (library.solveTspBasic tour.distances).success = true) {i : ℕ}
    (hi : i < tour.pois.length) : i ∈ (library.solveTspBasic tour.distances).route := by
  apply (SolverLibrary.solveTspBasic_perm hsuccess).2.mem_iff.mpr
  rw [tour.distances_square.rows]
  exact List.mem_range.mpr hi

/-- A library that answers a trip of the tour returns its route. -/
theorem route_solveTour_answering (htrip : tour.IsTrip trip) :
    ((SolverLibrary.answering fun _ => some trip).solveTour tour).success = true ∧
      ((SolverLibrary.answering fun _ => some trip).solveTour tour).route = trip.route := by
  obtain ⟨problem, hproblem, hallows⟩ := (isTrip_iff tour trip).mp htrip
  have hsolution : (SolverLibrary.answering fun _ => some trip).timedSolution tour.distances
      tour.times tour.pois tour.startTimeMinutes = some trip := by
    have hsolve : (RoutingSolver.answering fun _ => some trip).solve problem = .solution trip :=
      RoutingSolver.solve_answering rfl hallows
    unfold SolverLibrary.timedSolution SolverLibrary.answering
    simp only [Option.mem_def.mp hproblem, hsolve, Option.bind_eq_bind, Option.bind_some]
  unfold SolverLibrary.solveTour
  rw [SolverLibrary.solveVrptw_eq hsolution (tour.distances_square.sumLegs_eq htrip.places)]
  exact ⟨rfl, rfl⟩

end Tours

/-- A successful result visits every place, or it has the route of a timed trip. -/
theorem route_solveTour_cases (library : SolverLibrary) (tour : Tour)
    (hsuccess : (library.solveTour tour).success = true) :
    (∀ i < tour.pois.length, i ∈ (library.solveTour tour).route) ∨
      ∃ trip, tour.IsTrip trip ∧ (library.solveTour tour).route = trip.route := by
  unfold SolverLibrary.solveTour at hsuccess ⊢
  rcases library.solveVrptw_cases tour.distances tour.times tour.pois tour.startTimeMinutes with
    hplain | ⟨problem, trip, hproblem, hallows, -, hextract⟩
  · rw [hplain] at hsuccess ⊢
    exact .inl fun i hi => mem_route_solveTspBasic hsuccess hi
  · exact .inr ⟨trip, (isTrip_iff tour trip).mpr ⟨problem, hproblem, hallows⟩,
      SolverLibrary.route_extractSolutionVrptw hextract⟩

/-- Whatever the library answers, a successful result visits the optional places. -/
theorem solveTour_visits_optional (library : SolverLibrary) (tour : Tour)
    (hsuccess : (library.solveTour tour).success = true) :
    ∀ i, ∀ poi ∈ tour.pois[i]?, poi.isMandatory.truthy = false →
      i ∈ (library.solveTour tour).route := by
  intro i poi hpoi hoptional
  rcases route_solveTour_cases library tour hsuccess with hall | ⟨trip, htrip, hroute⟩
  · exact hall i (List.getElem?_eq_some_iff.mp hpoi).1
  · rw [hroute]
    exact htrip.optional i poi hpoi hoptional

/-- Every successful answer of `solve_vrptw` visits every mandatory place exactly when no timed
trip through the optional places leaves one out. -/
theorem solveTour_visitsMandatory_iff (tour : Tour) :
    (∀ library : SolverLibrary, VisitsMandatory tour.pois (library.solveTour tour)) ↔
      ∀ trip, tour.IsTrip trip →
        ∀ i, ∀ poi ∈ tour.pois[i]?, poi.isMandatory.truthy = true → i ∈ trip.route := by
  constructor
  · intro hvisits trip htrip
    obtain ⟨hsuccess, hroute⟩ := route_solveTour_answering htrip
    rw [← hroute]
    exact hvisits _ hsuccess
  · intro htrips library hsuccess i poi hpoi hmandatory
    rcases route_solveTour_cases library tour hsuccess with hall | ⟨trip, htrip, hroute⟩
    · exact hall i (List.getElem?_eq_some_iff.mp hpoi).1
    · rw [hroute]
      exact htrips trip htrip i poi hpoi hmandatory

/-- A place with the defaults of `POI`. -/
def plainPoi (id : ℕ) : Poi where
  id := id
  name := .str "Lugar"
  lat := .float 0
  lon := .float 0
  rating := .none
  category := .none
  durationMinutes := .int 60
  openingHour := .int 9
  closingHour := .int 18
  isMandatory := .bool true
  priority := .int 1

/-- Two mandatory places that are 20 km and half an hour apart, from nine o'clock on. -/
def twoMandatory : Tour where
  pois := [plainPoi 0, plainPoi 1]
  distances := [[0, 20000], [20000, 0]]
  times := [[0, 30], [30, 0]]
  startTimeMinutes := 540
  distances_square := by decide
  times_square := by decide

/-- The library drops the second place: its penalty is lower than the way there and back. -/
theorem solveTour_drops_mandatory :
    ¬ VisitsMandatory twoMandatory.pois
      ((SolverLibrary.answering fun _ => some ⟨[⟨0, 540, 0⟩], 600⟩).solveTour twoMandatory) := by
  intro hvisits
  have hsecond := hvisits (by decide +kernel) 1 (plainPoi 1) rfl rfl
  exact absurd hsecond (by decide +kernel)

/-! ## Schedules -/

/-- A schedule of a route: it starts at the start time, spends the duration of every visit and
the travel time of every leg, waits at most an hour before a visit, and starts every visit
while the place is open. -/
structure Tour.Schedule (tour : Tour) (route : List ℕ) (starts : List ℚ) : Prop where
  length : starts.length = route.length
  departs : starts.head? = some (tour.startTimeMinutes : ℚ)
  moves : ∀ leg ∈ legs (route.zip starts), ∃ poi ∈ tour.pois[leg.1.1]?,
    ∃ duration ∈ poi.durationMinutes.number?, ∃ travel ∈ matrixAt tour.times leg.1.1 leg.2.1,
      leg.1.2 + duration + travel ≤ leg.2.2 ∧ leg.2.2 ≤ leg.1.2 + duration + travel + 60
  opens : ∀ visit ∈ route.zip starts, ∃ poi ∈ tour.pois[visit.1]?,
    ∃ openingHour ∈ poi.openingHour.number?, ∃ closingHour ∈ poi.closingHour.number?,
      openingHour * 60 ≤ visit.2 ∧ visit.2 ≤ closingHour * 60

section Schedules

variable {tour : Tour}

end Schedules

/-- A whole number is a number. -/
theorem number?_of_whole? {value : PyVal} {n : ℤ} (hwhole : value.whole? = some n) :
    value.number? = some (n : ℚ) := by
  cases value <;> cases hwhole
  · simp only [PyVal.number?]
    split <;> simp
  · rfl

/-- The stop at the depot is the first one. -/
theorem Tour.IsTrip.head?_stops {tour : Tour} {trip : Assignment} (htrip : tour.IsTrip trip)
    {stop : RouteStop} (hstop : stop ∈ trip.stops) (hdepot : stop.node = 0) :
    trip.stops.head? = some stop := by
  have hstarts := htrip.starts
  have hnodup := htrip.nodup
  unfold Assignment.route at hstarts hnodup
  cases hstops : trip.stops with
  | nil =>
      rw [hstops] at hstop
      cases hstop
  | cons first rest =>
      rw [hstops] at hstop hstarts hnodup
      rcases List.mem_cons.mp hstop with rfl | hrest
      · rfl
      · obtain ⟨hfresh, -⟩ := List.nodup_cons.mp hnodup
        have hfirst : first.node = 0 := Option.some.inj hstarts
        rw [hfirst, ← hdepot] at hfresh
        exact absurd (List.mem_map_of_mem hrest) hfresh

/-- The clock between two stops of a trip, along a leg of whole minutes. -/
theorem Tour.IsTrip.exists_move {tour : Tour} {trip : Assignment} (htrip : tour.IsTrip trip)
    {leg : RouteStop × RouteStop} (hleg : leg ∈ legs trip.stops)
    (hwhole : ∀ travel ∈ matrixAt tour.times leg.1.node leg.2.node,
      (truncated travel : ℚ) = travel) :
    ∃ poi ∈ tour.pois[leg.1.node]?, ∃ duration ∈ poi.durationMinutes.number?,
      ∃ travel ∈ matrixAt tour.times leg.1.node leg.2.node,
        (leg.1.cumul : ℚ) + duration + travel ≤ leg.2.cumul ∧
          (leg.2.cumul : ℚ) ≤ leg.1.cumul + duration + travel + 60 := by
  obtain ⟨ranges, -, hadmits⟩ := htrip.timed
  have hstart : leg.1.node < tour.pois.length :=
    htrip.places _ (List.mem_map_of_mem (mem_of_mem_legs hleg).1)
  obtain ⟨travel, htravel, duration, hduration, ⟨hslack, hmost⟩, hcumul⟩ :=
    exists_of_arrives hstart (forall_legs_of_isChain hadmits.follows leg hleg)
  refine ⟨_, List.getElem?_eq_getElem hstart, _, number?_of_whole? hduration, travel, htravel, ?_⟩
  have hclock : (leg.2.cumul : ℚ) = leg.1.cumul + (travel + duration) + leg.1.slack := by
    rw [hcumul]
    push_cast
    rw [hwhole travel htravel]
  have hlow : (0 : ℚ) ≤ leg.1.slack := by exact_mod_cast hslack
  have hhigh : (leg.1.slack : ℚ) ≤ 60 := by exact_mod_cast hmost
  constructor <;> linarith

/-- A minute lies within the opening hours of a place, which are whole numbers. -/
def OpenAt (poi : Poi) (minute : ℤ) : Prop :=
  ∃ openingHour ∈ poi.openingHour.whole?, ∃ closingHour ∈ poi.closingHour.whole?,
    openingHour * 60 ≤ minute ∧ minute ≤ closingHour * 60

theorem OpenAt.exists_number? {poi : Poi} {minute : ℤ} (hopen : OpenAt poi minute) :
    ∃ openingHour ∈ poi.openingHour.number?, ∃ closingHour ∈ poi.closingHour.number?,
      openingHour * 60 ≤ (minute : ℚ) ∧ (minute : ℚ) ≤ closingHour * 60 := by
  obtain ⟨openingHour, hopening, closingHour, hclosing, hlow, hhigh⟩ := hopen
  refine ⟨_, number?_of_whole? hopening, _, number?_of_whole? hclosing, ?_, ?_⟩
  · exact_mod_cast hlow
  · exact_mod_cast hhigh

/-- Every place of a trip but the depot is open when it is visited. -/
theorem Tour.IsTrip.openAt {tour : Tour} {trip : Assignment} (htrip : tour.IsTrip trip)
    {stop : RouteStop} (hstop : stop ∈ trip.stops) (hnode : stop.node ≠ 0) :
    ∃ poi ∈ tour.pois[stop.node]?, OpenAt poi stop.cumul := by
  obtain ⟨ranges, hranges, hadmits⟩ := htrip.timed
  obtain ⟨-, -, range, hrange, hlow, hhigh⟩ := hadmits.inRange stop hstop
  have hrange : (tour.pois[stop.node]?).bind (timeRange tour.startTimeMinutes stop.node) =
      some range := (getElem?_timeRanges hranges stop.node).symm.trans hrange
  obtain ⟨poi, hpoi, htimeRange⟩ := Option.bind_eq_some_iff.mp hrange
  refine ⟨poi, hpoi, ?_⟩
  unfold timeRange at htimeRange
  rw [if_neg hnode] at htimeRange
  obtain ⟨openingHour, hopening, hrest⟩ := Option.bind_eq_some_iff.mp htimeRange
  obtain ⟨closingHour, hclosing, hboth⟩ := Option.bind_eq_some_iff.mp hrest
  cases hboth
  exact ⟨openingHour, hopening, closingHour, hclosing, hlow, hhigh⟩

/-- What the timed model does promise: a trip that leaves at the start time, from a place that is
open, along legs of whole minutes, is a schedule. -/
theorem Tour.IsTrip.schedule {tour : Tour} {trip : Assignment} (htrip : tour.IsTrip trip)
    (hdeparts : (trip.stops.head?.map RouteStop.cumul) = some tour.startTimeMinutes)
    (hopen : ∀ poi ∈ tour.pois[0]?, OpenAt poi tour.startTimeMinutes)
    (hwhole : ∀ leg ∈ legs trip.route, ∀ travel ∈ matrixAt tour.times leg.1 leg.2,
      (truncated travel : ℚ) = travel) :
    tour.Schedule trip.route (trip.stops.map fun stop => (stop.cumul : ℚ)) := by
  have hvisits : trip.route.zip (trip.stops.map fun stop => (stop.cumul : ℚ)) =
      trip.stops.map fun stop => (stop.node, (stop.cumul : ℚ)) := List.zip_map'
  refine ⟨?_, ?_, ?_, ?_⟩
  · simp [Assignment.route]
  · obtain ⟨first, hfirst, hcumul⟩ := Option.map_eq_some_iff.mp hdeparts
    rw [List.head?_map, hfirst, Option.map_some, hcumul]
  · rw [hvisits, legs_map]
    intro leg hleg
    obtain ⟨pair, hpair, rfl⟩ := List.mem_map.mp hleg
    have hnodes : (pair.1.node, pair.2.node) ∈ legs trip.route := by
      unfold Assignment.route
      rw [legs_map]
      exact List.mem_map_of_mem hpair
    exact htrip.exists_move hpair (hwhole _ hnodes)
  · rw [hvisits]
    intro visit hvisit
    obtain ⟨stop, hstop, rfl⟩ := List.mem_map.mp hvisit
    have hvisited : ∃ poi ∈ tour.pois[stop.node]?, OpenAt poi stop.cumul := by
      by_cases hdepot : stop.node = 0
      · have hplace : 0 < tour.pois.length :=
          hdepot ▸ htrip.places _ (List.mem_map_of_mem hstop)
        have hstart : stop.cumul = tour.startTimeMinutes := by
          rw [htrip.head?_stops hstop hdepot] at hdeparts
          exact Option.some.inj hdeparts
        rw [hdepot, hstart]
        exact ⟨_, List.getElem?_eq_getElem hplace, hopen _ (List.getElem?_eq_getElem hplace)⟩
      · exact htrip.openAt hstop hdepot
    obtain ⟨poi, hpoi, hopenAt⟩ := hvisited
    exact ⟨poi, hpoi, hopenAt.exists_number?⟩

end Goveling.Ortools
