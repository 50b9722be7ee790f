/-
# The tour without a solver

When the solver fails, the hybrid integrator goes from the first place on to the place that is
nearest by the matrix of distances, among those that are left. Entries may be infinite, and
the tour goes on all the same: it is by the distances that it chooses, and a place without a
finite distance comes last. A total that is no finite number is reported as zero.
-/

import Goveling.Math.NearestFirst
import Goveling.Math.VehicleRoute
import Goveling.Routing.HybridIntegrator
import Mathlib.Algebra.Order.Monoid.WithTop

namespace Goveling.Routing

open Goveling.Math Goveling.Python

/-! ## Entries of matrices -/

namespace Cell

/-- `type(value).__name__`. -/
def typeName : Cell → String
  | .null => "NoneType"
  | _ => "float"

/-- `first < second`. -/
def less : Cell → Cell → Except PyError Bool
  | .number a, .number b => .ok (a < b)
  | .number _, .infinite => .ok true
  | .infinite, .number _ | .infinite, .infinite => .ok false
  | first, second => .error (.typeError
      ("'<' not supported between instances of '" ++ first.typeName ++ "' and '" ++
        second.typeName ++ "'"))

/-- `total += leg`, where a total without legs is no float yet. -/
def plus (totalType : String) : Cell → Cell → Except PyError Cell
  | .number a, .number b => .ok (.number (a + b))
  | .number _, .infinite | .infinite, .number _ | .infinite, .infinite => .ok .infinite
  | _, leg => .error (.typeError
      ("unsupported operand type(s) for +=: '" ++ totalType ++ "' and '" ++ leg.typeName ++ "'"))

/-- `clean_numeric_value`. -/
def cleanNumericValue (value : Cell) (default : ℚ) : ℚ :=
  match value with
  | .number value => value
  | .infinite | .null => default

end Cell

/-- `rows[i][j]`. -/
def cellAt (rows : List (List Cell)) (i j : ℕ) : Except PyError Cell :=
  match rows[i]?.bind fun row => row[j]? with
  | some cell => .ok cell
  | none => .error (.indexError "list index out of range")

/-! ## The tour -/

/-- A turn of `min`: another place replaces the nearest one if it is strictly nearer. -/
def compareNode (distances : List (List Cell)) (current : ℕ) (best : ℕ × Cell) (node : ℕ) :
    Except PyError (ℕ × Cell) := do
  let cell ← cellAt distances current node
  return if ← cell.less best.2 then (node, cell) else best

/-- `min(unvisited, key=lambda x: distances[current][x])`. -/
def nearestOf (distances : List (List Cell)) (current : ℕ) : List ℕ → Except PyError ℕ
  | [] => .error (.valueError "min() iterable argument is empty")
  | first :: others => do
      let cell ← cellAt distances current first
      let best ← others.foldlM (compareNode distances current) (first, cell)
      return best.1

/-- The variables of the loop of `_optimize_tsp_basic`. -/
structure TourState where
  unvisited : List ℕ
  route : List ℕ := [0]
  current : ℕ := 0
  totalDistance : Cell := .number 0
  totalTime : Cell := .number 0

/-- The type of a total. -/
def TourState.totalType (state : TourState) : String :=
  if state.route.length = 1 then "int" else "float"

/-- The body of the loop. -/
def visitNearest (matrix : ODMatrix) (state : TourState) : Except PyError TourState := do
  let nearest ← nearestOf matrix.distances state.current state.unvisited
  let distance ← cellAt matrix.distances state.current nearest
  let totalDistance ← state.totalDistance.plus state.totalType distance
  let duration ← cellAt matrix.durations state.current nearest
  let totalTime ← state.totalTime.plus state.totalType duration
  return {
    unvisited := state.unvisited.erase nearest
    route := state.route ++ [nearest]
    current := nearest
    totalDistance := totalDistance
    totalTime := totalTime }

/-- The loop, with as many steps as places are left. -/
def visitAll (matrix : ODMatrix) : ℕ → TourState → Except PyError TourState
  | 0, state => .ok state
  | steps + 1, state => do visitAll matrix steps (← visitNearest matrix state)

/-- The two dictionaries that are returned: `{'route': [0], 'total_distance': 0,
'total_time': 0}`, and one with `total_distance_m`, `total_time_s` and
`'algorithm': 'NEAREST_NEIGHBOR_BASIC'`. -/
inductive BasicRoute
  | single
  | tour (route : List ℕ) (totalDistanceM totalTimeS : ℚ)

namespace BasicRoute

/-- `result['route']`. -/
def route : BasicRoute → List ℕ
  | .single => [0]
  | .tour route _ _ => route

/-- The distance that is reported. -/
def totalDistance : BasicRoute → ℚ
  | .single => 0
  | .tour _ totalDistanceM _ => totalDistanceM

/-- The time that is reported. -/
def totalTime : BasicRoute → ℚ
  | .single => 0
  | .tour _ _ totalTimeS => totalTimeS

end BasicRoute

/-- `_optimize_tsp_basic`. -/
def optimizeTspBasic (matrix : ODMatrix) : Except PyError BasicRoute :=
  let n := matrix.distances.length
  if n ≤ 1 then .ok .single
  else do
    let unvisited := List.range' 1 (n - 1)
    let final ← visitAll matrix unvisited.length { unvisited := unvisited }
    return .tour final.route (final.totalDistance.cleanNumericValue 0)
      (final.totalTime.cleanNumericValue 0)

/-! ## What a tour promises -/

/-- The number in a cell, or infinity. -/
def Cell.value : Cell → WithTop ℚ
  | .number value => value
  | .infinite | .null => ⊤

/-- The distance or the time from a place to another one. -/
def travel (rows : List (List Cell)) (i j : ℕ) : WithTop ℚ :=
  ((rows[i]?.bind fun row => row[j]?).getD .null).value

/-- A square matrix of numbers and infinities. -/
structure TravelMatrix (n : ℕ) (rows : List (List Cell)) : Prop where
  height : rows.length = n
  width : ∀ row ∈ rows, row.length = n
  readable : ∀ row ∈ rows, Cell.null ∉ row

/-- What a tour takes for its legs. -/
def legValues (rows : List (List Cell)) (route : List ℕ) : List (WithTop ℚ) :=
  (legs route).map fun leg => travel rows leg.1 leg.2

/-- A total is the sum of the legs, and zero as soon as one of them is infinite. -/
structure ReportsTotal (values : List (WithTop ℚ)) (total : ℚ) : Prop where
  reachable : ⊤ ∉ values → (total : WithTop ℚ) = values.sum
  unreachable : ⊤ ∈ values → total = 0

/-- A tour through all places from the first one on, that goes to a nearest place each time
and reports its totals. -/
structure VisitsAllPlaces (n : ℕ) (matrix : ODMatrix) (result : BasicRoute) : Prop where
  perm : result.route.Perm (List.range n)
  starts : result.route.head? = some 0
  nearest : GoesToNearest (travel matrix.distances) result.route
  distance : ReportsTotal (legValues matrix.distances result.route) result.totalDistance
  time : ReportsTotal (legValues matrix.durations result.route) result.totalTime

/-- Totals that are the sums of the legs, be they infinite. -/
structure SumsLegs (matrix : ODMatrix) (result : BasicRoute) : Prop where
  distance : (result.totalDistance : WithTop ℚ) = (legValues matrix.distances result.route).sum
  time : (result.totalTime : WithTop ℚ) = (legValues matrix.durations result.route).sum

/-! ## Cells as numbers -/

section Cells

variable {first second : Cell}

/-- Cells that are not null are compared as numbers. -/
theorem Cell.less_eq (hfirst : first ≠ .null) (hsecond : second ≠ .null) :
    first.less second = .ok (decide (first.value < second.value)) := by
  cases first <;> cases second <;>
    simp_all [Cell.less, Cell.value, WithTop.coe_lt_coe]

/-- Cells that are not null are added as numbers. -/
theorem Cell.exists_plus (hfirst : first ≠ .null) (hsecond : second ≠ .null) (totalType : String) :
    ∃ sum, first.plus totalType second = .ok sum ∧ sum ≠ .null ∧
      sum.value = first.value + second.value := by
  cases first <;> cases second <;>
    simp_all [Cell.plus, Cell.value]

end Cells

/-! ## The loop -/

section Loop

variable {n : ℕ} {rows : List (List Cell)} {matrix : ODMatrix}

theorem TravelMatrix.exists_cellAt (htravel : TravelMatrix n rows) {i j : ℕ} (hi : i < n)
    (hj : j < n) :
    ∃ cell, cellAt rows i j = .ok cell ∧ cell ≠ .null ∧ cell.value = travel rows i j := by
  have hrow : i < rows.length := htravel.height ▸ hi
  have hmem : rows[i] ∈ rows := List.getElem_mem hrow
  have hcolumn : j < rows[i].length := by
    rw [htravel.width _ hmem]
    exact hj
  have hcell : (rows[i]?.bind fun row => row[j]?) = some rows[i][j] := by
    rw [List.getElem?_eq_getElem hrow, Option.bind_some, List.getElem?_eq_getElem hcolumn]
  refine ⟨rows[i][j], ?_, ?_, ?_⟩
  · unfold cellAt
    rw [hcell]
  · intro hnull
    exact htravel.readable _ hmem (hnull ▸ List.getElem_mem hcolumn)
  · unfold travel
    rw [hcell, Option.getD_some]

/-- A turn of `min` keeps the nearer place. -/
theorem compareNode_eq (htravel : TravelMatrix n rows) {current node nearest : ℕ} {best : Cell}
    (hcurrent : current < n) (hnode : node < n) (hreadable : best ≠ .null)
    (hbest : best.value = travel rows current nearest) :
    ∃ cell, cell ≠ .null ∧ cell.value = travel rows current node ∧
      compareNode rows current (nearest, best) node =
        .ok (if travel rows current node < travel rows current nearest then (node, cell)
          else (nearest, best)) := by
  obtain ⟨cell, hcell, hcellReadable, hvalue⟩ := htravel.exists_cellAt hcurrent hnode
  refine ⟨cell, hcellReadable, hvalue, ?_⟩
  unfold compareNode
  rw [hcell, ← hvalue, ← hbest]
  show (do return if ← cell.less best then (node, cell) else (nearest, best)) = _
  rw [Cell.less_eq hcellReadable hreadable]
  by_cases hless : cell.value < best.value
  · simp [hless]
  · simp [hless]

/-- The loop of `min` keeps the first of the nearest places, and its distance. -/
theorem foldlM_compareNode (htravel : TravelMatrix n rows) {current first : ℕ} {cell : Cell}
    (hcurrent : current < n) (hreadable : cell ≠ .null)
    (hvalue : cell.value = travel rows current first) {others : List ℕ}
    (hothers : ∀ node ∈ others, node < n) :
    ∃ nearest best, (first :: others).argmin (travel rows current) = some nearest ∧
      others.foldlM (compareNode rows current) (first, cell) = .ok (nearest, best) ∧
      best ≠ .null ∧ best.value = travel rows current nearest := by
  induction others using List.reverseRecOn with
  | nil => exact ⟨first, cell, rfl, rfl, hreadable, hvalue⟩
  | append_singleton others last ih =>
      obtain ⟨nearest, best, hargmin, hbest, hbestReadable, hbestValue⟩ :=
        ih fun node hnode => hothers node (List.mem_append_left _ hnode)
      have hlast : last < n := hothers last (List.mem_append_right _ (List.mem_singleton_self last))
      obtain ⟨other, hother, hotherValue, hturn⟩ :=
        compareNode_eq htravel hcurrent hlast hbestReadable hbestValue
      rw [← List.cons_append, List.argmin_concat, hargmin, List.foldlM_append, hbest]
      by_cases hless : travel rows current last < travel rows current nearest
      · rw [if_pos hless] at hturn
        refine ⟨last, other, if_pos hless, ?_, hother, hotherValue⟩
        exact congrArg (fun turn => turn >>= pure) hturn
      · rw [if_neg hless] at hturn
        refine ⟨nearest, best, if_neg hless, ?_, hbestReadable, hbestValue⟩
        exact congrArg (fun turn => turn >>= pure) hturn

/-- `min` finds the first of the nearest places. -/
theorem nearestOf_eq (htravel : TravelMatrix n rows) {current : ℕ} (hcurrent : current < n)
    {nodes : List ℕ} (hnodes : ∀ node ∈ nodes, node < n) {nearest : ℕ}
    (hnearest : nodes.argmin (travel rows current) = some nearest) :
    nearestOf rows current nodes = .ok nearest := by
  cases nodes with
  | nil => cases hnearest
  | cons first others =>
      obtain ⟨hfirst, hothers⟩ := List.forall_mem_cons.mp hnodes
      obtain ⟨cell, hcell, hreadable, hvalue⟩ := htravel.exists_cellAt hcurrent hfirst
      obtain ⟨found, best, hfound, hloop, -, -⟩ :=
        foldlM_compareNode htravel hcurrent hreadable hvalue hothers
      obtain rfl : found = nearest := Option.some.inj (hfound.symm.trans hnearest)
      dsimp only [nearestOf]
      rw [hcell]
      show (others.foldlM (compareNode rows current) (first, cell) >>= fun best => pure best.1) = _
      rw [hloop]
      rfl

/-- A state of the loop whose nodes are places and whose totals are numbers or infinite. -/
structure TourState.Ready (n : ℕ) (state : TourState) : Prop where
  current : state.current < n
  unvisited : ∀ node ∈ state.unvisited, node < n
  distance : state.totalDistance ≠ .null
  time : state.totalTime ≠ .null

/-- The loop has gone on from a state to another one by visiting places in an order. -/
structure GoesOn (matrix : ODMatrix) (state next : TourState) (order : List ℕ) : Prop where
  route : next.route = state.route ++ order
  distance : next.totalDistance.value =
    state.totalDistance.value + (legValues matrix.distances (state.current :: order)).sum
  time : next.totalTime.value =
    state.totalTime.value + (legValues matrix.durations (state.current :: order)).sum

theorem sum_legValues_cons (rows : List (List Cell)) (current next : ℕ) (order : List ℕ) :
    (legValues rows (current :: next :: order)).sum =
      travel rows current next + (legValues rows (next :: order)).sum := by
  unfold legValues
  rw [legs_cons_cons, List.map_cons, List.sum_cons]

@[simp]
theorem legValues_singleton (rows : List (List Cell)) (node : ℕ) : legValues rows [node] = [] :=
  rfl

theorem GoesOn.cons {state next final : TourState} {nearest : ℕ} {order : List ℕ}
    (hnext : GoesOn matrix state next [nearest]) (hcurrent : next.current = nearest)
    (hfinal : GoesOn matrix next final order) : GoesOn matrix state final (nearest :: order) where
  route := by
    rw [hfinal.route, hnext.route, List.append_assoc]
    rfl
  distance := by
    rw [hfinal.distance, hnext.distance, hcurrent, sum_legValues_cons, sum_legValues_cons,
      legValues_singleton, List.sum_nil, add_zero, add_assoc]
  time := by
    rw [hfinal.time, hnext.time, hcurrent, sum_legValues_cons, sum_legValues_cons,
      legValues_singleton, List.sum_nil, add_zero, add_assoc]

/-- A leg is read from its matrix and added to a total. -/
theorem exists_leg (htravel : TravelMatrix n rows) {i j : ℕ} (hi : i < n) (hj : j < n)
    {total : Cell} (htotal : total ≠ .null) (totalType : String) :
    ∃ leg sum, cellAt rows i j = .ok leg ∧ total.plus totalType leg = .ok sum ∧ sum ≠ .null ∧
      sum.value = total.value + (legValues rows [i, j]).sum := by
  obtain ⟨leg, hleg, hreadable, hvalue⟩ := htravel.exists_cellAt hi hj
  obtain ⟨sum, hplus, hsum, hsumValue⟩ := Cell.exists_plus htotal hreadable totalType
  refine ⟨leg, sum, hleg, hplus, hsum, ?_⟩
  rw [hsumValue, hvalue, sum_legValues_cons, legValues_singleton, List.sum_nil, add_zero]

/-- The body of the loop goes on to the nearest place. -/
theorem visitNearest_eq (hdistances : TravelMatrix n matrix.distances)
    (hdurations : TravelMatrix n matrix.durations) {state : TourState} (hready : state.Ready n)
    {nearest : ℕ}
    (hnearest : state.unvisited.argmin (travel matrix.distances state.current) = some nearest) :
    ∃ next, visitNearest matrix state = .ok next ∧ next.Ready n ∧ next.current = nearest ∧
      next.unvisited = state.unvisited.erase nearest ∧ GoesOn matrix state next [nearest] := by
  have hnode : nearest < n := hready.unvisited nearest (List.argmin_mem hnearest)
  obtain ⟨distance, totalDistance, hdistance, hplusDistance, htotalDistance, hsumDistance⟩ :=
    exists_leg hdistances hready.current hnode hready.distance state.totalType
  obtain ⟨duration, totalTime, hduration, hplusTime, htotalTime, hsumTime⟩ :=
    exists_leg hdurations hready.current hnode hready.time state.totalType
  have hleft : ∀ node ∈ state.unvisited.erase nearest, node < n :=
    fun node hmem => hready.unvisited node (List.mem_of_mem_erase hmem)
  refine ⟨{
    unvisited := state.unvisited.erase nearest
    route := state.route ++ [nearest]
    current := nearest
    totalDistance := totalDistance
    totalTime := totalTime }, ?_, ⟨hnode, hleft, htotalDistance, htotalTime⟩, rfl, rfl,
    ⟨rfl, hsumDistance, hsumTime⟩⟩
  unfold visitNearest
  rw [nearestOf_eq hdistances hready.current hready.unvisited hnearest]
  dsimp only [bind, Except.bind]
  rw [hdistance]
  dsimp only
  rw [hplusDistance]
  dsimp only
  rw [hduration]
  dsimp only
  rw [hplusTime]
  rfl

/-- The loop visits the places that are left, the nearest one first. -/
theorem visitAll_eq (hdistances : TravelMatrix n matrix.distances)
    (hdurations : TravelMatrix n matrix.durations) (steps : ℕ) {state : TourState}
    (hready : state.Ready n) (hsteps : state.unvisited.length = steps) :
    ∃ final, visitAll matrix steps state = .ok final ∧ final.Ready n ∧
      GoesOn matrix state final
        (nearestFirst (travel matrix.distances) steps state.current state.unvisited) := by
  induction steps generalizing state with
  | zero =>
      refine ⟨state, rfl, hready, ?_, ?_, ?_⟩ <;> simp [nearestFirst]
  | succ steps ih =>
      obtain ⟨nearest, -, hnearest, hlength, horder⟩ :=
        nearestFirst_succ (travel matrix.distances) state.current hsteps
      obtain ⟨next, hnext, hnextReady, hcurrent, hunvisited, hgoes⟩ :=
        visitNearest_eq hdistances hdurations hready hnearest
      obtain ⟨final, hfinal, hfinalReady, hlast⟩ := ih hnextReady (hunvisited ▸ hlength)
      refine ⟨final, ?_, hfinalReady, ?_⟩
      · unfold visitAll
        rw [hnext]
        exact hfinal
      · rw [hcurrent, hunvisited] at hlast
        rw [horder]
        exact hgoes.cons hcurrent hlast

end Loop

/-! ## Totals -/

/-- A sum is infinite exactly when a summand is. -/
theorem sum_eq_top_iff (values : List (WithTop ℚ)) : values.sum = ⊤ ↔ ⊤ ∈ values := by
  induction values with
  | nil => simp
  | cons value rest ih =>
      rw [List.sum_cons, WithTop.add_eq_top, ih, List.mem_cons, eq_comm]

/-- Cleaning a sum of legs replaces an infinite one by zero. -/
theorem reportsTotal_cleanNumericValue {values : List (WithTop ℚ)} {total : Cell}
    (htotal : total.value = values.sum) :
    ReportsTotal values (total.cleanNumericValue 0) := by
  have htop : total.value = ⊤ ↔ ⊤ ∈ values := by rw [htotal, sum_eq_top_iff]
  cases total with
  | number total =>
      constructor
      · exact fun _ => htotal
      · exact fun hmem => absurd (htop.mpr hmem) (WithTop.coe_ne_top)
  | infinite =>
      constructor
      · exact fun hreachable => absurd (htop.mp rfl) hreachable
      · exact fun _ => rfl
  | null =>
      constructor
      · exact fun hreachable => absurd (htop.mp rfl) hreachable
      · exact fun _ => rfl

/-! ## The matrices of the fallback -/

/-- The tables that the fallback computes itself are matrices of numbers and infinities. -/
theorem travelMatrix_city2graphTable (route : Coordinates → Coordinates → Option ℚ)
    (ofKm : ℚ → ℚ) (coordinates : List Coordinates) :
    TravelMatrix coordinates.length (city2graphTable route ofKm coordinates) where
  height := by
    unfold city2graphTable
    rw [List.length_map, List.length_zipIdx]
  width := by
    intro row hrow
    obtain ⟨origin, -, rfl⟩ := List.mem_map.mp hrow
    rw [List.length_map, List.length_zipIdx]
  readable := by
    intro row hrow hnull
    obtain ⟨origin, -, rfl⟩ := List.mem_map.mp hrow
    obtain ⟨destination, -, hcell⟩ := List.mem_map.mp hnull
    split at hcell
    · cases hcell
    · split at hcell
      · cases hcell
      · cases hcell

/-! ## Tours through all places -/

theorem range_eq_cons {n : ℕ} (hn : 1 ≤ n) : List.range n = 0 :: List.range' 1 (n - 1) := by
  obtain ⟨rest, rfl⟩ := Nat.exists_eq_add_of_le' hn
  rw [List.range_eq_range', List.range'_succ]
  rfl

/-- The variables before the loop. -/
theorem ready_start (n : ℕ) (hn : 1 ≤ n) :
    TourState.Ready n { unvisited := List.range' 1 (n - 1) } where
  current := hn
  unvisited := by
    intro node hnode
    obtain ⟨i, hi, rfl⟩ := List.mem_range'.mp hnode
    omega
  distance := Cell.noConfusion
  time := Cell.noConfusion

/-- What the loop goes through from the first place on is a tour of all places. -/
theorem visitsAllPlaces_of_goesOn {n : ℕ} {matrix : ODMatrix} (hn : 1 ≤ n) {final : TourState}
    (hgoes : GoesOn matrix { unvisited := List.range' 1 (n - 1) } final
      (nearestFirst (travel matrix.distances) (n - 1) 0 (List.range' 1 (n - 1)))) :
    VisitsAllPlaces n matrix (.tour final.route (final.totalDistance.cleanNumericValue 0)
      (final.totalTime.cleanNumericValue 0)) := by
  have hlength : (List.range' 1 (n - 1)).length = n - 1 := List.length_range'
  have hroute : final.route =
      0 :: nearestFirst (travel matrix.distances) (n - 1) 0 (List.range' 1 (n - 1)) :=
    hgoes.route
  constructor
  case perm =>
    rw [range_eq_cons hn]
    show final.route.Perm _
    rw [hroute]
    exact (nearestFirst_perm _ _ _ _ hlength).cons 0
  case starts =>
    show final.route.head? = _
    rw [hroute]
    rfl
  case nearest =>
    show GoesToNearest _ final.route
    rw [hroute]
    exact goesToNearest_nearestFirst _ _ _ _ hlength
  case distance =>
    apply reportsTotal_cleanNumericValue
    show _ = (legValues matrix.distances final.route).sum
    rw [hroute, hgoes.distance]
    exact zero_add _
  case time =>
    apply reportsTotal_cleanNumericValue
    show _ = (legValues matrix.durations final.route).sum
    rw [hroute, hgoes.time]
    exact zero_add _

theorem visitsAllPlaces_single (matrix : ODMatrix) : VisitsAllPlaces 1 matrix .single where
  perm := List.Perm.refl _
  starts := rfl
  nearest := trivial
  distance := ⟨fun _ => rfl, fun _ => rfl⟩
  time := ⟨fun _ => rfl, fun _ => rfl⟩

/-- The tour goes through all places from the first one on, to a nearest place each time, and
reports the sums of its legs, or zero instead of an infinite sum. -/
theorem optimizeTspBasic_visits {n : ℕ} {matrix : ODMatrix} (hn : 1 ≤ n)
    (hdistances : TravelMatrix n matrix.distances) (hdurations : TravelMatrix n matrix.durations) :
    ∃ result, optimizeTspBasic matrix = .ok result ∧ VisitsAllPlaces n matrix result := by
  unfold optimizeTspBasic
  dsimp only
  rw [hdistances.height, List.length_range']
  by_cases hone : n ≤ 1
  · obtain rfl : n = 1 := le_antisymm hone hn
    rw [if_pos hone]
    exact ⟨.single, rfl, visitsAllPlaces_single matrix⟩
  · rw [if_neg hone]
    obtain ⟨final, hfinal, -, hgoes⟩ :=
      visitAll_eq hdistances hdurations (n - 1) (ready_start n hn) List.length_range'
    refine ⟨_, ?_, visitsAllPlaces_of_goesOn hn hgoes⟩
    rw [hfinal]
    rfl

/-- Two places without a way between them. -/
def separatePlaces : ODMatrix where
  distances := [[.number 0, .infinite], [.infinite, .number 0]]
  durations := [[.number 0, .infinite], [.infinite, .number 0]]

theorem travelMatrix_separatePlaces : TravelMatrix 2 separatePlaces.distances where
  height := rfl
  width := by decide
  readable := by decide

theorem optimizeTspBasic_visits_separatePlaces :
    ∃ result, optimizeTspBasic separatePlaces = .ok result ∧
      VisitsAllPlaces 2 separatePlaces result :=
  optimizeTspBasic_visits (by decide) travelMatrix_separatePlaces travelMatrix_separatePlaces

/-- The way between the two places is reported to take no time. -/
theorem not_sumsLegs_separatePlaces :
    ¬ ∀ n matrix, 1 ≤ n → TravelMatrix n matrix.distances → TravelMatrix n matrix.durations →
      ∃ result, optimizeTspBasic matrix = .ok result ∧ SumsLegs matrix result := by
  intro hsums
  obtain ⟨result, hresult, hlegs⟩ := hsums 2 separatePlaces (by decide)
    travelMatrix_separatePlaces travelMatrix_separatePlaces
  have hzero : optimizeTspBasic separatePlaces = .ok (.tour [0, 1] 0 0) := rfl
  obtain rfl : BasicRoute.tour [0, 1] 0 0 = result :=
    Except.ok.inj (hzero.symm.trans hresult)
  have htime := hlegs.time
  cases htime

end Goveling.Routing
