/-
# Routes of one vehicle

A routing problem has nodes, a cost for every arc, groups of nodes that may be left out for a
penalty, and possibly a dimension: a quantity that grows along the route by the transit of
every arc and a bounded slack, and that has a range at every node. A solver may answer
with any assignment that the problem allows, or with none. Nothing is promised about
the cost of the answer.
-/

import Mathlib.Data.List.Chain
import Mathlib.Data.List.Range
import Mathlib.Algebra.BigOperators.Group.List.Basic
import Mathlib.Algebra.Order.Ring.Rat
import Mathlib.Tactic.Ring

namespace Goveling.Math

/-! ## Legs -/

section Legs

variable {α : Type*}

/-- The pairs of neighbours along a route. -/
def legs (route : List α) : List (α × α) := route.zip route.tail

@[simp]
theorem legs_nil : legs ([] : List α) = [] := rfl

@[simp]
theorem legs_singleton (a : α) : legs [a] = [] := rfl

@[simp]
theorem legs_cons_cons (a b : α) (rest : List α) :
    legs (a :: b :: rest) = (a, b) :: legs (b :: rest) := rfl

theorem legs_map {β : Type*} (f : α → β) (route : List α) :
    legs (route.map f) = (legs route).map (Prod.map f f) := by
  unfold legs
  rw [← List.map_tail, List.zip_map]

/-- The ends of a leg are on the route. -/
theorem mem_of_mem_legs {route : List α} {leg : α × α} (hleg : leg ∈ legs route) :
    leg.1 ∈ route ∧ leg.2 ∈ route :=
  ⟨(List.of_mem_zip hleg).1, List.mem_of_mem_tail (List.of_mem_zip hleg).2⟩

/-- What holds from each stop to the next holds along every leg. -/
theorem forall_legs_of_isChain {follows : α → α → Prop} {route : List α}
    (hchain : route.IsChain follows) : ∀ leg ∈ legs route, follows leg.1 leg.2 := by
  induction route with
  | nil => simp
  | cons a rest ih =>
      cases rest with
      | nil => simp
      | cons b others =>
          obtain ⟨hfirst, hothers⟩ := List.isChain_cons_cons.mp hchain
          rw [legs_cons_cons]
          exact List.forall_mem_cons.mpr ⟨hfirst, ih hothers⟩

/-- A sum of differences is the difference of the sums. -/
theorem sum_map_sub (f g : α → ℚ) (items : List α) :
    (items.map fun a => f a - g a).sum = (items.map f).sum - (items.map g).sum := by
  induction items with
  | nil => simp
  | cons a rest ih =>
      rw [List.map_cons, List.map_cons, List.map_cons, List.sum_cons, List.sum_cons,
        List.sum_cons, ih]
      ring

/-- The differences along the legs of a route add up to the difference of its ends. -/
theorem sum_legs_sub (value : α → ℚ) {route : List α} {first last : α}
    (hfirst : first ∈ route.head?) (hlast : last ∈ route.getLast?) :
    ((legs route).map fun leg => value leg.2 - value leg.1).sum = value last - value first := by
  induction route generalizing first with
  | nil => cases hfirst
  | cons a rest ih =>
      cases hfirst
      cases rest with
      | nil =>
          cases hlast
          simp
      | cons b others =>
          rw [legs_cons_cons, List.map_cons, List.sum_cons, ih rfl (by simpa using hlast)]
          ring

/-- A sum over a route is the sum over the starts of its legs and its last stop. -/
theorem sum_map_eq_sum_legs (value : α → ℚ) {route : List α} {last : α}
    (hlast : last ∈ route.getLast?) :
    (route.map value).sum = ((legs route).map fun leg => value leg.1).sum + value last := by
  induction route with
  | nil => cases hlast
  | cons a rest ih =>
      cases rest with
      | nil =>
          cases hlast
          simp
      | cons b others =>
          rw [List.map_cons, List.sum_cons, ih (by simpa using hlast), legs_cons_cons,
            List.map_cons, List.sum_cons]
          ring

end Legs

/-! ## Problems -/

/-- A quantity that grows along a route. The transit of an arc is missing when its callback
raises. -/
structure Dimension where
  transit : ℕ → ℕ → Option ℤ
  slackMax : ℤ
  capacity : ℤ
  ranges : List (ℤ × ℤ)

/-- A routing problem for one vehicle that starts and ends at node 0. -/
structure RoutingProblem where
  nodes : ℕ
  cost : ℕ → ℕ → Option ℤ
  dimension : Option Dimension := none
  disjunctions : List (ℕ × ℤ) := []

/-- A node on a route, the value of the dimension there and the slack before the next. -/
structure RouteStop where
  node : ℕ
  cumul : ℤ := 0
  slack : ℤ := 0
  deriving DecidableEq

/-- An assignment: the stops in order, and the value of the dimension at the end. -/
structure Assignment where
  stops : List RouteStop
  endCumul : ℤ := 0

/-- The nodes of an assignment in order. -/
def Assignment.route (assignment : Assignment) : List ℕ := assignment.stops.map RouteStop.node

/-- The stops of a list of nodes, for problems without a dimension. -/
def Assignment.inOrder (route : List ℕ) : Assignment :=
  ⟨route.map fun node => { node := node }, 0⟩

namespace Dimension

/-- The vehicle comes from a stop to a node with a value of the dimension. -/
def Arrives (dimension : Dimension) (stop : RouteStop) (node : ℕ) (cumul : ℤ) : Prop :=
  0 ≤ stop.slack ∧ stop.slack ≤ dimension.slackMax ∧
    ∃ transit ∈ dimension.transit stop.node node, cumul = stop.cumul + transit + stop.slack

instance (dimension : Dimension) (stop : RouteStop) (node : ℕ) (cumul : ℤ) :
    Decidable (dimension.Arrives stop node cumul) :=
  inferInstanceAs (Decidable (_ ∧ _))

/-- A value is in the range of a node and within the capacity. -/
def InRange (dimension : Dimension) (stop : RouteStop) : Prop :=
  0 ≤ stop.cumul ∧ stop.cumul ≤ dimension.capacity ∧
    ∃ range ∈ dimension.ranges[stop.node]?, range.1 ≤ stop.cumul ∧ stop.cumul ≤ range.2

instance (dimension : Dimension) (stop : RouteStop) : Decidable (dimension.InRange stop) :=
  inferInstanceAs (Decidable (_ ∧ _))

/-- The values of the dimension along an assignment. -/
structure Admits (dimension : Dimension) (assignment : Assignment) : Prop where
  inRange : ∀ stop ∈ assignment.stops, dimension.InRange stop
  follows : assignment.stops.IsChain fun stop next =>
    dimension.Arrives stop next.node next.cumul
  returns : ∀ last ∈ assignment.stops.getLast?, dimension.Arrives last 0 assignment.endCumul
  endInRange : 0 ≤ assignment.endCumul ∧ assignment.endCumul ≤ dimension.capacity

instance (dimension : Dimension) (assignment : Assignment) :
    Decidable (dimension.Admits assignment) :=
  decidable_of_iff (_ ∧ _ ∧ _ ∧ _)
    ⟨fun h => ⟨h.1, h.2.1, h.2.2.1, h.2.2.2⟩, fun h => ⟨h.1, h.2, h.3, h.4⟩⟩

end Dimension

namespace RoutingProblem

/-- A node may be left out. -/
def Droppable (problem : RoutingProblem) (node : ℕ) : Prop :=
  node ∈ problem.disjunctions.map Prod.fst

instance (problem : RoutingProblem) (node : ℕ) : Decidable (problem.Droppable node) :=
  inferInstanceAs (Decidable (_ ∈ _))

/-- What a routing library promises of an assignment: the route starts at node 0 and repeats
nothing, a node that is in no disjunction is visited, and the dimension is respected. -/
structure Allows (problem : RoutingProblem) (assignment : Assignment) : Prop where
  starts : assignment.route.head? = some 0
  nodup : assignment.route.Nodup
  lt_nodes : ∀ node ∈ assignment.route, node < problem.nodes
  visits : ∀ node < problem.nodes, node ∉ assignment.route → problem.Droppable node
  admits : ∀ dimension ∈ problem.dimension, dimension.Admits assignment

instance (problem : RoutingProblem) (assignment : Assignment) :
    Decidable (problem.Allows assignment) :=
  decidable_of_iff (_ ∧ _ ∧ _ ∧ _ ∧ _)
    ⟨fun h => ⟨h.1, h.2.1, h.2.2.1, h.2.2.2.1, h.2.2.2.2⟩, fun h => ⟨h.1, h.2, h.3, h.4, h.5⟩⟩

variable {problem : RoutingProblem} {assignment : Assignment}

/-- An assignment that leaves nothing out is an order of the nodes. -/
theorem Allows.perm_range (hallows : problem.Allows assignment)
    (hall : ∀ node < problem.nodes, node ∈ assignment.route) :
    assignment.route.Perm (List.range problem.nodes) := by
  rw [List.perm_ext_iff_of_nodup hallows.nodup List.nodup_range]
  intro node
  rw [List.mem_range]
  exact ⟨hallows.lt_nodes node, hall node⟩

/-- Without disjunctions every node is visited. -/
theorem Allows.mem_route (hallows : problem.Allows assignment)
    (hnone : problem.disjunctions = []) {node : ℕ} (hnode : node < problem.nodes) :
    node ∈ assignment.route := by
  by_contra hmissing
  have hdroppable := hallows.visits node hnode hmissing
  unfold Droppable at hdroppable
  rw [hnone] at hdroppable
  cases hdroppable

end RoutingProblem

/-! ## Solvers -/

/-- What a call of the solver comes to. -/
inductive SolverOutcome
  | solution (assignment : Assignment)
  | noSolution
  | raised

/-- A solver answers with assignments that the problem allows. -/
structure RoutingSolver where
  solve : RoutingProblem → SolverOutcome
  allowed : ∀ problem assignment, solve problem = .solution assignment →
    problem.Allows assignment

/-- The solver that answers with the assignments of a plan, as far as they are allowed. -/
def RoutingSolver.answering (plan : RoutingProblem → Option Assignment) : RoutingSolver where
  solve := fun problem =>
    match plan problem with
    | some assignment =>
        if problem.Allows assignment then .solution assignment else .noSolution
    | none => .noSolution
  allowed := by
    intro problem assignment hsolve
    cases hplan : plan problem with
    | none => simp [hplan] at hsolve
    | some planned =>
        by_cases hallows : problem.Allows planned
        · simp only [hplan, hallows, if_true] at hsolve
          cases hsolve
          exact hallows
        · simp [hplan, hallows] at hsolve

/-- An allowed plan is answered. -/
theorem RoutingSolver.solve_answering {plan : RoutingProblem → Option Assignment}
    {problem : RoutingProblem} {assignment : Assignment} (hplan : plan problem = some assignment)
    (hallows : problem.Allows assignment) :
    (RoutingSolver.answering plan).solve problem = .solution assignment := by
  show (match plan problem with
    | some assignment => if problem.Allows assignment then _ else _
    | none => _) = _
  rw [hplan]
  exact if_pos hallows

end Goveling.Math
