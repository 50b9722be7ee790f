/-
# Weighted walks

A walk goes along the edges of a relation and adds up their weights. In a graph that has at most
one edge from a vertex to another, a list of vertices whose neighbours are joined is a walk. A
graph that keeps only some of the edges has only some of the walks, and the least weight of its
walks is the least weight of all exactly when a lightest walk is kept.
-/

import Mathlib.Algebra.Order.Monoid.Defs
import Mathlib.Order.Bounds.Basic

namespace Goveling.Math.Walks

universe u v w

section

variable {V : Type u} {W : Type w} [AddCommMonoid W]

/-- A walk from a vertex to another, with the sum of its weights. -/
inductive Walk (edge : V → V → W → Prop) : V → V → W → Prop
  | nil (v : V) : Walk edge v v 0
  | cons {u v t : V} {first rest : W} (step : edge u v first) (walk : Walk edge v t rest) :
      Walk edge u t (first + rest)

/-- The weights of the walks from a vertex to another. -/
def weights (edge : V → V → W → Prop) (source target : V) : Set W :=
  {total | Walk edge source target total}

variable {edge kept : V → V → W → Prop} {source target : V}

/-- More edges make more walks. -/
theorem Walk.mono (hedge : ∀ u v w, kept u v w → edge u v w) {total : W}
    (hwalk : Walk kept source target total) : Walk edge source target total := by
  induction hwalk with
  | nil v => exact .nil v
  | cons step walk ih => exact .cons (hedge _ _ _ step) ih

theorem weights_subset (hedge : ∀ u v w, kept u v w → edge u v w) (source target : V) :
    weights kept source target ⊆ weights edge source target :=
  fun _ hwalk => hwalk.mono hedge

section

variable [PartialOrder W] [IsOrderedAddMonoid W]

/-- Where every edge can be replaced by a lighter one, every walk can. -/
theorem Walk.exists_le (hedge : ∀ u v w, edge u v w → ∃ lighter ≤ w, kept u v lighter) {total : W}
    (hwalk : Walk edge source target total) :
    ∃ lighter ≤ total, Walk kept source target lighter := by
  induction hwalk with
  | nil v => exact ⟨0, le_rfl, .nil v⟩
  | cons step walk ih =>
      obtain ⟨first, hfirst, hstep⟩ := hedge _ _ _ step
      obtain ⟨rest, hrest, hkept⟩ := ih
      exact ⟨first + rest, add_le_add hfirst hrest, .cons hstep hkept⟩

theorem Walk.nonneg (hedge : ∀ u v w, edge u v w → 0 ≤ w) {total : W}
    (hwalk : Walk edge source target total) : 0 ≤ total := by
  induction hwalk with
  | nil v => exact le_rfl
  | cons step walk ih => exact add_nonneg (hedge _ _ _ step) ih

/-- A walk to another vertex has a first edge, and weighs at least as much. -/
theorem Walk.le_of_ne {least : W} (hleast : 0 ≤ least) (hedge : ∀ u v w, edge u v w → least ≤ w)
    (hne : source ≠ target) {total : W} (hwalk : Walk edge source target total) :
    least ≤ total := by
  cases hwalk with
  | nil => exact absurd rfl hne
  | cons step walk =>
      exact le_add_of_le_of_nonneg (hedge _ _ _ step)
        (walk.nonneg fun u v w hstep => hleast.trans (hedge u v w hstep))

end

section

variable [PartialOrder W]

/-- The least weight of the walks, or nothing if there is no walk. -/
def Solves (edge : V → V → W → Prop) (source target : V) (answer : Option W) : Prop :=
  match answer with
  | some total => IsLeast (weights edge source target) total
  | none => weights edge source target = ∅

/-- An answer for the kept edges is right for all edges exactly if a lightest walk is kept, or
there is no walk at all. An answer is a walk in any case, and where there is a lightest walk, the
answer is one. -/
theorem solves_iff_of_kept (hedge : ∀ u v w, kept u v w → edge u v w) {answer : Option W}
    (hwalk : ∀ total, answer = some total → Walk kept source target total)
    (hleast : (∃ total, IsLeast (weights kept source target) total) →
      ∃ total, answer = some total ∧ IsLeast (weights kept source target) total) :
    Solves edge source target answer ↔
      (∃ total, Walk kept source target total ∧
        total ∈ lowerBounds (weights edge source target)) ∨
      weights edge source target = ∅ := by
  constructor
  · intro hsolves
    cases answer with
    | none => exact .inr hsolves
    | some total => exact .inl ⟨total, hwalk total rfl, hsolves.2⟩
  · rintro (⟨total, hkept, hlower⟩ | hempty)
    · have hsubset := weights_subset hedge source target
      obtain ⟨found, rfl, hfound⟩ := hleast ⟨total, hkept, fun _ hother => hlower (hsubset hother)⟩
      obtain rfl : found = total :=
        le_antisymm (hfound.2 hkept) (hlower (hsubset hfound.1))
      exact ⟨hsubset hfound.1, hlower⟩
    · cases answer with
      | none => exact hempty
      | some total =>
          have hmem : total ∈ weights edge source target := (hwalk total rfl).mono hedge
          rw [hempty] at hmem
          exact hmem.elim

end

end

section

variable {V : Type u} {β : Type v} {W : Type w}

/-- The edges between the neighbours in a list of vertices, if they are all there. -/
def steps (edge : V → V → Option β) : List V → Option (List β)
  | [] => some []
  | [_] => some []
  | u :: v :: rest => do
      let first ← edge u v
      let others ← steps edge (v :: rest)
      some (first :: others)

/-- A list of vertices that leads along edges from one to another. -/
structure IsPath (edge : V → V → Option β) (source target : V) (path : List V) (taken : List β) :
    Prop where
  head : path.head? = some source
  last : path.getLast? = some target
  taken : steps edge path = some taken

/-- The sum of the weights, if every edge has one. -/
def total [Add W] [Zero W] (weight : β → Option W) : List β → Option W
  | [] => some 0
  | first :: others => do
      let firstWeight ← weight first
      let rest ← total weight others
      some (firstWeight + rest)

/-- The edges with their weights. -/
def Step (edge : V → V → Option β) (weight : β → Option W) (u v : V) (w : W) : Prop :=
  ∃ taken, edge u v = some taken ∧ weight taken = some w

variable [AddCommMonoid W] {edge : V → V → Option β} {weight : β → Option W}

/-- A path is a walk. -/
theorem IsPath.walk {source target : V} {path : List V} {taken : List β}
    (hpath : IsPath edge source target path taken) {sum : W}
    (hsum : total weight taken = some sum) : Walk (Step edge weight) source target sum := by
  induction path generalizing source taken sum with
  | nil => cases hpath.head
  | cons u rest ih =>
      obtain rfl := Option.some.inj hpath.head
      cases rest with
      | nil =>
          obtain rfl := Option.some.inj hpath.last
          obtain rfl := Option.some.inj hpath.taken
          obtain rfl := Option.some.inj hsum
          exact .nil u
      | cons v rest =>
          obtain ⟨first, hfirst, htaken⟩ := Option.bind_eq_some_iff.mp hpath.taken
          obtain ⟨others, hothers, htaken⟩ := Option.bind_eq_some_iff.mp htaken
          obtain rfl := Option.some.inj htaken
          obtain ⟨firstWeight, hweight, hsum⟩ := Option.bind_eq_some_iff.mp hsum
          obtain ⟨restSum, hrest, hsum⟩ := Option.bind_eq_some_iff.mp hsum
          obtain rfl := Option.some.inj hsum
          exact .cons ⟨first, hfirst, hweight⟩ (ih ⟨rfl, hpath.last, hothers⟩ hrest)

/-- Where every edge has a weight, a path has one. -/
theorem exists_total
    (hweight : ∀ u v joining, edge u v = some joining → ∃ w, weight joining = some w)
    {path : List V} {taken : List β} (htaken : steps edge path = some taken) :
    ∃ sum, total weight taken = some sum := by
  induction path generalizing taken with
  | nil =>
      obtain rfl := Option.some.inj htaken
      exact ⟨0, rfl⟩
  | cons u rest ih =>
      cases rest with
      | nil =>
          obtain rfl := Option.some.inj htaken
          exact ⟨0, rfl⟩
      | cons v rest =>
          obtain ⟨first, hfirst, htaken⟩ := Option.bind_eq_some_iff.mp htaken
          obtain ⟨others, hothers, htaken⟩ := Option.bind_eq_some_iff.mp htaken
          obtain rfl := Option.some.inj htaken
          obtain ⟨firstWeight, hfirstWeight⟩ := hweight u v first hfirst
          obtain ⟨sum, hsum⟩ := ih hothers
          refine ⟨firstWeight + sum, ?_⟩
          rw [total, hfirstWeight, hsum]
          rfl

end

end Goveling.Math.Walks
