/-
# Agendas: stays and the moves between them

An agenda lists, in the order they are placed, stays with a start and a stop
and moves with a length. `InOrder` is the statement a reader of an agenda cares
about: stays run forward, do not overlap, and each leaves room for the moves
placed since the stay before it. `FollowsFrom` says the same one entry at a
time, given the moment up to which the agenda is already taken, and it splits
over concatenation.
-/

import Mathlib.Algebra.Order.Group.Defs
import Mathlib.Data.List.Induction

namespace Goveling.Math

universe u

/-- One line of an agenda over the time type `τ`. -/
inductive Entry (τ : Type u)
  | stay (start stop : τ)
  | move (length : τ)
  deriving DecidableEq, Repr

namespace Agenda

variable {τ : Type u}

/-- The start and stop of every stay, in the order of the agenda. -/
def stays : List (Entry τ) → List (τ × τ)
  | [] => []
  | .stay start stop :: rest => (start, stop) :: stays rest
  | .move _ :: rest => stays rest

@[simp]
theorem stays_append (first second : List (Entry τ)) :
    stays (first ++ second) = stays first ++ stays second := by
  induction first with
  | nil => rfl
  | cons entry rest ih => cases entry <;> simp [stays, ih]

section Clock

variable [AddCommGroup τ]

/-- Total length of the moves of an agenda. -/
def moved : List (Entry τ) → τ
  | [] => 0
  | .stay _ _ :: rest => moved rest
  | .move length :: rest => length + moved rest

/-- The moment up to which the agenda is taken: the stop of the last stay plus
the moves since. Nothing is taken before the first stay. -/
def frontier : Option τ → List (Entry τ) → Option τ
  | taken, [] => taken
  | _, .stay _ stop :: rest => frontier (some stop) rest
  | taken, .move length :: rest => frontier (taken.map (· + length)) rest

/-- The latest moment the entries can follow: the first stay's start less the
moves before it. Entries without a stay follow anything. -/
def lead : List (Entry τ) → Option τ
  | [] => none
  | .stay start _ :: _ => some start
  | .move length :: rest => (lead rest).map (· - length)

theorem moved_append (first second : List (Entry τ)) :
    moved (first ++ second) = moved first + moved second := by
  induction first with
  | nil => simp [moved]
  | cons entry rest ih => cases entry <;> simp [moved, ih, add_assoc]

@[simp]
theorem frontier_append (taken : Option τ) (first second : List (Entry τ)) :
    frontier taken (first ++ second) = frontier (frontier taken first) second := by
  induction first generalizing taken with
  | nil => rfl
  | cons entry rest ih => cases entry <;> simp [frontier, ih]

/-- The lead of a first part with a stay is the lead of the whole. -/
theorem lead_append_of_eq_some {latest : τ} {first : List (Entry τ)} (second : List (Entry τ))
    (hlead : lead first = some latest) : lead (first ++ second) = some latest := by
  induction first generalizing latest with
  | nil => simp [lead] at hlead
  | cons entry rest ih =>
      cases entry with
      | stay start stop => simpa [lead] using hlead
      | move length =>
          obtain ⟨later, hlater, rfl⟩ := Option.map_eq_some_iff.mp hlead
          simp [lead, ih hlater]

/-- Without a stay the agenda is only pushed on by its moves. -/
theorem frontier_of_stays_eq_nil (moment : τ) {between : List (Entry τ)}
    (hnone : stays between = []) :
    frontier (some moment) between = some (moment + moved between) := by
  induction between generalizing moment with
  | nil => simp [frontier, moved]
  | cons entry rest ih =>
      cases entry with
      | stay start stop => simp [stays] at hnone
      | move length => simpa [frontier, moved, add_assoc] using ih (moment + length) hnone

/-- A taken moment always comes from a last stay and the moves after it. -/
theorem exists_last_stay {agenda : List (Entry τ)} {moment : τ}
    (htaken : frontier none agenda = some moment) :
    ∃ before start stop between, agenda = before ++ .stay start stop :: between ∧
      stays between = [] ∧ moment = stop + moved between := by
  induction agenda using List.reverseRecOn generalizing moment with
  | nil => simp [frontier] at htaken
  | append_singleton init entry ih =>
      rw [frontier_append] at htaken
      cases entry with
      | stay start stop =>
          refine ⟨init, start, stop, [], rfl, rfl, ?_⟩
          simpa [frontier, moved, eq_comm] using htaken
      | move length =>
          cases hinit : frontier none init with
          | none => simp [hinit, frontier] at htaken
          | some earlier =>
              obtain ⟨before, start, stop, between, rfl, hnone, rfl⟩ := ih hinit
              refine ⟨before, start, stop, between ++ [.move length], by simp, ?_, ?_⟩
              · simp [hnone, stays]
              · rw [moved_append]
                simpa [hinit, frontier, moved, add_assoc, eq_comm] using htaken

end Clock

section Placement

variable [AddCommGroup τ] [LinearOrder τ]

/-- The agenda is a possible day: stays run forward, none starts before an
earlier one has stopped, and between two consecutive stays there is room for
the moves placed between them. -/
structure InOrder (agenda : List (Entry τ)) : Prop where
  forward : ∀ stay ∈ stays agenda, stay.1 ≤ stay.2
  apart : (stays agenda).Pairwise fun earlier later => earlier.2 ≤ later.1
  room : ∀ before start stop between start' stop' after,
    agenda = before ++ .stay start stop :: (between ++ .stay start' stop' :: after) →
    stays between = [] → stop + moved between ≤ start'

/-- The entries can be placed after an agenda that is taken up to `taken`. -/
def FollowsFrom : Option τ → List (Entry τ) → Prop
  | _, [] => True
  | taken, .stay start stop :: rest =>
      (∀ moment ∈ taken, moment ≤ start) ∧ start ≤ stop ∧ FollowsFrom (some stop) rest
  | taken, .move length :: rest => FollowsFrom (taken.map (· + length)) rest

theorem followsFrom_append (taken : Option τ) (first second : List (Entry τ)) :
    FollowsFrom taken (first ++ second) ↔
      FollowsFrom taken first ∧ FollowsFrom (frontier taken first) second := by
  induction first generalizing taken with
  | nil => simp [FollowsFrom, frontier]
  | cons entry rest ih => cases entry <;> simp [FollowsFrom, frontier, ih, and_assoc]

theorem FollowsFrom.forward {taken : Option τ} {agenda : List (Entry τ)}
    (hfollows : FollowsFrom taken agenda) : ∀ stay ∈ stays agenda, stay.1 ≤ stay.2 := by
  induction agenda generalizing taken with
  | nil => simp [stays]
  | cons entry rest ih =>
      cases entry with
      | stay start stop =>
          intro stay hstay
          rcases List.mem_cons.mp hstay with rfl | hlater
          · exact hfollows.2.1
          · exact ih hfollows.2.2 stay hlater
      | move length => exact ih (show FollowsFrom (taken.map (· + length)) rest from hfollows)

end Placement

section Order

variable [AddCommGroup τ] [LinearOrder τ] [IsOrderedAddMonoid τ]

/-- Where entries can start is decided by their lead alone; the rest is about
the entries themselves. -/
theorem followsFrom_iff_lead (taken : Option τ) (agenda : List (Entry τ)) :
    FollowsFrom taken agenda ↔
      FollowsFrom none agenda ∧ ∀ moment ∈ taken, ∀ latest ∈ lead agenda, moment ≤ latest := by
  induction agenda generalizing taken with
  | nil => simp [FollowsFrom, lead]
  | cons entry rest ih =>
      cases entry with
      | stay start stop =>
          simp only [FollowsFrom, lead, Option.mem_def, reduceCtorEq, false_imp_iff,
            implies_true, true_and, Option.some.injEq, forall_eq']
          exact and_comm
      | move length =>
          simp only [FollowsFrom, lead, Option.map_none]
          rw [ih (taken.map (· + length))]
          refine and_congr_right fun _ => ?_
          cases taken with
          | none => simp
          | some moment =>
              cases lead rest with
              | none => simp
              | some latest => simp [le_sub_iff_add_le]

/-- Moves that take no negative time keep every later stay after the moment
the agenda was taken up to. -/
theorem FollowsFrom.le_stays {moment : τ} {agenda : List (Entry τ)}
    (hmoves : ∀ length, Entry.move length ∈ agenda → 0 ≤ length)
    (hfollows : FollowsFrom (some moment) agenda) :
    ∀ stay ∈ stays agenda, moment ≤ stay.1 := by
  induction agenda generalizing moment with
  | nil => simp [stays]
  | cons entry rest ih =>
      have hrest : ∀ length, Entry.move length ∈ rest → 0 ≤ length :=
        fun length hmem => hmoves length (List.mem_cons_of_mem _ hmem)
      cases entry with
      | stay start stop =>
          obtain ⟨hstart, hforward, hafter⟩ := hfollows
          have hle : moment ≤ start := hstart moment rfl
          intro stay hstay
          rcases List.mem_cons.mp hstay with rfl | hlater
          · exact hle
          · exact (hle.trans hforward).trans (ih hrest hafter stay hlater)
      | move length =>
          intro stay hstay
          have hlater := ih hrest hfollows stay hstay
          exact (le_add_of_nonneg_right (hmoves length List.mem_cons_self)).trans hlater

theorem FollowsFrom.apart {taken : Option τ} {agenda : List (Entry τ)}
    (hmoves : ∀ length, Entry.move length ∈ agenda → 0 ≤ length)
    (hfollows : FollowsFrom taken agenda) :
    (stays agenda).Pairwise fun earlier later => earlier.2 ≤ later.1 := by
  induction agenda generalizing taken with
  | nil => exact List.Pairwise.nil
  | cons entry rest ih =>
      have hrest : ∀ length, Entry.move length ∈ rest → 0 ≤ length :=
        fun length hmem => hmoves length (List.mem_cons_of_mem _ hmem)
      cases entry with
      | stay start stop =>
          exact List.Pairwise.cons (FollowsFrom.le_stays hrest hfollows.2.2)
            (ih hrest hfollows.2.2)
      | move length => exact ih hrest (show FollowsFrom (taken.map (· + length)) rest from hfollows)

/-- Placing entries one at a time is the same as having them in order. -/
theorem inOrder_iff_followsFrom {agenda : List (Entry τ)}
    (hmoves : ∀ length, Entry.move length ∈ agenda → 0 ≤ length) :
    InOrder agenda ↔ FollowsFrom none agenda := by
  constructor
  · intro hin
    -- Walk through the agenda with the part already placed in front.
    suffices hsplit : ∀ placed rest, agenda = placed ++ rest →
        FollowsFrom (frontier none placed) rest from hsplit [] agenda rfl
    intro placed rest
    induction rest generalizing placed with
    | nil => intro _; trivial
    | cons entry rest ih =>
        intro hagenda
        have hnext := ih (placed ++ [entry]) (by simp [hagenda])
        rw [frontier_append] at hnext
        cases entry with
        | stay start stop =>
            refine ⟨fun moment htaken => ?_, ?_, hnext⟩
            · obtain ⟨before, start', stop', between, rfl, hnone, rfl⟩ :=
                exists_last_stay htaken
              exact hin.room before start' stop' between start stop rest
                (by simp [hagenda]) hnone
            · exact hin.forward (start, stop) (by simp [hagenda, stays])
        | move length => exact hnext
  · intro hfollows
    refine ⟨hfollows.forward, hfollows.apart hmoves, ?_⟩
    rintro before start stop between start' stop' after rfl hnone
    rw [followsFrom_append] at hfollows
    obtain ⟨-, -, hafter⟩ := hfollows.2
    rw [followsFrom_append, frontier_of_stays_eq_nil stop hnone] at hafter
    exact hafter.2.1 _ rfl

end Order

end Agenda

end Goveling.Math
