/-
# Runs and what holds along them

A run of a system is the list of its moments: the state before an event, and the
event. What every step preserves holds at every moment. A promise that binds
from some moment on is a property of the rest of the run: `Whenever` says from
which moments on, and `Unless` says that something holds until it is released.
-/

import Mathlib.Data.List.Basic
import Mathlib.Data.List.Induction

namespace Goveling.Math

universe u v

variable {S : Type u} {E : Type v}

/-! ## Moments -/

/-- The state that events lead to. -/
def runEnd (step : S → E → S) (start : S) (events : List E) : S := events.foldl step start

/-- The moments of a run. -/
def moments (step : S → E → S) : S → List E → List (S × E)
  | _, [] => []
  | state, event :: rest => (state, event) :: moments step (step state event) rest

section Steps

variable {step : S → E → S}

@[simp]
theorem runEnd_nil (start : S) : runEnd step start [] = start := rfl

@[simp]
theorem runEnd_cons (start : S) (event : E) (rest : List E) :
    runEnd step start (event :: rest) = runEnd step (step start event) rest := rfl

theorem runEnd_append (start : S) (first second : List E) :
    runEnd step start (first ++ second) = runEnd step (runEnd step start first) second :=
  List.foldl_append

@[simp]
theorem moments_nil (start : S) : moments step start [] = [] := rfl

@[simp]
theorem moments_cons (start : S) (event : E) (rest : List E) :
    moments step start (event :: rest) =
      (start, event) :: moments step (step start event) rest := rfl

/-- The events of the moments of a run are the events of the run. -/
theorem map_snd_moments (start : S) (events : List E) :
    (moments step start events).map Prod.snd = events := by
  induction events generalizing start with
  | nil => rfl
  | cons event rest ih => rw [moments_cons, List.map_cons, ih]

/-- What every step preserves is true at the end of a run. -/
theorem runEnd_invariant {Inv : S → Prop}
    (hstep : ∀ state event, Inv state → Inv (step state event)) {start : S} (hstart : Inv start)
    (events : List E) : Inv (runEnd step start events) := by
  induction events generalizing start with
  | nil => exact hstart
  | cons event rest ih => exact ih (hstep start event hstart)

/-- What a step keeps exactly when its moment allows it is true at the end of a run exactly when
it is true at the start and every moment allows it. -/
theorem holds_runEnd_iff (Inv : S → Prop) {Holds : S → Prop} {Allows : S × E → Prop} {start : S}
    {events : List E} (hinv : ∀ state, ∀ event ∈ events, Inv state → Inv (step state event))
    (hstep : ∀ state, ∀ event ∈ events, Inv state →
      (Holds (step state event) ↔ Holds state ∧ Allows (state, event)))
    (hstart : Inv start) :
    Holds (runEnd step start events) ↔
      Holds start ∧ ∀ moment ∈ moments step start events, Allows moment := by
  induction events generalizing start with
  | nil => simp
  | cons event rest ih =>
      obtain ⟨hfirstInv, hrestInv⟩ : Inv (step start event) ∧
          ∀ state, ∀ other ∈ rest, Inv state → Inv (step state other) :=
        ⟨hinv start event List.mem_cons_self hstart,
          fun state other hother => hinv state other (List.mem_cons_of_mem _ hother)⟩
      have hrest := ih hrestInv
        (fun state other hother => hstep state other (List.mem_cons_of_mem _ hother)) hfirstInv
      rw [runEnd_cons, hrest, hstep start event List.mem_cons_self hstart, moments_cons,
        List.forall_mem_cons, and_assoc]

/-- What a step keeps exactly when its moment allows it is true all along a run that starts with
it exactly when every moment allows it. -/
theorem holds_prefixes_iff (Inv Holds : S → Prop) {Allows : S × E → Prop}
    (hinv : ∀ state event, Inv state → Inv (step state event))
    (hstep : ∀ state event, Inv state → Holds state →
      (Holds (step state event) ↔ Allows (state, event)))
    {start : S} (hstart : Inv start) (hholds : Holds start) (events : List E) :
    (∀ before, before <+: events → Holds (runEnd step start before)) ↔
      ∀ moment ∈ moments step start events, Allows moment := by
  induction events generalizing start with
  | nil => simpa using hholds
  | cons event rest ih =>
      rw [moments_cons, List.forall_mem_cons, ← hstep start event hstart hholds]
      constructor
      · intro hall
        have hnext : Holds (step start event) :=
          hall [event] (List.prefix_append [event] rest)
        refine ⟨hnext, (ih (hinv start event hstart) hnext).mp fun before hbefore => ?_⟩
        exact hall (event :: before) (List.cons_prefix_cons.mpr ⟨rfl, hbefore⟩)
      · rintro ⟨hnext, hrest⟩ before hbefore
        rcases List.prefix_cons_iff.mp hbefore with rfl | ⟨later, rfl, hlater⟩
        · exact hholds
        · exact (ih (hinv start event hstart) hnext).mpr hrest later hlater

/-- What every step keeps true of the events so far is true of all events at the end. -/
theorem runEnd_history {Inv : List E → S → Prop} {start : S} (hstart : Inv [] start)
    {events : List E}
    (hstep : ∀ past state, ∀ event ∈ events, Inv past state →
      Inv (past ++ [event]) (step state event)) :
    Inv events (runEnd step start events) := by
  induction events using List.reverseRecOn with
  | nil => exact hstart
  | append_singleton before event ih =>
      rw [runEnd_append]
      refine hstep before _ event (by simp) (ih fun past state other hother => ?_)
      exact hstep past state other (List.mem_append_left _ hother)

/-- A moment is an event of the run in the state that the events before it lead to. -/
theorem mem_moments_iff {start : S} {events : List E} {moment : S × E} :
    moment ∈ moments step start events ↔
      ∃ before after, events = before ++ moment.2 :: after ∧
        moment.1 = runEnd step start before := by
  induction events generalizing start with
  | nil => simp
  | cons event rest ih =>
      rw [moments_cons, List.mem_cons, ih]
      constructor
      · rintro (rfl | ⟨before, after, rfl, hstate⟩)
        · exact ⟨[], rest, rfl, rfl⟩
        · exact ⟨event :: before, after, rfl, hstate⟩
      · rintro ⟨before, after, hsplit, hstate⟩
        cases before with
        | nil =>
            obtain ⟨hevent, -⟩ := List.cons.inj hsplit
            exact .inl (Prod.ext hstate hevent.symm)
        | cons first others =>
            obtain ⟨rfl, hrest⟩ := List.cons.inj hsplit
            exact .inr ⟨others, after, hrest, hstate⟩

/-- What every step that is allowed keeps true of the events so far is true of all events at the
end, if all steps are allowed. -/
theorem runEnd_history_of_allowed (Inv : List E → S → Prop) (Allows : S × E → Prop) {start : S}
    (hstart : Inv [] start)
    (hstep : ∀ past state event, Inv past state → Allows (state, event) →
      Inv (past ++ [event]) (step state event))
    {events : List E} (hallowed : ∀ moment ∈ moments step start events, Allows moment) :
    Inv events (runEnd step start events) := by
  induction events using List.reverseRecOn with
  | nil => exact hstart
  | append_singleton before event ih =>
      rw [runEnd_append]
      refine hstep before _ event (ih fun moment hmoment => hallowed moment ?_) ?_
      · obtain ⟨first, after, hsplit, hstate⟩ := mem_moments_iff.mp hmoment
        refine mem_moments_iff.mpr ⟨first, after ++ [event], ?_, hstate⟩
        rw [hsplit, List.append_assoc, List.cons_append]
      · exact hallowed _ (mem_moments_iff.mpr ⟨before, [], rfl, rfl⟩)

end Steps

/-! ## Promises along a run -/

variable {α : Type u}

/-- `hold` is true at every moment before the first that is released. -/
def Unless (hold release : α → Prop) : List α → Prop
  | [] => True
  | moment :: rest => release moment ∨ hold moment ∧ Unless hold release rest

/-- A promise about the rest of the run binds from every moment that triggers it. -/
def Whenever (trigger : α → Prop) (promise : List α → Prop) : List α → Prop
  | [] => True
  | moment :: rest =>
      (trigger moment → promise (moment :: rest)) ∧ Whenever trigger promise rest

/-- A promise that is kept by every run from a state that triggers it is kept whenever
such a state comes. -/
theorem whenever_moments {step : S → E → S} {trigger : S → Prop}
    {promise : List (S × E) → Prop} {allowed : S × E → Prop}
    (hpromise : ∀ start events, trigger start →
      (∀ moment ∈ moments step start events, allowed moment) →
        promise (moments step start events))
    (start : S) (events : List E)
    (hallowed : ∀ moment ∈ moments step start events, allowed moment) :
    Whenever (fun moment => trigger moment.1) promise (moments step start events) := by
  induction events generalizing start with
  | nil => trivial
  | cons event rest ih =>
      refine ⟨fun htrigger => hpromise start (event :: rest) htrigger hallowed, ?_⟩
      exact ih _ fun moment hmem => hallowed moment (List.mem_cons_of_mem _ hmem)

end Goveling.Math
