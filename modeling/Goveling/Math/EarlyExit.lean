/-
# Loops that may stop early

A `for` loop whose body may `break` is a left fold that one iteration can end.
The body returns Lean's own `ForInStep`: `yield` keeps the loop going and `done`
leaves it. `Along` says that every iteration the loop really executes meets a
condition on the state before it, the current element and the elements still
waiting; the rules below turn one-iteration facts into facts about the run. A
loop whose body may raise is a fold in `Except`, with one rule for its success.
-/

import Mathlib.Algebra.Order.BigOperators.Group.List
import Mathlib.Data.List.Basic

namespace Goveling.Math

universe u v w

variable {S : Type u} {A : Type v}

/-- Run the body over the list until it breaks or the list is used up. -/
def forBreak (body : S → A → ForInStep S) : List A → S → S
  | [], state => state
  | a :: rest, state =>
      match body state a with
      | .done state' => state'
      | .yield state' => forBreak body rest state'

/-- Every executed iteration meets `P`, which sees the state before the
iteration, its element and the elements after it. -/
def Along (body : S → A → ForInStep S) (P : S → A → List A → Prop) : List A → S → Prop
  | [], _ => True
  | a :: rest, state =>
      P state a rest ∧
        match body state a with
        | .done _ => True
        | .yield state' => Along body P rest state'

section Steps

variable {body : S → A → ForInStep S}

@[simp]
theorem forBreak_nil (state : S) : forBreak body [] state = state := rfl

theorem forBreak_cons_of_yield {state state' : S} {a : A} {rest : List A}
    (hbody : body state a = .yield state') :
    forBreak body (a :: rest) state = forBreak body rest state' := by
  simp only [forBreak, hbody]

theorem forBreak_cons_of_done {state state' : S} {a : A} {rest : List A}
    (hbody : body state a = .done state') :
    forBreak body (a :: rest) state = state' := by
  simp only [forBreak, hbody]

@[simp]
theorem along_nil (P : S → A → List A → Prop) (state : S) : Along body P [] state :=
  trivial

theorem along_cons_of_yield {P : S → A → List A → Prop} {state state' : S} {a : A}
    {rest : List A} (hbody : body state a = .yield state') :
    Along body P (a :: rest) state ↔ P state a rest ∧ Along body P rest state' := by
  simp only [Along, hbody]

theorem along_cons_of_done {P : S → A → List A → Prop} {state state' : S} {a : A}
    {rest : List A} (hbody : body state a = .done state') :
    Along body P (a :: rest) state ↔ P state a rest := by
  simp only [Along, hbody, and_true]

/-- The invariant rule: what every iteration keeps, broken off or not, the
whole loop keeps. -/
theorem forBreak_invariant {I : S → Prop}
    (step : ∀ state a, I state → I (body state a).value)
    (items : List A) {state : S} (hinit : I state) : I (forBreak body items state) := by
  induction items generalizing state with
  | nil => exact hinit
  | cons a rest ih =>
      have hstep := step state a hinit
      cases hbody : body state a with
      | done state' =>
          rw [forBreak_cons_of_done hbody]
          simpa only [hbody, ForInStep.value] using hstep
      | yield state' =>
          rw [forBreak_cons_of_yield hbody]
          exact ih (by simpa only [hbody, ForInStep.value] using hstep)

/-- The exact rule: if one iteration keeps `G` precisely when `P` held before
it, the loop keeps `G` precisely when `P` held before every executed iteration.
The side invariant `I` is what the iterations may rely on. -/
theorem forBreak_iff_along {I G : S → Prop} {P : S → A → List A → Prop}
    (keep : ∀ state a, I state → I (body state a).value)
    (step : ∀ state a rest, I state →
      (G (body state a).value ↔ G state ∧ P state a rest))
    (items : List A) (state : S) (hinit : I state) :
    G (forBreak body items state) ↔ G state ∧ Along body P items state := by
  induction items generalizing state with
  | nil => simp
  | cons a rest ih =>
      have hstep := step state a rest hinit
      have hkeep := keep state a hinit
      cases hbody : body state a with
      | done state' =>
          rw [forBreak_cons_of_done hbody, along_cons_of_done hbody]
          simpa only [hbody, ForInStep.value] using hstep
      | yield state' =>
          simp only [hbody, ForInStep.value] at hstep hkeep
          rw [forBreak_cons_of_yield hbody, along_cons_of_yield hbody, ih _ hkeep, hstep,
            and_assoc]

/-- A condition may be replaced by one that agrees with it on the states the
iterations are entered in. -/
theorem along_congr {I : S → Prop} {P Q : S → A → List A → Prop}
    (keep : ∀ state a, I state → I (body state a).value)
    (same : ∀ state a rest, I state → (P state a rest ↔ Q state a rest))
    (items : List A) {state : S} (hinit : I state) :
    Along body P items state ↔ Along body Q items state := by
  induction items generalizing state with
  | nil => simp
  | cons a rest ih =>
      have hkeep := keep state a hinit
      cases hbody : body state a with
      | done state' =>
          rw [along_cons_of_done hbody, along_cons_of_done hbody, same state a rest hinit]
      | yield state' =>
          simp only [hbody, ForInStep.value] at hkeep
          rw [along_cons_of_yield hbody, along_cons_of_yield hbody, ih hkeep,
            same state a rest hinit]

end Steps

/-! ## Where a loop stops -/

/-- The state that the loop last went on from: the one that the breaking iteration is entered
in, or the state at the end. -/
def lastYield (body : S → A → ForInStep S) : List A → S → S
  | [], state => state
  | a :: rest, state =>
      match body state a with
      | .done _ => state
      | .yield state' => lastYield body rest state'

/-- The elements from the one that breaks on. -/
def leftOver (body : S → A → ForInStep S) : List A → S → List A
  | [], _ => []
  | a :: rest, state =>
      match body state a with
      | .done _ => a :: rest
      | .yield state' => leftOver body rest state'

section Stops

variable {body : S → A → ForInStep S}

/-- What the iterations that go on keep is true where the loop stops. -/
theorem lastYield_invariant {I : S → Prop}
    (step : ∀ state a state', I state → body state a = .yield state' → I state')
    (items : List A) {state : S} (hinit : I state) : I (lastYield body items state) := by
  induction items generalizing state with
  | nil => exact hinit
  | cons a rest ih =>
      unfold lastYield
      cases hbody : body state a with
      | done state' => exact hinit
      | yield state' => exact ih (step state a state' hinit hbody)

/-- What the breaking iteration leaves alone is at the end as it was where the loop stopped. -/
theorem map_forBreak_eq {β : Type w} (f : S → β)
    (hdone : ∀ state a state', body state a = .done state' → f state' = f state)
    (items : List A) (state : S) :
    f (forBreak body items state) = f (lastYield body items state) := by
  induction items generalizing state with
  | nil => rfl
  | cons a rest ih =>
      unfold lastYield
      cases hbody : body state a with
      | done state' =>
          rw [forBreak_cons_of_done hbody]
          exact hdone state a state' hbody
      | yield state' =>
          rw [forBreak_cons_of_yield hbody]
          exact ih state'

/-- The loop ends where it stopped, after the breaking iteration if there is one. -/
theorem forBreak_eq_lastYield (items : List A) (state : S) :
    forBreak body items state =
      (leftOver body items state).head?.elim (lastYield body items state)
        fun a => (body (lastYield body items state) a).value := by
  induction items generalizing state with
  | nil => rfl
  | cons a rest ih =>
      unfold lastYield leftOver
      cases hbody : body state a with
      | done state' =>
          rw [forBreak_cons_of_done hbody]
          simp [hbody, ForInStep.value]
      | yield state' =>
          rw [forBreak_cons_of_yield hbody]
          exact ih state'

/-- The first element that is left over is the one that broke the loop. -/
theorem done_of_head_leftOver {items : List A} {state : S} {a : A}
    (hhead : (leftOver body items state).head? = some a) :
    ∃ state', body (lastYield body items state) a = .done state' := by
  induction items generalizing state with
  | nil => cases hhead
  | cons b rest ih =>
      unfold leftOver at hhead
      unfold lastYield
      cases hbody : body state b with
      | done state' =>
          rw [hbody, List.head?_cons, Option.some.injEq] at hhead
          exact ⟨state', hhead ▸ hbody⟩
      | yield state' =>
          rw [hbody] at hhead
          exact ih hhead

/-- A loop that counts its iterations leaves over what it did not count. -/
theorem leftOver_eq_drop (count : S → ℕ)
    (hyield : ∀ state a state', body state a = .yield state' → count state' = count state + 1)
    (items : List A) (state : S) :
    ∃ done, count (lastYield body items state) = count state + done ∧
      leftOver body items state = items.drop done := by
  induction items generalizing state with
  | nil => exact ⟨0, rfl, rfl⟩
  | cons a rest ih =>
      unfold lastYield leftOver
      cases hbody : body state a with
      | done state' => exact ⟨0, rfl, rfl⟩
      | yield state' =>
          obtain ⟨done, hcount, hdrop⟩ := ih state'
          refine ⟨done + 1, ?_, hdrop⟩
          dsimp only
          rw [hcount, hyield state a state' hbody]
          omega

/-- When exactly the misfits break the loop, all that is left over misfits where the loop
stopped exactly when nothing behind a misfit would have fitted in its place. -/
theorem forall_leftOver_iff {Misfits : S → A → Prop}
    (hdone : ∀ state a state', body state a = .done state' → Misfits state a)
    (hyield : ∀ state a state', body state a = .yield state' → ¬ Misfits state a)
    (items : List A) (state : S) :
    (∀ a ∈ leftOver body items state, Misfits (lastYield body items state) a) ↔
      Along body (fun state a rest => Misfits state a → ∀ later ∈ rest, Misfits state later)
        items state := by
  induction items generalizing state with
  | nil => simp [leftOver]
  | cons a rest ih =>
      unfold leftOver lastYield
      cases hbody : body state a with
      | done state' =>
          have hmisfit := hdone state a state' hbody
          rw [along_cons_of_done hbody]
          simp [hmisfit]
      | yield state' =>
          have hfits := hyield state a state' hbody
          rw [along_cons_of_yield hbody, ← ih state']
          simp [hfits]

end Stops

/-! ## What a loop adds up -/

/-- The sum of what the executed iterations add, the breaking one included. -/
def sumAlong {M : Type w} [AddMonoid M] (body : S → A → ForInStep S) (f : S → A → M) :
    List A → S → M
  | [], _ => 0
  | a :: rest, state =>
      f state a +
        match body state a with
        | .done _ => 0
        | .yield state' => sumAlong body f rest state'

section Sums

variable {M : Type w} [AddMonoid M] {body : S → A → ForInStep S} {f : S → A → M}

/-- A quantity that every iteration adds to has grown by the sum. -/
theorem forBreak_eq_add_sumAlong (g : S → M)
    (step : ∀ state a, g (body state a).value = g state + f state a)
    (items : List A) (state : S) :
    g (forBreak body items state) = g state + sumAlong body f items state := by
  induction items generalizing state with
  | nil => exact (add_zero _).symm
  | cons a rest ih =>
      have hstep := step state a
      unfold sumAlong
      cases hbody : body state a with
      | done state' =>
          rw [hbody] at hstep
          rw [forBreak_cons_of_done hbody, add_zero]
          exact hstep
      | yield state' =>
          rw [hbody] at hstep
          rw [forBreak_cons_of_yield hbody, ih state', ← add_assoc]
          exact congrArg (· + sumAlong body f rest state') hstep

/-- Where the loop stops the quantity has grown by the sum already, when the breaking
iteration adds nothing. -/
theorem lastYield_eq_add_sumAlong (g : S → M)
    (hyield : ∀ state a state', body state a = .yield state' → g state' = g state + f state a)
    (hdone : ∀ state a state', body state a = .done state' → f state a = 0)
    (items : List A) (state : S) :
    g (lastYield body items state) = g state + sumAlong body f items state := by
  induction items generalizing state with
  | nil => exact (add_zero _).symm
  | cons a rest ih =>
      unfold lastYield sumAlong
      cases hbody : body state a with
      | done state' =>
          dsimp only
          rw [hdone state a state' hbody, add_zero, add_zero]
      | yield state' =>
          dsimp only
          rw [ih state', hyield state a state' hbody, add_assoc]

end Sums

section Budget

variable {M : Type w} [AddCommMonoid M] [PartialOrder M] [IsOrderedCancelAddMonoid M]
  {body : S → A → ForInStep S}

/-- Serving a budget: when an iteration serves at most the demand of its
element, the loop serves at most the whole demand. -/
theorem served_forBreak_le [CanonicallyOrderedAdd M] (served : S → M) (demand : A → M)
    (step : ∀ state a, served (body state a).value ≤ served state + demand a)
    (items : List A) (state : S) :
    served (forBreak body items state) ≤ served state + (items.map demand).sum := by
  induction items generalizing state with
  | nil => simp
  | cons a rest ih =>
      have hstep := step state a
      rw [List.map_cons, List.sum_cons, ← add_assoc]
      cases hbody : body state a with
      | done state' =>
          simp only [hbody, ForInStep.value] at hstep
          rw [forBreak_cons_of_done hbody]
          exact hstep.trans le_self_add
      | yield state' =>
          simp only [hbody, ForInStep.value] at hstep
          rw [forBreak_cons_of_yield hbody]
          exact (ih state').trans (add_le_add_left hstep _)

/-- What an iteration must do so that no demand is left over: serve its own
element in full, and break only when nothing after it asks for anything. -/
def ServesFully (body : S → A → ForInStep S) (served : S → M) (demand : A → M)
    (state : S) (a : A) (rest : List A) : Prop :=
  served (body state a).value = served state + demand a ∧
    ((∃ state', body state a = .done state') → (rest.map demand).sum = 0)

/-- The loop serves the whole demand exactly when every executed iteration
leaves nothing over. -/
theorem served_forBreak_eq_iff [CanonicallyOrderedAdd M] (served : S → M) (demand : A → M)
    (step : ∀ state a, served (body state a).value ≤ served state + demand a)
    (items : List A) (state : S) :
    served (forBreak body items state) = served state + (items.map demand).sum ↔
      Along body (ServesFully body served demand) items state := by
  induction items generalizing state with
  | nil => simp
  | cons a rest ih =>
      have hstep := step state a
      rw [List.map_cons, List.sum_cons, ← add_assoc]
      cases hbody : body state a with
      | done state' =>
          rw [forBreak_cons_of_done hbody, along_cons_of_done hbody]
          simp only [hbody, ForInStep.value] at hstep
          simp only [ServesFully, hbody, ForInStep.value, ForInStep.done.injEq, exists_eq',
            forall_const]
          constructor
          · intro hall
            -- the rest of the demand would exceed what one iteration serves
            have hrest : (rest.map demand).sum ≤ 0 := by
              have hle : served state + demand a + (rest.map demand).sum ≤
                  served state + demand a + 0 := by
                rw [← hall, add_zero]
                exact hstep
              exact le_of_add_le_add_left hle
            have hzero := le_antisymm hrest zero_le
            exact ⟨by rw [hall, hzero, add_zero], hzero⟩
          · rintro ⟨hserved, hzero⟩
            rw [hserved, hzero, add_zero]
      | yield state' =>
          rw [forBreak_cons_of_yield hbody, along_cons_of_yield hbody, ← ih state']
          simp only [hbody, ForInStep.value] at hstep
          simp only [ServesFully, hbody, ForInStep.value, reduceCtorEq, exists_false,
            false_imp_iff, and_true]
          constructor
          · intro hall
            have hle : served state + demand a + (rest.map demand).sum ≤
                served state' + (rest.map demand).sum :=
              hall ▸ served_forBreak_le served demand step rest state'
            have hserved := le_antisymm hstep (le_of_add_le_add_right hle)
            exact ⟨hserved, by rw [hall, hserved]⟩
          · rintro ⟨hserved, hrest⟩
            rw [hrest, hserved]

end Budget

section Raising

variable {E : Type w}

/-- A loop whose body may raise, started where the relation `R` holds of the
state and nothing served: if the body succeeds at every element and extends `R`
by it, the loop succeeds and has served them all. -/
theorem foldlM_ok_of_step (step : S → A → Except E S) (R : S → List A → Prop)
    (items : List A)
    (hstep : ∀ state served a, a ∈ items → R state served →
      ∃ state', step state a = .ok state' ∧ R state' (served ++ [a]))
    {state : S} (hinit : R state []) :
    ∃ state', items.foldlM step state = .ok state' ∧ R state' items := by
  suffices hfrom : ∀ (pending served : List A) (state : S), (∀ a ∈ pending, a ∈ items) →
      R state served →
      ∃ state', pending.foldlM step state = .ok state' ∧ R state' (served ++ pending) from
    hfrom items [] state (fun _ h => h) hinit
  intro pending
  induction pending with
  | nil => exact fun served state _ hserved => ⟨state, rfl, by simpa using hserved⟩
  | cons a rest ih =>
      intro served state hmem hserved
      obtain ⟨next, hnext, hextended⟩ :=
        hstep state served a (hmem a List.mem_cons_self) hserved
      obtain ⟨last, hlast, hall⟩ := ih (served ++ [a]) next
        (fun b hb => hmem b (List.mem_cons_of_mem _ hb)) hextended
      refine ⟨last, ?_, by simpa using hall⟩
      rw [List.foldlM_cons, hnext]
      exact hlast

/-- What every step that does not raise preserves is true when the loop has not raised. -/
theorem foldlM_invariant (I : S → Prop) {step : S → A → Except E S} {items : List A}
    (hstep : ∀ state a next, a ∈ items → I state → step state a = .ok next → I next)
    {state last : S} (hinit : I state) (hrun : items.foldlM step state = .ok last) : I last := by
  induction items generalizing state with
  | nil =>
      cases hrun
      exact hinit
  | cons a rest ih =>
      rw [List.foldlM_cons] at hrun
      cases hnext : step state a with
      | error e =>
          rw [hnext] at hrun
          cases hrun
      | ok next =>
          rw [hnext] at hrun
          refine ih (fun state b later hb => hstep state b later (List.mem_cons_of_mem _ hb)) ?_ hrun
          exact hstep state a next List.mem_cons_self hinit hnext

end Raising

end Goveling.Math
