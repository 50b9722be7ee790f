/-
# Rows of failures in front of a counting breaker

Calls of a breaker may overlap: one asks, others finish, and it reports when it is over itself.
What a counting breaker does with its calls is said by `CountsFailures`: asking leaves the count
alone, a failure adds no more than one and opens only at the threshold, and a success either
resets the count or leaves it alone. The count is then at most the row of failures that the
finished calls end with, as long as every success that leaves it alone finds nothing counted.
-/

import Goveling.Math.Breaker
import Goveling.Math.Runs

namespace Goveling.Math

universe u v w

variable {B : Type u} {τ : Type v} {ω : Type w}

/-- The operations of a breaker: what it remembers, whether it lets a call through, and what it
makes of the outcome of a call. -/
structure CountingBreaker (B : Type u) (τ : Type v) (ω : Type w) where
  state : B → BreakerState
  failureCount : B → ℕ
  threshold : B → ℕ
  allow : B → τ → Option B
  settle : B → τ → ω → B
  failed : ω → Bool

/-- How a breaker counts. -/
structure CountsFailures (ops : CountingBreaker B τ ω) : Prop where
  allow_count : ∀ {breaker now admitted}, ops.allow breaker now = some admitted →
    ops.failureCount admitted = ops.failureCount breaker
  allow_state : ∀ {breaker now admitted}, ops.allow breaker now = some admitted →
    ops.state admitted ≠ .opened
  failed_count : ∀ breaker now {outcome}, ops.failed outcome = true →
    ops.failureCount (ops.settle breaker now outcome) ≤ ops.failureCount breaker + 1
  failed_state : ∀ breaker now {outcome}, ops.failed outcome = true →
    ops.state breaker ≠ .opened → ops.state (ops.settle breaker now outcome) = .opened →
      ops.threshold (ops.settle breaker now outcome) ≤
        ops.failureCount (ops.settle breaker now outcome)
  worked_count : ∀ breaker now {outcome}, ops.failed outcome = false →
    ops.failureCount (ops.settle breaker now outcome) =
      if ops.state breaker = .halfOpen then 0 else ops.failureCount breaker
  worked_state : ∀ breaker now {outcome}, ops.failed outcome = false →
    ops.state breaker ≠ .opened → ops.state (ops.settle breaker now outcome) ≠ .opened

/-- What happens in front of a breaker: a call asks to be let through, and one that was is over
or is cancelled. -/
inductive CallEvent (τ : Type v) (ω : Type w)
  | ask (now : τ)
  | finish (now : τ) (outcome : ω)
  | cancel

/-- A breaker with the number of its calls that are not over, and the failures in a row that the
finished ones end with. -/
structure WatchedBreaker (B : Type u) where
  breaker : B
  running : ℕ := 0
  failuresInRow : ℕ := 0

/-- A breaker that is opened at its threshold has counted that many. -/
theorem threshold_le_of_opens {threshold failureCount : ℕ} {before : BreakerState}
    (hbefore : before ≠ .opened)
    (hafter : (if threshold ≤ failureCount then .opened else before) = BreakerState.opened) :
    threshold ≤ failureCount := by
  by_contra hbelow
  rw [if_neg hbelow] at hafter
  exact hbefore hafter

namespace CountingBreaker

variable (ops : CountingBreaker B τ ω)

/-- What an event does. Only a call that was let through can be over. -/
def step (watched : WatchedBreaker B) : CallEvent τ ω → WatchedBreaker B
  | .ask now =>
      match ops.allow watched.breaker now with
      | some admitted => { watched with breaker := admitted, running := watched.running + 1 }
      | none => watched
  | .finish now outcome =>
      if watched.running = 0 then watched
      else
        { breaker := ops.settle watched.breaker now outcome
          running := watched.running - 1
          failuresInRow := if ops.failed outcome then watched.failuresInRow + 1 else 0 }
  | .cancel => { watched with running := watched.running - 1 }

/-- The moments of a run from a breaker that no call has been asked of. -/
def run (start : B) (events : List (CallEvent τ ω)) : List (WatchedBreaker B × CallEvent τ ω) :=
  moments ops.step { breaker := start } events

/-- The event is a call that is over and has worked. -/
def Works (watched : WatchedBreaker B) : CallEvent τ ω → Prop
  | .finish _ outcome => watched.running ≠ 0 ∧ ops.failed outcome = false
  | _ => False

/-- The breaker opens only after a row of failures as long as its threshold, and a success
resets its count. -/
structure OpensAfterRow (moment : WatchedBreaker B × CallEvent τ ω) : Prop where
  opens : ops.state moment.1.breaker ≠ .opened →
    ops.state (ops.step moment.1 moment.2).breaker = .opened →
      ops.threshold (ops.step moment.1 moment.2).breaker ≤
        (ops.step moment.1 moment.2).failuresInRow
  resets : ops.Works moment.1 moment.2 →
    ops.failureCount (ops.step moment.1 moment.2).breaker = 0

/-- A success finds nothing counted, or the breaker on a probe. -/
def SuccessFindsNothing (moment : WatchedBreaker B × CallEvent τ ω) : Prop :=
  ops.Works moment.1 moment.2 →
    ops.failureCount moment.1.breaker = 0 ∨ ops.state moment.1.breaker = .halfOpen

variable {ops}

/-- A success resets the count exactly when it finds nothing counted. -/
theorem resets_iff (hcounts : CountsFailures ops) (moment : WatchedBreaker B × CallEvent τ ω) :
    (ops.Works moment.1 moment.2 →
        ops.failureCount (ops.step moment.1 moment.2).breaker = 0) ↔
      ops.SuccessFindsNothing moment := by
  obtain ⟨watched, event⟩ := moment
  apply forall_congr'
  intro hworks
  cases event with
  | ask now => cases hworks
  | cancel => cases hworks
  | finish now outcome =>
      obtain ⟨hrunning, hworked⟩ := hworks
      simp only [step, if_neg hrunning]
      rw [hcounts.worked_count watched.breaker now hworked]
      by_cases hhalf : ops.state watched.breaker = .halfOpen
      · simp [hhalf]
      · simp [hhalf]

/-- No more is counted than the finished calls failed in a row. -/
def CountsRow (ops : CountingBreaker B τ ω) (watched : WatchedBreaker B) : Prop :=
  ops.failureCount watched.breaker ≤ watched.failuresInRow

theorem CountsRow.step (hcounts : CountsFailures ops) {watched : WatchedBreaker B}
    {event : CallEvent τ ω} (hrow : CountsRow ops watched)
    (hquiet : ops.SuccessFindsNothing (watched, event)) :
    CountsRow ops (ops.step watched event) := by
  have hresets := (resets_iff hcounts (watched, event)).mpr hquiet
  unfold CountsRow at hrow ⊢
  cases event with
  | cancel => exact hrow
  | ask now =>
      simp only [CountingBreaker.step]
      cases hallow : ops.allow watched.breaker now with
      | none => exact hrow
      | some admitted => exact (hcounts.allow_count hallow).le.trans hrow
  | finish now outcome =>
      by_cases hrunning : watched.running = 0
      · simp only [CountingBreaker.step, if_pos hrunning]
        exact hrow
      · cases hfailed : ops.failed outcome with
        | true =>
            have hadds := hcounts.failed_count watched.breaker now hfailed
            simp only [CountingBreaker.step, if_neg hrunning, hfailed, if_true]
            omega
        | false =>
            have hzero := hresets ⟨hrunning, hfailed⟩
            rw [hzero]
            exact Nat.zero_le _

/-- A breaker that counts no more than the row opens only after a row. -/
theorem CountsRow.opens (hcounts : CountsFailures ops) {watched : WatchedBreaker B}
    {event : CallEvent τ ω} (hrow : CountsRow ops watched)
    (hbefore : ops.state watched.breaker ≠ .opened)
    (hafter : ops.state (ops.step watched event).breaker = .opened) :
    ops.threshold (ops.step watched event).breaker ≤ (ops.step watched event).failuresInRow := by
  unfold CountsRow at hrow
  cases event with
  | cancel => exact absurd hafter hbefore
  | ask now =>
      simp only [CountingBreaker.step] at hafter
      cases hallow : ops.allow watched.breaker now with
      | none =>
          rw [hallow] at hafter
          exact absurd hafter hbefore
      | some admitted =>
          rw [hallow] at hafter
          exact absurd hafter (hcounts.allow_state hallow)
  | finish now outcome =>
      by_cases hrunning : watched.running = 0
      · simp only [CountingBreaker.step, if_pos hrunning] at hafter
        exact absurd hafter hbefore
      · simp only [CountingBreaker.step, if_neg hrunning] at hafter ⊢
        cases hfailed : ops.failed outcome with
        | true =>
            have hthreshold := hcounts.failed_state watched.breaker now hfailed hbefore hafter
            have hadds := hcounts.failed_count watched.breaker now hfailed
            rw [if_pos rfl]
            omega
        | false => exact absurd hafter (hcounts.worked_state watched.breaker now hfailed hbefore)

theorem opensAfterRow_moments_iff (hcounts : CountsFailures ops) {watched : WatchedBreaker B}
    (hrow : CountsRow ops watched) (events : List (CallEvent τ ω)) :
    (∀ moment ∈ moments ops.step watched events, ops.OpensAfterRow moment) ↔
      ∀ moment ∈ moments ops.step watched events, ops.SuccessFindsNothing moment := by
  induction events generalizing watched with
  | nil => simp
  | cons event rest ih =>
      rw [moments_cons, List.forall_mem_cons, List.forall_mem_cons]
      constructor
      · rintro ⟨hfirst, hrest⟩
        have hquiet := (resets_iff hcounts (watched, event)).mp hfirst.resets
        exact ⟨hquiet, (ih (hrow.step hcounts hquiet)).mp hrest⟩
      · rintro ⟨hquiet, hrest⟩
        exact ⟨⟨hrow.opens hcounts, (resets_iff hcounts (watched, event)).mpr hquiet⟩,
          (ih (hrow.step hcounts hquiet)).mpr hrest⟩

/-- Along a run that starts with nothing counted, the breaker opens only after rows of failures
and successes reset it exactly when every success finds nothing counted. -/
theorem opensAfterRow_run_iff (hcounts : CountsFailures ops) {start : B}
    (hstart : ops.failureCount start = 0) (events : List (CallEvent τ ω)) :
    (∀ moment ∈ ops.run start events, ops.OpensAfterRow moment) ↔
      ∀ moment ∈ ops.run start events, ops.SuccessFindsNothing moment :=
  opensAfterRow_moments_iff hcounts (show CountsRow ops { breaker := start } from hstart.le) events

end CountingBreaker

end Goveling.Math
