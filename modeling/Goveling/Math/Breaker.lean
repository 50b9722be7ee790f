/-
# Circuit breakers

A circuit breaker stands in front of a call. It counts failures and opens when
there are enough of them; an open breaker turns calls away until some time has
passed since the last failure, and then lets one through as a probe.

What a breaker is for is a property of the calls and not of its fields: after so
many failures in a row nothing runs for a while. `HoldsOff` states it on the list
of calls, and a breaker that serves all of them has it.
-/

import Mathlib.Algebra.Order.Group.Defs
import Mathlib.Order.Defs.LinearOrder

namespace Goveling.Math

universe u

/-- The states of a circuit breaker. -/
inductive BreakerState
  | closed | opened | halfOpen
  deriving DecidableEq

/-- The name of a state. -/
def BreakerState.text : BreakerState → String
  | .closed => "CLOSED"
  | .opened => "OPEN"
  | .halfOpen => "HALF_OPEN"

/-- How many failures open a breaker, and for how long. -/
structure BreakerPolicy (τ : Type u) where
  threshold : ℕ
  timeout : τ

/-- A breaker that counts failures. A success is forgotten unless it answers a probe. -/
structure Breaker (τ : Type u) where
  failureCount : ℕ
  lastFailure : Option τ
  state : BreakerState

/-- How a call ended. -/
inductive CallResult
  | skipped | failed | succeeded
  deriving DecidableEq

/-- A call with the times it was asked for and finished at. -/
structure Call (τ : Type u) where
  start : τ
  finish : τ
  result : CallResult

/-- The failures in a row that the calls so far end with, and the last failure. -/
structure Streak (τ : Type u) where
  count : ℕ
  last : Option τ

namespace Streak

variable {τ : Type u}

/-- Before the first call. -/
def empty : Streak τ := ⟨0, none⟩

/-- Calls that were skipped do not break a row of failures. -/
def next (streak : Streak τ) (call : Call τ) : Streak τ :=
  match call.result with
  | .skipped => streak
  | .failed => ⟨streak.count + 1, some call.finish⟩
  | .succeeded => ⟨0, streak.last⟩

end Streak

section Calls

variable {τ : Type u} [LE τ] [Sub τ] (policy : BreakerPolicy τ)

/-- At this time a call comes too early after a row of failures. -/
def TooEarly (streak : Streak τ) (start : τ) : Prop :=
  policy.threshold ≤ streak.count ∧ ∃ last ∈ streak.last, start - last ≤ policy.timeout

/-- Calls that come too early after what came before are skipped. -/
def HoldsOffFrom : Streak τ → List (Call τ) → Prop
  | _, [] => True
  | streak, call :: rest =>
      (TooEarly policy streak call.start → call.result = .skipped) ∧
        HoldsOffFrom (streak.next call) rest

/-- After a threshold of failures in a row no call runs until the timeout has passed. -/
def HoldsOff (calls : List (Call τ)) : Prop := HoldsOffFrom policy .empty calls

end Calls

namespace Breaker

variable {τ : Type u}

/-- A breaker before its first call. -/
def fresh : Breaker τ := ⟨0, none, .closed⟩

/-- A breaker opens only on a failure, so an open one remembers one. -/
def WellFormed (breaker : Breaker τ) : Prop :=
  breaker.state = .opened → breaker.lastFailure ≠ none

/-- The breaker after a call that succeeded. -/
def succeed (breaker : Breaker τ) : Breaker τ :=
  if breaker.state = .halfOpen then { breaker with failureCount := 0, state := .closed }
  else breaker

/-- The breaker after a call that failed. -/
def fail (policy : BreakerPolicy τ) (finish : τ) (breaker : Breaker τ) : Breaker τ where
  failureCount := breaker.failureCount + 1
  lastFailure := some finish
  state := if policy.threshold ≤ breaker.failureCount + 1 then .opened else breaker.state

theorem wellFormed_fresh : WellFormed (fresh : Breaker τ) := nofun

theorem WellFormed.succeed {breaker : Breaker τ} (hwell : breaker.WellFormed) :
    breaker.succeed.WellFormed := by
  intro hopened
  unfold Breaker.succeed at hopened ⊢
  split
  · rename_i hhalf
    simp [hhalf] at hopened
  · rename_i hother
    exact hwell (by simpa [hother] using hopened)

theorem wellFormed_fail (policy : BreakerPolicy τ) (finish : τ) (breaker : Breaker τ) :
    (breaker.fail policy finish).WellFormed := by
  intro _ hnone
  simp [fail] at hnone

section Admission

variable [LinearOrder τ] [Sub τ] (policy : BreakerPolicy τ)

/-- The timeout has passed since the last failure. -/
def Recovered (now : τ) (breaker : Breaker τ) : Prop :=
  ∃ last ∈ breaker.lastFailure, policy.timeout < now - last

instance (now : τ) (breaker : Breaker τ) : Decidable (breaker.Recovered policy now) :=
  inferInstanceAs (Decidable (∃ last ∈ breaker.lastFailure, policy.timeout < now - last))

/-- The breaker that a call is admitted by, if it is. -/
def permit (now : τ) (breaker : Breaker τ) : Option (Breaker τ) :=
  if breaker.state = .opened then
    if breaker.Recovered policy now then some { breaker with state := .halfOpen } else none
  else some breaker

theorem permit_eq_none_iff (now : τ) (breaker : Breaker τ) :
    breaker.permit policy now = none ↔
      breaker.state = .opened ∧ ¬ breaker.Recovered policy now := by
  unfold permit
  split
  · rename_i hopened
    split <;> simp [*]
  · rename_i hother
    simp [hother]

/-- Admission changes no more than the state. -/
theorem permit_eq_some {now : τ} {breaker admitted : Breaker τ}
    (hpermit : breaker.permit policy now = some admitted) :
    admitted.failureCount = breaker.failureCount ∧
      admitted.lastFailure = breaker.lastFailure ∧ admitted.state ≠ .opened := by
  unfold permit at hpermit
  split at hpermit
  · split at hpermit
    · cases hpermit
      exact ⟨rfl, rfl, nofun⟩
    · cases hpermit
  · rename_i hother
    cases hpermit
    exact ⟨rfl, rfl, hother⟩

/-- A call that has not been admitted yet, and how it will end if it is. -/
structure Attempt (τ : Type u) where
  start : τ
  finish : τ
  works : Bool

/-- Serve a call. -/
def serve (breaker : Breaker τ) (attempt : Attempt τ) : Call τ × Breaker τ :=
  match breaker.permit policy attempt.start with
  | none => (⟨attempt.start, attempt.finish, .skipped⟩, breaker)
  | some admitted =>
      if attempt.works then (⟨attempt.start, attempt.finish, .succeeded⟩, admitted.succeed)
      else (⟨attempt.start, attempt.finish, .failed⟩, admitted.fail policy attempt.finish)

/-- Serve calls one after the other. -/
def serveAll (breaker : Breaker τ) : List (Attempt τ) → List (Call τ)
  | [] => []
  | attempt :: rest =>
      (breaker.serve policy attempt).1 :: serveAll (breaker.serve policy attempt).2 rest

/-- A breaker knows the failures its calls end with: its own count may be higher,
because a success does not reset it. -/
structure Tracks (streak : Streak τ) (breaker : Breaker τ) : Prop where
  count_le : streak.count ≤ breaker.failureCount
  last : streak.last = breaker.lastFailure
  opened : policy.threshold ≤ streak.count → breaker.state = .opened

theorem Tracks.serve (hpos : 0 < policy.threshold) {streak : Streak τ} {breaker : Breaker τ}
    (htracks : Tracks policy streak breaker) (attempt : Attempt τ) :
    Tracks policy (streak.next (breaker.serve policy attempt).1)
      (breaker.serve policy attempt).2 := by
  unfold Breaker.serve
  cases hpermit : breaker.permit policy attempt.start with
  | none => exact htracks
  | some admitted =>
      obtain ⟨hcount, hlast, -⟩ := permit_eq_some policy hpermit
      cases attempt.works with
      | true =>
          refine ⟨Nat.zero_le _, ?_, fun hle => absurd hle (Nat.not_le.mpr hpos)⟩
          have hkept : admitted.succeed.lastFailure = admitted.lastFailure := by
            unfold succeed
            split <;> rfl
          exact htracks.last.trans (hlast.symm.trans hkept.symm)
      | false =>
          have hle := htracks.count_le
          refine ⟨?_, rfl, fun hthreshold => if_pos ?_⟩
          · show streak.count + 1 ≤ admitted.failureCount + 1
            omega
          · have hrow : policy.threshold ≤ streak.count + 1 := hthreshold
            omega

theorem serve_skipped_of_tooEarly {streak : Streak τ} {breaker : Breaker τ}
    (htracks : Tracks policy streak breaker) (attempt : Attempt τ)
    (hearly : TooEarly policy streak (breaker.serve policy attempt).1.start) :
    (breaker.serve policy attempt).1.result = .skipped := by
  have hstart : (breaker.serve policy attempt).1.start = attempt.start := by
    unfold serve
    split
    · rfl
    · split <;> rfl
  rw [hstart] at hearly
  obtain ⟨hthreshold, last, hlast, hle⟩ := hearly
  have hnone : breaker.permit policy attempt.start = none := by
    refine (permit_eq_none_iff policy _ _).mpr ⟨htracks.opened hthreshold, ?_⟩
    rintro ⟨other, hother, hlt⟩
    rw [← htracks.last, hlast] at hother
    cases hother
    exact absurd hlt (not_lt.mpr hle)
  unfold serve
  rw [hnone]

theorem holdsOffFrom_serveAll (hpos : 0 < policy.threshold) {streak : Streak τ}
    {breaker : Breaker τ} (htracks : Tracks policy streak breaker)
    (attempts : List (Attempt τ)) :
    HoldsOffFrom policy streak (breaker.serveAll policy attempts) := by
  induction attempts generalizing streak breaker with
  | nil => trivial
  | cons attempt rest ih =>
      exact ⟨serve_skipped_of_tooEarly policy htracks attempt,
        ih (htracks.serve policy hpos attempt)⟩

/-- One breaker in front of all calls holds off. -/
theorem holdsOff_serveAll (hpos : 0 < policy.threshold) (attempts : List (Attempt τ)) :
    HoldsOff policy (fresh.serveAll policy attempts) :=
  holdsOffFrom_serveAll policy hpos
    ⟨Nat.le_refl 0, rfl, fun hle => absurd hle (Nat.not_le.mpr hpos)⟩ attempts

end Admission

end Breaker

end Goveling.Math
