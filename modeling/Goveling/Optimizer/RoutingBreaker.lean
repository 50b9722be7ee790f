/-
# The circuit breaker in front of the services

`CircuitBreaker` is asked before a call and told afterwards how it ended, with the
call itself in between. Calls that were admitted before the breaker opened report
later, and a success that is reported then closes the breaker at once, whatever
opened it. As long as no success comes that late, an open breaker turns every call
away until the recovery timeout has passed since the last failure.
-/

import Goveling.Math.Breaker
import Goveling.Math.Runs
import Goveling.Python.Builtins

namespace Goveling.Optimizer

open Goveling.Math Goveling.Python

/-! ## The class -/

/-- `CircuitBreaker`. -/
structure CircuitBreaker where
  failureThreshold : ℕ := 5
  timeout : ℚ := 30
  recoveryTimeout : ℚ := 60
  failureCount : ℕ := 0
  lastFailureTime : Option ℚ := none
  state : BreakerState := .closed

namespace CircuitBreaker

/-- `is_open`, which lets a call through as a probe once the timeout is over. -/
def isOpen (breaker : CircuitBreaker) (now : ℚ) : Except PyError (Bool × CircuitBreaker) :=
  if breaker.state = .opened then
    match breaker.lastFailureTime with
    | none => .error (.typeError "unsupported operand type(s) for -: 'float' and 'NoneType'")
    | some last =>
        if breaker.recoveryTimeout < now - last then
          .ok (false, { breaker with state := .halfOpen })
        else .ok (true, breaker)
  else .ok (false, breaker)

/-- `record_success`. -/
def recordSuccess (breaker : CircuitBreaker) : CircuitBreaker :=
  { breaker with failureCount := 0, state := .closed }

/-- `record_failure`. -/
def recordFailure (breaker : CircuitBreaker) (now : ℚ) : CircuitBreaker :=
  let failureCount := breaker.failureCount + 1
  { breaker with
    failureCount := failureCount
    lastFailureTime := some now
    state := if breaker.failureThreshold ≤ failureCount then .opened else breaker.state }

/-- `is_closed`. -/
def isClosed (breaker : CircuitBreaker) : Bool := breaker.state = .closed

/-- The breaker under which a call runs, if it is admitted. -/
def allow (breaker : CircuitBreaker) (now : ℚ) : Option CircuitBreaker :=
  match breaker.isOpen now with
  | .ok (false, admitted) => some admitted
  | _ => none

/-- The recovery timeout has passed since the last failure. -/
def Recovered (breaker : CircuitBreaker) (now : ℚ) : Prop :=
  ∃ last ∈ breaker.lastFailureTime, breaker.recoveryTimeout < now - last

/-- An open breaker can say why: enough failures were counted, and the last is remembered. -/
def SaysWhy (breaker : CircuitBreaker) : Prop :=
  breaker.state = .opened →
    breaker.failureThreshold ≤ breaker.failureCount ∧ breaker.lastFailureTime ≠ none

theorem allow_of_not_opened {breaker : CircuitBreaker} (hstate : breaker.state ≠ .opened)
    (now : ℚ) : breaker.allow now = some breaker := by
  simp [allow, isOpen, hstate]

theorem allow_of_opened {breaker admitted : CircuitBreaker} {now : ℚ}
    (hopened : breaker.state = .opened) (hallowed : breaker.allow now = some admitted) :
    breaker.Recovered now ∧ admitted = { breaker with state := .halfOpen } := by
  unfold allow isOpen at hallowed
  rw [if_pos hopened] at hallowed
  cases hlast : breaker.lastFailureTime with
  | none => simp [hlast] at hallowed
  | some last =>
      rw [hlast] at hallowed
      dsimp only at hallowed
      by_cases hlate : breaker.recoveryTimeout < now - last
      · rw [if_pos hlate] at hallowed
        cases hallowed
        exact ⟨⟨last, hlast, hlate⟩, rfl⟩
      · rw [if_neg hlate] at hallowed
        cases hallowed

theorem allow_cases {breaker admitted : CircuitBreaker} {now : ℚ}
    (hallowed : breaker.allow now = some admitted) :
    breaker.state ≠ .opened ∧ admitted = breaker ∨
      breaker.Recovered now ∧ admitted = { breaker with state := .halfOpen } := by
  by_cases hopened : breaker.state = .opened
  · exact .inr (allow_of_opened hopened hallowed)
  · rw [allow_of_not_opened hopened] at hallowed
    cases hallowed
    exact .inl ⟨hopened, rfl⟩

theorem saysWhy_allow {breaker admitted : CircuitBreaker} {now : ℚ}
    (hallowed : breaker.allow now = some admitted) : admitted.SaysWhy := by
  rcases allow_cases hallowed with ⟨hstate, rfl⟩ | ⟨-, rfl⟩
  · exact fun hopened => absurd hopened hstate
  · exact nofun

theorem saysWhy_recordSuccess (breaker : CircuitBreaker) : breaker.recordSuccess.SaysWhy := nofun

theorem SaysWhy.recordFailure {breaker : CircuitBreaker} (hwhy : breaker.SaysWhy) (now : ℚ) :
    (breaker.recordFailure now).SaysWhy := by
  intro hopened
  refine ⟨?_, nofun⟩
  show breaker.failureThreshold ≤ breaker.failureCount + 1
  by_cases hthreshold : breaker.failureThreshold ≤ breaker.failureCount + 1
  · exact hthreshold
  · simp only [CircuitBreaker.recordFailure, if_neg hthreshold] at hopened
    exact (hwhy hopened).1.trans (Nat.le_succ _)

theorem state_recordFailure_of_opened {breaker : CircuitBreaker}
    (hopened : breaker.state = .opened) (now : ℚ) :
    (breaker.recordFailure now).state = .opened := by
  simp [CircuitBreaker.recordFailure, hopened]

/-- A breaker that turns a call away stays as it is. -/
theorem eq_of_isOpen {breaker same : CircuitBreaker} {now : ℚ}
    (hopen : breaker.isOpen now = .ok (true, same)) : same = breaker := by
  unfold isOpen at hopen
  split at hopen
  · split at hopen
    · cases hopen
    · split at hopen
      · cases hopen
      · cases hopen
        rfl
  · cases hopen

/-- A breaker that has its reasons can always say whether it is open. -/
theorem SaysWhy.isOpen_cases {breaker : CircuitBreaker} (hwhy : breaker.SaysWhy) (now : ℚ) :
    breaker.isOpen now = .ok (true, breaker) ∨
      ∃ admitted, breaker.isOpen now = .ok (false, admitted) ∧
        breaker.allow now = some admitted := by
  unfold allow
  by_cases hopened : breaker.state = .opened
  · obtain ⟨-, hlast⟩ := hwhy hopened
    obtain ⟨last, hlast⟩ := Option.ne_none_iff_exists'.mp hlast
    unfold isOpen
    rw [if_pos hopened, hlast]
    dsimp only
    by_cases hlate : breaker.recoveryTimeout < now - last
    · rw [if_pos hlate]
      exact .inr ⟨_, rfl, rfl⟩
    · rw [if_neg hlate]
      exact .inl rfl
  · refine .inr ⟨breaker, ?_, ?_⟩ <;> simp [isOpen, hopened]

end CircuitBreaker

/-! ## Calls in flight -/

/-- A breaker with the number of calls that it has admitted and that have not reported yet. -/
structure SharedBreaker where
  breaker : CircuitBreaker
  inFlight : ℕ := 0

/-- What can happen next: a call asks, or one that is in flight reports. -/
inductive BreakerEvent
  | check (now : ℚ)
  | success
  | failure (now : ℚ)
  deriving DecidableEq

namespace SharedBreaker

/-- The breaker after an event. Without calls in flight nobody reports. -/
def step (shared : SharedBreaker) : BreakerEvent → SharedBreaker
  | .check now =>
      match shared.breaker.allow now with
      | some admitted => { breaker := admitted, inFlight := shared.inFlight + 1 }
      | none => shared
  | .success =>
      if 0 < shared.inFlight then
        { breaker := shared.breaker.recordSuccess, inFlight := shared.inFlight - 1 }
      else shared
  | .failure now =>
      if 0 < shared.inFlight then
        { breaker := shared.breaker.recordFailure now, inFlight := shared.inFlight - 1 }
      else shared

/-- A breaker nobody has asked yet. -/
def fresh (failureThreshold : ℕ) (timeout recoveryTimeout : ℚ) : SharedBreaker where
  breaker :=
    { failureThreshold := failureThreshold
      timeout := timeout
      recoveryTimeout := recoveryTimeout }

end SharedBreaker

/-- A moment of an interleaving. -/
abbrev BreakerMoment := SharedBreaker × BreakerEvent

namespace BreakerMoment

/-- A call asks and is admitted. -/
def Admits (moment : BreakerMoment) : Prop :=
  ∃ now, moment.2 = .check now ∧ (moment.1.breaker.allow now).isSome

/-- A call asks after the recovery timeout has passed since the last failure. -/
def RestIsOver (moment : BreakerMoment) : Prop :=
  ∃ now, moment.2 = .check now ∧ moment.1.breaker.Recovered now

/-- A call in flight reports a success to a breaker that has been opened meanwhile. -/
def LateSuccess (moment : BreakerMoment) : Prop :=
  moment.2 = .success ∧ 0 < moment.1.inFlight ∧ moment.1.breaker.state = .opened

end BreakerMoment

/-- From the moment the breaker is open, no call is admitted until one asks after the
recovery timeout has passed since the last failure. -/
def HoldsOffCalls (interleaving : List BreakerMoment) : Prop :=
  Whenever (fun moment => moment.1.breaker.state = .opened)
    (Unless (fun moment => ¬ moment.Admits) BreakerMoment.RestIsOver) interleaving

namespace SharedBreaker

/-- Every step leaves an open breaker with its reasons. -/
theorem saysWhy_step {shared : SharedBreaker} (hwhy : shared.breaker.SaysWhy)
    (event : BreakerEvent) : (shared.step event).breaker.SaysWhy := by
  cases event with
  | check now =>
      unfold step
      dsimp only
      split
      · rename_i admitted hallowed
        exact CircuitBreaker.saysWhy_allow hallowed
      · exact hwhy
  | success =>
      unfold step
      dsimp only
      split
      · exact CircuitBreaker.saysWhy_recordSuccess _
      · exact hwhy
  | failure now =>
      unfold step
      dsimp only
      split
      · exact hwhy.recordFailure now
      · exact hwhy

/-- An open breaker stays open until a call is admitted or a late success comes. -/
theorem opened_step {shared : SharedBreaker} {event : BreakerEvent}
    (hopened : shared.breaker.state = .opened)
    (hrejected : ¬ BreakerMoment.Admits (shared, event))
    (hearly : ¬ BreakerMoment.LateSuccess (shared, event)) :
    (shared.step event).breaker.state = .opened := by
  cases event with
  | check now =>
      unfold step
      dsimp only
      split
      · rename_i admitted hallowed
        exact absurd ⟨now, rfl, by simp [hallowed]⟩ hrejected
      · exact hopened
  | success =>
      unfold step
      dsimp only
      split
      · rename_i hflight
        exact absurd ⟨rfl, hflight, hopened⟩ hearly
      · exact hopened
  | failure now =>
      unfold step
      dsimp only
      split
      · exact CircuitBreaker.state_recordFailure_of_opened hopened now
      · exact hopened

/-- Without late successes an open breaker holds off calls. -/
theorem unless_of_opened (shared : SharedBreaker) (events : List BreakerEvent)
    (hopened : shared.breaker.state = .opened)
    (hearly : ∀ moment ∈ moments step shared events, ¬ BreakerMoment.LateSuccess moment) :
    Unless (fun moment => ¬ BreakerMoment.Admits moment) BreakerMoment.RestIsOver
      (moments step shared events) := by
  induction events generalizing shared with
  | nil => trivial
  | cons event rest ih =>
      obtain ⟨hfirst, hrest⟩ := List.forall_mem_cons.mp hearly
      by_cases hadmits : BreakerMoment.Admits (shared, event)
      · obtain ⟨now, hcheck, hsome⟩ := hadmits
        obtain ⟨admitted, hallowed⟩ := Option.isSome_iff_exists.mp hsome
        exact .inl ⟨now, hcheck, (CircuitBreaker.allow_of_opened hopened hallowed).1⟩
      · exact .inr ⟨hadmits, ih _ (opened_step hopened hadmits hfirst) hrest⟩

/-- A late success lets the next call in, however early it asks. -/
theorem admits_after_lateSuccess {shared : SharedBreaker}
    (hlate : BreakerMoment.LateSuccess (shared, .success)) (now : ℚ) :
    BreakerMoment.Admits (shared.step .success, .check now) := by
  obtain ⟨-, hflight, -⟩ := hlate
  refine ⟨now, rfl, ?_⟩
  have hclosed : (shared.step .success).breaker.state ≠ .opened := by
    simp [step, hflight, CircuitBreaker.recordSuccess]
  rw [CircuitBreaker.allow_of_not_opened hclosed]
  rfl

end SharedBreaker

/-- In every interleaving an open breaker has its reasons, and in those without a late
success it holds off calls. -/
theorem sharedBreaker_holdsOff (failureThreshold : ℕ) (timeout recoveryTimeout : ℚ)
    (events : List BreakerEvent) :
    (runEnd SharedBreaker.step (.fresh failureThreshold timeout recoveryTimeout)
        events).breaker.SaysWhy ∧
      ((∀ moment ∈ moments SharedBreaker.step (.fresh failureThreshold timeout recoveryTimeout)
          events, ¬ BreakerMoment.LateSuccess moment) →
        HoldsOffCalls (moments SharedBreaker.step
          (.fresh failureThreshold timeout recoveryTimeout) events)) := by
  constructor
  · have hfresh : (SharedBreaker.fresh failureThreshold timeout recoveryTimeout).breaker.SaysWhy :=
      nofun
    have hstep : ∀ (shared : SharedBreaker) (event : BreakerEvent),
        shared.breaker.SaysWhy → (shared.step event).breaker.SaysWhy :=
      fun _ event hwhy => SharedBreaker.saysWhy_step hwhy event
    exact runEnd_invariant hstep hfresh events
  · exact whenever_moments SharedBreaker.unless_of_opened _ events

/-! ## Three calls in flight -/

/-- Three calls are admitted; the failures of two open the breaker. -/
def twoFailuresInFlight : List BreakerEvent :=
  [.check 0, .check 0, .check 0, .failure 1, .failure 2]

/-- The breaker turns the next call away, and lets one through after the timeout. -/
theorem sharedBreaker_holdsOff_inTime :
    HoldsOffCalls (moments SharedBreaker.step (.fresh 2 15 60)
      (twoFailuresInFlight ++ [.check 3, .check 63])) := by
  refine (sharedBreaker_holdsOff 2 15 60 (twoFailuresInFlight ++ [.check 3, .check 63])).2 ?_
  intro moment hmoment hlate
  obtain ⟨before, after, hevents, -⟩ := mem_moments_iff.mp hmoment
  have hsuccess : BreakerEvent.success ∈ twoFailuresInFlight ++ [.check 3, .check 63] := by
    rw [hevents, hlate.1]
    exact List.mem_append_right _ List.mem_cons_self
  exact absurd hsuccess (by decide +kernel)

/-- The third call succeeds after the breaker has opened: a second later a call is admitted. -/
theorem sharedBreaker_admits_early :
    ¬ HoldsOffCalls (moments SharedBreaker.step (.fresh 2 15 60)
      (twoFailuresInFlight ++ [.success, .check 3])) := by
  rintro ⟨-, -, -, -, -, hopened, -⟩
  rcases hopened (by decide +kernel) with ⟨now, hcheck, -⟩ |
    ⟨-, ⟨now, hcheck, hrecovered⟩ | ⟨hrejected, -⟩⟩
  · cases hcheck
  · cases hcheck
    obtain ⟨last, hlast, hlate⟩ := hrecovered
    cases hlast
    exact absurd hlate (by decide +kernel)
  · exact hrejected ⟨3, rfl, by decide +kernel⟩

end Goveling.Optimizer
