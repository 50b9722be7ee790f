/-
# Requests for OR-Tools one after the other

`_optimize_with_ortools` creates a service for every request, and the circuit
breaker is part of the service. No failure is remembered from one request to the
next, so whatever gets past the conversion and the health check runs the
optimizer. What the breaker promises is kept only by requests that leave it
nothing to do.
-/

import Mathlib.Data.List.Chain
import Goveling.Optimizer.OrtoolsService

namespace Goveling.Optimizer

open Goveling.Math Goveling.Python

/-- A request for `_optimize_with_ortools` and the times of the call of its service. -/
structure OrtoolsRequest where
  env : EngineEnv
  request : TripRequest
  times : CallTimes

namespace OrtoolsRequest

/-- The request is converted, and its places can be counted. -/
def converted (req : OrtoolsRequest) : Bool :=
  let conversion := req.env.convertLegacyToOrtools req.request
  conversion.success &&
    match conversion.data.item "places" >>= PyVal.len with
    | .ok _ => true
    | .error _ => false

/-- How the call of the service ends, if the request gets that far. -/
def callService (req : OrtoolsRequest) : Option ServiceOutcome :=
  if req.converted then
    some (callFreshService req.env req.times
      (req.env.convertLegacyToOrtools req.request).data).1
  else none

/-- The request as a call of the optimizer. -/
def call (req : OrtoolsRequest) : Call ℚ where
  start := req.times.startTime
  finish := req.times.finish
  result :=
    match req.callService with
    | some (.ran (.ok _)) => .succeeded
    | some (.ran (.error _)) => .failed
    | _ => .skipped

/-- The request passes the conversion and the health check. -/
def reaches (req : OrtoolsRequest) : Bool :=
  req.converted && passesFreshCheck req.env req.times

/-- A request that passes the checks runs the optimizer, which fails. -/
theorem result_call (req : OrtoolsRequest) :
    req.call.result = if req.reaches then .failed else .skipped := by
  obtain ⟨e, -, hcall⟩ := callFreshService_eq req.env req.times
    (req.env.convertLegacyToOrtools req.request).data
  cases hconverted : req.converted with
  | false => simp [call, callService, reaches, hconverted]
  | true =>
      simp only [call, callService, hconverted, if_true, hcall, reaches, Bool.true_and]
      cases passesFreshCheck req.env req.times <;> rfl

/-- The recovery timeout is over between the end of one request and the next. -/
def Rested (first second : OrtoolsRequest) : Prop :=
  60 < second.times.startTime - first.times.finish

/-- What is left to ask of the requests that reach the optimizer after a row of failures. -/
def RestedFrom (streak : Streak ℚ) (reached : List OrtoolsRequest) : Prop :=
  if streak.count < 3 then (reached.drop (2 - streak.count)).IsChain Rested
  else (∀ req ∈ reached.head?, ∀ last ∈ streak.last, 60 < req.times.startTime - last) ∧
    reached.IsChain Rested

theorem restedFrom_cons (streak : Streak ℚ) (req : OrtoolsRequest)
    (rest : List OrtoolsRequest) :
    RestedFrom streak (req :: rest) ↔
      ¬ TooEarly ({} : OrtoolsCircuitBreaker).policy streak req.times.startTime ∧
        RestedFrom ⟨streak.count + 1, some req.times.finish⟩ rest := by
  obtain ⟨count, last⟩ := streak
  have hearly : TooEarly ({} : OrtoolsCircuitBreaker).policy ⟨count, last⟩ req.times.startTime ↔
      3 ≤ count ∧ ∃ time ∈ last, req.times.startTime - time ≤ 60 := Iff.rfl
  rw [hearly]
  simp only [RestedFrom]
  by_cases hmany : 3 ≤ count
  · have hmore : ¬ count + 1 < 3 := by omega
    simp only [not_lt.mpr hmany, hmore, if_false, hmany, true_and, List.head?_cons,
      Option.mem_def, Option.some.injEq, forall_eq', List.isChain_cons, not_exists, not_and,
      not_le]
    exact Iff.rfl
  · have hfew : count < 3 := by omega
    simp only [hfew, if_true, hmany, false_and, not_false_eq_true, true_and]
    by_cases htwo : count = 2
    · subst htwo
      simp only [Nat.sub_self, List.drop_zero, List.isChain_cons, Nat.reduceAdd, lt_self_iff_false,
        if_false, Option.mem_def, Option.some.injEq, forall_eq']
      exact Iff.rfl
    · have hless : count + 1 < 3 := by omega
      have hdrop : 2 - count = (2 - (count + 1)) + 1 := by omega
      simp only [hless, if_true]
      rw [hdrop, List.drop_succ_cons]

/-- Calls of the optimizer hold off when the requests that reach it are far enough apart. -/
theorem holdsOffFrom_calls_iff (streak : Streak ℚ) (requests : List OrtoolsRequest) :
    HoldsOffFrom ({} : OrtoolsCircuitBreaker).policy streak (requests.map call) ↔
      RestedFrom streak (requests.filter reaches) := by
  induction requests generalizing streak with
  | nil =>
      simp [HoldsOffFrom, RestedFrom]
  | cons req rest ih =>
      have hresult := result_call req
      cases hreaches : req.reaches with
      | false =>
          rw [hreaches] at hresult
          have hnext : streak.next req.call = streak := by
            simp [Streak.next, hresult]
          simp only [List.map_cons, HoldsOffFrom, hresult, hnext, ih, hreaches, List.filter_cons]
          simp
      | true =>
          rw [hreaches] at hresult
          have hnext : streak.next req.call = ⟨streak.count + 1, some req.times.finish⟩ := by
            unfold Streak.next
            rw [hresult]
            rfl
          simp only [List.map_cons, HoldsOffFrom, hresult, hnext, ih, hreaches, List.filter_cons,
            if_true, restedFrom_cons, reduceCtorEq, imp_false]
          exact Iff.rfl

end OrtoolsRequest

/-- After three failures in a row the optimizer rests for the recovery timeout in
exactly those runs in which it would have rested anyway: from the third request on
that reaches it, the next one comes later than that. -/
theorem optimizeWithOrtools_holdsOff_iff (requests : List OrtoolsRequest) :
    HoldsOff ({} : OrtoolsCircuitBreaker).policy (requests.map OrtoolsRequest.call) ↔
      ((requests.filter OrtoolsRequest.reaches).drop 2).IsChain OrtoolsRequest.Rested :=
  OrtoolsRequest.holdsOffFrom_calls_iff .empty requests

/-- The same request at some time, with everything in order. -/
def requestAt (now : ℚ) : OrtoolsRequest where
  env := healthyOrtools
  request := { places := Ortools.threePois, startDate := 1, endDate := 1 }
  times := { now := now, runSeconds := 1 }

/-- Four requests within seconds: all four run the optimizer. -/
theorem optimizeWithOrtools_runs_fourth :
    ¬ HoldsOff ({} : OrtoolsCircuitBreaker).policy
      ([requestAt 1000, requestAt 1002, requestAt 1004, requestAt 1006].map
        OrtoolsRequest.call) := by
  rintro ⟨-, -, -, hfourth, -⟩
  have hearly : TooEarly ({} : OrtoolsCircuitBreaker).policy
      (((Streak.empty.next (requestAt 1000).call).next (requestAt 1002).call).next
        (requestAt 1004).call) (requestAt 1006).call.start :=
    ⟨by decide +kernel, 1005, by decide +kernel, by decide +kernel⟩
  exact absurd (hfourth hearly) (by decide +kernel)

end Goveling.Optimizer
