/-
# Estimates that outlive an outage

A routing service that answers every request for a route alike, whenever it
answers, is cached without loss as long as only its answers are cached. The cache
also takes the estimates that stand in for an answer during an outage, and serves
them when the service is back: the cached reader agrees with the robust one
exactly as long as no estimate lies under the key.
-/

import Goveling.Optimizer.RoutingCache

namespace Goveling.Optimizer

open Goveling.Math Goveling.Python

/-! ## The service -/

/-- A service whose answers depend on the rounded endpoints and the mode, and not on the
direction. -/
structure FixedService where
  distanceKm : Endpoint → Endpoint → String → ℚ
  durationMinutes : Endpoint → Endpoint → String → ℚ
  distanceKm_symm : ∀ p q mode, distanceKm p q mode = distanceKm q p mode
  durationMinutes_symm : ∀ p q mode, durationMinutes p q mode = durationMinutes q p mode

namespace FixedService

variable (service : FixedService)

/-- How the answer to a call looks. -/
def view (call : RouteCall) : RouteView where
  distanceKm :=
    some (service.distanceKm (endpointOf call.origin) (endpointOf call.destination) call.mode)
  durationMinutes :=
    some (service.durationMinutes (endpointOf call.origin) (endpointOf call.destination) call.mode)
  fallbackUsed := false

/-- Whenever an attempt of the call is answered, it is answered by the service. -/
def Answers (call : RouteCall) : Prop :=
  ∀ n result, (call.attempts n).answer? = some result → routeView result = service.view call

/-- Every entry is an estimate or the answer to the calls with its key. -/
def Explains (cache : OrderedMap String PyVal) : Prop :=
  ∀ entry ∈ cache.entries, ∃ route, entry.2 = .dict route ∧
    ((routeView route).fallbackUsed = true ∨
      ∀ call : RouteCall, call.key = entry.1 → routeView route = service.view call)

variable {service}

theorem explains_empty : service.Explains .empty := by
  intro entry hentry
  cases hentry

/-- Calls with the same key have the same answer. -/
theorem view_eq_of_key_eq {call call' : RouteCall} (hkey : call.key = call'.key) :
    service.view call = service.view call' := by
  unfold view
  obtain ⟨hmode, ⟨horigin, hdestination⟩ | ⟨horigin, hdestination⟩⟩ := getCacheKey_inj hkey
  · rw [hmode, horigin, hdestination]
  · rw [hmode, horigin, hdestination, service.distanceKm_symm, service.durationMinutes_symm]

end FixedService

/-! ## Histories -/

/-- The calls of a history without a multimodal router, with the optimizer each one meets. -/
def cachedHistory (globe : Globe) (start : HybridOptimizerV31) (calls : List RouteCall) :
    List (HybridOptimizerV31 × RouteCall) :=
  moments (fun optimizer call => (routingServiceCached globe optimizer call none).2) start calls

/-- How a reply looks, if it is a route. -/
def replyView : Except PyError PyVal → Option RouteView
  | .ok (.dict route) => some (routeView route)
  | _ => none

namespace RouteMoment

/-- The service is up and the breaker is closed: the first attempt would be answered. -/
def Up (moment : HybridOptimizerV31 × RouteCall) : Prop :=
  moment.1.routingCircuitBreaker.isClosed = true ∧ (moment.2.attempts 0).answer?.isSome = true

/-- The cached reader returns a route that looks like the one of the robust reader. -/
def Transparent (globe : Globe) (moment : HybridOptimizerV31 × RouteCall) : Prop :=
  replyView (routingServiceCached globe moment.1 moment.2 none).1 =
    replyView ((routingServiceRobust globe moment.1.routingCircuitBreaker moment.2).1.map .dict)

/-- An estimate lies under the key of the call. -/
def FindsEstimate (moment : HybridOptimizerV31 × RouteCall) : Prop :=
  ∃ route, moment.1.distanceCache.get? moment.2.key = some (.dict route) ∧
    (routeView route).fallbackUsed = true

end RouteMoment

section History

variable {globe : Globe} {service : FixedService}

/-- A call stores an answer, an estimate or nothing. -/
theorem FixedService.Explains.step {optimizer : HybridOptimizerV31} {call : RouteCall}
    (hexplains : service.Explains optimizer.distanceCache) (hanswers : service.Answers call) :
    service.Explains (routingServiceCached globe optimizer call none).2.distanceCache := by
  unfold routingServiceCached
  split
  · exact hexplains
  · rcases distanceCache_answerRobustly globe optimizer optimizer.distanceCache call with
      ⟨result, hreply, -, hcache⟩ | ⟨-, hcache⟩
    · dsimp only
      rw [hcache]
      intro entry hentry
      rcases OrderedMap.mem_setEntries (entries_limitCache_subset _ hentry) with rfl | hold
      · refine ⟨result, rfl, ?_⟩
        rcases routingServiceRobust_cases globe optimizer.routingCircuitBreaker call with
          ⟨n, answer, hanswer, hanswered⟩ | hestimated
        · rw [hreply] at hanswered
          cases hanswered
          refine .inr fun other hkey => ?_
          rw [hanswers n result hanswer, FixedService.view_eq_of_key_eq hkey]
        · rw [hreply] at hestimated
          exact .inl (emergencyRoutingFallback_eq_ok hestimated.symm).1
      · exact hexplains entry hold
    · dsimp only
      rw [hcache]
      exact hexplains

theorem explains_cachedHistory {start : HybridOptimizerV31} {calls : List RouteCall}
    (hstart : service.Explains start.distanceCache)
    (hservice : ∀ call ∈ calls, service.Answers call) :
    ∀ moment ∈ cachedHistory globe start calls,
      service.Explains moment.1.distanceCache ∧ service.Answers moment.2 := by
  induction calls generalizing start with
  | nil => simp [cachedHistory]
  | cons call rest ih =>
      obtain ⟨hcall, hrest⟩ := List.forall_mem_cons.mp hservice
      exact List.forall_mem_cons.mpr ⟨⟨hstart, hcall⟩, ih (hstart.step hcall) hrest⟩

/-- A route with a number for its duration can be cached. -/
theorem exists_isValidRoute {route : PyDict} {minutes : ℚ}
    (hminutes : (routeView route).durationMinutes = some minutes) :
    ∃ valid, isValidRoute route = .ok valid := by
  unfold routeView at hminutes
  unfold isValidRoute hasDuration PyDict.get
  obtain ⟨duration, hduration, hnumber⟩ := Option.bind_eq_some_iff.mp hminutes
  split
  · exact ⟨false, rfl⟩
  · rw [hduration]
    exact ⟨decide (0 < minutes), by simp [PyVal.greaterThan, hnumber]⟩

/-- A mark for a hit or a miss does not change how a route looks. -/
theorem routeView_set_cacheHit (route : PyDict) (hit : Bool) :
    routeView (route.set "cache_hit" (.bool hit)) = routeView route :=
  routeView_set (by decide) (by decide) (by decide) route _

namespace RouteMoment

variable {moment : HybridOptimizerV31 × RouteCall}

/-- The robust reader answers with the service. -/
theorem replyView_robust_of_up (hup : Up moment) (hanswers : service.Answers moment.2) :
    replyView ((routingServiceRobust globe moment.1.routingCircuitBreaker moment.2).1.map .dict) =
      some (service.view moment.2) := by
  obtain ⟨hclosed, hsome⟩ := hup
  obtain ⟨answer, hanswer⟩ := Option.isSome_iff_exists.mp hsome
  rw [routingServiceRobust_of_isClosed globe hclosed hanswer]
  exact congrArg some (hanswers 0 answer hanswer)

theorem replyView_cached_of_hit {route : PyDict}
    (hfound : moment.1.distanceCache.get? moment.2.key = some (.dict route)) :
    replyView (routingServiceCached globe moment.1 moment.2 none).1 = some (routeView route) := by
  unfold routingServiceCached
  rw [hfound]
  exact congrArg some (routeView_set_cacheHit route true)

/-- An estimate that is found is served. -/
theorem FindsEstimate.served (hfinds : FindsEstimate moment) (globe : Globe) :
    (replyView (routingServiceCached globe moment.1 moment.2 none).1).map
      RouteView.fallbackUsed = some true := by
  obtain ⟨route, hfound, hestimate⟩ := hfinds
  rw [replyView_cached_of_hit hfound]
  exact congrArg some hestimate

theorem replyView_cached_of_miss (hup : Up moment) (hanswers : service.Answers moment.2)
    (hmissing : moment.1.distanceCache.get? moment.2.key = none) :
    replyView (routingServiceCached globe moment.1 moment.2 none).1 =
      some (service.view moment.2) := by
  obtain ⟨hclosed, hsome⟩ := hup
  obtain ⟨answer, hanswer⟩ := Option.isSome_iff_exists.mp hsome
  have hview := hanswers 0 answer hanswer
  have hreply := routingServiceRobust_of_isClosed globe hclosed hanswer
  obtain ⟨valid, hvalid⟩ := exists_isValidRoute (congrArg RouteView.durationMinutes hview)
  unfold routingServiceCached answerRobustly
  rw [hmissing]
  dsimp only
  rw [hreply]
  dsimp only
  rw [hvalid, ← hview, ← routeView_set_cacheHit answer false]
  cases valid <;> rfl

/-- While the service is up, the cached reader agrees with it unless it finds an estimate. -/
theorem transparent_iff (hexplains : service.Explains moment.1.distanceCache)
    (hanswers : service.Answers moment.2) (hup : Up moment) :
    Transparent globe moment ↔ ¬ FindsEstimate moment := by
  unfold Transparent
  rw [replyView_robust_of_up hup hanswers]
  cases hfound : moment.1.distanceCache.get? moment.2.key with
  | none =>
      rw [replyView_cached_of_miss hup hanswers hfound]
      refine iff_of_true rfl ?_
      rintro ⟨route, hroute, -⟩
      rw [hfound] at hroute
      cases hroute
  | some value =>
      obtain ⟨route, rfl, hroute⟩ := hexplains _ (OrderedMap.mem_of_get?_eq_some hfound)
      rw [replyView_cached_of_hit hfound, Option.some_inj]
      constructor
      · intro hview hfinds
        have hserved := hfinds.served globe
        rw [replyView_cached_of_hit hfound, hview] at hserved
        cases hserved
      · intro hfresh
        rcases hroute with hestimate | hanswer
        · exact absurd ⟨route, hfound, hestimate⟩ hfresh
        · exact hanswer moment.2 rfl

end RouteMoment

end History

/-- Whenever the service is up and the breaker closed, the cached reader looks like the
robust one. -/
def TransparentHistory (globe : Globe) (start : HybridOptimizerV31) (calls : List RouteCall) :
    Prop :=
  ∀ moment ∈ cachedHistory globe start calls,
    RouteMoment.Up moment → RouteMoment.Transparent globe moment

/-- In every history over a service that answers alike and may fail at any moment, the
cached reader looks like the robust one whenever the service is up and the breaker is
closed, exactly when no estimate lies under the key at such a moment. -/
theorem routingServiceCached_transparent_iff (globe : Globe) (service : FixedService)
    (start : HybridOptimizerV31) (hstart : service.Explains start.distanceCache)
    (calls : List RouteCall) (hservice : ∀ call ∈ calls, service.Answers call) :
    TransparentHistory globe start calls ↔
      ∀ moment ∈ cachedHistory globe start calls,
        RouteMoment.Up moment → ¬ RouteMoment.FindsEstimate moment := by
  refine forall₂_congr fun moment hmem => forall_congr' fun hup => ?_
  obtain ⟨hexplains, hanswers⟩ := explains_cachedHistory hstart hservice moment hmem
  exact RouteMoment.transparent_iff hexplains hanswers hup

/-! ## An outage -/

/-- Every route takes ten minutes for a kilometre. -/
def steadyService : FixedService where
  distanceKm _ _ _ := 1
  durationMinutes _ _ _ := 10
  distanceKm_symm _ _ _ := rfl
  durationMinutes_symm _ _ _ := rfl

/-- A drive of one degree along the equator. -/
def driveTo (lon : ℚ) (attempts : ℕ → Attempt) : RouteCall where
  origin := (0, 0)
  destination := (0, lon)
  mode := "drive"
  attempts := attempts

/-- Every attempt from a moment on is answered. -/
def answeredAt (now : ℚ) (_ : ℕ) : Attempt where
  askedAt := now
  reply := .ok (.free [("distance_km", .float 1), ("duration_minutes", .float 10)])
  failedAt := now

/-- Every attempt fails, a second after the one before. -/
def outage (n : ℕ) : Attempt where
  askedAt := n
  reply := .error (.exception "timeout")
  failedAt := n

theorem answers_driveTo_answeredAt (lon now : ℚ) :
    steadyService.Answers (driveTo lon (answeredAt now)) := by
  intro n result hresult
  cases hresult
  rfl

theorem answers_driveTo_outage (lon : ℚ) : steadyService.Answers (driveTo lon outage) := by
  intro n result hresult
  cases hresult

/-- Without an outage the second drive is served from the cache as the service answers it. -/
theorem routingServiceCached_transparent_twice :
    TransparentHistory .equatorial {} [driveTo 1 (answeredAt 0), driveTo 1 (answeredAt 1)] := by
  refine (routingServiceCached_transparent_iff .equatorial steadyService {}
    FixedService.explains_empty _ ?_).mpr ?_
  · intro call hcall
    simp only [List.mem_cons, List.not_mem_nil, or_false] at hcall
    rcases hcall with rfl | rfl <;> exact answers_driveTo_answeredAt _ _
  · intro moment hmoment _ hfinds
    have hserved := hfinds.served .equatorial
    simp only [cachedHistory, moments_cons, moments_nil, List.mem_cons, List.not_mem_nil,
      or_false] at hmoment
    rcases hmoment with rfl | rfl
    · exact absurd hserved (by decide +kernel)
    · exact absurd hserved (by decide +kernel)

/-- An outage, a call that succeeds and closes the breaker, and the first drive again. -/
def drivesAfterOutage : List RouteCall :=
  [driveTo 1 outage, driveTo 2 (answeredAt 100), driveTo 1 (answeredAt 101)]

/-- Over a service that answers alike the last drive is served as it was estimated. -/
theorem routingServiceCached_serves_estimate :
    (∀ call ∈ drivesAfterOutage, steadyService.Answers call) ∧
      ¬ TransparentHistory .equatorial {} drivesAfterOutage := by
  constructor
  · intro call hcall
    simp only [drivesAfterOutage, List.mem_cons, List.not_mem_nil, or_false] at hcall
    rcases hcall with rfl | rfl | rfl
    · exact answers_driveTo_outage _
    · exact answers_driveTo_answeredAt _ _
    · exact answers_driveTo_answeredAt _ _
  · intro htransparent
    have hlast := (List.forall_mem_cons.mp (List.forall_mem_cons.mp
      (List.forall_mem_cons.mp htransparent).2).2).1
    have hsame := hlast ⟨by decide +kernel, rfl⟩
    revert hsame
    unfold RouteMoment.Transparent
    decide +kernel

end Goveling.Optimizer
