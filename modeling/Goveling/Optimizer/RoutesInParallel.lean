/-
# Routes in parallel

`parallel_routing_calculations` starts a call of `routing_service_cached` for each pair
of places, as many at a time as the semaphore has permits. The calls share the cache, its
counters and the breaker. Whatever the order of their turns, the routes come in the order
of the pairs, each from the cache entry of its own key, from the router or the service, or
an estimate; the cache holds nothing else than before and what the calls have found; every
call is counted once; and no order gets stuck.
-/

import Goveling.Optimizer.PlacesBatch
import Goveling.Optimizer.RouteTasks

namespace Goveling.Optimizer

open Goveling.Math Goveling.Python

/-! ## The calculation -/

section Calculation

variable (globe : Globe)

/-- The estimate for the pair of a call. -/
def RouteJob.estimate (job : RouteJob) : Except PyError PyVal :=
  (job.call.estimate globe).map PyVal.dict

/-- The estimate takes the place of a call that raised. -/
def routeOrEstimate (job : RouteJob) : Except PyError PyVal → Except PyError PyVal
  | .ok route => .ok route
  | .error _ => job.estimate globe

/-- The routes of the calls. If an estimate raises, all pairs are estimated. -/
def collectRoutes (jobs : List RouteJob) (results : List (Except PyError PyVal)) :
    Except PyError (List PyVal) :=
  match (jobs.zip results).mapM fun (job, result) => routeOrEstimate globe job result with
  | .ok routes => .ok routes
  | .error _ => jobs.mapM (RouteJob.estimate globe)

/-- `parallel_routing_calculations`, with an order in which the calls take turns. -/
def parallelRoutingCalculations (optimizer : HybridOptimizerV31) (jobs : List RouteJob)
    (turns : List (Turn Unit)) : Option (Except PyError (List PyVal) × HybridOptimizerV31) := do
  let group ← (routeBody globe).run? maxConcurrentRequests (.ofJobs optimizer jobs) turns
  let results ← group.results?
  return (collectRoutes globe jobs results, group.shared)

end Calculation

/-! ## What a call promises -/

section Promises

variable (globe : Globe) (initial : OrderedMap String PyVal) (jobs : List RouteJob)

/-- The attempts before one have come to nothing. -/
def RouteCall.Unanswered (call : RouteCall) (attempt : ℕ) : Prop :=
  ∀ n < attempt, (call.attempts n).answer? = none

/-- What the robust service may reply: the first answer to an attempt, or the estimate, after at
most all attempts came to nothing. -/
inductive RouteCall.Replies (call : RouteCall) : Except PyError PyDict → Prop
  | answered (n : ℕ) (result : PyDict) (hle : n ≤ maxRetries) (hbefore : call.Unanswered n)
      (hanswer : (call.attempts n).answer? = some result) : Replies call (.ok result)
  | estimated (n : ℕ) (hle : n ≤ maxRetries + 1) (hbefore : call.Unanswered n) :
      Replies call (call.estimate globe)

/-- A route that a call may store. -/
inductive RouteJob.Finds (job : RouteJob) : PyDict → Prop
  | router (reply : Except PyError PyVal) (route : PyDict) (hreply : job.multimodal = some reply)
      (hroute : goodRoute reply = some route) : Finds job (multimodalResult route job.call.mode)
  | robust (result : PyDict) (hreply : job.call.Replies globe (.ok result)) : Finds job result

/-- What may lie in the cache: what was there before, and what a call has found for its key. -/
def KnownRoute (key : String) (value : PyVal) : Prop :=
  initial.get? key = some value ∨
    ∃ job ∈ jobs, job.call.key = key ∧ ∃ result, job.Finds globe result ∧ value = .dict result

/-- What a call may return. -/
inductive Returns (job : RouteJob) : Except PyError PyVal → Prop
  | hit (value : PyVal) (hknown : KnownRoute globe initial jobs job.call.key value) :
      Returns job (hitAnswer value)
  | router (reply : Except PyError PyVal) (route : PyDict) (hreply : job.multimodal = some reply)
      (hroute : goodRoute reply = some route) :
      Returns job (.ok (.dict (multimodalResult route job.call.mode)))
  | robust (reply : Except PyError PyDict) (hreply : job.call.Replies globe reply) :
      Returns job (missAnswer reply)

/-- What holds of the optimizer that calls share. -/
structure SoundOptimizer (optimizer : HybridOptimizerV31) : Prop where
  breaker : optimizer.routingCircuitBreaker.SaysWhy
  cache : ∀ key value, optimizer.distanceCache.get? key = some value →
    KnownRoute globe initial jobs key value

/-- What holds of a call while it waits. -/
def RouteTask.Waits (job : RouteJob) : RouteTask → Prop
  | .called => True
  | .routing reply => job.multimodal = some reply
  | .pausing attempt | .inFlight attempt => attempt ≤ maxRetries ∧ job.call.Unanswered attempt

/-- The promises of the calls. -/
def routeSpec : TaskSpec HybridOptimizerV31 RouteJob RouteTask Unit (Except PyError PyVal) where
  event job _ := job ∈ jobs
  shared := SoundOptimizer globe initial jobs
  memory := RouteTask.Waits
  result := Returns globe initial jobs

end Promises

variable {globe : Globe} {initial : OrderedMap String PyVal} {jobs : List RouteJob}
  {job : RouteJob} {optimizer optimizer' : HybridOptimizerV31} {turns : List (Turn Unit)}
  {group : RouteGroup}

/-- What a turn of a call leaves is as promised. -/
def KeptStep (globe : Globe) (initial : OrderedMap String PyVal) (jobs : List RouteJob)
    (job : RouteJob) (step : RouteStep) : Prop :=
  SoundOptimizer globe initial jobs step.1 ∧
    (routeSpec globe initial jobs).Admits job (.after step.2)

/-- The limit removes entries only. -/
theorem get?_of_get?_limitCache {cache : OrderedMap String PyVal} {key : String} {value : PyVal}
    (hvalue : (limitCache cache).get? key = some value) : cache.get? key = some value := by
  unfold limitCache at hvalue
  split at hvalue
  · have hmem := OrderedMap.mem_of_get?_eq_some hvalue
    exact OrderedMap.get?_eq_some_of_mem (cache.entries_dropFirst_subset 200 hmem)
  · exact hvalue

theorem SoundOptimizer.withBreaker (hsound : SoundOptimizer globe initial jobs optimizer)
    {breaker : CircuitBreaker} (hwhy : breaker.SaysWhy) :
    SoundOptimizer globe initial jobs (optimizer.withBreaker breaker) :=
  ⟨hwhy, hsound.cache⟩

/-- A route that a call has found may be stored. -/
theorem SoundOptimizer.store (hsound : SoundOptimizer globe initial jobs optimizer)
    (hjob : job ∈ jobs) {reply : Except PyError PyDict}
    (hreply : job.call.Replies globe reply) :
    SoundOptimizer globe initial jobs (optimizer.store job.call.key reply) := by
  unfold HybridOptimizerV31.store
  split
  · exact hsound
  · rename_i result
    split
    · refine ⟨hsound.breaker, fun key value hvalue => ?_⟩
      have hset := get?_of_get?_limitCache hvalue
      rw [OrderedMap.get?_set] at hset
      split at hset
      · rename_i hkey
        cases hset
        exact .inr ⟨job, hjob, hkey.symm, result, .robust result hreply, rfl⟩
      · exact hsound.cache key value hset
    · exact hsound

theorem keptStep_endCall (hsound : SoundOptimizer globe initial jobs optimizer)
    (hjob : job ∈ jobs) {reply : Except PyError PyDict}
    (hreply : job.call.Replies globe reply) :
    KeptStep globe initial jobs job (endCall job.call optimizer reply) :=
  ⟨hsound.store hjob hreply, .robust reply hreply⟩

/-- An attempt that came to nothing is followed by another or by the estimate. -/
theorem keptStep_retryCall (hsound : SoundOptimizer globe initial jobs optimizer)
    (hjob : job ∈ jobs) {attempt : ℕ} (hle : attempt ≤ maxRetries)
    (hbefore : job.call.Unanswered attempt)
    (hnone : (job.call.attempts attempt).answer? = none) :
    KeptStep globe initial jobs job (retryCall globe job.call optimizer attempt) := by
  have hall : job.call.Unanswered (attempt + 1) := by
    intro n hn
    rcases Nat.lt_succ_iff_lt_or_eq.mp hn with hless | rfl
    · exact hbefore n hless
    · exact hnone
  unfold retryCall
  split
  · rename_i hretry
    exact ⟨hsound, hretry, hall⟩
  · exact keptStep_endCall hsound hjob (.estimated (attempt + 1) (by omega) hall)

theorem keptStep_askService (hsound : SoundOptimizer globe initial jobs optimizer)
    (hjob : job ∈ jobs) {attempt : ℕ} (hle : attempt ≤ maxRetries)
    (hbefore : job.call.Unanswered attempt) :
    KeptStep globe initial jobs job (askService globe job.call optimizer attempt) := by
  unfold askService
  rcases hsound.breaker.isOpen_cases (job.call.attempts attempt).askedAt with
    hopen | ⟨admitted, hopen, hallowed⟩
  · rw [hopen]
    exact keptStep_endCall (hsound.withBreaker hsound.breaker) hjob
      (.estimated attempt (by omega) hbefore)
  · rw [hopen]
    exact ⟨hsound.withBreaker (CircuitBreaker.saysWhy_allow hallowed), hle, hbefore⟩

theorem keptStep_hearService (hsound : SoundOptimizer globe initial jobs optimizer)
    (hjob : job ∈ jobs) {attempt : ℕ} (hle : attempt ≤ maxRetries)
    (hbefore : job.call.Unanswered attempt) :
    KeptStep globe initial jobs job (hearService globe job.call optimizer attempt) := by
  have hsuccess := CircuitBreaker.saysWhy_recordSuccess optimizer.routingCircuitBreaker
  unfold hearService
  dsimp only
  split
  · rename_i e hreply
    refine keptStep_retryCall (hsound.withBreaker (hsound.breaker.recordFailure _)) hjob hle
      hbefore ?_
    unfold Attempt.answer?
    rw [hreply]
  · rename_i reply hreply
    have hanswer : (job.call.attempts attempt).answer? = reply.answer? := by
      unfold Attempt.answer?
      rw [hreply]
    split
    · rename_i result hresult
      exact keptStep_endCall (hsound.withBreaker hsuccess) hjob
        (.answered attempt result hle hbefore (hanswer.trans hresult))
    · rename_i hnone
      exact keptStep_retryCall (hsound.withBreaker hsuccess) hjob hle hbefore
        (hanswer.trans hnone)

/-- The multimodal branch stores what the router has found, and returns it. -/
theorem multimodalRoute_finds {cache cache' : OrderedMap String PyVal} {key mode : String}
    {reply : Except PyError PyVal} {result : Option PyDict}
    (hroute : multimodalRoute cache key mode reply = (result, cache')) :
    (cache' = cache ∨ ∃ route, goodRoute reply = some route ∧
      cache' = cache.set key (.dict (multimodalResult route mode))) ∧
    ∀ found ∈ result, ∃ route, goodRoute reply = some route ∧
      found = multimodalResult route mode := by
  unfold multimodalRoute at hroute
  split at hroute
  · cases hroute
    exact ⟨.inl rfl, nofun⟩
  · rename_i route hgood
    dsimp only at hroute
    split at hroute
    · cases hroute
      exact ⟨.inl rfl, nofun⟩
    · cases hroute
      refine ⟨.inl rfl, fun found hfound => ⟨route, hgood, ?_⟩⟩
      exact (Option.some.inj hfound).symm
    · split at hroute
      · cases hroute
        exact ⟨.inr ⟨route, hgood, rfl⟩, nofun⟩
      · cases hroute
        refine ⟨.inr ⟨route, hgood, rfl⟩, fun found hfound => ⟨route, hgood, ?_⟩⟩
        exact (Option.some.inj hfound).symm

/-- A turn of a call keeps the promises, whatever other calls did before it. -/
theorem keptStep_routeAct (hsound : SoundOptimizer globe initial jobs optimizer)
    (hjob : job ∈ jobs) {task : RouteTask} (hwaits : task.Waits job) :
    KeptStep globe initial jobs job (routeAct globe job optimizer task) := by
  have hnothing : job.call.Unanswered 0 := fun n hn => absurd hn (Nat.not_lt_zero n)
  cases task with
  | called =>
      unfold routeAct
      cases hget : optimizer.distanceCache.get? job.call.key with
      | some cached =>
          exact ⟨⟨hsound.breaker, hsound.cache⟩, .hit cached (hsound.cache _ _ hget)⟩
      | none =>
          cases hreply : job.multimodal with
          | some reply => exact ⟨hsound, hreply⟩
          | none =>
              have hmissed : SoundOptimizer globe initial jobs (optimizer.countMiss
                  optimizer.routingCircuitBreaker optimizer.distanceCache) :=
                ⟨hsound.breaker, hsound.cache⟩
              exact keptStep_askService hmissed hjob (Nat.zero_le _) hnothing
  | routing reply =>
      simp only [routeAct]
      cases hroute : multimodalRoute optimizer.distanceCache job.call.key job.call.mode reply with
      | mk result cache =>
          obtain ⟨hcache, hresult⟩ := multimodalRoute_finds hroute
          have hstored : SoundOptimizer globe initial jobs
              (optimizer.countMiss optimizer.routingCircuitBreaker cache) := by
            refine ⟨hsound.breaker, fun key value hvalue => ?_⟩
            rcases hcache with rfl | ⟨route, hgood, rfl⟩
            · exact hsound.cache key value hvalue
            · simp only [HybridOptimizerV31.countMiss] at hvalue
              rw [OrderedMap.get?_set] at hvalue
              split at hvalue
              · rename_i hkey
                cases hvalue
                exact .inr ⟨job, hjob, hkey.symm, _, .router reply route hwaits hgood, rfl⟩
              · exact hsound.cache key value hvalue
          cases result with
          | none => exact keptStep_askService hstored hjob (Nat.zero_le _) hnothing
          | some found =>
              obtain ⟨route, hgood, rfl⟩ := hresult found rfl
              exact ⟨hstored, .router reply route hwaits hgood⟩
  | pausing attempt => exact keptStep_askService hsound hjob hwaits.1 hwaits.2
  | inFlight attempt => exact keptStep_hearService hsound hjob hwaits.1 hwaits.2

theorem keptBy_routeBody (globe : Globe) (initial : OrderedMap String PyVal)
    (jobs : List RouteJob) : (routeSpec globe initial jobs).KeptBy (routeBody globe) where
  fresh _ := trivial
  act := by
    intro job optimizer task event optimizer' outcome hjob hsound hwaits hact
    have hstep : routeAct globe job optimizer task = (optimizer', outcome) :=
      Option.some.inj hact
    have hkept := keptStep_routeAct hsound hjob hwaits
    rwa [hstep] at hkept

theorem holds_run?_routes (hwhy : optimizer.routingCircuitBreaker.SaysWhy) {permits : ℕ}
    (hrun : (routeBody globe).run? permits (.ofJobs optimizer jobs) turns = some group) :
    (routeSpec globe optimizer.distanceCache jobs).Holds permits group := by
  have hshared : SoundOptimizer globe optimizer.distanceCache jobs optimizer :=
    ⟨hwhy, fun key value hvalue => .inl hvalue⟩
  have hstart : (routeSpec globe optimizer.distanceCache jobs).Holds permits
      (TaskGroup.ofJobs optimizer jobs) := TaskSpec.holds_ofJobs hshared jobs
  refine hstart.run? (keptBy_routeBody globe _ jobs) ?_ hrun
  intro turn _
  cases turn with
  | start task => trivial
  | act task event =>
      intro job hjob
      rw [TaskGroup.jobs_ofJobs] at hjob
      exact List.mem_of_getElem? hjob

/-! ## What comes back -/

/-- What comes back for a pair: what its call returns, or the estimate if the call raised. -/
def ComesBack (globe : Globe) (initial : OrderedMap String PyVal) (jobs : List RouteJob)
    (job : RouteJob) (route : PyVal) : Prop :=
  Returns globe initial jobs job (.ok route) ∨
    (∃ e, Returns globe initial jobs job (.error e)) ∧ job.estimate globe = .ok route

/-- What a call returns and what is made of it. -/
theorem comesBack_of_routeOrEstimate {result : Except PyError PyVal} {route : PyVal}
    (hreturns : Returns globe initial jobs job result)
    (hroute : routeOrEstimate globe job result = .ok route) :
    ComesBack globe initial jobs job route := by
  cases result with
  | ok found =>
      cases hroute
      exact .inl hreturns
  | error e => exact .inr ⟨⟨e, hreturns⟩, hroute⟩

/-- The routes are those of the calls, with estimates for the calls that raised. -/
theorem comesBack_zip {called : List RouteJob} {results : List (Except PyError PyVal)}
    (hresults : List.Forall₂ (Returns globe initial jobs) called results) {routes : List PyVal}
    (hroutes : List.Forall₂ (fun pair route => routeOrEstimate globe pair.1 pair.2 = .ok route)
      (called.zip results) routes) :
    List.Forall₂ (ComesBack globe initial jobs) called routes := by
  induction hresults generalizing routes with
  | nil =>
      cases hroutes
      exact .nil
  | cons hreturns hrest ih =>
      cases hroutes with
      | cons hroute hothers =>
          exact .cons (comesBack_of_routeOrEstimate hreturns hroute) (ih hothers)

/-- All pairs have their routes, or one of them cannot even be estimated. -/
theorem collectRoutes_cases {results : List (Except PyError PyVal)}
    (hresults : List.Forall₂ (Returns globe initial jobs) jobs results) :
    (∃ routes, collectRoutes globe jobs results = .ok routes ∧
        List.Forall₂ (ComesBack globe initial jobs) jobs routes) ∨
      ∃ e, collectRoutes globe jobs results = .error e ∧
        ∃ job ∈ jobs, job.estimate globe = .error e := by
  unfold collectRoutes
  cases hloop : (jobs.zip results).mapM
      fun pair => routeOrEstimate globe pair.1 pair.2 with
  | ok routes => exact .inl ⟨routes, rfl, comesBack_zip hresults (forall₂_of_mapM_eq_ok hloop)⟩
  | error e =>
      obtain ⟨⟨job, result⟩, hpair, herror⟩ := exists_of_mapM_eq_error hloop
      obtain ⟨hjob, -⟩ := List.of_mem_zip hpair
      cases hestimates : jobs.mapM (RouteJob.estimate globe) with
      | error first => exact .inr ⟨first, rfl, exists_of_mapM_eq_error hestimates⟩
      | ok estimates =>
          obtain ⟨estimate, hestimate⟩ :=
            (exists_mapM_eq_ok_iff jobs).mp ⟨estimates, hestimates⟩ job hjob
          cases result with
          | ok route => cases herror
          | error raised =>
              rw [routeOrEstimate, hestimate] at herror
              cases herror

/-- In every order of the turns the routes come in the order of the pairs, each found in the
cache under its own key, by the router or by the service, or estimated; the calls raise only
when a pair cannot be estimated; and the cache holds what it held before and what the calls have
found, each under its key. -/
theorem parallelRoutingCalculations_routes (globe : Globe) (optimizer : HybridOptimizerV31)
    (hwhy : optimizer.routingCircuitBreaker.SaysWhy) (jobs : List RouteJob)
    (turns : List (Turn Unit)) (reply : Except PyError (List PyVal))
    (optimizer' : HybridOptimizerV31)
    (hrun : parallelRoutingCalculations globe optimizer jobs turns = some (reply, optimizer')) :
    ((∃ routes, reply = .ok routes ∧
        List.Forall₂ (ComesBack globe optimizer.distanceCache jobs) jobs routes) ∨
      ∃ e, reply = .error e ∧ ∃ job ∈ jobs, job.estimate globe = .error e) ∧
    SoundOptimizer globe optimizer.distanceCache jobs optimizer' := by
  obtain ⟨group, hgroup, hrest⟩ := Option.bind_eq_some_iff.mp hrun
  obtain ⟨results, hresults, hsome⟩ := Option.bind_eq_some_iff.mp hrest
  cases hsome
  have hholds := holds_run?_routes hwhy hgroup
  have hreturns := hholds.forall₂_results hresults
  rw [TaskBody.jobs_run? hgroup, TaskGroup.jobs_ofJobs] at hreturns
  exact ⟨collectRoutes_cases hreturns, hholds.shared⟩

/-! ## Every call is counted once -/

/-- A call that has not been counted yet. -/
def uncounted : TaskState RouteTask (Except PyError PyVal) → Bool
  | .waiting | .running .called | .running (.routing _) => true
  | _ => false

/-- The calls that have been counted and those that will be. -/
def countedCalls (group : RouteGroup) : ℤ :=
  group.shared.cacheHits + group.shared.cacheMisses +
    group.tasks.countP fun task => uncounted task.state

/-- The calls that an optimizer has counted. -/
def HybridOptimizerV31.counted (optimizer : HybridOptimizerV31) : ℤ :=
  optimizer.cacheHits + optimizer.cacheMisses

/-- The calls that are counted after a turn, its own included if it still will be. -/
def RouteStep.counted (step : RouteStep) : ℤ :=
  step.1.counted + (uncounted (.after step.2)).toNat

theorem counted_endCall (call : RouteCall) (optimizer : HybridOptimizerV31)
    (reply : Except PyError PyDict) :
    RouteStep.counted (endCall call optimizer reply) = optimizer.counted := by
  unfold endCall HybridOptimizerV31.store
  cases reply with
  | error e => exact add_zero _
  | ok result =>
      dsimp only
      split <;> exact add_zero _

theorem counted_retryCall (globe : Globe) (call : RouteCall) (optimizer : HybridOptimizerV31)
    (attempt : ℕ) :
    RouteStep.counted (retryCall globe call optimizer attempt) = optimizer.counted := by
  unfold retryCall
  split
  · exact add_zero _
  · exact counted_endCall call optimizer _

theorem counted_askService (globe : Globe) (call : RouteCall) (optimizer : HybridOptimizerV31)
    (attempt : ℕ) :
    RouteStep.counted (askService globe call optimizer attempt) = optimizer.counted := by
  unfold askService
  split
  · exact counted_retryCall globe call optimizer attempt
  · exact counted_endCall call _ _
  · exact add_zero _

theorem counted_hearService (globe : Globe) (call : RouteCall) (optimizer : HybridOptimizerV31)
    (attempt : ℕ) :
    RouteStep.counted (hearService globe call optimizer attempt) = optimizer.counted := by
  unfold hearService
  dsimp only
  split
  · exact counted_retryCall globe call _ attempt
  · split
    · exact counted_endCall call _ _
    · exact counted_retryCall globe call _ attempt

theorem counted_countMiss (optimizer : HybridOptimizerV31) (breaker : CircuitBreaker)
    (cache : OrderedMap String PyVal) :
    (optimizer.countMiss breaker cache).counted = optimizer.counted + 1 :=
  (add_assoc _ _ _).symm

/-- A turn counts its call when it was not counted, and only then. -/
theorem counted_routeAct (globe : Globe) (job : RouteJob) (optimizer : HybridOptimizerV31)
    (task : RouteTask) :
    RouteStep.counted (routeAct globe job optimizer task) =
      optimizer.counted + (uncounted (.running task)).toNat := by
  have hmissed : ∀ cache, RouteStep.counted (askService globe job.call
      (optimizer.countMiss optimizer.routingCircuitBreaker cache) 0) = optimizer.counted + 1 :=
    fun cache => (counted_askService globe job.call _ 0).trans (counted_countMiss _ _ _)
  cases task with
  | called =>
      unfold routeAct
      cases optimizer.distanceCache.get? job.call.key with
      | some cached =>
          simp only [RouteStep.counted, HybridOptimizerV31.counted, HybridOptimizerV31.countHit,
            TaskState.after, uncounted, Bool.toNat_false, Bool.toNat_true]
          omega
      | none =>
          cases job.multimodal with
          | some reply => rfl
          | none => exact hmissed _
  | routing reply =>
      simp only [routeAct]
      cases multimodalRoute optimizer.distanceCache job.call.key job.call.mode reply with
      | mk result cache =>
          cases result with
          | none => exact hmissed cache
          | some found => exact (add_zero _).trans (counted_countMiss _ _ _)
  | pausing attempt =>
      exact (counted_askService globe job.call optimizer attempt).trans (add_zero _).symm
  | inFlight attempt =>
      exact (counted_hearService globe job.call optimizer attempt).trans (add_zero _).symm

theorem countedCalls_takes {permits : ℕ} {next : RouteGroup} {turn : Turn Unit}
    (htakes : TaskBody.Takes (routeBody globe) permits group turn next) :
    countedCalls next = countedCalls group := by
  have hweigh : ∀ (before after : List (Task RouteJob RouteTask (Except PyError PyVal)))
      (task : Task RouteJob RouteTask (Except PyError PyVal)),
      ((before ++ task :: after).countP fun task => uncounted task.state) =
        (before.countP fun task => uncounted task.state) +
          (after.countP fun task => uncounted task.state) + (uncounted task.state).toNat := by
    intro before after task
    rw [List.countP_append, List.countP_cons, Nat.add_assoc]
    cases uncounted task.state <;> rfl
  obtain ⟨optimizer, tasks⟩ := group
  cases htakes with
  | start before after job htasks hbusy =>
      subst htasks
      unfold countedCalls
      rw [hweigh, hweigh]
      rfl
  | act before after job task event shared outcome htasks hact =>
      subst htasks
      have hcounted := counted_routeAct globe job optimizer task
      have hstep : routeAct globe job optimizer task = (shared, outcome) :=
        Option.some.inj hact
      rw [hstep] at hcounted
      unfold countedCalls
      rw [hweigh, hweigh]
      simp only [RouteStep.counted, HybridOptimizerV31.counted] at hcounted
      push_cast
      omega

/-- In every order of the turns every call is counted once, as a hit or as a miss. -/
theorem counted_parallelRoutingCalculations (globe : Globe) (optimizer : HybridOptimizerV31)
    (jobs : List RouteJob) (turns : List (Turn Unit)) (reply : Except PyError (List PyVal))
    (optimizer' : HybridOptimizerV31)
    (hrun : parallelRoutingCalculations globe optimizer jobs turns = some (reply, optimizer')) :
    optimizer'.counted = optimizer.counted + jobs.length := by
  obtain ⟨group, hgroup, hrest⟩ := Option.bind_eq_some_iff.mp hrun
  obtain ⟨results, hresults, hsome⟩ := Option.bind_eq_some_iff.mp hrest
  cases hsome
  have hsame : countedCalls group = countedCalls (.ofJobs optimizer jobs) :=
    TaskBody.run?_invariant
      (fun other => countedCalls other = countedCalls (.ofJobs optimizer jobs))
      (fun _ _ _ _ hother htakes => (countedCalls_takes htakes).trans hother) rfl hgroup
  have hdone : (group.tasks.countP fun task => uncounted task.state) = 0 := by
    refine List.countP_eq_zero.mpr fun task htask hstate => ?_
    obtain ⟨result, hresult⟩ := TaskGroup.exists_done_of_results? hresults htask
    rw [hresult] at hstate
    cases hstate
  have hall : ((TaskGroup.ofJobs optimizer jobs : RouteGroup).tasks.countP
      fun task => uncounted task.state) = jobs.length := by
    simp [TaskGroup.ofJobs, List.countP_map, Function.comp_def, uncounted]
  unfold countedCalls at hsame
  rw [hdone, hall] at hsame
  exact (add_zero _).symm.trans hsame

/-! ## No order gets stuck -/

/-- The turns that a call still has at most. -/
def routeBudget : RouteTask → ℕ
  | .called => 2 * maxRetries + 3
  | .routing _ => 2 * maxRetries + 2
  | .pausing attempt => 2 * (maxRetries - attempt) + 2
  | .inFlight attempt => 2 * (maxRetries - attempt) + 1

theorem routeBudget_retryCall {call : RouteCall} {attempt : ℕ} {task : RouteTask}
    (hretry : retryCall globe call optimizer attempt = (optimizer', .inl task)) :
    routeBudget task ≤ 2 * (maxRetries - attempt) := by
  unfold retryCall at hretry
  split at hretry
  · cases hretry
    simp only [routeBudget]
    omega
  · cases hretry

theorem routeBudget_askService {call : RouteCall} {attempt : ℕ} {task : RouteTask}
    (hask : askService globe call optimizer attempt = (optimizer', .inl task)) :
    routeBudget task ≤ 2 * (maxRetries - attempt) + 1 := by
  unfold askService at hask
  split at hask
  · exact (routeBudget_retryCall hask).trans (Nat.le_succ _)
  · cases hask
  · cases hask
    exact le_rfl

theorem routeBudget_hearService {call : RouteCall} {attempt : ℕ} {task : RouteTask}
    (hhear : hearService globe call optimizer attempt = (optimizer', .inl task)) :
    routeBudget task ≤ 2 * (maxRetries - attempt) := by
  unfold hearService at hhear
  dsimp only at hhear
  split at hhear
  · exact routeBudget_retryCall hhear
  · split at hhear
    · cases hhear
    · exact routeBudget_retryCall hhear

/-- Every turn of a call that goes on brings it nearer to its end. -/
theorem routeBudget_routeAct {task task' : RouteTask}
    (hact : routeAct globe job optimizer task = (optimizer', .inl task')) :
    1 + routeBudget task' ≤ routeBudget task := by
  cases task with
  | called =>
      simp only [routeAct] at hact
      show 1 + routeBudget task' ≤ 2 * maxRetries + 3
      split at hact
      · cases hact
      · split at hact
        · cases hact
          exact (Nat.add_comm _ _).le
        · have hbudget := routeBudget_askService hact
          omega
  | routing reply =>
      simp only [routeAct] at hact
      show 1 + routeBudget task' ≤ 2 * maxRetries + 2
      split at hact
      · cases hact
      · have hbudget := routeBudget_askService hact
        omega
  | pausing attempt =>
      have hbudget := routeBudget_askService hact
      show 1 + routeBudget task' ≤ 2 * (maxRetries - attempt) + 2
      omega
  | inFlight attempt =>
      have hbudget := routeBudget_hearService hact
      show 1 + routeBudget task' ≤ 2 * (maxRetries - attempt) + 1
      omega

theorem affords_routeBody (globe : Globe) :
    (routeBody globe).Affords (fun _ => 1) routeBudget where
  more := by
    intro job optimizer task event optimizer' task' hact
    exact routeBudget_routeAct (Option.some.inj hact)
  last := by
    intro job optimizer task event optimizer' result _
    cases task <;> exact Nat.le_add_left 1 _

/-- No order of turns gets stuck: the calls have at most ten turns each, and whatever they have
done can be brought to an end. -/
theorem parallelRoutingCalculations_finishes (globe : Globe) (optimizer : HybridOptimizerV31)
    (jobs : List RouteJob) (turns : List (Turn Unit)) (group : RouteGroup)
    (hrun : (routeBody globe).run? maxConcurrentRequests (.ofJobs optimizer jobs) turns =
      some group) :
    turns.length ≤ jobs.length * 10 ∧
      ∃ later reply optimizer',
        parallelRoutingCalculations globe optimizer jobs (turns ++ later) =
          some (reply, optimizer') := by
  refine ⟨TaskBody.length_turns_le (affords_routeBody globe) 9 (fun _ => le_rfl) hrun, ?_⟩
  obtain ⟨later, next, results, -, hmore, hresults⟩ :=
    TaskBody.exists_results (TaskSpec.keptBy_free _) (affords_routeBody globe) (by decide)
      (fun _ _ => ⟨(), trivial, rfl⟩) (TaskSpec.holds_free hrun)
  refine ⟨later, collectRoutes globe jobs results, next.shared, ?_⟩
  have hall : (routeBody globe).run? maxConcurrentRequests (.ofJobs optimizer jobs)
      (turns ++ later) = some next := by
    rw [TaskBody.run?_append, hrun]
    exact hmore
  simp [parallelRoutingCalculations, hall, hresults]

/-! ## Two walks and a drive -/

/-- The same walk twice, once in each direction, and a drive for which the service is down. -/
def walksAndDrive : List RouteJob :=
  [{ call :=
      { origin := (0, 0)
        destination := (0, 2)
        attempts := fun _ =>
          { askedAt := 0
            reply := .ok (.free [("distance_km", .float 222), ("duration_minutes", .float 180)])
            failedAt := 0 } } },
    { call :=
      { origin := (0, 2)
        destination := (0, 0)
        attempts := fun _ => { askedAt := 0, reply := .error (.exception "timeout"), failedAt := 0 }
        } },
    { call :=
      { origin := (0, 0)
        destination := (0, 2)
        mode := "drive"
        attempts := fun _ => { askedAt := 0, reply := .error (.exception "timeout"), failedAt := 0 }
        } }]

/-- The first walk is stored before the second looks into the cache. The drive makes the breaker
open, and asks it once more. -/
def walksAndDriveTurns : List (Turn Unit) :=
  [.start 0, .start 2, .act 0 (), .act 2 (), .act 0 (), .start 1, .act 1 (), .act 2 (),
    .act 2 (), .act 2 (), .act 2 (), .act 2 (), .act 2 ()]

theorem exists_run_walksAndDrive : ∃ reply optimizer',
    parallelRoutingCalculations .equatorial {} walksAndDrive walksAndDriveTurns =
      some (reply, optimizer') := by
  have hsome : (parallelRoutingCalculations .equatorial {} walksAndDrive
      walksAndDriveTurns).isSome = true := by
    decide +kernel
  obtain ⟨⟨reply, optimizer'⟩, hrun⟩ := Option.isSome_iff_exists.mp hsome
  exact ⟨reply, optimizer', hrun⟩

theorem parallelRoutingCalculations_routes_walksAndDrive : ∃ reply optimizer',
    parallelRoutingCalculations .equatorial {} walksAndDrive walksAndDriveTurns =
        some (reply, optimizer') ∧
      ((∃ routes, reply = .ok routes ∧
          List.Forall₂ (ComesBack .equatorial .empty walksAndDrive) walksAndDrive routes) ∨
        ∃ e, reply = .error e ∧
          ∃ job ∈ walksAndDrive, job.estimate .equatorial = .error e) ∧
      SoundOptimizer .equatorial .empty walksAndDrive optimizer' := by
  obtain ⟨reply, optimizer', hrun⟩ := exists_run_walksAndDrive
  exact ⟨reply, optimizer', hrun, parallelRoutingCalculations_routes .equatorial {} nofun
    walksAndDrive walksAndDriveTurns reply optimizer' hrun⟩

theorem counted_parallelRoutingCalculations_walksAndDrive : ∃ reply optimizer',
    parallelRoutingCalculations .equatorial {} walksAndDrive walksAndDriveTurns =
        some (reply, optimizer') ∧ optimizer'.counted = 3 := by
  obtain ⟨reply, optimizer', hrun⟩ := exists_run_walksAndDrive
  exact ⟨reply, optimizer', hrun, counted_parallelRoutingCalculations .equatorial {}
    walksAndDrive walksAndDriveTurns reply optimizer' hrun⟩

theorem parallelRoutingCalculations_finishes_walksAndDrive : ∃ later reply optimizer',
    parallelRoutingCalculations .equatorial {} walksAndDrive ([] ++ later) =
      some (reply, optimizer') :=
  (parallelRoutingCalculations_finishes .equatorial {} walksAndDrive [] _ rfl).2

end Goveling.Optimizer
