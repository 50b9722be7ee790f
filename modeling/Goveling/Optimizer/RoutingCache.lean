/-
# The distance cache and its limit

Two readers share one cache of routes. Both count every call as a hit or a miss.
Only the reader that ends on `routing_service_robust` without a timestamp removes
old entries when there are more than 1000: a route of the multimodal router, a
route that is stored with a timestamp, and the entries of a file are stored as
they come.
-/

import Goveling.Math.OrderedMap
import Goveling.Optimizer.RoutingService

namespace Goveling.Optimizer

open Goveling.Math Goveling.Python

/-! ## The state -/

/-- The part of `HybridOptimizerV31` that routes are looked up with. -/
structure HybridOptimizerV31 where
  routingCircuitBreaker : CircuitBreaker :=
    { failureThreshold := 3, timeout := 15, recoveryTimeout := 60 }
  distanceCache : OrderedMap String PyVal := .empty
  cacheHits : ℤ := 0
  cacheMisses : ℤ := 0

/-- What lies under the name of the cache file. -/
inductive CacheFile
  | missing
  | unreadable
  | saved (distances : Option (OrderedMap String PyVal)) (cacheHits cacheMisses : Option ℤ)

/-- `load_persistent_cache`. -/
def loadPersistentCache (optimizer : HybridOptimizerV31) : CacheFile → HybridOptimizerV31
  | .missing | .unreadable => optimizer
  | .saved distances cacheHits cacheMisses =>
      { optimizer with
        distanceCache := distances.getD .empty
        cacheHits := cacheHits.getD 0
        cacheMisses := cacheMisses.getD 0 }

/-! ## The multimodal router -/

/-- `mode_mapping.get(mode, 'walk')`. -/
def mappedMode (mode : String) : String :=
  if mode = "drive" ∨ mode = "driving" then "drive"
  else if mode = "bike" ∨ mode = "bicycle" then "bike"
  else "walk"

/-- The route of a reply that reports success. Other values have no `get` or are empty. -/
def goodRoute : Except PyError PyVal → Option PyDict
  | .ok (.dict route) =>
      if (PyDict.get route "success" (.bool false)).truthy then some route else none
  | _ => none

/-- The reply in the expected format. -/
def multimodalResult (route : PyDict) (mode : String) : PyDict :=
  [("distance_km", PyDict.get route "distance_km" (.int 0)),
    ("duration_minutes", PyDict.get route "duration_minutes" (.int 0)),
    ("source", .str ("multimodal_router_" ++ mappedMode mode)),
    ("route_info", PyDict.get route "route_info" (.dict [])),
    ("cache_hit", .bool false)]

/-- `result.get('duration_minutes', 0) > 0`. -/
def hasDuration (result : PyDict) : Except PyError Bool :=
  (PyDict.get result "duration_minutes" (.int 0)).greaterThan 0 "int"

/-- The texts of the line that is logged for a cached route. -/
def logCached (result : PyDict) : Except PyError (String × String) := do
  let distance ← (PyDict.get result "distance_km" .none).formatFixed 2
  let duration ← (PyDict.get result "duration_minutes" .none).formatFixed 1
  return (distance, duration)

/-- The multimodal branch: its result, unless it fails or raises, and the cache it leaves. -/
def multimodalRoute (cache : OrderedMap String PyVal) (key mode : String)
    (reply : Except PyError PyVal) : Option PyDict × OrderedMap String PyVal :=
  match goodRoute reply with
  | none => (none, cache)
  | some route =>
      let result := multimodalResult route mode
      match hasDuration result with
      | .error _ => (none, cache)
      | .ok false => (some result, cache)
      | .ok true =>
          -- the route is stored before the log line can raise
          match logCached result with
          | .error _ => (none, cache.set key (.dict result))
          | .ok _ => (some result, cache.set key (.dict result))

/-! ## The two readers -/

/-- `result and result.get('duration_minutes', 0) > 0`. -/
def isValidRoute (result : PyDict) : Except PyError Bool :=
  if result.isEmpty then .ok false else hasDuration result

/-- The limit of the cache: the first 200 entries go when there are more than 1000. -/
def limitCache (cache : OrderedMap String PyVal) : OrderedMap String PyVal :=
  if 1000 < cache.size then cache.dropFirst 200 else cache

/-- The optimizer after a hit. -/
def HybridOptimizerV31.countHit (optimizer : HybridOptimizerV31) : HybridOptimizerV31 :=
  { optimizer with cacheHits := optimizer.cacheHits + 1 }

/-- The optimizer after a miss that left a breaker and a cache. -/
def HybridOptimizerV31.countMiss (optimizer : HybridOptimizerV31) (breaker : CircuitBreaker)
    (cache : OrderedMap String PyVal) : HybridOptimizerV31 :=
  { optimizer with
    routingCircuitBreaker := breaker
    distanceCache := cache
    cacheMisses := optimizer.cacheMisses + 1 }

/-- The end of `routing_service_cached`: the robust service, and the limit of the cache. -/
def answerRobustly (globe : Globe) (optimizer : HybridOptimizerV31)
    (cache : OrderedMap String PyVal) (call : RouteCall) :
    Except PyError PyVal × HybridOptimizerV31 :=
  let (reply, breaker) := routingServiceRobust globe optimizer.routingCircuitBreaker call
  match reply with
  | .error e => (.error e, optimizer.countMiss breaker cache)
  | .ok result =>
      match isValidRoute result with
      | .error e => (.error e, optimizer.countMiss breaker cache)
      | .ok false =>
          (.ok (.dict (PyDict.set result "cache_hit" (.bool false))),
            optimizer.countMiss breaker cache)
      | .ok true =>
          (.ok (.dict (PyDict.set result "cache_hit" (.bool false))),
            optimizer.countMiss breaker (limitCache (cache.set call.key (.dict result))))

/-- `routing_service_cached`, with what the multimodal router replies if there is one. -/
def routingServiceCached (globe : Globe) (optimizer : HybridOptimizerV31) (call : RouteCall)
    (multimodal : Option (Except PyError PyVal)) : Except PyError PyVal × HybridOptimizerV31 :=
  match optimizer.distanceCache.get? call.key with
  | some cached =>
      (do
        let cachedResult ← cached.copy
        cachedResult.setItem "cache_hit" (.bool true), optimizer.countHit)
  | none =>
      match multimodal with
      | none => answerRobustly globe optimizer optimizer.distanceCache call
      | some reply =>
          match multimodalRoute optimizer.distanceCache call.key call.mode reply with
          | (some result, cache) =>
              (.ok (.dict result), optimizer.countMiss optimizer.routingCircuitBreaker cache)
          | (none, cache) => answerRobustly globe optimizer cache call

/-- `routing_service_persistent_cached`, with the time of the timestamp. -/
def routingServicePersistentCached (globe : Globe) (optimizer : HybridOptimizerV31)
    (call : RouteCall) (storedAt : ℚ) : Except PyError PyVal × HybridOptimizerV31 :=
  match optimizer.distanceCache.get? call.key with
  | some cached =>
      (do
        let cachedResult ← cached.copy
        let cachedResult ← cachedResult.setItem "cache_hit" (.bool true)
        cachedResult.setItem "persistent_cache" (.bool true), optimizer.countHit)
  | none =>
      let (reply, breaker) := routingServiceRobust globe optimizer.routingCircuitBreaker call
      let cache := optimizer.distanceCache
      match reply with
      | .error e => (.error e, optimizer.countMiss breaker cache)
      | .ok result =>
          match isValidRoute result with
          | .error e => (.error e, optimizer.countMiss breaker cache)
          | .ok false =>
              let marked := PyDict.set result "cache_hit" (.bool false)
              (.ok (.dict (PyDict.set marked "persistent_cache" (.bool true))),
                optimizer.countMiss breaker cache)
          | .ok true =>
              let stamped := PyDict.set result "timestamp" (.float storedAt)
              let marked := PyDict.set stamped "cache_hit" (.bool false)
              (.ok (.dict (PyDict.set marked "persistent_cache" (.bool true))),
                optimizer.countMiss breaker (cache.set call.key (.dict stamped)))

/-! ## Runs -/

/-- A call of either reader. -/
inductive CacheCall
  | cached (call : RouteCall) (multimodal : Option (Except PyError PyVal))
  | persistent (call : RouteCall) (storedAt : ℚ)

namespace CacheCall

/-- The answer to a call, and the optimizer after it. -/
def respond (globe : Globe) (optimizer : HybridOptimizerV31) :
    CacheCall → Except PyError PyVal × HybridOptimizerV31
  | cached call multimodal => routingServiceCached globe optimizer call multimodal
  | persistent call storedAt => routingServicePersistentCached globe optimizer call storedAt

/-- The optimizer after a call. -/
def next (globe : Globe) (optimizer : HybridOptimizerV31) (call : CacheCall) :
    HybridOptimizerV31 :=
  (call.respond globe optimizer).2

end CacheCall

/-- A call and the optimizer it meets. -/
abbrev CacheMoment := HybridOptimizerV31 × CacheCall

/-- The calls of a run that starts with a cache file. -/
def cacheRun (globe : Globe) (file : CacheFile) (calls : List CacheCall) :
    List CacheMoment :=
  moments (CacheCall.next globe) (loadPersistentCache {} file) calls

/-! ## Where routes are stored -/

/-- The robust service has a route that is worth storing. -/
def RobustStores (globe : Globe) (optimizer : HybridOptimizerV31) (call : RouteCall) : Prop :=
  ∃ result, (routingServiceRobust globe optimizer.routingCircuitBreaker call).1 = .ok result ∧
    isValidRoute result = .ok true

/-- The multimodal router has a route that is worth storing. -/
def MultimodalStores (call : RouteCall) (reply : Except PyError PyVal) : Prop :=
  ∃ route, goodRoute reply = some route ∧
    hasDuration (multimodalResult route call.mode) = .ok true

/-- The multimodal branch returns: its route is not worth storing, or it can be logged. -/
def MultimodalAnswers (call : RouteCall) (reply : Except PyError PyVal) : Prop :=
  ∃ route, goodRoute reply = some route ∧
    (hasDuration (multimodalResult route call.mode) = .ok false ∨
      hasDuration (multimodalResult route call.mode) = .ok true ∧
        (logCached (multimodalResult route call.mode)).isOk = true)

namespace CacheMoment

/-- A new route is stored and the limit is enforced after it. -/
def Limits (globe : Globe) : CacheMoment → Prop
  | (optimizer, .cached call multimodal) =>
      call.key ∉ optimizer.distanceCache.keys ∧
        (∀ reply ∈ multimodal, ¬ MultimodalAnswers call reply) ∧ RobustStores globe optimizer call
  | (_, .persistent _ _) => False

/-- A new route is stored as it comes. -/
def Inserts (globe : Globe) : CacheMoment → Prop
  | (optimizer, .cached call multimodal) =>
      call.key ∉ optimizer.distanceCache.keys ∧ ∃ reply ∈ multimodal, MultimodalStores call reply
  | (optimizer, .persistent call _) =>
      call.key ∉ optimizer.distanceCache.keys ∧ RobustStores globe optimizer call

/-- There is room for what the call stores. -/
structure HasRoom (globe : Globe) (moment : CacheMoment) : Prop where
  limited : moment.Limits globe → moment.1.distanceCache.size ≤ 1199
  inserted : ¬ moment.Limits globe → moment.Inserts globe → moment.1.distanceCache.size < 1000
  kept : ¬ moment.Limits globe → ¬ moment.Inserts globe → moment.1.distanceCache.size ≤ 1000

/-- A new route is stored as it comes in a cache that is full. -/
def Overfills (globe : Globe) (moment : CacheMoment) : Prop :=
  ¬ moment.Limits globe ∧ moment.Inserts globe ∧ moment.1.distanceCache.size = 1000

/-- What is promised of a call: the cache keeps its limit, and the call is counted once. -/
structure KeepsLimit (globe : Globe) (moment : CacheMoment) : Prop where
  size_le : (moment.2.next globe moment.1).distanceCache.size ≤ 1000
  counted : (moment.2.respond globe moment.1).1.isOk = true →
    (moment.2.next globe moment.1).cacheHits + (moment.2.next globe moment.1).cacheMisses =
      moment.1.cacheHits + moment.1.cacheMisses + 1

end CacheMoment

theorem multimodalRoute_fst_isSome (cache : OrderedMap String PyVal) {call : RouteCall}
    {reply : Except PyError PyVal} :
    (multimodalRoute cache call.key call.mode reply).1.isSome = true ↔
      MultimodalAnswers call reply := by
  unfold multimodalRoute MultimodalAnswers
  cases goodRoute reply with
  | none => simp
  | some route =>
      dsimp only
      cases hduration : hasDuration (multimodalResult route call.mode) with
      | error e => simp [hduration]
      | ok long =>
          cases long with
          | false => simp [hduration]
          | true => cases hlog : logCached (multimodalResult route call.mode) <;>
              simp [hduration, hlog, Except.isOk, Except.toBool]

/-- The multimodal branch stores a route or leaves the cache alone. -/
theorem multimodalRoute_snd (cache : OrderedMap String PyVal) (call : RouteCall)
    (reply : Except PyError PyVal) :
    MultimodalStores call reply ∧ (∃ result, (multimodalRoute cache call.key call.mode reply).2 =
        cache.set call.key (.dict result)) ∨
      ¬ MultimodalStores call reply ∧
        (multimodalRoute cache call.key call.mode reply).2 = cache := by
  unfold multimodalRoute MultimodalStores
  cases goodRoute reply with
  | none => simp
  | some route =>
      dsimp only
      cases hduration : hasDuration (multimodalResult route call.mode) with
      | error e => simp [hduration]
      | ok long =>
          cases long with
          | false => simp [hduration]
          | true =>
              refine .inl ⟨⟨route, rfl, hduration⟩, multimodalResult route call.mode, ?_⟩
              dsimp only
              cases logCached (multimodalResult route call.mode) <;> rfl

/-- The robust branch stores a route and enforces the limit, or leaves the cache alone. -/
theorem distanceCache_answerRobustly (globe : Globe) (optimizer : HybridOptimizerV31)
    (cache : OrderedMap String PyVal) (call : RouteCall) :
    (∃ result, (routingServiceRobust globe optimizer.routingCircuitBreaker call).1 = .ok result ∧
        isValidRoute result = .ok true ∧
        (answerRobustly globe optimizer cache call).2.distanceCache =
          limitCache (cache.set call.key (.dict result))) ∨
      ¬ RobustStores globe optimizer call ∧
        (answerRobustly globe optimizer cache call).2.distanceCache = cache := by
  unfold answerRobustly RobustStores
  generalize routingServiceRobust globe optimizer.routingCircuitBreaker call = robust
  obtain ⟨reply, breaker⟩ := robust
  dsimp only
  cases reply with
  | error e => exact .inr ⟨nofun, rfl⟩
  | ok result =>
      dsimp only
      cases hvalid : isValidRoute result with
      | error e => simp [hvalid, HybridOptimizerV31.countMiss]
      | ok valid =>
          cases valid with
          | false => simp [hvalid, HybridOptimizerV31.countMiss]
          | true => exact .inl ⟨result, rfl, hvalid, rfl⟩

theorem entries_limitCache_subset (cache : OrderedMap String PyVal) :
    (limitCache cache).entries ⊆ cache.entries := by
  unfold limitCache
  split
  · exact cache.entries_dropFirst_subset 200
  · exact List.Subset.refl _

theorem size_limitCache (cache : OrderedMap String PyVal) :
    (limitCache cache).size = if 1000 < cache.size then cache.size - 200 else cache.size := by
  unfold limitCache
  split
  · exact cache.size_dropFirst 200
  · rfl

/-- The size of the cache that the robust branch leaves, when a route under the key of the
call makes it as large as `size`. -/
theorem size_answerRobustly (globe : Globe) (optimizer : HybridOptimizerV31) (call : RouteCall)
    {cache : OrderedMap String PyVal} {size : ℕ}
    (hset : ∀ result : PyDict, (cache.set call.key (.dict result)).size = size) :
    RobustStores globe optimizer call ∧
        (answerRobustly globe optimizer cache call).2.distanceCache.size =
          (if 1000 < size then size - 200 else size) ∨
      ¬ RobustStores globe optimizer call ∧
        (answerRobustly globe optimizer cache call).2.distanceCache.size = cache.size := by
  rcases distanceCache_answerRobustly globe optimizer cache call with
    ⟨result, hreply, hvalid, hcache⟩ | ⟨hstores, hcache⟩
  · rw [hcache, size_limitCache, hset result]
    exact .inl ⟨⟨result, hreply, hvalid⟩, rfl⟩
  · rw [hcache]
    exact .inr ⟨hstores, rfl⟩

namespace CacheMoment

/-- How the size of the cache changes: a new route is stored and the limit enforced, a new
route is stored as it comes, or no new route is stored. -/
def Grows (globe : Globe) (moment : CacheMoment) (after : ℕ) : Prop :=
  let before := moment.1.distanceCache.size
  moment.Limits globe ∧ (after = if 1000 < before + 1 then before + 1 - 200 else before + 1) ∨
    ¬ moment.Limits globe ∧ moment.Inserts globe ∧ after = before + 1 ∨
    ¬ moment.Limits globe ∧ ¬ moment.Inserts globe ∧ after = before

section Cached

variable {globe : Globe} {optimizer : HybridOptimizerV31} {call : RouteCall}

theorem limits_router_iff (hnew : call.key ∉ optimizer.distanceCache.keys)
    (reply : Except PyError PyVal) :
    Limits globe (optimizer, .cached call (some reply)) ↔
      ¬ MultimodalAnswers call reply ∧ RobustStores globe optimizer call := by
  constructor
  · rintro ⟨-, hanswers, hstores⟩
    exact ⟨hanswers reply rfl, hstores⟩
  · rintro ⟨hanswers, hstores⟩
    refine ⟨hnew, ?_, hstores⟩
    intro reply' hreply
    cases hreply
    exact hanswers

theorem inserts_router_iff (hnew : call.key ∉ optimizer.distanceCache.keys)
    (reply : Except PyError PyVal) :
    Inserts globe (optimizer, .cached call (some reply)) ↔ MultimodalStores call reply := by
  constructor
  · rintro ⟨-, reply', hreply, hstores⟩
    cases hreply
    exact hstores
  · intro hstores
    exact ⟨hnew, reply, rfl, hstores⟩

/-- A route that is known is not stored again. -/
theorem grows_known (hold : call.key ∈ optimizer.distanceCache.keys)
    (multimodal : Option (Except PyError PyVal)) :
    Grows globe (optimizer, .cached call multimodal) optimizer.distanceCache.size :=
  .inr (.inr ⟨fun hlimits => hlimits.1 hold, fun hinserts => hinserts.1 hold, rfl⟩)

/-- A new route makes the cache one larger. -/
theorem size_set_new (hnew : call.key ∉ optimizer.distanceCache.keys) (result : PyDict) :
    (optimizer.distanceCache.set call.key (.dict result)).size =
      optimizer.distanceCache.size + 1 := by
  rw [OrderedMap.size_set, if_neg hnew]

/-- Without a multimodal router all that is stored is followed by the limit. -/
theorem grows_withoutRouter (hnew : call.key ∉ optimizer.distanceCache.keys) :
    Grows globe (optimizer, .cached call none)
      (answerRobustly globe optimizer optimizer.distanceCache call).2.distanceCache.size := by
  rcases size_answerRobustly globe optimizer call (size_set_new hnew) with
    ⟨hstores, hsize⟩ | ⟨hstores, hsize⟩
  · exact .inl ⟨⟨hnew, nofun, hstores⟩, hsize⟩
  · have hinserts : ¬ Inserts globe (optimizer, .cached call none) := by
      rintro ⟨-, reply, hreply, -⟩
      cases hreply
    exact .inr (.inr ⟨fun hlimits => hstores hlimits.2.2, hinserts, hsize⟩)

/-- With a multimodal router the limit follows only what the robust branch stores, even if
the multimodal branch has stored the same route before. -/
theorem grows_router (hnew : call.key ∉ optimizer.distanceCache.keys)
    (reply : Except PyError PyVal) :
    Grows globe (optimizer, .cached call (some reply))
      (routingServiceCached globe optimizer call (some reply)).2.distanceCache.size := by
  unfold Grows routingServiceCached
  rw [OrderedMap.not_mem_keys_iff.mp hnew, inserts_router_iff hnew, limits_router_iff hnew,
    ← multimodalRoute_fst_isSome optimizer.distanceCache]
  dsimp only
  have hcaches := multimodalRoute_snd optimizer.distanceCache call reply
  generalize multimodalRoute optimizer.distanceCache call.key call.mode reply = route
    at hcaches ⊢
  obtain ⟨answer, cache⟩ := route
  dsimp only at hcaches
  -- how large the multimodal branch leaves the cache
  have hleft : MultimodalStores call reply ∧ cache.size = optimizer.distanceCache.size + 1 ∨
      ¬ MultimodalStores call reply ∧ cache.size = optimizer.distanceCache.size := by
    rcases hcaches with ⟨hstores, stored, rfl⟩ | ⟨hstores, rfl⟩
    · exact .inl ⟨hstores, size_set_new hnew stored⟩
    · exact .inr ⟨hstores, rfl⟩
  cases answer with
  | some result =>
      rcases hleft with ⟨hstores, hsize⟩ | ⟨hstores, hsize⟩
      · exact .inr (.inl ⟨by simp, hstores, hsize⟩)
      · exact .inr (.inr ⟨by simp, hstores, hsize⟩)
  | none =>
      -- a route that the multimodal branch has stored is overwritten
      have hset : ∀ result : PyDict,
          (cache.set call.key (.dict result)).size = optimizer.distanceCache.size + 1 := by
        intro result
        rcases hcaches with ⟨-, stored, rfl⟩ | ⟨-, rfl⟩
        · rw [OrderedMap.size_set, if_pos, size_set_new hnew]
          rw [OrderedMap.mem_keys_iff_isSome, OrderedMap.get?_set, if_pos rfl]
          rfl
        · exact size_set_new hnew result
      rcases size_answerRobustly globe optimizer call hset with
        ⟨hrobust, hsize⟩ | ⟨hrobust, hsize⟩
      · exact .inl ⟨⟨by simp, hrobust⟩, hsize⟩
      · rcases hleft with ⟨hstores, hkept⟩ | ⟨hstores, hkept⟩
        · exact .inr (.inl ⟨fun h => hrobust h.2, hstores, hsize.trans hkept⟩)
        · exact .inr (.inr ⟨fun h => hrobust h.2, hstores, hsize.trans hkept⟩)

end Cached

theorem grows_cached (globe : Globe) (optimizer : HybridOptimizerV31) (call : RouteCall)
    (multimodal : Option (Except PyError PyVal)) :
    Grows globe (optimizer, .cached call multimodal)
      (routingServiceCached globe optimizer call multimodal).2.distanceCache.size := by
  cases hget : optimizer.distanceCache.get? call.key with
  | some cached =>
      have hold := OrderedMap.mem_keys_of_get?_eq_some hget
      unfold routingServiceCached
      rw [hget]
      exact grows_known hold multimodal
  | none =>
      have hnew := OrderedMap.not_mem_keys_iff.mpr hget
      cases multimodal with
      | none =>
          unfold routingServiceCached
          rw [hget]
          exact grows_withoutRouter hnew
      | some reply => exact grows_router hnew reply

theorem grows_persistent (globe : Globe) (optimizer : HybridOptimizerV31) (call : RouteCall)
    (storedAt : ℚ) :
    Grows globe (optimizer, .persistent call storedAt)
      (routingServicePersistentCached globe optimizer call storedAt).2.distanceCache.size := by
  have hlimits : ¬ Limits globe (optimizer, .persistent call storedAt) := id
  unfold routingServicePersistentCached
  cases hget : optimizer.distanceCache.get? call.key with
  | some cached =>
      have hold := OrderedMap.mem_keys_of_get?_eq_some hget
      exact .inr (.inr ⟨hlimits, fun hinserts => hinserts.1 hold, rfl⟩)
  | none =>
      have hnew := OrderedMap.not_mem_keys_iff.mpr hget
      unfold Grows Inserts RobustStores
      dsimp only
      generalize routingServiceRobust globe optimizer.routingCircuitBreaker call = robust
      obtain ⟨reply, breaker⟩ := robust
      cases reply with
      | error e => exact .inr (.inr ⟨hlimits, by simp, rfl⟩)
      | ok result =>
          dsimp only
          cases hvalid : isValidRoute result with
          | error e => exact .inr (.inr ⟨hlimits, by simp [hvalid], rfl⟩)
          | ok valid =>
              cases valid with
              | false => exact .inr (.inr ⟨hlimits, by simp [hvalid], rfl⟩)
              | true =>
                  exact .inr (.inl ⟨hlimits, ⟨hnew, result, rfl, hvalid⟩, size_set_new hnew _⟩)

/-- How the size of the cache changes in a call of either reader. -/
theorem grows_next (globe : Globe) (moment : CacheMoment) :
    moment.Grows globe (moment.2.next globe moment.1).distanceCache.size := by
  obtain ⟨optimizer, call⟩ := moment
  cases call with
  | cached call multimodal => exact grows_cached globe optimizer call multimodal
  | persistent call storedAt => exact grows_persistent globe optimizer call storedAt

end CacheMoment

/-! ## Hits and misses -/

theorem answerRobustly_counts (globe : Globe) (optimizer : HybridOptimizerV31)
    (cache : OrderedMap String PyVal) (call : RouteCall) :
    ∃ breaker cache', (answerRobustly globe optimizer cache call).2 =
      optimizer.countMiss breaker cache' := by
  unfold answerRobustly
  generalize routingServiceRobust globe optimizer.routingCircuitBreaker call = robust
  obtain ⟨reply, breaker⟩ := robust
  dsimp only
  split
  · exact ⟨_, _, rfl⟩
  · split <;> exact ⟨_, _, rfl⟩

/-- Every call counts as one hit or as one miss, even if it raises. -/
theorem next_counts (globe : Globe) (optimizer : HybridOptimizerV31) (call : CacheCall) :
    call.next globe optimizer = optimizer.countHit ∨
      ∃ breaker cache, call.next globe optimizer = optimizer.countMiss breaker cache := by
  cases call with
  | cached call multimodal =>
      show (routingServiceCached globe optimizer call multimodal).2 = _ ∨
        ∃ breaker cache, (routingServiceCached globe optimizer call multimodal).2 = _
      unfold routingServiceCached
      split
      · exact .inl rfl
      · split
        · exact .inr (answerRobustly_counts _ _ _ _)
        · split
          · exact .inr ⟨_, _, rfl⟩
          · exact .inr (answerRobustly_counts _ _ _ _)
  | persistent call storedAt =>
      show (routingServicePersistentCached globe optimizer call storedAt).2 = _ ∨
        ∃ breaker cache, (routingServicePersistentCached globe optimizer call storedAt).2 = _
      unfold routingServicePersistentCached
      split
      · exact .inl rfl
      · dsimp only
        split
        · exact .inr ⟨_, _, rfl⟩
        · split <;> exact .inr ⟨_, _, rfl⟩

theorem counted_next (globe : Globe) (optimizer : HybridOptimizerV31) (call : CacheCall) :
    (call.next globe optimizer).cacheHits + (call.next globe optimizer).cacheMisses =
      optimizer.cacheHits + optimizer.cacheMisses + 1 := by
  rcases next_counts globe optimizer call with hnext | ⟨breaker, cache, hnext⟩
  · rw [hnext]
    show optimizer.cacheHits + 1 + optimizer.cacheMisses = _
    omega
  · rw [hnext]
    show optimizer.cacheHits + (optimizer.cacheMisses + 1) = _
    omega

/-! ## The limit along a run -/

theorem CacheMoment.keepsLimit_iff {globe : Globe} (moment : CacheMoment) :
    moment.KeepsLimit globe ↔ moment.HasRoom globe := by
  have hsize := moment.grows_next globe
  constructor
  · intro hkeeps
    have hle := hkeeps.size_le
    rcases hsize with ⟨hlimits, hsize⟩ | ⟨hlimits, hinserts, hsize⟩ | ⟨hlimits, hinserts, hsize⟩
    · refine ⟨fun _ => ?_, fun h => absurd hlimits h, fun h => absurd hlimits h⟩
      split at hsize <;> omega
    · refine ⟨fun h => absurd h hlimits, fun _ _ => ?_, fun _ h => absurd hinserts h⟩
      omega
    · refine ⟨fun h => absurd h hlimits, fun _ h => absurd h hinserts, fun _ _ => ?_⟩
      omega
  · intro hroom
    refine ⟨?_, fun _ => counted_next globe _ _⟩
    rcases hsize with ⟨hlimits, hsize⟩ | ⟨hlimits, hinserts, hsize⟩ | ⟨hlimits, hinserts, hsize⟩
    · have hbound := hroom.limited hlimits
      split at hsize <;> omega
    · have hbound := hroom.inserted hlimits hinserts
      omega
    · have hbound := hroom.kept hlimits hinserts
      omega

/-- A cache within its limit has room for every call that does not overfill it. -/
theorem CacheMoment.hasRoom_of_size_le {globe : Globe} {moment : CacheMoment}
    (hsize : moment.1.distanceCache.size ≤ 1000) (hroom : ¬ moment.Overfills globe) :
    moment.HasRoom globe where
  limited _ := hsize.trans (by decide)
  inserted hlimits hinserts :=
    lt_of_le_of_ne hsize fun hfull => hroom ⟨hlimits, hinserts, hfull⟩
  kept _ _ := hsize

/-- The limit is kept along a run once the first call has room. -/
theorem keepsLimit_of_no_overfill {globe : Globe} (optimizer : HybridOptimizerV31)
    (calls : List CacheCall)
    (hfirst : ∀ first ∈ (moments (CacheCall.next globe) optimizer calls).head?,
      CacheMoment.HasRoom globe first)
    (hroom : ∀ moment ∈ moments (CacheCall.next globe) optimizer calls,
      ¬ CacheMoment.Overfills globe moment) :
    ∀ moment ∈ moments (CacheCall.next globe) optimizer calls,
      CacheMoment.KeepsLimit globe moment := by
  induction calls generalizing optimizer with
  | nil => simp
  | cons call rest ih =>
      obtain ⟨-, hrest⟩ := List.forall_mem_cons.mp hroom
      have hkeeps : CacheMoment.KeepsLimit globe (optimizer, call) :=
        (CacheMoment.keepsLimit_iff _).mpr (hfirst _ rfl)
      refine List.forall_mem_cons.mpr ⟨hkeeps, ih _ ?_ hrest⟩
      intro next hnext
      have hmem := List.mem_of_head? hnext
      refine CacheMoment.hasRoom_of_size_le ?_ (hrest next hmem)
      -- the next call meets the cache that this one has left
      cases rest with
      | nil => cases hnext
      | cons second others =>
          cases hnext
          exact hkeeps.size_le

/-- From any file, every call of a run keeps the limit and is counted once exactly when
there is room for what the first call stores and no call overfills the cache. -/
theorem cacheRun_keepsLimit_iff (globe : Globe) (file : CacheFile) (calls : List CacheCall) :
    (∀ moment ∈ cacheRun globe file calls, moment.KeepsLimit globe) ↔
      (∀ first ∈ (cacheRun globe file calls).head?, first.HasRoom globe) ∧
        ∀ moment ∈ cacheRun globe file calls, ¬ moment.Overfills globe := by
  constructor
  · intro hkeeps
    have hroom : ∀ moment ∈ cacheRun globe file calls, moment.HasRoom globe :=
      fun moment hmem => moment.keepsLimit_iff.mp (hkeeps moment hmem)
    refine ⟨fun first hfirst => hroom first (List.mem_of_head? hfirst), ?_⟩
    rintro moment hmem ⟨hlimits, hinserts, hfull⟩
    exact absurd ((hroom moment hmem).inserted hlimits hinserts) (by omega)
  · rintro ⟨hfirst, hroom⟩
    exact keepsLimit_of_no_overfill _ calls hfirst hroom

/-! ## A full cache -/

/-- Walks along the equator, as a file keeps them. -/
def equatorWalks (count : ℕ) : OrderedMap String PyVal where
  entries := (List.range count).map fun n =>
    (keyText (⟨false, 0⟩, ⟨false, 0⟩) (⟨false, 0⟩, ⟨false, n⟩) "walk",
      .dict [("distance_km", .float 1), ("duration_minutes", .float 15)])
  nodup := by
    rw [List.map_map]
    refine List.Nodup.map (fun m n hsame => ?_) List.nodup_range
    obtain ⟨-, hdestination, -⟩ := keyText_inj hsame
    exact (Rounded.mk.inj (Prod.ext_iff.mp hdestination).2).2

theorem size_equatorWalks (count : ℕ) : (equatorWalks count).size = count := by
  unfold OrderedMap.size equatorWalks
  rw [List.length_map, List.length_range]

theorem keyText_not_mem_equatorWalks (first second : Endpoint) {mode : String}
    (hmode : mode ≠ "walk") (count : ℕ) :
    keyText first second mode ∉ (equatorWalks count).keys := by
  intro hkey
  obtain ⟨entry, hentry, hsame⟩ := List.mem_map.mp hkey
  obtain ⟨n, -, rfl⟩ := List.mem_map.mp hentry
  exact hmode (keyText_inj hsame).2.2.symm

/-- The service answers a drive of two degrees at once. -/
def answeredDrive : RouteCall where
  origin := (0, 0)
  destination := (0, 2)
  mode := "drive"
  attempts _ :=
    { askedAt := 0
      reply := .ok (.free [("distance_km", .float 222), ("duration_minutes", .float 180)])
      failedAt := 0 }

/-- The file has a thousand walks: the drive is stored with a timestamp, and nothing is
removed. -/
theorem cacheRun_overfills_equatorWalks :
    ¬ ∀ moment ∈ cacheRun .equatorial (.saved (some (equatorWalks 1000)) none none)
      [.persistent answeredDrive 0], moment.KeepsLimit .equatorial := by
  intro hkeeps
  have hroom := (CacheMoment.keepsLimit_iff _).mp (hkeeps _ List.mem_cons_self)
  have hdrive : answeredDrive.key = keyText (endpointOf (0, 0)) (endpointOf (0, 2)) "drive" :=
    if_pos (by decide +kernel)
  have hnew : answeredDrive.key ∉ (equatorWalks 1000).keys := by
    rw [hdrive]
    exact keyText_not_mem_equatorWalks _ _ (by decide) _
  have hstores : RobustStores .equatorial
      (loadPersistentCache {} (.saved (some (equatorWalks 1000)) none none)) answeredDrive :=
    ⟨[("distance_km", .float 222), ("duration_minutes", .float 180)],
      routingServiceRobust_of_isClosed _ rfl rfl, rfl⟩
  have hbelow : (equatorWalks 1000).size < 1000 := hroom.inserted id ⟨hnew, hstores⟩
  rw [size_equatorWalks] at hbelow
  omega

end Goveling.Optimizer
