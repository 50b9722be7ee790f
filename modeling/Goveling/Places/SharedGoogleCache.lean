/-
# The cache of Google Maps under concurrent calls

The wrapped functions are coroutines: a call reads the cache, and when it finds nothing it
waits for its function and stores the result later, while other calls read and store, also
under its key. Entries that have expired are dropped when they are read, or by
`clear_expired`. None of this is noticed: in every order of these events a call is answered as
by a table that keeps, for every key, what was stored last, and from which nothing is removed.
-/

import Goveling.Math.Expiry
import Goveling.Places.GoogleCache

namespace Goveling.Places

open Goveling.Math Goveling.Python

/-! ## The upkeep -/

namespace GoogleCache

variable (cache : GoogleCache)

/-- `clear_expired`: how many entries it deletes, and the cache after it. Each entry is looked at
with a clock reading of its own. -/
def clearExpired (clock : String → ℚ) : ℕ × GoogleCache :=
  let expiredKeys := (cache.entries.filter fun entry =>
    isExpired entry.2 (clock entry.1)).map Prod.fst
  (expiredKeys.length, expiredKeys.foldl OrderedMap.erase cache)

/-- `stats`: how many entries there are, and how many of them have expired. -/
def stats (clock : String → ℚ) : ℕ × ℕ :=
  (cache.entries.length,
    (cache.entries.filter fun entry => isExpired entry.2 (clock entry.1)).length)

end GoogleCache

/-! ## Calls that wait -/

/-- The cache, and the calls that wait for their functions. -/
structure SharedCache where
  cache : GoogleCache := .empty
  waiting : OrderedMap ℕ MapsCall := .empty

/-- What happens to the cache. A clock tells when the entry under a key is looked at; a cleaning
also has the time when it ends, and a statistic the time when it begins. -/
inductive MapsEvent
  | start (task : ℕ) (call : MapsCall)
  | finish (task : ℕ) (storedAt : ℚ)
  | clear (clock : String → ℚ) (endsAt : ℚ)
  | stats (clock : String → ℚ) (beginsAt : ℚ)

/-- What is seen of an event: what a call returns at once, or from its function, or how many
entries have not expired. -/
inductive MapsReply
  | returned (result : Option PyVal)
  | counted (entries : ℕ)

namespace MapsEvent

/-- When the event happens. -/
def time : MapsEvent → Option ℚ
  | start _ call => some call.readAt
  | finish _ storedAt => some storedAt
  | clear _ endsAt => some endsAt
  | stats _ beginsAt => some beginsAt

/-- All but the cleanings are seen. -/
def isSeen : MapsEvent → Bool
  | clear .. => false
  | _ => true

/-- A cleaning ends after its readings, and a statistic begins before them. -/
def Timed : MapsEvent → Prop
  | clear clock endsAt => ∀ key, clock key ≤ endsAt
  | stats clock beginsAt => ∀ key, beginsAt ≤ clock key
  | _ => True

end MapsEvent

section Events

variable (env : CacheEnv) (state : SharedCache)

/-- A call that has waited stores the result of its function. -/
def SharedCache.finish (task : ℕ) (storedAt : ℚ) : SharedCache :=
  match state.waiting.get? task with
  | some call =>
      { cache := state.cache.set (call.key env) { call with storedAt := storedAt }
          (call.result env) call.query.ttl
        waiting := state.waiting.erase task }
  | none => state

/-- The state after an event. -/
def sharedStep : MapsEvent → SharedCache
  | .start task call =>
      let (cachedResult, touched) := state.cache.get (call.key env) call.readAt
      if isNone cachedResult then
        { cache := touched, waiting := state.waiting.set task call }
      else { state with cache := touched }
  | .finish task storedAt => state.finish env task storedAt
  | .clear clock _ => { state with cache := (state.cache.clearExpired clock).2 }
  | .stats _ _ => state

/-- What is seen of an event. -/
def sharedReply : MapsEvent → MapsReply
  | .start _ call =>
      let cachedResult := (state.cache.get (call.key env) call.readAt).1
      .returned (if isNone cachedResult then none else some cachedResult)
  | .finish task _ => .returned ((state.waiting.get? task).map fun call => call.result env)
  | .clear clock _ => .counted (state.cache.clearExpired clock).1
  | .stats clock _ => .counted ((state.cache.stats clock).1 - (state.cache.stats clock).2)

/-- The state of a table that keeps everything. -/
def keptStep : MapsEvent → SharedCache
  | .start task call =>
      match servedEntry env state.cache call with
      | some _ => state
      | none => { state with waiting := state.waiting.set task call }
  | .finish task storedAt => state.finish env task storedAt
  | .clear _ _ => state
  | .stats _ _ => state

/-- How a table that keeps everything answers: by what was stored last and has not expired. -/
def keptReply : MapsEvent → MapsReply
  | .start _ call =>
      .returned ((servedEntry env state.cache call).map fun entry => entry.answer)
  | .finish task _ => .returned ((state.waiting.get? task).map fun call => call.result env)
  | .clear _ _ => .counted 0
  | .stats clock _ =>
      .counted (state.cache.entries.filter fun entry =>
        !GoogleCache.isExpired entry.2 (clock entry.1)).length

end Events

/-! ## Without waiting -/

section Wrapper

variable {env : CacheEnv} {state : SharedCache} {task : ℕ} {call : MapsCall}

/-- A call that nothing comes between is a call of `wrapper`. -/
theorem cache_start_finish (htask : state.waiting.get? task = none) :
    (runEnd (sharedStep env) state [.start task call, .finish task call.storedAt]).cache =
      (wrapper env state.cache call).2 := by
  rw [runEnd_cons, runEnd_cons, runEnd_nil]
  simp only [sharedStep, SharedCache.finish, wrapper]
  obtain ⟨cachedResult, touched⟩ := state.cache.get (call.key env) call.readAt
  cases hnone : isNone cachedResult with
  | true => simp [OrderedMap.get?_set]
  | false => simp [htask]

end Wrapper

/-! ## What has expired -/

section Upkeep

variable {env : CacheEnv} {cache : GoogleCache} {call : MapsCall} {now : ℚ}

/-- An entry that has not expired. -/
def isFresh (now : ℚ) (entry : Traced MapsCall PyVal ℚ) : Bool :=
  !GoogleCache.isExpired entry now

theorem expires_isFresh : Expires isFresh := by
  intro now after entry hle hfresh
  have hlater : ¬ entry.stamp < after := by simpa [isFresh, GoogleCache.isExpired] using hfresh
  have hnow : ¬ entry.stamp < now := fun hlt => hlater (hlt.trans_le hle)
  simpa [isFresh, GoogleCache.isExpired] using hnow

theorem servedEntry_eq_good? : servedEntry env cache call =
    (OrderedMap.good? isFresh cache (call.key env) call.readAt).filter fun entry =>
      !isNone entry.answer := by
  unfold servedEntry OrderedMap.good?
  rw [Option.filter_filter]
  rfl

/-- A call reads the entry that it is served, or nothing, and drops nothing that is fresh. -/
theorem get_cases (env : CacheEnv) (cache : GoogleCache) (call : MapsCall) :
    (∃ entry, servedEntry env cache call = some entry ∧ isNone entry.answer = false ∧
      cache.get (call.key env) call.readAt = (entry.answer, cache)) ∨
    (servedEntry env cache call = none ∧ ∃ cachedResult touched,
      isNone cachedResult = true ∧ GoodAlike isFresh call.readAt touched cache ∧
        cache.get (call.key env) call.readAt = (cachedResult, touched)) := by
  rw [servedEntry_eq_good?]
  unfold GoogleCache.get OrderedMap.good?
  cases hfound : OrderedMap.get? cache (call.key env) with
  | none => exact .inr ⟨rfl, .none, cache, rfl, .refl cache, rfl⟩
  | some entry =>
      cases hexpired : GoogleCache.isExpired entry call.readAt with
      | true =>
          have hgone : (some entry).filter (isFresh call.readAt) = none := by
            simp [Option.filter, isFresh, hexpired]
          refine .inr ⟨?_, .none, OrderedMap.erase cache (call.key env), rfl, ?_, ?_⟩
          · rw [hgone]
            rfl
          · apply goodAlike_erase
            rw [OrderedMap.good?, hfound]
            exact hgone
          · simp [hexpired]
      | false =>
          have hfresh : (some entry).filter (isFresh call.readAt) = some entry := by
            simp [Option.filter, isFresh, hexpired]
          rw [hfresh]
          cases hnone : isNone entry.answer with
          | true =>
              refine .inr ⟨?_, entry.answer, cache, hnone, .refl cache, ?_⟩
              · simp [Option.filter, hnone]
              · simp [hexpired]
          | false =>
              refine .inl ⟨entry, ?_, hnone, ?_⟩
              · simp [Option.filter, hnone]
              · simp [hexpired]

/-- A cleaning drops nothing that is fresh when it ends. -/
theorem goodAlike_clearExpired {clock : String → ℚ} (hclock : ∀ key, clock key ≤ now) :
    GoodAlike isFresh now (cache.clearExpired clock).2 cache := by
  have hdropped : (cache.clearExpired clock).2 = OrderedMap.filter cache fun entry =>
      !GoogleCache.isExpired entry.2 (clock entry.1) :=
    OrderedMap.foldl_erase_filter cache fun entry => GoogleCache.isExpired entry.2 (clock entry.1)
  rw [hdropped]
  exact goodAlike_filter fun key entry hfresh => expires_isFresh (hclock key) hfresh

/-- The entries that have not expired are the others. -/
theorem stats_eq (clock : String → ℚ) : (cache.stats clock).1 - (cache.stats clock).2 =
    (cache.entries.filter fun entry => isFresh (clock entry.1) entry.2).length := by
  have hsplit := cache.entries.length_eq_length_filter_add
    fun entry => GoogleCache.isExpired entry.2 (clock entry.1)
  simp only [GoogleCache.stats, isFresh]
  omega

end Upkeep

/-! ## A table that keeps everything -/

section Kept

variable {env : CacheEnv} {now : ℚ} {state kept : SharedCache}

/-- The same entries are fresh, and the same calls wait. -/
structure FreshAlike (now : ℚ) (state kept : SharedCache) : Prop where
  fresh : GoodAlike isFresh now state.cache kept.cache
  waiting : state.waiting = kept.waiting

theorem servedEntry_of_freshAlike (halike : FreshAlike now state kept) {call : MapsCall}
    (hread : call.readAt = now) :
    servedEntry env state.cache call = servedEntry env kept.cache call := by
  rw [servedEntry_eq_good?, servedEntry_eq_good?, hread, halike.fresh]

/-- A call is answered alike, and waits in both or in none. -/
theorem start_of_freshAlike (halike : FreshAlike now state kept) {task : ℕ} {call : MapsCall}
    (hread : call.readAt = now) :
    sharedReply env state (.start task call) = keptReply env kept (.start task call) ∧
      FreshAlike now (sharedStep env state (.start task call))
        (keptStep env kept (.start task call)) := by
  simp only [sharedReply, keptReply, sharedStep, keptStep]
  rw [← servedEntry_of_freshAlike halike hread]
  rcases get_cases env state.cache call with
    ⟨entry, hserved, hsome, hget⟩ | ⟨hserved, cachedResult, touched, hnone, htouched, hget⟩
  · rw [hget, hserved]
    simp only [hsome, Bool.false_eq_true, if_false]
    exact ⟨rfl, halike⟩
  · rw [hget, hserved]
    simp only [hnone, if_true]
    refine ⟨rfl, (hread ▸ htouched).trans halike.fresh, ?_⟩
    rw [halike.waiting]

/-- What is stored is stored in both. -/
theorem finish_of_freshAlike (halike : FreshAlike now state kept) (task : ℕ) (storedAt : ℚ) :
    FreshAlike now (state.finish env task storedAt) (kept.finish env task storedAt) := by
  unfold SharedCache.finish
  rw [halike.waiting]
  split
  · exact ⟨halike.fresh.set _ _, rfl⟩
  · exact halike

/-- As many entries are fresh when they are counted. -/
theorem stats_of_freshAlike (halike : FreshAlike now state kept) {clock : String → ℚ}
    (hclock : ∀ key, now ≤ clock key) :
    (state.cache.stats clock).1 - (state.cache.stats clock).2 =
      (kept.cache.entries.filter fun entry => isFresh (clock entry.1) entry.2).length := by
  rw [stats_eq]
  exact (halike.fresh.perm expires_isFresh hclock).length_eq

theorem hides_shared (env : CacheEnv) :
    Hides MapsEvent.time MapsEvent.Timed (sharedStep env) (sharedReply env) (keptStep env)
      (keptReply env) MapsEvent.isSeen FreshAlike where
  later hle halike := ⟨halike.fresh.later expires_isFresh hle, halike.waiting⟩
  answers := by
    intro now state kept event htimed hseen hhappens halike
    cases event with
    | start task call => exact (start_of_freshAlike halike (hhappens call.readAt rfl)).1
    | finish task storedAt =>
        simp only [sharedReply, keptReply]
        rw [halike.waiting]
    | clear clock endsAt => cases hseen
    | stats clock beginsAt =>
        obtain rfl : beginsAt = now := hhappens beginsAt rfl
        exact congrArg MapsReply.counted (stats_of_freshAlike halike htimed)
  keeps := by
    intro now state kept event htimed hseen hhappens halike
    cases event with
    | start task call => exact (start_of_freshAlike halike (hhappens call.readAt rfl)).2
    | finish task storedAt => exact finish_of_freshAlike halike task storedAt
    | clear clock endsAt => cases hseen
    | stats clock beginsAt => exact halike
  ignores := by
    intro now state kept event htimed hhidden hhappens halike
    cases event with
    | clear clock endsAt =>
        obtain rfl : endsAt = now := hhappens endsAt rfl
        exact ⟨(goodAlike_clearExpired htimed).trans halike.fresh, halike.waiting⟩
    | start task call => cases hhidden
    | finish task storedAt => cases hhidden
    | stats clock beginsAt => cases hhidden

/-- In every order of concurrent calls, cleanings and statistics whose times are in order, what is
seen is what is seen of a table that keeps, for every key, what was stored last, and from which
nothing is removed. -/
theorem wrapper_asIfKept (env : CacheEnv) (start : ℚ) (events : List MapsEvent)
    (htimed : ∀ event ∈ events, event.Timed) (horder : InOrder MapsEvent.time start events) :
    repliesOf (sharedStep env) (sharedReply env) MapsEvent.isSeen {} events =
      repliesOf (keptStep env) (keptReply env) MapsEvent.isSeen {}
        (events.filter MapsEvent.isSeen) :=
  repliesOf_filter (hides_shared env) htimed horder ⟨.refl _, rfl⟩

/-- Two calls for one search that wait for Google at once, a cleaning when they have expired, and a
third call. -/
def overlappingSearches : List MapsEvent :=
  [.start 0 (clientCall museumSearch museumApi 0), .start 1 (clientCall museumSearch museumApi 1),
    .finish 1 2, .finish 0 3, .start 2 (clientCall museumSearch museumApi 60),
    .clear (fun _ => 2000) 2000, .stats (fun _ => 2001) 2001,
    .start 3 (clientCall museumSearch museumApi 2002)]

theorem wrapper_asIfKept_overlappingSearches :
    repliesOf (sharedStep museumEnv) (sharedReply museumEnv) MapsEvent.isSeen {}
        overlappingSearches =
      repliesOf (keptStep museumEnv) (keptReply museumEnv) MapsEvent.isSeen {}
        (overlappingSearches.filter MapsEvent.isSeen) := by
  refine wrapper_asIfKept museumEnv 0 overlappingSearches ?_ ?_
  · simp only [overlappingSearches, List.forall_mem_cons]
    exact ⟨trivial, trivial, trivial, trivial, trivial, fun _ => le_refl _, fun _ => le_refl _,
      trivial, List.forall_mem_nil _⟩
  · simp only [overlappingSearches, InOrder, MapsEvent.time, clientCall]
    norm_num

end Kept

end Goveling.Places
