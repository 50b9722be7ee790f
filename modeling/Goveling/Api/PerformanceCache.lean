/-
# The cache of answers to requests

A decorator keeps what a function returns for some minutes, in one cache for all decorated
functions. The key is made of the name of the function and of a hash of the text of the
arguments, so functions of one name share their entries. A function that raises leaves the
cache as it was.
-/

import Goveling.Math.OrderedMap
import Goveling.Math.Runs
import Goveling.Python.Text

namespace Goveling.Api

open Goveling.Math Goveling.Python

/-- The decorated functions with their names and the minutes that they pass to the decorator,
the text of arguments, and its hash. -/
structure CacheResultEnv (F A : Type) where
  name : F → String
  expiryMinutes : F → ℚ
  argsText : A → String
  hash : String → ℤ

/-- A call of a decorated function: what the function returns or raises if it runs, and when
the cache is read and written to, in minutes. -/
structure CachedCall (F A V : Type) where
  function : F
  args : A
  outcome : Except PyError V
  readAt : ℚ
  storedAt : ℚ

/-- `_cache` and `_cache_expiry`. -/
structure PerformanceCache (V : Type) where
  cache : OrderedMap String V := .empty
  cacheExpiry : OrderedMap String ℚ := .empty

/-- What happens to the cache. -/
inductive CacheEvent (F A V : Type)
  | call (call : CachedCall F A V)
  | cleanup (now : ℚ)
  | clear

variable {F A V : Type}

namespace PerformanceCache

/-- The value under a key that has not expired. -/
def fresh (state : PerformanceCache V) (key : String) (now : ℚ) : Option V :=
  match state.cache.get? key, state.cacheExpiry.get? key with
  | some value, some expiryTime => if now < expiryTime then some value else none
  | _, _ => none

/-- `cleanup_expired_cache`. -/
def cleanupExpiredCache (state : PerformanceCache V) (now : ℚ) : PerformanceCache V :=
  let expiredKeys := (state.cacheExpiry.filter fun entry => entry.2 < now).keys
  { cache := expiredKeys.foldl OrderedMap.erase state.cache
    cacheExpiry := expiredKeys.foldl OrderedMap.erase state.cacheExpiry }

/-- `clear_cache`. -/
def clearCache : PerformanceCache V := {}

end PerformanceCache

section Decorator

variable (env : CacheResultEnv F A)

/-- `cache_key`. -/
def CachedCall.key (call : CachedCall F A V) : String :=
  env.name call.function ++ ":" ++ toString (env.hash (env.argsText call.args))

/-- `wrapper` of `cache_result`, and the cache after it. -/
def cacheResult (state : PerformanceCache V) (call : CachedCall F A V) :
    Except PyError V × PerformanceCache V :=
  match state.fresh (call.key env) call.readAt with
  | some value => (.ok value, state)
  | none =>
      match call.outcome with
      | .error e => (.error e, state)
      | .ok result =>
          (.ok result,
            { cache := state.cache.set (call.key env) result
              cacheExpiry := state.cacheExpiry.set (call.key env)
                (call.storedAt + env.expiryMinutes call.function) })

/-- The cache after an event. -/
def afterEvent (state : PerformanceCache V) : CacheEvent F A V → PerformanceCache V
  | .call call => (cacheResult env state call).2
  | .cleanup now => state.cleanupExpiredCache now
  | .clear => .clearCache

/-- The cache after events, from the empty one. -/
def cacheAfterEvents (events : List (CacheEvent F A V)) : PerformanceCache V :=
  runEnd (afterEvent env) {} events

/-! ## What the decorator promises -/

/-- A call ran its function some time in the past. -/
def Ran (past : List (CacheEvent F A V)) (call : CachedCall F A V) : Prop :=
  ∃ before after, past = before ++ .call call :: after ∧
    (cacheAfterEvents env before).fresh (call.key env) call.readAt = none

/-- What a call returns was produced by its own run, or by one of an alike function on the
same arguments less than the minutes of that function ago. If what is stored has expired,
the function runs, and a call that raises leaves the cache as it was. -/
structure KeepsPromise (Alike : F → F → Prop) (past : List (CacheEvent F A V))
    (call : CachedCall F A V) : Prop where
  produced : ∀ value, (cacheResult env (cacheAfterEvents env past) call).1 = .ok value →
    (cacheAfterEvents env past).fresh (call.key env) call.readAt = none ∧
        call.outcome = .ok value ∨
      ∃ maker, Ran env past maker ∧ Alike maker.function call.function ∧
        maker.args = call.args ∧ maker.outcome = .ok value ∧
          call.readAt - maker.storedAt < env.expiryMinutes maker.function
  recomputed : ∀ expiryTime,
    (cacheAfterEvents env past).cacheExpiry.get? (call.key env) = some expiryTime →
      expiryTime ≤ call.readAt →
        (cacheResult env (cacheAfterEvents env past) call).1 = call.outcome
  raised : ∀ e, (cacheResult env (cacheAfterEvents env past) call).1 = .error e →
    (cacheResult env (cacheAfterEvents env past) call).2 = cacheAfterEvents env past

/-- Every call of a sequence of events keeps the promise. -/
def KeepsPromises (Alike : F → F → Prop) (events : List (CacheEvent F A V)) : Prop :=
  ∀ past call later, events = past ++ .call call :: later → KeepsPromise env Alike past call

end Decorator

variable {env : CacheResultEnv F A} {past events : List (CacheEvent F A V)}
  {call maker : CachedCall F A V} {state : PerformanceCache V}

/-! ## Keys -/

/-- The text before the last colon and the number after it can be told from a key. -/
theorem keyText_colon_inj {first second : String} {m n : ℤ}
    (hsame : first ++ ":" ++ toString m = second ++ ":" ++ toString n) :
    first = second ∧ m = n := by
  have hchars := congrArg (fun text : String => text.toList.reverse) hsame
  simp only [String.toList_append, List.reverse_append, List.append_assoc] at hchars
  have hnumbers : ∀ number : ℤ, ∀ c ∈ (toString number).toList.reverse, c ≠ ':' := by
    intro number c hc hcolon
    rw [List.mem_reverse, hcolon] at hc
    exact not_mem_toString rfl (by decide) number hc
  obtain ⟨hnumber, hname⟩ := append_separator_inj (P := fun c => c ≠ ':') (not_not.mpr rfl)
    (hnumbers m) (hnumbers n) hchars
  exact ⟨String.toList_injective (List.reverse_injective hname),
    toString_injective (String.toList_injective (List.reverse_injective hnumber))⟩

/-! ## What is stored -/

theorem fresh_eq_some_iff {key : String} {now : ℚ} {value : V} :
    state.fresh key now = some value ↔ state.cache.get? key = some value ∧
      ∃ expiryTime, state.cacheExpiry.get? key = some expiryTime ∧ now < expiryTime := by
  unfold PerformanceCache.fresh
  cases state.cache.get? key with
  | none => simp
  | some found =>
      cases state.cacheExpiry.get? key with
      | none => simp
      | some expiryTime => simp [and_comm]

/-- A call is answered from the cache, raises, or stores what its function returns. -/
theorem cacheResult_cases (env : CacheResultEnv F A) (state : PerformanceCache V)
    (call : CachedCall F A V) :
    (∃ value, state.fresh (call.key env) call.readAt = some value ∧
      cacheResult env state call = (.ok value, state)) ∨
    (state.fresh (call.key env) call.readAt = none ∧
      ((∃ e, call.outcome = .error e ∧ cacheResult env state call = (.error e, state)) ∨
        ∃ result, call.outcome = .ok result ∧ cacheResult env state call = (.ok result,
          { cache := state.cache.set (call.key env) result
            cacheExpiry := state.cacheExpiry.set (call.key env)
              (call.storedAt + env.expiryMinutes call.function) }))) := by
  unfold cacheResult
  cases state.fresh (call.key env) call.readAt with
  | some value => exact .inl ⟨value, rfl, rfl⟩
  | none =>
      cases call.outcome with
      | error e => exact .inr ⟨rfl, .inl ⟨e, rfl, rfl⟩⟩
      | ok result => exact .inr ⟨rfl, .inr ⟨result, rfl, rfl⟩⟩

/-- Every value that is stored with an expiry was returned by a call that ran its function,
under its key, and expires when it is to. -/
def Explains (env : CacheResultEnv F A) (past : List (CacheEvent F A V))
    (state : PerformanceCache V) : Prop :=
  ∀ key value expiryTime, state.cache.get? key = some value →
    state.cacheExpiry.get? key = some expiryTime →
      ∃ maker, Ran env past maker ∧ maker.key env = key ∧ maker.outcome = .ok value ∧
        expiryTime = maker.storedAt + env.expiryMinutes maker.function

theorem Ran.append (hran : Ran env past maker) (event : CacheEvent F A V) :
    Ran env (past ++ [event]) maker := by
  obtain ⟨before, after, hsplit, hfresh⟩ := hran
  refine ⟨before, after ++ [event], ?_, hfresh⟩
  rw [hsplit, List.append_assoc, List.cons_append]

theorem Explains.append (hstate : Explains env past state) (event : CacheEvent F A V) :
    Explains env (past ++ [event]) state := by
  intro key value expiryTime hvalue hexpiry
  obtain ⟨maker, hran, hmaker⟩ := hstate key value expiryTime hvalue hexpiry
  exact ⟨maker, hran.append event, hmaker⟩

/-- What a call stores is explained by the call itself. -/
theorem Explains.cacheResult (hstate : Explains env past (cacheAfterEvents env past))
    (call : CachedCall F A V) : Explains env (past ++ [.call call])
      (Api.cacheResult env (cacheAfterEvents env past) call).2 := by
  rcases cacheResult_cases env (cacheAfterEvents env past) call with
    ⟨value, -, hreply⟩ | ⟨hfresh, ⟨e, -, hreply⟩ | ⟨result, houtcome, hreply⟩⟩
  · rw [hreply]
    exact hstate.append _
  · rw [hreply]
    exact hstate.append _
  · rw [hreply]
    intro key value expiryTime hvalue hexpiry
    rw [OrderedMap.get?_set] at hvalue hexpiry
    by_cases hkey : key = call.key env
    · rw [if_pos hkey] at hvalue hexpiry
      cases hvalue
      cases hexpiry
      exact ⟨call, ⟨past, [], rfl, hfresh⟩, hkey.symm, houtcome, rfl⟩
    · rw [if_neg hkey] at hvalue hexpiry
      exact hstate.append _ key value expiryTime hvalue hexpiry

/-- Cleaning up keeps some entries with their expiries. -/
theorem Explains.cleanup (hstate : Explains env past state) (now : ℚ) :
    Explains env past (state.cleanupExpiredCache now) := by
  intro key value expiryTime hvalue hexpiry
  unfold PerformanceCache.cleanupExpiredCache at hvalue hexpiry
  dsimp only at hvalue hexpiry
  rw [OrderedMap.get?_foldl_erase] at hvalue hexpiry
  split at hvalue
  · cases hvalue
  · rename_i hkept
    rw [if_neg hkept] at hexpiry
    exact hstate key value expiryTime hvalue hexpiry

theorem explains_cacheAfterEvents (env : CacheResultEnv F A) (events : List (CacheEvent F A V)) :
    Explains env events (cacheAfterEvents env events) := by
  induction events using List.reverseRecOn with
  | nil =>
      intro key value expiryTime hvalue
      cases hvalue
  | append_singleton past event ih =>
      have hlast : cacheAfterEvents env (past ++ [event]) =
          afterEvent env (cacheAfterEvents env past) event := runEnd_append _ _ _
      rw [hlast]
      cases event with
      | call call => exact ih.cacheResult call
      | cleanup now => exact (ih.cleanup now).append _
      | clear =>
          intro key value expiryTime hvalue
          cases hvalue

/-- If the hash of the text tells arguments apart, then in every sequence of calls, with
cleaning up in between, what a call returns was produced by its own run or by one of a
function of the same name, on the same arguments and less than the minutes of that function
ago; what has expired is produced again; and a call that raises leaves the cache alone. -/
theorem cacheResult_keepsPromises_byName (env : CacheResultEnv F A)
    (hargs : Function.Injective fun args => env.hash (env.argsText args))
    (events : List (CacheEvent F A V)) :
    KeepsPromises env (fun maker function => env.name maker = env.name function) events := by
  intro past call later _
  have hstored := explains_cacheAfterEvents env past
  rcases cacheResult_cases env (cacheAfterEvents env past) call with
    ⟨value, hfresh, hreply⟩ | ⟨hfresh, ⟨e, houtcome, hreply⟩ | ⟨result, houtcome, hreply⟩⟩
  · obtain ⟨hvalue, expiryTime, hexpiry, hunexpired⟩ := fresh_eq_some_iff.mp hfresh
    refine ⟨fun other hother => .inr ?_, fun time htime hexpired => ?_, fun e hraised => ?_⟩
    · rw [hreply] at hother
      cases hother
      obtain ⟨maker, hran, hkey, hmade, hends⟩ := hstored _ value expiryTime hvalue hexpiry
      obtain ⟨hname, hhash⟩ := keyText_colon_inj hkey
      exact ⟨maker, hran, hname, hargs hhash, hmade, by linarith⟩
    · cases hexpiry.symm.trans htime
      exact absurd hunexpired (not_lt.mpr hexpired)
    · rw [hreply] at hraised
      cases hraised
  · refine ⟨fun value hvalue => ?_, fun _ _ _ => ?_, fun _ _ => ?_⟩
    · rw [hreply] at hvalue
      cases hvalue
    · rw [hreply, houtcome]
    · rw [hreply]
  · refine ⟨fun value hvalue => .inl ?_, fun _ _ _ => ?_, fun e hraised => ?_⟩
    · rw [hreply] at hvalue
      cases hvalue
      exact ⟨hfresh, houtcome⟩
    · rw [hreply, houtcome]
    · rw [hreply] at hraised
      cases hraised

/-! ## Two searches of one name -/

/-- Two functions that are both called `search`. -/
inductive SearchFunction
  | hotels
  | museums
  deriving DecidableEq

/-- Both are kept for five minutes, and the hash of a number is the number. -/
def searchEnv : CacheResultEnv SearchFunction ℤ where
  name _ := "search"
  expiryMinutes _ := 5
  argsText args := toString args
  hash text := (wholeNumber? text.toList).getD 0

theorem hash_argsText_searchEnv :
    Function.Injective fun args => searchEnv.hash (searchEnv.argsText args) := by
  have hread : ∀ number : ℤ, searchEnv.hash (searchEnv.argsText number) = number := by
    intro number
    show (wholeNumber? (toString number).toList).getD 0 = number
    rw [wholeNumber?_toString]
    rfl
  intro first second hsame
  calc first = searchEnv.hash (searchEnv.argsText first) := (hread first).symm
    _ = searchEnv.hash (searchEnv.argsText second) := hsame
    _ = second := hread second

/-- A call that returns a number if it runs. -/
def searchCall (function : SearchFunction) (result : ℕ) (now : ℚ) :
    CachedCall SearchFunction ℤ ℕ where
  function := function
  args := 7
  outcome := .ok result
  readAt := now
  storedAt := now

/-- A search for hotels, and a minute later one for museums. -/
def twoSearches : List (CacheEvent SearchFunction ℤ ℕ) :=
  [.call (searchCall .hotels 1 0), .call (searchCall .museums 2 1)]

/-- The search for museums gets the hotels. -/
theorem not_keepsPromises_twoSearches :
    (Function.Injective fun args => searchEnv.hash (searchEnv.argsText args)) ∧
      ¬ KeepsPromises searchEnv Eq twoSearches := by
  refine ⟨hash_argsText_searchEnv, fun hkeeps => ?_⟩
  have hserved : (cacheAfterEvents searchEnv [.call (searchCall .hotels 1 0)]).fresh
      ((searchCall .museums 2 1).key searchEnv) 1 = some 1 := by
    decide +kernel
  have hanswer : (cacheResult searchEnv
      (cacheAfterEvents searchEnv [.call (searchCall .hotels 1 0)])
      (searchCall .museums 2 1)).1 = .ok 1 := by
    unfold cacheResult
    rw [show (searchCall .museums 2 1).readAt = 1 from rfl, hserved]
  rcases (hkeeps [.call (searchCall .hotels 1 0)] (searchCall .museums 2 1) [] rfl).produced 1
    hanswer with ⟨hnone, -⟩ | ⟨maker, ⟨before, after, hsplit, -⟩, hfunction, -⟩
  · exact absurd (hserved.symm.trans hnone) (Option.some_ne_none 1)
  · have hmem : .call maker ∈ [CacheEvent.call (searchCall .hotels 1 0)] := by
      rw [hsplit]
      exact List.mem_append_right _ List.mem_cons_self
    cases List.mem_singleton.mp hmem
    cases hfunction

/-- What the two searches get was produced by a function that is called `search`. -/
theorem keepsPromises_twoSearches :
    KeepsPromises searchEnv
      (fun maker function => searchEnv.name maker = searchEnv.name function) twoSearches :=
  cacheResult_keepsPromises_byName searchEnv hash_argsText_searchEnv twoSearches

end Goveling.Api
