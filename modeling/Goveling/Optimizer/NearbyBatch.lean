/-
# Searches for places that run out of time

Calls that fail while others are in flight add up in the breaker of the places service. If all
that can fail in a search of many locations is less than what opens the breaker, no location is
turned away: each gets the first answer of the service. The service of the optimizer is
`search_nearby`, which never raises, so that only time can run out: then a location gets what its
first search in time has found, and places of last resort only when all four came too late.
-/

import Goveling.Math.TaskTotals
import Goveling.Optimizer.PlacesBatch
import Goveling.Places.NearbyFallback
import Mathlib.Data.Set.List

namespace Goveling.Optimizer

open Goveling.Math Goveling.Places Goveling.Python

/-! ## Searches that are not turned away -/

namespace PlacesCall

variable (call : PlacesCall)

/-- An attempt raises. -/
def raises (attempt : ℕ) : Bool :=
  match call.replies attempt with
  | .ok _ => false
  | .error _ => true

theorem raises_of_error {call : PlacesCall} {attempt : ℕ} {failure : PlacesFailure}
    (hreply : call.replies attempt = .error failure) : call.raises attempt = true := by
  rw [raises, hreply]

/-- How many attempts raise from some attempt on. -/
def raisesFrom (attempt : ℕ) : ℕ :=
  (List.range' attempt (maxRetries + 1 - attempt)).countP call.raises

/-- How many attempts of a search may still raise. -/
def ahead (task : PlacesTask) : ℕ := call.raisesFrom task.attempt

/-- An attempt that raises is one less for those that follow. -/
theorem raisesFrom_eq {attempt : ℕ} (hle : attempt ≤ maxRetries) :
    call.raisesFrom attempt =
      call.raisesFrom (attempt + 1) + if call.raises attempt then 1 else 0 := by
  obtain ⟨n, hn⟩ := Nat.exists_eq_add_of_le hle
  have hthis : maxRetries + 1 - attempt = n + 1 := by omega
  have hnext : maxRetries + 1 - (attempt + 1) = n := by omega
  rw [raisesFrom, raisesFrom, hthis, hnext, List.range'_succ, List.countP_cons]

end PlacesCall

/-- What comes back for a search that is not turned away: the first answer of the service, or
places that are made up when the quota is used up first, or when all attempts fail. -/
inductive Hears (givenUp : PlacesCall → ℚ → List PyDict) (call : PlacesCall) :
    List PyDict → Prop
  | answered (n : ℕ) (places : List PyDict) (hle : n ≤ maxRetries)
      (hbefore : ∀ k < n, call.Fails k) (hreply : call.replies n = .ok places) :
      Hears givenUp call places
  | quota (n : ℕ) (later : ℚ) (hle : n ≤ maxRetries) (hbefore : ∀ k < n, call.Fails k)
      (hreply : call.replies n = .error .quotaExceeded) :
      Hears givenUp call (syntheticPlacesFallback call later)
  | exhausted (later : ℚ) (hall : ∀ k ≤ maxRetries, call.Fails k) :
      Hears givenUp call (givenUp call later)

/-- The breaker lets calls through, and opens at a threshold. -/
structure CircuitBreaker.Admits (threshold : ℕ) (breaker : CircuitBreaker) : Prop where
  state : breaker.state ≠ .opened
  threshold : breaker.failureThreshold = threshold

section Promises

variable (givenUp : PlacesCall → ℚ → List PyDict) (threshold : ℕ)

/-- The promises of searches that are not turned away. -/
def admittedSpec : TaskSpec CircuitBreaker PlacesCall PlacesTask PlacesEvent (List PyDict) where
  event _ _ := True
  shared := CircuitBreaker.Admits threshold
  memory call task := task.attempt ≤ maxRetries ∧ ∀ k < task.attempt, call.Fails k
  result := Hears givenUp

variable {givenUp threshold} {body : PlacesBody} {call : PlacesCall}

theorem CircuitBreaker.Admits.isOpen {breaker : CircuitBreaker} (hadmits : breaker.Admits threshold)
    (now : ℚ) : breaker.isOpen now = .ok (false, breaker) :=
  if_neg hadmits.state

theorem CircuitBreaker.Admits.recordSuccess {breaker : CircuitBreaker}
    (hadmits : breaker.Admits threshold) : breaker.recordSuccess.Admits threshold where
  state := by
    show BreakerState.closed ≠ .opened
    decide
  threshold := hadmits.threshold

theorem CircuitBreaker.failureCount_of_allow {breaker admitted : CircuitBreaker} {now : ℚ}
    (hallowed : breaker.allow now = some admitted) :
    admitted.failureCount = breaker.failureCount := by
  rcases CircuitBreaker.allow_cases hallowed with ⟨-, rfl⟩ | ⟨-, rfl⟩ <;> rfl

/-- A failure that is not one too many leaves the breaker as open to calls as it was. -/
theorem CircuitBreaker.Admits.recordFailure {breaker : CircuitBreaker}
    (hadmits : breaker.Admits threshold) {now : ℚ}
    (hfew : (breaker.recordFailure now).failureCount < threshold) :
    (breaker.recordFailure now).Admits threshold := by
  refine ⟨?_, hadmits.threshold⟩
  have hless : ¬breaker.failureThreshold ≤ breaker.failureCount + 1 := by
    rw [hadmits.threshold]
    exact not_le.mpr hfew
  show (if breaker.failureThreshold ≤ breaker.failureCount + 1 then .opened
    else breaker.state) ≠ BreakerState.opened
  rw [if_neg hless]
  exact hadmits.state

/-- An attempt that failed is followed by another, or by what is made up after all of them. -/
theorem admitted_placesRetry {later : ℚ} {attempt : ℕ} (hle : attempt ≤ maxRetries)
    (hbefore : ∀ k < attempt, call.Fails k) (hfails : call.Fails attempt) :
    (admittedSpec givenUp threshold).Admits call
      (.after (placesRetry (givenUp call later) attempt)) := by
  have hall : ∀ k < attempt + 1, call.Fails k :=
    Nat.forall_lt_succ_right.mpr ⟨hbefore, hfails⟩
  unfold placesRetry
  by_cases hretry : attempt < maxRetries
  · rw [if_pos hretry]
    exact ⟨hretry, hall⟩
  · rw [if_neg hretry]
    exact .exhausted later fun k hk => hall k (by omega)

/-- As long as the failures are fewer than the threshold, no search is turned away. -/
theorem keptBy_within (hfresh : ∀ call, body.fresh call = {}) (hact : body.act = placesAct givenUp)
    {bound : ℕ} (hbound : bound < threshold) :
    (admittedSpec givenUp threshold).KeptBy (body.within CircuitBreaker.failureCount bound) where
  fresh call := by
    show (body.fresh call).attempt ≤ maxRetries ∧ ∀ k < (body.fresh call).attempt, call.Fails k
    rw [hfresh]
    exact ⟨Nat.zero_le _, fun k hk => absurd hk (Nat.not_lt_zero k)⟩
  act := by
    intro call breaker task event breaker' outcome _ hadmits hmemory hstep
    obtain ⟨hstep, hwithin⟩ := Option.filter_eq_some_iff.mp hstep
    have hfew : breaker'.failureCount < threshold := (of_decide_eq_true hwithin).trans_lt hbound
    obtain ⟨hle, hbefore⟩ := hmemory
    rw [hact] at hstep
    cases placesActs_of_placesAct hstep with
    | unanswered now later e hidle hopen =>
        rw [hadmits.isOpen] at hopen
        cases hopen
    | turnedAway now later hidle hopen =>
        rw [hadmits.isOpen] at hopen
        cases hopen
    | admitted now later admitted hidle hallowed =>
        rw [CircuitBreaker.allow_of_not_opened hadmits.state] at hallowed
        cases hallowed
        exact ⟨hadmits, hle, hbefore⟩
    | answered now later places hflight hreply =>
        exact ⟨hadmits.recordSuccess, .answered task.attempt places hle hbefore hreply⟩
    | quota now later hflight hreply =>
        exact ⟨hadmits.recordFailure hfew, .quota task.attempt later hle hbefore hreply⟩
    | failed now later hflight hfails =>
        exact ⟨hadmits.recordFailure hfew, admitted_placesRetry hle hbefore hfails⟩

/-- What an attempt leaves for those that may follow it. -/
theorem outstanding_placesRetry_le (body : PlacesBody) (call : PlacesCall) (made : List PyDict)
    (attempt : ℕ) :
    body.outstanding PlacesCall.ahead ⟨call, .after (placesRetry made attempt)⟩ ≤
      call.raisesFrom (attempt + 1) := by
  unfold placesRetry
  by_cases hretry : attempt < maxRetries
  · rw [if_pos hretry]
    exact le_rfl
  · rw [if_neg hretry]
    exact Nat.zero_le _

/-- The breaker counts a failure only when an attempt has raised. -/
theorem adds_placesAct (hact : body.act = placesAct givenUp) :
    (admittedSpec givenUp threshold).Adds body CircuitBreaker.failureCount PlacesCall.ahead := by
  intro call breaker task event breaker' outcome hmemory hstep
  have hahead : call.ahead task = _ := call.raisesFrom_eq hmemory.1
  rw [hact] at hstep
  cases placesActs_of_placesAct hstep with
  | unanswered now later e hidle hopen =>
      have hrest := outstanding_placesRetry_le body call (givenUp call later) task.attempt
      omega
  | turnedAway now later hidle hopen => exact Nat.add_le_add_left (Nat.zero_le _) _
  | admitted now later admitted hidle hallowed =>
      rw [CircuitBreaker.failureCount_of_allow hallowed]
      exact le_rfl
  | answered now later places hflight hreply => exact Nat.zero_le _
  | quota now later hflight hreply =>
      rw [PlacesCall.raises_of_error hreply, if_pos rfl] at hahead
      show breaker.failureCount + 1 + 0 ≤ breaker.failureCount + call.ahead task
      omega
  | failed now later hflight hfails =>
      obtain ⟨failure, hreply, -⟩ := hfails
      rw [PlacesCall.raises_of_error hreply, if_pos rfl] at hahead
      have hrest := outstanding_placesRetry_le body call (givenUp call later) task.attempt
      have hcount : (breaker.recordFailure now).failureCount = breaker.failureCount + 1 := rfl
      omega

end Promises

/-! ## Batches that are not turned away -/

/-- How many attempts of all searches raise. -/
def raisesOf (calls : List PlacesCall) : ℕ := (calls.map fun call => call.raisesFrom 0).sum

theorem raisesOf_append (calls others : List PlacesCall) :
    raisesOf (calls ++ others) = raisesOf calls + raisesOf others := by
  simp [raisesOf]

section Batches

variable {floatText : ℚ → String} {threshold : ℕ} {breaker breaker' : CircuitBreaker}
  {batch : List PlacesCall} {turns : List (Turn PlacesEvent)}
  {schedule : List (List (Turn PlacesEvent))} {results : List (List PyDict)}

/-- In every order of the turns of a batch, no location of it is turned away. -/
theorem hears_searchBatch (hadmits : breaker.Admits threshold)
    (hfew : breaker.failureCount + raisesOf batch < threshold)
    (hsearch : searchBatch floatText breaker batch turns = some (results, breaker')) :
    List.Forall₂ (Hears fun call _ => emergencyPlacesFallback floatText call) batch results ∧
      breaker'.Admits threshold ∧
        breaker'.failureCount ≤ breaker.failureCount + raisesOf batch := by
  obtain ⟨group, hrun, hrest⟩ := Option.bind_eq_some_iff.mp hsearch
  obtain ⟨found, hfound, hsome⟩ := Option.bind_eq_some_iff.mp hrest
  cases hsome
  have htotal : (placesServiceRobust floatText).total CircuitBreaker.failureCount
      PlacesCall.ahead (.ofJobs breaker batch) = breaker.failureCount + raisesOf batch :=
    TaskBody.total_ofJobs breaker batch
  have hstart : (admittedSpec (fun call _ => emergencyPlacesFallback floatText call)
      threshold).Holds (batchPermits batch) (.ofJobs breaker batch) :=
    TaskSpec.holds_ofJobs hadmits batch
  have hallows : ∀ turn ∈ turns, (admittedSpec (fun call _ => emergencyPlacesFallback floatText
      call) threshold).Allows (TaskGroup.ofJobs breaker batch : PlacesGroup).jobs turn := by
    intro turn _
    cases turn with
    | start task => trivial
    | act task event => exact fun _ _ => trivial
  obtain ⟨hholds, hless⟩ := hstart.run?_within (keptBy_within (fun _ => rfl) rfl hfew)
    (adds_placesAct rfl) htotal.le hallows hrun
  have hall := hholds.forall₂_results hfound
  rw [TaskBody.jobs_run? hrun, TaskGroup.jobs_ofJobs] at hall
  exact ⟨hall, hholds.shared, (TaskBody.level_le_total group).trans (hless.trans htotal.le)⟩

theorem hears_searchBatches (hadmits : breaker.Admits threshold)
    {batches : List (List PlacesCall)}
    (hfew : breaker.failureCount + raisesOf batches.flatten < threshold)
    (hsearch : searchBatches floatText breaker batches schedule = some (results, breaker')) :
    List.Forall₂ (Hears fun call _ => emergencyPlacesFallback floatText call) batches.flatten
        results ∧ breaker'.Admits threshold ∧
      breaker'.failureCount ≤ breaker.failureCount + raisesOf batches.flatten := by
  induction batches generalizing breaker schedule results with
  | nil =>
      obtain ⟨-, rfl, rfl⟩ := searchBatches_nil_eq_some hsearch
      exact ⟨.nil, hadmits, Nat.le_add_right _ _⟩
  | cons batch rest ih =>
      obtain ⟨turns, later, first, between, others, -, rfl, hfirst, hothers⟩ :=
        searchBatches_cons_eq_some hsearch
      rw [List.flatten_cons, raisesOf_append] at hfew ⊢
      obtain ⟨hheard, hbetween, hcount⟩ := hears_searchBatch hadmits (by omega) hfirst
      obtain ⟨hlater, hlast, hcount'⟩ := ih hbetween (by omega) hothers
      exact ⟨List.rel_append hheard hlater, hlast, by omega⟩

end Batches

/-! ## The service of the optimizer -/

/-- A search of `search_nearby` for a location: its arguments, with the other keyword that places
of last resort read, what the client of Google replies to the attempts of each call, and which
calls end before the timeout of the breaker. -/
structure NearbyCall (maps : MapsEnv) where
  lat : ℚ
  lon : ℚ
  type : Option String := none
  types : Option (List String) := none
  radiusM : ℤ := 3000
  limit : ℤ := 3
  synthetic : SyntheticEnv
  client : ℕ → ℕ → List PyVal
  replies : ∀ attempt again, Replies maps (client attempt again)
  inTime : ℕ → Bool

/-- The dictionaries of a list. -/
def dictsOf (places : List PyVal) : List PyDict :=
  places.filterMap fun
    | .dict fields => some fields
    | _ => none

theorem dictsOf_map_dict (fields : List PyDict) : dictsOf (fields.map .dict) = fields := by
  induction fields with
  | nil => rfl
  | cons first rest ih => exact congrArg (first :: ·) ih

namespace NearbyCall

variable {maps : MapsEnv} (search : NearbyCall maps)

/-- The arguments of `search_nearby`. -/
def query : NearbyQuery where
  lat := search.lat
  lon := search.lon
  types := search.types
  radiusM := search.radiusM
  limit := search.limit

/-- What a call of `search_nearby` returns, if it is not too late. -/
def answer (attempt : ℕ) : Except PyError (List PyVal) :=
  searchNearby search.synthetic search.query fun again => .ok (search.client attempt again)

/-- The search as the optimizer makes it: `wait_for` raises when a call takes too long. -/
def call : PlacesCall where
  lat := search.lat
  lon := search.lon
  kwargs := { type := search.type, types := search.types }
  replies attempt :=
    if search.inTime attempt then
      match search.answer attempt with
      | .ok places => .ok (dictsOf places)
      | .error _ => .error .other
    else .error .connection

/-- How many calls are too late. -/
def late : ℕ := (List.range (maxRetries + 1)).countP fun attempt => !search.inTime attempt

/-- What a call of the service returns are places. -/
theorem exists_answer (attempt : ℕ) : ∃ places : List PyDict,
    search.answer attempt = .ok (places.map .dict) ∧
      Finds search.synthetic search.query (fun again => .ok (search.client attempt again))
        (places.map .dict) := by
  obtain ⟨found, hfound, hfinds⟩ := exists_searchNearby search.synthetic search.query
    fun again => .ok (search.client attempt again)
  obtain ⟨places, rfl⟩ : found ∈ Set.range (List.map PyVal.dict) := by
    rw [Set.range_list_map]
    intro place hplace
    obtain ⟨fields, rfl⟩ := hfinds.exists_fields (fun again results hreply => by
      cases hreply
      exact search.replies attempt again) place hplace
    exact ⟨fields, rfl⟩
  exact ⟨places, hfound, hfinds⟩

/-- The service answers a call that is in time, and raises only when it is too late. -/
theorem replies_call (attempt : ℕ) :
    (search.inTime attempt = true ∧ ∃ places, search.call.replies attempt = .ok places ∧
      search.answer attempt = .ok (places.map .dict) ∧
        Finds search.synthetic search.query (fun again => .ok (search.client attempt again))
          (places.map .dict)) ∨
      search.inTime attempt = false ∧ search.call.replies attempt = .error .connection := by
  cases htime : search.inTime attempt with
  | false => exact .inr ⟨rfl, by simp [call, htime]⟩
  | true =>
      obtain ⟨places, hanswer, hfinds⟩ := search.exists_answer attempt
      refine .inl ⟨rfl, places, ?_, hanswer, hfinds⟩
      simp only [call, htime, if_true, hanswer, dictsOf_map_dict]

theorem inTime_of_fails {attempt : ℕ} (hfails : search.call.Fails attempt) :
    search.inTime attempt = false := by
  obtain ⟨failure, hreply, -⟩ := hfails
  rcases search.replies_call attempt with ⟨-, places, hplaces, -⟩ | ⟨hlate, -⟩
  · rw [hplaces] at hreply
    cases hreply
  · exact hlate

theorem raises_call (attempt : ℕ) : search.call.raises attempt = !search.inTime attempt := by
  rcases search.replies_call attempt with ⟨htime, places, hplaces, -⟩ | ⟨hlate, hreply⟩
  · rw [PlacesCall.raises, hplaces, htime]
    rfl
  · rw [PlacesCall.raises, hreply, hlate]
    rfl

theorem raisesFrom_call : search.call.raisesFrom 0 = search.late := by
  unfold PlacesCall.raisesFrom late
  rw [← List.range_eq_range', funext search.raises_call]
  rfl

end NearbyCall

/-- What comes back for a location: what `search_nearby` found in the first call that was in time,
or places of last resort when all calls were too late. -/
inductive FirstInTime (floatText : ℚ → String) {maps : MapsEnv} (search : NearbyCall maps) :
    List PyDict → Prop
  | found (n : ℕ) (places : List PyDict) (hle : n ≤ maxRetries)
      (hbefore : ∀ k < n, search.inTime k = false) (htime : search.inTime n = true)
      (hanswer : search.answer n = .ok (places.map .dict))
      (hfinds : Finds search.synthetic search.query (fun again => .ok (search.client n again))
        (places.map .dict)) :
      FirstInTime floatText search places
  | late (hall : ∀ k ≤ maxRetries, search.inTime k = false) :
      FirstInTime floatText search (emergencyPlacesFallback floatText search.call)

section Nearby

variable {floatText : ℚ → String} {maps : MapsEnv}

/-- A search of `search_nearby` that is not turned away never meets the quota. -/
theorem Hears.firstInTime {search : NearbyCall maps} {places : List PyDict}
    (hhears : Hears (fun call _ => emergencyPlacesFallback floatText call) search.call places) :
    FirstInTime floatText search places := by
  cases hhears with
  | answered n places hle hbefore hreply =>
      rcases search.replies_call n with ⟨htime, found, hfound, hanswer, hfinds⟩ | ⟨-, hlate⟩
      · rw [hfound] at hreply
        cases hreply
        exact .found n _ hle (fun k hk => search.inTime_of_fails (hbefore k hk)) htime hanswer
          hfinds
      · rw [hlate] at hreply
        cases hreply
  | quota n later hle hbefore hreply =>
      rcases search.replies_call n with ⟨-, found, hfound, -⟩ | ⟨-, hlate⟩
      · rw [hfound] at hreply
        cases hreply
      · rw [hlate] at hreply
        cases hreply
  | exhausted later hall => exact .late fun k hk => search.inTime_of_fails (hall k hk)

theorem raisesOf_map_call (searches : List (NearbyCall maps)) :
    raisesOf (searches.map NearbyCall.call) = (searches.map NearbyCall.late).sum := by
  rw [raisesOf, List.map_map]
  exact congrArg List.sum (List.map_congr_left fun search _ => search.raisesFrom_call)

/-- If the calls of `search_nearby` that are too late are fewer than the failures that the breaker
still stands, then in every order of the turns of all batches no location is turned away: each
gets what its first call in time has found, and places of last resort only if all its calls were
too late. The places that the quota would bring never come back, and the breaker lets calls
through all the time. -/
theorem batchPlacesSearch_nearby (floatText : ℚ → String) (maps : MapsEnv)
    (breaker : CircuitBreaker) (hstate : breaker.state ≠ .opened)
    (searches : List (NearbyCall maps))
    (hfew : breaker.failureCount + (searches.map NearbyCall.late).sum < breaker.failureThreshold)
    (schedule : List (List (Turn PlacesEvent))) (results : List (List PyDict))
    (breaker' : CircuitBreaker)
    (hsearch : batchPlacesSearch floatText breaker (searches.map NearbyCall.call) schedule =
      some (results, breaker')) :
    List.Forall₂ (FirstInTime floatText) searches results ∧ breaker'.state ≠ .opened ∧
      breaker'.failureCount ≤ breaker.failureCount + (searches.map NearbyCall.late).sum := by
  have hadmits : breaker.Admits breaker.failureThreshold := ⟨hstate, rfl⟩
  have hflatten := flatten_slicesOf (searches.map NearbyCall.call) (by decide : 0 < batchSize)
  rw [← raisesOf_map_call, ← hflatten] at hfew
  obtain ⟨hheard, hlast, hcount⟩ := hears_searchBatches hadmits hfew hsearch
  rw [hflatten, List.forall₂_map_left_iff] at hheard
  rw [hflatten, raisesOf_map_call] at hcount
  exact ⟨hheard.imp fun _ _ => Hears.firstInTime, hlast.state, hcount⟩

end Nearby

/-- Without a key the client of Google replies with nothing. -/
theorem replies_withoutKey (_attempt _again : ℕ) : Replies ⟨"", fun _ => ""⟩ [] :=
  ⟨fun _ => .error (.exception ""), 0, 0, [], 0, 0, rfl⟩

/-- Two searches of which the first is late once, without a key for Google. -/
def lateOnce : List (NearbyCall ⟨"", fun _ => ""⟩) :=
  [true, false].map fun isLate =>
    { lat := -1 / 2
      lon := 70
      types := some ["cafe"]
      synthetic :=
        { pi := 3
          cos := fun _ => 1
          sin := fun _ => 0
          sqrt := fun _ => 1
          calculateDistance := fun _ _ _ _ => 1
          hash := fun _ => 5
          floatText := fun _ => "" }
      client := fun _ _ => []
      replies := replies_withoutKey
      inTime := fun attempt => !isLate || attempt != 0 }

/-- Both start, the second hears first, and the first asks again. -/
def secondFirst : List (List (Turn PlacesEvent)) :=
  [[.start 0, .start 1, .act 0 (.ask 0 0), .act 1 (.ask 0 0), .act 1 (.hear 29 29),
    .act 0 (.hear 30 30), .act 0 (.ask 31 31), .act 0 (.hear 32 32)]]

theorem exists_search_lateOnce : ∃ results breaker',
    batchPlacesSearch (fun _ => "") {} (lateOnce.map NearbyCall.call) secondFirst =
      some (results, breaker') := by
  have hsome : (batchPlacesSearch (fun _ => "") {} (lateOnce.map NearbyCall.call)
      secondFirst).isSome = true := by
    decide +kernel
  obtain ⟨⟨results, breaker'⟩, hsearch⟩ := Option.isSome_iff_exists.mp hsome
  exact ⟨results, breaker', hsearch⟩

theorem batchPlacesSearch_nearby_lateOnce : ∃ results breaker',
    batchPlacesSearch (fun _ => "") {} (lateOnce.map NearbyCall.call) secondFirst =
      some (results, breaker') ∧
    List.Forall₂ (FirstInTime fun _ => "") lateOnce results ∧ breaker'.state ≠ .opened ∧
      breaker'.failureCount ≤ 0 + (lateOnce.map NearbyCall.late).sum := by
  obtain ⟨results, breaker', hsearch⟩ := exists_search_lateOnce
  exact ⟨results, breaker', hsearch, batchPlacesSearch_nearby (fun _ => "") _ {} (by decide)
    lateOnce (by decide) secondFirst results breaker' hsearch⟩

end Goveling.Optimizer
