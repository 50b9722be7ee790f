/-
# Many searches for places at once

`batch_places_search` takes the locations in batches of five. The searches of a batch
run at the same time, as many as the semaphore has permits, and share the breaker of
the places service. In every order of their turns the results come in the order of the
locations, each the one that its own search is promised; no order gets stuck; and to
the breaker the searches are calls in flight like any others.
-/

import Goveling.Math.Slices
import Goveling.Optimizer.PlacesService

namespace Goveling.Optimizer

open Goveling.Math Goveling.Python

/-! ## Batches -/

/-- `self.batch_size`. -/
def batchSize : ℕ := 5

/-- `self.max_concurrent_requests`. -/
def maxConcurrentRequests : ℕ := 10

/-- The permits of the semaphore of a batch. -/
def batchPermits (batch : List PlacesCall) : ℕ := min maxConcurrentRequests batch.length

section Search

variable (floatText : ℚ → String)

/-- One turn of the loop over the batches, with the order in which its searches take turns. The
locations come with the keyword arguments that they have in common. -/
def searchBatch (breaker : CircuitBreaker) (batch : List PlacesCall)
    (turns : List (Turn PlacesEvent)) : Option (List (List PyDict) × CircuitBreaker) := do
  let group ← (placesServiceRobust floatText).run? (batchPermits batch)
    (.ofJobs breaker batch) turns
  let results ← group.results?
  return (results, group.shared)

/-- The batches one after the other. -/
def searchBatches : CircuitBreaker → List (List PlacesCall) → List (List (Turn PlacesEvent)) →
    Option (List (List PyDict) × CircuitBreaker)
  | breaker, [], [] => some ([], breaker)
  | breaker, batch :: rest, turns :: later => do
      let (results, breaker) ← searchBatch floatText breaker batch turns
      let (others, breaker) ← searchBatches breaker rest later
      return (results ++ others, breaker)
  | _, _, _ => none

/-- `batch_places_search`, with an order of turns for each batch. -/
def batchPlacesSearch (breaker : CircuitBreaker) (calls : List PlacesCall)
    (schedule : List (List (Turn PlacesEvent))) : Option (List (List PyDict) × CircuitBreaker) :=
  searchBatches floatText breaker (slicesOf calls batchSize) schedule

/-- The promises of the searches of a batch. -/
abbrev batchSpec : TaskSpec CircuitBreaker PlacesCall PlacesTask PlacesEvent (List PyDict) :=
  placesSpec fun call _ => emergencyPlacesFallback floatText call

end Search

/-! ## What comes back -/

variable {floatText : ℚ → String} {breaker breaker' : CircuitBreaker}
  {batch : List PlacesCall} {turns : List (Turn PlacesEvent)}
  {schedule : List (List (Turn PlacesEvent))} {results : List (List PyDict)}
  {group next : PlacesGroup} {permits : ℕ}

theorem holds_run?_batch (hwhy : breaker.SaysWhy)
    (hrun : (placesServiceRobust floatText).run? permits (.ofJobs breaker batch) turns =
      some group) : (batchSpec floatText).Holds permits group := by
  have hstart : (batchSpec floatText).Holds permits (TaskGroup.ofJobs breaker batch) :=
    TaskSpec.holds_ofJobs hwhy batch
  refine hstart.run? (keptBy_placesServiceRobust floatText) ?_ hrun
  intro turn _
  cases turn with
  | start task => trivial
  | act task event => exact fun _ _ => trivial

theorem searchBatches_nil_eq_some
    (hsearch : searchBatches floatText breaker [] schedule = some (results, breaker')) :
    schedule = [] ∧ results = [] ∧ breaker' = breaker := by
  cases schedule with
  | nil =>
      cases hsearch
      exact ⟨rfl, rfl, rfl⟩
  | cons turns later => cases hsearch

/-- The batches are searched one after the other. -/
theorem searchBatches_cons_eq_some {rest : List (List PlacesCall)}
    (hsearch : searchBatches floatText breaker (batch :: rest) schedule =
      some (results, breaker')) :
    ∃ turns later first between others, schedule = turns :: later ∧ results = first ++ others ∧
      searchBatch floatText breaker batch turns = some (first, between) ∧
        searchBatches floatText between rest later = some (others, breaker') := by
  cases schedule with
  | nil => cases hsearch
  | cons turns later =>
      obtain ⟨⟨first, between⟩, hfirst, hrest⟩ := Option.bind_eq_some_iff.mp hsearch
      obtain ⟨⟨others, last⟩, hothers, hsome⟩ := Option.bind_eq_some_iff.mp hrest
      cases hsome
      exact ⟨turns, later, first, between, others, rfl, rfl, hfirst, hothers⟩

/-- A batch leaves results for its locations. -/
theorem serves_searchBatch (hwhy : breaker.SaysWhy)
    (hsearch : searchBatch floatText breaker batch turns = some (results, breaker')) :
    List.Forall₂ (Serves fun call _ => emergencyPlacesFallback floatText call) batch results ∧
      breaker'.SaysWhy := by
  obtain ⟨group, hrun, hrest⟩ := Option.bind_eq_some_iff.mp hsearch
  obtain ⟨found, hfound, hsome⟩ := Option.bind_eq_some_iff.mp hrest
  cases hsome
  have hholds := holds_run?_batch hwhy hrun
  have hall := hholds.forall₂_results hfound
  rw [TaskBody.jobs_run? hrun, TaskGroup.jobs_ofJobs] at hall
  exact ⟨hall, hholds.shared⟩

theorem serves_searchBatches (hwhy : breaker.SaysWhy) {batches : List (List PlacesCall)}
    (hsearch : searchBatches floatText breaker batches schedule = some (results, breaker')) :
    List.Forall₂ (Serves fun call _ => emergencyPlacesFallback floatText call) batches.flatten
        results ∧ breaker'.SaysWhy := by
  induction batches generalizing breaker schedule results with
  | nil =>
      obtain ⟨-, rfl, rfl⟩ := searchBatches_nil_eq_some hsearch
      exact ⟨.nil, hwhy⟩
  | cons batch rest ih =>
      obtain ⟨turns, later, first, between, others, -, rfl, hfirst, hothers⟩ :=
        searchBatches_cons_eq_some hsearch
      obtain ⟨hserved, hbetween⟩ := serves_searchBatch hwhy hfirst
      obtain ⟨hlater, hlast⟩ := ih hbetween hothers
      exact ⟨List.rel_append hserved hlater, hlast⟩

/-- However many attempts the searches of a batch make, each asks at most four times. -/
theorem spentBy_ask_le
    (hrun : (placesServiceRobust floatText).run? permits (.ofJobs breaker batch) turns =
      some group) (index : ℕ) : Turn.spentBy 0 (placesPrice 1 0) index turns ≤ 4 := by
  have hspent := TaskBody.spentBy_le 0 (affords_placesAct rfl 1 0) hrun index
  have hfunds : (placesServiceRobust floatText).fundsAt 0 (placesBudget 1 0)
      (.ofJobs breaker batch) index ≤ 4 := by
    unfold TaskBody.fundsAt TaskGroup.ofJobs
    rw [List.getElem?_map]
    cases batch[index]? with
    | none => exact Nat.zero_le _
    | some call => exact le_rfl
  omega

/-- In every order of the turns of the searches of a batch, not more of them run than there are
permits, of which there are at most five, and each asks the breaker at most four times. The
results of all batches are those of the locations, in their order. -/
theorem batchPlacesSearch_serves (floatText : ℚ → String) (breaker : CircuitBreaker)
    (hwhy : breaker.SaysWhy) (calls : List PlacesCall) :
    (∀ batch ∈ slicesOf calls batchSize, ∀ turns group,
      (placesServiceRobust floatText).run? (batchPermits batch) (.ofJobs breaker batch) turns =
        some group →
      group.busy ≤ batchPermits batch ∧ batchPermits batch ≤ 5 ∧
        ∀ index, Turn.spentBy 0 (placesPrice 1 0) index turns ≤ 4) ∧
    ∀ schedule results breaker',
      batchPlacesSearch floatText breaker calls schedule = some (results, breaker') →
      List.Forall₂ (Serves fun call _ => emergencyPlacesFallback floatText call) calls results ∧
        breaker'.SaysWhy := by
  constructor
  · intro batch hbatch turns group hrun
    have hlength : batch.length ≤ 5 := length_le_of_mem_slicesOf calls hbatch
    exact ⟨(holds_run?_batch hwhy hrun).busy, (min_le_right _ _).trans hlength,
      spentBy_ask_le hrun⟩
  · intro schedule results breaker' hsearch
    have hserves := serves_searchBatches hwhy hsearch
    rwa [flatten_slicesOf calls (by decide : 0 < batchSize)] at hserves

/-! ## No order gets stuck -/

/-- A search has at most eight turns once it runs. -/
theorem affords_placesServiceRobust (floatText : ℚ → String) :
    (placesServiceRobust floatText).Affords (fun _ => 1) (placesBudget 1 1) := by
  have hprice : placesPrice 1 1 = fun _ => 1 := by
    funext event
    cases event <;> rfl
  rw [← hprice]
  exact affords_placesAct rfl 1 1

/-- A batch can be finished, whatever its searches have done so far. -/
theorem exists_results_batch (hwhy : breaker.SaysWhy) (hbatch : batch ≠ [])
    (hrun : (placesServiceRobust floatText).run? (batchPermits batch) (.ofJobs breaker batch)
      turns = some group) :
    ∃ later next results, (placesServiceRobust floatText).run? (batchPermits batch) group later =
      some next ∧ next.results? = some results := by
  have hpermits : 0 < batchPermits batch := lt_min (by decide) (List.length_pos_iff.mpr hbatch)
  obtain ⟨later, next, results, -, hmore, hresults⟩ :=
    TaskBody.exists_results (keptBy_placesServiceRobust floatText)
      (affords_placesServiceRobust floatText) hpermits
      (fun hshared _ => exists_event_placesAct rfl hshared) (holds_run?_batch hwhy hrun)
  exact ⟨later, next, results, hmore, hresults⟩

/-- Batches can be searched one after the other. -/
theorem exists_searchBatches (floatText : ℚ → String) {batches : List (List PlacesCall)}
    (hbatches : ∀ batch ∈ batches, batch ≠ []) (hwhy : breaker.SaysWhy) :
    ∃ schedule results breaker',
      searchBatches floatText breaker batches schedule = some (results, breaker') := by
  induction batches generalizing breaker with
  | nil => exact ⟨[], [], breaker, rfl⟩
  | cons batch rest ih =>
      obtain ⟨hbatch, hrest⟩ := List.forall_mem_cons.mp hbatches
      obtain ⟨turns, group, first, hrun, hfirst⟩ :=
        @exists_results_batch floatText breaker batch [] _ hwhy hbatch rfl
      have hsearch : searchBatch floatText breaker batch turns = some (first, group.shared) := by
        simp [searchBatch, hrun, hfirst]
      obtain ⟨later, others, last, hlater⟩ := ih hrest (serves_searchBatch hwhy hsearch).2
      refine ⟨turns :: later, first ++ others, last, ?_⟩
      simp [searchBatches, hsearch, hlater]

/-- No order of turns gets stuck: what the searches of a batch have done takes at most nine turns
for each of its locations and can always be brought to an end, and so can all batches. -/
theorem batchPlacesSearch_finishes (floatText : ℚ → String) (breaker : CircuitBreaker)
    (hwhy : breaker.SaysWhy) (calls : List PlacesCall) :
    (∀ batch ∈ slicesOf calls batchSize, ∀ turns group,
      (placesServiceRobust floatText).run? (batchPermits batch) (.ofJobs breaker batch) turns =
        some group →
      turns.length ≤ batch.length * 9 ∧
        ∃ later next results,
          (placesServiceRobust floatText).run? (batchPermits batch) group later = some next ∧
            next.results? = some results) ∧
    ∃ schedule results breaker',
      batchPlacesSearch floatText breaker calls schedule = some (results, breaker') := by
  have hbatches : ∀ batch ∈ slicesOf calls batchSize, batch ≠ [] :=
    fun batch hbatch => ne_nil_of_mem_slicesOf calls (by decide) hbatch
  refine ⟨fun batch hbatch turns group hrun => ⟨?_, ?_⟩,
    exists_searchBatches floatText hbatches hwhy⟩
  · exact TaskBody.length_turns_le (affords_placesServiceRobust floatText) 8 (fun _ => le_rfl) hrun
  · exact exists_results_batch hwhy (hbatches batch hbatch) hrun

/-! ## The breaker of a batch -/

namespace PlacesGroup

/-- The search waits for the service. -/
def waits (search : Task PlacesCall PlacesTask (List PyDict)) : Bool :=
  match search.state with
  | .running task => task.inFlight
  | _ => false

/-- What the breaker of a group sees: the calls in flight. -/
def view (group : PlacesGroup) : SharedBreaker where
  breaker := group.shared
  inFlight := group.tasks.countP waits

/-- What a turn is to the breaker. -/
def breakerEvent (group : PlacesGroup) : Turn PlacesEvent → List BreakerEvent
  | .start _ => []
  | .act _ (.ask now _) => [.check now]
  | .act index (.hear now _) =>
      match group.tasks[index]? with
      | some ⟨call, .running task⟩ =>
          match call.replies task.attempt with
          | .ok _ => [.success]
          | .error _ => [.failure now]
      | _ => []

end PlacesGroup

section Breaker

variable (floatText) (permits)

/-- What the turns of a group are to its breaker. -/
def breakerEvents : PlacesGroup → List (Turn PlacesEvent) → List BreakerEvent
  | _, [] => []
  | group, turn :: rest =>
      match (placesServiceRobust floatText).turn? permits group turn with
      | none => []
      | some next => group.breakerEvent turn ++ breakerEvents next rest

/-- What the batches are to the breaker. -/
def searchEvents : CircuitBreaker → List (List PlacesCall) → List (List (Turn PlacesEvent)) →
    List BreakerEvent
  | breaker, batch :: rest, turns :: later =>
      match searchBatch floatText breaker batch turns with
      | none => []
      | some (_, next) =>
          breakerEvents floatText (batchPermits batch) (.ofJobs breaker batch) turns ++
            searchEvents next rest later
  | _, _, _ => []

end Breaker

/-! ### The breaker follows its calls -/

namespace PlacesGroup

theorem waits_after (call : PlacesCall) (places : List PyDict) :
    waits ⟨call, .after (.inr places)⟩ = false := rfl

theorem waits_placesRetry (call : PlacesCall) (givenUp : List PyDict) (attempt : ℕ) :
    waits ⟨call, .after (placesRetry givenUp attempt)⟩ = false := by
  unfold placesRetry
  split <;> rfl

theorem view_eq {shared : CircuitBreaker} {before after : List (Task PlacesCall PlacesTask
    (List PyDict))} {search : Task PlacesCall PlacesTask (List PyDict)} :
    view ⟨shared, before ++ search :: after⟩ =
      ⟨shared, before.countP waits + after.countP waits + if waits search then 1 else 0⟩ := by
  simp only [view, List.countP_append, List.countP_cons, Nat.add_assoc]

/-- To the breaker a turn of a search is the call that asks or reports in it. -/
theorem runEnd_breakerEvent {turn : Turn PlacesEvent}
    (htakes : TaskBody.Takes (placesServiceRobust floatText) permits group turn next) :
    runEnd SharedBreaker.step (view group) (breakerEvent group turn) = view next := by
  cases htakes with
  | start before after call htasks hbusy =>
      obtain ⟨shared, tasks⟩ := group
      subst htasks
      rw [view_eq, breakerEvent, view_eq]
      rfl
  | act before after call task event shared outcome htasks hact =>
      obtain ⟨breaker, tasks⟩ := group
      subst htasks
      have hacts : PlacesActs (fun call _ => emergencyPlacesFallback floatText call) call breaker
          task event shared outcome := placesActs_of_placesAct hact
      rw [view_eq, view_eq]
      cases hacts with
      | unanswered now later e hidle hopen =>
          have hwaits : waits ⟨call, .running task⟩ = false := hidle
          simp [breakerEvent, SharedBreaker.step, CircuitBreaker.allow, hopen, hwaits,
            waits_placesRetry]
      | turnedAway now later hidle hopen =>
          have hwaits : waits ⟨call, .running task⟩ = false := hidle
          simp [breakerEvent, SharedBreaker.step, CircuitBreaker.allow, hopen, hwaits, waits_after]
      | admitted now later admitted hidle hallowed =>
          have hwaits : waits ⟨call, .running task⟩ = false := hidle
          have hmore : waits ⟨call, .after (.inl { task with inFlight := true })⟩ = true := rfl
          simp [breakerEvent, SharedBreaker.step, hallowed, hwaits, hmore]
      | answered now later places hflight hreply =>
          have hwaits : waits ⟨call, .running task⟩ = true := hflight
          simp [breakerEvent, SharedBreaker.step, hreply, hwaits, waits_after]
      | quota now later hflight hreply =>
          have hwaits : waits ⟨call, .running task⟩ = true := hflight
          simp [breakerEvent, SharedBreaker.step, hreply, hwaits, waits_after]
      | failed now later hflight hfails =>
          have hwaits : waits ⟨call, .running task⟩ = true := hflight
          obtain ⟨failure, hreply, -⟩ := hfails
          simp [breakerEvent, SharedBreaker.step, hreply, hwaits, waits_placesRetry]

/-- To the breaker the turns of a group are the calls that ask or report in them. -/
theorem runEnd_breakerEvents
    (hrun : (placesServiceRobust floatText).run? permits group turns = some next) :
    runEnd SharedBreaker.step (view group) (breakerEvents floatText permits group turns) =
      view next := by
  induction turns generalizing group with
  | nil =>
      cases hrun
      rfl
  | cons turn rest ih =>
      obtain ⟨between, hfirst, hrest⟩ := Option.bind_eq_some_iff.mp hrun
      rw [breakerEvents, hfirst]
      dsimp only
      rw [runEnd_append, runEnd_breakerEvent (TaskBody.takes_of_turn?_eq_some hfirst)]
      exact ih hrest

/-- No search waits any more once all have their results. -/
theorem inFlight_view_of_results? (hresults : group.results? = some results) :
    view group = ⟨group.shared, 0⟩ := by
  unfold view
  congr 1
  refine List.countP_eq_zero.mpr fun search hsearch hwaits => ?_
  obtain ⟨places, hdone⟩ := TaskGroup.exists_done_of_results? hresults hsearch
  rw [waits, hdone] at hwaits
  cases hwaits

end PlacesGroup

/-- To the breaker the searches of a batch are calls, none of which is in flight before or after. -/
theorem runEnd_searchBatch
    (hsearch : searchBatch floatText breaker batch turns = some (results, breaker')) :
    runEnd SharedBreaker.step ⟨breaker, 0⟩
        (breakerEvents floatText (batchPermits batch) (.ofJobs breaker batch) turns) =
      ⟨breaker', 0⟩ := by
  obtain ⟨group, hrun, hrest⟩ := Option.bind_eq_some_iff.mp hsearch
  obtain ⟨found, hfound, hsome⟩ := Option.bind_eq_some_iff.mp hrest
  cases hsome
  have hstart : PlacesGroup.view (.ofJobs breaker batch) = ⟨breaker, 0⟩ := by
    unfold PlacesGroup.view TaskGroup.ofJobs
    congr 1
    exact List.countP_eq_zero.mpr (by simp [PlacesGroup.waits])
  rw [← hstart, PlacesGroup.runEnd_breakerEvents hrun,
    PlacesGroup.inFlight_view_of_results? hfound]

theorem runEnd_searchBatches {batches : List (List PlacesCall)}
    (hsearch : searchBatches floatText breaker batches schedule = some (results, breaker')) :
    runEnd SharedBreaker.step ⟨breaker, 0⟩ (searchEvents floatText breaker batches schedule) =
      ⟨breaker', 0⟩ := by
  induction batches generalizing breaker schedule results with
  | nil =>
      obtain ⟨rfl, -, rfl⟩ := searchBatches_nil_eq_some hsearch
      rfl
  | cons batch rest ih =>
      obtain ⟨turns, later, first, between, others, rfl, -, hfirst, hothers⟩ :=
        searchBatches_cons_eq_some hsearch
      rw [searchEvents, hfirst]
      dsimp only
      rw [runEnd_append, runEnd_searchBatch hfirst]
      exact ih hothers

/-- However the searches of all batches take turns, the breaker ends as it does when the calls
that ask and report in these turns come to it one by one. So without a success that is reported
late no search reaches the service while the breaker rests. -/
theorem batchPlacesSearch_holdsOff (floatText : ℚ → String) (breaker breaker' : CircuitBreaker)
    (calls : List PlacesCall) (schedule : List (List (Turn PlacesEvent)))
    (results : List (List PyDict))
    (hsearch : batchPlacesSearch floatText breaker calls schedule = some (results, breaker')) :
    runEnd SharedBreaker.step ⟨breaker, 0⟩
        (searchEvents floatText breaker (slicesOf calls batchSize) schedule) = ⟨breaker', 0⟩ ∧
      ((∀ moment ∈ moments SharedBreaker.step ⟨breaker, 0⟩
          (searchEvents floatText breaker (slicesOf calls batchSize) schedule),
          ¬ BreakerMoment.LateSuccess moment) →
        HoldsOffCalls (moments SharedBreaker.step ⟨breaker, 0⟩
          (searchEvents floatText breaker (slicesOf calls batchSize) schedule))) :=
  ⟨runEnd_searchBatches hsearch, whenever_moments SharedBreaker.unless_of_opened _ _⟩

/-! ## Two plazas at once -/

/-- The connection for the first plaza breaks once, the quota is used up for the second. -/
def twoPlazas : List PlacesCall :=
  [{ lat := -33, lon := -70, replies := fun n => if n = 0 then .error .connection else .ok [] },
    { lat := -33, lon := -71, replies := fun _ => .error .quotaExceeded }]

/-- Both searches wait for the service at the same time. -/
def twoAtOnce : List (List (Turn PlacesEvent)) :=
  [[.start 0, .start 1, .act 0 (.ask 1 1), .act 1 (.ask 2 2), .act 1 (.hear 3 3),
    .act 0 (.hear 4 4), .act 0 (.ask 5 5)]]

/-- A breaker that opens on the second failure in a row. -/
def carefulBreaker : CircuitBreaker := { failureThreshold := 2, recoveryTimeout := 120 }

theorem exists_search_twoPlazas : ∃ results breaker',
    batchPlacesSearch (fun _ => "") carefulBreaker twoPlazas twoAtOnce =
      some (results, breaker') := by
  have hsome :
      (batchPlacesSearch (fun _ => "") carefulBreaker twoPlazas twoAtOnce).isSome = true := by
    decide +kernel
  obtain ⟨⟨results, breaker'⟩, hsearch⟩ := Option.isSome_iff_exists.mp hsome
  exact ⟨results, breaker', hsearch⟩

/-- The first search is turned away in its second attempt, and places are made up for both. -/
theorem batchPlacesSearch_serves_twoPlazas : ∃ results breaker',
    batchPlacesSearch (fun _ => "") carefulBreaker twoPlazas twoAtOnce =
      some (results, breaker') ∧
    List.Forall₂ (Serves fun call _ => emergencyPlacesFallback (fun _ => "") call) twoPlazas
      results ∧ breaker'.SaysWhy := by
  obtain ⟨results, breaker', hsearch⟩ := exists_search_twoPlazas
  exact ⟨results, breaker', hsearch, (batchPlacesSearch_serves (fun _ => "") carefulBreaker nofun
    twoPlazas).2 twoAtOnce results breaker' hsearch⟩

theorem batchPlacesSearch_finishes_twoPlazas : ∃ schedule results breaker',
    batchPlacesSearch (fun _ => "") carefulBreaker twoPlazas schedule = some (results, breaker') :=
  (batchPlacesSearch_finishes (fun _ => "") carefulBreaker nofun twoPlazas).2

theorem batchPlacesSearch_holdsOff_twoPlazas : ∃ breaker',
    runEnd SharedBreaker.step ⟨carefulBreaker, 0⟩ (searchEvents (fun _ => "") carefulBreaker
      (slicesOf twoPlazas batchSize) twoAtOnce) = ⟨breaker', 0⟩ := by
  obtain ⟨results, breaker', hsearch⟩ := exists_search_twoPlazas
  exact ⟨breaker', (batchPlacesSearch_holdsOff (fun _ => "") carefulBreaker breaker' twoPlazas
    twoAtOnce results hsearch).1⟩

end Goveling.Optimizer
