/-
# The hybrid endpoint around the optimizer

The optimizer is asked up to three times for a result with days. Without any result
the places are to be dealt out over the dates in order, and from a result the days
are to be formatted. Either way reads a name that is assigned somewhere else in the
function, and so is a local variable without a value: `timedelta` for the dates of
the fallback, `semantic_info` before the days. No request gets an answer.
-/

import Goveling.Api.MultimodalDays
import Goveling.Api.PlaceNormalization
import Goveling.Math.EarlyExit
import Goveling.Math.OrderedMap
import Goveling.Math.Slices

namespace Goveling.Api.Hybrid

open Goveling.Python Goveling.Math
open Goveling.Api.Multimodal (ItineraryResponse)

/-- What the optimizer is called with. -/
structure OptimizerCall where
  places : List PyDict
  startDate : Date
  endDate : Date
  dailyStartHour : ℕ
  dailyEndHour : ℕ
  transportMode : String
  accommodations : List PyDict
  noOriginalAccommodations : Bool

/-- What the endpoint meets outside: the services for the places, the module behind
`analytics`, the optimizer at each attempt, and what is done with the days of a
result once they are read. -/
structure HybridEnv where
  services : PlaceServices
  importAnalytics : Except PyError Unit
  trackRequest : String → PyDict → Except PyError Unit
  trackError : String → String → PyDict → Except PyError Unit
  optimizeItineraryHybrid : ℕ → OptimizerCall → Except PyError PyVal
  formatDays : PyVal → List PyVal → Except PyError ItineraryResponse
  processingSeconds : ℚ

/-- `(end_date - start_date).days + 1`. -/
def dayCount (request : ItineraryRequest) : ℤ := request.startDate.daysUntil request.endDate + 1

/-! ## The attempts -/

/-- What is tracked at an attempt. -/
def trackedAttempt (request : ItineraryRequest) (prepared : PreparedPlaces) (attempt : ℕ) :
    PyDict :=
  [ ("places_count", .int prepared.normalizedPlaces.length),
    ("hotels_provided", .bool (!prepared.accommodationsData.isEmpty)),
    ("days_requested", .int (dayCount request)),
    ("transport_mode", .str request.transportMode),
    ("attempt", .int (attempt + 1 : ℕ))]

/-- The outcome of an attempt before the check. -/
def attemptOutcome (env : HybridEnv) (request : ItineraryRequest) (attempt : ℕ) :
    Except PyError PyVal := do
  let prepared := preparePlaces env.services request
  let _tracked ← env.trackRequest "hybrid_itinerary_v31" (trackedAttempt request prepared attempt)
  env.optimizeItineraryHybrid attempt
    { places := prepared.normalizedPlaces
      startDate := request.startDate
      endDate := request.endDate
      dailyStartHour := request.dailyStartHour
      dailyEndHour := request.dailyEndHour
      transportMode := request.transportMode
      accommodations := prepared.accommodationsData
      noOriginalAccommodations := prepared.noOriginalAccommodations }

/-- The check of a result. -/
def checkDays (optimizationResult : PyVal) : Except PyError Unit := do
  let invalid := .error (.valueError "Resultado de optimización inválido")
  if optimizationResult.truthy then
    if ← optimizationResult.contains "days" then .ok () else invalid
  else invalid

/-- The local variables that the attempts assign. -/
structure RetryState where
  locals : PyDict := []
  lastError : Option PyError := none

/-- One attempt. The result is bound before it is checked, and stays bound if it does
not pass. -/
def tryOptimizer (env : HybridEnv) (request : ItineraryRequest) (state : RetryState)
    (attempt : ℕ) : ForInStep RetryState :=
  match attemptOutcome env request attempt with
  | .error e => .yield { state with lastError := some e }
  | .ok optimizationResult =>
      let bound := state.locals.set "optimization_result" optimizationResult
      match checkDays optimizationResult with
      | .ok _ => .done { state with locals := bound }
      | .error e => .yield { locals := bound, lastError := some e }

/-- `max_retries`. -/
def maxRetries : ℕ := 3

/-- The loop over the attempts. -/
def tryAll (env : HybridEnv) (request : ItineraryRequest) : RetryState :=
  forBreak (tryOptimizer env request) (List.range maxRetries) {}

/-! ## The fallback -/

/-- The entry of the fallback for a date. -/
def fallbackEntry (number : ℕ) (dateKey : String) (dayPlaces : List PyDict)
    (errorReason : String) : PyDict :=
  [ ("day", .int number),
    ("date", .str dateKey),
    ("activities", .list (dayPlaces.map .dict)),
    ("transfers", .list []),
    ("free_blocks", .list []),
    ("actionable_recommendations", .list [.dict
      [ ("type", .str "system_error"),
        ("priority", .str "high"),
        ("title", .str "Optimización temporal no disponible"),
        ("description", .str ("Error: " ++ errorReason ++ ". Usando itinerario básico.")),
        ("action", .str "retry_optimization")]]),
    ("base", orNone .dict dayPlaces.head?),
    ("travel_summary", .dict
      [ ("total_travel_time_s", .int 0),
        ("walking_time_minutes", .int 0),
        ("transport_time_minutes", .int 0)])]

/-- The state of the loop over the dates. -/
structure FallbackState where
  currentPlaceIndex : ℕ := 0
  fallbackDays : OrderedMap String PyDict := OrderedMap.empty

/-- One turn of the loop over the dates. -/
def fallbackDay (locals : PyDict) (places : List PyDict) (request : ItineraryRequest)
    (errorReason : String) (state : FallbackState) (index : ℕ) : Except PyError FallbackState := do
  let days := (dayCount request).toNat
  let _timedelta ← localName locals "timedelta"
  let currentDate ← request.startDate.plusDays index
  let placesThisDay := places.length / days + if index < places.length % days then 1 else 0
  let nextPlaceIndex := state.currentPlaceIndex + placesThisDay
  let dayPlaces := slice places state.currentPlaceIndex nextPlaceIndex
  let dateKey := currentDate.isoformat
  .ok
    { currentPlaceIndex := nextPlaceIndex
      fallbackDays := state.fallbackDays.set dateKey
        (fallbackEntry (index + 1) dateKey dayPlaces errorReason) }

/-- The loop over the dates. -/
def fallbackDays (locals : PyDict) (places : List PyDict) (request : ItineraryRequest)
    (errorReason : String) : Except PyError (List PyDict) := do
  let state ← (List.range (dayCount request).toNat).foldlM
    (fallbackDay locals places request errorReason) {}
  .ok state.fallbackDays.values

/-- The response without any result. -/
def fallbackResponse (env : HybridEnv) (request : ItineraryRequest) (locals : PyDict)
    (lastError : PyError) : Except PyError ItineraryResponse := do
  let places := (preparePlaces env.services request).normalizedPlaces
  let errorReason := lastError.typeName ++ ": " ++ lastError.text
  let itinerary ← fallbackDays locals places request errorReason
  .ok
    { itinerary := itinerary
      optimizationMetrics := [
        ("total_places", .int places.length),
        ("total_days", .int (dayCount request)),
        ("optimization_mode", .str "fallback_basic"),
        ("error", .str errorReason),
        ("fallback_active", .bool true),
        ("efficiency_score", .float (mkRat 3 10)),
        ("processing_time_seconds", .float env.processingSeconds)]
      recommendations := [
        "Sistema en modo fallback - Error: " ++ errorReason,
        "Intente nuevamente en unos momentos",
        "Contacte soporte si el problema persiste"] }

/-! ## The endpoint -/

/-- The block inside of the outer `try`. The fallback is for an error without any
bound result; whatever is bound is read otherwise, if it passed the check or not. -/
def hybridBody (env : HybridEnv) (request : ItineraryRequest) :
    Except PyError ItineraryResponse :=
  if request.places.isEmpty then
    .error (.exception "400: Al menos un lugar es requerido para generar el itinerario")
  else
    let state := tryAll env request
    match state.lastError, state.locals.has "optimization_result" with
    | some lastError, false => fallbackResponse env request state.locals lastError
    | _, _ => do
        let optimizationResult ← localName state.locals "optimization_result"
        readHybrid env.formatDays (← optimizationResult.getter)

/-- `generate_hybrid_itinerary_endpoint`. -/
def generateHybridItineraryEndpoint (env : HybridEnv) (request : ItineraryRequest) :
    Except HTTPException ItineraryResponse :=
  let unhandled := .error ⟨500, "Internal Server Error"⟩
  match env.importAnalytics with
  | .error _ => unhandled
  | .ok _ =>
      match hybridBody env request with
      | .ok response => .ok response
      | .error e =>
          match env.trackError "hybrid_itinerary_error" e.text
              [ ("places_count", .int request.places.length),
                ("error_type", .str e.typeName)] with
          | .error _ => unhandled
          | .ok _ => .error ⟨500, "Error generating hybrid itinerary: " ++ e.text⟩

/-! ## Dealing the places out -/

/-- The places of an entry of the fallback. -/
def activitiesOf (day : PyDict) : List PyVal :=
  match day.get "activities" (.list []) with
  | .list activities => activities
  | _ => []

/-- One entry for every date of the trip, with the places in order and hardly more of
them on one date than on another. -/
structure DealtOut (request : ItineraryRequest) (places itinerary : List PyDict) : Prop where
  dates : itinerary.map (fun day => day.lookup "date") =
    (Date.tripDates request.startDate request.endDate).map fun date => some (.str date.isoformat)
  places : itinerary.flatMap activitiesOf = places.map .dict
  balanced : ∀ first ∈ itinerary, ∀ second ∈ itinerary,
    (activitiesOf first).length ≤ (activitiesOf second).length + 1

section Fallback

variable {locals : PyDict} {request : ItineraryRequest} {errorReason : String}

theorem dayCount_pos (request : ItineraryRequest) : 0 < (dayCount request).toNat := by
  have hdates := request.dates_le
  unfold dayCount Date.daysUntil
  omega

theorem length_tripDates_request (request : ItineraryRequest) :
    (Date.tripDates request.startDate request.endDate).length = (dayCount request).toNat :=
  Date.length_tripDates request.dates_le

/-- The date of a turn of the loop. -/
def dateAt (request : ItineraryRequest) (index : ℕ) : Date :=
  (Date.tripDates request.startDate request.endDate).getD index request.startDate

/-- The places of a turn of the loop. -/
def placesAt (request : ItineraryRequest) (places : List PyDict) (index : ℕ) : List PyDict :=
  slice places (evenCut places.length (dayCount request).toNat index)
    (evenCut places.length (dayCount request).toNat (index + 1))

/-- What a turn of the loop writes. -/
def entryAt (request : ItineraryRequest) (places : List PyDict) (errorReason : String)
    (index : ℕ) : String × PyDict :=
  ((dateAt request index).isoformat,
    fallbackEntry (index + 1) (dateAt request index).isoformat (placesAt request places index)
      errorReason)

theorem plusDays_startDate {index : ℕ} (hindex : index < (dayCount request).toNat) :
    request.startDate.plusDays index = .ok (dateAt request index) := by
  rw [← length_tripDates_request] at hindex
  apply Date.plusDays_of_getElem?
  show (Date.tripDates request.startDate request.endDate)[index]? = _
  unfold dateAt
  rw [List.getElem?_eq_getElem hindex, List.getElem_eq_getD]

/-- A turn of the loop, where `timedelta` has a value. -/
theorem fallbackDay_eq_ok {timedelta : PyVal}
    (htimedelta : locals.lookup "timedelta" = some timedelta) (places : List PyDict)
    {state : FallbackState} {index : ℕ}
    (hindex : index < (dayCount request).toNat)
    (hcut : state.currentPlaceIndex = evenCut places.length (dayCount request).toNat index) :
    fallbackDay locals places request errorReason state index = .ok
      { currentPlaceIndex := evenCut places.length (dayCount request).toNat (index + 1)
        fallbackDays := state.fallbackDays.set (entryAt request places errorReason index).1
          (entryAt request places errorReason index).2 } := by
  have hlocal : localName locals "timedelta" = .ok timedelta := by
    unfold localName
    rw [htimedelta]
  unfold fallbackDay
  rw [hlocal, plusDays_startDate hindex, hcut]
  show Except.ok _ = _
  rw [← evenCut_succ]
  rfl

/-- The loop from some turn on. -/
theorem foldlM_fallbackDay {timedelta : PyVal}
    (htimedelta : locals.lookup "timedelta" = some timedelta) (places : List PyDict)
    {start count : ℕ} {state : FallbackState} (hend : start + count ≤ (dayCount request).toNat)
    (hcut : state.currentPlaceIndex = evenCut places.length (dayCount request).toNat start) :
    (List.range' start count).foldlM (fallbackDay locals places request errorReason) state = .ok
      { currentPlaceIndex := evenCut places.length (dayCount request).toNat (start + count)
        fallbackDays := state.fallbackDays.setAll
          ((List.range' start count).map (entryAt request places errorReason)) } := by
  induction count generalizing start state with
  | zero =>
      rw [Nat.add_zero, ← hcut]
      rfl
  | succ count ih =>
      rw [List.range'_succ, List.foldlM_cons,
        fallbackDay_eq_ok htimedelta places (by omega) hcut, Nat.add_comm count 1, ← Nat.add_assoc]
      exact ih (by omega) rfl

/-- The turns of the loop go over the dates of the trip. -/
theorem map_dateAt {β : Type} (request : ItineraryRequest) (f : Date → β) :
    (List.range (dayCount request).toNat).map (fun index => f (dateAt request index)) =
      (Date.tripDates request.startDate request.endDate).map f := by
  apply List.ext_getElem
  · rw [List.length_map, List.length_map, List.length_range, length_tripDates_request]
  · intro index hindex hdates
    rw [List.length_map] at hdates
    rw [List.getElem_map, List.getElem_map, List.getElem_range]
    unfold dateAt
    rw [← List.getElem_eq_getD (h := hdates)]

/-- The keys of the entries are different texts. -/
theorem nodup_keys_entryAt (request : ItineraryRequest) (places : List PyDict)
    (errorReason : String) :
    (((List.range (dayCount request).toNat).map (entryAt request places errorReason)).map
      Prod.fst).Nodup := by
  rw [List.map_map]
  show ((List.range _).map fun index => (dateAt request index).isoformat).Nodup
  rw [map_dateAt request Date.isoformat]
  apply (Date.pairwise_isoformat_datesFrom _ _).imp
  intro first second hlt
  exact ne_of_lt hlt

/-- The loop over the dates, where `timedelta` has a value. -/
theorem fallbackDays_eq_ok {timedelta : PyVal}
    (htimedelta : locals.lookup "timedelta" = some timedelta) (places : List PyDict) :
    fallbackDays locals places request errorReason = .ok
      ((List.range (dayCount request).toNat).map fun index =>
        (entryAt request places errorReason index).2) := by
  have hloop : (List.range' 0 (dayCount request).toNat).foldlM
      (fallbackDay locals places request errorReason) {} = .ok _ :=
    foldlM_fallbackDay htimedelta places (Nat.zero_add _).le (evenCut_zero _ _).symm
  rw [← List.range_eq_range'] at hloop
  unfold fallbackDays
  rw [hloop]
  show Except.ok (OrderedMap.values (OrderedMap.setAll OrderedMap.empty _)) = _
  unfold OrderedMap.values
  rw [OrderedMap.entries_setAll_empty (nodup_keys_entryAt _ _ _), List.map_map]
  rfl

theorem length_placesAt (places : List PyDict) {index : ℕ}
    (hindex : index < (dayCount request).toNat) :
    (placesAt request places index).length = places.length / (dayCount request).toNat +
      if index < places.length % (dayCount request).toNat then 1 else 0 :=
  length_evenSlice places hindex

/-- But for the name of a class, the fallback deals the places out over the dates. -/
theorem fallbackDays_dealtOut {timedelta : PyVal}
    (htimedelta : locals.lookup "timedelta" = some timedelta) (places : List PyDict) :
    ∃ itinerary, fallbackDays locals places request errorReason = .ok itinerary ∧
      DealtOut request places itinerary := by
  refine ⟨_, fallbackDays_eq_ok htimedelta places, ?_⟩
  constructor
  case dates =>
    rw [List.map_map]
    exact map_dateAt request fun date => some (PyVal.str date.isoformat)
  case places =>
    rw [List.flatMap_map]
    show (List.range _).flatMap (fun index => (placesAt request places index).map PyVal.dict) = _
    rw [← List.map_flatMap]
    congr 1
    exact flatMap_evenCut places (dayCount_pos request)
  case balanced =>
    intro first hfirst second hsecond
    obtain ⟨i, hi, rfl⟩ := List.mem_map.mp hfirst
    obtain ⟨j, hj, rfl⟩ := List.mem_map.mp hsecond
    show ((placesAt request places i).map PyVal.dict).length ≤
      ((placesAt request places j).map PyVal.dict).length + 1
    rw [List.length_map, List.length_map, length_placesAt _ (List.mem_range.mp hi),
      length_placesAt _ (List.mem_range.mp hj)]
    split_ifs <;> omega

/-- The first turn of the loop reads `timedelta`. -/
theorem fallbackDays_unbound (hunbound : locals.lookup "timedelta" = none) (places : List PyDict) :
    fallbackDays locals places request errorReason = .error (.unboundLocalError "timedelta") := by
  have hlocal : localName locals "timedelta" = .error (.unboundLocalError "timedelta") := by
    unfold localName
    rw [hunbound]
  obtain ⟨count, hcount⟩ := Nat.exists_eq_succ_of_ne_zero (dayCount_pos request).ne'
  unfold fallbackDays
  rw [hcount, List.range_succ_eq_map, List.foldlM_cons]
  unfold fallbackDay
  rw [hlocal]
  rfl

end Fallback

/-! ## The result that is read -/

/-- The result of an attempt, if it passes the check. -/
def passed (outcome : Except PyError PyVal) : Option PyVal :=
  match outcome with
  | .ok optimizationResult =>
      match checkDays optimizationResult with
      | .ok _ => some optimizationResult
      | .error _ => none
  | .error _ => none

/-- The first valid result of the attempts. -/
def validResult? (env : HybridEnv) (request : ItineraryRequest) : Option PyVal :=
  (List.range maxRetries).findSome? fun attempt => passed (attemptOutcome env request attempt)

section Attempts

variable {env : HybridEnv} {request : ItineraryRequest}

/-- The attempts assign no other local variable. -/
theorem lookup_locals_tryAll (env : HybridEnv) (request : ItineraryRequest) {name : String}
    (hname : name ≠ "optimization_result") : (tryAll env request).locals.lookup name = none := by
  unfold tryAll
  apply forBreak_invariant (I := fun state : RetryState => state.locals.lookup name = none)
  · intro state attempt hnone
    unfold tryOptimizer
    split
    · exact hnone
    · dsimp only
      split
      · exact (PyDict.lookup_set_of_ne hname).trans hnone
      · exact (PyDict.lookup_set_of_ne hname).trans hnone
  · rfl

/-- An attempt that raises is remembered by its error alone. -/
theorem tryOptimizer_of_raise {attempt : ℕ} {e : PyError}
    (hraise : attemptOutcome env request attempt = .error e) (state : RetryState) :
    tryOptimizer env request state attempt = .yield { state with lastError := some e } := by
  unfold tryOptimizer
  rw [hraise]

/-- What one turn of the loop can do: end it with a result that passes the check, or go on. -/
theorem exists_tryOptimizer_eq (env : HybridEnv) (request : ItineraryRequest) (attempt : ℕ)
    (state : RetryState) :
    ∃ next, tryOptimizer env request state attempt =
      (passed (attemptOutcome env request attempt)).elim (.yield next) fun optimizationResult =>
        .done { state with
          locals := state.locals.set "optimization_result" optimizationResult } := by
  unfold tryOptimizer passed
  cases attemptOutcome env request attempt with
  | error e => exact ⟨_, rfl⟩
  | ok optimizationResult =>
      dsimp only
      cases checkDays optimizationResult with
      | error e => exact ⟨_, rfl⟩
      | ok _ => exact ⟨state, rfl⟩

/-- A result that passes the check ends the loop. -/
theorem tryOptimizer_of_passed {attempt : ℕ} {optimizationResult : PyVal}
    (hpassed : passed (attemptOutcome env request attempt) = some optimizationResult)
    (state : RetryState) :
    tryOptimizer env request state attempt = .done
      { state with locals := state.locals.set "optimization_result" optimizationResult } := by
  obtain ⟨next, hturn⟩ := exists_tryOptimizer_eq env request attempt state
  rw [hturn, hpassed]
  rfl

/-- Any other outcome lets the loop go on. -/
theorem tryOptimizer_of_not_passed {attempt : ℕ}
    (hpassed : passed (attemptOutcome env request attempt) = none) (state : RetryState) :
    ∃ next, tryOptimizer env request state attempt = .yield next := by
  obtain ⟨next, hturn⟩ := exists_tryOptimizer_eq env request attempt state
  rw [hturn, hpassed]
  exact ⟨next, rfl⟩

/-- What the loop ends with is the first result that passes the check. -/
theorem lookup_tryAll_of_validResult {optimizationResult : PyVal}
    (hvalid : validResult? env request = some optimizationResult) :
    (tryAll env request).locals.lookup "optimization_result" = some optimizationResult := by
  have hloop : ∀ (attempts : List ℕ) (state : RetryState),
      attempts.findSome? (fun attempt => passed (attemptOutcome env request attempt)) =
        some optimizationResult →
      (forBreak (tryOptimizer env request) attempts state).locals.lookup "optimization_result" =
        some optimizationResult := by
    intro attempts
    induction attempts with
    | nil =>
        intro state hfound
        cases hfound
    | cons attempt rest ih =>
        intro state hfound
        rw [List.findSome?_cons] at hfound
        cases hpassed : passed (attemptOutcome env request attempt) with
        | none =>
            rw [hpassed] at hfound
            obtain ⟨next, hnext⟩ := tryOptimizer_of_not_passed hpassed state
            rw [forBreak_cons_of_yield hnext]
            exact ih next hfound
        | some first =>
            rw [hpassed] at hfound
            cases hfound
            rw [forBreak_cons_of_done (tryOptimizer_of_passed hpassed state)]
            exact PyDict.lookup_set_self _ _ _
  exact hloop _ _ hvalid

/-- If every attempt raises, the loop leaves an error and no result. -/
theorem tryAll_of_all_raise
    (hraise : ∀ attempt, ∃ e, attemptOutcome env request attempt = .error e) :
    ∃ e, tryAll env request = { locals := [], lastError := some e } := by
  obtain ⟨first, hfirst⟩ := hraise 0
  obtain ⟨second, hsecond⟩ := hraise 1
  obtain ⟨third, hthird⟩ := hraise 2
  refine ⟨third, ?_⟩
  show forBreak (tryOptimizer env request) [0, 1, 2] {} = _
  rw [forBreak_cons_of_yield (tryOptimizer_of_raise hfirst _),
    forBreak_cons_of_yield (tryOptimizer_of_raise hsecond _),
    forBreak_cons_of_yield (tryOptimizer_of_raise hthird _)]
  rfl

end Attempts

/-! ## No request is answered -/

/-- A response that is formatted from the days of a result. -/
def FormattedFrom (env : HybridEnv) (optimizationResult : PyVal) (response : ItineraryResponse) :
    Prop :=
  ∃ days daysData suggestionsByDate, optimizationResult.get "days" (.list []) = .ok days ∧
    days.iterate = .ok daysData ∧ env.formatDays suggestionsByDate daysData = .ok response

/-- What the endpoint promises: the days of the first valid result, and the fallback if
there is none; and no local variable is read before it has a value. -/
structure AnswersAsPromised (env : HybridEnv) (request : ItineraryRequest) : Prop where
  formatted : ∀ optimizationResult, validResult? env request = some optimizationResult →
    ∃ response, generateHybridItineraryEndpoint env request = .ok response ∧
      FormattedFrom env optimizationResult response
  fallback : validResult? env request = none →
    ∃ response, generateHybridItineraryEndpoint env request = .ok response ∧
      DealtOut request (preparePlaces env.services request).normalizedPlaces response.itinerary
  assigned : ∀ name, hybridBody env request ≠ .error (.unboundLocalError name)

section Never

variable {env : HybridEnv} {request : ItineraryRequest}

/-- The fallback ends at the first date. -/
theorem fallbackResponse_unbound {locals : PyDict} (hunbound : locals.lookup "timedelta" = none)
    (lastError : PyError) :
    fallbackResponse env request locals lastError = .error (.unboundLocalError "timedelta") := by
  unfold fallbackResponse
  dsimp only
  rw [fallbackDays_unbound hunbound]
  rfl

/-- With nothing but exceptions the class behind the dates is missing. -/
theorem hybridBody_of_all_raise (hplaces : request.places ≠ [])
    (hraise : ∀ attempt, ∃ e, attemptOutcome env request attempt = .error e) :
    hybridBody env request = .error (.unboundLocalError "timedelta") := by
  obtain ⟨e, hstate⟩ := tryAll_of_all_raise hraise
  unfold hybridBody
  rw [if_neg (by simpa using hplaces), hstate]
  exact fallbackResponse_unbound rfl e

/-- A valid result is read, whatever the attempts before it gave. -/
theorem hybridBody_of_validResult (hplaces : request.places ≠ []) {optimizationResult : PyVal}
    (hvalid : validResult? env request = some optimizationResult) :
    hybridBody env request = optimizationResult.getter >>= readHybrid env.formatDays := by
  have hlookup := lookup_tryAll_of_validResult hvalid
  have hhas : (tryAll env request).locals.has "optimization_result" = true := by
    unfold PyDict.has
    rw [hlookup]
    rfl
  have hlocal : localName (tryAll env request).locals "optimization_result" =
      .ok optimizationResult := by
    unfold localName
    rw [hlookup]
  unfold hybridBody
  rw [if_neg (by simpa using hplaces)]
  dsimp only
  rw [hhas, hlocal]
  cases (tryAll env request).lastError <;> rfl

/-- The block inside of the outer `try` raises. -/
theorem exists_hybridBody_eq_error (env : HybridEnv) (request : ItineraryRequest) :
    ∃ e, hybridBody env request = .error e := by
  have hread : ∃ e, (do
      let optimizationResult ← localName (tryAll env request).locals "optimization_result"
      readHybrid env.formatDays (← optimizationResult.getter)) = Except.error e := by
    cases localName (tryAll env request).locals "optimization_result" with
    | error e => exact ⟨e, rfl⟩
    | ok optimizationResult =>
        cases hgetter : optimizationResult.getter with
        | error e => exact ⟨e, by simp [hgetter, bind, Except.bind]⟩
        | ok entries =>
            obtain ⟨e, he⟩ := exists_readHybrid_eq_error env.formatDays entries
            exact ⟨e, by simp [hgetter, he, bind, Except.bind]⟩
  unfold hybridBody
  split
  · exact ⟨_, rfl⟩
  · dsimp only
    split
    · exact ⟨_, fallbackResponse_unbound (lookup_locals_tryAll env request (by decide)) _⟩
    · exact hread

/-- Every request is answered with a server error. -/
theorem exists_generateHybridItineraryEndpoint_eq_error (env : HybridEnv)
    (request : ItineraryRequest) :
    ∃ detail, generateHybridItineraryEndpoint env request = .error ⟨500, detail⟩ := by
  obtain ⟨e, he⟩ := exists_hybridBody_eq_error env request
  unfold generateHybridItineraryEndpoint
  dsimp only
  cases env.importAnalytics with
  | error _ => exact ⟨_, rfl⟩
  | ok _ =>
      rw [he]
      dsimp only
      split
      · exact ⟨_, rfl⟩
      · exact ⟨_, rfl⟩

end Never

/-- The promise is kept for no request and no outcome of the attempts. -/
theorem generateHybridItineraryEndpoint_never_as_promised (env : HybridEnv)
    (request : ItineraryRequest) : ¬ AnswersAsPromised env request := by
  intro hpromise
  obtain ⟨detail, herror⟩ := exists_generateHybridItineraryEndpoint_eq_error env request
  have hanswer : ∃ response, generateHybridItineraryEndpoint env request = .ok response := by
    cases hvalid : validResult? env request with
    | none =>
        obtain ⟨response, hresponse, -⟩ := hpromise.fallback hvalid
        exact ⟨response, hresponse⟩
    | some optimizationResult =>
        obtain ⟨response, hresponse, -⟩ := hpromise.formatted optimizationResult hvalid
        exact ⟨response, hresponse⟩
  obtain ⟨response, hresponse⟩ := hanswer
  rw [herror] at hresponse
  cases hresponse

/-! ## One museum -/

/-- The fields of a museum. -/
def museumFields : PlaceFields where
  name := "Museo"
  lat := 0
  lon := 0
  type := some .museum

theorem valid_museumFields : museumFields.Valid where
  name := by decide
  lat := by decide
  lon := by decide
  priority := by decide
  minDurationHours := by decide
  rating := by decide

theorem valid_june : (1 ≤ 2025 ∧ 2025 ≤ 9999) ∧ (1 ≤ 6 ∧ 6 ≤ 12) := by
  decide

/-- The first of June. -/
def firstOfJune : Date := Date.firstOfMonth 2025 6 valid_june.1 valid_june.2

/-- A museum for one day. -/
def museumDay : ItineraryRequest where
  places := [⟨museumFields, valid_museumFields⟩]
  startDate := firstOfJune
  endDate := firstOfJune
  transportMode := "walk"
  dailyStartHour := 9
  dailyEndHour := 18
  places_le := by decide
  dates_le := le_rfl

/-- An optimizer that raises each time. -/
def raisingEnv : HybridEnv where
  services :=
    { textOf := fun _ => ""
      recommendHotels := fun _ => .ok []
      semanticContext := none }
  importAnalytics := .ok ()
  trackRequest := fun _ _ => .ok ()
  trackError := fun _ _ _ => .ok ()
  optimizeItineraryHybrid := fun _ _ => .error (.valueError "DBSCAN")
  formatDays := fun _ _ => .ok ⟨[], [], []⟩
  processingSeconds := 0

/-- Three exceptions of the optimizer are not answered with the fallback. -/
theorem generateHybridItineraryEndpoint_not_museumDay :
    generateHybridItineraryEndpoint raisingEnv museumDay = .error ⟨500,
        "Error generating hybrid itinerary: " ++
          "cannot access local variable 'timedelta' where it is not associated with a value"⟩ ∧
      ¬ AnswersAsPromised raisingEnv museumDay := by
  have hbody : hybridBody raisingEnv museumDay = .error (.unboundLocalError "timedelta") := by
    apply hybridBody_of_all_raise
    · exact List.cons_ne_nil _ _
    · intro attempt
      exact ⟨_, rfl⟩
  constructor
  · unfold generateHybridItineraryEndpoint
    rw [hbody]
    rfl
  · intro hpromise
    exact hpromise.assigned _ hbody

end Goveling.Api.Hybrid
