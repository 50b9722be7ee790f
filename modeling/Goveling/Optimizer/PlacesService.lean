/-
# Places with retries and made-up places of last resort

`places_service_robust` asks the places service through the breaker for places, up
to four times, and makes places up when the breaker turns it away, the quota is used
up or nothing came of the last attempt. It waits for the service between asking and
hearing, so it is a task: others may use the breaker meanwhile. What comes back is the
first answer of the service, and made-up places only when no attempt before had one.
-/

import Goveling.Math.Tasks
import Goveling.Optimizer.RoutingBreaker
import Goveling.Optimizer.RoutingService

namespace Goveling.Optimizer

open Goveling.Math Goveling.Python

/-! ## Made-up places -/

/-- The keyword arguments that made-up places depend on. -/
structure PlacesKwargs where
  type : Option String := none
  types : Option (List String) := none

/-- `kwargs.get('type', 'point_of_interest')`. -/
def PlacesKwargs.placeType (kwargs : PlacesKwargs) : String :=
  kwargs.type.getD "point_of_interest"

/-- `types[0] if types else place_type`. -/
def PlacesKwargs.primaryType (kwargs : PlacesKwargs) : String :=
  match kwargs.types with
  | some (first :: _) => first
  | _ => kwargs.placeType

/-- Why a call of the places service raises. -/
inductive PlacesFailure
  | quotaExceeded
  | connection
  | other
  deriving DecidableEq

/-- A search for places, with what the service replies to each of its attempts. -/
structure PlacesCall where
  lat : ℚ
  lon : ℚ
  kwargs : PlacesKwargs := {}
  replies : ℕ → Except PlacesFailure (List PyDict)

section Fallbacks

variable (floatText : ℚ → String) (call : PlacesCall)

/-- `_emergency_places_fallback`. -/
def emergencyPlacesFallback : List PyDict :=
  (List.range 3).map fun i =>
    let offset : ℚ := ((i : ℚ) - 1) * (5 / 1000)
    [("name", .str ("Lugar " ++ toString (i + 1))),
      ("lat", .float (call.lat + offset)),
      ("lon", .float (call.lon + offset)),
      ("type", .str call.kwargs.placeType),
      ("rating", .float 4),
      ("fallback_generated", .bool true),
      ("address", .str "Dirección no disponible"),
      ("place_id", .str ("fallback_" ++ floatText call.lat ++ "_" ++ floatText call.lon ++ "_" ++
        toString i))]

/-- `synthetic_templates.get(primary_type, synthetic_templates['point_of_interest'])`. -/
def syntheticTemplates (primaryType : String) : List String :=
  if primaryType = "restaurant" then ["Restaurante local", "Café", "Comida rápida"]
  else if primaryType = "tourist_attraction" then ["Sitio histórico", "Mirador", "Plaza"]
  else if primaryType = "lodging" then ["Hotel", "Hostal", "Casa de huéspedes"]
  else ["Lugar de interés", "Centro comercial", "Parque"]

/-- `_synthetic_places_fallback`. -/
def syntheticPlacesFallback (now : ℚ) : List PyDict :=
  let primaryType := call.kwargs.primaryType
  (syntheticTemplates primaryType).zipIdx.map fun (template, i) =>
    let offset : ℚ := ((i : ℚ) - 1) * (3 / 1000)
    [("name", .str template),
      ("lat", .float (call.lat + offset)),
      ("lon", .float (call.lon + offset)),
      ("type", .str primaryType),
      ("rating", .float (4 + (i : ℚ) / 10)),
      ("synthetic", .bool true),
      ("address", .str "Dirección no disponible"),
      ("place_id", .str ("synthetic_" ++ primaryType ++ "_" ++ toString i ++ "_" ++
        toString (truncated now)))]

end Fallbacks

/-! ## A search as a task -/

/-- How far a search is: the attempt, and whether it waits for the service. -/
structure PlacesTask where
  attempt : ℕ := 0
  inFlight : Bool := false

/-- What a search waits for: its turn to ask the breaker, and the end of the call of the
service. Places are made up at the second time. -/
inductive PlacesEvent
  | ask (now later : ℚ)
  | hear (now later : ℚ)

/-- The search after an attempt that failed. -/
def placesRetry (givenUp : List PyDict) (attempt : ℕ) : PlacesTask ⊕ List PyDict :=
  if attempt < maxRetries then .inl { attempt := attempt + 1 } else .inr givenUp

/-- What a search does, with the places that are made up when it gives up. -/
def placesAct (givenUp : PlacesCall → ℚ → List PyDict) (call : PlacesCall)
    (breaker : CircuitBreaker) (task : PlacesTask) :
    PlacesEvent → Option (CircuitBreaker × (PlacesTask ⊕ List PyDict))
  | .ask now later =>
      if task.inFlight then none
      else
        match breaker.isOpen now with
        | .error _ => some (breaker, placesRetry (givenUp call later) task.attempt)
        | .ok (true, breaker) => some (breaker, .inr (givenUp call later))
        | .ok (false, breaker) => some (breaker, .inl { task with inFlight := true })
  | .hear now later =>
      if task.inFlight then
        match call.replies task.attempt with
        | .ok places => some (breaker.recordSuccess, .inr places)
        | .error .quotaExceeded =>
            some (breaker.recordFailure now, .inr (syntheticPlacesFallback call later))
        | .error _ =>
            some (breaker.recordFailure now, placesRetry (givenUp call later) task.attempt)
      else none

/-- An attempt fails and another may follow. -/
def PlacesCall.Fails (call : PlacesCall) (attempt : ℕ) : Prop :=
  ∃ failure, call.replies attempt = .error failure ∧ failure ≠ .quotaExceeded

/-- What a search can do at a turn, and what becomes of the breaker and of the search. -/
inductive PlacesActs (givenUp : PlacesCall → ℚ → List PyDict) (call : PlacesCall)
    (breaker : CircuitBreaker) (task : PlacesTask) :
    PlacesEvent → CircuitBreaker → PlacesTask ⊕ List PyDict → Prop
  | unanswered (now later : ℚ) (e : PyError) (hidle : task.inFlight = false)
      (hopen : breaker.isOpen now = .error e) :
      PlacesActs givenUp call breaker task (.ask now later) breaker
        (placesRetry (givenUp call later) task.attempt)
  | turnedAway (now later : ℚ) (hidle : task.inFlight = false)
      (hopen : breaker.isOpen now = .ok (true, breaker)) :
      PlacesActs givenUp call breaker task (.ask now later) breaker (.inr (givenUp call later))
  | admitted (now later : ℚ) (admitted : CircuitBreaker) (hidle : task.inFlight = false)
      (hallowed : breaker.allow now = some admitted) :
      PlacesActs givenUp call breaker task (.ask now later) admitted
        (.inl { task with inFlight := true })
  | answered (now later : ℚ) (places : List PyDict) (hflight : task.inFlight = true)
      (hreply : call.replies task.attempt = .ok places) :
      PlacesActs givenUp call breaker task (.hear now later) breaker.recordSuccess (.inr places)
  | quota (now later : ℚ) (hflight : task.inFlight = true)
      (hreply : call.replies task.attempt = .error .quotaExceeded) :
      PlacesActs givenUp call breaker task (.hear now later) (breaker.recordFailure now)
        (.inr (syntheticPlacesFallback call later))
  | failed (now later : ℚ) (hflight : task.inFlight = true) (hfails : call.Fails task.attempt) :
      PlacesActs givenUp call breaker task (.hear now later) (breaker.recordFailure now)
        (placesRetry (givenUp call later) task.attempt)

/-- A turn of a search is one of these. -/
theorem placesActs_of_placesAct {givenUp : PlacesCall → ℚ → List PyDict} {call : PlacesCall}
    {breaker breaker' : CircuitBreaker} {task : PlacesTask} {event : PlacesEvent}
    {outcome : PlacesTask ⊕ List PyDict}
    (hact : placesAct givenUp call breaker task event = some (breaker', outcome)) :
    PlacesActs givenUp call breaker task event breaker' outcome := by
  cases event with
  | ask now later =>
      cases hflight : task.inFlight with
      | true =>
          rw [placesAct, hflight] at hact
          cases hact
      | false =>
          rw [placesAct, hflight] at hact
          cases hopen : breaker.isOpen now with
          | error e =>
              rw [hopen] at hact
              cases hact
              exact .unanswered now later e hflight hopen
          | ok asked =>
              obtain ⟨isOpen, admitted⟩ := asked
              rw [hopen] at hact
              cases isOpen with
              | true =>
                  obtain rfl := CircuitBreaker.eq_of_isOpen hopen
                  cases hact
                  exact .turnedAway now later hflight hopen
              | false =>
                  cases hact
                  exact .admitted now later _ hflight (by rw [CircuitBreaker.allow, hopen])
  | hear now later =>
      cases hflight : task.inFlight with
      | false =>
          rw [placesAct, hflight] at hact
          cases hact
      | true =>
          rw [placesAct, hflight] at hact
          cases hreply : call.replies task.attempt with
          | ok places =>
              rw [hreply] at hact
              cases hact
              exact .answered now later places hflight hreply
          | error failure =>
              rw [hreply] at hact
              cases failure with
              | quotaExceeded =>
                  cases hact
                  exact .quota now later hflight hreply
              | connection | other =>
                  cases hact
                  exact .failed now later hflight ⟨_, hreply, by decide⟩

/-- A search for places that uses a breaker. -/
abbrev PlacesBody := TaskBody CircuitBreaker PlacesCall PlacesTask PlacesEvent (List PyDict)

/-- The searches that share a breaker. -/
abbrev PlacesGroup := TaskGroup CircuitBreaker PlacesCall PlacesTask (List PyDict)

/-- `places_service_robust`. -/
def placesServiceRobust (floatText : ℚ → String) : PlacesBody where
  fresh _ := {}
  act := placesAct fun call _ => emergencyPlacesFallback floatText call

/-- `places_service_real_robust`. -/
def placesServiceRealRobust : PlacesBody where
  fresh _ := {}
  act := placesAct syntheticPlacesFallback

/-! ## What a search promises -/

/-- What comes back for a search: the first answer of the service; made-up places of one kind
when the first attempt that does not just fail meets the quota; and of the other when the
breaker turned the search away or all attempts failed. -/
inductive Serves (givenUp : PlacesCall → ℚ → List PyDict) (call : PlacesCall) :
    List PyDict → Prop
  | answered (n : ℕ) (places : List PyDict) (hle : n ≤ maxRetries)
      (hbefore : ∀ k < n, call.Fails k) (hreply : call.replies n = .ok places) :
      Serves givenUp call places
  | quota (n : ℕ) (later : ℚ) (hle : n ≤ maxRetries) (hbefore : ∀ k < n, call.Fails k)
      (hreply : call.replies n = .error .quotaExceeded) :
      Serves givenUp call (syntheticPlacesFallback call later)
  | givenUp (n : ℕ) (later : ℚ) (hle : n ≤ maxRetries + 1) (hbefore : ∀ k < n, call.Fails k) :
      Serves givenUp call (givenUp call later)

section Promises

variable (givenUp : PlacesCall → ℚ → List PyDict)

/-- The promises of a search: an open breaker has its reasons, and the attempts that are over
have failed. -/
def placesSpec : TaskSpec CircuitBreaker PlacesCall PlacesTask PlacesEvent (List PyDict) where
  event _ _ := True
  shared := CircuitBreaker.SaysWhy
  memory call task := task.attempt ≤ maxRetries ∧ ∀ k < task.attempt, call.Fails k
  result := Serves givenUp

variable {givenUp} {body : PlacesBody} {breaker : CircuitBreaker}

/-- An attempt that failed is followed by another, or by what is made up. -/
theorem admits_placesRetry {call : PlacesCall} {later : ℚ} {attempt : ℕ}
    (hle : attempt ≤ maxRetries) (hbefore : ∀ k < attempt, call.Fails k)
    (hfails : call.Fails attempt) :
    (placesSpec givenUp).Admits call
      (.after (placesRetry (givenUp call later) attempt)) := by
  have hall : ∀ k < attempt + 1, call.Fails k := by
    intro k hk
    rcases Nat.lt_succ_iff_lt_or_eq.mp hk with hless | rfl
    · exact hbefore k hless
    · exact hfails
  unfold placesRetry
  split
  · rename_i hretry
    exact ⟨hretry, hall⟩
  · exact .givenUp (attempt + 1) later (by omega) hall

/-- What a search does keeps its promises, whatever other searches do to the breaker. -/
theorem keptBy_placesAct (hfresh : ∀ call, body.fresh call = {})
    (hact : body.act = placesAct givenUp) :
    (placesSpec givenUp).KeptBy body where
  fresh call := by
    rw [hfresh]
    exact ⟨Nat.zero_le _, fun k hk => absurd hk (Nat.not_lt_zero k)⟩
  act := by
    intro call breaker task event breaker' outcome _ hwhy hmemory hstep
    obtain ⟨hle, hbefore⟩ := hmemory
    rw [hact] at hstep
    cases placesActs_of_placesAct hstep with
    | unanswered now later e hidle hopen =>
        rcases hwhy.isOpen_cases now with hclosed | ⟨admitted, hclosed, -⟩ <;>
          rw [hclosed] at hopen <;> cases hopen
    | turnedAway now later hidle hopen =>
        exact ⟨hwhy, .givenUp task.attempt later (by omega) hbefore⟩
    | admitted now later admitted hidle hallowed =>
        exact ⟨CircuitBreaker.saysWhy_allow hallowed, hle, hbefore⟩
    | answered now later places hflight hreply =>
        exact ⟨CircuitBreaker.saysWhy_recordSuccess _,
          .answered task.attempt places hle hbefore hreply⟩
    | quota now later hflight hreply =>
        exact ⟨hwhy.recordFailure now, .quota task.attempt later hle hbefore hreply⟩
    | failed now later hflight hfails =>
        exact ⟨hwhy.recordFailure now, admits_placesRetry hle hbefore hfails⟩

theorem keptBy_placesServiceRobust (floatText : ℚ → String) :
    (placesSpec fun call _ => emergencyPlacesFallback floatText call).KeptBy
      (placesServiceRobust floatText) :=
  keptBy_placesAct (fun _ => rfl) rfl

theorem keptBy_placesServiceRealRobust :
    (placesSpec syntheticPlacesFallback).KeptBy placesServiceRealRobust :=
  keptBy_placesAct (fun _ => rfl) rfl

/-- What a search may still cost, if asking and hearing cost something. -/
def placesBudget (ask hear : ℕ) (task : PlacesTask) : ℕ :=
  (ask + hear) * (maxRetries - task.attempt) + if task.inFlight then hear else ask + hear

/-- The prices of asking and hearing. -/
def placesPrice (ask hear : ℕ) : PlacesEvent → ℕ
  | .ask _ _ => ask
  | .hear _ _ => hear

theorem placesBudget_of_idle {task : PlacesTask} (hidle : task.inFlight = false) (ask hear : ℕ) :
    placesBudget ask hear task = (ask + hear) * (maxRetries - task.attempt) + (ask + hear) := by
  rw [placesBudget, hidle, if_neg Bool.false_ne_true]

theorem placesBudget_of_inFlight {task : PlacesTask} (hflight : task.inFlight = true)
    (ask hear : ℕ) :
    placesBudget ask hear task = (ask + hear) * (maxRetries - task.attempt) + hear := by
  rw [placesBudget, hflight, if_pos rfl]

theorem ask_le_placesBudget {task : PlacesTask} (hidle : task.inFlight = false) (ask hear : ℕ) :
    ask ≤ placesBudget ask hear task := by
  rw [placesBudget_of_idle hidle]
  omega

theorem hear_le_placesBudget {task : PlacesTask} (hflight : task.inFlight = true)
    (ask hear : ℕ) : hear ≤ placesBudget ask hear task := by
  rw [placesBudget_of_inFlight hflight]
  omega

/-- Another attempt costs what was left for those that follow. -/
theorem placesBudget_of_placesRetry {made : List PyDict} {attempt : ℕ} {task : PlacesTask}
    (hretry : placesRetry made attempt = .inl task) (ask hear : ℕ) :
    placesBudget ask hear task = (ask + hear) * (maxRetries - attempt) := by
  unfold placesRetry at hretry
  by_cases hless : attempt < maxRetries
  · rw [if_pos hless] at hretry
    cases hretry
    obtain ⟨n, hn⟩ := Nat.exists_eq_add_of_lt hless
    have hthis : maxRetries - attempt = n + 1 := by omega
    have hnext : maxRetries - (attempt + 1) = n := by omega
    rw [placesBudget_of_idle rfl, hthis, hnext]
    ring
  · rw [if_neg hless] at hretry
    cases hretry

/-- A search asks and hears at most once in each attempt. -/
theorem affords_placesAct (hact : body.act = placesAct givenUp) (ask hear : ℕ) :
    body.Affords (placesPrice ask hear) (placesBudget ask hear) where
  more := by
    intro call breaker task event breaker' task' hstep
    rw [hact] at hstep
    generalize hmore : (.inl task' : PlacesTask ⊕ List PyDict) = outcome at hstep
    cases placesActs_of_placesAct hstep with
    | unanswered now later e hidle hopen =>
        rw [placesBudget_of_placesRetry hmore.symm, placesBudget_of_idle hidle, placesPrice]
        omega
    | turnedAway now later hidle hopen => cases hmore
    | admitted now later admitted hidle hallowed =>
        cases hmore
        rw [placesBudget_of_inFlight rfl, placesBudget_of_idle hidle, placesPrice]
        show ask + ((ask + hear) * (maxRetries - task.attempt) + hear) ≤ _
        omega
    | answered now later places hflight hreply => cases hmore
    | quota now later hflight hreply => cases hmore
    | failed now later hflight hfails =>
        rw [placesBudget_of_placesRetry hmore.symm, placesBudget_of_inFlight hflight, placesPrice]
        omega
  last := by
    intro call breaker task event breaker' places hstep
    rw [hact] at hstep
    generalize hlast : (.inr places : PlacesTask ⊕ List PyDict) = outcome at hstep
    cases placesActs_of_placesAct hstep with
    | unanswered now later e hidle hopen => exact ask_le_placesBudget hidle ask hear
    | turnedAway now later hidle hopen => exact ask_le_placesBudget hidle ask hear
    | admitted now later admitted hidle hallowed => cases hlast
    | answered now later places hflight hreply => exact hear_le_placesBudget hflight ask hear
    | quota now later hflight hreply => exact hear_le_placesBudget hflight ask hear
    | failed now later hflight hfails => exact hear_le_placesBudget hflight ask hear

/-- A search always waits for something that can happen. -/
theorem exists_event_placesAct (hact : body.act = placesAct givenUp) {call : PlacesCall}
    {task : PlacesTask} (hwhy : breaker.SaysWhy) :
    ∃ event, (placesSpec givenUp).event call event ∧
      (body.act call breaker task event).isSome = true := by
  rw [hact]
  cases hflight : task.inFlight with
  | true =>
      refine ⟨.hear 0 0, trivial, ?_⟩
      simp only [placesAct, hflight, if_true]
      split <;> rfl
  | false =>
      refine ⟨.ask 0 0, trivial, ?_⟩
      simp only [placesAct, hflight, Bool.false_eq_true, if_false]
      rcases hwhy.isOpen_cases 0 with hopen | ⟨admitted, hopen, -⟩ <;> rw [hopen] <;> rfl

end Promises

end Goveling.Optimizer
