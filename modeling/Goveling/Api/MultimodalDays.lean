/-
# The days of the multimodal endpoint

The days of a result are numbered in the order of the result. A date that the
result leaves out becomes a day with suggestions, numbered behind all others, and
then the days are sorted by date. The numbers are those of before the sorting.
-/

import Goveling.Api.MultimodalEngine
import Goveling.Api.TimeTexts
import Goveling.Python.Calendar

namespace Goveling.Api.Multimodal

open Goveling.Python Goveling.Ortools Goveling.Python.Date

/-- The parts of a validated request that the days depend on. -/
structure ItineraryRequest where
  places : List (ℚ × ℚ)
  startDate : Date
  endDate : Date
  dailyStartHour : ℕ
  dailyEndHour : ℕ
  dates_le : startDate.toordinal ≤ endDate.toordinal

/-- What the endpoint meets outside: the router, the service behind the suggestions,
the suggestions of a day with the places used so far, and the list that a sorting
leaves when some date is no text. -/
structure MultimodalEnv where
  converter : ConverterEnv
  routerStats : Except PyError PyDict
  processingSeconds : ℚ
  placesService : Except PyError Unit
  suggestionsForDay : ℚ × ℚ → PyVal → ℕ → List String → List PyDict × List String
  sortMixed : (days : List PyDict) →
    { outcome : List PyDict × Except PyError Unit // outcome.1.Perm days }

/-! ## One day -/

/-- `sum(item.get(key, 0) for item in items)` as a value. -/
def sumValue (key : String) (items : List PyDict) : Except PyError PyVal :=
  items.foldlM (fun total item => total.plus (item.get key (.int 0))) (.int 0)

/-- The text of a number. -/
def MultimodalEnv.numberText (env : MultimodalEnv) : PyVal → String
  | .int number => toString number
  | number => env.converter.textOf number

/-- The entry of the response for a day of the result. -/
def dayData (env : MultimodalEnv) (request : ItineraryRequest) (day : FrontendDay) :
    Except PyError PyDict := do
  let transport ← sumValue "duration_minutes" day.transfers
  let walking ← sumValue "walking_time_minutes" day.places
  let busy := day.activityMinutes + day.transportMinutes
  let window : ℚ := ((request.dailyEndHour : ℚ) - request.dailyStartHour) * 60
  .ok [
    ("day", .int day.day),
    ("date", day.date),
    ("places", .list (day.places.map .dict)),
    ("transfers", .list (day.transfers.map .dict)),
    ("total_places", .int day.places.length),
    ("total_transfers", .int day.transfers.length),
    ("total_time", .str (fixedText 1 (busy / 60) ++ "h")),
    ("free_time", .str (freeTimeText ((window - busy) / 60))),
    ("transport_time", .str (env.numberText transport ++ "min")),
    ("walking_time", .str (env.numberText walking ++ "min")),
    ("is_suggested", .bool day.isSuggested),
    ("base", day.base),
    ("free_blocks", day.freeBlocks),
    ("actionable_recommendations", day.actionableRecommendations),
    ("schedule_info", day.scheduleInfo)]

/-- `parse_time_string`. -/
def parseTimeString (timeStr : String) : Except PyError ℤ :=
  if timeStr = "" || timeStr = "0min" then .ok 0
  else if textIn "h" timeStr && textIn "min" timeStr then
    match splitBlanks (replaceText (replaceText timeStr "h" " ") "min" "") with
    | [] => .error (.indexError "list index out of range")
    | hours :: rest => do
        let hours ← intOfText hours
        match rest with
        | [] => .error (.indexError "list index out of range")
        | minutes :: _ => .ok (hours * 60 + (← intOfText minutes))
  else if textIn "h" timeStr then
    (intOfText (replaceText timeStr "h" "")).map fun hours => hours * 60
  else if textIn "min" timeStr then intOfText (replaceText timeStr "min" "")
  else .ok 0

/-- The text under a key of a day. -/
def textUnder (day : PyDict) (key default : String) : String :=
  match day.get key (.str default) with
  | .str text => text
  | _ => default

/-- The sum of the times of all days under a key. -/
def totalMinutes (itineraryDays : List PyDict) (key : String) : Except PyError ℤ := do
  let minutes ← itineraryDays.mapM fun day => parseTimeString (textUnder day key "0min")
  .ok minutes.sum

/-! ## Free days -/

/-- The number of dates that were asked for. -/
def totalDaysRequested (request : ItineraryRequest) : ℤ :=
  request.startDate.daysUntil request.endDate + 1

/-- The loop over the dates: those that no day has. The date is moved on behind the
last turn, too. -/
def missingDates (existing : List PyVal) : Date → ℕ → Except PyError (List String)
  | _, 0 => .ok []
  | date, count + 1 => do
      let rest ← date.tomorrow >>= fun next => missingDates existing next count
      if existing.any fun value => value.isText date.isoformat then .ok rest
      else .ok (date.isoformat :: rest)

/-- The dates that are completely free. They are looked for when there are fewer
days than dates, and found with a set of the dates that there are. -/
def emptyDays (request : ItineraryRequest) (itineraryDays : List PyDict) :
    Except PyError (List String) :=
  if (itineraryDays.length : ℤ) < totalDaysRequested request then
    let existing := itineraryDays.map fun day => day.get "date" .none
    match existing.find? fun value => !value.hashable with
    | some value => .error (.typeError ("unhashable type: '" ++ value.typeName ++ "'"))
    | none => missingDates existing request.startDate (totalDaysRequested request).toNat
  else .ok []

/-- The number of places of a day. -/
def placesCount (day : PyDict) : ℕ :=
  match day.get "places" (.list []) with
  | .list places => places.length
  | _ => 0

/-- The free minutes that are read back from the text. A text with minutes is no
number without its `h`, and counts as no free time. -/
def freeMinutes (day : PyDict) : ℤ :=
  match wholeNumber? (replaceText (textUnder day "free_time" "0h") "h" "").toList with
  | some hours => hours * 60
  | none => 0

/-- A day with more than two free hours, or with hardly anything to do. -/
def isPartiallyFree (day : PyDict) : Bool := 120 < freeMinutes day || placesCount day ≤ 1

/-- The state of the loops that ask for suggestions. -/
structure FillState where
  days : List PyDict := []
  usedPlaceIds : List String := []
  dayCounter : ℕ := 1

/-- The middle of the places of the request. -/
def centerOf (places : List (ℚ × ℚ)) : ℚ × ℚ :=
  if places.isEmpty then (mkRat 285383 10000, mkRat (-813792) 10000)
  else ((places.map Prod.fst).sum / places.length, (places.map Prod.snd).sum / places.length)

/-- A day without places is filled with suggestions. -/
def fillWithSuggestions (suggestedPlaces : List PyDict) (existing : PyDict) : PyDict :=
  (((((existing.set "places" (.list (suggestedPlaces.map .dict))).set "total_places"
    (.int suggestedPlaces.length)).set "total_time" (.str "3.5h")).set "free_time"
    (.str "5.5h")).set "suggested_day" (.bool true)).set "suggestion_reason"
    (.str "Día libre detectado - sugerencias automáticas generadas")

/-- One turn of the loop over the days of the result. -/
def fillDay (env : MultimodalEnv) (center : ℚ × ℚ) (state : FillState) (day : PyDict) :
    FillState :=
  if placesCount day = 0 then
    let suggested :=
      env.suggestionsForDay center (day.get "date" .none) state.dayCounter state.usedPlaceIds
    { days := state.days ++ [fillWithSuggestions suggested.1 day]
      usedPlaceIds := suggested.2
      dayCounter := state.dayCounter + 1 }
  else { state with days := state.days ++ [day] }

/-- The entry for a date without a day. -/
def freeDayEntry (number : ℕ) (date : String) (suggestedPlaces : List PyDict) : PyDict :=
  [ ("day", .int number),
    ("date", .str date),
    ("places", .list (suggestedPlaces.map .dict)),
    ("transfers", .list []),
    ("total_places", .int suggestedPlaces.length),
    ("total_transfers", .int 0),
    ("total_time", .str "3.5h"),
    ("walking_time", .str "0min"),
    ("transport_time", .str "0min"),
    ("free_time", .str "5.5h"),
    ("suggested_day", .bool true),
    ("suggestion_reason", .str "Día libre detectado - sugerencias automáticas generadas")]

/-- One turn of the loop over the dates without a day. -/
def insertDay (env : MultimodalEnv) (center : ℚ × ℚ) (state : FillState) (date : String) :
    FillState :=
  let suggested := env.suggestionsForDay center (.str date) state.dayCounter state.usedPlaceIds
  if state.days.any fun day => (day.get "date" .none).isText date then
    { state with usedPlaceIds := suggested.2 }
  else
    { days := state.days ++ [freeDayEntry (state.days.length + 1) date suggested.1]
      usedPlaceIds := suggested.2
      dayCounter := state.dayCounter + 1 }

/-- The date of a day, if it is a text. -/
def dateText (day : PyDict) : Option String :=
  match day.get "date" (.str "") with
  | .str text => some text
  | _ => none

/-- `itinerary_days.sort(key=lambda x: x.get("date", ""))`. -/
def sortByDate (env : MultimodalEnv) (days : List PyDict) : List PyDict × Except PyError Unit :=
  if days.all fun day => (dateText day).isSome then
    (sortedBy (fun day => (dateText day).getD "") days, .ok ())
  else (env.sortMixed days).1

/-- What is added to the recommendations when the suggestions fail. -/
def suggestionsFailed : String :=
  "⚠️ Error generando sugerencias automáticas para días libres. " ++
    "Contacta soporte si persiste el problema."

/-- The block that fills the free days, with the recommendations it adds. -/
def suggestFreeDays (env : MultimodalEnv) (request : ItineraryRequest) (empty : List String)
    (itineraryDays : List PyDict) : List PyDict × List String :=
  match env.placesService with
  | .error _ => (itineraryDays, [suggestionsFailed])
  | .ok _ =>
      let center := centerOf request.places
      let filled := itineraryDays.foldl (fillDay env center) {}
      let inserted := empty.foldl (insertDay env center) filled
      let sorted := sortByDate env inserted.days
      match sorted.2 with
      | .error _ => (sorted.1, [suggestionsFailed])
      | .ok _ =>
          (sorted.1,
            if empty.isEmpty then []
            else [
              "🎯 " ++ toString empty.length ++
                " días libres detectados - sugerencias automáticas generadas",
              "💡 Las sugerencias aparecen marcadas como 'suggested: true'",
              "🔄 Puedes reemplazar las sugerencias con tus propios lugares"])

/-- The block runs when some day is free at all. -/
def fillFreeDays (env : MultimodalEnv) (request : ItineraryRequest) (empty : List String)
    (itineraryDays : List PyDict) : List PyDict × List String :=
  if empty.isEmpty && !itineraryDays.any isPartiallyFree then (itineraryDays, [])
  else suggestFreeDays env request empty itineraryDays

/-! ## The response -/

/-- The answer of the endpoint. -/
structure ItineraryResponse where
  itinerary : List PyDict
  optimizationMetrics : PyDict
  recommendations : List String

/-- The multimodal endpoint from a checked result to its response. -/
def respond (env : MultimodalEnv) (request : ItineraryRequest) (optimizationResult : PyDict) :
    Except PyError ItineraryResponse := do
  let days ← readMultimodal env.converter optimizationResult
  let itineraryDays ← days.mapM (dayData env request)
  let optimizationMetrics := optimizationResult.get "optimization_metrics" (.dict [])
  let totalActivities := (days.map fun day => day.places.length).sum
  let transport ← totalMinutes itineraryDays "transport_time"
  let walking ← totalMinutes itineraryDays "walking_time"
  let routerStats ← env.routerStats
  let empty ← emptyDays request itineraryDays
  let filled := fillFreeDays env request empty itineraryDays
  let efficiencyScore ← optimizationMetrics.get "efficiency_score" (.float (mkRat 95 100))
  let clustersGenerated ← optimizationMetrics.get "clusters_generated" (.int 0)
  let longTransfers ← optimizationMetrics.get "long_transfers_detected" (.int 0)
  let cachePerformance ← optimizationMetrics.get "cache_performance" (.dict [])
  .ok
    { itinerary := filled.1
      optimizationMetrics := [
        ("total_places", .int totalActivities),
        ("total_days", .int filled.1.length),
        ("optimization_mode", .str "multimodal_hybrid_v31"),
        ("efficiency_score", efficiencyScore),
        ("total_travel_time_minutes", .int (transport + walking)),
        ("total_transport_time_minutes", .int transport),
        ("total_walking_time_minutes", .int walking),
        ("processing_time_seconds", .float env.processingSeconds),
        ("multimodal_router_stats", .dict routerStats),
        ("clusters_generated", clustersGenerated),
        ("intercity_transfers_detected", longTransfers),
        ("cache_performance", cachePerformance)]
      recommendations := [
        "Itinerario optimizado con sistema multi-modal",
        toString totalActivities ++ " actividades distribuidas en " ++
          toString itineraryDays.length ++ " días",
        "Tiempo total de viaje: " ++ toString (transport + walking) ++ " minutos",
        "Router multi-modal: " ++ env.numberText (routerStats.get "cached_graphs" (.int 0)) ++
          " grafos en caché"] ++ filled.2 }

/-- `generate_multimodal_itinerary_endpoint` from the decision on. -/
def generateMultimodalItineraryEndpoint (env : MultimodalEnv) (request : ItineraryRequest)
    (outcomes : EngineOutcomes) : Except HTTPException ItineraryResponse :=
  let response := do
    let optimizationResult ← (chooseEngine outcomes).result
    let _rawDays ← optimizationResult.item "days"
    respond env request (← optimizationResult.getter)
  match response with
  | .ok response => .ok response
  | .error e => .error ⟨500, "Error generando itinerario multi-modal: " ++ e.text⟩

/-- What the endpoint answers is the response to the dictionary of the chosen engine. -/
theorem generateMultimodalItineraryEndpoint_eq_ok {env : MultimodalEnv}
    {request : ItineraryRequest} {outcomes : EngineOutcomes} {response : ItineraryResponse}
    (hanswer : generateMultimodalItineraryEndpoint env request outcomes = .ok response) :
    ∃ optimizationResult : PyDict,
      (chooseEngine outcomes).result = .ok (.dict optimizationResult) ∧
        respond env request optimizationResult = .ok response := by
  unfold generateMultimodalItineraryEndpoint at hanswer
  dsimp only at hanswer
  split at hanswer
  · rename_i answered hbody
    cases hanswer
    obtain ⟨chosen, hchosen, hbody⟩ := exists_of_bind_eq_ok hbody
    obtain ⟨rawDays, -, hbody⟩ := exists_of_bind_eq_ok hbody
    obtain ⟨optimizationResult, hgetter, hrespond⟩ := exists_of_bind_eq_ok hbody
    cases chosen with
    | dict entries =>
        cases hgetter
        exact ⟨optimizationResult, hchosen, hrespond⟩
    | none | bool _ | int _ | float _ | str _ | list _ => cases hgetter
  · cases hanswer

end Goveling.Api.Multimodal
