/-
# The decision cache

A decision is kept for ten minutes under a key of six features of the request, and
rests on an analysis that reads the whole request. A request that finds a decision
under its key gets the one a fresh engine would make exactly when the request that
it was made for has the same analysis.
-/

import Goveling.Math.Provenance
import Goveling.Ortools.RequestAnalysis
import Mathlib.Data.Rat.Sqrt

namespace Goveling.Ortools

open Goveling.Math Goveling.Python

/-! ## Decisions -/

/-- What a decision rests on besides the health of the service. -/
structure RequestAnalysis where
  complexity : ItineraryComplexity
  featureFlags : FeatureFlags
  geoAnalysis : GeoAnalysis

/-- `decision_metadata`. -/
inductive DecisionMetadata
  | analyzed (analysis : RequestAnalysis) (ortoolsHealthy : Bool)
  | failed (error : String)

/-- `DecisionResult`. -/
structure DecisionResult where
  useOrtools : Bool
  confidenceScore : ℚ
  reasons : List String
  complexityScore : ℚ
  estimatedExecutionTimeMs : ℤ
  expectedSuccessRate : ℚ
  fallbackStrategy : String
  decisionMetadata : DecisionMetadata

/-- A verdict with its confidence and its reasons. -/
structure Verdict where
  useOrtools : Bool
  confidenceScore : ℚ
  reasons : List String

/-- The verdict on a request that no flag and no check turns down. -/
def weighComplexity (settings : DecisionSettings) (complexity : ItineraryComplexity) : Verdict :=
  let (placesReason, placesScore) :=
    if settings.minPlaces ≤ complexity.placesCount then
      ("sufficient_places_" ++ toString complexity.placesCount, (1 / 2 + 3 / 10 : ℚ))
    else if 3 ≤ complexity.placesCount then
      ("moderate_places_" ++ toString complexity.placesCount, (1 / 2 + 1 / 10 : ℚ))
    else ("too_few_places_" ++ toString complexity.placesCount, (0 : ℚ))
  let (daysReason, daysScore) :=
    if settings.minDays ≤ complexity.daysCount then
      ("multi_day_" ++ toString complexity.daysCount, (1 / 10 : ℚ))
    else ("single_day_ok", (5 / 100 : ℚ))
  let (overallReasons, overallScore) :=
    if 5 ≤ complexity.overallScore then
      (["high_complexity_" ++ fixedText 1 complexity.overallScore], (1 / 10 : ℚ))
    else if 3 ≤ complexity.overallScore then
      (["medium_complexity_" ++ fixedText 1 complexity.overallScore], (5 / 100 : ℚ))
    else ([], (0 : ℚ))
  let score := placesScore + daysScore + overallScore
  let reasons := [placesReason, daysReason] ++ overallReasons
  if 7 / 10 ≤ score then ⟨true, score, reasons ++ ["high_confidence_ortools"]⟩
  else if 5 / 10 ≤ score then ⟨true, score, reasons ++ ["medium_confidence_ortools"]⟩
  else ⟨false, max (1 / 10) score, reasons ++ ["low_confidence_fallback_legacy"]⟩

/-- The factors in their order: the first that is against OR-Tools decides. -/
def verdictOn (settings : DecisionSettings) (analysis : RequestAnalysis)
    (ortoolsHealthy : Bool) : Verdict :=
  if !analysis.featureFlags.enabled then
    ⟨false, 0, ["feature_disabled: " ++ analysis.featureFlags.reason]⟩
  else if !analysis.featureFlags.userEligible then
    ⟨false, 0, ["user_not_in_rollout_percentage"]⟩
  else if !analysis.featureFlags.geoEligible then ⟨false, 0, ["geography_not_eligible"]⟩
  else if !ortoolsHealthy then ⟨false, 0, ["ortools_service_unhealthy"]⟩
  else if !analysis.geoAnalysis.appropriate then ⟨false, 0, analysis.geoAnalysis.reasons⟩
  else weighComplexity settings analysis.complexity

/-- `_make_decision`. -/
def makeDecision (settings : DecisionSettings) (analysis : RequestAnalysis)
    (ortoolsHealthy : Bool) : DecisionResult :=
  let verdict := verdictOn settings analysis ortoolsHealthy
  { useOrtools := verdict.useOrtools
    confidenceScore := verdict.confidenceScore
    reasons := verdict.reasons
    complexityScore := analysis.complexity.overallScore
    estimatedExecutionTimeMs := if verdict.useOrtools then settings.expectedExecTimeMs else 8500
    expectedSuccessRate := if verdict.useOrtools then 1 else 1 / 10
    fallbackStrategy :=
      if verdict.useOrtools then "ortools_with_legacy_fallback" else "legacy_only"
    decisionMetadata := .analyzed analysis ortoolsHealthy }

/-- The decision after an exception. -/
def fallbackDecision (e : PyError) : DecisionResult where
  useOrtools := false
  confidenceScore := 0
  reasons := ["decision_engine_error: " ++ e.text]
  complexityScore := 0
  estimatedExecutionTimeMs := 8500
  expectedSuccessRate := 0
  fallbackStrategy := "legacy_safe_fallback"
  decisionMetadata := .failed e.text

/-! ## The engine -/

/-- The features of a request that the key is made of. -/
structure KeyFactors where
  placesCount : ℕ
  startDate : String
  endDate : String
  transportMode : PyVal
  userId : PyVal
  enableOrtools : Bool
  userPercentage : ℤ

/-- What is fixed for an engine: the settings, the library, the hash of sorted factors, and
what the health check of the service returns or raises. -/
structure DecisionEnv where
  settings : DecisionSettings
  library : AnalysisLibrary
  factorsHash : KeyFactors → String
  isHealthy : Except PyError Bool

/-- A request, and the readings of the clock: for the age of a cached decision, for the
health check and for the timestamp. The clock counts the seconds since 1970, so the first
check is never taken for a recent one. -/
structure DecisionCall where
  request : RequestData
  checkedAt : ℚ
  healthAt : ℚ
  storedAt : ℚ
  modern : 60 ≤ healthAt

/-- `ORToolsDecisionEngine`. The entries of the cache also say which request they were made
for, which is only talked about. -/
structure ORToolsDecisionEngine where
  decisionCache : TracedMap String RequestData DecisionResult ℚ := .empty
  lastHealthCheck : ℚ := 0
  ortoolsHealthStatus : Option Bool := none

namespace ORToolsDecisionEngine

/-- `self.cache_ttl`. -/
def cacheTtl : ℚ := 600

/-- `str(request_data.get(key, ""))` for the key of a date. -/
def dateText (library : AnalysisLibrary) : Option DateField → String
  | none => ""
  | some (.value value) => library.textOf value
  | some (.moment moment) => library.momentText moment

/-- `_generate_cache_key`. -/
def generateCacheKey (env : DecisionEnv) (request : RequestData) : Except PyError String := do
  let placesCount ← (placesOf request).len
  return env.factorsHash
    { placesCount := placesCount
      startDate := dateText env.library request.startDate
      endDate := dateText env.library request.endDate
      transportMode := request.get "transport_mode" (.str "")
      userId := request.get "user_id" (.str "anonymous")
      enableOrtools := env.settings.enableOrtools
      userPercentage := env.settings.userPercentage }

/-- `_check_ortools_health`. -/
def checkOrtoolsHealth (env : DecisionEnv) (engine : ORToolsDecisionEngine) (now : ℚ) :
    Bool × ORToolsDecisionEngine :=
  if now - engine.lastHealthCheck < 60 then (engine.ortoolsHealthStatus.getD false, engine)
  else
    let healthy := env.isHealthy.toOption.getD false
    (healthy, { engine with
      lastHealthCheck := now
      ortoolsHealthStatus := some healthy })

/-- The decision under a key that is not too old. -/
def found (engine : ORToolsDecisionEngine) (key : String) (now : ℚ) :
    Option (Traced RequestData DecisionResult ℚ) :=
  (OrderedMap.get? engine.decisionCache key).filter fun entry => now - entry.stamp < cacheTtl

/-- The flags and the geography, once the complexity is known. -/
def analyzeRest (env : DecisionEnv) (request : RequestData) (complexity : ItineraryComplexity) :
    Except PyError RequestAnalysis := do
  let featureFlags ← checkFeatureFlags env.settings env.library request
  let geoAnalysis ← analyzeGeography env.settings env.library request
  return {
    complexity := complexity
    featureFlags := featureFlags
    geoAnalysis := geoAnalysis }

/-- `should_use_ortools`. -/
def shouldUseOrtools (env : DecisionEnv) (engine : ORToolsDecisionEngine) (call : DecisionCall) :
    DecisionResult × ORToolsDecisionEngine :=
  match generateCacheKey env call.request with
  | .error e => (fallbackDecision e, engine)
  | .ok key =>
      match engine.found key call.checkedAt with
      | some cachedResult => (cachedResult.answer, engine)
      | none =>
          match analyzeComplexity env.library call.request with
          | .error e => (fallbackDecision e, engine)
          | .ok complexity =>
              let (ortoolsHealthy, checked) := engine.checkOrtoolsHealth env call.healthAt
              match analyzeRest env call.request complexity with
              | .error e => (fallbackDecision e, checked)
              | .ok analysis =>
                  let decision := makeDecision env.settings analysis ortoolsHealthy
                  (decision, { checked with
                    decisionCache := OrderedMap.set checked.decisionCache key
                      { origin := call.request
                        answer := decision
                        stamp := call.storedAt } })

/-- The engine after a request. -/
def next (env : DecisionEnv) (engine : ORToolsDecisionEngine) (call : DecisionCall) :
    ORToolsDecisionEngine :=
  (engine.shouldUseOrtools env call).2

/-- The entry that a request is served from. -/
def served (env : DecisionEnv) (engine : ORToolsDecisionEngine) (call : DecisionCall) :
    Option (Traced RequestData DecisionResult ℚ) :=
  match generateCacheKey env call.request with
  | .error _ => none
  | .ok key => engine.found key call.checkedAt

/-- All analyses of a request. -/
def analyze (env : DecisionEnv) (request : RequestData) : Except PyError RequestAnalysis := do
  let complexity ← analyzeComplexity env.library request
  analyzeRest env request complexity

/-- The verdict of the health check. -/
def healthOf (env : DecisionEnv) : Bool := env.isHealthy.toOption.getD false

/-- The decision that a request is due, without a cache. -/
def decisionOn (env : DecisionEnv) (request : RequestData) : DecisionResult :=
  match generateCacheKey env request with
  | .error e => fallbackDecision e
  | .ok _ =>
      match analyze env request with
      | .error e => fallbackDecision e
      | .ok analysis => makeDecision env.settings analysis (healthOf env)

/-! ## Fresh decisions -/

/-- The health that an engine remembers is the health of the service. -/
def KnowsHealth (env : DecisionEnv) (engine : ORToolsDecisionEngine) : Prop :=
  engine.lastHealthCheck = 0 ∨ engine.ortoolsHealthStatus = some (healthOf env)

variable {env : DecisionEnv} {engine : ORToolsDecisionEngine} {call : DecisionCall}

theorem checkOrtoolsHealth_eq (hknows : engine.KnowsHealth env) {now : ℚ} (hmodern : 60 ≤ now) :
    ∃ checked, engine.checkOrtoolsHealth env now = (healthOf env, checked) ∧
      checked.KnowsHealth env ∧ checked.decisionCache = engine.decisionCache := by
  unfold checkOrtoolsHealth
  split
  · rename_i hrecent
    refine ⟨engine, ?_, hknows, rfl⟩
    rcases hknows with hnever | hstatus
    · rw [hnever] at hrecent
      linarith
    · rw [hstatus]
      rfl
  · exact ⟨_, rfl, .inr rfl, rfl⟩

/-- A decision was made from an analysis of its request. -/
def MadeFor (env : DecisionEnv) (request : RequestData) (decision : DecisionResult) : Prop :=
  ∃ analysis, analyze env request = .ok analysis ∧
    decision = makeDecision env.settings analysis (healthOf env)

/-- A request is served from an entry, or gets its own decision, which may be stored. -/
theorem shouldUseOrtools_cases (hknows : engine.KnowsHealth env) (call : DecisionCall) :
    (∃ entry, engine.served env call = some entry ∧
      engine.shouldUseOrtools env call = (entry.answer, engine)) ∨
    (engine.served env call = none ∧ ∃ after,
      engine.shouldUseOrtools env call = (decisionOn env call.request, after) ∧
        after.KnowsHealth env ∧
        TracedMap.Stores (MadeFor env) engine.decisionCache after.decisionCache) := by
  unfold served shouldUseOrtools decisionOn
  cases hkey : generateCacheKey env call.request with
  | error e => exact .inr ⟨rfl, engine, rfl, hknows, .inl rfl⟩
  | ok key =>
      dsimp only
      cases hfound : engine.found key call.checkedAt with
      | some entry => exact .inl ⟨entry, rfl, rfl⟩
      | none =>
          refine .inr ⟨rfl, ?_⟩
          dsimp only
          obtain ⟨checked, hchecked, hknows', hcache⟩ :=
            checkOrtoolsHealth_eq hknows call.modern
          cases hcomplexity : analyzeComplexity env.library call.request with
          | error e =>
              have hanalyze : analyze env call.request = .error e := by
                unfold analyze
                rw [hcomplexity]
                rfl
              rw [hanalyze]
              exact ⟨engine, rfl, hknows, .inl rfl⟩
          | ok complexity =>
              have hanalyze : analyze env call.request =
                  analyzeRest env call.request complexity := by
                unfold analyze
                rw [hcomplexity]
                rfl
              rw [hanalyze, hchecked]
              dsimp only
              cases hrest : analyzeRest env call.request complexity with
              | error e => exact ⟨checked, rfl, hknows', .inl hcache⟩
              | ok analysis =>
                  refine ⟨_, rfl, hknows', .inr ⟨key, ⟨call.request,
                    makeDecision env.settings analysis (healthOf env), call.storedAt⟩, ?_, ?_⟩⟩
                  · exact ⟨analysis, hanalyze.trans hrest, rfl⟩
                  · rw [← hcache]

theorem knowsHealth_fresh (env : DecisionEnv) : KnowsHealth env {} := .inl rfl

/-- A fresh engine makes the decision that a request is due. -/
theorem shouldUseOrtools_fresh (env : DecisionEnv) (call : DecisionCall) :
    (({} : ORToolsDecisionEngine).shouldUseOrtools env call).1 = decisionOn env call.request := by
  rcases shouldUseOrtools_cases (knowsHealth_fresh env) call with
    ⟨entry, hserved, -⟩ | ⟨-, after, hreply, -⟩
  · unfold served at hserved
    split at hserved
    · cases hserved
    · cases hserved
  · rw [hreply]

/-- What serves a request is in the cache, and the request has a key. -/
theorem get?_of_served {entry : Traced RequestData DecisionResult ℚ}
    (hserved : engine.served env call = some entry) :
    ∃ key, generateCacheKey env call.request = .ok key ∧
      OrderedMap.get? engine.decisionCache key = some entry := by
  unfold served at hserved
  split at hserved
  · cases hserved
  · rename_i key hkey
    exact ⟨key, hkey, (Option.filter_eq_some_iff.mp hserved).1⟩

/-- A decision made from an analysis is due to a request with the same analysis only. -/
theorem decisionOn_eq_iff {request : RequestData} {key : String}
    (hkey : generateCacheKey env request = .ok key) {origin : RequestData}
    {decision : DecisionResult} (hmade : MadeFor env origin decision) :
    decision = decisionOn env request ↔ analyze env origin = analyze env request := by
  obtain ⟨analysis, horigin, rfl⟩ := hmade
  unfold decisionOn
  rw [hkey, horigin]
  dsimp only
  constructor
  · intro hsame
    have hmetadata := congrArg DecisionResult.decisionMetadata hsame
    cases hanalyze : analyze env request with
    | error e =>
        rw [hanalyze] at hmetadata
        cases hmetadata
    | ok other =>
        rw [hanalyze] at hmetadata
        cases hmetadata
        rfl
  · intro hsame
    rw [← hsame]

/-- A request gets the decision of a fresh engine if it is not served, or if the request it
is served from has the same analysis. -/
theorem fresh_iff (hknows : engine.KnowsHealth env)
    (hsound : TracedMap.Sound (MadeFor env) engine.decisionCache) (call : DecisionCall) :
    (engine.shouldUseOrtools env call).1 =
        (({} : ORToolsDecisionEngine).shouldUseOrtools env call).1 ↔
      ∀ entry, engine.served env call = some entry →
        analyze env entry.origin = analyze env call.request := by
  rw [shouldUseOrtools_fresh]
  rcases shouldUseOrtools_cases hknows call with
    ⟨entry, hserved, hreply⟩ | ⟨hserved, after, hreply, -⟩
  · obtain ⟨key, hkey, hfound⟩ := get?_of_served hserved
    rw [hreply]
    apply TracedMap.iff_of_served hserved
    exact decisionOn_eq_iff hkey (hsound.right_of_get? hfound)
  · rw [hreply]
    apply TracedMap.iff_of_not_served hserved
    rfl

/-- Requests one after the other to an engine. -/
def decisionRun (env : DecisionEnv) (calls : List DecisionCall) :
    List (ORToolsDecisionEngine × DecisionCall) :=
  moments (next env) {} calls

theorem next_stores (hknows : engine.KnowsHealth env) (call : DecisionCall) :
    (engine.next env call).KnowsHealth env ∧
      TracedMap.Stores (MadeFor env) engine.decisionCache
        (engine.next env call).decisionCache := by
  unfold next
  rcases shouldUseOrtools_cases hknows call with
    ⟨entry, -, hreply⟩ | ⟨-, after, hreply, hafter, hstores⟩
  · rw [hreply]
    exact ⟨hknows, .inl rfl⟩
  · rw [hreply]
    exact ⟨hafter, hstores⟩

end ORToolsDecisionEngine

open ORToolsDecisionEngine in
/-- In every sequence of requests under fixed settings and health, every decision is the one
of a fresh engine exactly when every request that is served from the cache has the analysis
of the request that its decision was made for. -/
theorem shouldUseOrtools_fresh_iff (env : DecisionEnv) (calls : List DecisionCall) :
    (∀ moment ∈ decisionRun env calls,
        (moment.1.shouldUseOrtools env moment.2).1 =
          (({} : ORToolsDecisionEngine).shouldUseOrtools env moment.2).1) ↔
      ∀ moment ∈ decisionRun env calls, ∀ entry,
        moment.1.served env moment.2 = some entry →
          analyze env entry.origin = analyze env moment.2.request := by
  refine forall₂_congr fun moment hmem => ?_
  have hstep : ∀ engine, KnowsHealth env engine → ∀ call ∈ calls,
      KnowsHealth env (next env engine call) ∧
        TracedMap.Stores (MadeFor env) engine.decisionCache (next env engine call).decisionCache :=
    fun engine hknows call _ => next_stores hknows call
  obtain ⟨hknows, hsound, -⟩ :=
    TracedMap.sound_moments_of_invariant ORToolsDecisionEngine.decisionCache hstep
      (knowsHealth_fresh env) TracedMap.sound_empty moment hmem
  exact fresh_iff hknows hsound moment.2

/-! ## Two trips of four places -/

/-- Functions that behave as the library does on the trips below. -/
def plainLibrary : AnalysisLibrary where
  fromisoformat _ := .ok (.naive 0)
  sqrt := Rat.sqrt
  radians degrees := degrees * (314159 / 100000) / 180
  dbscanLabels coordinates := .ok (coordinates.map fun _ => 0)
  md5Number _ := 0
  textOf
    | .str text => text
    | _ => ""
  momentText _ := ""

/-- OR-Tools is enabled for everyone, and healthy. -/
def plainEnv : DecisionEnv where
  settings := { enableOrtools := true, userPercentage := 100 }
  library := plainLibrary
  factorsHash factors := toString factors.placesCount ++ factors.startDate ++ factors.endDate
  isHealthy := .ok true

/-- Four places of Santiago, the last of them at some latitude. -/
def fourPlaces (lat : ℚ) : RequestData :=
  let place (lat : ℚ) : PyVal :=
    .dict [("lat", .float lat), ("lon", .float (-70)), ("city", .str "Santiago")]
  { entries := [("places", .list [place (-33), place (-33), place (-33), place lat])]
    startDate := some (.value (.str "2025-01-01"))
    endDate := some (.value (.str "2025-01-01")) }

/-- A request in 2025. -/
def decisionCall (request : RequestData) (now : ℚ) : DecisionCall where
  request := request
  checkedAt := 1735689600 + now
  healthAt := max 60 (1735689600 + now)
  storedAt := 1735689600 + now
  modern := le_max_left _ _

/-- The places of the second trip lie 2220 kilometres apart, and it gets the decision of the
first. -/
theorem shouldUseOrtools_not_fresh :
    ¬ ∀ moment ∈ ORToolsDecisionEngine.decisionRun plainEnv
        [decisionCall (fourPlaces (-34)) 0, decisionCall (fourPlaces (-53)) 60],
      (moment.1.shouldUseOrtools plainEnv moment.2).1 =
        (({} : ORToolsDecisionEngine).shouldUseOrtools plainEnv moment.2).1 := by
  intro hfresh
  have hsecond := (List.forall_mem_cons.mp (List.forall_mem_cons.mp hfresh).2).1
  have hverdict := congrArg DecisionResult.useOrtools hsecond
  revert hverdict
  decide +kernel

end Goveling.Ortools
