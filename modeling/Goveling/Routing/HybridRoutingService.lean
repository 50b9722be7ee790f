/-
# The hybrid routing service and its counters

A short route is asked of OSRM first and of Google if that fails, a long one of Google
first and of OSRM if that fails; the straight line is the last resort. The counters are
bumped by hand, branch by branch. Every completed call is counted once, for the provider
that answered it. A failure is counted only for OSRM and only when it was asked first, so
the books of the providers balance exactly in the runs that meet no other failure.
-/

import Goveling.Math.Runs
import Goveling.Optimizer.RoutingService

namespace Goveling.Routing

open Goveling.Math Goveling.Python

/-! ## Requests and answers -/

/-- `round(x, digits)`. -/
def roundDigits (digits : ℕ) (x : ℚ) : ℚ := roundHalfEven (x * 10 ^ digits) / 10 ^ digits

/-- A response to an HTTP request: its status, and its body read as JSON. -/
structure HttpResponse where
  statusCode : ℕ
  json : Except PyError PyVal

/-- A request for a route, what the providers would answer it, and what the clock says of
each of the calls. -/
structure RouteRequest where
  origin : Optimizer.Coordinates
  destination : Optimizer.Coordinates
  mode : String := "drive"
  osrm : Except PyError HttpResponse
  google : Except PyError PyVal
  osrmMs : ℚ := 0
  googleMs : ℚ := 0
  euclideanMs : ℚ := 0
  totalMs : ℚ := 0

namespace HybridRoutingService

/-- `RoutingResult`. -/
structure RoutingResult where
  distanceKm : PyVal
  durationMinutes : PyVal
  processingTimeMs : ℚ
  source : String
  success : Bool
  confidence : ℚ
  fallbackFrom : Option String := none

/-- `self.URBAN_THRESHOLD_KM`. -/
def urbanThresholdKm : ℚ := 50

/-- The route that `_get_osrm_route` reads from a response. -/
def readOsrm (response : HttpResponse) (processingTimeMs : ℚ) :
    Except PyError (Option RoutingResult) := do
  if response.statusCode = 200 then
    let data ← response.json
    if (← data.item "code").isText "Ok" then
      let routes ← data.item "routes"
      if routes.truthy then
        let route ← routes.itemAt 0
        let kilometres ← (← (← route.item "distance").dividedBy 1000).real
        let minutes ← (← (← route.item "duration").dividedBy 60).real
        return some {
          distanceKm := .float (roundDigits 2 kilometres)
          durationMinutes := .float (roundDigits 1 minutes)
          processingTimeMs
          source := "osrm"
          success := true
          confidence := 9 / 10 }
  return none

/-- The route that `_get_google_route` reads from what `eta_between` returns. -/
def readGoogle (result : PyVal) (processingTimeMs : ℚ) :
    Except PyError (Option RoutingResult) := do
  if result.truthy then
    if ← result.contains "distance_km" then
      return some {
        distanceKm := ← result.get "distance_km" (.int 0)
        durationMinutes := ← result.get "duration_minutes" (.int 0)
        processingTimeMs
        source := "google"
        success := true
        confidence := 95 / 100 }
  return none

/-- `speed_factors.get(mode, 25)`. -/
def speedFactor (mode : String) : ℚ :=
  if mode = "walk" then 5
  else if mode = "drive" then 25
  else if mode = "car" then 25
  else if mode = "transit" then 20
  else if mode = "bike" then 15
  else 25

end HybridRoutingService

namespace RouteRequest

open HybridRoutingService

variable (request : RouteRequest)

/-- What `_get_osrm_route` returns: every exception is caught. -/
def osrmRoute : Option RoutingResult :=
  match request.osrm.bind fun response => readOsrm response request.osrmMs with
  | .ok result => result
  | .error _ => none

/-- What `_get_google_route` returns: every exception is caught. -/
def googleRoute : Option RoutingResult :=
  match request.google.bind fun result => readGoogle result request.googleMs with
  | .ok result => result
  | .error _ => none

/-- OSRM has a successful route for the request. -/
def osrmAnswers : Bool := (request.osrmRoute.filter (·.success)).isSome

/-- Google has a successful route for the request. -/
def googleAnswers : Bool := (request.googleRoute.filter (·.success)).isSome

end RouteRequest

/-! ## The service -/

/-- Who a route can come from. -/
inductive Provider
  | osrm | google | euclidean
  deriving DecidableEq, Repr

/-- `self.stats`. -/
structure RoutingStats where
  osrmCalls : ℕ := 0
  googleCalls : ℕ := 0
  euclideanCalls : ℕ := 0
  osrmFailures : ℕ := 0
  googleFailures : ℕ := 0
  totalTimeSavedMs : ℕ := 0
  deriving DecidableEq, Repr

/-- The service. `asked` remembers the providers that were asked for a route; no code
reads it. -/
structure HybridRoutingService where
  googleAvailable : Bool
  stats : RoutingStats := {}
  asked : List Provider := []

namespace HybridRoutingService

/-- `self.stats['…_calls'] += 1`. -/
def countCall (service : HybridRoutingService) : Provider → HybridRoutingService
  | .osrm => { service with
      stats := { service.stats with osrmCalls := service.stats.osrmCalls + 1 } }
  | .google => { service with
      stats := { service.stats with googleCalls := service.stats.googleCalls + 1 } }
  | .euclidean => { service with
      stats := { service.stats with euclideanCalls := service.stats.euclideanCalls + 1 } }

/-- `self.stats['osrm_failures'] += 1`. -/
def countOsrmFailure (service : HybridRoutingService) : HybridRoutingService :=
  { service with stats := { service.stats with osrmFailures := service.stats.osrmFailures + 1 } }

/-- A provider is asked. -/
def ask (service : HybridRoutingService) (provider : Provider) : HybridRoutingService :=
  { service with asked := service.asked ++ [provider] }

/-- `_get_osrm_route`. -/
def getOsrmRoute (service : HybridRoutingService) (request : RouteRequest) :
    Option RoutingResult × HybridRoutingService :=
  (request.osrmRoute, service.ask .osrm)

/-- `_get_google_route`. -/
def getGoogleRoute (service : HybridRoutingService) (request : RouteRequest) :
    Option RoutingResult × HybridRoutingService :=
  (request.googleRoute, service.ask .google)

/-- `_get_euclidean_route`. -/
def getEuclideanRoute (service : HybridRoutingService) (request : RouteRequest)
    (euclideanKm : ℚ) : RoutingResult × HybridRoutingService :=
  ({ distanceKm := .float euclideanKm
     durationMinutes := .float (roundDigits 1 (euclideanKm / speedFactor request.mode * 60))
     processingTimeMs := request.euclideanMs
     source := "euclidean"
     success := true
     confidence := 6 / 10
     fallbackFrom := some "all_services" },
    (service.ask .euclidean).countCall .euclidean)

/-- `_route_urban_strategy`: OSRM, Google, the straight line. -/
def routeUrbanStrategy (service : HybridRoutingService) (request : RouteRequest)
    (euclideanKm : ℚ) : RoutingResult × HybridRoutingService :=
  let (osrmResult, service) := service.getOsrmRoute request
  match osrmResult.filter (·.success) with
  | some result => (result, service.countCall .osrm)
  | none =>
      let service := service.countOsrmFailure
      if service.googleAvailable then
        let (googleResult, service) := service.getGoogleRoute request
        match googleResult.filter (·.success) with
        | some result => ({ result with fallbackFrom := some "osrm" }, service.countCall .google)
        | none => service.getEuclideanRoute request euclideanKm
      else service.getEuclideanRoute request euclideanKm

/-- The second half of `_route_intercity_strategy`: OSRM, the straight line. -/
def afterGoogle (service : HybridRoutingService) (request : RouteRequest) (euclideanKm : ℚ) :
    RoutingResult × HybridRoutingService :=
  let (osrmResult, service) := service.getOsrmRoute request
  match osrmResult.filter (·.success) with
  | some result =>
      ({ result with fallbackFrom := some "google", confidence := 7 / 10 },
        service.countCall .osrm)
  | none => service.getEuclideanRoute request euclideanKm

/-- `_route_intercity_strategy`: Google, OSRM, the straight line. -/
def routeIntercityStrategy (service : HybridRoutingService) (request : RouteRequest)
    (euclideanKm : ℚ) : RoutingResult × HybridRoutingService :=
  if service.googleAvailable then
    let (googleResult, service) := service.getGoogleRoute request
    match googleResult.filter (·.success) with
    | some result => (result, service.countCall .google)
    | none => service.afterGoogle request euclideanKm
  else service.afterGoogle request euclideanKm

/-- `get_route`. It raises only when the coordinates are out of range. -/
def getRoute (globe : Optimizer.Globe) (service : HybridRoutingService) (request : RouteRequest) :
    Except PyError RoutingResult × HybridRoutingService :=
  match Optimizer.haversineOf globe request.origin request.destination with
  | .error error => (.error error, service)
  | .ok euclideanKm =>
      let (result, service) :=
        if euclideanKm ≤ urbanThresholdKm then service.routeUrbanStrategy request euclideanKm
        else service.routeIntercityStrategy request euclideanKm
      (.ok { result with processingTimeMs := request.totalMs }, service)

/-! ## What the service reports -/

/-- The part of `get_stats` that is there after the first completed call. -/
structure StatsSummary where
  osrmSuccessRate : ℚ
  totalCalls : ℕ
  osrmUsagePercent : ℚ
  googleUsagePercent : ℚ
  euclideanUsagePercent : ℚ
  deriving DecidableEq

/-- What `get_stats` returns. -/
structure StatsReport where
  stats : RoutingStats
  summary : Option StatsSummary
  deriving DecidableEq

/-- `get_stats`. -/
def getStats (service : HybridRoutingService) : StatsReport :=
  let stats := service.stats
  let totalCalls := stats.osrmCalls + stats.googleCalls + stats.euclideanCalls
  if totalCalls = 0 then { stats, summary := none }
  else
    { stats
      summary := some {
        osrmSuccessRate :=
          if 0 < stats.osrmCalls + stats.osrmFailures then
            stats.osrmCalls / (stats.osrmCalls + stats.osrmFailures) * 100
          else 0
        totalCalls
        osrmUsagePercent := stats.osrmCalls / totalCalls * 100
        googleUsagePercent := stats.googleCalls / totalCalls * 100
        euclideanUsagePercent := stats.euclideanCalls / totalCalls * 100 } }

/-- `report.get('total_calls', 0)`: before the first completed call there is no total. -/
def StatsReport.totalCalls (report : StatsReport) : ℕ :=
  (report.summary.map StatsSummary.totalCalls).getD 0

/-- The successes that are on record for a provider. -/
def StatsReport.successes (report : StatsReport) : Provider → ℕ
  | .osrm => report.stats.osrmCalls
  | .google => report.stats.googleCalls
  | .euclidean => report.stats.euclideanCalls

/-- The failures that are on record for a provider; the straight line has none. -/
def StatsReport.failures (report : StatsReport) : Provider → ℕ
  | .osrm => report.stats.osrmFailures
  | .google => report.stats.googleFailures
  | .euclidean => 0

@[simp]
theorem stats_getStats (service : HybridRoutingService) :
    service.getStats.stats = service.stats := by
  unfold getStats
  dsimp only
  split <;> rfl

theorem totalCalls_getStats (service : HybridRoutingService) :
    service.getStats.totalCalls =
      service.stats.osrmCalls + service.stats.googleCalls + service.stats.euclideanCalls := by
  unfold getStats StatsReport.totalCalls
  dsimp only
  split
  · rename_i hzero
    exact hzero.symm
  · rfl

/-! ## The books of the providers -/

/-- How many times a provider was asked without a success or a failure on record. -/
def gap (service : HybridRoutingService) (provider : Provider) : ℤ :=
  service.asked.count provider - service.getStats.successes provider -
    service.getStats.failures provider

theorem gap_start (googleAvailable : Bool) (provider : Provider) :
    gap { googleAvailable } provider = 0 := by
  cases provider <;> rfl

theorem gap_ask (service : HybridRoutingService) (asked provider : Provider) :
    (service.ask asked).gap provider =
      service.gap provider + if asked = provider then 1 else 0 := by
  unfold gap
  rw [show (service.ask asked).asked = service.asked ++ [asked] from rfl, List.count_append,
    List.count_singleton]
  cases asked <;> cases provider <;>
    simp [ask, StatsReport.successes, StatsReport.failures] <;> omega

theorem gap_countCall (service : HybridRoutingService) (counted provider : Provider) :
    (service.countCall counted).gap provider =
      service.gap provider - if counted = provider then 1 else 0 := by
  cases counted <;> cases provider <;>
    simp [gap, countCall, StatsReport.successes, StatsReport.failures] <;> omega

theorem gap_countOsrmFailure (service : HybridRoutingService) (provider : Provider) :
    service.countOsrmFailure.gap provider =
      service.gap provider - if Provider.osrm = provider then 1 else 0 := by
  cases provider <;>
    simp [gap, countOsrmFailure, StatsReport.successes, StatsReport.failures]
  omega

/-- The providers whose failure a call meets and does not count. -/
def uncounted (globe : Optimizer.Globe) (googleAvailable : Bool) (request : RouteRequest) :
    List Provider :=
  match Optimizer.haversineOf globe request.origin request.destination with
  | .error _ => []
  | .ok euclideanKm =>
      if euclideanKm ≤ urbanThresholdKm then
        if !request.osrmAnswers && googleAvailable && !request.googleAnswers then [.google]
        else []
      else if googleAvailable then
        if request.googleAnswers then []
        else if request.osrmAnswers then [.google]
        else [.google, .osrm]
      else if request.osrmAnswers then []
      else [.osrm]

section Steps

variable {globe : Optimizer.Globe} {service : HybridRoutingService} {request : RouteRequest}
  {euclideanKm : ℚ} {provider : Provider}

theorem gap_getEuclideanRoute :
    (service.getEuclideanRoute request euclideanKm).2.gap provider = service.gap provider := by
  unfold getEuclideanRoute
  rw [gap_countCall, gap_ask]
  omega

theorem gap_afterGoogle :
    (service.afterGoogle request euclideanKm).2.gap provider =
      service.gap provider + (if request.osrmAnswers then [] else [.osrm]).count provider := by
  unfold afterGoogle getOsrmRoute RouteRequest.osrmAnswers
  cases hosrm : request.osrmRoute.filter (·.success) with
  | some result =>
      dsimp only
      rw [hosrm, gap_countCall, gap_ask]
      simp
  | none =>
      dsimp only
      rw [hosrm, gap_getEuclideanRoute, gap_ask]
      simp [List.count_singleton]

theorem gap_routeUrbanStrategy :
    (service.routeUrbanStrategy request euclideanKm).2.gap provider =
      service.gap provider +
        (if !request.osrmAnswers && service.googleAvailable && !request.googleAnswers then
          [Provider.google]
        else []).count provider := by
  unfold routeUrbanStrategy getOsrmRoute getGoogleRoute RouteRequest.osrmAnswers
    RouteRequest.googleAnswers
  dsimp only
  cases hosrm : request.osrmRoute.filter (·.success) with
  | some result =>
      dsimp only
      rw [gap_countCall, gap_ask]
      simp
  | none =>
      dsimp only
      rw [show (service.ask .osrm).countOsrmFailure.googleAvailable = service.googleAvailable
        from rfl]
      by_cases havailable : service.googleAvailable = true
      · rw [if_pos havailable]
        cases hgoogle : request.googleRoute.filter (·.success) with
        | some result =>
            dsimp only
            rw [gap_countCall, gap_ask, gap_countOsrmFailure, gap_ask]
            simp
        | none =>
            dsimp only
            rw [gap_getEuclideanRoute, gap_ask, gap_countOsrmFailure, gap_ask]
            simp [havailable, List.count_singleton]
      · rw [if_neg havailable, gap_getEuclideanRoute, gap_countOsrmFailure, gap_ask]
        simp [havailable]

theorem gap_routeIntercityStrategy :
    (service.routeIntercityStrategy request euclideanKm).2.gap provider =
      service.gap provider +
        (if service.googleAvailable then
          if request.googleAnswers then []
          else if request.osrmAnswers then [.google]
          else [.google, .osrm]
        else if request.osrmAnswers then []
        else [Provider.osrm]).count provider := by
  unfold routeIntercityStrategy getGoogleRoute
  by_cases havailable : service.googleAvailable = true
  · rw [if_pos havailable, if_pos havailable]
    dsimp only
    unfold RouteRequest.googleAnswers
    cases hgoogle : request.googleRoute.filter (·.success) with
    | some result =>
        dsimp only
        rw [gap_countCall, gap_ask]
        simp
    | none =>
        dsimp only
        rw [gap_afterGoogle, gap_ask]
        cases request.osrmAnswers <;> cases provider <;> simp
  · rw [if_neg havailable, if_neg havailable, gap_afterGoogle]

/-- A call widens the gap of the providers whose failure it does not count, by one each. -/
theorem gap_getRoute :
    (service.getRoute globe request).2.gap provider =
      service.gap provider +
        (uncounted globe service.googleAvailable request).count provider := by
  unfold getRoute uncounted
  cases Optimizer.haversineOf globe request.origin request.destination with
  | error error => simp
  | ok euclideanKm =>
      dsimp only
      by_cases hurban : euclideanKm ≤ urbanThresholdKm
      · rw [if_pos hurban, if_pos hurban, gap_routeUrbanStrategy]
      · rw [if_neg hurban, if_neg hurban, gap_routeIntercityStrategy]

end Steps

section Totals

variable {service : HybridRoutingService}

theorem totalCalls_countCall (counted : Provider) :
    (service.countCall counted).getStats.totalCalls = service.getStats.totalCalls + 1 := by
  rw [totalCalls_getStats, totalCalls_getStats]
  cases counted <;> simp only [countCall] <;> omega

theorem totalCalls_countOsrmFailure :
    service.countOsrmFailure.getStats.totalCalls = service.getStats.totalCalls := by
  rw [totalCalls_getStats, totalCalls_getStats]
  rfl

/-- Between the calls: as many calls in the total, and Google as it was. -/
structure CountsCalls (service : HybridRoutingService) (calls : ℕ)
    (after : HybridRoutingService) : Prop where
  totalCalls : after.getStats.totalCalls = service.getStats.totalCalls + calls
  googleAvailable : after.googleAvailable = service.googleAvailable

namespace CountsCalls

variable {before : HybridRoutingService}

theorem start : CountsCalls service 0 service := ⟨rfl, rfl⟩

theorem ask (hbefore : CountsCalls service 0 before) (provider : Provider) :
    CountsCalls service 0 (before.ask provider) :=
  ⟨hbefore.totalCalls, hbefore.googleAvailable⟩

theorem countOsrmFailure (hbefore : CountsCalls service 0 before) :
    CountsCalls service 0 before.countOsrmFailure where
  totalCalls := totalCalls_countOsrmFailure.trans hbefore.totalCalls
  googleAvailable := hbefore.googleAvailable

theorem countCall (hbefore : CountsCalls service 0 before) (counted : Provider) :
    CountsCalls service 1 (before.countCall counted) where
  totalCalls := by rw [totalCalls_countCall, hbefore.totalCalls]
  googleAvailable := by
    rw [← hbefore.googleAvailable]
    cases counted <;> rfl

variable (request : RouteRequest) (euclideanKm : ℚ)

theorem getEuclideanRoute (hbefore : CountsCalls service 0 before) :
    CountsCalls service 1 (before.getEuclideanRoute request euclideanKm).2 :=
  (hbefore.ask .euclidean).countCall .euclidean

theorem afterGoogle (hbefore : CountsCalls service 0 before) :
    CountsCalls service 1 (before.afterGoogle request euclideanKm).2 := by
  have hasked := hbefore.ask .osrm
  unfold HybridRoutingService.afterGoogle getOsrmRoute
  dsimp only
  split
  · exact hasked.countCall .osrm
  · exact hasked.getEuclideanRoute request euclideanKm

theorem routeUrbanStrategy :
    CountsCalls service 1 (service.routeUrbanStrategy request euclideanKm).2 := by
  have hasked : CountsCalls service 0 (service.ask .osrm) := start.ask .osrm
  unfold HybridRoutingService.routeUrbanStrategy getOsrmRoute getGoogleRoute
  dsimp only
  split
  · exact hasked.countCall .osrm
  · have hfailed := hasked.countOsrmFailure
    split
    · split
      · exact (hfailed.ask .google).countCall .google
      · exact (hfailed.ask .google).getEuclideanRoute request euclideanKm
    · exact hfailed.getEuclideanRoute request euclideanKm

theorem routeIntercityStrategy :
    CountsCalls service 1 (service.routeIntercityStrategy request euclideanKm).2 := by
  have hstart : CountsCalls service 0 service := start
  unfold HybridRoutingService.routeIntercityStrategy getGoogleRoute
  dsimp only
  split
  · split
    · exact (hstart.ask .google).countCall .google
    · exact (hstart.ask .google).afterGoogle request euclideanKm
  · exact hstart.afterGoogle request euclideanKm

end CountsCalls

/-- A call is counted when it completes. -/
theorem countsCalls_getRoute (globe : Optimizer.Globe) (request : RouteRequest) :
    CountsCalls service (if (service.getRoute globe request).1.isOk then 1 else 0)
      (service.getRoute globe request).2 := by
  unfold getRoute
  cases Optimizer.haversineOf globe request.origin request.destination with
  | error error => exact CountsCalls.start
  | ok euclideanKm =>
      dsimp only
      split
      · exact CountsCalls.routeUrbanStrategy request euclideanKm
      · exact CountsCalls.routeIntercityStrategy request euclideanKm

end Totals

/-! ## Runs of calls -/

/-- The service after a run of calls. -/
def afterCalls (globe : Optimizer.Globe) (service : HybridRoutingService)
    (requests : List RouteRequest) : HybridRoutingService :=
  runEnd (fun service request => (service.getRoute globe request).2) service requests

/-- How many calls of a run return a route. -/
def completedCalls (globe : Optimizer.Globe) (service : HybridRoutingService)
    (requests : List RouteRequest) : ℕ :=
  (moments (fun service request => (service.getRoute globe request).2) service requests).countP
    fun moment => (moment.1.getRoute globe moment.2).1.isOk

/-- What the report promises: the total is the number of completed calls, and for every
provider what succeeded and what failed is what was asked. -/
structure Balances (service : HybridRoutingService) (completed : ℕ) : Prop where
  total : service.getStats.totalCalls = completed
  attempts : ∀ provider, service.getStats.successes provider +
    service.getStats.failures provider = service.asked.count provider

/-- The only failure a call meets is the one of OSRM on a short route: whenever Google is
asked it answers, and so does OSRM on a long route. -/
def MeetsCountedFailures (globe : Optimizer.Globe) (googleAvailable : Bool)
    (request : RouteRequest) : Prop :=
  ∀ euclideanKm, Optimizer.haversineOf globe request.origin request.destination =
      .ok euclideanKm →
    if euclideanKm ≤ urbanThresholdKm then
      request.osrmAnswers = false → googleAvailable = true → request.googleAnswers = true
    else if googleAvailable = true then request.googleAnswers = true
    else request.osrmAnswers = true

theorem uncounted_eq_nil_iff {globe : Optimizer.Globe} {googleAvailable : Bool}
    {request : RouteRequest} :
    uncounted globe googleAvailable request = [] ↔
      MeetsCountedFailures globe googleAvailable request := by
  unfold uncounted MeetsCountedFailures
  cases Optimizer.haversineOf globe request.origin request.destination with
  | error error => simp
  | ok euclideanKm =>
      by_cases hurban : euclideanKm ≤ urbanThresholdKm
      · cases request.osrmAnswers <;> cases googleAvailable <;> cases request.googleAnswers <;>
          simp [hurban]
      · cases request.osrmAnswers <;> cases googleAvailable <;> cases request.googleAnswers <;>
          simp [hurban]

section Runs

variable (globe : Optimizer.Globe)

theorem totalCalls_afterCalls (service : HybridRoutingService) (requests : List RouteRequest) :
    (service.afterCalls globe requests).getStats.totalCalls =
      service.getStats.totalCalls + service.completedCalls globe requests := by
  induction requests generalizing service with
  | nil => rfl
  | cons request rest ih =>
      have hfirst := (@countsCalls_getRoute service globe request).totalCalls
      have hrest := ih (service.getRoute globe request).2
      unfold afterCalls completedCalls at hrest ⊢
      rw [runEnd_cons, moments_cons, List.countP_cons, hrest, hfirst]
      dsimp only
      omega

/-- The gaps of a service never shrink, so they are closed at the end of a run exactly when
no call of it opens one. -/
theorem gap_afterCalls_iff (googleAvailable : Bool) (requests : List RouteRequest) :
    (∀ provider, (afterCalls globe { googleAvailable } requests).gap provider = 0) ↔
      ∀ request ∈ requests, MeetsCountedFailures globe googleAvailable request := by
  have hruns := @holds_runEnd_iff _ _ (fun service request => (service.getRoute globe request).2)
    (fun service : HybridRoutingService => service.googleAvailable = googleAvailable ∧
      ∀ provider, 0 ≤ service.gap provider)
    (fun service => ∀ provider, service.gap provider = 0)
    (fun moment => MeetsCountedFailures globe googleAvailable moment.2)
    { googleAvailable } requests ?_ ?_ ?_
  · rw [afterCalls, hruns, ← List.forall_mem_map, map_snd_moments]
    exact and_iff_right fun provider => gap_start googleAvailable provider
  · rintro service request - ⟨havailable, hgaps⟩
    refine ⟨?_, fun provider => ?_⟩
    · rw [(countsCalls_getRoute globe request).googleAvailable, havailable]
    · have hgap := hgaps provider
      rw [gap_getRoute]
      omega
  · rintro service request - ⟨havailable, hgaps⟩
    rw [← uncounted_eq_nil_iff, List.eq_nil_iff_forall_not_mem, ← forall_and]
    refine forall_congr' fun provider => ?_
    have hgap := hgaps provider
    rw [gap_getRoute, havailable, ← List.count_eq_zero]
    dsimp only
    omega
  · exact ⟨rfl, fun provider => (gap_start googleAvailable provider).ge⟩

/-- The report keeps its promises at the end of a run exactly when no call of the run meets a
failure of Google, or one of OSRM on a long route. -/
theorem balances_afterCalls_iff (googleAvailable : Bool) (requests : List RouteRequest) :
    Balances (afterCalls globe { googleAvailable } requests)
        (completedCalls globe { googleAvailable } requests) ↔
      ∀ request ∈ requests, MeetsCountedFailures globe googleAvailable request := by
  have htotal := totalCalls_afterCalls globe { googleAvailable } requests
  rw [← gap_afterCalls_iff]
  constructor
  · intro hbalances provider
    have hattempts := hbalances.attempts provider
    unfold gap
    omega
  · intro hgaps
    refine ⟨htotal.trans (Nat.zero_add _), fun provider => ?_⟩
    have hgap := hgaps provider
    unfold gap at hgap
    omega

end Runs

/-- A long route while Google does not respond: OSRM has it. -/
def googleOutage : RouteRequest where
  origin := (0, 0)
  destination := (0, 1)
  google := .error (.exception "timeout")
  osrm := .ok {
    statusCode := 200
    json := .ok (.dict [("code", .str "Ok"),
      ("routes", .list [.dict [("distance", .float 111195), ("duration", .float 5400)]])]) }

/-- Google was asked once, and neither a success nor a failure of it is on record. -/
theorem not_balances_googleOutage :
    ¬ ∀ (globe : Optimizer.Globe) (googleAvailable : Bool) (requests : List RouteRequest),
      Balances (afterCalls globe { googleAvailable } requests)
        (completedCalls globe { googleAvailable } requests) := by
  intro hall
  have hgoogle := (hall .equatorial true [googleOutage]).attempts .google
  revert hgoogle
  decide +kernel

end HybridRoutingService

end Goveling.Routing
