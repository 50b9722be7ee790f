/-
# Itineraries of the professional stack

`optimize_itinerary_professional` makes a session of the places, gets a matrix for it from Redis,
from the memory or from an engine, and looks for a tour over the matrix. The matrix may be the
one of another session. But every key tells how many places its session has, so the matrix has
a row for each place, and whatever was asked before, the tour is one through the places of the
request.
-/

import Goveling.Ortools.TourPromises
import Goveling.Routing.ProfessionalTour

namespace Goveling.Routing

open Goveling.Math Goveling.Python Goveling.Ortools

/-! ## Requests -/

/-- A request for an itinerary, with what its session meets. -/
structure ItineraryCall extends SessionCall where
  places : List LocatedPoi
  pois_eq : pois = places.map fun place => { lat := place.lat, lon := place.lon }

theorem ItineraryCall.length_pois (call : ItineraryCall) :
    call.pois.length = call.places.length := by
  rw [call.pois_eq, List.length_map]

/-- The result of `optimize_itinerary_professional`, without its times. -/
structure ProfessionalItinerary where
  session : RoutingSession
  odMatrixStrategy : Option String
  optimizedRoute : ProfessionalTour
  poisProcessed : ℕ
  clustersAnalyzed : ℕ
  componentsUsed : List String
  areaCoveredKm2 : ℚ
  citiesDetected : ℕ

/-- The result of a session with its matrix and its tour. -/
def professionalItinerary (grid : CellGrid) (places : List LocatedPoi) (session : RoutingSession)
    (odMatrix : HybridMatrix) (optimizedRoute : ProfessionalTour) : ProfessionalItinerary where
  session := session
  odMatrixStrategy := odMatrix.matrix.strategy
  optimizedRoute := optimizedRoute
  poisProcessed := places.length
  clustersAnalyzed := session.clusters.length
  componentsUsed :=
    ["H3_SPATIAL_PARTITIONER", odMatrix.matrix.strategy.getD "UNKNOWN",
      optimizedRoute.algorithmUsed]
  areaCoveredKm2 := session.estimatedAreaKm2
  citiesDetected := (detectCitiesFromPois grid places).size

section Requests

variable (grid : CellGrid) (coordsHash : CoordsHash) (engines : RoutingEngines)
  (library : SolverLibrary) (integrator : HybridArchitectureIntegrator) (call : ItineraryCall)

/-- `optimize_itinerary_professional`. -/
def optimizeItineraryProfessional :
    Except PyError ProfessionalItinerary × HybridArchitectureIntegrator :=
  match clusterPoisAuto grid.toHexGrid call.pois with
  | .error e => (.error e, integrator)
  | .ok session =>
      let (odMatrix, later) :=
        integrator.calculateOdMatrixHybrid coordsHash engines session call.toSessionCall
      (do
        let odMatrix ← odMatrix
        let optimizedRoute ← optimizeTspProfessional library call.places odMatrix.matrix
        return professionalItinerary grid call.places session odMatrix optimizedRoute, later)

/-- The integrator after a request. -/
def afterItinerary : HybridArchitectureIntegrator :=
  (optimizeItineraryProfessional grid coordsHash engines library integrator call).2

/-- Requests one after the other, from an integrator without matrices. -/
def itineraryRun (connected city2graph : Bool) (calls : List ItineraryCall) :
    List (HybridArchitectureIntegrator × ItineraryCall) :=
  moments (afterItinerary grid coordsHash engines library)
    { city2graph := city2graph
      redisCache := { connected := connected } } calls

/-- No engine answers nothing for a pair of places. A distance may be infinite. -/
def RoutingEngines.Readable : Prop :=
  ∀ p q,
    (engines.osrmCar p q).1 ≠ .null ∧ (engines.osrmCar p q).2 ≠ .null ∧
      (engines.osrmFoot p q).1 ≠ .null ∧ (engines.osrmFoot p q).2 ≠ .null

end Requests

/-! ## Keys that count -/

/-- A key of Redis ends in a number. -/
def EndsInCount (n : ℕ) (key : String) : Prop :=
  ∃ head, key = head ++ ":" ++ toString n

/-- A key of the memory tells a number after its first words. -/
def StartsWithCount (n : ℕ) (key : String) : Prop :=
  ∃ rest, key = "od_session_" ++ toString n ++ "_" ++ rest

section Keys

variable {n m : ℕ} {key : String}

theorem eq_of_digits (hsame : (toString n).toList = (toString m).toList) : n = m :=
  toDigits_injective (by rwa [toList_toString, toList_toString] at hsame)

theorem forall_ne_of_isDigit {separator : Char} (hseparator : separator.isDigit = false) (n : ℕ) :
    ∀ c ∈ (toString n).toList, c ≠ separator := by
  rintro c hc rfl
  rw [toList_toString] at hc
  exact not_mem_toDigits hseparator n hc

theorem EndsInCount.unique (hfirst : EndsInCount n key) (hsecond : EndsInCount m key) :
    n = m := by
  obtain ⟨head, rfl⟩ := hfirst
  obtain ⟨other, hother⟩ := hsecond
  have hcolon : ":".toList = [':'] := rfl
  have hsame := congrArg (fun text => text.toList.reverse) hother
  simp only [String.toList_append, hcolon, List.append_assoc, List.singleton_append,
    List.reverse_append, List.reverse_cons] at hsame
  have hdigits : ∀ n : ℕ, ∀ c ∈ (toString n).toList.reverse, c ≠ ':' := fun n c hc =>
    forall_ne_of_isDigit (by decide) n c (List.mem_reverse.mp hc)
  obtain ⟨hcount, -⟩ := append_separator_inj (P := fun c => c ≠ ':') (not_not.mpr rfl) (hdigits n)
    (hdigits m) hsame
  exact eq_of_digits (List.reverse_injective hcount)

theorem StartsWithCount.unique (hfirst : StartsWithCount n key) (hsecond : StartsWithCount m key) :
    n = m := by
  obtain ⟨rest, rfl⟩ := hfirst
  obtain ⟨other, hother⟩ := hsecond
  have hbar : "_".toList = ['_'] := rfl
  have hsame := congrArg String.toList hother
  simp only [String.toList_append, hbar, List.append_assoc, List.singleton_append,
    List.append_cancel_left_eq] at hsame
  obtain ⟨hcount, -⟩ := append_separator_inj (P := fun c => c ≠ '_') (not_not.mpr rfl)
    (forall_ne_of_isDigit (by decide) n) (forall_ne_of_isDigit (by decide) m) hsame
  exact eq_of_digits hcount

theorem endsInCount_key (coordsHash : CoordsHash) (call : MatrixCall) :
    EndsInCount call.coordinates.length (call.key coordsHash) :=
  ⟨_, rfl⟩

theorem memoryKey_eq (n : ℕ) (hash mode : String) :
    "od_" ++ ("session_" ++ toString n ++ "_" ++ hash) ++ "_" ++ mode =
      "od_session_" ++ toString n ++ "_" ++ (hash ++ "_" ++ mode) := by
  apply String.toList_inj.mp
  simp only [String.toList_append, List.append_assoc]
  rfl

theorem startsWithCount_memoryKey {grid : HexGrid} {pois : List POI} {session : RoutingSession}
    (hsession : clusterPoisAuto grid pois = .ok session) (mode : String) :
    StartsWithCount pois.length (HybridArchitectureIntegrator.memoryKey session mode) := by
  cases pois with
  | nil => cases hsession
  | cons first others =>
      cases hsession
      exact ⟨_, memoryKey_eq _ _ _⟩

end Keys

/-! ## Matrices with a row for each place -/

section Counts

variable {good : ℕ → List (List Cell) × List (List Cell) → Prop} {coordsHash : CoordsHash}
  {engines : RoutingEngines} {integrator : HybridArchitectureIntegrator}

/-- Every matrix in a cache of Redis is good for as many places as its key tells. -/
def RedisCounts (good : ℕ → List (List Cell) × List (List Cell) → Prop)
    (cache : RedisODMatrixCache) : Prop :=
  ∀ entry ∈ cache.store.entries, ∃ n, EndsInCount n entry.1 ∧ good n entry.2.answer.tables

/-- The matrices in Redis and in the memory are good for as many places as their keys tell. -/
structure CountsPlaces (good : ℕ → List (List Cell) × List (List Cell) → Prop)
    (integrator : HybridArchitectureIntegrator) : Prop where
  redis : RedisCounts good integrator.redisCache
  memory : ∀ entry ∈ integrator.odMatrixCache.entries, ∃ n, StartsWithCount n entry.1 ∧
    good n entry.2.answer.matrix.tables

/-- The matrices of the engines are good for the places that they are computed for. -/
def EnginesAreGood (good : ℕ → List (List Cell) × List (List Cell) → Prop)
    (engines : RoutingEngines) : Prop :=
  ∀ mode coordinates engine, good coordinates.length (engines.tables mode coordinates engine)

/-- A matrix that Redis finds under a key is good for the places of the request. -/
theorem RedisCounts.found {cache : RedisODMatrixCache} (hcounts : RedisCounts good cache)
    {call : MatrixCall} {entry : Traced MatrixCall ODMatrix ℚ}
    (hfound : cache.found coordsHash call = some entry) :
    good call.coordinates.length entry.answer.tables := by
  unfold RedisODMatrixCache.found at hfound
  split at hfound
  · obtain ⟨now, -, hlive⟩ := Option.bind_eq_some_iff.mp hfound
    have hget := (Option.filter_eq_some_iff.mp hlive).1
    obtain ⟨n, hends, hgood⟩ := hcounts _ (OrderedMap.mem_of_get?_eq_some hget)
    exact hends.unique (endsInCount_key coordsHash call) ▸ hgood
  · cases hfound

/-- What is stored in Redis is good for as many places as its key tells. -/
theorem RedisCounts.setOdMatrix {cache : RedisODMatrixCache} (hcounts : RedisCounts good cache)
    {call : MatrixCall} {matrix : ODMatrix} (hgood : good call.coordinates.length matrix.tables) :
    RedisCounts good (cache.setOdMatrix coordsHash call matrix) := by
  unfold RedisODMatrixCache.setOdMatrix
  split
  · intro entry hentry
    rcases OrderedMap.mem_setEntries hentry with rfl | hold
    · exact ⟨_, endsInCount_key coordsHash call, hgood⟩
    · exact hcounts entry hold
  · exact hcounts

/-- A request to Redis gets a good matrix and leaves good ones, if a good one is computed for
it. -/
theorem RedisCounts.getOrCalculateMatrix {cache : RedisODMatrixCache}
    (hcounts : RedisCounts good cache) {call : MatrixCall}
    (hcalculation : ∀ matrix, call.calculation = .ok (some matrix) →
      good call.coordinates.length matrix.tables) :
    (∀ matrix, (cache.getOrCalculateMatrix coordsHash call).1 = .ok (some matrix) →
      good call.coordinates.length matrix.tables) ∧
      RedisCounts good (cache.getOrCalculateMatrix coordsHash call).2 := by
  unfold RedisODMatrixCache.getOrCalculateMatrix
  cases hread : if call.forceRefresh then none else cache.getOdMatrix coordsHash call with
  | some cached =>
      refine ⟨fun matrix hmatrix => ?_, hcounts⟩
      cases hmatrix
      split at hread
      · cases hread
      · obtain ⟨entry, hfound, rfl⟩ := Option.map_eq_some_iff.mp hread
        exact hcounts.found hfound
  | none =>
      cases hcalculated : call.calculation with
      | error e => exact ⟨nofun, hcounts⟩
      | ok result =>
          cases result with
          | none => exact ⟨nofun, hcounts⟩
          | some matrix =>
              have hgood := hcalculation matrix hcalculated
              refine ⟨fun marked hmarked => ?_, hcounts.setOdMatrix hgood⟩
              cases hmarked
              exact hgood

/-- What an engine computes for a session is good for its places. -/
theorem good_calculateMatrixWithFallback (hengines : EnginesAreGood good engines)
    {call : SessionCall} {coordinates : List Coordinates} {matrix : ODMatrix}
    (hmatrix : integrator.calculateMatrixWithFallback engines call coordinates = some matrix) :
    good coordinates.length matrix.tables := by
  obtain ⟨engine, -, rfl⟩ := Option.map_eq_some_iff.mp hmatrix
  exact hengines call.mode coordinates engine

/-- A matrix that is enriched stays good, and is stored as such. -/
theorem CountsPlaces.enrich (hcounts : CountsPlaces good integrator) {session : RoutingSession}
    {call : SessionCall} (hkey : StartsWithCount session.pois.length
      (HybridArchitectureIntegrator.memoryKey session call.mode)) (strategyUsed : String)
    (engine : Option Engine) {found : Option ODMatrix}
    (hfound : ∀ matrix, found = some matrix → good session.pois.length matrix.tables) :
    (∀ result, (integrator.enrich session call strategyUsed engine found).1 = .ok result →
      good session.pois.length result.matrix.tables) ∧
      CountsPlaces good (integrator.enrich session call strategyUsed engine found).2 := by
  cases found with
  | none => exact ⟨nofun, hcounts⟩
  | some matrix =>
      have hgood := hfound matrix rfl
      refine ⟨fun result hresult => ?_, hcounts.redis, fun entry hentry => ?_⟩
      · cases hresult
        exact hgood
      · rcases OrderedMap.mem_setEntries hentry with rfl | hold
        · exact ⟨_, hkey, hgood⟩
        · exact hcounts.memory entry hold

/-- A session gets a matrix that is good for its places, and leaves good ones. -/
theorem CountsPlaces.calculateOdMatrixHybrid (hcounts : CountsPlaces good integrator)
    (hengines : EnginesAreGood good engines) {grid : HexGrid} {session : RoutingSession}
    {call : SessionCall} (hsession : clusterPoisAuto grid call.pois = .ok session) :
    (∀ result, (integrator.calculateOdMatrixHybrid coordsHash engines session call).1 =
      .ok result → good call.pois.length result.matrix.tables) ∧
      CountsPlaces good (integrator.calculateOdMatrixHybrid coordsHash engines session call).2 := by
  have hpois := pois_clusterPoisAuto hsession
  have hkey : StartsWithCount session.pois.length
      (HybridArchitectureIntegrator.memoryKey session call.mode) :=
    hpois ▸ startsWithCount_memoryKey hsession call.mode
  have hlength : (coordinatesOf session.pois).length = session.pois.length := List.length_map _
  have hcalculated : ∀ matrix,
      integrator.calculateMatrixWithFallback engines call (coordinatesOf session.pois) =
        some matrix → good session.pois.length matrix.tables := fun matrix hmatrix =>
    hlength ▸ good_calculateMatrixWithFallback hengines hmatrix
  rw [← hpois]
  unfold HybridArchitectureIntegrator.calculateOdMatrixHybrid
  cases hhealthy : call.redisHealthy with
  | true =>
      rw [if_pos rfl]
      have hcoordinates : (integrator.matrixCall engines session call).coordinates.length =
          session.pois.length := hlength
      have hcalculation : ∀ matrix, (integrator.matrixCall engines session call).calculation =
          .ok (some matrix) → good (integrator.matrixCall engines session call).coordinates.length
            matrix.tables := fun matrix hmatrix =>
        good_calculateMatrixWithFallback hengines (Except.ok.inj hmatrix)
      obtain ⟨hgood, hredis⟩ :=
        @RedisCounts.getOrCalculateMatrix good coordsHash _ hcounts.redis _ hcalculation
      rw [hcoordinates] at hgood
      revert hgood hredis
      generalize integrator.redisCache.getOrCalculateMatrix coordsHash
        (integrator.matrixCall engines session call) = reply
      intro hgood hredis
      obtain ⟨answer, redisCache⟩ := reply
      have hlater : CountsPlaces good { integrator with redisCache := redisCache } :=
        ⟨hredis, hcounts.memory⟩
      cases answer with
      | error e => exact ⟨nofun, hlater⟩
      | ok matrixResult =>
          have hfound : ∀ matrix, matrixResult = some matrix →
              good session.pois.length matrix.tables := by
            rintro matrix rfl
            exact hgood matrix rfl
          exact hlater.enrich hkey _ _ hfound
  | false =>
      rw [if_neg Bool.false_ne_true]
      cases hfound : integrator.found session call with
      | none => exact hcounts.enrich hkey _ _ hcalculated
      | some entry =>
          refine ⟨fun result hresult => ?_, hcounts⟩
          cases hresult
          unfold HybridArchitectureIntegrator.found at hfound
          rw [hhealthy, if_neg Bool.false_ne_true] at hfound
          have hget := (Option.filter_eq_some_iff.mp hfound).1
          obtain ⟨n, hstarts, hgood⟩ := hcounts.memory _ (OrderedMap.mem_of_get?_eq_some hget)
          exact hstarts.unique hkey ▸ hgood

end Counts

/-! ## Runs -/

section Runs

variable {good : ℕ → List (List Cell) × List (List Cell) → Prop} {grid : CellGrid}
  {coordsHash : CoordsHash} {engines : RoutingEngines} {library : SolverLibrary}
  {integrator : HybridArchitectureIntegrator}

/-- After a request the integrator is as after its session. -/
theorem afterItinerary_eq (call : ItineraryCall) :
    afterItinerary grid coordsHash engines library integrator call =
      (integrator.handleSession grid.toHexGrid coordsHash engines call.toSessionCall).2 := by
  unfold afterItinerary optimizeItineraryProfessional HybridArchitectureIntegrator.handleSession
  cases clusterPoisAuto grid.toHexGrid call.pois with
  | error e => rfl
  | ok session => rfl

theorem CountsPlaces.handleSession (hcounts : CountsPlaces good integrator)
    (hengines : EnginesAreGood good engines) (call : SessionCall) :
    (∀ result, (integrator.handleSession grid.toHexGrid coordsHash engines call).1 = .ok result →
      good call.pois.length result.matrix.tables) ∧
      CountsPlaces good
        (integrator.handleSession grid.toHexGrid coordsHash engines call).2 := by
  unfold HybridArchitectureIntegrator.handleSession
  cases hsession : clusterPoisAuto grid.toHexGrid call.pois with
  | error e => exact ⟨nofun, hcounts⟩
  | ok session => exact hcounts.calculateOdMatrixHybrid hengines hsession

/-- In every run the matrices are good for as many places as their keys tell. -/
theorem countsPlaces_of_mem (hengines : EnginesAreGood good engines) {connected city2graph : Bool}
    {calls : List ItineraryCall} {moment : HybridArchitectureIntegrator × ItineraryCall}
    (hmoment : moment ∈ itineraryRun grid coordsHash engines library connected city2graph calls) :
    CountsPlaces good moment.1 := by
  obtain ⟨before, after, -, hstate⟩ := mem_moments_iff.mp hmoment
  have hstart : CountsPlaces good
      { city2graph := city2graph
        redisCache := { connected := connected } } :=
    ⟨fun _ hentry => absurd hentry List.not_mem_nil,
      fun _ hentry => absurd hentry List.not_mem_nil⟩
  have hstep : ∀ integrator call, CountsPlaces good integrator →
      CountsPlaces good (afterItinerary grid coordsHash engines library integrator call) := by
    intro integrator call hcounts
    rw [afterItinerary_eq]
    exact (hcounts.handleSession hengines call.toSessionCall).2
  rw [hstate]
  exact runEnd_invariant hstep hstart before

/-- An itinerary is a tour over the matrix of its session. -/
theorem exists_of_optimizeItineraryProfessional {call : ItineraryCall}
    {itinerary : ProfessionalItinerary}
    (hitinerary : (optimizeItineraryProfessional grid coordsHash engines library integrator
      call).1 = .ok itinerary) :
    call.places ≠ [] ∧ ∃ result,
      (integrator.handleSession grid.toHexGrid coordsHash engines call.toSessionCall).1 =
        .ok result ∧
      optimizeTspProfessional library call.places result.matrix = .ok itinerary.optimizedRoute := by
  unfold optimizeItineraryProfessional at hitinerary
  unfold HybridArchitectureIntegrator.handleSession
  cases hsession : clusterPoisAuto grid.toHexGrid call.pois with
  | error e =>
      rw [hsession] at hitinerary
      cases hitinerary
  | ok session =>
      rw [hsession] at hitinerary
      obtain ⟨result, hresult, hrest⟩ := exists_of_bind_eq_ok hitinerary
      obtain ⟨tour, htour, hreturn⟩ := exists_of_bind_eq_ok hrest
      cases hreturn
      refine ⟨?_, result, hresult, htour⟩
      rintro hnone
      rw [call.pois_eq, hnone] at hsession
      cases hsession

end Runs

/-! ## Matrices of the engines -/

theorem squareMatrix_tableOf (answer : Coordinates → Coordinates → Cell)
    (coordinates : List Coordinates) :
    SquareMatrix coordinates.length (tableOf answer coordinates) where
  height := List.length_map _
  width := by
    intro row hrow
    obtain ⟨p, -, rfl⟩ := List.mem_map.mp hrow
    exact List.length_map _

theorem travelMatrix_tableOf {answer : Coordinates → Coordinates → Cell}
    (hanswer : ∀ p q, answer p q ≠ .null) (coordinates : List Coordinates) :
    TravelMatrix coordinates.length (tableOf answer coordinates) where
  height := (squareMatrix_tableOf answer coordinates).height
  width := (squareMatrix_tableOf answer coordinates).width
  readable := by
    intro row hrow hnull
    obtain ⟨p, -, rfl⟩ := List.mem_map.mp hrow
    obtain ⟨q, -, hcell⟩ := List.mem_map.mp hnull
    exact hanswer p q hcell

/-- Distances with a row and a column for each place. -/
def SquareDistances (n : ℕ) (tables : List (List Cell) × List (List Cell)) : Prop :=
  SquareMatrix n tables.1

/-- Distances and durations that are numbers or infinite. -/
def TravelTables (n : ℕ) (tables : List (List Cell) × List (List Cell)) : Prop :=
  TravelMatrix n tables.1 ∧ TravelMatrix n tables.2

theorem enginesAreGood_squareDistances (engines : RoutingEngines) :
    EnginesAreGood SquareDistances engines := by
  intro mode coordinates engine
  cases engine with
  | osrm => exact squareMatrix_tableOf _ coordinates
  | city2graph => exact (travelMatrix_city2graphTable engines.city2graph _ coordinates).square

theorem enginesAreGood_travelTables {engines : RoutingEngines} (hreadable : engines.Readable) :
    EnginesAreGood TravelTables engines := by
  intro mode coordinates engine
  cases engine with
  | osrm =>
      have hanswer : ∀ p q, ((if mode = "car" then engines.osrmCar else engines.osrmFoot) p q).1 ≠
          .null ∧ ((if mode = "car" then engines.osrmCar else engines.osrmFoot) p q).2 ≠ .null := by
        intro p q
        obtain ⟨hcarDistance, hcarTime, hfootDistance, hfootTime⟩ := hreadable p q
        by_cases hcar : mode = "car"
        · rw [if_pos hcar]
          exact ⟨hcarDistance, hcarTime⟩
        · rw [if_neg hcar]
          exact ⟨hfootDistance, hfootTime⟩
      exact ⟨travelMatrix_tableOf (fun p q => (hanswer p q).1) coordinates,
        travelMatrix_tableOf (fun p q => (hanswer p q).2) coordinates⟩
  | city2graph =>
      exact ⟨travelMatrix_city2graphTable engines.city2graph _ coordinates,
        travelMatrix_city2graphTable engines.city2graph _ coordinates⟩

/-! ## A matrix for every session -/

section Answered

variable {coordsHash : CoordsHash} {engines : RoutingEngines}
  {integrator : HybridArchitectureIntegrator}

theorem exists_getOrCalculateMatrix (cache : RedisODMatrixCache) {call : MatrixCall}
    {matrix : ODMatrix} (hcalculation : call.calculation = .ok (some matrix)) :
    ∃ found, (cache.getOrCalculateMatrix coordsHash call).1 = .ok (some found) := by
  unfold RedisODMatrixCache.getOrCalculateMatrix
  rw [hcalculation]
  cases if call.forceRefresh then none else cache.getOdMatrix coordsHash call with
  | some cached => exact ⟨cached, rfl⟩
  | none => exact ⟨_, rfl⟩

/-- While an engine works, every session gets a matrix. -/
theorem exists_calculateOdMatrixHybrid (session : RoutingSession) {call : SessionCall}
    (hengine : (integrator.chosenEngine call).isSome) :
    ∃ result, (integrator.calculateOdMatrixHybrid coordsHash engines session call).1 =
      .ok result := by
  obtain ⟨engine, hchosen⟩ := Option.isSome_iff_exists.mp hengine
  obtain ⟨matrix, hmatrix⟩ : ∃ matrix, integrator.calculateMatrixWithFallback engines call
      (coordinatesOf session.pois) = some matrix :=
    ⟨_, congrArg (Option.map _) hchosen⟩
  unfold HybridArchitectureIntegrator.calculateOdMatrixHybrid
  cases call.redisHealthy with
  | true =>
      rw [if_pos rfl]
      obtain ⟨found, hfound⟩ := @exists_getOrCalculateMatrix coordsHash integrator.redisCache
        (integrator.matrixCall engines session call) matrix (congrArg Except.ok hmatrix)
      revert hfound
      generalize integrator.redisCache.getOrCalculateMatrix coordsHash
        (integrator.matrixCall engines session call) = reply
      intro hfound
      obtain ⟨answer, redisCache⟩ := reply
      obtain rfl : answer = .ok (some found) := hfound
      exact ⟨_, rfl⟩
  | false =>
      rw [if_neg Bool.false_ne_true]
      cases integrator.found session call with
      | some entry => exact ⟨_, rfl⟩
      | none =>
          rw [hmatrix]
          exact ⟨_, rfl⟩

end Answered

/-! ## Tours of every run -/

section Itineraries

variable {grid : CellGrid} {coordsHash : CoordsHash} {engines : RoutingEngines}
  {library : SolverLibrary} {integrator : HybridArchitectureIntegrator} {call : ItineraryCall}

theorem visitsPlaces_of_countsPlaces (hcounts : CountsPlaces SquareDistances integrator)
    {itinerary : ProfessionalItinerary}
    (hitinerary : (optimizeItineraryProfessional grid coordsHash engines library integrator
      call).1 = .ok itinerary) :
    ∃ result, (integrator.handleSession grid.toHexGrid coordsHash engines
        call.toSessionCall).1 = .ok result ∧
      VisitsPlaces call.places.length result.matrix itinerary.optimizedRoute := by
  obtain ⟨hplaces, result, hresult, htour⟩ := exists_of_optimizeItineraryProfessional hitinerary
  have hsquare := (hcounts.handleSession (enginesAreGood_squareDistances engines)
    call.toSessionCall).1 result hresult
  rw [call.length_pois] at hsquare
  exact ⟨result, hresult, visitsPlaces_optimizeTspProfessional hplaces hsquare htour⟩

theorem exists_of_countsPlaces (hcounts : CountsPlaces TravelTables integrator)
    (hreadable : engines.Readable) (hplaces : call.places ≠ [])
    (hengine : (integrator.chosenEngine call.toSessionCall).isSome) :
    ∃ itinerary, (optimizeItineraryProfessional grid coordsHash engines library integrator
      call).1 = .ok itinerary := by
  obtain ⟨session, hsession⟩ : ∃ session,
      clusterPoisAuto grid.toHexGrid call.pois = .ok session := by
    rw [call.pois_eq]
    cases hcases : call.places with
    | nil => exact absurd hcases hplaces
    | cons first others => exact ⟨_, rfl⟩
  obtain ⟨result, hresult⟩ :=
    @exists_calculateOdMatrixHybrid coordsHash engines integrator session _ hengine
  have htravel := (hcounts.calculateOdMatrixHybrid
    (enginesAreGood_travelTables hreadable) hsession).1 result hresult
  rw [call.length_pois] at htravel
  obtain ⟨tour, htour⟩ := @exists_optimizeTspProfessional library call.places result.matrix
    hplaces htravel.1 htravel.2
  unfold optimizeItineraryProfessional
  rw [hsession]
  dsimp only
  rw [hresult]
  refine ⟨professionalItinerary grid call.places session result tour, ?_⟩
  exact congrArg (Functor.map _) htour

/-- Whatever was asked before and whosever matrix a request gets, its itinerary visits or drops
each of its places once. While an engine works and answers every pair, there is one. -/
theorem optimizeItineraryProfessional_visits (grid : CellGrid) (coordsHash : CoordsHash)
    (engines : RoutingEngines) (library : SolverLibrary) (connected city2graph : Bool)
    (calls : List ItineraryCall) :
    ∀ moment ∈ itineraryRun grid coordsHash engines library connected city2graph calls,
      (∀ itinerary, (optimizeItineraryProfessional grid coordsHash engines library moment.1
          moment.2).1 = .ok itinerary →
        ∃ result, (moment.1.handleSession grid.toHexGrid coordsHash engines
            moment.2.toSessionCall).1 = .ok result ∧
          VisitsPlaces moment.2.places.length result.matrix itinerary.optimizedRoute) ∧
      (engines.Readable → moment.2.places ≠ [] →
        (moment.1.chosenEngine moment.2.toSessionCall).isSome →
          ∃ itinerary, (optimizeItineraryProfessional grid coordsHash engines library moment.1
            moment.2).1 = .ok itinerary) := by
  intro moment hmoment
  constructor
  · intro itinerary hitinerary
    exact visitsPlaces_of_countsPlaces
      (countsPlaces_of_mem (enginesAreGood_squareDistances engines) hmoment) hitinerary
  · intro hreadable hplaces hengine
    exact exists_of_countsPlaces
      (countsPlaces_of_mem (enginesAreGood_travelTables hreadable) hmoment) hreadable hplaces
      hengine

end Itineraries

/-- The cells of a degree. -/
def degreeCells : CellGrid where
  toHexGrid := degreeGrid
  cellToLatlng _ := (0, 0)

/-- A request for two places on the equator while Redis is down. -/
def equatorPlaces (first second now : ℚ) : ItineraryCall where
  toSessionCall := equatorSession first second now
  places := [bareLocatedPoi 0 first, bareLocatedPoi 0 second]
  pois_eq := rfl

/-- A library that plans two places in their order. -/
def inOrderOfTwo : SolverLibrary := .answering fun _ => some (.inOrder [0, 1])

/-- The integrator after a request for two places. -/
def afterEquator : HybridArchitectureIntegrator :=
  afterItinerary degreeCells (fun _ => "8f14e45fceea") equatorEngines inOrderOfTwo
    { city2graph := true, redisCache := { connected := false } } (equatorPlaces (1 / 10) (2 / 10) 0)

/-- A minute later two other places of the same cell get a tour through both. -/
theorem optimizeItineraryProfessional_visits_equator :
    ∃ itinerary, (optimizeItineraryProfessional degreeCells (fun _ => "8f14e45fceea")
        equatorEngines inOrderOfTwo afterEquator (equatorPlaces (1 / 10) (4 / 10) 60)).1 =
          .ok itinerary ∧
      ∃ result, (afterEquator.handleSession degreeCells.toHexGrid (fun _ => "8f14e45fceea")
          equatorEngines (equatorSession (1 / 10) (4 / 10) 60)).1 = .ok result ∧
        VisitsPlaces 2 result.matrix itinerary.optimizedRoute := by
  have hsecond := optimizeItineraryProfessional_visits degreeCells (fun _ => "8f14e45fceea")
    equatorEngines inOrderOfTwo false true
    [equatorPlaces (1 / 10) (2 / 10) 0, equatorPlaces (1 / 10) (4 / 10) 60]
    (afterEquator, equatorPlaces (1 / 10) (4 / 10) 60) (List.mem_cons_of_mem _ List.mem_cons_self)
  have hreadable : equatorEngines.Readable := fun p q => ⟨nofun, nofun, nofun, nofun⟩
  obtain ⟨itinerary, hitinerary⟩ := hsecond.2 hreadable (List.cons_ne_nil _ _) rfl
  exact ⟨itinerary, hitinerary, hsecond.1 itinerary hitinerary⟩

end Goveling.Routing
