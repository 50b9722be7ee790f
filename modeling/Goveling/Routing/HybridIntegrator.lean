/-
# Sessions of the hybrid architecture

A session is named after the number of its places and a hash of the cells they lie
in, and its matrix is kept in memory under that name and the mode. Two sessions of
as many places in the same cells have one name: while Redis is unavailable, a
session gets a matrix of its own places exactly as long as the session whose matrix
it finds has the same one.
-/

import Goveling.Routing.OdMatrixCache
import Mathlib.Data.String.Basic

namespace Goveling.Routing

open Goveling.Math Goveling.Python

/-! ## Sessions -/

/-- The fields of a place that sessions read. -/
structure POI where
  lat : ℚ
  lon : ℚ
  deriving DecidableEq

/-- The hierarchical grid, and the hash of a sorted list of its cells. -/
structure HexGrid where
  latlngToCell : ℚ → ℚ → String
  gridRing : String → List String
  clusterHash : List String → String

/-- North, south, east and west. -/
structure BBox where
  north : ℚ
  south : ℚ
  east : ℚ
  west : ℚ
  deriving DecidableEq

/-- `RoutingSession`. -/
structure RoutingSession where
  sessionId : String
  mainCluster : String
  clusters : List String
  pois : List POI
  bbox : BBox
  estimatedAreaKm2 : ℚ
  deriving DecidableEq

/-- `max` of a first value and others. -/
def maxOf (first : ℚ) (others : List ℚ) : ℚ := others.foldl max first

/-- `min` of a first value and others. -/
def minOf (first : ℚ) (others : List ℚ) : ℚ := others.foldl min first

/-- The corners of a list of places that is not empty. -/
def bboxOf (first : POI) (others : List POI) : BBox where
  north := maxOf first.lat (others.map POI.lat)
  south := minOf first.lat (others.map POI.lat)
  east := maxOf first.lon (others.map POI.lon)
  west := minOf first.lon (others.map POI.lon)

/-- `cluster_pois_auto`. -/
def clusterPoisAuto (grid : HexGrid) : List POI → Except PyError RoutingSession
  | [] => .error (.valueError "Lista de POIs vacía")
  | first :: others =>
      let pois := first :: others
      let h3Counter := OrderedMap.gather (fun poi => grid.latlngToCell poi.lat poi.lon) pois
      let allClusters := h3Counter.keys
      let mainCluster := (allClusters.argmax fun cell => (h3Counter.bucket cell).length).getD ""
      let relevantClusters :=
        if 1 < allClusters.length then
          allClusters.filter fun cell => cell ∈ grid.gridRing mainCluster || cell = mainCluster
        else allClusters
      let bbox := bboxOf first others
      .ok
        { sessionId := "session_" ++ toString pois.length ++ "_" ++
            grid.clusterHash (sortedBy id allClusters)
          mainCluster := mainCluster
          clusters := relevantClusters
          pois := pois
          bbox := bbox
          estimatedAreaKm2 :=
            (bbox.north - bbox.south) * (bbox.east - bbox.west) * (11132 / 100) * (11132 / 100) }

/-- `[(poi['lat'], poi['lon']) for poi in session.pois]`. -/
def coordinatesOf (pois : List POI) : List Coordinates := pois.map fun poi => (poi.lat, poi.lon)

theorem pois_clusterPoisAuto {grid : HexGrid} {pois : List POI} {session : RoutingSession}
    (hsession : clusterPoisAuto grid pois = .ok session) : session.pois = pois := by
  cases pois with
  | nil => cases hsession
  | cons first others =>
      cases hsession
      rfl

/-! ## Engines -/

/-- What the routing engines answer when they answer. A route of city2graph has a length in
kilometres, or fails. -/
structure RoutingEngines where
  osrmCar : RoutingAnswer
  osrmFoot : RoutingAnswer
  city2graph : Coordinates → Coordinates → Option ℚ

/-- The two engines that compute matrices. -/
inductive Engine
  | osrm | city2graph
  deriving DecidableEq

/-- `strategy_used`. -/
def Engine.strategy : Engine → String
  | .osrm => "OSRM_PROFESSIONAL"
  | .city2graph => "CITY2GRAPH_FALLBACK"

/-- `_calculate_city2graph_matrix` for one of the two matrices: the diagonal is zero, and a
route that fails is infinite. -/
def city2graphTable (route : Coordinates → Coordinates → Option ℚ) (ofKm : ℚ → ℚ)
    (coordinates : List Coordinates) : List (List Cell) :=
  coordinates.zipIdx.map fun origin =>
    coordinates.zipIdx.map fun destination =>
      if origin.2 = destination.2 then .number 0
      else
        match route origin.1 destination.1 with
        | some km => .number (ofKm km)
        | none => .infinite

/-- Distances and durations that an engine computes for a list of coordinates. -/
def RoutingEngines.tables (engines : RoutingEngines) (mode : String)
    (coordinates : List Coordinates) : Engine → List (List Cell) × List (List Cell)
  | .osrm => tablesOf (if mode = "car" then engines.osrmCar else engines.osrmFoot) coordinates
  | .city2graph =>
      (city2graphTable engines.city2graph (fun km => km * 1000) coordinates,
        city2graphTable engines.city2graph (fun km => km / 50 * 3600) coordinates)

/-! ## The integrator -/

/-- A session to be handled, and what it meets: whether Redis and the engines work, and the
times at which the clocks are read. -/
structure SessionCall where
  pois : List POI
  mode : String := "car"
  redisHealthy : Bool
  redisReadAt : Option ℚ := none
  redisStoredAt : Option ℚ := none
  osrmHealthy : Bool
  osrmAnswers : Bool
  checkedAt : ℚ
  calculatedAt : ℚ
  storedAt : ℚ

/-- What a stored matrix was computed for. The engine is not known of a matrix from Redis. -/
structure MatrixOrigin where
  pois : List POI
  mode : String
  engine : Option Engine

/-- The enriched result. -/
structure HybridMatrix where
  matrix : ODMatrix
  sessionId : String
  poiCount : ℕ
  calculatedAt : ℚ

/-- `HybridArchitectureIntegrator`. The entries of the memory also say what they were
computed for, which is only talked about. -/
structure HybridArchitectureIntegrator where
  city2graph : Bool
  redisCache : RedisODMatrixCache
  odMatrixCache : TracedMap String MatrixOrigin HybridMatrix ℚ := .empty

namespace HybridArchitectureIntegrator

/-- `self.cache_ttl`. -/
def cacheTtl : ℚ := 3600

/-- The engine that `_calculate_matrix_with_fallback` ends up with. -/
def chosenEngine (integrator : HybridArchitectureIntegrator) (call : SessionCall) :
    Option Engine :=
  if call.osrmHealthy && call.osrmAnswers then some .osrm
  else if integrator.city2graph then some .city2graph
  else none

/-- `_calculate_matrix_with_fallback`. -/
def calculateMatrixWithFallback (engines : RoutingEngines)
    (integrator : HybridArchitectureIntegrator) (call : SessionCall)
    (coordinates : List Coordinates) : Option ODMatrix :=
  (integrator.chosenEngine call).map fun engine =>
    { distances := (engines.tables call.mode coordinates engine).1
      durations := (engines.tables call.mode coordinates engine).2
      strategy := some engine.strategy }

/-- The key of a session in the memory. -/
def memoryKey (session : RoutingSession) (mode : String) : String :=
  "od_" ++ session.sessionId ++ "_" ++ mode

/-- The entry of the memory that answers a session while Redis is not healthy. -/
def found (integrator : HybridArchitectureIntegrator) (session : RoutingSession)
    (call : SessionCall) : Option (Traced MatrixOrigin HybridMatrix ℚ) :=
  if call.redisHealthy then none
  else
    (OrderedMap.get? integrator.odMatrixCache (memoryKey session call.mode)).filter fun entry =>
      call.checkedAt - entry.stamp < cacheTtl

/-- The matrix is enriched and stored, if there is one. -/
def enrich (integrator : HybridArchitectureIntegrator) (session : RoutingSession)
    (call : SessionCall) (strategyUsed : String) (engine : Option Engine) :
    Option ODMatrix → Except PyError HybridMatrix × HybridArchitectureIntegrator
  | none => (.error (.exception "❌ Todos los motores de ruteo fallaron"), integrator)
  | some matrixResult =>
      let enhancedResult : HybridMatrix :=
        { matrix := { matrixResult with strategy := some strategyUsed }
          sessionId := session.sessionId
          poiCount := session.pois.length
          calculatedAt := call.calculatedAt }
      (.ok enhancedResult,
        { integrator with
          odMatrixCache := OrderedMap.set integrator.odMatrixCache (memoryKey session call.mode)
            { origin :=
                { pois := session.pois
                  mode := call.mode
                  engine := engine }
              answer := enhancedResult
              stamp := call.storedAt } })

/-- The request of a session to the cache in Redis. -/
def matrixCall (engines : RoutingEngines) (integrator : HybridArchitectureIntegrator)
    (session : RoutingSession) (call : SessionCall) : MatrixCall where
  coordinates := coordinatesOf session.pois
  mode := call.mode
  h3Cluster := some session.mainCluster
  calculation := .ok
    (integrator.calculateMatrixWithFallback engines call (coordinatesOf session.pois))
  readAt := call.redisReadAt
  storedAt := call.redisStoredAt

/-- `calculate_od_matrix_hybrid`. -/
def calculateOdMatrixHybrid (coordsHash : CoordsHash) (engines : RoutingEngines)
    (integrator : HybridArchitectureIntegrator) (session : RoutingSession) (call : SessionCall) :
    Except PyError HybridMatrix × HybridArchitectureIntegrator :=
  if call.redisHealthy then
    match integrator.redisCache.getOrCalculateMatrix coordsHash
        (integrator.matrixCall engines session call) with
    | (.error e, redisCache) => (.error e, { integrator with redisCache := redisCache })
    | (.ok matrixResult, redisCache) =>
        { integrator with redisCache := redisCache }.enrich session call
          ((matrixResult.bind ODMatrix.strategy).getD "REDIS_CACHED") none matrixResult
  else
    match integrator.found session call with
    | some cachedResult => (.ok cachedResult.answer, integrator)
    | none =>
        integrator.enrich session call "MEMORY_FALLBACK" (integrator.chosenEngine call)
          (integrator.calculateMatrixWithFallback engines call (coordinatesOf session.pois))

/-- A session is made from its places and gets its matrix. -/
def handleSession (grid : HexGrid) (coordsHash : CoordsHash) (engines : RoutingEngines)
    (integrator : HybridArchitectureIntegrator) (call : SessionCall) :
    Except PyError HybridMatrix × HybridArchitectureIntegrator :=
  match clusterPoisAuto grid call.pois with
  | .error e => (.error e, integrator)
  | .ok session => integrator.calculateOdMatrixHybrid coordsHash engines session call

/-- The integrator after a session. -/
def next (grid : HexGrid) (coordsHash : CoordsHash) (engines : RoutingEngines)
    (integrator : HybridArchitectureIntegrator) (call : SessionCall) :
    HybridArchitectureIntegrator :=
  (integrator.handleSession grid coordsHash engines call).2

end HybridArchitectureIntegrator

/-! ## Whose matrix it is -/

/-- The tables that an entry was computed with, if its engine is known. -/
def MatrixOrigin.tables? (engines : RoutingEngines) (origin : MatrixOrigin) :
    Option (List (List Cell) × List (List Cell)) :=
  origin.engine.map (engines.tables origin.mode (coordinatesOf origin.pois))

/-- A matrix has the tables that it was computed with. -/
def ComputedWith (engines : RoutingEngines) (origin : MatrixOrigin) (answer : HybridMatrix) :
    Prop :=
  origin.tables? engines = some answer.matrix.tables

namespace HybridArchitectureIntegrator

/-- The entry of the memory that a session is served from. -/
def served (grid : HexGrid) (integrator : HybridArchitectureIntegrator) (call : SessionCall) :
    Option (Traced MatrixOrigin HybridMatrix ℚ) :=
  match clusterPoisAuto grid call.pois with
  | .error _ => none
  | .ok session => integrator.found session call

variable (grid : HexGrid) (coordsHash : CoordsHash) (engines : RoutingEngines)
  (integrator : HybridArchitectureIntegrator) {call : SessionCall}

/-- Without Redis a session is served from the memory, gets a matrix that an engine computes
for it and that is stored, or raises. -/
theorem handleSession_cases (hredis : call.redisHealthy = false) :
    (∃ entry, integrator.served grid call = some entry ∧
      integrator.handleSession grid coordsHash engines call = (.ok entry.answer, integrator)) ∨
    (integrator.served grid call = none ∧ ∃ engine key stamp answer,
      answer.matrix.tables = engines.tables call.mode (coordinatesOf call.pois) engine ∧
      integrator.handleSession grid coordsHash engines call =
        (.ok answer, { integrator with
          odMatrixCache := OrderedMap.set integrator.odMatrixCache key
            { origin := { pois := call.pois, mode := call.mode, engine := some engine }
              answer := answer
              stamp := stamp } })) ∨
    (integrator.served grid call = none ∧ ∃ error,
      integrator.handleSession grid coordsHash engines call = (.error error, integrator)) := by
  unfold handleSession served
  cases hsession : clusterPoisAuto grid call.pois with
  | error e => exact .inr (.inr ⟨rfl, e, rfl⟩)
  | ok session =>
      dsimp only
      unfold calculateOdMatrixHybrid
      rw [if_neg (by simp [hredis])]
      cases hfound : integrator.found session call with
      | some entry => exact .inl ⟨entry, rfl, rfl⟩
      | none =>
          unfold calculateMatrixWithFallback
          cases hengine : integrator.chosenEngine call with
          | none => exact .inr (.inr ⟨rfl, _, rfl⟩)
          | some engine =>
              rw [← pois_clusterPoisAuto hsession]
              exact .inr (.inl ⟨rfl, engine, _, _, _, rfl, rfl⟩)

theorem stores_next (hredis : call.redisHealthy = false) :
    TracedMap.Stores (ComputedWith engines) integrator.odMatrixCache
      (integrator.next grid coordsHash engines call).odMatrixCache := by
  unfold next
  rcases handleSession_cases grid coordsHash engines integrator hredis with
    ⟨entry, -, hreply⟩ | ⟨-, engine, key, stamp, answer, htables, hreply⟩ | ⟨-, error, hreply⟩
  · rw [hreply]
    exact .inl rfl
  · rw [hreply]
    have hright : ComputedWith engines
        { pois := call.pois, mode := call.mode, engine := some engine } answer :=
      congrArg some htables.symm
    exact .inr ⟨key, ⟨_, answer, stamp⟩, hright, rfl⟩
  · rw [hreply]
    exact .inl rfl

variable {grid engines integrator}

/-- What serves a session is in the memory. -/
theorem get?_of_served {entry : Traced MatrixOrigin HybridMatrix ℚ}
    (hserved : integrator.served grid call = some entry) :
    ∃ key, OrderedMap.get? integrator.odMatrixCache key = some entry := by
  unfold served found at hserved
  split at hserved
  · cases hserved
  · split at hserved
    · cases hserved
    · exact ⟨_, (Option.filter_eq_some_iff.mp hserved).1⟩

end HybridArchitectureIntegrator

/-- A grid with a cell for every degree. -/
def degreeGrid : HexGrid where
  latlngToCell lat lon := toString ⌊lat⌋ ++ "_" ++ toString ⌊lon⌋
  gridRing _ := []
  clusterHash _ := "-4278351"

/-- Engines that measure along the equator, and a graph without routes. -/
def equatorEngines : RoutingEngines where
  osrmCar := alongEquator
  osrmFoot := alongEquator
  city2graph _ _ := none

/-- A session of two places on the equator, a minute after the hour starts or later. -/
def equatorSession (first second now : ℚ) : SessionCall where
  pois := [{ lat := 0, lon := first }, { lat := 0, lon := second }]
  redisHealthy := false
  osrmHealthy := true
  osrmAnswers := true
  checkedAt := now
  calculatedAt := now
  storedAt := now

end Goveling.Routing
