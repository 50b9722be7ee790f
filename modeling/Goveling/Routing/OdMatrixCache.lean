/-
# The cache of origin-destination matrices in Redis

A matrix is positional: its rows and columns follow the list of coordinates it was
computed for. Its key is not: the coordinates are sorted before they are hashed. A
request is therefore answered right exactly as long as the request whose matrix it
is served has the same table of answers, as it has when the lists agree.
-/

import Goveling.Math.Provenance
import Goveling.Python.Builtins
import Mathlib.Data.Prod.Lex

namespace Goveling.Routing

open Goveling.Math Goveling.Python

/-! ## Matrices -/

/-- A pair of latitude and longitude. -/
abbrev Coordinates := ℚ × ℚ

/-- An entry of a matrix. -/
inductive Cell
  | number (value : ℚ)
  | infinite
  | null
  deriving DecidableEq

/-- The fields of a matrix that are read, and the mark that tells a hit. -/
structure ODMatrix where
  distances : List (List Cell)
  durations : List (List Cell)
  strategy : Option String := none
  cacheHit : Option Bool := none
  deriving DecidableEq

/-- The table of the answers from every coordinate to every coordinate, in their order. -/
def tableOf (answer : Coordinates → Coordinates → Cell) (coordinates : List Coordinates) :
    List (List Cell) :=
  coordinates.map fun p => coordinates.map fun q => answer p q

/-- What a routing service answers between two coordinates: distance and duration. -/
abbrev RoutingAnswer := Coordinates → Coordinates → Cell × Cell

/-- Distances and durations of all pairs. -/
def tablesOf (answer : RoutingAnswer) (coordinates : List Coordinates) :
    List (List Cell) × List (List Cell) :=
  (tableOf (fun p q => (answer p q).1) coordinates,
    tableOf (fun p q => (answer p q).2) coordinates)

/-- The distances and durations of a matrix. -/
def ODMatrix.tables (matrix : ODMatrix) : List (List Cell) × List (List Cell) :=
  (matrix.distances, matrix.durations)

/-- `matrix['cache_hit'] = hit`. -/
def ODMatrix.marked (matrix : ODMatrix) (hit : Bool) : ODMatrix :=
  { matrix with cacheHit := some hit }

@[simp]
theorem ODMatrix.tables_marked (matrix : ODMatrix) (hit : Bool) :
    (matrix.marked hit).tables = matrix.tables := rfl

/-! ## The cache -/

/-- A request for a matrix: what the calculation returns or raises, and when Redis reads
and writes, unless it fails. -/
structure MatrixCall where
  coordinates : List Coordinates
  mode : String
  h3Cluster : Option String := none
  calculation : Except PyError (Option ODMatrix)
  forceRefresh : Bool := false
  readAt : Option ℚ
  storedAt : Option ℚ

/-- The first twelve digits of the hash of sorted coordinates. -/
abbrev CoordsHash := List Coordinates → String

/-- `_generate_cache_key`. -/
def generateCacheKey (coordsHash : CoordsHash) (coordinates : List Coordinates) (mode : String)
    (h3Cluster : Option String) : String :=
  let clusterPart :=
    match h3Cluster with
    | some cluster => if cluster = "" then "global" else cluster
    | none => "global"
  "goveling:od:" ++ mode ++ ":" ++ clusterPart ++ ":" ++
    coordsHash (sortedBy toLex coordinates) ++ ":" ++ toString coordinates.length

/-- The key of a request. -/
def MatrixCall.key (coordsHash : CoordsHash) (call : MatrixCall) : String :=
  generateCacheKey coordsHash call.coordinates call.mode call.h3Cluster

/-- `RedisODMatrixCache`. The store keeps, besides a matrix and its expiry, the request it
was computed for, which is only talked about. -/
structure RedisODMatrixCache where
  connected : Bool
  store : TracedMap String MatrixCall ODMatrix ℚ := .empty

namespace RedisODMatrixCache

/-- `self.default_ttl`. -/
def defaultTtl : ℚ := 3600

variable (coordsHash : CoordsHash)

/-- The entry that Redis returns to a request. -/
def found (cache : RedisODMatrixCache) (call : MatrixCall) :
    Option (Traced MatrixCall ODMatrix ℚ) :=
  if cache.connected then
    call.readAt.bind fun now =>
      (OrderedMap.get? cache.store (call.key coordsHash)).filter fun entry => now < entry.stamp
  else none

/-- `get_od_matrix`. -/
def getOdMatrix (cache : RedisODMatrixCache) (call : MatrixCall) : Option ODMatrix :=
  (cache.found coordsHash call).map fun entry => entry.answer.marked true

/-- `set_od_matrix`. -/
def setOdMatrix (cache : RedisODMatrixCache) (call : MatrixCall) (matrix : ODMatrix) :
    RedisODMatrixCache :=
  match cache.connected, call.storedAt with
  | true, some now =>
      { cache with
        store := OrderedMap.set cache.store (call.key coordsHash)
          { origin := call
            answer := matrix
            stamp := now + defaultTtl } }
  | _, _ => cache

/-- The entry that a request is served from. -/
def served (cache : RedisODMatrixCache) (call : MatrixCall) :
    Option (Traced MatrixCall ODMatrix ℚ) :=
  if call.forceRefresh then none else cache.found coordsHash call

/-- `get_or_calculate_matrix`. -/
def getOrCalculateMatrix (cache : RedisODMatrixCache) (call : MatrixCall) :
    Except PyError (Option ODMatrix) × RedisODMatrixCache :=
  match if call.forceRefresh then none else cache.getOdMatrix coordsHash call with
  | some cachedMatrix => (.ok (some cachedMatrix), cache)
  | none =>
      match call.calculation with
      | .error e => (.error e, cache)
      | .ok none => (.ok none, cache)
      | .ok (some matrix) =>
          (.ok (some (matrix.marked false)),
            cache.setOdMatrix coordsHash call (matrix.marked false))

/-- The cache after a request. -/
def next (cache : RedisODMatrixCache) (call : MatrixCall) : RedisODMatrixCache :=
  (cache.getOrCalculateMatrix coordsHash call).2

end RedisODMatrixCache

/-! ## Who computed what -/

/-- Answers for every mode. -/
abbrev ModeAnswers := String → RoutingAnswer

/-- The tables that a request asks for. -/
def MatrixCall.tables (answers : ModeAnswers) (call : MatrixCall) :
    List (List Cell) × List (List Cell) :=
  tablesOf (answers call.mode) call.coordinates

/-- A matrix with the answers of the request, in the order of its coordinates. -/
def MatrixCall.Indexes (answers : ModeAnswers) (call : MatrixCall) (matrix : ODMatrix) : Prop :=
  matrix.tables = call.tables answers

/-- A calculation that returns a matrix returns the one of its request. -/
def MatrixCall.Calculates (answers : ModeAnswers) (call : MatrixCall) : Prop :=
  ∀ matrix, call.calculation = .ok (some matrix) → call.Indexes answers matrix

/-- Requests one after the other on a cache that nothing has been stored in. -/
def matrixRun (coordsHash : CoordsHash) (connected : Bool) (calls : List MatrixCall) :
    List (RedisODMatrixCache × MatrixCall) :=
  moments (RedisODMatrixCache.next coordsHash) { connected := connected } calls

/-- Every matrix that is returned follows the coordinates of its own request. -/
def IndexesOwn (coordsHash : CoordsHash) (answers : ModeAnswers) (connected : Bool)
    (calls : List MatrixCall) : Prop :=
  ∀ moment ∈ matrixRun coordsHash connected calls, ∀ matrix,
    (moment.1.getOrCalculateMatrix coordsHash moment.2).1 = .ok (some matrix) →
      moment.2.Indexes answers matrix

namespace RedisODMatrixCache

variable (coordsHash : CoordsHash) {answers : ModeAnswers} (cache : RedisODMatrixCache)
  {call : MatrixCall}

/-- A request is served from an entry, calculates its matrix and may store it, or returns
no matrix. -/
theorem getOrCalculateMatrix_cases (hcalculates : call.Calculates answers) :
    (∃ entry, cache.served coordsHash call = some entry ∧
      cache.getOrCalculateMatrix coordsHash call =
        (.ok (some (entry.answer.marked true)), cache)) ∨
    (cache.served coordsHash call = none ∧ ∃ matrix, call.Indexes answers matrix ∧
      cache.getOrCalculateMatrix coordsHash call =
        (.ok (some matrix), cache.setOdMatrix coordsHash call matrix)) ∨
    (cache.served coordsHash call = none ∧
      (∀ matrix, (cache.getOrCalculateMatrix coordsHash call).1 ≠ .ok (some matrix)) ∧
      (cache.getOrCalculateMatrix coordsHash call).2 = cache) := by
  unfold getOrCalculateMatrix
  have hread : (if call.forceRefresh then none else cache.getOdMatrix coordsHash call) =
      (cache.served coordsHash call).map fun entry => entry.answer.marked true := by
    unfold served getOdMatrix
    split <;> rfl
  rw [hread]
  cases hserved : cache.served coordsHash call with
  | some entry => exact .inl ⟨entry, rfl, rfl⟩
  | none =>
      dsimp only [Option.map_none]
      cases hcalculation : call.calculation with
      | error e => exact .inr (.inr ⟨rfl, nofun, rfl⟩)
      | ok result =>
          cases result with
          | none => exact .inr (.inr ⟨rfl, nofun, rfl⟩)
          | some matrix =>
              exact .inr (.inl ⟨rfl, matrix.marked false, hcalculates matrix hcalculation, rfl⟩)

theorem stores_setOdMatrix {matrix : ODMatrix} (hindexes : call.Indexes answers matrix) :
    TracedMap.Stores (MatrixCall.Indexes answers) cache.store
      (cache.setOdMatrix coordsHash call matrix).store := by
  unfold setOdMatrix
  split
  · exact .inr ⟨_, _, hindexes, rfl⟩
  · exact .inl rfl

theorem stores_next (hcalculates : call.Calculates answers) :
    TracedMap.Stores (MatrixCall.Indexes answers) cache.store
      (cache.next coordsHash call).store := by
  unfold next
  rcases getOrCalculateMatrix_cases coordsHash cache hcalculates with
    ⟨entry, -, hreply⟩ | ⟨-, matrix, hindexes, hreply⟩ | ⟨-, -, hkept⟩
  · rw [hreply]
    exact .inl rfl
  · rw [hreply]
    exact stores_setOdMatrix coordsHash cache hindexes
  · rw [hkept]
    exact .inl rfl

variable {coordsHash cache}

/-- What serves a request is in the store. -/
theorem get?_of_served {entry : Traced MatrixCall ODMatrix ℚ}
    (hserved : cache.served coordsHash call = some entry) :
    OrderedMap.get? cache.store (call.key coordsHash) = some entry := by
  unfold served at hserved
  split at hserved
  · cases hserved
  · unfold found at hserved
    split at hserved
    · obtain ⟨now, -, hfound⟩ := Option.bind_eq_some_iff.mp hserved
      exact (Option.filter_eq_some_iff.mp hfound).1
    · cases hserved

/-- A request is answered right if it is not served, or if the request that it is served
from has the same tables. -/
theorem indexed_iff (hsound : TracedMap.Sound (MatrixCall.Indexes answers) cache.store)
    (hcalculates : call.Calculates answers) :
    (∀ matrix, (cache.getOrCalculateMatrix coordsHash call).1 = .ok (some matrix) →
        call.Indexes answers matrix) ↔
      ∀ entry, cache.served coordsHash call = some entry →
        entry.origin.tables answers = call.tables answers := by
  rcases getOrCalculateMatrix_cases coordsHash cache hcalculates with
    ⟨entry, hserved, hreply⟩ | ⟨hserved, matrix, hindexes, hreply⟩ | ⟨hserved, hnone, -⟩
  · have hright : entry.answer.tables = entry.origin.tables answers :=
      hsound.right_of_get? (get?_of_served hserved)
    rw [hreply]
    apply TracedMap.iff_of_served hserved
    constructor
    · intro hindexes
      rw [← hright]
      exact hindexes (entry.answer.marked true) rfl
    · intro hsame matrix hmatrix
      cases hmatrix
      exact hright.trans hsame
  · rw [hreply]
    apply TracedMap.iff_of_not_served hserved
    intro other hother
    cases hother
    exact hindexes
  · apply TracedMap.iff_of_not_served hserved
    intro matrix hmatrix
    exact absurd hmatrix (hnone matrix)

end RedisODMatrixCache

/-- In every history, over calculations that return the matrix of their own requests, every
matrix that is returned follows the coordinates of its request exactly when every request
that is served from the cache has the tables of the request that stored the matrix. -/
theorem getOrCalculateMatrix_indexed_iff (coordsHash : CoordsHash) (answers : ModeAnswers)
    (connected : Bool) (calls : List MatrixCall)
    (hcalculates : ∀ call ∈ calls, call.Calculates answers) :
    IndexesOwn coordsHash answers connected calls ↔
      ∀ moment ∈ matrixRun coordsHash connected calls, ∀ entry,
        moment.1.served coordsHash moment.2 = some entry →
          entry.origin.tables answers = moment.2.tables answers := by
  refine forall₂_congr fun moment hmem => ?_
  obtain ⟨hsound, hcall⟩ := TracedMap.sound_moments RedisODMatrixCache.store
    (fun cache call hcall =>
      RedisODMatrixCache.stores_next coordsHash cache (hcalculates call hcall))
    TracedMap.sound_empty moment hmem
  exact RedisODMatrixCache.indexed_iff hsound (hcalculates _ hcall)

/-! ## Three stops on a road -/

/-- Distances along the equator, a minute for every kilometre. -/
def alongEquator : RoutingAnswer := fun p q => (.number |p.2 - q.2|, .number |p.2 - q.2|)

/-- A request for a matrix by car that is calculated along the equator. -/
def equatorCall (coordinates : List Coordinates) (now : ℚ) : MatrixCall where
  coordinates := coordinates
  mode := "car"
  calculation := .ok (some
    { distances := (tablesOf alongEquator coordinates).1
      durations := (tablesOf alongEquator coordinates).2 })
  readAt := some now
  storedAt := some now

theorem calculates_equatorCall (coordinates : List Coordinates) (now : ℚ) :
    (equatorCall coordinates now).Calculates fun _ => alongEquator := by
  intro matrix hmatrix
  cases hmatrix
  rfl

/-- The same list twice: the second matrix comes from the cache. -/
theorem getOrCalculateMatrix_indexed_again :
    IndexesOwn (fun _ => "8f14e45fceea") (fun _ => alongEquator) true
      [equatorCall [(0, 0), (0, 1), (0, 3)] 0, equatorCall [(0, 0), (0, 1), (0, 3)] 60] := by
  refine (getOrCalculateMatrix_indexed_iff (fun _ => "8f14e45fceea") (fun _ => alongEquator) true
    [equatorCall [(0, 0), (0, 1), (0, 3)] 0, equatorCall [(0, 0), (0, 1), (0, 3)] 60] ?_).mpr ?_
  · intro call hcall
    simp only [List.mem_cons, List.not_mem_nil, or_false] at hcall
    rcases hcall with rfl | rfl <;> exact calculates_equatorCall _ _
  · intro moment hmoment entry hserved
    simp only [matrixRun, moments_cons, moments_nil, List.mem_cons, List.not_mem_nil,
      or_false] at hmoment
    rcases hmoment with rfl | rfl
    · cases RedisODMatrixCache.get?_of_served hserved
    · have hfound := RedisODMatrixCache.get?_of_served hserved
      have hstore : (RedisODMatrixCache.next (fun _ => "8f14e45fceea") { connected := true }
          (equatorCall [(0, 0), (0, 1), (0, 3)] 0)).store =
            OrderedMap.set .empty
              ((equatorCall [(0, 0), (0, 1), (0, 3)] 60).key fun _ => "8f14e45fceea")
              { origin := equatorCall [(0, 0), (0, 1), (0, 3)] 0
                answer :=
                  { distances := (tablesOf alongEquator [(0, 0), (0, 1), (0, 3)]).1
                    durations := (tablesOf alongEquator [(0, 0), (0, 1), (0, 3)]).2
                    cacheHit := some false }
                stamp := 0 + RedisODMatrixCache.defaultTtl } := rfl
      rw [hstore, OrderedMap.get?_set, if_pos rfl] at hfound
      cases hfound
      rfl

/-- Three stops, and a minute later the same with the first two in the other order. -/
def swappedCalls : List MatrixCall :=
  [equatorCall [(0, 0), (0, 1), (0, 3)] 0, equatorCall [(0, 1), (0, 0), (0, 3)] 60]

/-- The first two stops change places, and the matrix stays as it was. -/
theorem getOrCalculateMatrix_keeps_order :
    (∀ call ∈ swappedCalls, call.Calculates fun _ => alongEquator) ∧
      ¬ IndexesOwn (fun _ => "8f14e45fceea") (fun _ => alongEquator) true swappedCalls := by
  constructor
  · intro call hcall
    simp only [swappedCalls, List.mem_cons, List.not_mem_nil, or_false] at hcall
    rcases hcall with rfl | rfl
    · exact calculates_equatorCall _ _
    · exact calculates_equatorCall _ _
  · intro hindexes
    have hsecond := (List.forall_mem_cons.mp (List.forall_mem_cons.mp hindexes).2).1
      { distances := (tablesOf alongEquator [(0, 0), (0, 1), (0, 3)]).1
        durations := (tablesOf alongEquator [(0, 0), (0, 1), (0, 3)]).2
        cacheHit := some true } (by decide +kernel)
    revert hsecond
    unfold MatrixCall.Indexes
    decide +kernel

end Goveling.Routing
