/-
# The distance matrix cache

`ORToolsDistanceCache` stores distance matrices under a hash of the places. The
hash is taken after the places have been rounded and sorted, and the source of
the distances is not part of it, while the matrix that is stored goes by the
order of the places and by their source. A table under such keys remembers
answers to other queries too; it gives the right matrix in every history in
which calls with the same key mean the same matrix.
-/

import Goveling.Math.Memo
import Goveling.Math.OrderedMap
import Goveling.Optimizer.Types
import Mathlib.Data.Prod.Lex

namespace Goveling.Ortools

open Goveling.Math Goveling.Optimizer Goveling.Python

/-! ## Places and their hash -/

/-- The keys of a place that the cache reads. -/
structure MatrixPlace where
  location : Location
  name : String := ""
  deriving DecidableEq

/-- `round(x, 6)`. -/
def roundSix (x : ℚ) : ℚ := roundHalfEven (x * 10 ^ 6) / 10 ^ 6

/-- An element of `normalized_places`. -/
structure NormalizedPlace where
  lat : ℚ
  lon : ℚ
  name : String
  deriving DecidableEq

/-- The list that is dumped as JSON and hashed. -/
def normalizedPlaces (places : List MatrixPlace) : List NormalizedPlace :=
  sortedBy (fun place => toLex (place.lat, place.lon)) (places.map fun place =>
    { lat := roundSix place.location.lat
      lon := roundSix place.location.lon
      name := place.name })

/-! ## Sources of distances -/

/-- The values of `source_preference`. -/
inductive SourcePreference
  | auto | osrm | geodesic | cachedOnly
  | other (name : String)
  deriving DecidableEq

/-- The source a matrix says it was computed with. -/
inductive MatrixSource
  | osrm | geodesic
  deriving DecidableEq

/-- What the cache is set up with: the distance oracles, the hash and the settings.
`osrmDistance` is `get_distance_km`, with `none` for a call that raises. -/
structure CacheEnv where
  md5 : List NormalizedPlace → String
  geodesicDistance : Location → Location → ℚ
  osrmDistance : Location → Location → Option ℚ
  hasOsrm : Bool := true
  cacheTtl : ℚ := 3600
  enableParallelOptimization : Bool := true
  maxCacheSize : ℕ := 1000

/-- `_generate_places_hash`. -/
def generatePlacesHash (env : CacheEnv) (places : List MatrixPlace) : String :=
  env.md5 (normalizedPlaces places)

/-- The source `_calculate_distance_matrix` settles on. -/
def resolveSource (env : CacheEnv) (placesCount : ℕ) (preference : SourcePreference) :
    MatrixSource :=
  match preference with
  | .auto => if placesCount ≤ 5 then .geodesic else if env.hasOsrm then .osrm else .geodesic
  | .osrm => if env.hasOsrm then .osrm else .geodesic
  | _ => .geodesic

/-- `_get_osrm_distance`, with the geodesic distance where it raises or is not positive. -/
def osrmOrGeodesic (env : CacheEnv) (origin destination : Location) : ℚ :=
  match env.osrmDistance origin destination with
  | some distance => if 0 < distance then distance else env.geodesicDistance origin destination
  | none => env.geodesicDistance origin destination

/-- The distance between two places according to a source. -/
def pairDistance (env : CacheEnv) (source : MatrixSource) (origin destination : MatrixPlace) :
    ℚ :=
  match source with
  | .osrm => osrmOrGeodesic env origin.location destination.location
  | .geodesic => env.geodesicDistance origin.location destination.location

/-! ## Matrices -/

abbrev Matrix := List (List ℚ)

/-- The entry in a row and a column. -/
def entryAt (matrix : Matrix) (i j : ℕ) : Option ℚ := matrix[i]?.bind (·[j]?)

/-- The two loops of `_calculate_geodesic_matrix` and `_calculate_osrm_sequential`. -/
def calculateSequential {α : Type} (distance : α → α → ℚ) (places : List α) : Matrix :=
  places.zipIdx.map fun origin => places.zipIdx.map fun destination =>
    if origin.2 = destination.2 then 0 else distance origin.1 destination.1

/-- A distance with the indices it is for, as a parallel task returns it. -/
structure PairResult where
  distance : ℚ
  i : ℕ
  j : ℕ

/-- The tasks of `_calculate_osrm_parallel`: the upper triangle. -/
def upperTriangle {α : Type} (distance : α → α → ℚ) (places : List α) : List PairResult :=
  places.zipIdx.flatMap fun origin => places.zipIdx.filterMap fun destination =>
    if origin.2 < destination.2 then
      some { distance := distance origin.1 destination.1, i := origin.2, j := destination.2 }
    else none

/-- Write a result at both of its places. -/
def writeResult (entry : ℕ → ℕ → ℚ) (result : PairResult) : ℕ → ℕ → ℚ :=
  fun a b =>
    if a = result.j ∧ b = result.i then result.distance
    else if a = result.i ∧ b = result.j then result.distance
    else entry a b

/-- `_calculate_osrm_parallel`. -/
def calculateParallel {α : Type} (distance : α → α → ℚ) (places : List α) : Matrix :=
  let entry := (upperTriangle distance places).foldl writeResult fun _ _ => 0
  (List.range places.length).map fun i => (List.range places.length).map fun j => entry i j

/-- The tasks are run in parallel for more than ten places. -/
def runsInParallel (env : CacheEnv) (source : MatrixSource) (placesCount : ℕ) : Bool :=
  source = .osrm && env.enableParallelOptimization && 10 < placesCount

/-- `_calculate_distance_matrix` for a source that is settled. -/
def calculateMatrix (env : CacheEnv) (source : MatrixSource) (places : List MatrixPlace) :
    Matrix :=
  if runsInParallel env source places.length then
    calculateParallel (pairDistance env source) places
  else calculateSequential (pairDistance env source) places

/-! ## The cache -/

/-- `CachedDistanceMatrix`. -/
structure CachedDistanceMatrix where
  matrixData : Matrix
  placesHash : String
  timestamp : ℚ
  source : MatrixSource
  cacheTtl : ℚ

/-- `is_expired` at a moment. -/
def CachedDistanceMatrix.isExpired (cached : CachedDistanceMatrix) (now : ℚ) : Bool :=
  cached.timestamp + cached.cacheTtl < now

/-- The counters of the cache, without the running average of computing times. -/
structure CacheStats where
  hits : ℕ := 0
  misses : ℕ := 0
  cacheSize : ℕ := 0
  totalMatricesCached : ℕ := 0

/-- The state of an `ORToolsDistanceCache`. -/
structure CacheState where
  cache : OrderedMap String CachedDistanceMatrix := .empty
  stats : CacheStats := {}

/-- A call of `get_distance_matrix`. -/
structure MatrixRequest where
  places : List MatrixPlace
  sourcePreference : SourcePreference := .auto

/-- What `get_distance_matrix` returns: the matrix, its source and whether it was cached. -/
structure MatrixAnswer where
  matrix : Matrix
  source : MatrixSource
  cacheHit : Bool

/-- `_get_from_cache`: an expired entry is deleted. -/
def getFromCache (now : ℚ) (state : CacheState) (placesHash : String) :
    Option CachedDistanceMatrix × CacheState :=
  match state.cache.get? placesHash with
  | none => (none, state)
  | some cached =>
      if cached.isExpired now then
        let cache := state.cache.erase placesHash
        (none, { cache := cache, stats := { state.stats with cacheSize := cache.size } })
      else (some cached, state)

/-- `_cleanup_cache`: expired entries go, then the oldest fifth if that was not enough. -/
def cleanupCache (env : CacheEnv) (now : ℚ) (state : CacheState) : CacheState :=
  let unexpired := state.cache.filter fun entry => !entry.2.isExpired now
  let cache :=
    if env.maxCacheSize ≤ unexpired.size then
      let sortedItems := sortedBy (fun entry => entry.2.timestamp) unexpired.entries
      let oldest := (sortedItems.take (max 1 (sortedItems.length / 5))).map Prod.fst
      unexpired.filter fun entry => !decide (entry.1 ∈ oldest)
    else unexpired
  { cache := cache, stats := { state.stats with cacheSize := cache.size } }

/-- `_save_to_cache`. -/
def saveToCache (env : CacheEnv) (now : ℚ) (state : CacheState) (placesHash : String)
    (matrix : Matrix) (source : MatrixSource) : CacheState :=
  let cleaned := if env.maxCacheSize ≤ state.cache.size then cleanupCache env now state else state
  let cache := cleaned.cache.set placesHash
    { matrixData := matrix
      placesHash := placesHash
      timestamp := now
      source := source
      cacheTtl := env.cacheTtl }
  { cache := cache
    stats :=
      { cleaned.stats with
        cacheSize := cache.size
        totalMatricesCached := cleaned.stats.totalMatricesCached + 1 } }

/-- `get_distance_matrix` at a moment. -/
def getDistanceMatrix (env : CacheEnv) (now : ℚ) (state : CacheState)
    (request : MatrixRequest) : MatrixAnswer × CacheState :=
  let placesHash := generatePlacesHash env request.places
  match getFromCache now state placesHash with
  | (some cached, state) =>
      ({ matrix := cached.matrixData, source := cached.source, cacheHit := true },
        { state with stats := { state.stats with hits := state.stats.hits + 1 } })
  | (none, state) =>
      let state := { state with stats := { state.stats with misses := state.stats.misses + 1 } }
      let source := resolveSource env request.places.length request.sourcePreference
      let matrix := calculateMatrix env source request.places
      ({ matrix := matrix, source := source, cacheHit := false },
        saveToCache env now state placesHash matrix source)

/-- `invalidate_cache`: one entry, or all of them without a hash. -/
def invalidateCache (state : CacheState) (placesHash : Option String) : CacheState :=
  match placesHash with
  | some hash =>
      if hash = "" then { cache := .empty, stats := { state.stats with cacheSize := 0 } }
      else { state with cache := state.cache.erase hash }
  | none => { cache := .empty, stats := { state.stats with cacheSize := 0 } }

/-! ## Histories -/

/-- One use of the cache. -/
inductive CacheCall
  | get (now : ℚ) (request : MatrixRequest)
  | invalidate (placesHash : Option String)

/-- The requests of a history. -/
def requestsOf (history : List CacheCall) : List MatrixRequest :=
  history.filterMap fun
    | .get _ request => some request
    | .invalidate _ => none

/-- The requests of a history with their answers. -/
def answersFrom (env : CacheEnv) :
    CacheState → List CacheCall → List (MatrixRequest × MatrixAnswer)
  | _, [] => []
  | state, .get now request :: rest =>
      let (answer, next) := getDistanceMatrix env now state request
      (request, answer) :: answersFrom env next rest
  | state, .invalidate placesHash :: rest =>
      answersFrom env (invalidateCache state placesHash) rest

/-- The matrix a cache that was just created computes for a request. -/
def freshMatrix (env : CacheEnv) (request : MatrixRequest) : Matrix :=
  (getDistanceMatrix env 0 {} request).1.matrix

/-- The source of the matrix a request asks for. -/
def requestedSource (env : CacheEnv) (request : MatrixRequest) : MatrixSource :=
  resolveSource env request.places.length request.sourcePreference

/-- Two requests for the same coordinates in the same order from the same source. -/
structure SameView (env : CacheEnv) (earlier later : MatrixRequest) : Prop where
  locations : earlier.places.map MatrixPlace.location = later.places.map MatrixPlace.location
  source : requestedSource env earlier = requestedSource env later

/-- The distances of a request that is computed in parallel do not depend on the direction. -/
def SymmetricIfParallel (env : CacheEnv) (request : MatrixRequest) : Prop :=
  runsInParallel env (requestedSource env request) request.places.length = true →
    ∀ p ∈ request.places, ∀ q ∈ request.places,
      pairDistance env (requestedSource env request) p q =
        pairDistance env (requestedSource env request) q p

/-- Every entry of a matrix is the distance between its places. -/
def HasDistances (env : CacheEnv) (request : MatrixRequest) (matrix : Matrix) : Prop :=
  ∀ i j p q, request.places[i]? = some p → request.places[j]? = some q →
    entryAt matrix i j =
      some (if i = j then 0 else pairDistance env (requestedSource env request) p q)

/-- Every call of a history on a new cache returns the matrix that a fresh cache
would compute for it, with the distance between its places in every entry. -/
def AnswersFresh (env : CacheEnv) (history : List CacheCall) : Prop :=
  ∀ answered ∈ answersFrom env {} history,
    answered.2.matrix = freshMatrix env answered.1 ∧
      HasDistances env answered.1 answered.2.matrix

/-! ## The entries of a matrix -/

section Entries

variable {α β : Type}

/-- Only the coordinates of the places matter. -/
theorem calculateSequential_map (distance : β → β → ℚ) (f : α → β) (places : List α) :
    calculateSequential (fun p q => distance (f p) (f q)) places =
      calculateSequential distance (places.map f) := by
  simp [calculateSequential, List.zipIdx_map, Function.comp_def]

theorem upperTriangle_map (distance : β → β → ℚ) (f : α → β) (places : List α) :
    upperTriangle (fun p q => distance (f p) (f q)) places =
      upperTriangle distance (places.map f) := by
  simp [upperTriangle, List.zipIdx_map, List.flatMap_map, List.filterMap_map]

theorem calculateParallel_map (distance : β → β → ℚ) (f : α → β) (places : List α) :
    calculateParallel (fun p q => distance (f p) (f q)) places =
      calculateParallel distance (places.map f) := by
  simp [calculateParallel, upperTriangle_map]

theorem entryAt_calculateSequential (distance : α → α → ℚ) {places : List α} {i j : ℕ} {p q : α}
    (hp : places[i]? = some p) (hq : places[j]? = some q) :
    entryAt (calculateSequential distance places) i j =
      some (if i = j then 0 else distance p q) := by
  simp [entryAt, calculateSequential, hp, hq]

theorem mem_upperTriangle {distance : α → α → ℚ} {places : List α} {result : PairResult} :
    result ∈ upperTriangle distance places ↔
      ∃ p q, places[result.i]? = some p ∧ places[result.j]? = some q ∧ result.i < result.j ∧
        result.distance = distance p q := by
  obtain ⟨value, i, j⟩ := result
  simp only [upperTriangle, List.mem_flatMap, List.mem_filterMap, Prod.exists,
    List.mem_zipIdx_iff_getElem?, Option.ite_none_right_eq_some, Option.some.injEq,
    PairResult.mk.injEq]
  constructor
  · rintro ⟨p, a, hp, q, b, hq, hlt, rfl, rfl, rfl⟩
    exact ⟨p, q, hp, hq, hlt, rfl⟩
  · rintro ⟨p, q, hp, hq, hlt, rfl⟩
    exact ⟨p, i, hp, q, j, hq, hlt, rfl, rfl, rfl⟩

/-- A position that every result for it agrees on, and that starts or is written
with that value, has it in the end. -/
theorem foldl_writeResult {value : ℚ} {a b : ℕ} (results : List PairResult)
    (hagree : ∀ result ∈ results, (a = result.j ∧ b = result.i) ∨ (a = result.i ∧ b = result.j) →
      result.distance = value) (entry : ℕ → ℕ → ℚ)
    (hstart : entry a b = value ∨ ∃ result ∈ results,
      (a = result.j ∧ b = result.i) ∨ (a = result.i ∧ b = result.j)) :
    results.foldl writeResult entry a b = value := by
  induction results generalizing entry with
  | nil => simpa using hstart
  | cons result rest ih =>
      obtain ⟨hfirst, hrest⟩ := List.forall_mem_cons.mp hagree
      refine ih hrest (writeResult entry result) ?_
      by_cases htouched : (a = result.j ∧ b = result.i) ∨ (a = result.i ∧ b = result.j)
      · refine .inl ((?_ : writeResult entry result a b = result.distance).trans (hfirst htouched))
        unfold writeResult
        rcases htouched with hlower | hupper
        · rw [if_pos hlower]
        · rw [if_pos hupper]
          exact ite_self _
      · have hkept : writeResult entry result a b = entry a b := by
          simp only [not_or] at htouched
          simp [writeResult, htouched.1, htouched.2]
        rw [hkept]
        refine hstart.imp_right ?_
        rintro ⟨other, hother, hpos⟩
        rcases List.mem_cons.mp hother with rfl | hlater
        · exact absurd hpos htouched
        · exact ⟨other, hlater, hpos⟩

theorem entryAt_calculateParallel {distance : α → α → ℚ} {places : List α}
    (hsymm : ∀ p ∈ places, ∀ q ∈ places, distance p q = distance q p) {i j : ℕ} {p q : α}
    (hp : places[i]? = some p) (hq : places[j]? = some q) :
    entryAt (calculateParallel distance places) i j =
      some (if i = j then 0 else distance p q) := by
  have hi : i < places.length := (List.getElem?_eq_some_iff.mp hp).choose
  have hj : j < places.length := (List.getElem?_eq_some_iff.mp hq).choose
  have hpq := hsymm p (List.mem_of_getElem? hp) q (List.mem_of_getElem? hq)
  have hentry : (upperTriangle distance places).foldl writeResult (fun _ _ => 0) i j =
      if i = j then 0 else distance p q := by
    refine foldl_writeResult _ ?_ _ ?_
    · intro result hmem hpos
      obtain ⟨p', q', hp', hq', hlt, hdistance⟩ := mem_upperTriangle.mp hmem
      rcases hpos with ⟨rfl, rfl⟩ | ⟨rfl, rfl⟩
      · cases hp.symm.trans hq'
        cases hq.symm.trans hp'
        rw [if_neg hlt.ne', hdistance, hpq]
      · cases hp.symm.trans hp'
        cases hq.symm.trans hq'
        rw [if_neg hlt.ne, hdistance]
    · rcases Nat.lt_trichotomy i j with hlt | rfl | hgt
      · exact .inr ⟨⟨distance p q, i, j⟩,
          mem_upperTriangle.mpr ⟨p, q, hp, hq, hlt, rfl⟩, .inr ⟨rfl, rfl⟩⟩
      · exact .inl (if_pos rfl).symm
      · exact .inr ⟨⟨distance q p, j, i⟩,
          mem_upperTriangle.mpr ⟨q, p, hq, hp, hgt, rfl⟩, .inl ⟨rfl, rfl⟩⟩
  simp [entryAt, calculateParallel, hi, hj, hentry]

end Entries

/-- The matrix a request asks for. -/
def requestedMatrix (env : CacheEnv) (request : MatrixRequest) : Matrix :=
  calculateMatrix env (requestedSource env request) request.places

section Env

variable {env : CacheEnv}

theorem requestedMatrix_hasDistances {request : MatrixRequest}
    (hsymm : SymmetricIfParallel env request) :
    HasDistances env request (requestedMatrix env request) := by
  intro i j p q hp hq
  unfold requestedMatrix calculateMatrix
  split
  · rename_i hparallel
    exact entryAt_calculateParallel (hsymm hparallel) hp hq
  · exact entryAt_calculateSequential _ hp hq

/-- Requests with the same view ask for the same matrix. -/
theorem SameView.requestedMatrix_eq {earlier later : MatrixRequest}
    (hview : SameView env earlier later) :
    requestedMatrix env earlier = requestedMatrix env later := by
  have hlength : earlier.places.length = later.places.length := by
    simpa using congrArg List.length hview.locations
  have hdistance : ∀ source : MatrixSource, ∃ distance : Location → Location → ℚ,
      pairDistance env source = fun p q => distance p.location q.location := by
    intro source
    cases source with
    | osrm => exact ⟨osrmOrGeodesic env, rfl⟩
    | geodesic => exact ⟨env.geodesicDistance, rfl⟩
  obtain ⟨distance, hpair⟩ := hdistance (requestedSource env later)
  unfold requestedMatrix calculateMatrix
  rw [hview.source, hlength, hpair]
  simp only [calculateParallel_map distance MatrixPlace.location,
    calculateSequential_map distance MatrixPlace.location, hview.locations]

/-! ## The cache as a table of answers -/

/-- The matrices in the cache under their hashes. -/
def matrixTable (state : CacheState) : List (String × Matrix) :=
  state.cache.entries.map fun entry => (entry.1, entry.2.matrixData)

/-- The cache of a history remembers the matrices of its requests. -/
abbrev RemembersRequests (env : CacheEnv) (past : List MatrixRequest) (state : CacheState) :
    Prop :=
  Remembers (fun request => generatePlacesHash env request.places) (requestedMatrix env) past
    (matrixTable state)

theorem matrixTable_subset {state state' : CacheState}
    (hentries : state'.cache.entries ⊆ state.cache.entries) :
    matrixTable state' ⊆ matrixTable state :=
  List.map_subset _ hentries

theorem getFromCache_subset (now : ℚ) (state : CacheState) (placesHash : String) :
    matrixTable (getFromCache now state placesHash).2 ⊆ matrixTable state := by
  unfold getFromCache
  split
  · exact List.Subset.refl _
  · split
    · exact matrixTable_subset (List.filter_subset_self _)
    · exact List.Subset.refl _

theorem mem_of_getFromCache {now : ℚ} {state state' : CacheState} {placesHash : String}
    {cached : CachedDistanceMatrix}
    (hhit : getFromCache now state placesHash = (some cached, state')) :
    (placesHash, cached.matrixData) ∈ matrixTable state := by
  unfold getFromCache at hhit
  split at hhit
  · cases hhit
  · rename_i found hfound
    split at hhit
    · cases hhit
    · cases hhit
      exact List.mem_map.mpr ⟨_, OrderedMap.mem_of_get?_eq_some hfound, rfl⟩

theorem cleanupCache_subset (env : CacheEnv) (now : ℚ) (state : CacheState) :
    (cleanupCache env now state).cache.entries ⊆ state.cache.entries := by
  unfold cleanupCache
  dsimp only
  split
  · exact List.Subset.trans (List.filter_subset_self _) (List.filter_subset_self _)
  · exact List.filter_subset_self _

theorem saveToCache_entries (env : CacheEnv) (now : ℚ) (state : CacheState)
    (placesHash : String) (matrix : Matrix) (source : MatrixSource) :
    ∀ entry ∈ matrixTable (saveToCache env now state placesHash matrix source),
      entry = (placesHash, matrix) ∨ entry ∈ matrixTable state := by
  intro entry hentry
  obtain ⟨stored, hstored, rfl⟩ := List.mem_map.mp hentry
  rcases OrderedMap.mem_setEntries hstored with rfl | hold
  · exact .inl rfl
  · refine .inr (List.mem_map.mpr ⟨stored, ?_, rfl⟩)
    split at hold
    · exact cleanupCache_subset env now state hold
    · exact hold

theorem invalidateCache_subset (state : CacheState) (placesHash : Option String) :
    matrixTable (invalidateCache state placesHash) ⊆ matrixTable state := by
  unfold invalidateCache
  split
  · split
    · exact List.nil_subset _
    · exact matrixTable_subset (List.filter_subset_self _)
  · exact List.nil_subset _

/-- One call: right answer, and a cache that remembers the call as well. -/
theorem getDistanceMatrix_remembers {past : List MatrixRequest} {state : CacheState}
    (hremembers : RemembersRequests env past state) (now : ℚ) {request : MatrixRequest}
    (hagrees : AgreesOn (fun request => generatePlacesHash env request.places)
      (requestedMatrix env) past request) :
    (getDistanceMatrix env now state request).1.matrix = requestedMatrix env request ∧
      RemembersRequests env (past ++ [request]) (getDistanceMatrix env now state request).2 := by
  have hkept := hremembers.of_subset
    (getFromCache_subset now state (generatePlacesHash env request.places))
  unfold getDistanceMatrix
  dsimp only
  split
  · rename_i cached state' hhit
    rw [hhit] at hkept
    exact ⟨hremembers.hit hagrees (mem_of_getFromCache hhit), hkept.extend request⟩
  · rename_i state' hmiss
    rw [hmiss] at hkept
    refine ⟨rfl, hkept.store ?_⟩
    exact saveToCache_entries env now _ _ _ _

/-- All calls of a history that starts from a remembered past. -/
theorem answersFrom_right {past : List MatrixRequest} {state : CacheState}
    (hremembers : RemembersRequests env past state) (history : List CacheCall)
    (hviews : (past ++ requestsOf history).Pairwise fun earlier later =>
      generatePlacesHash env earlier.places = generatePlacesHash env later.places →
        SameView env earlier later) :
    ∀ answered ∈ answersFrom env state history,
      answered.2.matrix = requestedMatrix env answered.1 := by
  induction history generalizing past state with
  | nil => simp [answersFrom]
  | cons call rest ih =>
      cases call with
      | get now request =>
          have hsplit : past ++ requestsOf (.get now request :: rest) =
              (past ++ [request]) ++ requestsOf rest := by
            simp [requestsOf]
          rw [hsplit] at hviews
          have hagrees : AgreesOn (fun request => generatePlacesHash env request.places)
              (requestedMatrix env) past request := fun earlier hearlier hkey =>
            SameView.requestedMatrix_eq ((List.pairwise_append.mp
              (List.pairwise_append.mp hviews).1).2.2 earlier hearlier request
                List.mem_cons_self hkey)
          obtain ⟨hright, hnext⟩ := getDistanceMatrix_remembers hremembers now hagrees
          exact List.forall_mem_cons.mpr ⟨hright, ih hnext hviews⟩
      | invalidate placesHash =>
          exact ih (hremembers.of_subset (invalidateCache_subset state placesHash)) hviews

/-- Only requests of the history are answered. -/
theorem answersFrom_requests (state : CacheState) (history : List CacheCall) :
    (answersFrom env state history).map Prod.fst = requestsOf history := by
  induction history generalizing state with
  | nil => rfl
  | cons call rest ih =>
      cases call with
      | get now request => simp [answersFrom, requestsOf, ih]
      | invalidate placesHash => simpa [answersFrom, requestsOf] using ih _

theorem freshMatrix_eq (request : MatrixRequest) :
    freshMatrix env request = requestedMatrix env request := rfl

end Env

/-- A history is answered freshly when its calls with the same hash ask for the
same coordinates in the same order from the same source, and the distances of
its parallel calls do not depend on the direction. -/
theorem getDistanceMatrix_fresh_of_sameViews (env : CacheEnv) (history : List CacheCall)
    (hviews : (requestsOf history).Pairwise fun earlier later =>
      generatePlacesHash env earlier.places = generatePlacesHash env later.places →
        SameView env earlier later)
    (hsymm : ∀ request ∈ requestsOf history, SymmetricIfParallel env request) :
    AnswersFresh env history := by
  intro answered hanswered
  have hempty : RemembersRequests env [] {} := remembers_nil
  have hright := answersFrom_right hempty history hviews answered hanswered
  have hmem : answered.1 ∈ requestsOf history :=
    answersFrom_requests {} history ▸ List.mem_map_of_mem hanswered
  rw [hright]
  exact ⟨(freshMatrix_eq answered.1).symm,
    requestedMatrix_hasDistances (hsymm answered.1 hmem)⟩

/-! ## Three places on the equator -/

/-- A cache on the equator that hashes places by their names and longitudes. -/
def CacheEnv.equatorial : CacheEnv where
  md5 := fun places =>
    "|".intercalate (places.map fun place => place.name ++ "@" ++ toString place.lon)
  geodesicDistance := fun origin destination =>
    111319490793 / 10 ^ 9 * |destination.lon - origin.lon|
  osrmDistance := fun _ _ => none

/-- A call for places without a name. -/
def unnamedCall (now : ℚ) (locations : List Location) : CacheCall :=
  .get now { places := locations.map fun location => { location := location } }

/-- The second call for the same places in the same order is a hit. -/
theorem getDistanceMatrix_fresh_again :
    AnswersFresh .equatorial
      [unnamedCall 0 [.onEquator 0, .onEquator 1, .onEquator 3],
        unnamedCall 60 [.onEquator 0, .onEquator 1, .onEquator 3]] := by
  refine getDistanceMatrix_fresh_of_sameViews .equatorial _ ?_ ?_
  · exact List.pairwise_pair.mpr fun _ => ⟨rfl, rfl⟩
  · intro request hrequest hparallel
    have hrequests : requestsOf
        [unnamedCall 0 [.onEquator 0, .onEquator 1, .onEquator 3],
          unnamedCall 60 [.onEquator 0, .onEquator 1, .onEquator 3]] =
        List.replicate 2
          { places := [.onEquator 0, .onEquator 1, .onEquator 3].map fun location =>
              { location := location } } := rfl
    rw [hrequests] at hrequest
    rw [List.eq_of_mem_replicate hrequest] at hparallel
    exact absurd hparallel (by decide +kernel)

/-- The same places in another order get the matrix of the first order. -/
theorem getDistanceMatrix_permuted_stale :
    ¬ AnswersFresh .equatorial
      [unnamedCall 0 [.onEquator 0, .onEquator 1, .onEquator 3],
        unnamedCall 60 [.onEquator 1, .onEquator 0, .onEquator 3]] := by
  intro hfresh
  have hmatrices : ∀ answered ∈ answersFrom .equatorial {}
      [unnamedCall 0 [.onEquator 0, .onEquator 1, .onEquator 3],
        unnamedCall 60 [.onEquator 1, .onEquator 0, .onEquator 3]],
      answered.2.matrix = freshMatrix .equatorial answered.1 :=
    fun answered hanswered => (hfresh answered hanswered).1
  exact absurd hmatrices (by decide +kernel)

end Goveling.Ortools
