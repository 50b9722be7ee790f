/-
# The two ways of asking OSRM for a matrix

The sequential calculation asks for every ordered pair of places, the parallel
one for the pairs above the diagonal, and writes each answer at both of its
entries. A request that fails is answered by the geodesic distance in both;
where that raises as well, the sequential calculation is over and the parallel
one goes on to the next result, with the initial zero left in the matrix. The
two matrices agree exactly when no pair of places is without an answer and no
answer depends on the direction.
-/

import Goveling.Ortools.DistanceCache

namespace Goveling.Ortools

open Goveling.Optimizer Goveling.Python

/-! ## Requests -/

/-- What a call of `get_distance_km` does. -/
inductive OsrmReply
  | raises (error : PyError)
  | returnsNone
  | returns (distanceKm : ℚ)

/-- The services behind a matrix. The reply of OSRM may depend on the direction, and on
the indices of the request: any pattern of requests can fail. -/
structure OsrmEnv where
  getDistanceKm : ℕ → ℕ → Location → Location → OsrmReply
  geodesicKm : Location → Location → Except PyError ℚ
  hasOsrm : Bool := true

/-- A place with its index, as `enumerate` gives it. -/
abbrev IndexedPlace := MatrixPlace × ℕ

/-- `_get_osrm_distance`. -/
def getOsrmDistance (env : OsrmEnv) (origin destination : IndexedPlace) : Except PyError ℚ :=
  if env.hasOsrm then
    match env.getDistanceKm origin.2 destination.2 origin.1.location destination.1.location with
    | .raises error => .error error
    | .returnsNone => .error (.exception "OSRM returned invalid distance: None")
    | .returns distance =>
        if 0 < distance then .ok distance
        else .error (.exception "OSRM returned invalid distance")
  else .error (.exception "OSRM service not available")

/-- The distance both calculations take for a pair: the geodesic one where OSRM fails. -/
def osrmDistanceOrGeodesic (env : OsrmEnv) (origin destination : IndexedPlace) :
    Except PyError ℚ :=
  match getOsrmDistance env origin destination with
  | .ok distance => .ok distance
  | .error _ => env.geodesicKm origin.1.location destination.1.location

/-! ## The two calculations -/

/-- `_calculate_osrm_sequential`. -/
def calculateOsrmSequential (env : OsrmEnv) (places : List MatrixPlace) :
    Except PyError Matrix :=
  places.zipIdx.mapM fun origin => places.zipIdx.mapM fun destination =>
    if origin.2 = destination.2 then .ok 0 else osrmDistanceOrGeodesic env origin destination

/-- `_get_osrm_distance_with_indices`. -/
def getOsrmDistanceWithIndices (env : OsrmEnv) (origin destination : IndexedPlace) :
    Except PyError PairResult :=
  (osrmDistanceOrGeodesic env origin destination).map fun distance =>
    { distance := distance, i := origin.2, j := destination.2 }

/-- The results that `asyncio.gather` collects for the upper triangle, exceptions included. -/
def gatheredResults (env : OsrmEnv) (places : List MatrixPlace) :
    List (Except PyError PairResult) :=
  places.zipIdx.flatMap fun origin => places.zipIdx.filterMap fun destination =>
    if origin.2 < destination.2 then some (getOsrmDistanceWithIndices env origin destination)
    else none

/-- `_calculate_osrm_parallel`: a result that is an exception is passed over. -/
def calculateOsrmParallel (env : OsrmEnv) (places : List MatrixPlace) : Matrix :=
  let results := (gatheredResults env places).filterMap Except.toOption
  let entry := results.foldl writeResult fun _ _ => 0
  (List.range places.length).map fun i => (List.range places.length).map fun j => entry i j

/-! ## What is asked of them -/

/-- A zero off the diagonal is a geodesic distance that was measured as zero: OSRM only
gives positive distances, and a request that failed does not leave the initial zero. -/
def ZeroesAreMeasured (env : OsrmEnv) (places : List MatrixPlace) (matrix : Matrix) : Prop :=
  ∀ i j p q, places[i]? = some p → places[j]? = some q → i ≠ j → entryAt matrix i j = some 0 →
    env.geodesicKm p.location q.location = .ok 0 ∨ env.geodesicKm q.location p.location = .ok 0

/-- Both calculations return one matrix, and no zero of it hides a failed request. -/
def CalculationsAgree (env : OsrmEnv) (places : List MatrixPlace) : Prop :=
  ∃ matrix, calculateOsrmSequential env places = .ok matrix ∧
    calculateOsrmParallel env places = matrix ∧ ZeroesAreMeasured env places matrix

/-- Every pair of places gets an answer, the same one in both directions. -/
def AnsweredBothWays (env : OsrmEnv) (places : List MatrixPlace) : Prop :=
  ∀ i j p q, places[i]? = some p → places[j]? = some q → i < j →
    ∃ distance, osrmDistanceOrGeodesic env (p, i) (q, j) = .ok distance ∧
      osrmDistanceOrGeodesic env (q, j) (p, i) = .ok distance

/-! ## The entries of the parallel matrix -/

section Env

variable {env : OsrmEnv} {places : List MatrixPlace}

theorem mem_gatheredResults {result : Except PyError PairResult} :
    result ∈ gatheredResults env places ↔
      ∃ p i q j, places[i]? = some p ∧ places[j]? = some q ∧ i < j ∧
        getOsrmDistanceWithIndices env (p, i) (q, j) = result := by
  simp only [gatheredResults, List.mem_flatMap, List.mem_filterMap, Prod.exists,
    List.mem_zipIdx_iff_getElem?, Option.ite_none_right_eq_some, Option.some.injEq]
  constructor
  · rintro ⟨p, i, hp, q, j, hq, hlt, hresult⟩
    exact ⟨p, i, q, j, hp, hq, hlt, hresult⟩
  · rintro ⟨p, i, q, j, hp, hq, hlt, hresult⟩
    exact ⟨p, i, hp, q, j, hq, hlt, hresult⟩

/-- The results that are written: the answered pairs above the diagonal. -/
theorem mem_writtenResults {result : PairResult} :
    result ∈ (gatheredResults env places).filterMap Except.toOption ↔
      ∃ p q, places[result.i]? = some p ∧ places[result.j]? = some q ∧ result.i < result.j ∧
        osrmDistanceOrGeodesic env (p, result.i) (q, result.j) = .ok result.distance := by
  rw [List.mem_filterMap]
  constructor
  · rintro ⟨gathered, hgathered, hwritten⟩
    obtain ⟨p, i, q, j, hp, hq, hlt, rfl⟩ := mem_gatheredResults.mp hgathered
    obtain ⟨distance, hdistance, rfl⟩ := exists_of_map_eq_ok (eq_ok_of_toOption hwritten)
    exact ⟨p, q, hp, hq, hlt, hdistance⟩
  · rintro ⟨p, q, hp, hq, hlt, hdistance⟩
    refine ⟨_, mem_gatheredResults.mpr ⟨p, _, q, _, hp, hq, hlt, rfl⟩, ?_⟩
    rw [getOsrmDistanceWithIndices, hdistance]
    rfl

/-- The matrix before it is laid out in rows. -/
def writtenEntries (env : OsrmEnv) (places : List MatrixPlace) : ℕ → ℕ → ℚ :=
  ((gatheredResults env places).filterMap Except.toOption).foldl writeResult fun _ _ => 0

/-- The answer for a pair above the diagonal stands at both of its entries, and the
initial zero where there is none. -/
theorem writtenEntries_of_lt {i j : ℕ} {p q : MatrixPlace} (hp : places[i]? = some p)
    (hq : places[j]? = some q) (hlt : i < j) {a b : ℕ} (hab : a = i ∧ b = j ∨ a = j ∧ b = i) :
    writtenEntries env places a b =
      (osrmDistanceOrGeodesic env (p, i) (q, j)).toOption.getD 0 := by
  apply foldl_writeResult
  · intro result hresult hpos
    obtain ⟨p', q', hp', hq', hlt', hdistance⟩ := mem_writtenResults.mp hresult
    have hpair : result.i = i ∧ result.j = j := by omega
    obtain ⟨rfl, rfl⟩ := hpair
    cases hp.symm.trans hp'
    cases hq.symm.trans hq'
    rw [hdistance]
    rfl
  · cases hanswer : osrmDistanceOrGeodesic env (p, i) (q, j) with
    | error error => exact .inl rfl
    | ok distance =>
        refine .inr ⟨⟨distance, i, j⟩, mem_writtenResults.mpr ⟨p, q, hp, hq, hlt, hanswer⟩, ?_⟩
        exact hab.symm

theorem writtenEntries_self (i : ℕ) : writtenEntries env places i i = 0 := by
  apply foldl_writeResult
  · intro result hresult hpos
    obtain ⟨p, q, -, -, hlt, -⟩ := mem_writtenResults.mp hresult
    omega
  · exact .inl rfl

/-! ## The sequential matrix -/

/-- The sequential calculation returns the parallel matrix when each of its requests is
answered by the entry of that matrix. -/
theorem calculateOsrmSequential_eq_ok_iff :
    calculateOsrmSequential env places = .ok (calculateOsrmParallel env places) ↔
      ∀ i p, places[i]? = some p → ∀ j q, places[j]? = some q →
        (if i = j then Except.ok 0 else osrmDistanceOrGeodesic env (p, i) (q, j)) =
          .ok (writtenEntries env places i j) := by
  rw [calculateOsrmSequential, calculateOsrmParallel, mapM_zipIdx_eq_ok_iff]
  apply forall₃_congr
  intro i p hp
  exact mapM_zipIdx_eq_ok_iff places

theorem entryAt_calculateOsrmParallel {i j : ℕ} {p q : MatrixPlace}
    (hp : places[i]? = some p) (hq : places[j]? = some q) :
    entryAt (calculateOsrmParallel env places) i j = some (writtenEntries env places i j) := by
  have hi : i < places.length := (List.getElem?_eq_some_iff.mp hp).choose
  have hj : j < places.length := (List.getElem?_eq_some_iff.mp hq).choose
  simp [entryAt, calculateOsrmParallel, writtenEntries, hi, hj]

/-- OSRM is never the source of a zero. -/
theorem geodesicKm_of_zero {origin destination : IndexedPlace}
    (hzero : osrmDistanceOrGeodesic env origin destination = .ok 0) :
    env.geodesicKm origin.1.location destination.1.location = .ok 0 := by
  have hpositive : ∀ distance, getOsrmDistance env origin destination = .ok distance →
      0 < distance := by
    intro distance hdistance
    unfold getOsrmDistance at hdistance
    split at hdistance
    · split at hdistance
      · cases hdistance
      · cases hdistance
      · split at hdistance
        · rename_i hpos
          cases hdistance
          exact hpos
        · cases hdistance
    · cases hdistance
  unfold osrmDistanceOrGeodesic at hzero
  split at hzero
  · rename_i distance hdistance
    cases hzero
    exact absurd (hpositive 0 hdistance) (lt_irrefl 0)
  · exact hzero

/-! ## When the two agree -/

theorem answeredBothWays_of_sequential
    (hsequential : calculateOsrmSequential env places = .ok (calculateOsrmParallel env places)) :
    AnsweredBothWays env places := by
  rw [calculateOsrmSequential_eq_ok_iff] at hsequential
  intro i j p q hp hq hlt
  have hupper := hsequential i p hp j q hq
  have hlower := hsequential j q hq i p hp
  rw [if_neg hlt.ne] at hupper
  rw [if_neg hlt.ne'] at hlower
  have hmirror : writtenEntries env places j i = writtenEntries env places i j := by
    rw [writtenEntries_of_lt hp hq hlt (.inl ⟨rfl, rfl⟩),
      writtenEntries_of_lt hp hq hlt (.inr ⟨rfl, rfl⟩)]
  exact ⟨_, hupper, hmirror ▸ hlower⟩

theorem AnsweredBothWays.sequential_eq (hanswered : AnsweredBothWays env places) :
    calculateOsrmSequential env places = .ok (calculateOsrmParallel env places) := by
  rw [calculateOsrmSequential_eq_ok_iff]
  intro i p hp j q hq
  rcases Nat.lt_trichotomy i j with hlt | rfl | hgt
  · obtain ⟨distance, hforth, -⟩ := hanswered i j p q hp hq hlt
    rw [if_neg hlt.ne, writtenEntries_of_lt hp hq hlt (.inl ⟨rfl, rfl⟩), hforth]
    rfl
  · rw [if_pos rfl, writtenEntries_self]
  · obtain ⟨distance, hforth, hback⟩ := hanswered j i q p hq hp hgt
    rw [if_neg hgt.ne', writtenEntries_of_lt hq hp hgt (.inr ⟨rfl, rfl⟩), hforth, hback]
    rfl

theorem AnsweredBothWays.zeroesAreMeasured (hanswered : AnsweredBothWays env places) :
    ZeroesAreMeasured env places (calculateOsrmParallel env places) := by
  intro i j p q hp hq hne hzero
  rw [entryAt_calculateOsrmParallel hp hq, Option.some.injEq] at hzero
  have hturn := calculateOsrmSequential_eq_ok_iff.mp hanswered.sequential_eq i p hp j q hq
  rw [if_neg hne, hzero] at hturn
  exact .inl (geodesicKm_of_zero hturn)

end Env

/-- The parallel and the sequential calculation give the same matrix, with no zero for a
failed request, exactly when every pair is answered and the answer is the same both ways. -/
theorem calculationsAgree_iff (env : OsrmEnv) (places : List MatrixPlace) :
    CalculationsAgree env places ↔ AnsweredBothWays env places := by
  constructor
  · rintro ⟨matrix, hsequential, rfl, -⟩
    exact answeredBothWays_of_sequential hsequential
  · intro hanswered
    exact ⟨_, hanswered.sequential_eq, rfl, hanswered.zeroesAreMeasured⟩

/-! ## A street with one direction -/

/-- Going east is free of detours, going west takes twice as long; nothing fails. -/
def OsrmEnv.oneWay : OsrmEnv where
  getDistanceKm := fun _ _ origin destination =>
    if origin.lon ≤ destination.lon then .returns (destination.lon - origin.lon)
    else .returns (2 * (origin.lon - destination.lon))
  geodesicKm := fun origin destination => .ok |destination.lon - origin.lon|

/-- Two places on a street that is longer in one direction. -/
theorem calculationsAgree_oneWay_false :
    ¬ CalculationsAgree .oneWay
      [{ location := .onEquator 0 }, { location := .onEquator 1 }] := by
  rintro ⟨matrix, hsequential, hparallel, -⟩
  rw [← hparallel] at hsequential
  have hanswered := answeredBothWays_of_sequential hsequential 0 1 _ _ rfl rfl Nat.zero_lt_one
  obtain ⟨distance, hforth, hback⟩ := hanswered
  have hsame : osrmDistanceOrGeodesic .oneWay
      ({ location := .onEquator 0 }, 0) ({ location := .onEquator 1 }, 1) =
        osrmDistanceOrGeodesic .oneWay
          ({ location := .onEquator 1 }, 1) ({ location := .onEquator 0 }, 0) :=
    hforth.trans hback.symm
  exact absurd hsame (by decide +kernel)

end Goveling.Ortools
