/-
# How many matrices the cache holds

A cache is used by calls that look up and store, by calls whose computation
raises after the lookup, by invalidations and by clean-ups, while its entries
expire in between. Room is made before a matrix is stored, so the bound on the
entries holds whatever the order of the steps. The size in the statistics is
written next to every change but one: deleting the entry of one hash leaves it
as it was.
-/

import Goveling.Math.Runs
import Goveling.Ortools.DistanceCache

namespace Goveling.Ortools

open Goveling.Math Goveling.Python

/-! ## Steps -/

/-- A step of a cache: one of its calls, a call of `get_distance_matrix` whose computation
raises, or `_cleanup_cache` by itself. -/
inductive CacheStep
  | call (call : CacheCall)
  | failingGet (now : ℚ) (request : MatrixRequest)
  | cleanup (now : ℚ)

/-- `get_distance_matrix` up to an exception of `_calculate_distance_matrix`, which only a miss
comes to. -/
def failingGetDistanceMatrix (env : CacheEnv) (now : ℚ) (state : CacheState)
    (request : MatrixRequest) : CacheState :=
  match getFromCache now state (generatePlacesHash env request.places) with
  | (some _, state) => { state with stats := { state.stats with hits := state.stats.hits + 1 } }
  | (none, state) => { state with stats := { state.stats with misses := state.stats.misses + 1 } }

/-- The state a step leaves. -/
def cacheStep (env : CacheEnv) (state : CacheState) : CacheStep → CacheState
  | .call (.get now request) => (getDistanceMatrix env now state request).2
  | .call (.invalidate placesHash) => invalidateCache state placesHash
  | .failingGet now request => failingGetDistanceMatrix env now state request
  | .cleanup now => cleanupCache env now state

/-- The `cache_size` of `get_cache_stats`. -/
def CacheState.reportedSize (state : CacheState) : ℕ := state.stats.cacheSize

/-- The entries fit, and the reported size is their number. -/
structure SizeKept (env : CacheEnv) (state : CacheState) : Prop where
  bounded : state.cache.size ≤ env.maxCacheSize
  reported : state.reportedSize = state.cache.size

/-- The step invalidates one hash, and the cache has an entry for it. -/
def DeletesOne (moment : CacheState × CacheStep) : Prop :=
  ∃ placesHash, moment.2 = .call (.invalidate (some placesHash)) ∧ placesHash ≠ "" ∧
    placesHash ∈ moment.1.cache.keys

section Env

variable {env : CacheEnv}

/-! ## What a call does -/

/-- A call whose computation raises has looked up and counted. -/
theorem failingGetDistanceMatrix_lookup (now : ℚ) (state : CacheState) (request : MatrixRequest) :
    let looked := (getFromCache now state (generatePlacesHash env request.places)).2
    (failingGetDistanceMatrix env now state request).cache = looked.cache ∧
      (failingGetDistanceMatrix env now state request).reportedSize = looked.reportedSize := by
  unfold failingGetDistanceMatrix
  dsimp only
  split
  · rename_i hhit
    rw [hhit]
    exact ⟨rfl, rfl⟩
  · rename_i hmiss
    rw [hmiss]
    exact ⟨rfl, rfl⟩

/-- A call has looked up and counted, or it has saved a matrix after that. -/
theorem getDistanceMatrix_cases (now : ℚ) (state : CacheState) (request : MatrixRequest) :
    let looked := (getFromCache now state (generatePlacesHash env request.places)).2
    ((getDistanceMatrix env now state request).2.cache = looked.cache ∧
        (getDistanceMatrix env now state request).2.reportedSize = looked.reportedSize) ∨
      ∃ missed placesHash matrix source, missed.cache = looked.cache ∧
        (getDistanceMatrix env now state request).2 =
          saveToCache env now missed placesHash matrix source := by
  unfold getDistanceMatrix
  dsimp only
  split
  · rename_i hhit
    rw [hhit]
    exact .inl ⟨rfl, rfl⟩
  · rename_i hmiss
    rw [hmiss]
    refine .inr ⟨_, _, _, _, ?_, rfl⟩
    rfl

/-! ## The bound -/

theorem size_getFromCache_le (now : ℚ) (state : CacheState) (placesHash : String) :
    (getFromCache now state placesHash).2.cache.size ≤ state.cache.size := by
  unfold getFromCache
  split
  · exact le_rfl
  · split
    · exact state.cache.size_filter_le _
    · exact le_rfl

/-- Deleting the oldest entries of a dictionary with entries deletes one at least. -/
theorem exists_oldest {entries : List (String × CachedDistanceMatrix)} (hentries : entries ≠ [])
    (n : ℕ) :
    ∃ entry ∈ entries,
      entry.1 ∈ ((sortedBy (fun entry => entry.2.timestamp) entries).take (max 1 n)).map
        Prod.fst := by
  have hperm := sortedBy_perm (fun entry => entry.2.timestamp) entries
  cases hsorted : sortedBy (fun entry => entry.2.timestamp) entries with
  | nil =>
      rw [hsorted] at hperm
      exact absurd hperm.nil_eq.symm hentries
  | cons first rest =>
      rw [hsorted] at hperm
      refine ⟨first, hperm.subset List.mem_cons_self, List.mem_map_of_mem ?_⟩
      exact List.mem_take_iff_getElem.mpr ⟨0, by simp, rfl⟩

/-- A clean-up makes room for an entry. -/
theorem size_cleanupCache_lt (hmax : 0 < env.maxCacheSize) (now : ℚ) {state : CacheState}
    (hbounded : state.cache.size ≤ env.maxCacheSize) :
    (cleanupCache env now state).cache.size < env.maxCacheSize := by
  have hunexpired := (state.cache.size_filter_le fun entry => !entry.2.isExpired now).trans hbounded
  unfold cleanupCache
  dsimp only
  split
  · rename_i hfull
    refine lt_of_lt_of_le ?_ hunexpired
    have hentries : (state.cache.filter fun entry => !entry.2.isExpired now).entries ≠ [] := by
      intro hempty
      have hzero : (state.cache.filter fun entry => !entry.2.isExpired now).size = 0 :=
        congrArg List.length hempty
      omega
    obtain ⟨entry, hmem, holdest⟩ := exists_oldest hentries _
    exact OrderedMap.size_filter_lt hmem (by simpa using holdest)
  · rename_i hroom
    exact Nat.lt_of_not_le hroom

theorem size_saveToCache_le (hmax : 0 < env.maxCacheSize) (now : ℚ) {state : CacheState}
    (hbounded : state.cache.size ≤ env.maxCacheSize) (placesHash : String) (matrix : Matrix)
    (source : MatrixSource) :
    (saveToCache env now state placesHash matrix source).cache.size ≤ env.maxCacheSize := by
  have hroom : (if env.maxCacheSize ≤ state.cache.size then cleanupCache env now state
      else state).cache.size < env.maxCacheSize := by
    split
    · exact size_cleanupCache_lt hmax now hbounded
    · rename_i hnotFull
      exact Nat.lt_of_not_le hnotFull
  exact (OrderedMap.size_set_le _ placesHash _).trans hroom

/-- No step leaves more entries than fit. -/
theorem size_cacheStep_le (hmax : 0 < env.maxCacheSize) (state : CacheState) (step : CacheStep)
    (hbounded : state.cache.size ≤ env.maxCacheSize) :
    (cacheStep env state step).cache.size ≤ env.maxCacheSize := by
  cases step with
  | call call =>
      cases call with
      | get now request =>
          have hlookup := (size_getFromCache_le now state
            (generatePlacesHash env request.places)).trans hbounded
          obtain ⟨hcache, -⟩ | ⟨missed, placesHash, matrix, source, hcache, hsaved⟩ :=
            getDistanceMatrix_cases now state request
          · rw [cacheStep, hcache]
            exact hlookup
          · rw [cacheStep, hsaved]
            rw [← hcache] at hlookup
            exact size_saveToCache_le hmax now hlookup placesHash matrix source
      | invalidate placesHash =>
          unfold cacheStep invalidateCache
          dsimp only
          split
          · split
            · exact Nat.zero_le _
            · exact (state.cache.size_filter_le _).trans hbounded
          · exact Nat.zero_le _
  | failingGet now request =>
      rw [cacheStep, (failingGetDistanceMatrix_lookup now state request).1]
      exact (size_getFromCache_le now state _).trans hbounded
  | cleanup now => exact (size_cleanupCache_lt hmax now hbounded).le

/-! ## The reported size -/

theorem reportedSize_getFromCache (now : ℚ) {state : CacheState} (placesHash : String)
    (hreported : state.reportedSize = state.cache.size) :
    (getFromCache now state placesHash).2.reportedSize =
      (getFromCache now state placesHash).2.cache.size := by
  unfold getFromCache
  split
  · exact hreported
  · split
    · rfl
    · exact hreported

/-- Deleting a key changes the number of entries if there is one for it. -/
theorem size_erase_eq_iff (cache : OrderedMap String CachedDistanceMatrix) (placesHash : String) :
    cache.size = (cache.erase placesHash).size ↔ placesHash ∉ cache.keys := by
  constructor
  · rintro hsame hkey
    obtain ⟨entry, hmem, rfl⟩ := List.mem_map.mp hkey
    have hless : (cache.erase entry.1).size < cache.size :=
      OrderedMap.size_filter_lt hmem (by simp)
    exact hless.ne' hsame
  · intro hkey
    refine (List.length_filter_eq_length_iff.mpr fun entry hmem => ?_).symm
    have hne : entry.1 ≠ placesHash := fun heq => hkey (heq ▸ List.mem_map_of_mem hmem)
    simpa using hne

/-- A step keeps the reported size right exactly when it does not delete one entry by its hash. -/
theorem reportedSize_cacheStep_iff {state : CacheState} (step : CacheStep)
    (hreported : state.reportedSize = state.cache.size) :
    (cacheStep env state step).reportedSize = (cacheStep env state step).cache.size ↔
      ¬DeletesOne (state, step) := by
  cases step with
  | call call =>
      cases call with
      | get now request =>
          refine iff_of_true ?_ (by simp [DeletesOne])
          obtain ⟨hcache, hsize⟩ | ⟨missed, placesHash, matrix, source, -, hsaved⟩ :=
            getDistanceMatrix_cases now state request
          · rw [cacheStep, hcache, hsize]
            exact reportedSize_getFromCache now _ hreported
          · rw [cacheStep, hsaved]
            rfl
      | invalidate placesHash =>
          cases placesHash with
          | none => exact iff_of_true rfl (by simp [DeletesOne])
          | some placesHash =>
              by_cases hempty : placesHash = ""
              · refine iff_of_true ?_ (by simp [DeletesOne, hempty])
                simp [cacheStep, invalidateCache, hempty, CacheState.reportedSize,
                  OrderedMap.size, OrderedMap.empty]
              · have hdeletes : DeletesOne (state, .call (.invalidate (some placesHash))) ↔
                    placesHash ∈ state.cache.keys := by
                  simp [DeletesOne, hempty]
                have hstep : cacheStep env state (.call (.invalidate (some placesHash))) =
                    { state with cache := state.cache.erase placesHash } :=
                  if_neg hempty
                rw [hdeletes, hstep, ← size_erase_eq_iff, ← hreported]
                exact Iff.rfl
  | failingGet now request =>
      refine iff_of_true ?_ (by simp [DeletesOne])
      obtain ⟨hcache, hsize⟩ := failingGetDistanceMatrix_lookup now state request
      rw [cacheStep, hcache, hsize]
      exact reportedSize_getFromCache now _ hreported
  | cleanup now => exact iff_of_true rfl (by simp [DeletesOne])

/-- After every sequence of steps the entries fit; the reported size is their number after every
step of a sequence exactly when no step of it deletes one entry by its hash. -/
theorem sizeKept_iff_of_maxCacheSize_pos (hmax : 0 < env.maxCacheSize) (steps : List CacheStep) :
    (runEnd (cacheStep env) {} steps).cache.size ≤ env.maxCacheSize ∧
      ((∀ before, before <+: steps → SizeKept env (runEnd (cacheStep env) {} before)) ↔
        ∀ moment ∈ moments (cacheStep env) {} steps, ¬DeletesOne moment) := by
  have hbounded : ∀ before, (runEnd (cacheStep env) {} before).cache.size ≤ env.maxCacheSize :=
    runEnd_invariant (size_cacheStep_le hmax) (Nat.zero_le _)
  refine ⟨hbounded steps, ?_⟩
  rw [← holds_prefixes_iff (fun _ => True) (fun state => state.reportedSize = state.cache.size)
    (fun _ _ _ => trivial)
    (fun state step _ hreported => reportedSize_cacheStep_iff step hreported) trivial rfl steps]
  exact forall_congr' fun before => imp_congr_right fun _ =>
    ⟨SizeKept.reported, fun hreported => ⟨hbounded before, hreported⟩⟩

end Env

/-! ## Invalidating an entry -/

/-- The places of a call are stored, then their hash is invalidated. -/
def storedThenInvalidated : List CacheStep :=
  [.call (unnamedCall 0 [.onEquator 0, .onEquator 1]),
    .call (.invalidate (some (generatePlacesHash .equatorial
      [{ location := .onEquator 0 }, { location := .onEquator 1 }])))]

/-- Storing and cleaning up keep the entries within the bound and the reported size right. -/
theorem sizeKept_of_cleanup :
    (runEnd (cacheStep .equatorial) {}
        [.call (unnamedCall 0 [.onEquator 0]), .cleanup 4000]).cache.size ≤
        CacheEnv.equatorial.maxCacheSize ∧
      ∀ before, before <+: [.call (unnamedCall 0 [.onEquator 0]), .cleanup 4000] →
        SizeKept .equatorial (runEnd (cacheStep .equatorial) {} before) := by
  have hpos : 0 < CacheEnv.equatorial.maxCacheSize := by decide
  obtain ⟨hbounded, hkept⟩ := sizeKept_iff_of_maxCacheSize_pos hpos
    [.call (unnamedCall 0 [.onEquator 0]), .cleanup 4000]
  refine ⟨hbounded, hkept.mpr ?_⟩
  simp [DeletesOne, unnamedCall]

/-- One is reported for a cache that has become empty. -/
theorem not_sizeKept_storedThenInvalidated :
    ¬SizeKept .equatorial (runEnd (cacheStep .equatorial) {} storedThenInvalidated) := by
  intro hkept
  exact absurd hkept.reported (by decide +kernel)

end Goveling.Ortools
