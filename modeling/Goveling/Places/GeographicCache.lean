/-
# The geographic cache of places

Places found around a point are kept in memory and serve later searches nearby. An
entry serves a search whose point lies in its disc and that asks for one of its
types at least, so a search may reach beyond what the entry was filled with. Its
result never has a place too many; what may be missing lies outside the disc of the
entry or is of none of its types.
-/

import Goveling.Math.OrderedMap
import Goveling.Math.Runs
import Goveling.Python.Text
import Goveling.Python.Value
import Mathlib.Data.List.ReduceOption
import Mathlib.Data.String.Basic

namespace Goveling.Places

open Goveling.Math Goveling.Python

/-- The types of a search that names none. -/
def defaultPlaceTypes : List String := ["tourist_attraction", "restaurant", "point_of_interest"]

/-- A search for places of some types within some metres of a point. -/
structure PlaceSearch where
  lat : ℚ
  lon : ℚ
  radius : ℚ
  placeTypes : List String := defaultPlaceTypes

/-- `CacheEntry`. -/
structure CacheEntry where
  data : List PyDict
  createdAt : ℚ
  lastAccessed : ℚ
  accessCount : ℕ
  location : ℚ × ℚ
  radius : ℚ
  placeTypes : List String
  ttl : ℚ

/-- The search that an entry was filled by. -/
def CacheEntry.search (entry : CacheEntry) : PlaceSearch where
  lat := entry.location.1
  lon := entry.location.2
  radius := entry.radius
  placeTypes := entry.placeTypes

/-- What is fixed for a cache: distances in metres, the sixteen digits that stand for a
search, and the hours that an entry lives if its types do not say. -/
structure GeoEnv where
  haversineDistance : ℚ → ℚ → ℚ → ℚ → ℚ
  searchDigest : ℚ → ℚ → ℚ → List String → String
  defaultTtlHours : ℕ := 24

/-- `self.memory_cache`. -/
abbrev MemoryCache := OrderedMap String CacheEntry

section Cache

variable (env : GeoEnv)

/-- `self.ttl_by_type`. -/
def ttlByType : List (String × ℚ) :=
  [("tourist_attraction", 7 * 24 * 3600), ("museum", 7 * 24 * 3600), ("park", 5 * 24 * 3600),
    ("monument", 14 * 24 * 3600), ("church", 14 * 24 * 3600), ("restaurant", 2 * 24 * 3600),
    ("cafe", 2 * 24 * 3600), ("bar", 24 * 3600), ("lodging", 3 * 24 * 3600),
    ("shopping_mall", 5 * 24 * 3600), ("point_of_interest", 3 * 24 * 3600)]

/-- `self.default_ttl`. -/
def defaultTtl : ℚ := env.defaultTtlHours * 3600

/-- `_calculate_ttl`. -/
def calculateTtl (placeTypes : List String) : ℚ :=
  let ttlOf (placeType : String) := (ttlByType.lookup placeType).getD (defaultTtl env)
  match placeTypes with
  | [] => defaultTtl env
  | first :: rest => rest.foldl (fun ttl placeType => min ttl (ttlOf placeType)) (ttlOf first)

/-- `_generate_cache_key`. -/
def generateCacheKey (search : PlaceSearch) : String :=
  let rounded (q : ℚ) : ℚ := roundHalfEven (q * 1000) / 1000
  env.searchDigest (rounded search.lat) (rounded search.lon) search.radius
    (sortedBy id (search.placeTypes.map fun placeType => stripText (lowerText placeType)))

/-- `_is_within_radius`. -/
def isWithinRadius (centerLat centerLon cacheLat cacheLon searchRadius cacheRadius : ℚ) : Bool :=
  let distance := env.haversineDistance centerLat centerLon cacheLat cacheLon
  distance ≤ min cacheRadius (searchRadius + distance)

/-- `text.lower()` for a value of any type. -/
def lowered : PyVal → Except PyError String
  | .str text => .ok (lowerText text)
  | other => .error (.attributeError ("'" ++ other.typeName ++ "' object has no attribute 'lower'"))

/-- The copy of a place that a search gets. -/
def hitCopy (distance : ℚ) (place : PyDict) : PyDict :=
  PyDict.set (PyDict.set place "distance_m" (.float distance)) "cache_hit" (.bool true)

/-- The distance of a place from the point of a search. -/
def PlaceSearch.distanceTo (search : PlaceSearch) (place : PyDict) : Except PyError ℚ := do
  let placeLat ← (PyDict.get place "lat" (.int 0)).real
  let placeLon ← (PyDict.get place "lon" (.int 0)).real
  return env.haversineDistance search.lat search.lon placeLat placeLon

/-- One turn of `_filter_cached_results`: the copy of a place, if the search is for it. -/
def filterPlace (search : PlaceSearch) (place : PyDict) : Except PyError (Option PyDict) := do
  let distance ← search.distanceTo env place
  if search.radius < distance then return none
  let placeType ← lowered (PyDict.get place "type" (.str ""))
  if search.placeTypes ≠ [] ∧ placeType ∉ search.placeTypes.map lowerText then return none
  return some (hitCopy distance place)

/-- `x.get('distance_m', 0)`. -/
def hitDistance (place : PyDict) : ℚ := ((PyDict.get place "distance_m" (.int 0)).number?).getD 0

/-- `_filter_cached_results`. -/
def filterCachedResults (cachedData : List PyDict) (search : PlaceSearch) :
    Except PyError (List PyDict) := do
  let filtered ← cachedData.mapM (filterPlace env search)
  return sortedBy hitDistance filtered.reduceOption

/-- An entry serves a search at some time. -/
def servesSearch (now : ℚ) (search : PlaceSearch) (entry : CacheEntry) : Bool :=
  isWithinRadius env search.lat search.lon entry.location.1 entry.location.2 search.radius
      entry.radius &&
    search.placeTypes.any (fun placeType => placeType ∈ entry.placeTypes) &&
    !decide (entry.ttl < now - entry.createdAt)

/-- `get_cached_places`, and the cache after it. -/
def getCachedPlaces (cache : MemoryCache) (now : ℚ) (search : PlaceSearch) :
    Except PyError (Option (List PyDict)) × MemoryCache :=
  match cache.entries.find? fun entry => servesSearch env now search entry.2 with
  | none => (.ok none, cache)
  | some (cacheKey, entry) =>
      ((filterCachedResults env entry.data search).map some,
        cache.modify cacheKey fun entry =>
          { entry with lastAccessed := now, accessCount := entry.accessCount + 1 })

/-- `cache_places`. -/
def cachePlaces (cache : MemoryCache) (now : ℚ) (search : PlaceSearch)
    (placesData : List PyDict) : MemoryCache :=
  if placesData.isEmpty then cache
  else cache.set (generateCacheKey env search)
    { data := placesData
      createdAt := now
      lastAccessed := now
      accessCount := 1
      location := (search.lat, search.lon)
      radius := search.radius
      placeTypes := search.placeTypes
      ttl := calculateTtl env search.placeTypes }

/-- `clear_cache`. -/
def clearCache (cache : MemoryCache) (now : ℚ) : Option ℚ → MemoryCache
  | none => .empty
  | some olderThanHours =>
      cache.filter fun entry => !decide (olderThanHours * 3600 < now - entry.2.createdAt)

/-- The calls that a cache gets. -/
inductive CacheCall
  | store (now : ℚ) (search : PlaceSearch) (placesData : List PyDict)
  | query (now : ℚ) (search : PlaceSearch)
  | clear (now : ℚ) (olderThanHours : Option ℚ)

/-- The cache after a call. -/
def afterCall (cache : MemoryCache) : CacheCall → MemoryCache
  | .store now search placesData => cachePlaces env cache now search placesData
  | .query now search => (getCachedPlaces env cache now search).2
  | .clear now olderThanHours => clearCache cache now olderThanHours

end Cache

/-! ## What a search is for -/

variable {env : GeoEnv} {search : PlaceSearch} {place hit : PyDict} {distance now : ℚ}

namespace PlaceSearch

/-- A place lies within the radius of a search. -/
def Reaches (env : GeoEnv) (search : PlaceSearch) (place : PyDict) : Prop :=
  ∃ distance, search.distanceTo env place = .ok distance ∧ distance ≤ search.radius

/-- A place is of one of the types of a search, in capital or in small letters. -/
def Names (search : PlaceSearch) (place : PyDict) : Prop :=
  ∃ placeType, lowered (PyDict.get place "type" (.str "")) = .ok placeType ∧
    placeType ∈ search.placeTypes.map lowerText

/-- A search is for the places within its radius that are of one of its types. -/
def Wants (env : GeoEnv) (search : PlaceSearch) (place : PyDict) : Prop :=
  search.Reaches env place ∧ search.Names place

/-- Places hold all that a provider has for a search. -/
def HoldsAll (env : GeoEnv) (provider : List PyDict) (search : PlaceSearch)
    (data : List PyDict) : Prop :=
  ∀ place ∈ provider, search.Wants env place → place ∈ data

end PlaceSearch

theorem get_hitCopy {key : String} (hdistance : key ≠ "distance_m") (hhit : key ≠ "cache_hit")
    (distance : ℚ) (place : PyDict) (default : PyVal) :
    PyDict.get (hitCopy distance place) key default = PyDict.get place key default := by
  unfold PyDict.get hitCopy
  rw [PyDict.lookup_set_of_ne hhit, PyDict.lookup_set_of_ne hdistance]

@[simp]
theorem distanceTo_hitCopy :
    search.distanceTo env (hitCopy distance place) = search.distanceTo env place := by
  unfold PlaceSearch.distanceTo
  rw [get_hitCopy (by decide) (by decide), get_hitCopy (by decide) (by decide)]

/-- The copy of a place is wanted as the place is. -/
theorem wants_hitCopy : search.Wants env (hitCopy distance place) ↔ search.Wants env place := by
  unfold PlaceSearch.Wants PlaceSearch.Reaches PlaceSearch.Names
  rw [distanceTo_hitCopy, get_hitCopy (by decide) (by decide)]

@[simp]
theorem hitDistance_hitCopy : hitDistance (hitCopy distance place) = distance := by
  unfold hitDistance hitCopy PyDict.get
  rw [PyDict.lookup_set_of_ne (by decide), PyDict.lookup_set_self]
  rfl

/-- A search that names types keeps the places that it is for. -/
theorem filterPlace_eq_some_iff (htypes : search.placeTypes ≠ []) :
    filterPlace env search place = .ok (some hit) ↔
      search.Wants env place ∧
        ∃ distance, search.distanceTo env place = .ok distance ∧ hit = hitCopy distance place := by
  constructor
  · intro hkept
    obtain ⟨distance, hdistance, hkept⟩ := exists_of_bind_eq_ok hkept
    split at hkept
    · cases hkept
    · rename_i hnear
      obtain ⟨placeType, htype, hkept⟩ := exists_of_bind_eq_ok hkept
      split at hkept
      · cases hkept
      · rename_i hnamed
        cases hkept
        have hmem : placeType ∈ search.placeTypes.map lowerText :=
          by_contra fun hmissing => hnamed ⟨htypes, hmissing⟩
        exact ⟨⟨⟨distance, hdistance, not_lt.mp hnear⟩, placeType, htype, hmem⟩, distance,
          hdistance, rfl⟩
  · rintro ⟨⟨⟨distance, hdistance, hnear⟩, placeType, htype, hmem⟩, other, hother, rfl⟩
    cases hdistance.symm.trans hother
    unfold filterPlace
    rw [hdistance]
    simp only [bind, Except.bind]
    rw [if_neg (not_lt.mpr hnear), htype]
    dsimp only
    rw [if_neg fun hmissing => hmissing.2 hmem]
    rfl

/-- What is found in the data of an entry are the copies of the places a search is for. -/
theorem mem_filterCachedResults (htypes : search.placeTypes ≠ []) {data results : List PyDict}
    (hresults : filterCachedResults env data search = .ok results) :
    hit ∈ results ↔ ∃ place ∈ data, search.Wants env place ∧
      ∃ distance, search.distanceTo env place = .ok distance ∧ hit = hitCopy distance place := by
  obtain ⟨filtered, hfiltered, hsorted⟩ := exists_of_bind_eq_ok hresults
  cases hsorted
  rw [(sortedBy_perm _ _).mem_iff, List.reduceOption_mem_iff, mem_of_mapM_eq_ok hfiltered]
  exact exists_congr fun place => and_congr_right fun _ => filterPlace_eq_some_iff htypes

/-- A result comes from the first entry that serves the search. -/
theorem exists_find_of_getCachedPlaces {cache : MemoryCache} {results : List PyDict}
    (hresults : (getCachedPlaces env cache now search).1 = .ok (some results)) :
    ∃ found, (cache.entries.find? fun entry => servesSearch env now search entry.2) = some found ∧
      filterCachedResults env found.2.data search = .ok results := by
  unfold getCachedPlaces at hresults
  split at hresults
  · cases hresults
  · rename_i cacheKey entry hfound
    obtain ⟨filtered, hfiltered, hsome⟩ := exists_of_map_eq_ok hresults
    cases hsome
    exact ⟨(cacheKey, entry), hfound, hfiltered⟩

/-- A result comes from an entry that serves the search. -/
theorem exists_entry_of_getCachedPlaces {cache : MemoryCache} {results : List PyDict}
    (hresults : (getCachedPlaces env cache now search).1 = .ok (some results)) :
    ∃ entry ∈ cache.values, servesSearch env now search entry = true ∧
      filterCachedResults env entry.data search = .ok results := by
  obtain ⟨found, hfound, hfiltered⟩ := exists_find_of_getCachedPlaces hresults
  have hserves := List.find?_some hfound
  have hmem := List.mem_map_of_mem (f := Prod.snd) (List.mem_of_find?_eq_some hfound)
  exact ⟨found.2, hmem, hserves, hfiltered⟩

/-- An entry serves a search when the point of the search lies in its disc, a type of the
search is among its types, and it is not too old. -/
theorem servesSearch_iff {entry : CacheEntry} :
    servesSearch env now search entry = true ↔
      env.haversineDistance search.lat search.lon entry.search.lat entry.search.lon ≤
          entry.search.radius ∧
        0 ≤ search.radius ∧
        (∃ placeType ∈ search.placeTypes, placeType ∈ entry.search.placeTypes) ∧
        now - entry.createdAt ≤ entry.ttl := by
  unfold servesSearch isWithinRadius CacheEntry.search
  simp only [Bool.and_eq_true, decide_eq_true_eq, List.any_eq_true, Bool.not_eq_true',
    decide_eq_false_iff_not, not_lt, le_min_iff, le_add_iff_nonneg_left, and_assoc]

/-- A search that is served names a type. -/
theorem placeTypes_ne_nil_of_serves {entry : CacheEntry}
    (hserves : servesSearch env now search entry = true) : search.placeTypes ≠ [] := by
  obtain ⟨-, -, ⟨placeType, hnamed, -⟩, -⟩ := servesSearch_iff.mp hserves
  exact List.ne_nil_of_mem hnamed

/-! ## Caches that hold all of the provider's places -/

/-- Every entry holds all that the provider has for the search it was filled by. -/
def CacheHoldsAll (env : GeoEnv) (provider : List PyDict) (cache : MemoryCache) : Prop :=
  ∀ entry ∈ cache.values, entry.search.HoldsAll env provider entry.data

/-- A call stores all that the provider has for its search. -/
def CacheCall.HoldsAll (env : GeoEnv) (provider : List PyDict) : CacheCall → Prop
  | .store _ search placesData => search.HoldsAll env provider placesData
  | .query _ _ => True
  | .clear _ _ => True

variable {provider : List PyDict} {cache : MemoryCache}

/-- Storing adds at most the entry of its search. -/
theorem mem_values_cachePlaces {placesData : List PyDict} {entry : CacheEntry}
    (hentry : entry ∈ (cachePlaces env cache now search placesData).values) :
    entry ∈ cache.values ∨ entry.data = placesData ∧ entry.search = search ∧
      entry.createdAt = now ∧ entry.ttl = calculateTtl env search.placeTypes := by
  unfold cachePlaces at hentry
  split at hentry
  · exact .inl hentry
  · obtain ⟨pair, hpair, rfl⟩ := List.mem_map.mp hentry
    rcases OrderedMap.mem_setEntries hpair with rfl | hold
    · exact .inr ⟨rfl, rfl, rfl, rfl⟩
    · exact .inl (List.mem_map_of_mem hold)

/-- A search changes the accesses of an entry at most. -/
theorem exists_of_mem_values_getCachedPlaces {entry : CacheEntry}
    (hentry : entry ∈ (getCachedPlaces env cache now search).2.values) :
    ∃ old ∈ cache.values, ∃ lastAccessed accessCount,
      entry = { old with lastAccessed := lastAccessed, accessCount := accessCount } := by
  unfold getCachedPlaces at hentry
  split at hentry
  · exact ⟨entry, hentry, entry.lastAccessed, entry.accessCount, rfl⟩
  · obtain ⟨pair, hpair, rfl⟩ := List.mem_map.mp hentry
    obtain ⟨old, hold, rfl⟩ := List.mem_map.mp hpair
    refine ⟨old.2, List.mem_map_of_mem hold, ?_⟩
    split
    · exact ⟨_, _, rfl⟩
    · exact ⟨_, _, rfl⟩

theorem CacheHoldsAll.cachePlaces (hcache : CacheHoldsAll env provider cache)
    {placesData : List PyDict} (hdata : search.HoldsAll env provider placesData) :
    CacheHoldsAll env provider (cachePlaces env cache now search placesData) := by
  intro entry hentry
  rcases mem_values_cachePlaces hentry with hold | ⟨rfl, rfl, -, -⟩
  · exact hcache entry hold
  · exact hdata

theorem CacheHoldsAll.getCachedPlaces (hcache : CacheHoldsAll env provider cache) :
    CacheHoldsAll env provider (getCachedPlaces env cache now search).2 := by
  intro entry hentry
  obtain ⟨old, hold, lastAccessed, accessCount, rfl⟩ :=
    exists_of_mem_values_getCachedPlaces hentry
  exact hcache old hold

theorem CacheHoldsAll.clearCache (hcache : CacheHoldsAll env provider cache)
    (olderThanHours : Option ℚ) :
    CacheHoldsAll env provider (clearCache cache now olderThanHours) := by
  cases olderThanHours with
  | none => exact fun entry hentry => absurd hentry List.not_mem_nil
  | some hours =>
      intro entry hentry
      obtain ⟨pair, hpair, rfl⟩ := List.mem_map.mp hentry
      exact hcache _ (List.mem_map_of_mem (List.mem_of_mem_filter hpair))

theorem CacheHoldsAll.afterCall (hcache : CacheHoldsAll env provider cache) {call : CacheCall}
    (hcall : call.HoldsAll env provider) :
    CacheHoldsAll env provider (afterCall env cache call) := by
  cases call with
  | store now search placesData => exact hcache.cachePlaces hcall
  | query now search => exact hcache.getCachedPlaces
  | clear now olderThanHours => exact hcache.clearCache olderThanHours

/-- Calls that store all that the provider has keep a cache that holds it. -/
theorem cacheHoldsAll_runEnd {start : MemoryCache} (hstart : CacheHoldsAll env provider start)
    {calls : List CacheCall} (hcalls : ∀ call ∈ calls, call.HoldsAll env provider) :
    CacheHoldsAll env provider (runEnd (afterCall env) start calls) := by
  have hstep : ∀ (past : List CacheCall) cache, ∀ call ∈ calls,
      CacheHoldsAll env provider cache → CacheHoldsAll env provider (afterCall env cache call) :=
    fun _ _ call hcall hcache => hcache.afterCall (hcalls call hcall)
  exact runEnd_history hstart hstep

/-- What a result of a search has to do with the entry that it comes from. -/
theorem getCachedPlaces_of_holdsAll (hcache : CacheHoldsAll env provider cache)
    {results : List PyDict}
    (hresults : (getCachedPlaces env cache now search).1 = .ok (some results)) :
    ∃ entry ∈ cache.values, servesSearch env now search entry = true ∧
      (∀ hit ∈ results, search.Wants env hit ∧
        ∃ place ∈ entry.data, ∃ distance, hit = hitCopy distance place) ∧
      ∀ place ∈ provider, search.Wants env place → entry.search.Wants env place →
        ∃ distance, hitCopy distance place ∈ results := by
  obtain ⟨entry, hentry, hserves, hfiltered⟩ := exists_entry_of_getCachedPlaces hresults
  have hmem : ∀ hit, hit ∈ results ↔ ∃ place ∈ entry.data, search.Wants env place ∧
      ∃ distance, search.distanceTo env place = .ok distance ∧ hit = hitCopy distance place :=
    fun _ => mem_filterCachedResults (placeTypes_ne_nil_of_serves hserves) hfiltered
  refine ⟨entry, hentry, hserves, fun hit hhit => ?_, fun place hplace hwants hheld => ?_⟩
  · obtain ⟨place, hplace, hwants, distance, -, rfl⟩ := (hmem hit).mp hhit
    exact ⟨wants_hitCopy.mpr hwants, place, hplace, distance, rfl⟩
  · obtain ⟨distance, hdistance, hnear⟩ := hwants.1
    refine ⟨distance, (hmem _).mpr ⟨place, ?_, hwants, distance, hdistance, rfl⟩⟩
    exact hcache entry hentry place hplace hheld

/-! ## Searches that an entry covers -/

/-- Distances are symmetric, and a detour is not shorter. -/
structure GeoEnv.Measures (env : GeoEnv) : Prop where
  symmetric : ∀ lat₁ lon₁ lat₂ lon₂,
    env.haversineDistance lat₁ lon₁ lat₂ lon₂ = env.haversineDistance lat₂ lon₂ lat₁ lon₁
  triangle : ∀ lat₁ lon₁ lat₂ lon₂ lat₃ lon₃,
    env.haversineDistance lat₁ lon₁ lat₃ lon₃ ≤
      env.haversineDistance lat₁ lon₁ lat₂ lon₂ + env.haversineDistance lat₂ lon₂ lat₃ lon₃

/-- The disc of an entry encloses the disc of a search, and the entry is of all its types. -/
structure CacheEntry.Covers (env : GeoEnv) (entry : CacheEntry) (search : PlaceSearch) : Prop where
  encloses : env.haversineDistance search.lat search.lon entry.location.1 entry.location.2 +
    search.radius ≤ entry.radius
  types : search.placeTypes ⊆ entry.placeTypes

/-- An entry that covers a search wants all that the search wants. -/
theorem CacheEntry.Covers.wants {entry : CacheEntry} (hcovers : entry.Covers env search)
    (hmeasures : env.Measures) (hwants : search.Wants env place) :
    entry.search.Wants env place := by
  obtain ⟨⟨distance, hdistance, hnear⟩, placeType, htype, hnamed⟩ := hwants
  refine ⟨?_, placeType, htype, List.map_subset lowerText hcovers.types hnamed⟩
  obtain ⟨placeLat, hlat, hdistance⟩ := exists_of_bind_eq_ok hdistance
  obtain ⟨placeLon, hlon, hdistance⟩ := exists_of_bind_eq_ok hdistance
  cases hdistance
  have hentry : entry.search.distanceTo env place =
      .ok (env.haversineDistance entry.location.1 entry.location.2 placeLat placeLon) := by
    unfold PlaceSearch.distanceTo
    rw [hlat, hlon]
    rfl
  refine ⟨_, hentry, ?_⟩
  calc env.haversineDistance entry.location.1 entry.location.2 placeLat placeLon
      ≤ env.haversineDistance entry.location.1 entry.location.2 search.lat search.lon +
          env.haversineDistance search.lat search.lon placeLat placeLon :=
        hmeasures.triangle _ _ _ _ _ _
    _ ≤ env.haversineDistance search.lat search.lon entry.location.1 entry.location.2 +
          search.radius := add_le_add (hmeasures.symmetric _ _ _ _).le hnear
    _ ≤ entry.radius := hcovers.encloses

/-- A search that every entry serving it covers finds all that the provider has for it. -/
theorem getCachedPlaces_complete_of_covers (hmeasures : env.Measures)
    (hcache : CacheHoldsAll env provider cache)
    (hcovers : ∀ entry ∈ cache.values, servesSearch env now search entry = true →
      entry.Covers env search)
    {results : List PyDict}
    (hresults : (getCachedPlaces env cache now search).1 = .ok (some results)) :
    ∀ place ∈ provider, search.Wants env place → ∃ distance, hitCopy distance place ∈ results := by
  intro place hplace hwants
  obtain ⟨entry, hentry, hserves, -, hcomplete⟩ := getCachedPlaces_of_holdsAll hcache hresults
  exact hcomplete place hplace hwants ((hcovers entry hentry hserves).wants hmeasures hwants)

/-- Whatever was stored before, if all that was stored holds what the provider has for its
search, a result has no place that its search is not for; its places are those of an entry
that serves the search; and it has every place of the provider that both searches are for. -/
theorem getCachedPlaces_complete_withinEntry (env : GeoEnv) (provider : List PyDict)
    (start : MemoryCache) (hstart : CacheHoldsAll env provider start) (calls : List CacheCall)
    (hcalls : ∀ call ∈ calls, call.HoldsAll env provider) (now : ℚ) (search : PlaceSearch)
    (results : List PyDict)
    (hresults : (getCachedPlaces env (runEnd (afterCall env) start calls) now search).1 =
      .ok (some results)) :
    ∃ entry ∈ (runEnd (afterCall env) start calls).values,
      servesSearch env now search entry = true ∧
      (∀ hit ∈ results, search.Wants env hit ∧
        ∃ place ∈ entry.data, ∃ distance, hit = hitCopy distance place) ∧
      ∀ place ∈ provider, search.Wants env place → entry.search.Wants env place →
        ∃ distance, hitCopy distance place ∈ results :=
  getCachedPlaces_of_holdsAll (cacheHoldsAll_runEnd hstart hcalls) hresults

/-! ## Two restaurants on the equator -/

/-- Distances along the equator, 111195 metres for a degree. -/
def equatorEnv : GeoEnv where
  haversineDistance _ lon₁ _ lon₂ := |lon₁ - lon₂| * 111195
  searchDigest _ _ _ _ := "f823df2e7a7b18de"

/-- A restaurant on the equator. -/
def restaurantAt (lon : ℚ) : PyDict :=
  [("name", .str "Mercado"), ("lat", .float 0), ("lon", .float lon), ("type", .str "restaurant")]

/-- A search for restaurants within five kilometres of a point of the equator. -/
def restaurantsNear (lon : ℚ) : PlaceSearch where
  lat := 0
  lon := lon
  radius := 5000
  placeTypes := ["restaurant"]

/-- The restaurant on the meridian is within five kilometres of the meridian, the other one
is not. -/
theorem holdsAll_restaurantsNear : (restaurantsNear 0).HoldsAll equatorEnv
    [restaurantAt 0, restaurantAt (6 / 100)] [restaurantAt 0] := by
  intro place hplace hwants
  rcases List.mem_pair.mp hplace with rfl | rfl
  · exact List.mem_singleton_self _
  · obtain ⟨distance, hdistance, hnear⟩ := hwants.1
    have hfar : (restaurantsNear 0).distanceTo equatorEnv (restaurantAt (6 / 100)) =
        .ok (66717 / 10) := by
      decide +kernel
    cases hdistance.symm.trans hfar
    norm_num [restaurantsNear] at hnear

theorem wants_restaurantAt {near lon : ℚ} (hnear : |near - lon| * 111195 ≤ 5000) :
    (restaurantsNear near).Wants equatorEnv (restaurantAt lon) := by
  refine ⟨⟨|near - lon| * 111195, rfl, hnear⟩, lowerText "restaurant", rfl, ?_⟩
  exact List.mem_map_of_mem (List.mem_singleton_self "restaurant")

/-- The longitudes of places. -/
def longitudes (results : List PyDict) : List (Option ℚ) :=
  results.map fun place => (PyDict.get place "lon" .none).number?

/-- The restaurant on the meridian is stored. -/
def meridianCalls : List CacheCall := [.store 0 (restaurantsNear 0) [restaurantAt 0]]

theorem holdsAll_meridianCalls : ∀ call ∈ meridianCalls,
    call.HoldsAll equatorEnv [restaurantAt 0, restaurantAt (6 / 100)] := by
  intro call hcall
  rw [List.mem_singleton.mp hcall]
  exact holdsAll_restaurantsNear

/-- A search at 4.4 kilometres from the meridian finds the restaurant on it. -/
theorem exists_results_meridianCalls :
    ∃ results, (getCachedPlaces equatorEnv (runEnd (afterCall equatorEnv) .empty meridianCalls) 60
      (restaurantsNear (4 / 100))).1 = .ok (some results) ∧ longitudes results = [some 0] := by
  have hfound : (getCachedPlaces equatorEnv
      (runEnd (afterCall equatorEnv) .empty meridianCalls) 60
      (restaurantsNear (4 / 100))).1.toOption.join.map longitudes = some [some 0] := by
    decide +kernel
  cases hanswer : (getCachedPlaces equatorEnv
      (runEnd (afterCall equatorEnv) .empty meridianCalls) 60 (restaurantsNear (4 / 100))).1 with
  | error e =>
      rw [hanswer] at hfound
      cases hfound
  | ok found =>
      rw [hanswer] at hfound
      cases found with
      | none => cases hfound
      | some results => exact ⟨results, rfl, Option.some.inj hfound⟩

/-- Such a search misses the restaurant that is 2.2 kilometres ahead. -/
theorem getCachedPlaces_misses_restaurant :
    (∀ call ∈ meridianCalls,
        call.HoldsAll equatorEnv [restaurantAt 0, restaurantAt (6 / 100)]) ∧
      ∃ results, (getCachedPlaces equatorEnv
          (runEnd (afterCall equatorEnv) .empty meridianCalls) 60
          (restaurantsNear (4 / 100))).1 = .ok (some results) ∧
        ¬ ∀ place ∈ [restaurantAt 0, restaurantAt (6 / 100)],
          (restaurantsNear (4 / 100)).Wants equatorEnv place →
            ∃ distance, hitCopy distance place ∈ results := by
  obtain ⟨results, hanswer, hlons⟩ := exists_results_meridianCalls
  refine ⟨holdsAll_meridianCalls, results, hanswer, fun hcomplete => ?_⟩
  have hwants : (restaurantsNear (4 / 100)).Wants equatorEnv (restaurantAt (6 / 100)) :=
    wants_restaurantAt (by decide +kernel)
  obtain ⟨distance, hhit⟩ := hcomplete _ (List.mem_cons_of_mem _ (List.mem_singleton_self _)) hwants
  have hlon : some (6 / 100 : ℚ) ∈ longitudes results := by
    have hmem := List.mem_map_of_mem (f := fun place => (PyDict.get place "lon" .none).number?) hhit
    rwa [get_hitCopy (by decide) (by decide)] at hmem
  rw [hlons, List.mem_singleton] at hlon
  revert hlon
  decide +kernel

/-- The restaurant that both searches are for is found. -/
theorem getCachedPlaces_complete_onMeridian :
    ∃ results, (getCachedPlaces equatorEnv
        (runEnd (afterCall equatorEnv) .empty meridianCalls) 60
        (restaurantsNear (4 / 100))).1 = .ok (some results) ∧
      ∃ entry ∈ (runEnd (afterCall equatorEnv) .empty meridianCalls).values,
        servesSearch equatorEnv 60 (restaurantsNear (4 / 100)) entry = true ∧
        (∀ hit ∈ results, (restaurantsNear (4 / 100)).Wants equatorEnv hit ∧
          ∃ place ∈ entry.data, ∃ distance, hit = hitCopy distance place) ∧
        ∀ place ∈ [restaurantAt 0, restaurantAt (6 / 100)],
          (restaurantsNear (4 / 100)).Wants equatorEnv place →
            entry.search.Wants equatorEnv place → ∃ distance, hitCopy distance place ∈ results := by
  obtain ⟨results, hanswer, -⟩ := exists_results_meridianCalls
  have hempty : CacheHoldsAll equatorEnv [restaurantAt 0, restaurantAt (6 / 100)] .empty :=
    fun entry hentry => absurd hentry List.not_mem_nil
  exact ⟨results, hanswer, getCachedPlaces_complete_withinEntry equatorEnv _ .empty hempty
    meridianCalls holdsAll_meridianCalls 60 (restaurantsNear (4 / 100)) results hanswer⟩

end Goveling.Places
