/-
# Searches for places nearby

A search first asks the geographic cache, and goes to Google if the cache has too few
places. What it then stores is the list that it returns: ranked, filtered and cut for
its own day. A later search that the cache serves is answered from that list, so its
answer is not the one of an empty cache; it is a choice of valid places among those
that an earlier search has found.
-/

import Goveling.Math.EarlyExit
import Goveling.Places.GeographicCache
import Mathlib.Data.Prod.Lex

namespace Goveling.Places

open Goveling.Math Goveling.Python

/-- What is fixed for the service: the cache, distances in kilometres, the status and the
content that Google answers for a point, a radius and a type, the numbers that are drawn
after a seed, the text of a value, and whether there is a key. -/
structure PlacesEnv where
  geo : GeoEnv
  calculateDistance : ℚ → ℚ → ℚ → ℚ → ℚ
  nearbyResponse : ℚ → ℚ → ℤ → String → Except PyError (ℤ × PyVal)
  uniform : ℤ → ℕ → ℚ
  textOf : PyVal → String
  hasApiKey : Bool

/-- The arguments of `search_nearby_real`, and when it reads the cache and writes to it. -/
structure NearbySearch where
  lat : ℚ
  lon : ℚ
  radiusM : ℤ := 3000
  types : Option (List String) := none
  limit : ℤ := 3
  excludeChains : Bool := true
  dayOffset : ℤ := 1
  readAt : ℚ
  storedAt : ℚ

/-- `items[:stop]`. -/
def upTo {α : Type} (stop : ℤ) (items : List α) : List α :=
  if 0 ≤ stop then items.take stop.toNat else items.take (items.length + stop).toNat

@[simp]
theorem upTo_nil {α : Type} (stop : ℤ) : upTo stop ([] : List α) = [] := by
  unfold upTo
  rw [List.take_nil, List.take_nil, ite_self]

theorem mem_of_mem_upTo {α : Type} {stop : ℤ} {items : List α} {item : α}
    (hitem : item ∈ upTo stop items) : item ∈ items := by
  unfold upTo at hitem
  split at hitem
  · exact List.mem_of_mem_take hitem
  · exact List.mem_of_mem_take hitem

theorem length_upTo_le {α : Type} {stop : ℤ} (hstop : 0 ≤ stop) (items : List α) :
    ((upTo stop items).length : ℤ) ≤ stop := by
  unfold upTo
  rw [if_pos hstop]
  have hshort := List.length_take_le stop.toNat items
  omega

/-- `value[start:]`. -/
def sliceFrom (value : PyVal) (start : ℕ) : Except PyError (List PyVal) :=
  match value with
  | .list items => .ok (items.drop start)
  | .str text => .ok ((text.toList.drop start).map fun c => .str c.toString)
  | .dict _ => .error (.typeError "unhashable type: 'slice'")
  | other => .error (.typeError ("'" ++ other.typeName ++ "' object is not subscriptable"))

/-! ## Types -/

/-- `variety_types`. -/
def varietyTypes : List String := ["cafe", "restaurant", "museum", "park", "point_of_interest"]

/-- `_get_types_for_day`. -/
def getTypesForDay (types : Option (List String)) (dayOffset : ℤ) : List String :=
  match types with
  | some (first :: rest) => first :: rest
  | _ =>
      ["tourist_attraction", varietyTypes.getD ((dayOffset - 1) % varietyTypes.length).toNat "",
        "cafe"]

/-- `priority_types`. -/
def priorityTypes : List String :=
  ["restaurant", "tourist_attraction", "museum", "park", "shopping_mall", "cafe", "bar",
    "lodging", "church"]

/-- The first priority type that is in the types of a place. -/
def firstPriority (types : PyVal) : List String → Except PyError (Option String)
  | [] => .ok none
  | priorityType :: rest => do
      if ← types.contains priorityType then return some priorityType
      firstPriority types rest

/-- `_get_main_type`. -/
def getMainType (types : PyVal) : Except PyError PyVal := do
  match ← firstPriority types priorityTypes with
  | some priorityType => return .str priorityType
  | none => if types.truthy then types.itemAt 0 else return .str "point_of_interest"

/-! ## Places -/

/-- `chain_keywords`. -/
def chainKeywords : List String :=
  ["mcdonalds", "kfc", "burger king", "subway", "pizza hut", "starbucks", "dominos"]

/-- The name of a place has the name of a chain in it. -/
def namesChain (place : PyDict) : Except PyError Bool := do
  let nameLower ← lowered (← PyDict.item place "name")
  return chainKeywords.any fun chain => textIn chain nameLower

/-- The checks of `_is_valid_suggestion`: rating, reviews, chains and distance. -/
def checkSuggestion (place : PyDict) (excludeChains : Bool) : Except PyError Bool := do
  if ← (PyDict.get place "rating" (.int 0)).lessThan (9 / 2) "float" then return false
  if ← (PyDict.get place "user_ratings_total" (.int 0)).lessThan 20 "int" then return false
  if excludeChains then
    if ← namesChain place then return false
  return !(← (PyDict.get place "distance_km" (.int 0)).greaterThan 5 "int")

/-- `_is_valid_suggestion`. -/
def isValidSuggestion (place : PyDict) (excludeChains : Bool) : Bool :=
  (checkSuggestion place excludeChains).toOption.getD false

/-- A place is valid for a search. -/
def NearbySearch.accepts (call : NearbySearch) (place : PyDict) : Bool :=
  isValidSuggestion place call.excludeChains

section Service

variable (env : PlacesEnv)

/-- The body of `_process_google_place`. -/
def readGooglePlace (place : PyVal) (originLat originLon : ℚ) :
    Except PyError (Option PyDict) := do
  let geometry ← place.get "geometry" (.dict [])
  let location ← geometry.get "location" (.dict [])
  let lat ← location.get "lat" .none
  let lon ← location.get "lng" .none
  if !lat.truthy || !lon.truthy then return none
  let distanceKm := env.calculateDistance originLat originLon (← lat.real) (← lon.real)
  let etaMinutes := truncated (distanceKm * 1000 / (8333 / 100))
  let mainType ← getMainType (← place.get "types" (.list []))
  let rating ← place.get "rating" (.float 4)
  return some
    [("name", ← place.get "name" (.str "Lugar de interés")),
      ("lat", lat),
      ("lon", lon),
      ("type", mainType),
      ("rating", rating),
      ("eta_minutes", .int etaMinutes),
      ("distance_km", .float distanceKm),
      ("price_level", ← place.get "price_level" .none),
      ("user_ratings_total", ← place.get "user_ratings_total" (.int 0)),
      ("vicinity", ← place.get "vicinity" (.str "")),
      ("place_id", ← place.get "place_id" .none),
      ("photos", ← place.get "photos" (.list [])),
      ("reason", .str ("Google Places: " ++ env.textOf rating ++ "⭐, " ++ toString etaMinutes ++
        "min caminando")),
      ("synthetic", .bool false),
      ("source", .str "google_places")]

/-- `_process_google_place`. -/
def processGooglePlace (place : PyVal) (originLat originLon : ℚ) : Option PyDict :=
  (readGooglePlace env place originLat originLon).toOption.join

/-- The body of `_google_nearby_search` for one type. -/
def readNearby (lat lon : ℚ) (radius : ℤ) (placeType : String) :
    Except PyError (Option PyVal) := do
  let searchType := if placeType = "" then "tourist_attraction" else placeType
  let (status, data) ← env.nearbyResponse lat lon radius searchType
  if status ≠ 200 then return none
  if !(← data.get "status" .none).isText "OK" then return none
  let _ ← (← data.get "results" (.list [])).len
  return some data

/-- `_google_nearby_search`. -/
def googleNearbySearch (lat lon : ℚ) (radius : ℤ) (placeType : String) : Option PyVal :=
  (readNearby env lat lon radius placeType).toOption.join

/-- The results that a day starts from. -/
def resultsForDay (dayOffset : ℤ) (placesResult : PyVal) : Except PyError (List PyVal) := do
  if !(← placesResult.contains "results") then return []
  let results ← placesResult.item "results"
  let choices := min (← results.len) 3
  if choices = 0 then throw (.zeroDivisionError "integer modulo by zero")
  sliceFrom results ((dayOffset - 1) % choices).toNat

/-- The valid places that a search finds of one type. -/
def foundOfType (call : NearbySearch) (placeType : String) : List PyDict :=
  match googleNearbySearch env call.lat call.lon call.radiusM placeType with
  | none => []
  | some placesResult =>
      ((resultsForDay call.dayOffset placesResult).toOption.getD []).filterMap fun place =>
        (processGooglePlace env place call.lat call.lon).filter call.accepts

/-- `x['rating']`, which is a number for a valid place. -/
def ratingOf (place : PyDict) : ℚ := ((PyDict.get place "rating" (.int 0)).number?).getD 0

/-- `x['eta_minutes']`. -/
def etaOf (place : PyDict) : ℤ := ((PyDict.get place "eta_minutes" (.int 0)).whole?).getD 0

/-- Places by falling rating, shaken by the numbers drawn after a seed, then by walking time. -/
def ranked (seed : ℤ) (places : List PyDict) : List PyDict :=
  (sortedBy (fun item : PyDict × ℕ =>
    toLex (-ratingOf item.1 + env.uniform seed item.2, etaOf item.1)) places.zipIdx).map Prod.fst

/-- The list that a search makes of what Google answers. -/
def finalPlaces (call : NearbySearch) : List PyDict :=
  let placeTypes := getTypesForDay call.types call.dayOffset
  let touristPlaces :=
    (placeTypes.filter fun t => t = "tourist_attraction").flatMap (foundOfType env call)
  let otherPlaces :=
    (placeTypes.filter fun t => t ≠ "tourist_attraction").flatMap (foundOfType env call)
  let attractions := (ranked env (call.dayOffset * 42) touristPlaces).take 2
  attractions ++
    upTo (call.limit - attractions.length) (ranked env (call.dayOffset * 73) otherPlaces)

/-! ## The search -/

/-- What a search asks the cache for. -/
def NearbySearch.search (call : NearbySearch) : PlaceSearch where
  lat := call.lat
  lon := call.lon
  radius := call.radiusM
  placeTypes := getTypesForDay call.types call.dayOffset

/-- One turn over the cached places: a valid one is kept, until there are enough. -/
def keepValid (call : NearbySearch) (kept : List PyDict) (place : PyDict) :
    ForInStep (List PyDict) :=
  if call.accepts place then
    if call.limit ≤ (kept ++ [place]).length then .done (kept ++ [place])
    else .yield (kept ++ [place])
  else .yield kept

/-- The answer from cached places. -/
def filteredCached (call : NearbySearch) (cachedResults : List PyDict) : List PyDict :=
  upTo call.limit (forBreak (keepValid call) (upTo (call.limit * 2) cachedResults) [])

/-- The places that the cache has for a search, if they are enough. -/
def enoughCached (cache : MemoryCache) (call : NearbySearch) :
    Except PyError (Option (List PyDict)) :=
  (getCachedPlaces env.geo cache call.readAt call.search).1.map fun cachedResults =>
    cachedResults.filter fun results => results ≠ [] && call.limit ≤ results.length

/-- `search_nearby_real`, and the cache after it. -/
def searchNearbyReal (cache : MemoryCache) (call : NearbySearch) : List PyDict × MemoryCache :=
  let touched := (getCachedPlaces env.geo cache call.readAt call.search).2
  match enoughCached env cache call with
  | .error _ => ([], touched)
  | .ok (some cachedResults) => (filteredCached call cachedResults, touched)
  | .ok none =>
      if !env.hasApiKey then ([], touched)
      else if (finalPlaces env call).isEmpty then ([], touched)
      else
        (upTo call.limit (finalPlaces env call),
          cachePlaces env.geo touched call.storedAt call.search (finalPlaces env call))

/-- The cache after a search. -/
def afterSearch (cache : MemoryCache) (call : NearbySearch) : MemoryCache :=
  (searchNearbyReal env cache call).2

end Service

variable {env : PlacesEnv}

/-! ## Answers from the cache -/

/-- The loop keeps the first valid places, at least one. -/
theorem forBreak_keepValid (call : NearbySearch) (items kept : List PyDict)
    (hroom : (kept.length : ℤ) < max call.limit 1) :
    forBreak (keepValid call) items kept =
      kept ++ (items.filter call.accepts).take ((max call.limit 1).toNat - kept.length) := by
  induction items generalizing kept with
  | nil => simp
  | cons place rest ih =>
      by_cases hvalid : call.accepts place = true
      · have hlength : (kept ++ [place]).length = kept.length + 1 := by simp
        rw [List.filter_cons_of_pos hvalid]
        by_cases hfull : call.limit ≤ (kept ++ [place]).length
        · have hbody : keepValid call kept place = .done (kept ++ [place]) := by
            rw [keepValid, if_pos hvalid, if_pos hfull]
          have hlast : (max call.limit 1).toNat - kept.length = 1 := by omega
          rw [forBreak_cons_of_done hbody, hlast]
          rfl
        · have hbody : keepValid call kept place = .yield (kept ++ [place]) := by
            rw [keepValid, if_pos hvalid, if_neg hfull]
          have hmore : (max call.limit 1).toNat - kept.length =
              (max call.limit 1).toNat - (kept ++ [place]).length + 1 := by omega
          rw [forBreak_cons_of_yield hbody, ih _ (by omega), hmore, List.take_succ_cons,
            List.append_assoc]
          rfl
      · have hbody : keepValid call kept place = .yield kept := by
          rw [keepValid, if_neg hvalid]
        rw [forBreak_cons_of_yield hbody, ih kept hroom, List.filter_cons_of_neg hvalid]

/-- The first valid places among twice as many as are asked for. -/
def firstValid (call : NearbySearch) (results : List PyDict) : List PyDict :=
  ((results.take (call.limit * 2).toNat).filter call.accepts).take call.limit.toNat

theorem filteredCached_eq (call : NearbySearch) (results : List PyDict) :
    filteredCached call results = firstValid call results := by
  unfold filteredCached firstValid
  rw [forBreak_keepValid call _ [] (by simp)]
  rcases lt_or_ge 0 call.limit with hsome | hnone
  · have hmax : max call.limit 1 = call.limit := by omega
    rw [hmax, upTo, upTo, if_pos hsome.le, if_pos (by omega), List.nil_append, List.length_nil,
      Nat.sub_zero, List.take_take, min_self]
  · have hmax : (max call.limit 1).toNat = 1 := by omega
    have hzero : call.limit.toNat = 0 := by omega
    rw [hmax, hzero, List.take_zero, List.nil_append, List.length_nil, Nat.sub_zero]
    unfold upTo
    split
    · rw [hzero, List.take_zero]
    · rename_i hnegative
      have hshort := List.length_take_le 1 ((upTo (call.limit * 2) results).filter call.accepts)
      unfold upTo at hshort
      rw [List.take_eq_nil_iff]
      exact .inl (by omega)

/-- What is stored before a search is found by an earlier one. -/
def FoundBefore (env : PlacesEnv) (past : List NearbySearch) (cache : MemoryCache) : Prop :=
  ∀ entry ∈ cache.values, ∃ earlier ∈ past, entry.data = finalPlaces env earlier ∧
    entry.search = earlier.search ∧ entry.createdAt = earlier.storedAt ∧
    entry.ttl = calculateTtl env.geo earlier.search.placeTypes

variable {past : List NearbySearch} {call : NearbySearch} {cache : MemoryCache}

theorem FoundBefore.mono {more : List NearbySearch} (hcache : FoundBefore env past cache) :
    FoundBefore env (past ++ more) cache := by
  intro entry hentry
  obtain ⟨earlier, hearlier, hstored⟩ := hcache entry hentry
  exact ⟨earlier, List.mem_append_left _ hearlier, hstored⟩

theorem FoundBefore.getCachedPlaces (hcache : FoundBefore env past cache) {now : ℚ}
    {search : PlaceSearch} :
    FoundBefore env past (getCachedPlaces env.geo cache now search).2 := by
  intro entry hentry
  obtain ⟨old, hold, lastAccessed, accessCount, rfl⟩ :=
    exists_of_mem_values_getCachedPlaces hentry
  exact hcache old hold

theorem FoundBefore.afterSearch (hcache : FoundBefore env past cache) (call : NearbySearch) :
    FoundBefore env (past ++ [call]) (afterSearch env cache call) := by
  have htouched : FoundBefore env (past ++ [call])
      (Places.getCachedPlaces env.geo cache call.readAt call.search).2 :=
    hcache.getCachedPlaces.mono
  unfold Places.afterSearch searchNearbyReal
  split
  · exact htouched
  · exact htouched
  · split
    · exact htouched
    · split
      · exact htouched
      · intro entry hentry
        rcases mem_values_cachePlaces hentry with hold | hnew
        · exact htouched entry hold
        · exact ⟨call, List.mem_append_right _ (List.mem_singleton_self call), hnew⟩

/-- The cache after searches, one after the other. -/
def cacheAfter (env : PlacesEnv) (past : List NearbySearch) : MemoryCache :=
  runEnd (afterSearch env) .empty past

theorem foundBefore_cacheAfter (env : PlacesEnv) (past : List NearbySearch) :
    FoundBefore env past (cacheAfter env past) := by
  have hempty : FoundBefore env [] .empty := fun entry hentry => absurd hentry List.not_mem_nil
  have hstep : ∀ before cache, ∀ call ∈ past,
      FoundBefore env before cache →
        FoundBefore env (before ++ [call]) (afterSearch env cache call) :=
    fun _ _ call _ hcache => hcache.afterSearch call
  exact runEnd_history hempty hstep

/-- A search may be answered from what an earlier one has stored. -/
structure NearbySearch.Serves (env : PlacesEnv) (earlier call : NearbySearch) : Prop where
  nearby : env.geo.haversineDistance call.lat call.lon earlier.lat earlier.lon ≤ earlier.radiusM
  radius : 0 ≤ call.radiusM
  types : ∃ placeType ∈ call.search.placeTypes, placeType ∈ earlier.search.placeTypes
  age : call.readAt - earlier.storedAt ≤ calculateTtl env.geo earlier.search.placeTypes

/-- What is enough for a search is what the cache has for it. -/
theorem getCachedPlaces_of_enoughCached {results : List PyDict}
    (hresults : enoughCached env cache call = .ok (some results)) :
    (getCachedPlaces env.geo cache call.readAt call.search).1 = .ok (some results) := by
  unfold enoughCached at hresults
  obtain ⟨answer, hanswer, henough⟩ := exists_of_map_eq_ok hresults
  obtain ⟨hsome, -⟩ := Option.filter_eq_some_iff.mp henough
  rw [hanswer, hsome]

/-- A cafe on the first meridian, as Google lists it. -/
def listedCafe (name : String) (lat : ℚ) : PyVal :=
  .dict [("name", .str name),
    ("geometry", .dict [("location", .dict [("lat", .float lat), ("lng", .float 1)])]),
    ("types", .list [.str "cafe", .str "food"]), ("rating", .float (47 / 10)),
    ("user_ratings_total", .int 100)]

/-- Google lists three cafes, and no draw moves a place. Distances are those along a
meridian, 111195 metres for a degree. -/
def cafesEnv : PlacesEnv where
  geo :=
    { haversineDistance := fun lat₁ _ lat₂ _ => |lat₁ - lat₂| * 111195
      searchDigest := fun _ _ _ _ => "79527d9772928671" }
  calculateDistance lat₁ _ lat₂ _ := |lat₁ - lat₂| * (111195 / 1000)
  nearbyResponse _ _ _ _ := .ok (200, .dict
    [("status", .str "OK"),
      ("results", .list [listedCafe "Central" (1 / 100), listedCafe "Norte" (2 / 100),
        listedCafe "Sur" (3 / 100)])])
  uniform _ _ := 0
  textOf _ := "4.7"
  hasApiKey := true

end Goveling.Places
