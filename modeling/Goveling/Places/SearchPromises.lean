/-
# What a search for places nearby promises

A place that a search finds tells how far it is from the point of the search, and how
long the walk takes. The copy that the cache serves later gets its distance in metres
anew, but keeps the kilometres and the minutes from the point of the search that found
it, and it is by these kilometres that a place more than five away is left out. No step
looks for places that were found twice: Google lists a place under each of its types.
-/

import Goveling.Places.GooglePlaces

namespace Goveling.Places

open Goveling.Math Goveling.Python

/-! ## Answers as promised -/

/-- The id of a place, if it has one. -/
def placeIdOf (place : PyDict) : Option String :=
  match PyDict.get place "place_id" .none with
  | .str placeId => some placeId
  | _ => none

/-- Each place has an id that no other one has. -/
def DistinctIds (places : List PyDict) : Prop :=
  none ∉ places.map placeIdOf ∧ (places.map placeIdOf).Nodup

instance (places : List PyDict) : Decidable (DistinctIds places) :=
  inferInstanceAs (Decidable (_ ∧ _))

section Promises

variable (env : PlacesEnv)

/-- The kilometres from a point to a place. -/
def distanceFrom (lat lon : ℚ) (place : PyDict) : Option ℚ := do
  let placeLat ← (PyDict.get place "lat" .none).number?
  let placeLon ← (PyDict.get place "lon" .none).number?
  return env.calculateDistance lat lon placeLat placeLon

/-- A place carries its distance from a point, and the minutes of the walk. -/
def LocatedFrom (lat lon : ℚ) (place : PyDict) : Prop :=
  ∃ distanceKm, distanceFrom env lat lon place = some distanceKm ∧
    PyDict.get place "distance_km" .none = .float distanceKm ∧
    PyDict.get place "eta_minutes" .none = .int (truncated (distanceKm * 1000 / (8333 / 100)))

/-- The places of an answer pass the filter of the search, tell how far they are from its
point, lie within five kilometres, have ids of their own, and are not too many. -/
structure AnswersSearch (call : NearbySearch) (answer : List PyDict) : Prop where
  valid : ∀ place ∈ answer, call.accepts place = true
  located : ∀ place ∈ answer, LocatedFrom env call.lat call.lon place
  near : ∀ place ∈ answer, ∃ distanceKm,
    distanceFrom env call.lat call.lon place = some distanceKm ∧ distanceKm ≤ 5
  distinct : DistinctIds answer
  limit : (answer.length : ℤ) ≤ call.limit

/-- The entry of the cache that serves a search. -/
def servingEntry (cache : MemoryCache) (call : NearbySearch) : Option CacheEntry :=
  (cache.entries.find? fun entry => servesSearch env.geo call.readAt call.search entry.2).map
    Prod.snd

/-- The places that a search takes from the cache. -/
def servedPlaces (cache : MemoryCache) (call : NearbySearch) : List PyDict :=
  match enoughCached env cache call with
  | .ok (some results) => firstValid call results
  | _ => []

/-- The places that a search takes from what Google lists. -/
def listedPlaces (cache : MemoryCache) (call : NearbySearch) : List PyDict :=
  match enoughCached env cache call with
  | .ok none => if env.hasApiKey then upTo call.limit (finalPlaces env call) else []
  | _ => []

/-- Neither the cache nor Google lists a place for a search twice or without an id, and a
place from the cache is as far from the point of the search as from that of the search
that found it. -/
structure SearchFits (cache : MemoryCache) (call : NearbySearch) : Prop where
  served : DistinctIds (servedPlaces env cache call)
  listed : DistinctIds (listedPlaces env cache call)
  asFar : ∀ place ∈ servedPlaces env cache call, ∀ entry ∈ servingEntry env cache call,
    distanceFrom env call.lat call.lon place =
      distanceFrom env entry.location.1 entry.location.2 place

end Promises

variable {env : PlacesEnv} {call : NearbySearch} {lat lon : ℚ}

/-! ## Places and their distances -/

/-- What becomes of a place that Google lists is located from the point of the search. -/
theorem locatedFrom_of_processGooglePlace {place : PyVal} {found : PyDict}
    (hfound : processGooglePlace env place lat lon = some found) :
    LocatedFrom env lat lon found := by
  have hread : readGooglePlace env place lat lon = .ok (some found) := by
    unfold processGooglePlace at hfound
    exact eq_ok_of_toOption (Option.join_eq_some_iff.mp hfound)
  unfold readGooglePlace at hread
  obtain ⟨geometry, -, hread⟩ := exists_of_bind_eq_ok hread
  obtain ⟨location, -, hread⟩ := exists_of_bind_eq_ok hread
  obtain ⟨placeLat, -, hread⟩ := exists_of_bind_eq_ok hread
  obtain ⟨placeLon, -, hread⟩ := exists_of_bind_eq_ok hread
  split at hread
  · cases hread
  · obtain ⟨latitude, hlat, hread⟩ := exists_of_bind_eq_ok hread
    obtain ⟨longitude, hlon, hread⟩ := exists_of_bind_eq_ok hread
    obtain ⟨types, -, hread⟩ := exists_of_bind_eq_ok hread
    obtain ⟨mainType, -, hread⟩ := exists_of_bind_eq_ok hread
    obtain ⟨rating, -, hread⟩ := exists_of_bind_eq_ok hread
    obtain ⟨name, -, hread⟩ := exists_of_bind_eq_ok hread
    obtain ⟨priceLevel, -, hread⟩ := exists_of_bind_eq_ok hread
    obtain ⟨reviews, -, hread⟩ := exists_of_bind_eq_ok hread
    obtain ⟨vicinity, -, hread⟩ := exists_of_bind_eq_ok hread
    obtain ⟨placeId, -, hread⟩ := exists_of_bind_eq_ok hread
    obtain ⟨photos, -, hread⟩ := exists_of_bind_eq_ok hread
    cases hread
    refine ⟨env.calculateDistance lat lon latitude longitude, ?_, rfl, rfl⟩
    unfold distanceFrom
    show (placeLat.number?.bind fun placeLat => placeLon.number?.bind fun placeLon =>
      some (env.calculateDistance lat lon placeLat placeLon)) = _
    rw [PyVal.number?_eq_of_real hlat, PyVal.number?_eq_of_real hlon]
    rfl

/-- What a search finds is valid for it and located from its point. -/
theorem locatedFrom_of_mem_foundOfType {placeType : String} {place : PyDict}
    (hplace : place ∈ foundOfType env call placeType) :
    LocatedFrom env call.lat call.lon place ∧ call.accepts place = true := by
  unfold foundOfType at hplace
  split at hplace
  · cases hplace
  · obtain ⟨listed, -, hfound⟩ := List.mem_filterMap.mp hplace
    obtain ⟨hprocessed, hvalid⟩ := Option.filter_eq_some_iff.mp hfound
    exact ⟨locatedFrom_of_processGooglePlace hprocessed, hvalid⟩

/-- Ranking keeps the places. -/
theorem mem_of_mem_ranked {seed : ℤ} {places : List PyDict} {place : PyDict}
    (hplace : place ∈ ranked env seed places) : place ∈ places := by
  obtain ⟨item, hitem, rfl⟩ := List.mem_map.mp hplace
  exact List.fst_mem_of_mem_zipIdx ((sortedBy_perm _ _).mem_iff.mp hitem)

theorem locatedFrom_of_mem_finalPlaces {place : PyDict}
    (hplace : place ∈ finalPlaces env call) :
    LocatedFrom env call.lat call.lon place ∧ call.accepts place = true := by
  rcases List.mem_append.mp hplace with hattraction | hother
  · have hmem := mem_of_mem_ranked (List.mem_of_mem_take hattraction)
    obtain ⟨placeType, -, hfound⟩ := List.mem_flatMap.mp hmem
    exact locatedFrom_of_mem_foundOfType hfound
  · have hmem := mem_of_mem_ranked (mem_of_mem_upTo hother)
    obtain ⟨placeType, -, hfound⟩ := List.mem_flatMap.mp hmem
    exact locatedFrom_of_mem_foundOfType hfound

/-- The copy of a place in the cache keeps its kilometres and minutes. -/
theorem locatedFrom_hitCopy {distance : ℚ} {place : PyDict}
    (hplace : LocatedFrom env lat lon place) :
    LocatedFrom env lat lon (hitCopy distance place) := by
  obtain ⟨distanceKm, hdistance, hkilometres, hminutes⟩ := hplace
  refine ⟨distanceKm, ?_, ?_, ?_⟩
  · unfold distanceFrom at hdistance ⊢
    rwa [get_hitCopy (by decide) (by decide), get_hitCopy (by decide) (by decide)]
  · rwa [get_hitCopy (by decide) (by decide)]
  · rwa [get_hitCopy (by decide) (by decide)]

/-- A valid place carries five kilometres at most. -/
theorem le_five_of_accepts {place : PyDict} {distanceKm : ℚ}
    (hvalid : call.accepts place = true)
    (hkilometres : PyDict.get place "distance_km" .none = .float distanceKm) :
    distanceKm ≤ 5 := by
  have hcheck : checkSuggestion place call.excludeChains = .ok true := by
    unfold NearbySearch.accepts isValidSuggestion at hvalid
    cases hresult : checkSuggestion place call.excludeChains with
    | error e =>
        rw [hresult] at hvalid
        cases hvalid
    | ok valid =>
        rw [hresult] at hvalid
        exact congrArg Except.ok hvalid
  unfold checkSuggestion at hcheck
  obtain ⟨lowRating, -, hcheck⟩ := exists_of_bind_eq_ok hcheck
  split at hcheck
  · cases hcheck
  obtain ⟨fewReviews, -, hcheck⟩ := exists_of_bind_eq_ok hcheck
  split at hcheck
  · cases hcheck
  have hfar : (do return !(← (PyDict.get place "distance_km" (.int 0)).greaterThan 5 "int") :
      Except PyError Bool) = .ok true := by
    split at hcheck
    · obtain ⟨chain, -, hcheck⟩ := exists_of_bind_eq_ok hcheck
      split at hcheck
      · cases hcheck
      · exact hcheck
    · exact hcheck
  rw [PyDict.get_eq_of_get_none hkilometres nofun] at hfar
  have hnear : (!decide (5 < distanceKm)) = true := Except.ok.inj hfar
  simpa using hnear

/-! ## When an answer is as promised -/

/-- Valid places that tell how far they are from some point answer a search when no id comes
twice and they are as far from the point of the search. -/
theorem answersSearch_iff_of_located {answer : List PyDict}
    (hplaces : ∀ place ∈ answer, LocatedFrom env lat lon place ∧ call.accepts place = true)
    (hlimit : (answer.length : ℤ) ≤ call.limit) :
    AnswersSearch env call answer ↔ DistinctIds answer ∧ ∀ place ∈ answer,
      distanceFrom env call.lat call.lon place = distanceFrom env lat lon place := by
  constructor
  · intro hanswers
    refine ⟨hanswers.distinct, fun place hplace => ?_⟩
    obtain ⟨fromCall, hfromCall, hcarriedCall, -⟩ := hanswers.located place hplace
    obtain ⟨fromPoint, hfromPoint, hcarriedPoint, -⟩ := (hplaces place hplace).1
    have hsame : fromCall = fromPoint := PyVal.float.inj (hcarriedCall.symm.trans hcarriedPoint)
    rw [hfromCall, hfromPoint, hsame]
  · rintro ⟨hdistinct, hasFar⟩
    have hlocated : ∀ place ∈ answer, LocatedFrom env call.lat call.lon place := by
      intro place hplace
      obtain ⟨distanceKm, hdistance, hcarried⟩ := (hplaces place hplace).1
      exact ⟨distanceKm, (hasFar place hplace).trans hdistance, hcarried⟩
    refine ⟨fun place hplace => (hplaces place hplace).2, hlocated, fun place hplace => ?_,
      hdistinct, hlimit⟩
    obtain ⟨distanceKm, hdistance, hkilometres, -⟩ := hlocated place hplace
    exact ⟨distanceKm, hdistance, le_five_of_accepts (hplaces place hplace).2 hkilometres⟩

variable {past : List NearbySearch} {cache : MemoryCache}

/-- What the cache serves is valid, and located from the point of the entry that serves. -/
theorem locatedFrom_of_mem_firstValid (hcache : FoundBefore env past cache)
    {results : List PyDict} (hresults : enoughCached env cache call = .ok (some results)) :
    ∃ entry, servingEntry env cache call = some entry ∧ ∀ place ∈ firstValid call results,
      LocatedFrom env entry.location.1 entry.location.2 place ∧ call.accepts place = true := by
  obtain ⟨found, hfound, hfiltered⟩ :=
    exists_find_of_getCachedPlaces (getCachedPlaces_of_enoughCached hresults)
  have hserves := List.find?_some hfound
  have hentry := List.mem_map_of_mem (f := Prod.snd) (List.mem_of_find?_eq_some hfound)
  obtain ⟨earlier, -, hdata, hsearch, -, -⟩ := hcache found.2 hentry
  refine ⟨found.2, by rw [servingEntry, hfound, Option.map_some], fun place hplace => ?_⟩
  obtain ⟨hkept, hvalid⟩ := List.mem_filter.mp (List.mem_of_mem_take hplace)
  have hmem := List.mem_of_mem_take hkept
  rw [mem_filterCachedResults (placeTypes_ne_nil_of_serves hserves) hfiltered] at hmem
  obtain ⟨stored, hstored, -, distance, -, rfl⟩ := hmem
  rw [hdata] at hstored
  have hlat : found.2.location.1 = earlier.lat := congrArg PlaceSearch.lat hsearch
  have hlon : found.2.location.2 = earlier.lon := congrArg PlaceSearch.lon hsearch
  rw [hlat, hlon]
  exact ⟨locatedFrom_hitCopy (locatedFrom_of_mem_finalPlaces hstored).1, hvalid⟩

theorem length_firstValid_le (hlimit : 1 ≤ call.limit) (results : List PyDict) :
    ((firstValid call results).length : ℤ) ≤ call.limit := by
  have hshort := List.length_take_le call.limit.toNat
    ((results.take (call.limit * 2).toNat).filter call.accepts)
  unfold firstValid
  omega

/-- A search that the cache serves is answered as promised when what it takes fits. -/
theorem answersSearch_iff_of_cached (hcache : FoundBefore env past cache)
    (hlimit : 1 ≤ call.limit) {results : List PyDict}
    (hresults : enoughCached env cache call = .ok (some results)) :
    AnswersSearch env call (firstValid call results) ↔ SearchFits env cache call := by
  obtain ⟨entry, hentry, hplaces⟩ := locatedFrom_of_mem_firstValid hcache hresults
  have hserved : servedPlaces env cache call = firstValid call results := by
    unfold servedPlaces
    rw [hresults]
  have hlisted : listedPlaces env cache call = [] := by
    unfold listedPlaces
    rw [hresults]
  rw [answersSearch_iff_of_located hplaces (length_firstValid_le hlimit results)]
  constructor
  · rintro ⟨hdistinct, hasFar⟩
    refine ⟨hserved ▸ hdistinct, hlisted ▸ by decide, fun place hplace other hother => ?_⟩
    rw [hserved] at hplace
    cases hentry.symm.trans hother
    exact hasFar place hplace
  · intro hfits
    exact ⟨hserved ▸ hfits.served,
      fun place hplace => hfits.asFar place (hserved ▸ hplace) entry hentry⟩

/-- A search that the cache does not serve takes nothing from it, and is answered with
places of Google. -/
theorem searchNearbyReal_of_not_served
    (hmiss : ∀ results, enoughCached env cache call ≠ .ok (some results)) :
    servedPlaces env cache call = [] ∧
      (searchNearbyReal env cache call).1 = listedPlaces env cache call := by
  unfold servedPlaces searchNearbyReal listedPlaces
  cases hcached : enoughCached env cache call with
  | error e => exact ⟨rfl, rfl⟩
  | ok found =>
      cases found with
      | some results => exact absurd hcached (hmiss results)
      | none =>
          refine ⟨rfl, ?_⟩
          dsimp only
          cases env.hasApiKey with
          | false => rfl
          | true =>
              rw [if_neg (by decide), if_pos rfl]
              split
              · rename_i hempty
                rw [List.isEmpty_iff.mp hempty, upTo_nil]
              · rfl

/-- What a search takes of Google's places is located from its own point. -/
theorem locatedFrom_of_mem_listedPlaces {place : PyDict}
    (hplace : place ∈ listedPlaces env cache call) :
    LocatedFrom env call.lat call.lon place ∧ call.accepts place = true := by
  unfold listedPlaces at hplace
  split at hplace
  · split at hplace
    · exact locatedFrom_of_mem_finalPlaces (mem_of_mem_upTo hplace)
    · cases hplace
  · cases hplace

theorem length_listedPlaces_le (hlimit : 1 ≤ call.limit) :
    ((listedPlaces env cache call).length : ℤ) ≤ call.limit := by
  unfold listedPlaces
  split
  · split
    · exact length_upTo_le (by omega) _
    · rw [List.length_nil]
      omega
  · rw [List.length_nil]
    omega

/-- A search that the cache does not serve is answered as promised when Google's places have
ids of their own. -/
theorem answersSearch_iff_of_not_served (hlimit : 1 ≤ call.limit)
    (hserved : servedPlaces env cache call = []) :
    AnswersSearch env call (listedPlaces env cache call) ↔ SearchFits env cache call := by
  rw [answersSearch_iff_of_located (fun _ => locatedFrom_of_mem_listedPlaces)
    (length_listedPlaces_le hlimit)]
  constructor
  · rintro ⟨hdistinct, -⟩
    refine ⟨hserved ▸ by decide, hdistinct, fun place hplace => ?_⟩
    rw [hserved] at hplace
    cases hplace
  · intro hfits
    exact ⟨hfits.listed, fun _ _ => rfl⟩

/-- After every history of searches, an answer is as promised exactly when the search fits. -/
theorem searchNearbyReal_answersSearch_iff (env : PlacesEnv) (past : List NearbySearch)
    (call : NearbySearch) (hlimit : 1 ≤ call.limit) :
    AnswersSearch env call (searchNearbyReal env (cacheAfter env past) call).1 ↔
      SearchFits env (cacheAfter env past) call := by
  by_cases hcached : ∃ results, enoughCached env (cacheAfter env past) call = .ok (some results)
  · obtain ⟨results, hresults⟩ := hcached
    have hanswer : (searchNearbyReal env (cacheAfter env past) call).1 =
        firstValid call results := by
      unfold searchNearbyReal
      rw [hresults]
      exact filteredCached_eq call results
    rw [hanswer]
    exact answersSearch_iff_of_cached (foundBefore_cacheAfter env past) hlimit hresults
  · obtain ⟨hserved, hanswer⟩ :=
      searchNearbyReal_of_not_served fun results hresults => hcached ⟨results, hresults⟩
    rw [hanswer]
    exact answersSearch_iff_of_not_served hlimit hserved

/-! ## Two searches for bars -/

/-- A bar on the first meridian, as Google lists it. -/
def listedBar (placeId : String) (lat : ℚ) : PyVal :=
  .dict [("name", .str "Bar"), ("place_id", .str placeId),
    ("geometry", .dict [("location", .dict [("lat", .float lat), ("lng", .float 1)])]),
    ("types", .list [.str "bar"]), ("rating", .float 4.8), ("user_ratings_total", .int 90)]

/-- Google lists one bar, and no draw moves it. Distances are those along a meridian,
111195 metres for a degree. -/
def barEnv : PlacesEnv where
  geo :=
    { haversineDistance := fun lat₁ _ lat₂ _ => |lat₁ - lat₂| * 111195
      searchDigest := fun _ _ _ _ => "c3c6b1f2a90d4e75" }
  calculateDistance lat₁ _ lat₂ _ := |lat₁ - lat₂| * 111.195
  nearbyResponse _ _ _ _ := .ok (200, .dict
    [("status", .str "OK"), ("results", .list [listedBar "ChIJa" 0.01])])
  uniform _ _ := 0
  textOf _ := "4.8"
  hasApiKey := true

/-- A search for one bar within five kilometres of a point of the first meridian. -/
def barNear (lat now : ℚ) : NearbySearch where
  lat := lat
  lon := 1
  radiusM := 5000
  types := some ["bar"]
  limit := 1
  readAt := now
  storedAt := now

/-- The kilometres that a place carries. -/
def carriedKm (place : PyDict) : Option ℚ := (PyDict.get place "distance_km" .none).number?

/-- A search from three kilometres further north is told the distance from the first point. -/
theorem not_answersSearch_barNear :
    ¬ AnswersSearch barEnv (barNear 0.02 60)
      (searchNearbyReal barEnv (cacheAfter barEnv [barNear (-0.01) 0]) (barNear 0.02 60)).1 := by
  intro hanswers
  have hbar : (searchNearbyReal barEnv (cacheAfter barEnv [barNear (-0.01) 0])
      (barNear 0.02 60)).1.map (fun place => (carriedKm place, distanceFrom barEnv 0.02 1 place)) =
        [(some 2.2239, some 1.11195)] := by
    decide +kernel
  obtain ⟨place, hplace, hcarried⟩ := List.mem_map.mp (hbar ▸ List.mem_singleton_self _)
  obtain ⟨hkilometres, hdistance⟩ := Prod.mk.inj hcarried
  obtain ⟨distanceKm, hfrom, htold, -⟩ := hanswers.located place hplace
  unfold carriedKm at hkilometres
  rw [htold] at hkilometres
  have hsame : distanceKm = 1.11195 := Option.some.inj (hfrom.symm.trans hdistance)
  rw [hsame] at hkilometres
  revert hkilometres
  decide +kernel

/-- The same search again is answered as promised. -/
theorem answersSearch_barNear :
    1 ≤ (barNear 0.02 60).limit ∧
      AnswersSearch barEnv (barNear 0.02 60)
        (searchNearbyReal barEnv (cacheAfter barEnv [barNear 0.02 0]) (barNear 0.02 60)).1 := by
  refine ⟨by decide, (searchNearbyReal_answersSearch_iff barEnv [barNear 0.02 0] (barNear 0.02 60)
    (by decide)).mpr ⟨by decide +kernel, by decide +kernel, ?_⟩⟩
  decide +kernel

end Goveling.Places
