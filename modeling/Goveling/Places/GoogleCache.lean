/-
# The cache around the client of Google Maps

A decorator keeps what the functions of the client return, under a digest of the text of
the call. The functions catch the failures of their requests themselves, so what they
return instead is kept as well, unless it is `None`. A later call is served it for up to
an hour, also when Google has long been back.
-/

import Goveling.Math.Provenance
import Goveling.Places.GoogleMapsClient

namespace Goveling.Places

open Goveling.Math Goveling.Python

/-! ## Calls of the wrapped functions -/

/-- A wrapped function with its arguments. -/
inductive MapsQuery
  | searchNearbyPlaces (lat lon : ℚ) (types : List String) (radiusM limit : ℤ)
  | getPlaceDetails (placeName : String) (lat lon : ℚ)
  | reverseGeocodeCity (lat lon : ℚ)
  deriving DecidableEq

namespace MapsQuery

/-- `func.__name__`. -/
def name : MapsQuery → String
  | searchNearbyPlaces .. => "search_nearby_places"
  | getPlaceDetails .. => "get_place_details"
  | reverseGeocodeCity .. => "reverse_geocode_city"

/-- The seconds that a result is kept. -/
def ttl : MapsQuery → ℚ
  | searchNearbyPlaces .. => 1800
  | getPlaceDetails .. => 3600
  | reverseGeocodeCity .. => 7200

/-- What the function returns over the answers to its requests. -/
def run (env : MapsEnv) (ask : MapsApi) : MapsQuery → PyVal
  | searchNearbyPlaces lat lon types radiusM limit =>
      Places.searchNearbyPlaces env ask lat lon types radiusM limit
  | getPlaceDetails placeName lat lon => Places.getPlaceDetails env ask placeName lat lon
  | reverseGeocodeCity lat lon => Places.reverseGeocodeCity env ask lat lon

/-- The function is one that asks for places. -/
def AsksForPlaces : MapsQuery → Prop
  | searchNearbyPlaces .. => True
  | getPlaceDetails .. => True
  | reverseGeocodeCity .. => False

end MapsQuery

/-- What the text of a call shows: the client, the arguments, how many of them stand without
a name, and the names of the others that are given. -/
structure CallText where
  client : String
  query : MapsQuery
  positional : ℕ
  keywords : List String := []
  deriving DecidableEq

/-- A call: how its requests are answered, and when it reads the cache and writes to it. -/
structure MapsCall extends CallText where
  ask : MapsApi
  readAt : ℚ
  storedAt : ℚ

/-- What is fixed for the cache: the client, and the digest of the name of a function and the
text of a call. -/
structure CacheEnv extends MapsEnv where
  hashKey : String → CallText → String

/-- `default_ttl`. -/
def defaultCacheTtl : ℚ := 1800

/-- `google_cache`. An entry also has the call that it comes from, which is only talked
about. -/
abbrev GoogleCache := TracedMap String MapsCall PyVal ℚ

namespace GoogleCache

variable (cache : GoogleCache)

/-- `_is_expired`. -/
def isExpired (entry : Traced MapsCall PyVal ℚ) (now : ℚ) : Bool := entry.stamp < now

/-- `get`, and the cache after it. -/
def get (key : String) (now : ℚ) : PyVal × GoogleCache :=
  match OrderedMap.get? cache key with
  | some entry =>
      if isExpired entry now then (.none, OrderedMap.erase cache key) else (entry.answer, cache)
  | none => (.none, cache)

/-- `set`. -/
def set (key : String) (call : MapsCall) (data : PyVal) (ttl : ℚ) : GoogleCache :=
  OrderedMap.set cache key
    { origin := call
      answer := data
      stamp := call.storedAt + if ttl = 0 then defaultCacheTtl else ttl }

end GoogleCache

/-- `value is None`. -/
def isNone : PyVal → Bool
  | .none => true
  | _ => false

section Wrapper

variable (env : CacheEnv)

/-- `cache_key`. -/
def MapsCall.key (call : MapsCall) : String := env.hashKey call.query.name call.toCallText

/-- What the function of a call returns over the answers that the call gets. -/
def MapsCall.result (call : MapsCall) : PyVal := call.query.run env.toMapsEnv call.ask

/-- `wrapper` of `cache_google_api`, and the cache after it. -/
def wrapper (cache : GoogleCache) (call : MapsCall) : PyVal × GoogleCache :=
  let (cachedResult, touched) := cache.get (call.key env) call.readAt
  if isNone cachedResult then
    (call.result env, touched.set (call.key env) call (call.result env) call.query.ttl)
  else (cachedResult, touched)

/-- The cache after a call. -/
def afterMapsCall (cache : GoogleCache) (call : MapsCall) : GoogleCache :=
  (wrapper env cache call).2

/-- Calls one after the other on an empty cache. -/
def mapsRun (calls : List MapsCall) : List (GoogleCache × MapsCall) :=
  moments (afterMapsCall env) .empty calls

/-- The entry that a call is served. -/
def servedEntry (cache : GoogleCache) (call : MapsCall) : Option (Traced MapsCall PyVal ℚ) :=
  (OrderedMap.get? cache (call.key env)).filter fun entry =>
    !GoogleCache.isExpired entry call.readAt && !isNone entry.answer

/-! ## Outages -/

/-- All requests of a call are answered as Google answers them. -/
def MapsCall.Up (api : MapsApi) (call : MapsCall) : Prop :=
  ∀ request, call.ask request = api request

/-- Each request of a call is answered as Google answers it, or fails. -/
def MapsCall.AnswersOrFails (api : MapsApi) (call : MapsCall) : Prop :=
  ∀ request, call.ask request = api request ∨ okData (call.ask request) = none

/-- Calls with the same key have the same function and arguments. -/
def NoCollisions (calls : List MapsCall) : Prop :=
  ∀ first ∈ calls, ∀ second ∈ calls, first.key env = second.key env → first.query = second.query

/-- A call that asked for places returned something else than Google yields for it. -/
def MapsCall.Substitutes (api : MapsApi) (call : MapsCall) : Prop :=
  call.query.AsksForPlaces ∧ call.result env ≠ call.query.run env.toMapsEnv api

/-- Every call that is made while Google is up returns what Google yields for it. -/
def ReturnsYield (api : MapsApi) (calls : List MapsCall) : Prop :=
  ∀ moment ∈ mapsRun env calls, moment.2.Up api →
    (wrapper env moment.1 moment.2).1 = moment.2.query.run env.toMapsEnv api

end Wrapper

variable {env : CacheEnv} {cache : GoogleCache} {call : MapsCall} {api : MapsApi}
  {calls : List MapsCall}

/-- A call is served an entry, or runs its function and stores the result. -/
theorem wrapper_cases (env : CacheEnv) (cache : GoogleCache) (call : MapsCall) :
    (∃ entry, servedEntry env cache call = some entry ∧
      wrapper env cache call = (entry.answer, cache)) ∨
    (servedEntry env cache call = none ∧
      ∃ touched, (touched = cache ∨ touched = OrderedMap.erase cache (call.key env)) ∧
        wrapper env cache call = (call.result env,
          touched.set (call.key env) call (call.result env) call.query.ttl)) := by
  unfold servedEntry wrapper GoogleCache.get
  cases hfound : OrderedMap.get? cache (call.key env) with
  | none => exact .inr ⟨rfl, cache, .inl rfl, rfl⟩
  | some entry =>
      by_cases hexpired : GoogleCache.isExpired entry call.readAt = true
      · refine .inr ⟨?_, OrderedMap.erase cache (call.key env), .inr rfl, ?_⟩
        · simp [Option.filter, hexpired]
        · simp [hexpired, isNone]
      · rw [Bool.not_eq_true] at hexpired
        by_cases hnone : isNone entry.answer = true
        · refine .inr ⟨?_, cache, .inl rfl, ?_⟩
          · simp [Option.filter, hnone]
          · simp [hexpired, hnone]
        · refine .inl ⟨entry, ?_, ?_⟩
          · simp [Option.filter, hexpired, hnone]
          · simp [hexpired, hnone]

/-- An entry has the result of the call that it comes from, under the key of the call. -/
def Kept (env : CacheEnv) (calls : List MapsCall)
    (entry : String × Traced MapsCall PyVal ℚ) : Prop :=
  entry.2.origin ∈ calls ∧ entry.2.origin.key env = entry.1 ∧
    entry.2.answer = entry.2.origin.result env

theorem adds_afterMapsCall (cache : GoogleCache) (hcall : call ∈ calls) :
    TracedMap.Adds (Kept env calls) cache (afterMapsCall env cache call) := by
  unfold afterMapsCall
  rcases wrapper_cases env cache call with ⟨entry, -, hreply⟩ | ⟨-, touched, htouched, hreply⟩
  · rw [hreply]
    exact TracedMap.Adds.refl cache
  · have hread : TracedMap.Adds (Kept env calls) cache touched := by
      rcases htouched with rfl | rfl
      · exact TracedMap.Adds.refl _
      · exact TracedMap.adds_erase _ _
    rw [hreply]
    exact hread.trans (TracedMap.adds_set touched ⟨hcall, rfl, rfl⟩)

theorem kept_of_mem_mapsRun {moment : GoogleCache × MapsCall}
    (hmoment : moment ∈ mapsRun env calls) :
    (∀ entry ∈ moment.1.entries, Kept env calls entry) ∧ moment.2 ∈ calls := by
  have hempty : ∀ entry ∈ (OrderedMap.empty : GoogleCache).entries, Kept env calls entry :=
    fun _ hentry => absurd hentry List.not_mem_nil
  exact TracedMap.good_moments id (fun cache call => adds_afterMapsCall cache) hempty moment hmoment

/-- A call that does not ask for places returns what Google yields, or `None`. -/
theorem result_of_not_asksForPlaces (hanswers : call.AnswersOrFails api)
    (hplaces : ¬ call.query.AsksForPlaces) :
    call.result env = call.query.run env.toMapsEnv api ∨ isNone (call.result env) = true := by
  unfold MapsCall.result
  cases hquery : call.query with
  | searchNearbyPlaces lat lon types radiusM limit =>
      rw [hquery] at hplaces
      exact absurd trivial hplaces
  | getPlaceDetails placeName lat lon =>
      rw [hquery] at hplaces
      exact absurd trivial hplaces
  | reverseGeocodeCity lat lon =>
      dsimp only [MapsQuery.run]
      rcases hanswers (geocodeRequest env.toMapsEnv lat lon) with hsame | hfails
      · left
        unfold reverseGeocodeCity
        rw [hsame]
      · right
        rw [reverseGeocodeCity_of_fails env.toMapsEnv hfails]
        rfl

/-- What a call made while Google is up returns by itself is what Google yields. -/
theorem result_of_up (hup : call.Up api) :
    call.result env = call.query.run env.toMapsEnv api := by
  have hsame : call.ask = api := funext hup
  unfold MapsCall.result
  rw [hsame]

/-- An entry that a call is served is stored under its key, and not `None`. -/
theorem servedEntry_spec {entry : Traced MapsCall PyVal ℚ}
    (hserved : servedEntry env cache call = some entry) :
    (call.key env, entry) ∈ cache.entries ∧ isNone entry.answer = false := by
  obtain ⟨hfound, hvalid⟩ := Option.filter_eq_some_iff.mp hserved
  refine ⟨OrderedMap.mem_of_get?_eq_some hfound, ?_⟩
  simpa using (Bool.and_eq_true_iff.mp hvalid).2

/-- What a call is served is what Google yields for it, unless the call it comes from got
something else. -/
theorem answer_eq_run_iff {entry : Traced MapsCall PyVal ℚ}
    (hkeys : NoCollisions env calls) (hanswers : ∀ call ∈ calls, call.AnswersOrFails api)
    (hkept : ∀ entry ∈ cache.entries, Kept env calls entry) (hcall : call ∈ calls)
    (hserved : servedEntry env cache call = some entry) :
    entry.answer = call.query.run env.toMapsEnv api ↔ ¬ entry.origin.Substitutes env api := by
  obtain ⟨hmem, hsome⟩ := servedEntry_spec hserved
  obtain ⟨horigin, hkey, hanswer⟩ := hkept _ hmem
  have hquery : entry.origin.query = call.query := hkeys _ horigin _ hcall hkey
  rw [hanswer] at hsome
  rw [hanswer, ← hquery]
  unfold MapsCall.Substitutes
  constructor
  · rintro hsame ⟨-, hother⟩
    exact hother hsame
  · intro hnone
    by_cases hplaces : entry.origin.query.AsksForPlaces
    · exact by_contra fun hother => hnone ⟨hplaces, hother⟩
    · rcases result_of_not_asksForPlaces (hanswers _ horigin) hplaces with hsame | hmissing
      · exact hsame
      · rw [hsome] at hmissing
        cases hmissing

/-- Over a service whose answers are fixed, every call that is made while it is up returns
what it yields exactly when no such call is served what an earlier call for places got in
place of it. -/
theorem wrapper_returnsYield_iff (env : CacheEnv) (api : MapsApi) (calls : List MapsCall)
    (hkeys : NoCollisions env calls) (hanswers : ∀ call ∈ calls, call.AnswersOrFails api) :
    ReturnsYield env api calls ↔
      ∀ moment ∈ mapsRun env calls, moment.2.Up api →
        ∀ entry, servedEntry env moment.1 moment.2 = some entry →
          ¬ entry.origin.Substitutes env api := by
  refine forall₃_congr fun moment hmoment hup => ?_
  obtain ⟨hkept, hcall⟩ := kept_of_mem_mapsRun hmoment
  rcases wrapper_cases env moment.1 moment.2 with
    ⟨entry, hserved, hreply⟩ | ⟨hserved, touched, -, hreply⟩
  · rw [hreply]
    exact TracedMap.iff_of_served hserved
      (answer_eq_run_iff hkeys hanswers hkept hcall hserved)
  · rw [hreply]
    exact TracedMap.iff_of_not_served hserved (result_of_up hup)

/-! ## Calls during and after an outage -/

/-- Google lists one museum for every search, and knows the city of every point. -/
def museumApi : MapsApi := fun request =>
  if request.url = mapsUrl ++ "/geocode/json" then
    .ok
      { status := 200
        json := .ok (.dict
          [("status", .str "OK"),
            ("results", .list [.dict
              [("address_components", .list [.dict
                [("long_name", .str "Lima"), ("types", .list [.str "locality"])]])]])]) }
  else
    .ok
      { status := 200
        json := .ok (.dict
          [("status", .str "OK"),
            ("results", .list [.dict
              [("name", .str "Museo"), ("geometry", .dict [("location", .dict
                [("lat", .float (-12)), ("lng", .float (-77))])])]])]) }

/-- The digest tells the names of the functions apart. -/
def museumEnv : CacheEnv where
  apiKey := "key"
  textOf _ := "4.0"
  hashKey name _ := name

/-- A call of a client at some time. -/
def clientCall (query : MapsQuery) (ask : MapsApi) (now : ℚ) : MapsCall where
  client := "<utils.google_maps_client.GoogleMapsClient object at 0x7f>"
  query := query
  positional := 0
  ask := ask
  readAt := now
  storedAt := now

/-- No request is answered. -/
def noApi : MapsApi := fun _ => .error (.exception "Cannot connect to host")

/-- A call whose requests are not answered, and the same a minute later. -/
def callsAfterOutage (query : MapsQuery) : List MapsCall :=
  [clientCall query noApi 0, clientCall query museumApi 60]

theorem answersOrFails_callsAfterOutage (query : MapsQuery) :
    ∀ call ∈ callsAfterOutage query, call.AnswersOrFails museumApi := by
  intro call hcall
  rcases List.mem_pair.mp hcall with rfl | rfl
  · exact fun _ => .inr rfl
  · exact fun _ => .inl rfl

theorem query_of_mem_callsAfterOutage {query : MapsQuery}
    (hcall : call ∈ callsAfterOutage query) : call.query = query := by
  rcases List.mem_pair.mp hcall with rfl | rfl
  · rfl
  · rfl

theorem noCollisions_callsAfterOutage (env : CacheEnv) (query : MapsQuery) :
    NoCollisions env (callsAfterOutage query) := by
  intro first hfirst second hsecond _
  rw [query_of_mem_callsAfterOutage hfirst, query_of_mem_callsAfterOutage hsecond]

/-- A search for museums within three kilometres. -/
def museumSearch : MapsQuery := .searchNearbyPlaces (-12) (-77) ["museum"] 3000 3

/-- The second search is served the empty list of the first. -/
theorem not_returnsYield_museumSearch :
    (∀ call ∈ callsAfterOutage museumSearch, call.AnswersOrFails museumApi) ∧
      NoCollisions museumEnv (callsAfterOutage museumSearch) ∧
        ¬ ReturnsYield museumEnv museumApi (callsAfterOutage museumSearch) := by
  refine ⟨answersOrFails_callsAfterOutage museumSearch,
    noCollisions_callsAfterOutage museumEnv museumSearch, ?_⟩
  intro hreturns
  have hsecond := (List.forall_mem_cons.mp (List.forall_mem_cons.mp hreturns).2).1 fun _ => rfl
  have hlength := congrArg (fun value => (PyVal.len value).toOption) hsecond
  revert hlength
  decide +kernel

/-- A search for the city of a point finds it when it is made again. -/
theorem returnsYield_cityOfPoint :
    ReturnsYield museumEnv museumApi (callsAfterOutage (.reverseGeocodeCity (-12) (-77))) := by
  apply (wrapper_returnsYield_iff museumEnv museumApi
    (callsAfterOutage (.reverseGeocodeCity (-12) (-77)))
    (noCollisions_callsAfterOutage _ _) (answersOrFails_callsAfterOutage _)).mpr
  intro moment hmoment _ entry hserved
  obtain ⟨hkept, -⟩ := kept_of_mem_mapsRun hmoment
  obtain ⟨horigin, -, -⟩ := hkept _ (servedEntry_spec hserved).1
  rintro ⟨hplaces, -⟩
  rw [query_of_mem_callsAfterOutage horigin] at hplaces
  exact hplaces

end Goveling.Places
