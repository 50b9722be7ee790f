/-
# Attractions around a cluster

A cluster for which neither the places nor the request have an accommodation gets a recommended
base, and if it is remote, the optimizer searches for attractions around it, through the breaker
that the search for a hotel uses too. The classic method always runs with the routing service that
cannot tell distances, so a cluster is remote only when it is the only one. Then the attractions
are no places of the trip, and nothing is suggested between cities.
-/

import Goveling.Optimizer.ClassicTrip
import Goveling.Optimizer.NearbyBatch
import Goveling.Optimizer.RemoteClusters

namespace Goveling.Optimizer

open Goveling.Math Goveling.Places Goveling.Python

universe u

/-! ## Searches around a cluster -/

/-- A search around a cluster: what the client of Google replies, which calls are in time, and the
turns that the search takes. -/
structure AreaSearch (maps : MapsEnv) where
  synthetic : SyntheticEnv
  client : ℕ → ℕ → List PyVal
  replies : ∀ attempt again, Replies maps (client attempt again)
  inTime : ℕ → Bool
  turns : List PlacesEvent

/-- The search for places of a type around the centroid of a cluster. -/
def AreaSearch.nearby {maps : MapsEnv} (search : AreaSearch maps) (cluster : Cluster)
    (placeType : String) : NearbyCall maps where
  lat := cluster.centroid.lat
  lon := cluster.centroid.lon
  types := some [placeType]
  radiusM := 10000
  limit := 3
  synthetic := search.synthetic
  client := search.client
  replies := search.replies
  inTime := search.inTime

/-- What the searches around a cluster meet: the one for a hotel, and those for attractions. -/
structure Surroundings (maps : MapsEnv) where
  hotelCall : PlacesCall
  hotelTurns : List PlacesEvent
  area : String → AreaSearch maps

/-- `place_types_to_search`. -/
def placeTypesToSearch : List String := ["tourist_attraction", "restaurant", "museum", "park"]

/-- The name of a place that was found. -/
def foundName (place : PyDict) : PyVal := place.get "name" (.str "")

section Enrichment

variable (textOf : PyVal → String) (floatText : ℚ → String) {maps : MapsEnv}

/-- The entry of a place that was found. -/
def localAttraction (cluster : Cluster) (placeType : String) (place : PyDict) : PyDict :=
  [("name", foundName place),
    ("lat", place.get "lat" (.float cluster.centroid.lat)),
    ("lon", place.get "lon" (.float cluster.centroid.lon)),
    ("place_type", .str placeType),
    ("rating", place.get "rating" (.float 4)),
    ("suggestion_type", .str "local_discovery"),
    ("reason", .str ("Atracción adicional cerca de " ++ textOf (foundName place))),
    ("address", place.get "address" (.str "Dirección no disponible"))]

/-- What is added for a type: of the first two places those that are not named as a place of the
cluster. -/
def newAttractions (cluster : Cluster) (placeType : String) (localPlaces : List PyDict) :
    List PyDict :=
  ((localPlaces.take 2).filter fun place =>
    !cluster.places.any fun existing => (foundName place).isText existing.name).map
      (localAttraction textOf cluster placeType)

/-- The loop over the types. -/
def searchTypes (cluster : Cluster) (area : String → AreaSearch maps) :
    List String → CircuitBreaker → Option (List PyDict × CircuitBreaker)
  | [], breaker => some ([], breaker)
  | placeType :: rest, breaker => do
      let (breaker, localPlaces) ← (placesServiceRobust floatText).finish?
        ((area placeType).nearby cluster placeType).call breaker {} (area placeType).turns
      let (others, breaker) ← searchTypes cluster area rest breaker
      return (newAttractions textOf cluster placeType localPlaces ++ others, breaker)

variable (services : HotelServices) (allClusters : List Cluster)

/-- `_enrich_remote_cluster_with_local_attractions`, with what it sets `additional_suggestions`
to. -/
def enrichRemoteCluster (cluster : Cluster) (area : String → AreaSearch maps)
    (breaker : CircuitBreaker) : Option (List PyDict × CircuitBreaker) :=
  if isRemoteCluster services allClusters cluster then
    searchTypes textOf floatText cluster area placeTypesToSearch breaker
  else some ([], breaker)

/-- A hotel is searched for when the recommender has none and the cluster is remote. -/
def searchesHotel (cluster : Cluster) : Bool :=
  match services.recommendHotels cluster with
  | .ok [] => isRemoteCluster services allClusters cluster
  | _ => false

/-- The breaker after the search for a hotel, if there is one. Which hotel is found is told by the
services. -/
def searchHotel (cluster : Cluster) (surroundings : Surroundings maps)
    (breaker : CircuitBreaker) : Option CircuitBreaker :=
  if searchesHotel services allClusters cluster then
    (placesServiceRealRobust.finish? surroundings.hotelCall breaker {}
      surroundings.hotelTurns).map Prod.fst
  else some breaker

/-- One cluster of `_recommend_hotels_for_clusters`, as to the breaker and the attractions. It
leaves clusters with a base out. -/
def surveyCluster (cluster : Cluster) (surroundings : Surroundings maps)
    (breaker : CircuitBreaker) : Option (List PyDict × CircuitBreaker) :=
  if cluster.homeBase.isSome then some ([], breaker)
  else
    (searchHotel services allClusters cluster surroundings breaker).bind
      (enrichRemoteCluster textOf floatText services allClusters cluster surroundings.area)

/-- The attractions of the clusters. -/
def surveyClusters : List (Cluster × Surroundings maps) → CircuitBreaker →
    Option (List (List PyDict) × CircuitBreaker)
  | [], breaker => some ([], breaker)
  | (cluster, surroundings) :: rest, breaker => do
      let (attractions, breaker) ←
        surveyCluster textOf floatText services allClusters cluster surroundings breaker
      let (others, breaker) ← surveyClusters rest breaker
      return (attractions :: others, breaker)

end Enrichment

/-! ## Additional recommendations -/

/-- One of `intercity_suggestions`. -/
structure IntercitySuggestion where
  clusterId : String
  hotelName : String
  localAttractions : List PyDict
  message : String

/-- The suggestion for a cluster with attractions; its message reads the base. -/
def intercitySuggestion (cluster : Cluster) (attractions : List PyDict) :
    Except PyError IntercitySuggestion :=
  match cluster.homeBase with
  | none => .error (.attributeError "'NoneType' object has no attribute 'get'")
  | some base => .ok
      { clusterId := cluster.label
        hotelName := base.name
        localAttractions := attractions
        message := "Ya que visitarás " ++ base.name ++
          ", te sugerimos estas actividades adicionales en la zona:" }

/-- `intercity_suggestions`. -/
def intercitySuggestions (clusters : List Cluster) (attractions : List (List PyDict)) :
    Except PyError (List IntercitySuggestion) :=
  ((clusters.zip attractions).filter fun entry => entry.2 ≠ []).mapM fun entry =>
    intercitySuggestion entry.1 entry.2

/-- The clusters with the bases that the places and the request have for them. -/
def TripRun.offered (globe : Globe) (run : TripRun) : List Cluster :=
  ((run.allPlaces.filter fun place => place.isAccommodation).foldl (assignListed globe)
    run.clusters).map (ifWithoutBase (assignUserHotel globe run.accommodations))

section Recommendations

variable (textOf : PyVal → String) (floatText : ℚ → String) {maps : MapsEnv} {σ : Type u}

/-- `additional_recommendations`, with what the searches around the clusters meet. -/
def additionalRecommendations (ctx : TripContext σ) (services : HotelServices) (run : TripRun)
    (surroundings : ℕ → Surroundings maps) (breaker : CircuitBreaker) :
    Option (Except PyError (List IntercitySuggestion) × CircuitBreaker) := do
  let (attractions, breaker) ← surveyClusters textOf floatText services run.clusters
    ((run.offered ctx.globe).zipIdx.map fun entry => (entry.1, surroundings entry.2)) breaker
  return (intercitySuggestions (run.housed ctx services) attractions, breaker)

end Recommendations

/-! ## What comes of the searches -/

section Searches

variable {textOf : PyVal → String} {floatText : ℚ → String} {maps : MapsEnv}
  {services : HotelServices} {allClusters : List Cluster} {cluster : Cluster}
  {area : String → AreaSearch maps} {surroundings : Surroundings maps}
  {breaker breaker' : CircuitBreaker} {attractions : List PyDict}

/-- What comes back for a search on its own: what `search_nearby` found in the first call that was
in time, or places of last resort. -/
def Comes (floatText : ℚ → String) (search : NearbyCall maps) (places : List PyDict) : Prop :=
  FirstInTime floatText search places ∨
    places = emergencyPlacesFallback floatText search.call

/-- A search of `search_nearby` never meets the quota. -/
theorem comes_of_serves {search : NearbyCall maps} {places : List PyDict}
    (hserves : Serves (fun call _ => emergencyPlacesFallback floatText call) search.call
      places) : Comes floatText search places := by
  cases hserves with
  | answered n places hle hbefore hreply =>
      exact .inl (Hears.firstInTime (.answered n _ hle hbefore hreply))
  | quota n later hle hbefore hreply =>
      exact .inl (Hears.firstInTime (.quota n later hle hbefore hreply))
  | givenUp n later hle hbefore => exact .inr rfl

/-- The attractions are those of the searches for the types around the cluster. -/
def Discovers (textOf : PyVal → String) (floatText : ℚ → String) (cluster : Cluster)
    (area : String → AreaSearch maps) (placeTypes : List String) (attractions : List PyDict) :
    Prop :=
  ∃ found : List (List PyDict),
    List.Forall₂ (fun placeType places =>
      Comes floatText ((area placeType).nearby cluster placeType) places) placeTypes found ∧
    attractions = (List.zipWith (newAttractions textOf cluster) placeTypes found).flatten

/-- Searching for the types one after the other discovers the attractions. -/
theorem discovers_searchTypes {placeTypes : List String} (hwhy : breaker.SaysWhy)
    (hsearch : searchTypes textOf floatText cluster area placeTypes breaker =
      some (attractions, breaker')) :
    Discovers textOf floatText cluster area placeTypes attractions ∧ breaker'.SaysWhy := by
  induction placeTypes generalizing breaker attractions with
  | nil =>
      cases hsearch
      exact ⟨⟨[], .nil, rfl⟩, hwhy⟩
  | cons placeType rest ih =>
      obtain ⟨⟨between, places⟩, hplaces, hrest⟩ := Option.bind_eq_some_iff.mp hsearch
      obtain ⟨⟨others, last⟩, hothers, hsome⟩ := Option.bind_eq_some_iff.mp hrest
      cases hsome
      have hkept := keptBy_placesServiceRobust floatText
      obtain ⟨hbetween, hserves⟩ := TaskBody.finish?_keeps hkept (fun _ _ => trivial) hwhy
        (hkept.fresh ((area placeType).nearby cluster placeType).call) hplaces
      obtain ⟨⟨found, hfound, rfl⟩, hlast⟩ := ih hbetween hothers
      exact ⟨⟨places :: found, .cons (comes_of_serves hserves) hfound, rfl⟩, hlast⟩

/-- A cluster with attractions has no base yet and is remote. -/
structure Surveyed (textOf : PyVal → String) (floatText : ℚ → String)
    (services : HotelServices) (allClusters : List Cluster)
    (entry : Cluster × Surroundings maps) (attractions : List PyDict) : Prop where
  unhoused : attractions ≠ [] → entry.1.homeBase = none
  remote : attractions ≠ [] → isRemoteCluster services allClusters entry.1 = true
  discovers : attractions ≠ [] →
    Discovers textOf floatText entry.1 entry.2.area placeTypesToSearch attractions

theorem surveyed_nil (entry : Cluster × Surroundings maps) :
    Surveyed textOf floatText services allClusters entry [] :=
  ⟨fun hne => absurd rfl hne, fun hne => absurd rfl hne, fun hne => absurd rfl hne⟩

theorem saysWhy_searchHotel (hwhy : breaker.SaysWhy)
    (hsearch : searchHotel services allClusters cluster surroundings breaker = some breaker') :
    breaker'.SaysWhy := by
  unfold searchHotel at hsearch
  by_cases hsearches : searchesHotel services allClusters cluster = true
  · rw [if_pos hsearches] at hsearch
    obtain ⟨⟨after, hotels⟩, hfinish, rfl⟩ := Option.map_eq_some_iff.mp hsearch
    exact (TaskBody.finish?_keeps keptBy_placesServiceRealRobust (fun _ _ => trivial) hwhy
      (keptBy_placesServiceRealRobust.fresh surroundings.hotelCall) hfinish).1
  · rw [if_neg hsearches] at hsearch
    cases hsearch
    exact hwhy

theorem surveyed_surveyCluster (hwhy : breaker.SaysWhy)
    (hsurvey : surveyCluster textOf floatText services allClusters cluster surroundings breaker =
      some (attractions, breaker')) :
    Surveyed textOf floatText services allClusters (cluster, surroundings) attractions ∧
      breaker'.SaysWhy := by
  unfold surveyCluster at hsurvey
  cases hbase : cluster.homeBase with
  | some base =>
      rw [hbase] at hsurvey
      cases hsurvey
      exact ⟨surveyed_nil _, hwhy⟩
  | none =>
      rw [hbase, if_neg (by decide)] at hsurvey
      obtain ⟨between, hhotel, henrich⟩ := Option.bind_eq_some_iff.mp hsurvey
      have hbetween := saysWhy_searchHotel hwhy hhotel
      unfold enrichRemoteCluster at henrich
      by_cases hremote : isRemoteCluster services allClusters cluster = true
      · rw [if_pos hremote] at henrich
        obtain ⟨hdiscovers, hlast⟩ := discovers_searchTypes hbetween henrich
        exact ⟨⟨fun _ => hbase, fun _ => hremote, fun _ => hdiscovers⟩, hlast⟩
      · rw [if_neg hremote] at henrich
        cases henrich
        exact ⟨surveyed_nil _, hbetween⟩

theorem surveyed_surveyClusters {entries : List (Cluster × Surroundings maps)}
    {all : List (List PyDict)} (hwhy : breaker.SaysWhy)
    (hsurvey : surveyClusters textOf floatText services allClusters entries breaker =
      some (all, breaker')) :
    List.Forall₂ (Surveyed textOf floatText services allClusters) entries all ∧
      breaker'.SaysWhy := by
  induction entries generalizing breaker all with
  | nil =>
      cases hsurvey
      exact ⟨.nil, hwhy⟩
  | cons entry rest ih =>
      obtain ⟨cluster, surroundings⟩ := entry
      obtain ⟨⟨first, between⟩, hfirst, hrest⟩ := Option.bind_eq_some_iff.mp hsurvey
      obtain ⟨⟨others, last⟩, hothers, hsome⟩ := Option.bind_eq_some_iff.mp hrest
      cases hsome
      obtain ⟨hone, hbetween⟩ := surveyed_surveyCluster hwhy hfirst
      obtain ⟨hlater, hlast⟩ := ih hbetween hothers
      exact ⟨.cons hone hlater, hlast⟩

/-- At most two places are added for a type. -/
theorem length_newAttractions_le (placeType : String) (localPlaces : List PyDict) :
    (newAttractions textOf cluster placeType localPlaces).length ≤ 2 := by
  unfold newAttractions
  rw [List.length_map]
  exact (List.length_filter_le _ _).trans (List.length_take_le _ _)

/-- What is added is not named as a place of the cluster. -/
theorem isText_of_mem_newAttractions {placeType : String} {localPlaces : List PyDict}
    {attraction : PyDict}
    (hmem : attraction ∈ newAttractions textOf cluster placeType localPlaces) {existing : Place}
    (hexisting : existing ∈ cluster.places) :
    (foundName attraction).isText existing.name = false := by
  obtain ⟨place, hplace, rfl⟩ := List.mem_map.mp hmem
  have hnew := (List.mem_filter.mp hplace).2
  rw [Bool.not_eq_true', List.any_eq_false] at hnew
  exact Bool.eq_false_iff.mpr (hnew existing hexisting)

theorem Discovers.length_le {placeTypes : List String}
    (hdiscovers : Discovers textOf floatText cluster area placeTypes attractions) :
    attractions.length ≤ 2 * placeTypes.length := by
  obtain ⟨found, hfound, rfl⟩ := hdiscovers
  induction hfound with
  | nil => exact Nat.zero_le _
  | @cons placeType places rest others _ _ ih =>
      have hfirst := @length_newAttractions_le textOf cluster placeType places
      rw [List.zipWith_cons_cons, List.flatten_cons, List.length_append, List.length_cons]
      omega

theorem Discovers.isText {placeTypes : List String}
    (hdiscovers : Discovers textOf floatText cluster area placeTypes attractions)
    {attraction : PyDict} (hmem : attraction ∈ attractions) {existing : Place}
    (hexisting : existing ∈ cluster.places) :
    (foundName attraction).isText existing.name = false := by
  obtain ⟨found, hfound, rfl⟩ := hdiscovers
  induction hfound with
  | nil => cases hmem
  | cons _ _ ih =>
      rw [List.zipWith_cons_cons, List.flatten_cons, List.mem_append] at hmem
      rcases hmem with hfirst | hrest
      · exact isText_of_mem_newAttractions hfirst hexisting
      · exact ih hrest

end Searches

/-! ## The only cluster -/

section OnlyCluster

variable {globe : Globe} {services : HotelServices} {clusters : List Cluster} {cluster : Cluster}

/-- Without a method to ask for distances, a cluster is remote when all have its label. -/
theorem isRemoteCluster_withHybrid_iff :
    isRemoteCluster (services.withRouting globe .hybrid) clusters cluster = true ↔
      ∀ other ∈ clusters, other.label = cluster.label := by
  unfold isRemoteCluster
  rw [List.all_eq_true]
  apply forall₂_congr
  intro other _
  simp [HotelServices.withRouting, ClusterRouting.getDistanceKm]

/-- Clusters with different labels that all have the same one are one. -/
theorem exists_eq_singleton_of_labels (hne : clusters ≠ [])
    (hnodup : (clusters.map Cluster.label).Nodup)
    (hlabels : ∀ other ∈ clusters, other.label = cluster.label) :
    ∃ only, clusters = [only] := by
  cases clusters with
  | nil => exact absurd rfl hne
  | cons first rest =>
      cases rest with
      | nil => exact ⟨first, rfl⟩
      | cons second others =>
          have hfirst := hlabels first List.mem_cons_self
          have hsecond := hlabels second (List.mem_cons_of_mem _ List.mem_cons_self)
          rw [List.map_cons, List.map_cons, hfirst, hsecond] at hnodup
          exact absurd List.mem_cons_self (List.nodup_cons.mp hnodup).1

theorem foldl_assignListed_housed (accommodations : List ListedPlace)
    (hbase : cluster.homeBase ≠ none) :
    accommodations.foldl (assignListed globe) [cluster] = [cluster] := by
  induction accommodations with
  | nil => rfl
  | cons accommodation rest ih =>
      have hstep : assignListed globe [cluster] accommodation =
          [cluster.takeListed accommodation] := rfl
      rw [List.foldl_cons, hstep, takeListed_of_ne accommodation hbase, ih]

/-- A single cluster without a base is one for which nobody has named an accommodation. -/
theorem offered_singleton {run : TripRun} (hclusters : run.clusters = [cluster]) :
    ∃ result, run.offered globe = [result] ∧ (result.homeBase = none →
      result = cluster ∧ run.accommodations = [] ∧
        ∀ place ∈ run.allPlaces, place.isAccommodation = false) := by
  unfold TripRun.offered
  rw [hclusters]
  cases hlisted : run.allPlaces.filter fun place => place.isAccommodation with
  | nil =>
      refine ⟨_, rfl, fun hbase => ?_⟩
      have hnone : cluster.homeBase = none := by
        by_contra hsome
        rw [ifWithoutBase_of_ne _ hsome] at hbase
        exact hsome hbase
      rw [ifWithoutBase_of_eq_none _ hnone] at hbase ⊢
      unfold assignUserHotel at hbase ⊢
      cases hnearest : run.accommodations.argmin fun hotel =>
          globe.haversineKm cluster.centroid hotel.location with
      | some hotel =>
          rw [hnearest] at hbase
          cases hbase
      | none =>
          refine ⟨rfl, List.argmin_eq_none.mp hnearest, fun place hplace => ?_⟩
          exact Bool.eq_false_iff.mpr (List.filter_eq_nil_iff.mp hlisted place hplace)
  | cons accommodation rest =>
      have hhoused := @homeBase_takeListed_ne cluster accommodation
      refine ⟨_, congrArg (List.map _) (foldl_assignListed_housed rest hhoused), fun hbase => ?_⟩
      rw [ifWithoutBase_of_ne _ hhoused] at hbase
      exact absurd hbase hhoused

theorem offered_ne_nil {run : TripRun} (hoffered : run.offered globe ≠ []) : run.clusters ≠ [] := by
  intro hnone
  apply hoffered
  apply List.eq_nil_of_length_eq_zero
  unfold TripRun.offered
  rw [List.length_map, length_foldl_assignListed, hnone]
  rfl

/-- A single cluster that is offered no base gets a recommended one. -/
theorem housed_singleton {σ : Type u} {ctx : TripContext σ} {run : TripRun}
    (hoffered : run.offered ctx.globe = [cluster]) (hbase : cluster.homeBase = none) :
    run.housed ctx services = [recommendHotelForCluster services run.clusters cluster] := by
  show (run.offered ctx.globe).map (ifWithoutBase (recommendHotelForCluster services
    run.clusters)) = _
  rw [hoffered, List.map_singleton, ifWithoutBase_of_eq_none _ hbase]

theorem label_findHotelForRemoteCluster (cluster : Cluster) :
    (findHotelForRemoteCluster services cluster).label = cluster.label := by
  unfold findHotelForRemoteCluster
  split
  · rfl
  · split <;> rfl

theorem label_recommendHotelForCluster (allClusters : List Cluster) (cluster : Cluster) :
    (recommendHotelForCluster services allClusters cluster).label = cluster.label := by
  unfold recommendHotelForCluster
  split
  · rfl
  · rfl
  · split
    · exact label_findHotelForRemoteCluster cluster
    · rfl

/-- Without attractions nothing is suggested. -/
theorem intercitySuggestions_of_quiet {attractions : List (List PyDict)}
    (hquiet : ∀ found ∈ attractions, found = []) :
    intercitySuggestions clusters attractions = .ok [] := by
  have hnone : ((clusters.zip attractions).filter fun entry => entry.2 ≠ []) = [] := by
    refine List.filter_eq_nil_iff.mpr fun entry hentry => ?_
    simpa using hquiet entry.2 (List.of_mem_zip hentry).2
  unfold intercitySuggestions
  rw [hnone]
  rfl

/-- A single cluster with a base and attractions is suggested. -/
theorem intercitySuggestions_singleton {base : HomeBase} {attractions : List PyDict}
    (hbase : cluster.homeBase = some base) (hsome : attractions ≠ []) :
    ∃ entry, intercitySuggestions [cluster] [attractions] = .ok [entry] ∧
      entry.clusterId = cluster.label ∧ entry.localAttractions = attractions := by
  have hkept : ((([cluster].zip [attractions])).filter fun entry => entry.2 ≠ []) =
      [(cluster, attractions)] := List.filter_cons_of_pos (by simpa using hsome)
  unfold intercitySuggestions
  rw [hkept, List.mapM_cons, List.mapM_nil, intercitySuggestion, hbase]
  exact ⟨_, rfl, rfl, rfl⟩

end OnlyCluster

section Trip

variable {textOf : PyVal → String} {floatText : ℚ → String} {maps : MapsEnv} {σ : Type u}

/-- What a suggestion tells of a trip: all its places are one cluster, nobody has named an
accommodation, and the attractions around it are none of its places. -/
structure TellsOf (textOf : PyVal → String) (floatText : ℚ → String) (trip : TripPlaces)
    (clusters : List Cluster) (area : String → AreaSearch maps) (entry : IntercitySuggestion) :
    Prop where
  only : ∃ cluster, clusters = [cluster] ∧ entry.clusterId = cluster.label ∧
    Discovers textOf floatText cluster area placeTypesToSearch entry.localAttractions
  unprovided : trip.accommodations = []
  unlisted : ∀ place ∈ trip.places, place.isAccommodation = false
  few : entry.localAttractions.length ≤ 8
  foreign : ∀ attraction ∈ entry.localAttractions, ∀ place ∈ trip.pois,
    (foundName attraction).isText place.name = false

/-- Whatever the recommender, the search for hotels, the client of Google and the breaker do, a
trip of the classic method is told of attractions around at most one cluster, and only when it has
no other cluster and no accommodation. -/
theorem additionalRecommendations_onlyCluster (tools : ClassicTools σ) (trip : TripPlaces)
    (clusters : List Cluster) (hclusters : tools.clustersOf trip = .ok clusters)
    (surroundings : ℕ → Surroundings maps) (breaker breaker' : CircuitBreaker)
    (hwhy : breaker.SaysWhy) (recommended : Except PyError (List IntercitySuggestion))
    (hrun : additionalRecommendations textOf floatText tools.toTripContext
      (tools.hotelServices.withRouting tools.globe .hybrid) (trip.run clusters) surroundings
        breaker = some (recommended, breaker')) :
    breaker'.SaysWhy ∧ ∃ entries, recommended = .ok entries ∧ entries.length ≤ 1 ∧
      ∀ entry ∈ entries,
        TellsOf textOf floatText trip clusters (surroundings 0).area entry := by
  obtain ⟨⟨all, last⟩, hsurvey, hsome⟩ := Option.bind_eq_some_iff.mp hrun
  cases hsome
  obtain ⟨hsurveyed, hlast⟩ := surveyed_surveyClusters hwhy hsurvey
  refine ⟨hlast, ?_⟩
  by_cases hquiet : ∀ found ∈ all, found = []
  · exact ⟨[], intercitySuggestions_of_quiet hquiet, Nat.zero_le 1,
      fun _ hmem => absurd hmem List.not_mem_nil⟩
  obtain ⟨found, hfound, hne⟩ : ∃ found ∈ all, found ≠ [] := by
    simpa only [not_forall, exists_prop] using hquiet
  obtain ⟨asked, hasked, hremote⟩ := exists_of_mem_forall₂ hsurveyed.flip hfound
  obtain ⟨others, hothers, hgroups⟩ := exists_clusterPois tools.clusterSettings tools.dbscan
    (trip.places.map ListedPlace.toPlace)
  obtain rfl : others = clusters := Except.ok.inj (hothers.symm.trans hclusters)
  have hsome : others ≠ [] := by
    refine @offered_ne_nil tools.globe (trip.run others) ?_
    intro hnone
    rw [hnone] at hsurveyed
    cases hsurveyed
    cases hfound
  obtain ⟨only, rfl⟩ := exists_eq_singleton_of_labels hsome hgroups.nodup
    (isRemoteCluster_withHybrid_iff.mp (hremote.remote hne))
  obtain ⟨result, hoffered, hunnamed⟩ :=
    @offered_singleton tools.globe only (trip.run [only]) rfl
  rw [hoffered] at hsurveyed
  have hsingle : List.Forall₂ _ [(result, surroundings 0)] all := hsurveyed
  cases hsingle with
  | cons hone hnil =>
      cases hnil
      obtain rfl := List.mem_singleton.mp hfound
      obtain ⟨rfl, hunprovided, hunlisted⟩ := hunnamed (hone.unhoused hne)
      obtain ⟨base, hbase⟩ := Option.ne_none_iff_exists'.mp
        (@housed_recommendHotelForCluster (tools.hotelServices.withRouting tools.globe .hybrid)
          [result] result).base
      obtain ⟨entry, hentry, hlabel, rfl⟩ := intercitySuggestions_singleton hbase hne
      rw [housed_singleton hoffered (hone.unhoused hne)]
      refine ⟨[entry], hentry, le_rfl, fun other hother => ?_⟩
      obtain rfl := List.mem_singleton.mp hother
      have hdiscovers := hone.discovers hne
      exact
        { only := ⟨result, rfl, hlabel.trans (label_recommendHotelForCluster _ _), hdiscovers⟩
          unprovided := hunprovided
          unlisted := hunlisted
          few := hdiscovers.length_le
          foreign := fun attraction hattraction place hplace =>
            hdiscovers.isText hattraction (by simpa using hgroups.perm.mem_iff.mpr hplace) }

end Trip

/-! ## A museum on its own -/

/-- A museum on the equator, without a hotel. -/
def loneMuseum : TripPlaces where
  places := [{ name := "Museo", location := .onEquator 0 }]
  startDate := 1
  endDate := 1

/-- A client without a key for Google, and a first call that is in time. -/
def quietSearch : AreaSearch ⟨"", fun _ => ""⟩ where
  synthetic :=
    { pi := 3
      cos := fun _ => 1
      sin := fun _ => 0
      sqrt := fun _ => 1
      calculateDistance := fun _ _ _ _ => 1
      hash := fun _ => 5
      floatText := fun _ => "" }
  client := fun _ _ => []
  replies := replies_withoutKey
  inTime := fun _ => true
  turns := [.ask 0 0, .hear 0 0]

/-- What the searches around the museum meet. -/
def quietSurroundings : Surroundings ⟨"", fun _ => ""⟩ where
  hotelCall := { lat := 0, lon := 0, replies := fun _ => .ok [] }
  hotelTurns := [.ask 0 0, .hear 0 0]
  area _ := quietSearch

theorem clustersOf_loneMuseum : museumTools.clustersOf loneMuseum = .ok [museumCluster] := by
  decide +kernel

theorem exists_recommended_loneMuseum : ∃ recommended breaker',
    additionalRecommendations (fun _ => "") (fun _ => "") museumTools.toTripContext
      (museumTools.hotelServices.withRouting museumTools.globe .hybrid)
      (loneMuseum.run [museumCluster]) (fun _ => quietSurroundings) {} =
        some (recommended, breaker') := by
  have hsome : (additionalRecommendations (fun _ => "") (fun _ => "") museumTools.toTripContext
      (museumTools.hotelServices.withRouting museumTools.globe .hybrid)
      (loneMuseum.run [museumCluster]) (fun _ => quietSurroundings) {}).isSome = true := by
    decide +kernel
  obtain ⟨⟨recommended, breaker'⟩, hrun⟩ := Option.isSome_iff_exists.mp hsome
  exact ⟨recommended, breaker', hrun⟩

theorem additionalRecommendations_onlyCluster_loneMuseum : ∃ recommended breaker',
    additionalRecommendations (fun _ => "") (fun _ => "") museumTools.toTripContext
      (museumTools.hotelServices.withRouting museumTools.globe .hybrid)
      (loneMuseum.run [museumCluster]) (fun _ => quietSurroundings) {} =
        some (recommended, breaker') ∧
    breaker'.SaysWhy ∧ ∃ entries, recommended = .ok entries ∧ entries.length ≤ 1 ∧
      ∀ entry ∈ entries, TellsOf (fun _ => "") (fun _ => "") loneMuseum [museumCluster]
        (fun _ => quietSearch) entry := by
  obtain ⟨recommended, breaker', hrun⟩ := exists_recommended_loneMuseum
  exact ⟨recommended, breaker', hrun, additionalRecommendations_onlyCluster museumTools
    loneMuseum [museumCluster] clustersOf_loneMuseum (fun _ => quietSurroundings) {} breaker'
    (CircuitBreaker.saysWhy_recordSuccess {}) recommended hrun⟩

end Goveling.Optimizer
