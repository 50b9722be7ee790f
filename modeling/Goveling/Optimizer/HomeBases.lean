/-
# The home bases of the clusters

`assign_home_base_to_clusters` tries its sources one after the other: the accommodations listed
among the places, the hotels of the user, the recommender, a search for remote clusters, and a
virtual base. A listed accommodation is for the cluster closest to it, and only if that has no
base yet, so the first of several in the list is taken, not the nearest. Whatever fails, every
cluster ends up with a base.
-/

import Goveling.Math.FirstLeast
import Goveling.Optimizer.Types
import Mathlib.Algebra.Order.BigOperators.Group.List
import Mathlib.Algebra.Order.Field.Basic
import Mathlib.Data.List.MinMax

namespace Goveling.Optimizer

open Goveling.Math Goveling.Python

/-! ## Records -/

/-- A place of the request, with the flag of the hotels that were added to it. -/
structure ListedPlace extends Place where
  autoRecommended : Bool := false
  deriving DecidableEq

/-- A place as a base. -/
def Place.asBase (place : Place) : HomeBase where
  name := place.name
  location := place.location
  rating := place.rating
  address := place.address

/-- The place is an accommodation by one of its types. -/
def Place.isAccommodation (place : Place) : Bool :=
  place.placeType = some "accommodation" || place.type = some "accommodation"

/-- A hotel of the recommender. -/
structure HotelRecommendation where
  name : String
  location : Location
  address : String
  rating : ℚ

/-- A latitude in range. -/
structure Latitude where
  degrees : ℚ
  mem : -90 ≤ degrees ∧ degrees ≤ 90

/-- A longitude in range. -/
structure Longitude where
  degrees : ℚ
  mem : -180 ≤ degrees ∧ degrees ≤ 180

/-- A hotel of the search, where every key may be missing. -/
structure PlacesHotel where
  name : Option String := none
  lat : Option Latitude := none
  lon : Option Longitude := none
  address : Option String := none
  rating : Option ℚ := none

/-- What is asked about a cluster: the recommender, the search for hotels, and the distance from
one centroid to another. Each may fail. -/
structure HotelServices where
  recommendHotels : Cluster → Except PyError (List HotelRecommendation)
  searchNearbyReal : Cluster → Except PyError (List PlacesHotel)
  getDistanceKm : Location → Location → Except PyError (Option ℚ)

/-! ## The virtual base -/

/-- The mean of numbers in a range is in the range. -/
theorem mean_mem {low high : ℚ} {values : List ℚ} (hvalues : values ≠ [])
    (hrange : ∀ value ∈ values, low ≤ value ∧ value ≤ high) :
    low ≤ values.sum / values.length ∧ values.sum / values.length ≤ high := by
  have hlength : (0 : ℚ) < values.length := by
    exact_mod_cast List.length_pos_of_ne_nil hvalues
  constructor
  · rw [le_div_iff₀ hlength, mul_comm, ← nsmul_eq_mul]
    exact List.card_nsmul_le_sum values low fun value hvalue => (hrange value hvalue).1
  · rw [div_le_iff₀ hlength, mul_comm, ← nsmul_eq_mul]
    exact List.sum_le_card_nsmul values high fun value hvalue => (hrange value hvalue).2

theorem meanLat_mem {places : List Place} (hplaces : places ≠ []) :
    -90 ≤ (places.map fun place => place.location.lat).sum /
        (places.map fun place => place.location.lat).length ∧
      (places.map fun place => place.location.lat).sum /
        (places.map fun place => place.location.lat).length ≤ 90 := by
  apply mean_mem (by simpa using hplaces)
  intro value hvalue
  obtain ⟨place, -, rfl⟩ := List.mem_map.mp hvalue
  exact place.location.lat_mem

theorem meanLon_mem {places : List Place} (hplaces : places ≠ []) :
    -180 ≤ (places.map fun place => place.location.lon).sum /
        (places.map fun place => place.location.lon).length ∧
      (places.map fun place => place.location.lon).sum /
        (places.map fun place => place.location.lon).length ≤ 180 := by
  apply mean_mem (by simpa using hplaces)
  intro value hvalue
  obtain ⟨place, -, rfl⟩ := List.mem_map.mp hvalue
  exact place.location.lon_mem

/-- The mean of the coordinates of places. -/
def meanLocation (places : List Place) (hplaces : places ≠ []) : Location where
  lat := (places.map fun place => place.location.lat).sum /
    (places.map fun place => place.location.lat).length
  lon := (places.map fun place => place.location.lon).sum /
    (places.map fun place => place.location.lon).length
  lat_mem := meanLat_mem hplaces
  lon_mem := meanLon_mem hplaces

/-- The best rated of the places of some types. -/
def bestOfTypes (places : List Place) (types : List String) : Option Place :=
  (places.filter fun place => types.contains (place.type.getD "").toLower).argmax fun place =>
    place.rating.getD 0

/-- A place of the cluster as a base. -/
def baseFromCluster (place : Place) : HomeBase where
  name := place.name
  location := place.location
  rating := some (place.rating.getD 0)
  address := some (place.address.getD "")

/-- `_select_home_base_enhanced`. -/
def selectHomeBaseEnhanced (cluster : Cluster) : HomeBase :=
  if hplaces : cluster.places = [] then
    { name := "Punto base Cluster " ++ cluster.label
      location := cluster.centroid
      rating := some 0
      address := some "Ubicación central estimada" }
  else
    match bestOfTypes cluster.places ["lodging", "hotel"] with
    | some bestHotel => baseFromCluster bestHotel
    | none =>
        match bestOfTypes cluster.places
            ["shopping_mall", "transit_station", "bus_station", "train_station"] with
        | some bestHub => baseFromCluster bestHub
        | none =>
            let middle := meanLocation cluster.places hplaces
            let closestPlace := cluster.places.argmin fun place =>
              (place.location.lat - middle.lat) * (place.location.lat - middle.lat) +
                (place.location.lon - middle.lon) * (place.location.lon - middle.lon)
            { name := "Centro de " ++ closestPlace.elim "área" Place.name
              location := middle
              rating := some 0
              address := some ("Cerca de " ++
                closestPlace.elim "lugares de interés" Place.name) }

/-- `_set_fallback_base`. -/
def setFallbackBase (cluster : Cluster) : Cluster :=
  { cluster with
    homeBase := some (selectHomeBaseEnhanced cluster)
    homeBaseSource := "enhanced_fallback" }

/-! ## The recommender and the search -/

section Services

variable (services : HotelServices)

/-- `_is_remote_cluster`: no other cluster is near. A distance of zero or none does not count, and
what fails makes the cluster not remote. -/
def isRemoteCluster (allClusters : List Cluster) (targetCluster : Cluster) : Bool :=
  allClusters.all fun otherCluster =>
    otherCluster.label = targetCluster.label ||
      match services.getDistanceKm targetCluster.centroid otherCluster.centroid with
      | .ok (some distanceKm) => distanceKm = 0 || 50.0 ≤ distanceKm
      | .ok none => true
      | .error _ => false

/-- A hotel of the search as the base of a cluster. -/
def PlacesHotel.asBase (hotel : PlacesHotel) (searchLocation : Location) : HomeBase where
  name := hotel.name.getD "Hotel local"
  location :=
    let lat : Latitude := hotel.lat.getD ⟨searchLocation.lat, searchLocation.lat_mem⟩
    let lon : Longitude := hotel.lon.getD ⟨searchLocation.lon, searchLocation.lon_mem⟩
    ⟨lat.degrees, lon.degrees, lat.mem, lon.mem⟩
  rating := some (hotel.rating.getD 4.0)
  address := some (hotel.address.getD "Dirección no disponible")

/-- `_find_hotel_for_remote_cluster`. -/
def findHotelForRemoteCluster (cluster : Cluster) : Cluster :=
  match services.searchNearbyReal cluster with
  | .error _ => setFallbackBase cluster
  | .ok hotels =>
      match hotels.argmax fun hotel => hotel.rating.getD 0 with
      | some bestHotel =>
          { cluster with
            homeBase := some (bestHotel.asBase cluster.centroid)
            homeBaseSource := "google_places_hotel" }
      | none => setFallbackBase cluster

/-- One cluster of `_recommend_hotels_for_clusters`. -/
def recommendHotelForCluster (allClusters : List Cluster) (cluster : Cluster) : Cluster :=
  match services.recommendHotels cluster with
  | .error _ => setFallbackBase cluster
  | .ok (topHotel :: _) =>
      { cluster with
        homeBase := some
          { name := topHotel.name
            location := topHotel.location
            rating := some topHotel.rating
            address := some topHotel.address }
        homeBaseSource := "recommended" }
  | .ok [] =>
      if isRemoteCluster services allClusters cluster then
        findHotelForRemoteCluster services cluster
      else setFallbackBase cluster

end Services

/-! ## The assignment -/

section Assignment

variable (globe : Globe)

/-- The position of the cluster whose centroid is closest, the first one if there are several. -/
def closestCluster (centroids : List Location) (location : Location) : Option ℕ :=
  (centroids.zipIdx.argmin fun entry => globe.haversineKm location entry.1).map Prod.snd

/-- A cluster without a base takes a listed accommodation. -/
def Cluster.takeListed (cluster : Cluster) (accommodation : ListedPlace) : Cluster :=
  if cluster.homeBase.isSome then cluster
  else
    { cluster with
      homeBase := some accommodation.asBase
      homeBaseSource :=
        if accommodation.autoRecommended then "auto_recommended_by_system"
        else "auto_detected_in_original_places" }

/-- One listed accommodation: it is for the cluster closest to it. -/
def assignListed (clusters : List Cluster) (accommodation : ListedPlace) : List Cluster :=
  match closestCluster globe (clusters.map Cluster.centroid) accommodation.location with
  | some position => clusters.modify position (·.takeListed accommodation)
  | none => clusters

/-- One cluster of `_assign_user_hotels_to_clusters`. -/
def assignUserHotel (accommodations : List HomeBase) (cluster : Cluster) : Cluster :=
  match accommodations.argmin fun hotel =>
      globe.haversineKm cluster.centroid hotel.location with
  | some closestHotel =>
      { cluster with homeBase := some closestHotel, homeBaseSource := "user_provided" }
  | none => cluster

/-- Only clusters without a base are changed. -/
def ifWithoutBase (assign : Cluster → Cluster) (cluster : Cluster) : Cluster :=
  if cluster.homeBase.isSome then cluster else assign cluster

variable (services : HotelServices)

/-- `assign_home_base_to_clusters`. -/
def assignHomeBaseToClusters (clusters : List Cluster) (accommodations : List HomeBase)
    (allPlaces : List ListedPlace) : List Cluster :=
  let allAccommodations := allPlaces.filter fun place => place.isAccommodation
  let listed := allAccommodations.foldl (assignListed globe) clusters
  let housed := listed.map (ifWithoutBase (assignUserHotel globe accommodations))
  housed.map (ifWithoutBase (recommendHotelForCluster services clusters))

end Assignment

/-! ## What is promised -/

section Promises

variable (globe : Globe) (clusters : List Cluster) (accommodations : List HomeBase)
  (allPlaces : List ListedPlace)

/-- The listed accommodations whose closest cluster is at a position, in the order of the list. -/
def listedFor (position : ℕ) : List ListedPlace :=
  (allPlaces.filter fun place => place.isAccommodation).filter fun accommodation =>
    closestCluster globe (clusters.map Cluster.centroid) accommodation.location = some position

end Promises

section Assigned

variable {globe : Globe} {clusters : List Cluster} {cluster : Cluster}

@[simp]
theorem centroid_takeListed (accommodation : ListedPlace) :
    (cluster.takeListed accommodation).centroid = cluster.centroid := by
  unfold Cluster.takeListed
  split <;> rfl

theorem homeBase_takeListed_ne (accommodation : ListedPlace) :
    (cluster.takeListed accommodation).homeBase ≠ none := by
  unfold Cluster.takeListed
  split
  · rename_i hsome
    exact Option.isSome_iff_ne_none.mp hsome
  · exact nofun

/-- A base that is there is kept. -/
theorem ifWithoutBase_of_ne (assign : Cluster → Cluster) (hbase : cluster.homeBase ≠ none) :
    ifWithoutBase assign cluster = cluster :=
  if_pos (Option.isSome_iff_ne_none.mpr hbase)

theorem ifWithoutBase_of_eq_none (assign : Cluster → Cluster) (hbase : cluster.homeBase = none) :
    ifWithoutBase assign cluster = assign cluster :=
  if_neg (by simp [hbase])

theorem takeListed_of_ne (accommodation : ListedPlace) (hbase : cluster.homeBase ≠ none) :
    cluster.takeListed accommodation = cluster :=
  if_pos (Option.isSome_iff_ne_none.mpr hbase)

/-- One accommodation is offered to the cluster closest to it and to no other. -/
theorem getElem?_assignListed (clusters : List Cluster) (accommodation : ListedPlace)
    (position : ℕ) :
    (assignListed globe clusters accommodation)[position]? =
      clusters[position]?.map fun cluster =>
        if closestCluster globe (clusters.map Cluster.centroid) accommodation.location =
            some position
        then cluster.takeListed accommodation else cluster := by
  unfold assignListed
  cases hclosest : closestCluster globe (clusters.map Cluster.centroid)
      accommodation.location with
  | none => simp
  | some closest =>
      simp only [List.getElem?_modify, Option.some.injEq]
      rfl

theorem centroids_assignListed (clusters : List Cluster) (accommodation : ListedPlace) :
    (assignListed globe clusters accommodation).map Cluster.centroid =
      clusters.map Cluster.centroid := by
  apply List.ext_getElem?
  intro position
  rw [List.getElem?_map, List.getElem?_map, getElem?_assignListed, Option.map_map]
  congr 1
  funext cluster
  simp only [Function.comp_apply]
  split
  · exact centroid_takeListed accommodation
  · rfl

/-- Of the accommodations offered to a cluster it takes the first. -/
theorem getElem?_foldl_assignListed (accommodations : List ListedPlace)
    (clusters : List Cluster) (position : ℕ) :
    (accommodations.foldl (assignListed globe) clusters)[position]? =
      clusters[position]?.map fun cluster =>
        ((accommodations.filter fun accommodation =>
          closestCluster globe (clusters.map Cluster.centroid) accommodation.location =
            some position).head?).elim cluster cluster.takeListed := by
  induction accommodations generalizing clusters with
  | nil => simp
  | cons accommodation rest ih =>
      rw [List.foldl_cons, ih, centroids_assignListed, getElem?_assignListed, Option.map_map]
      congr 1
      funext cluster
      rw [Function.comp_apply, List.filter_cons]
      by_cases hclosest : closestCluster globe (clusters.map Cluster.centroid)
          accommodation.location = some position
      · -- The cluster has a base from here on, and takes none of the rest.
        simp only [hclosest, decide_true, if_true, List.head?_cons, Option.elim_some]
        cases (rest.filter fun other => decide (closestCluster globe
            (clusters.map Cluster.centroid) other.location = some position)).head? with
        | none => rfl
        | some other => exact takeListed_of_ne other (homeBase_takeListed_ne accommodation)
      · simp only [hclosest, decide_false, Bool.false_eq_true, if_false]

theorem length_foldl_assignListed (accommodations : List ListedPlace)
    (clusters : List Cluster) :
    (accommodations.foldl (assignListed globe) clusters).length = clusters.length := by
  induction accommodations generalizing clusters with
  | nil => rfl
  | cons accommodation rest ih =>
      have hcentroids := congrArg List.length
        (@centroids_assignListed globe clusters accommodation)
      rw [List.length_map, List.length_map] at hcentroids
      rw [List.foldl_cons, ih, hcentroids]

end Assigned

/-- What becomes of the cluster at a position. -/
theorem getElem?_assignHomeBaseToClusters (globe : Globe) (services : HotelServices)
    (clusters : List Cluster) (accommodations : List HomeBase) (allPlaces : List ListedPlace)
    (position : ℕ) :
    (assignHomeBaseToClusters globe services clusters accommodations allPlaces)[position]? =
      clusters[position]?.map fun cluster =>
        ifWithoutBase (recommendHotelForCluster services clusters)
          (ifWithoutBase (assignUserHotel globe accommodations)
            ((listedFor globe clusters allPlaces position).head?.elim cluster
              cluster.takeListed)) := by
  simp only [assignHomeBaseToClusters, List.getElem?_map, getElem?_foldl_assignListed,
    Option.map_map, listedFor]
  rfl

/-! ## Where a base comes from -/

/-- The sources of a base. -/
def baseSources : List String :=
  ["auto_recommended_by_system", "auto_detected_in_original_places", "user_provided",
    "recommended", "google_places_hotel", "enhanced_fallback"]

/-- A cluster with a base and where it comes from. -/
structure Housed (cluster : Cluster) : Prop where
  base : cluster.homeBase ≠ none
  source : cluster.homeBaseSource ∈ baseSources

section Housed

variable {globe : Globe} {services : HotelServices} {cluster : Cluster}

theorem housed_setFallbackBase (cluster : Cluster) : Housed (setFallbackBase cluster) :=
  ⟨Option.some_ne_none _, by simp [setFallbackBase, baseSources]⟩

theorem housed_takeListed (hbase : cluster.homeBase = none) (accommodation : ListedPlace) :
    Housed (cluster.takeListed accommodation) := by
  refine ⟨homeBase_takeListed_ne accommodation, ?_⟩
  unfold Cluster.takeListed
  rw [if_neg (by simp [hbase])]
  dsimp only
  split <;> simp [baseSources]

theorem housed_findHotelForRemoteCluster (cluster : Cluster) :
    Housed (findHotelForRemoteCluster services cluster) := by
  unfold findHotelForRemoteCluster
  split
  · exact housed_setFallbackBase cluster
  · split
    · exact ⟨Option.some_ne_none _, by simp [baseSources]⟩
    · exact housed_setFallbackBase cluster

/-- Whatever fails, a cluster for which a hotel is asked has a base. -/
theorem housed_recommendHotelForCluster (allClusters : List Cluster) (cluster : Cluster) :
    Housed (recommendHotelForCluster services allClusters cluster) := by
  unfold recommendHotelForCluster
  split
  · exact housed_setFallbackBase cluster
  · exact ⟨Option.some_ne_none _, by simp [baseSources]⟩
  · split
    · exact housed_findHotelForRemoteCluster cluster
    · exact housed_setFallbackBase cluster

/-- A hotel of the user is the base of a cluster, unless there is none. -/
theorem housed_assignUserHotel (accommodations : List HomeBase) (cluster : Cluster) :
    Housed (assignUserHotel globe accommodations cluster) ∨
      assignUserHotel globe accommodations cluster = cluster := by
  unfold assignUserHotel
  split
  · exact .inl ⟨Option.some_ne_none _, by simp [baseSources]⟩
  · exact .inr rfl

/-- The base of a cluster that had none comes from one of the sources. -/
theorem housed_assignHomeBaseToClusters {clusters : List Cluster}
    {accommodations : List HomeBase} {allPlaces : List ListedPlace}
    (hfresh : ∀ cluster ∈ clusters, cluster.homeBase = none) :
    ∀ result ∈ assignHomeBaseToClusters globe services clusters accommodations allPlaces,
      Housed result := by
  intro result hresult
  obtain ⟨position, hposition⟩ := List.mem_iff_getElem?.mp hresult
  rw [getElem?_assignHomeBaseToClusters] at hposition
  obtain ⟨cluster, hcluster, rfl⟩ := Option.map_eq_some_iff.mp hposition
  have hbase := hfresh cluster (List.mem_of_getElem? hcluster)
  cases (listedFor globe clusters allPlaces position).head? with
  | some accommodation =>
      have htaken := housed_takeListed hbase accommodation
      rw [Option.elim_some, ifWithoutBase_of_ne _ htaken.base, ifWithoutBase_of_ne _ htaken.base]
      exact htaken
  | none =>
      rw [Option.elim_none, ifWithoutBase_of_eq_none _ hbase]
      rcases @housed_assignUserHotel globe accommodations cluster with hhoused | hsame
      · rw [ifWithoutBase_of_ne _ hhoused.base]
        exact hhoused
      · rw [hsame, ifWithoutBase_of_eq_none _ hbase]
        exact housed_recommendHotelForCluster clusters cluster

end Housed

/-! ## What is kept of the promises -/

/-- Services none of which answers. -/
def HotelServices.silent : HotelServices where
  recommendHotels _ := .error (.exception "no answer")
  searchNearbyReal _ := .error (.exception "no answer")
  getDistanceKm _ _ := .error (.exception "no answer")

/-- One cluster on the equator. -/
def museumCluster : Cluster where
  label := "0"
  centroid := .onEquator 0
  places := [{ name := "Museo", location := .onEquator 0 }]

/-- A hotel on the equator. -/
def hotelAt (name : String) (lon : ℚ) : ListedPlace :=
  { name := name, location := .onEquator lon, type := some "accommodation" }

end Goveling.Optimizer
