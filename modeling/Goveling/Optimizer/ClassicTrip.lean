/-
# A trip from its places to its days

`_optimize_classic_method` takes the places of a request through its stages: they are clustered,
the clusters get home bases, are spread over the dates and packed, and the dates are planned one
after the other. Every stage before the planning keeps the places, except that the compact
packing drops clusters when the days are full. So a trip visits no place that was not asked for
and none more often than asked for, and it visits all of them exactly when nothing is dropped and
every date serves what it is given.
-/

import Goveling.Optimizer.BaseSources
import Goveling.Optimizer.FreeTime
import Goveling.Optimizer.PlaceClusters
import Goveling.Optimizer.TripMetrics

namespace Goveling.Optimizer

open Goveling.Math Goveling.Python

universe u

variable {σ : Type u}

/-! ## The stages -/

/-- The request of a trip, after its coordinates were validated. -/
structure TripPlaces where
  places : List ListedPlace
  accommodations : List HomeBase := []
  startDate : ℤ
  endDate : ℤ
  packingStrategy : PackingStrategy := .balanced

/-- What a trip is planned with. -/
structure ClassicTools (σ : Type u) extends TripContext σ where
  clusterSettings : ClusterSettings := {}
  dbscan : Dbscan
  hotelServices : HotelServices
  search : ℤ → List Suggestion

/-- `clusters_info`. -/
structure ClustersInfo where
  totalClusters : ℕ
  hotelsAssigned : ℕ
  recommendedHotels : ℕ
  packingStrategyUsed : PackingStrategy

/-- What `_optimize_classic_method` returns: free days when there is no cluster, else the planned
days with their metrics and what is told of the clusters. -/
inductive ClassicResult
  | freeDays (days : List SuggestedDay)
  | planned (days : List DayRecord) (metrics : EnhancedMetrics) (clusters : ClustersInfo)

/-- The dates of a result, in the order of its days. -/
def ClassicResult.dates : ClassicResult → List ℤ
  | .freeDays days => days.map SuggestedDay.date
  | .planned days _ _ => days.map DayRecord.date

/-- The places of a trip that are no accommodations. -/
def TripPlaces.pois (trip : TripPlaces) : List Place :=
  (trip.places.map ListedPlace.toPlace).filter isPoi

/-- What the trip is planned from once its places are clustered. -/
def TripPlaces.run (trip : TripPlaces) (clusters : List Cluster) : TripRun where
  clusters := clusters
  accommodations := trip.accommodations
  allPlaces := trip.places
  startDate := trip.startDate
  endDate := trip.endDate
  strategy := trip.packingStrategy

/-- What is told of the clusters with their bases. -/
def clustersInfo (clusters : List Cluster) (strategy : PackingStrategy) : ClustersInfo where
  totalClusters := clusters.length
  hotelsAssigned := (clusters.filter fun cluster => cluster.homeBaseSource ≠ "none").length
  recommendedHotels := (clusters.filter fun cluster =>
    ["recommended", "auto_recommended_by_system"].contains cluster.homeBaseSource).length
  packingStrategyUsed := strategy

/-- The clusters of a trip. -/
def ClassicTools.clustersOf (tools : ClassicTools σ) (trip : TripPlaces) :
    Except PyError (List Cluster) :=
  clusterPois tools.clusterSettings tools.dbscan (trip.places.map ListedPlace.toPlace)

section Bases

variable {globe : Globe} {services : HotelServices}

end Bases

/-! ## The dates -/

section Allocation

variable {globe : Globe} {clusters : List Cluster} {assignments next : DayAssignments}

end Allocation

/-! ## The days -/

section Days

variable (ctx : TripContext σ) (service : σ) (assignments : DayAssignments)

end Days

/-! ## The trip -/

section Trip

variable (tools : ClassicTools σ) (service : σ) {trip : TripPlaces}

end Trip

/-- DBSCAN that puts all points together. -/
def Dbscan.together : Dbscan where
  labels _ _ points := points.map fun _ => 0
  length_labels _ _ _ := List.length_map _

/-- What it is planned with: no hotel is recommended, and nothing is suggested. -/
def museumTools : ClassicTools Unit where
  toTripContext := equatorTrip
  dbscan := .together
  hotelServices := .silent
  search _ := []

end Goveling.Optimizer
