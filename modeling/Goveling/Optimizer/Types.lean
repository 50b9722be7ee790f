/-
# Data of the hybrid optimizer

The records that travel through the classic optimizer: places and their
clusters, the items of a day's timeline, and the day handed to the API. Clock
times are minutes after midnight, durations are natural numbers of minutes and
distances are exact non-negative rationals. The services the optimizer calls
keep their own state, which every call passes on.
-/

import Goveling.Python.Builtins
import Mathlib.Data.NNRat.Floor

namespace Goveling.Optimizer

universe u

/-! ## Places -/

/-- A pair of coordinates in the range `haversine_km` accepts. -/
@[ext]
structure Location where
  lat : ℚ
  lon : ℚ
  lat_mem : -90 ≤ lat ∧ lat ≤ 90
  lon_mem : -180 ≤ lon ∧ lon ≤ 180
  deriving DecidableEq

/-- The default coordinates `(0.0, 0.0)`. -/
def Location.origin : Location where
  lat := 0
  lon := 0
  lat_mem := by norm_num
  lon_mem := by norm_num

/-- Distances on the globe. Only the case of equal points is written out in
`haversine_km`; the formula for distinct points is a parameter. -/
structure Globe where
  greatCircleKm : Location → Location → ℚ≥0

/-- `haversine_km` on valid coordinates. -/
def Globe.haversineKm (globe : Globe) (p q : Location) : ℚ≥0 :=
  if p = q then 0 else globe.greatCircleKm p q

/-- The point of the equator at a longitude, or at the end of the range nearest to it. -/
def Location.onEquator (lon : ℚ) : Location where
  lat := 0
  lon := max (-180) (min 180 lon)
  lat_mem := by norm_num
  lon_mem := ⟨le_max_left _ _, max_le (by norm_num) (min_le_left _ _)⟩

/-- Distances along the equator: one degree is 111.194926644559 km when the
earth's radius is 6371 km. -/
def Globe.equatorial : Globe where
  greatCircleKm p q := ⟨|q.lon - p.lon|, abs_nonneg _⟩ * (111194926644559 / 10 ^ 12)

/-- Ways to travel; `walk` and `walking` are two spellings in the source. -/
inductive TransportMode
  | walk | walking | drive | transit | bike | flight
  | other (name : String)
  deriving DecidableEq, Repr

/-- The fields of a place dictionary that the optimizer reads. -/
structure Place where
  name : String
  location : Location
  type : Option String := none
  placeType : Option String := none
  priority : Option ℤ := none
  rating : Option ℚ := none
  image : Option String := none
  address : Option String := none
  qualityFlag : Option String := none
  deriving DecidableEq

/-- The accommodation a cluster is visited from. -/
structure HomeBase where
  name : String
  location : Location
  rating : Option ℚ := none
  address : Option String := none
  deriving DecidableEq

/-- Places that are visited together. -/
structure Cluster where
  label : String
  centroid : Location
  places : List Place
  homeBase : Option HomeBase := none
  homeBaseSource : String := "none"
  deriving DecidableEq

/-- The hours of a day that can be planned. -/
structure TimeWindow where
  start : ℤ
  stop : ℤ
  deriving DecidableEq, Repr

/-! ## Items of a timeline -/

/-- A leg between two points of the day. -/
structure TransferItem where
  fromPlace : String := ""
  toPlace : String := ""
  distanceKm : ℚ≥0 := 0
  durationMinutes : ℕ := 0
  recommendedMode : TransportMode := .walk
  isIntercity : Bool := false
  overnight : Bool := false
  isReturnToHotel : Bool := false
  origin : Location := .origin
  destination : Location := .origin
  deriving DecidableEq

/-- A visit to a place. -/
structure ActivityItem where
  name : String
  location : Location
  placeType : String
  durationMinutes : ℕ
  startTime : ℤ
  endTime : ℤ
  priority : ℤ
  rating : ℚ
  image : String
  address : String
  qualityFlag : Option String
  deriving DecidableEq

/-- The check-in that opens the first day. -/
structure HotelActivity where
  name : String
  location : Location
  durationMinutes : ℕ
  startTime : ℤ
  endTime : ℤ
  description : String
  rating : ℚ
  address : String
  deriving DecidableEq

/-- The activity a long trip is turned into, besides its transfer. -/
structure IntercityActivity where
  name : String
  placeType : String
  durationMinutes : ℕ
  startTime : ℤ
  endTime : ℤ
  description : String
  address : String
  transportMode : TransportMode
  deriving DecidableEq

/-- What `activities_scheduled` collects. -/
inductive Scheduled
  | activity (item : ActivityItem)
  | hotel (item : HotelActivity)
  | intercity (item : IntercityActivity)
  deriving DecidableEq

namespace Scheduled

def startTime : Scheduled → ℤ
  | .activity item => item.startTime
  | .hotel item => item.startTime
  | .intercity item => item.startTime

def endTime : Scheduled → ℤ
  | .activity item => item.endTime
  | .hotel item => item.endTime
  | .intercity item => item.endTime

def durationMinutes : Scheduled → ℕ
  | .activity item => item.durationMinutes
  | .hotel item => item.durationMinutes
  | .intercity item => item.durationMinutes

/-- Where the item takes place; a long trip is put at `(0.0, 0.0)`. -/
def location : Scheduled → Location
  | .activity item => item.location
  | .hotel item => item.location
  | .intercity _ => .origin

/-- Long trips are themselves transfers. -/
def isTransfer : Scheduled → Bool
  | .intercity _ => true
  | _ => false

end Scheduled

/-- An element of a timeline. `transferDict` is the dictionary written by
`_transfer_item_to_dict`; it remembers the transfer it was made from, which the
dictionary itself only keeps in part (see `transferItemToDict`). The object
itself, `transferItem`, is what the tests on the class look for. -/
inductive TimelineItem
  | transferDict (source : TransferItem)
  | transferItem (item : TransferItem)
  | scheduled (item : Scheduled)
  deriving DecidableEq

namespace TimelineItem

/-- `hasattr(item, 'end_time')`, with the value. -/
def endTime? : TimelineItem → Option ℤ
  | .scheduled item => some item.endTime
  | _ => none

/-- `hasattr(item, 'lat') and hasattr(item, 'lon')`, with the values: neither a
dictionary nor a `TransferItem` has these attributes. -/
def location? : TimelineItem → Option Location
  | .scheduled item => some item.location
  | _ => none

/-- The transfer an element stands for, in either representation. -/
def transfer? : TimelineItem → Option TransferItem
  | .transferDict source => some source
  | .transferItem item => some item
  | .scheduled _ => none

end TimelineItem

/-! ## The day -/

/-- An entry of the `transfers` list of a day; all of them have the type
`intercity_transfer`. The optional fields depend on who wrote the entry. -/
structure TransferRecord where
  type : String
  fromName : String
  toName : String
  origin : Location
  destination : Location
  distanceKm : ℚ≥0
  durationMinutes : ℕ
  mode : TransportMode
  time : String
  overnight : Bool
  description : Option String := none
  hasActivity : Option Bool := none
  isBetweenDays : Option Bool := none
  deriving DecidableEq

/-- A suggestion for free time; the text it is shown with. -/
structure Suggestion where
  name : String
  synthetic : Bool := true
  deriving DecidableEq

/-- Free time at the end of a day. -/
structure FreeBlock where
  startTime : ℤ
  endTime : ℤ
  durationMinutes : ℤ
  suggestions : List Suggestion
  note : String
  deriving DecidableEq

/-- A copy of a home base with the source of the recommendation. -/
structure BaseInfo extends HomeBase where
  autoRecommended : Bool
  recommendationSource : String
  deriving DecidableEq

/-- The totals of a day. -/
structure TravelSummary where
  totalTravelTimeS : ℕ := 0
  totalDistanceKm : ℚ≥0 := 0
  walkingTimeMinutes : ℕ := 0
  transportTimeMinutes : ℕ := 0
  intercityTransfersCount : ℕ := 0
  intercityTotalMinutes : ℕ := 0
  deriving DecidableEq

/-- A planned day. Its `activities` are its `timeline`: one list under two keys. -/
structure DayRecord where
  date : ℤ
  timeline : List TimelineItem
  pureActivities : List Scheduled
  transfers : List TransferRecord
  freeBlocks : List FreeBlock
  base : Option BaseInfo
  travelSummary : TravelSummary
  freeMinutes : ℤ
  endLocation : Option Location

/-! ## Settings and services -/

/-- The settings that the modelled code reads, with their default values. -/
structure Settings where
  walkThresholdKm : ℚ := 2
  driveThresholdKm : ℚ := 15
  flightThresholdKm : ℚ := 1000
  transitAvailable : Bool := true
  airSpeedKmph : ℚ≥0 := 750
  airBuffersMin : ℕ := 90
  restaurantLunchStart : ℤ := 12
  restaurantLunchEnd : ℤ := 15
  restaurantDinnerStart : ℤ := 19
  restaurantDinnerEnd : ℤ := 22
  museumPreferredStart : ℤ := 10
  museumPreferredEnd : ℤ := 17
  shoppingPreferredStart : ℤ := 10
  shoppingPreferredEnd : ℤ := 20
  maxActivitiesPerDay : ℤ := 6

/-- What the routing service answers for one leg. -/
structure Eta where
  distanceKm : ℚ≥0
  durationMinutes : ℚ≥0
  fallbackUsed : Bool := false
  deriving DecidableEq

/-- `int(eta_info['duration_minutes'])`. -/
def Eta.wholeMinutes (eta : Eta) : ℕ := ⌊eta.durationMinutes⌋₊

/-- An answer together with the state the service is left in. -/
structure Reply (σ : Type u) (α : Type) where
  value : α
  next : σ

/-- The services behind the optimizer. A search that raises answers `none`. -/
structure Services (σ : Type u) where
  routingServiceRobust : σ → Location → Location → TransportMode → Reply σ Eta
  routingServiceCached : σ → Location → Location → TransportMode → Reply σ Eta
  getKnownHotelName : σ → Location → Reply σ String
  getNearestNamedPlace : σ → Location → Reply σ String
  searchNearbyLodging : σ → Location → Reply σ (Option (List (Option String)))
  suggestNearby : σ → Location → List String → ℤ → ℤ → Reply σ (Option (List Suggestion))

/-- Services without memory that answer every leg alike and find nothing nearby. -/
def Services.steady (eta : Eta) : Services Unit where
  routingServiceRobust _ _ _ _ := ⟨eta, ()⟩
  routingServiceCached _ _ _ _ := ⟨eta, ()⟩
  getKnownHotelName _ _ := ⟨"", ()⟩
  getNearestNamedPlace _ _ := ⟨"Plaza de Armas", ()⟩
  searchNearbyLodging _ _ := ⟨some [], ()⟩
  suggestNearby _ _ _ _ _ := ⟨some [], ()⟩

end Goveling.Optimizer
