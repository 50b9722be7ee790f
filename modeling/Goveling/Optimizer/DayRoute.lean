/-
# Routing one day

`route_day_enhanced` goes through the clusters of a day: it travels to the home
base of each, routes its places, and carries a clock, a location and the totals
of the day along. A trip to a home base that does not fit in the day ends the
loop. The rest of the day becomes a free block.
-/

import Goveling.Optimizer.ClusterRoute

namespace Goveling.Optimizer

open Goveling.Math Goveling.Python

universe u

variable {σ : Type u}

/-- The local variables of the loop over the clusters. -/
structure DayState (σ : Type u) where
  timeline : List TimelineItem
  transfers : List TransferRecord
  activitiesScheduled : List Scheduled
  currentTime : ℤ
  currentLocation : Option Location
  walkingTime : ℕ
  transportTime : ℕ
  intercityTransfersCount : ℕ
  intercityTotalMinutes : ℕ
  totalDistance : ℚ≥0
  service : σ

/-! ## The start of the day -/

/-- Where the day starts: where the previous one ended, else the home base of
the first cluster, else its first place. -/
def dayStartLocation (assignedClusters : List Cluster)
    (previousDayEndLocation : Option Location) : Option Location :=
  match previousDayEndLocation, assignedClusters with
  | some location, _ => some location
  | none, [] => none
  | none, mainCluster :: _ =>
      match mainCluster.homeBase with
      | some base => some base.location
      | none => mainCluster.places.head?.map Place.location

/-- The check-in of the first day. -/
def checkIn (mainCluster : Cluster) (location : Location) (currentTime : ℤ) : HotelActivity :=
  let hotelName := mainCluster.homeBase.elim "hotel" HomeBase.name
  { name := "Check-in al " ++ hotelName
    location := location
    durationMinutes := 30
    startTime := currentTime
    endTime := currentTime + 30
    description := "Llegada y check-in al " ++ hotelName
    rating := (mainCluster.homeBase.bind HomeBase.rating).getD (9 / 2)
    address := (mainCluster.homeBase.bind HomeBase.address).getD "Hotel base del viaje" }

/-- The local variables before the loop, with the check-in on the first day. -/
def dayInit (ctx : DayContext σ) (service : σ) (assignedClusters : List Cluster)
    (previousDayEndLocation : Option Location) (dayNumber : ℤ) : DayState σ :=
  let location := dayStartLocation assignedClusters previousDayEndLocation
  let hotel : List Scheduled :=
    match assignedClusters, location with
    | mainCluster :: _, some here =>
        if dayNumber = 1 then [.hotel (checkIn mainCluster here ctx.dailyWindow.start)] else []
    | _, _ => []
  { timeline := hotel.map .scheduled
    transfers := []
    activitiesScheduled := hotel
    currentTime := ctx.dailyWindow.start + 30 * hotel.length
    currentLocation := location
    walkingTime := 0
    transportTime := 0
    intercityTransfersCount := 0
    intercityTotalMinutes := 0
    totalDistance := 0
    service := service }

/-! ## One cluster -/

/-- The entry of the `transfers` list for a trip to a home base. -/
def inboundRecord (transfer : TransferItem) (currentTime : ℤ) : TransferRecord where
  type := "intercity_transfer"
  fromName := transfer.fromPlace
  toName := transfer.toPlace
  origin := transfer.origin
  destination := transfer.destination
  distanceKm := transfer.distanceKm
  durationMinutes := transfer.durationMinutes
  mode := transfer.recommendedMode
  time := clockText currentTime
  overnight := transfer.overnight
  description := some ("Viaje de " ++ transfer.fromPlace ++ " a " ++ transfer.toPlace)

/-- The items a trip to a home base adds to the day besides its transfer. -/
def tripActivities (transfer : TransferItem) (currentTime : ℤ) : List Scheduled :=
  ((createIntercityActivity transfer currentTime).map Scheduled.intercity).toList

/-- Place a trip to a home base: its transfer, its activity if it is long, and
its share of the totals. -/
def recordInbound (state : DayState σ) (transfer : TransferItem) : DayState σ :=
  let trip := tripActivities transfer state.currentTime
  { state with
    timeline := state.timeline ++ .transferDict transfer :: trip.map .scheduled
    activitiesScheduled := state.activitiesScheduled ++ trip
    transfers := state.transfers ++ [inboundRecord transfer state.currentTime]
    intercityTransfersCount := state.intercityTransfersCount + 1
    intercityTotalMinutes := state.intercityTotalMinutes + transfer.durationMinutes
    transportTime := state.transportTime + transfer.durationMinutes
    totalDistance := state.totalDistance + transfer.distanceKm
    currentTime := state.currentTime + transfer.durationMinutes }

/-- Up to this distance from a home base the day is already there. -/
def atBaseKm : ℚ≥0 := NNRat.divNat 1 10

/-- The trip to the home base of a cluster, unless it is at most 100 m away.
`done` is the trip that does not fit in the day. -/
def enterCluster (ctx : DayContext σ) (state : DayState σ) (cluster : Cluster) :
    ForInStep (DayState σ) :=
  match state.currentLocation, cluster.homeBase with
  | some here, some base =>
      if atBaseKm < ctx.globe.haversineKm here base.location then
        let built := buildEnhancedTransfer ctx.services ctx.settings state.service here
          base.location ctx.transportMode cluster
        let asked := { state with service := built.next }
        if ctx.dailyWindow.stop < state.currentTime + built.value.durationMinutes then
          -- marked as overnight; the clusters from here on are left out of the day
          .done asked
        else
          let moved :=
            if 0 < built.value.durationMinutes then recordInbound asked built.value else asked
          .yield { moved with currentLocation := some base.location }
      else .yield { state with currentLocation := some base.location }
  | _, _ => .yield state

/-- The totals after the transfers of a cluster's timeline; only items that are
still `TransferItem` objects are counted. -/
def countTransfers (state : DayState σ) (timeline : List TimelineItem) : DayState σ :=
  timeline.foldl (fun state item =>
    match item with
    | .transferItem transfer =>
        let state := { state with totalDistance := state.totalDistance + transfer.distanceKm }
        if transfer.recommendedMode = .walk then
          { state with walkingTime := state.walkingTime + transfer.durationMinutes }
        else { state with transportTime := state.transportTime + transfer.durationMinutes }
    | _ => state) state

/-- Add the routed places of a cluster to the day. The clock and the location
follow the last item of its timeline, if that item has them. -/
def addRoute (state : DayState σ) (route : ClusterRoute σ) : DayState σ :=
  let last := route.timeline.getLast?
  countTransfers
    { state with
      activitiesScheduled := state.activitiesScheduled ++ route.activities.map .activity
      timeline := state.timeline ++ route.timeline
      currentTime := (last.bind TimelineItem.endTime?).getD state.currentTime
      currentLocation := (last.bind TimelineItem.location?).or state.currentLocation
      service := route.next }
    route.timeline

/-- The body of the loop over the clusters. -/
def routeCluster (ctx : DayContext σ) (state : DayState σ) (cluster : Cluster) :
    ForInStep (DayState σ) :=
  match enterCluster ctx state cluster with
  | .done overnight => .done overnight
  | .yield entered =>
      .yield (addRoute entered
        (routeClusterWithTimeWindows ctx entered.service cluster entered.currentTime))

/-! ## The rest of the day -/

/-- `_select_types_by_duration_and_day`. -/
def selectTypesByDurationAndDay (durationMinutes dayNumber : ℤ) : List String :=
  let varietyTypes := ["cafe", "restaurant", "museum", "park", "point_of_interest", "art_gallery"]
  let dayIndex := ((dayNumber - 1) % 6).toNat
  let secondaryType := varietyTypes.getD dayIndex ""
  let tertiaryType := varietyTypes.getD ((dayIndex + 1) % 6) ""
  if 480 ≤ durationMinutes then ["tourist_attraction", secondaryType, tertiaryType]
  else if 240 ≤ durationMinutes then ["tourist_attraction", secondaryType]
  else ["tourist_attraction", "cafe"]

/-- The location free time is planned around: coordinates, or the base of an
earlier day, whose coordinates cannot be read by position. -/
inductive SuggestionOrigin
  | point (location : Location)
  | base (info : BaseInfo)

/-- The suggestions and the note of a free block, from the answer of the search. -/
def describeSuggestions (blockDuration : ℤ) :
    Option (List Suggestion) → List Suggestion × String
  | none => ([], "Servicio de sugerencias temporalmente no disponible")
  | some suggestions =>
      let realCount := (suggestions.filter (!·.synthetic)).length
      if 0 < realCount then
        (suggestions, "Sugerencias para " ++ toString (blockDuration / 60) ++
          "h de tiempo libre (" ++ toString realCount ++ " lugares reales de alta calidad)")
      else
        ([], "No hay lugares cercanos que cumplan nuestros estándares de calidad " ++
          "(4.5⭐, 20+ reseñas)")

/-- The suggestions of `_generate_free_blocks_enhanced`, for at least an hour. -/
def askSuggestions (services : Services σ) (service : σ) (blockDuration : ℤ)
    (origin : Option SuggestionOrigin) (dayNumber : ℤ) : Reply σ (List Suggestion × String) :=
  match origin with
  | none => ⟨([], ""), service⟩
  | some place =>
      if blockDuration < 60 then ⟨([], ""), service⟩
      else
        match place with
        | .base _ => ⟨describeSuggestions blockDuration none, service⟩
        | .point location =>
            let answer := services.suggestNearby service location
              (selectTypesByDurationAndDay blockDuration dayNumber) blockDuration dayNumber
            ⟨describeSuggestions blockDuration answer.value, answer.next⟩

/-- `_generate_free_blocks_enhanced`. -/
def generateFreeBlocksEnhanced (services : Services σ) (service : σ)
    (currentTime dayEnd : ℤ) (origin : Option SuggestionOrigin) (dayNumber : ℤ) :
    Reply σ (List FreeBlock) :=
  if currentTime < dayEnd then
    let blockDuration := dayEnd - currentTime
    let asked := askSuggestions services service blockDuration origin dayNumber
    { value := [
        { startTime := currentTime
          endTime := dayEnd
          durationMinutes := blockDuration
          suggestions := asked.value.1
          note := asked.value.2 }]
      next := asked.next }
  else ⟨[], service⟩

/-- The centre of the suggestions: the current location, unless it is more than
100 km from the first home base of the day. -/
def suggestionsOrigin (globe : Globe) (assignedClusters : List Cluster)
    (currentLocation : Option Location) : Option Location :=
  match currentLocation, assignedClusters with
  | some here, mainCluster :: _ =>
      match mainCluster.homeBase with
      | some base =>
          if 100 < globe.haversineKm here base.location then some base.location else some here
      | none => some here
  | location, _ => location

/-- `_build_enhanced_base_info`; the flag is `no_original_accommodations`. -/
def buildEnhancedBaseInfo (cluster : Cluster) (noOriginalAccommodations : Bool) :
    Option BaseInfo :=
  cluster.homeBase.map fun base =>
    if noOriginalAccommodations then
      { base with autoRecommended := true, recommendationSource := "auto_recommended_by_system" }
    else
      { base with
        autoRecommended :=
          cluster.homeBaseSource = "recommended" ||
            cluster.homeBaseSource = "auto_recommended_by_system"
        recommendationSource := cluster.homeBaseSource }

/-- What `route_day_enhanced` is called with besides the context. -/
structure DayRequest where
  date : ℤ
  assignedClusters : List Cluster
  previousDayEndLocation : Option Location := none
  dayNumber : ℤ := 1
  noOriginalAccommodations : Bool := false

/-- The state of the day after the loop over its clusters. -/
def routedState (ctx : DayContext σ) (service : σ) (request : DayRequest) : DayState σ :=
  forBreak (routeCluster ctx) request.assignedClusters
    (dayInit ctx service request.assignedClusters request.previousDayEndLocation
      request.dayNumber)

/-- Minutes of everything that was scheduled. -/
def scheduledMinutes (items : List Scheduled) : ℕ := (items.map Scheduled.durationMinutes).sum

/-- The end of `route_day_enhanced`: the free block and the totals. -/
def closeDay (ctx : DayContext σ) (request : DayRequest) (state : DayState σ) :
    Reply σ DayRecord :=
  let origin := suggestionsOrigin ctx.globe request.assignedClusters state.currentLocation
  let blocks := generateFreeBlocksEnhanced ctx.services state.service state.currentTime
    ctx.dailyWindow.stop (origin.map .point) request.dayNumber
  let totalTravelTime := state.walkingTime + state.transportTime
  { value :=
      { date := request.date
        timeline := state.timeline
        pureActivities := state.activitiesScheduled
        transfers := state.transfers
        freeBlocks := blocks.value
        base := request.assignedClusters.head?.bind
          (buildEnhancedBaseInfo · request.noOriginalAccommodations)
        travelSummary :=
          { totalTravelTimeS := totalTravelTime * 60
            totalDistanceKm := state.totalDistance
            walkingTimeMinutes := state.walkingTime
            transportTimeMinutes := state.transportTime
            intercityTransfersCount := state.intercityTransfersCount
            intercityTotalMinutes := state.intercityTotalMinutes }
        freeMinutes := max 0 ((ctx.dailyWindow.stop - ctx.dailyWindow.start) -
          scheduledMinutes state.activitiesScheduled - totalTravelTime)
        endLocation := state.currentLocation }
    next := blocks.next }

/-- `route_day_enhanced`. -/
def routeDayEnhanced (ctx : DayContext σ) (service : σ) (request : DayRequest) :
    Reply σ DayRecord :=
  closeDay ctx request (routedState ctx service request)

/-- The day `_optimize_classic_method` writes for a date without clusters. It has
no `pure_activities` and no `end_location`. -/
def freeDay (ctx : DayContext σ) (service : σ) (date : ℤ) (origin : Option SuggestionOrigin)
    (inheritedBase : Option BaseInfo) (dayNumber : ℤ) : Reply σ DayRecord :=
  let blocks := generateFreeBlocksEnhanced ctx.services service ctx.dailyWindow.start
    ctx.dailyWindow.stop origin dayNumber
  { value :=
      { date := date
        timeline := []
        pureActivities := []
        transfers := []
        freeBlocks := blocks.value
        base := inheritedBase
        travelSummary := {}
        freeMinutes := ctx.dailyWindow.stop - ctx.dailyWindow.start
        endLocation := none }
    next := blocks.next }

/-- A context on the equator in which every leg is answered alike. -/
def DayContext.steady (eta : Eta) (dailyWindow : TimeWindow) : DayContext Unit where
  globe := .equatorial
  services := .steady eta
  settings := {}
  dailyWindow := dailyWindow
  transportMode := .drive

/-- A park 5.56 km from the hotel it is visited from. -/
def Cluster.parkNearHotel : Cluster where
  label := "0"
  centroid := .onEquator (5 / 100)
  places := [{ name := "Parque", location := .onEquator (5 / 100), type := some "park" }]
  homeBase := some { name := "Hotel", location := .onEquator 0 }

/-! ## What one cluster does to the day -/

/-- The trip to a home base does one of three things: it ends the loop, it
leaves the day as it is, or it is placed with the time it takes. -/
theorem enterCluster_cases (ctx : DayContext σ) (state : DayState σ) (cluster : Cluster) :
    (∃ service, enterCluster ctx state cluster = .done { state with service := service }) ∨
      (∃ location service, enterCluster ctx state cluster =
        .yield { state with currentLocation := location, service := service }) ∨
      ∃ transfer location service, 0 < transfer.durationMinutes ∧
        enterCluster ctx state cluster =
          .yield { recordInbound { state with service := service } transfer with
            currentLocation := location } := by
  unfold enterCluster
  split
  · split
    · dsimp only
      split
      · exact .inl ⟨_, rfl⟩
      · split
        · rename_i hpos
          exact .inr (.inr ⟨_, _, _, hpos, rfl⟩)
        · exact .inr (.inl ⟨_, _, rfl⟩)
    · exact .inr (.inl ⟨_, state.service, rfl⟩)
  · exact .inr (.inl ⟨state.currentLocation, state.service, rfl⟩)

/-- No item of a cluster's timeline is a `TransferItem` any more. -/
theorem countTransfers_of_visits {timeline : List TimelineItem}
    (hvisits : ∀ item ∈ timeline, IsVisitItem item) (state : DayState σ) :
    countTransfers state timeline = state := by
  unfold countTransfers
  induction timeline with
  | nil => rfl
  | cons item rest ih =>
      rw [List.foldl_cons]
      cases hvisits item List.mem_cons_self with
      | leg transfer => exact ih fun item hitem => hvisits item (List.mem_cons_of_mem _ hitem)
      | visit activity => exact ih fun item hitem => hvisits item (List.mem_cons_of_mem _ hitem)

/-- Adding a route of visits: the totals stay as they are. -/
theorem addRoute_of_visits {route : ClusterRoute σ}
    (hvisits : ∀ item ∈ route.timeline, IsVisitItem item) (state : DayState σ) :
    addRoute state route =
      { state with
        activitiesScheduled := state.activitiesScheduled ++ route.activities.map .activity
        timeline := state.timeline ++ route.timeline
        currentTime :=
          (route.timeline.getLast?.bind TimelineItem.endTime?).getD state.currentTime
        currentLocation :=
          (route.timeline.getLast?.bind TimelineItem.location?).or state.currentLocation
        service := route.next } :=
  countTransfers_of_visits hvisits _

end Goveling.Optimizer
