/-
# What the response recovers of a transfer

A transfer enters the timeline as a dictionary. The normalization that it passes on the
way keeps the fields of a place, and the formatting then asks for the fields of a
transfer: it finds its own defaults in their stead.
-/

import Goveling.Api.Classification
import Goveling.Optimizer.Transfer

namespace Goveling.Api

open Goveling.Python Goveling.Optimizer

/-! ## The items of a timeline as values -/

/-- The word for a mode. -/
def modeText : TransportMode → String
  | .walk => "walk"
  | .walking => "walking"
  | .drive => "drive"
  | .transit => "transit"
  | .bike => "bike"
  | .flight => "flight"
  | .other name => name

/-- The keys of a normalized dictionary. -/
def placeKeys : List String :=
  ["place_id", "name", "lat", "lon", "category", "type", "rating", "price_level", "address",
    "description", "photos", "opening_hours", "website", "phone", "priority", "image"]

/-- The dictionary that `_normalize_place_fields` returns. -/
def placeDict (place : PlaceFields) : PyDict :=
  [ ("place_id", .str place.placeId),
    ("name", .str place.name),
    ("lat", .float place.lat),
    ("lon", .float place.lon),
    ("category", .str place.category),
    ("type", .str place.type),
    ("rating", .float place.rating),
    ("price_level", .int place.priceLevel),
    ("address", .str place.address),
    ("description", .str place.description),
    ("photos", .list (place.photos.map fun url =>
      .dict (url.toList.map fun text => ("url", .str text)))),
    ("opening_hours", .dict (place.openingHours.map fun entry => (entry.1, .str entry.2))),
    ("website", .str place.website),
    ("phone", .str place.phone),
    ("priority", .int place.priority),
    ("image", .str place.image)]

/-- What `_transfer_item_to_dict` writes down of a transfer before it is normalized. -/
def transferEntries (transfer : TransferItem) : PyDict :=
  [ ("from_place", .str transfer.fromPlace),
    ("to_place", .str transfer.toPlace),
    ("distance_km", .float transfer.distanceKm),
    ("duration_minutes", .int transfer.durationMinutes),
    ("recommended_mode", .str (modeText transfer.recommendedMode)),
    ("is_intercity", .bool transfer.isIntercity),
    ("is_return_to_hotel", .bool transfer.isReturnToHotel),
    ("lat", .float transfer.destination.lat),
    ("lon", .float transfer.destination.lon),
    ("from_lat", .float transfer.origin.lat),
    ("from_lon", .float transfer.origin.lon)]

/-- The dictionary in the timeline. -/
def transferDict (hash : String → ℤ) (transfer : TransferItem) : PyDict :=
  placeDict (transferItemToDict hash transfer)

/-- The attributes of a transfer that is still an object. -/
def transferAttributes (transfer : TransferItem) : PyDict :=
  [ ("type", .str "transfer"),
    ("from_place", .str transfer.fromPlace),
    ("to_place", .str transfer.toPlace),
    ("distance_km", .float transfer.distanceKm),
    ("duration_minutes", .int transfer.durationMinutes),
    ("recommended_mode", .str (modeText transfer.recommendedMode)),
    ("is_intercity", .bool transfer.isIntercity),
    ("overnight", .bool transfer.overnight),
    ("is_return_to_hotel", .bool transfer.isReturnToHotel),
    ("from_lat", .float transfer.origin.lat),
    ("from_lon", .float transfer.origin.lon),
    ("to_lat", .float transfer.destination.lat),
    ("to_lon", .float transfer.destination.lon)]

/-- The attributes of an activity, of a check-in and of a long trip. -/
def scheduledAttributes : Scheduled → PyDict
  | .activity item =>
      [ ("type", .str "activity"),
        ("name", .str item.name),
        ("lat", .float item.location.lat),
        ("lon", .float item.location.lon),
        ("place_type", .str item.placeType),
        ("duration_minutes", .int item.durationMinutes),
        ("start_time", .int item.startTime),
        ("end_time", .int item.endTime),
        ("priority", .int item.priority),
        ("rating", .float item.rating),
        ("image", .str item.image),
        ("address", .str item.address),
        ("quality_flag", item.qualityFlag.elim .none .str)]
  | .hotel item =>
      [ ("type", .str "accommodation"),
        ("name", .str item.name),
        ("lat", .float item.location.lat),
        ("lon", .float item.location.lon),
        ("place_type", .str "hotel"),
        ("duration_minutes", .int item.durationMinutes),
        ("start_time", .int item.startTime),
        ("end_time", .int item.endTime),
        ("description", .str item.description),
        ("rating", .float item.rating),
        ("address", .str item.address)]
  | .intercity item =>
      [ ("type", .str "intercity_activity"),
        ("name", .str item.name),
        ("lat", .float 0),
        ("lon", .float 0),
        ("place_type", .str item.placeType),
        ("duration_minutes", .int item.durationMinutes),
        ("start_time", .int item.startTime),
        ("end_time", .int item.endTime),
        ("description", .str item.description),
        ("rating", .int 0),
        ("address", .str item.address),
        ("transport_mode", .str (modeText item.transportMode)),
        ("is_intercity_activity", .bool true)]

/-- An item of a timeline for `get_value`, which reads the keys of a dictionary and the
attributes of an object alike. -/
def timelineValue (hash : String → ℤ) : TimelineItem → PyVal
  | .transferDict source => .dict (transferDict hash source)
  | .transferItem item => .dict (transferAttributes item)
  | .scheduled item => .dict (scheduledAttributes item)

/-! ## What should be recovered -/

/-- The dictionary has every entry that was written down of the transfer. -/
def CarriesFields (entries : PyDict) (transfer : TransferItem) : Prop :=
  ∀ entry ∈ transferEntries transfer, entries.lookup entry.1 = some entry.2

/-- The entries of the response say what the transfer says. -/
structure ShowsTransfer (data : PyDict) (transfer : TransferItem) : Prop where
  distance : data.get "distance_km" .none = .float transfer.distanceKm
  mode : data.get "transport_mode" .none = .str (modeText transfer.recommendedMode)
  fromPlace : data.get "from_place" .none = .str transfer.fromPlace
  toPlace : data.get "to_place" .none = .str transfer.toPlace
  fromLat : data.get "from_lat" .none = .float transfer.origin.lat
  fromLng : data.get "from_lng" .none = .float transfer.origin.lon
  toLat : data.get "to_lat" .none = .float transfer.destination.lat
  toLng : data.get "to_lng" .none = .float transfer.destination.lon
  intercity : data.get "is_intercity" (.bool false) = .bool transfer.isIntercity
  returnToHotel : data.get "is_return_to_hotel" (.bool false) = .bool transfer.isReturnToHotel

/-- The formatting of an item of the timeline recovers a transfer. The two durations of the
response are texts; what counts are the minutes they are made from. -/
structure RecoversTransfer (env : FormatEnv) (context : FormatContext) (activities : List PyVal)
    (index : ℕ) (activity : PyVal) (order : ℕ) (transfer : TransferItem) : Prop where
  estimatedMinutes : calculateDynamicDuration env activities index activity =
    .ok (.int transfer.durationMinutes)
  recommendedMinutes :
    getValue activity "duration_minutes" (.int 60) = .int transfer.durationMinutes
  response : ∃ data, formatActivityForFrontend env context activities index activity order =
    .ok (some data) ∧ ShowsTransfer data transfer

/-- Where the formatting lets a transfer start that does not say its origin: at the nearest
item before it with a point, at the first item of the day if none has one, and for the first
item of the day at the last one of the day before. -/
def assumedOrigin (context : FormatContext) (before : List PyVal) : PyVal × PyVal :=
  let points := (before.map placeCoords).reverse
  match points with
  | nearest :: _ => (points.find? fun coords => !isUnplaced coords).getD nearest
  | [] =>
      if 1 < context.currentDay then
        (context.prevDayActivities.getLast?.map fun last => placeCoords (.dict last)).getD
          (.float 0, .float 0)
      else (.float 0, .float 0)

/-- A transfer with nothing to lose: its fields are those that the formatting assumes where
it finds none. -/
structure SaysTheDefaults (context : FormatContext) (before : List PyVal)
    (transfer : TransferItem) : Prop where
  distance : transfer.distanceKm = 0
  minutes : transfer.durationMinutes = 60
  mode : modeText transfer.recommendedMode = "walk"
  fromPlace : transfer.fromPlace = ""
  toPlace : transfer.toPlace = ""
  origin : assumedOrigin context before =
    (.float transfer.origin.lat, .float transfer.origin.lon)
  intercity : transfer.isIntercity = false
  returnToHotel : transfer.isReturnToHotel = false

/-! ## What the formatting finds -/

/-- A key that the normalization does not keep has the default of its reader. -/
theorem getValue_placeDict {place : PlaceFields} {key : String} (hkey : key ∉ placeKeys)
    (default : PyVal) : getValue (.dict (placeDict place)) key default = default := by
  have hmissing : (placeDict place).lookup key = none := by
    rw [List.lookup_eq_none_iff]
    intro entry hentry
    have hmem : entry.1 ∈ placeKeys := List.mem_map_of_mem (f := Prod.fst) hentry
    rw [bne_iff_ne]
    rintro rfl
    exact hkey hmem
  simp [getValue, PyDict.get, hmissing]

section Transfer

variable {hash : String → ℤ} {env : FormatEnv} {context : FormatContext}
  {before after : List PyVal} {transfer : TransferItem}

/-- The dictionary is tagged, so it is shown with the fields of a transfer. -/
theorem isTaggedTransfer_transferDict :
    isTaggedTransfer (.dict (transferDict hash transfer)) = true := rfl

theorem isIntercityActivity_transferDict :
    isIntercityActivity (.dict (transferDict hash transfer)) = false := rfl

/-- Without an origin of its own a transfer starts where the formatting assumes. -/
theorem fromCoords_transferDict :
    fromCoords context (before ++ .dict (transferDict hash transfer) :: after) before.length
      (.dict (transferDict hash transfer)) = assumedOrigin context before := by
  have hown : ∀ key ∈ ["from_lat", "from_lon", "from_lng"],
      getValue (.dict (transferDict hash transfer)) key (.float 0) = .float 0 := by
    intro key hkey
    have hmissing : key ∉ placeKeys := by
      revert key
      decide
    exact getValue_placeDict hmissing _
  unfold fromCoords
  rw [hown "from_lat" (by simp), hown "from_lon" (by simp), hown "from_lng" (by simp)]
  cases before with
  | nil => rfl
  | cons first rest =>
      have htake : (first :: rest ++ .dict (transferDict hash transfer) :: after).take
          (rest.length + 1) = first :: rest := List.take_left' rfl
      simp only [List.length_cons, isUnplaced, isZero, PyVal.number?, htake]
      unfold assumedOrigin
      cases hpoints : (List.map placeCoords (first :: rest)).reverse with
      | nil => simp at hpoints
      | cons nearest others => rfl

/-- The entries of the response show a transfer when it says what the formatting assumes. -/
theorem showsTransfer_iff {order : ℕ} {data : PyDict}
    (hformat : formatActivityForFrontend env context
      (before ++ .dict (transferDict hash transfer) :: after) before.length
      (.dict (transferDict hash transfer)) order = .ok (some data)) :
    ShowsTransfer data transfer ↔
      (transfer.distanceKm = 0 ∧ modeText transfer.recommendedMode = "walk" ∧
        transfer.fromPlace = "" ∧ transfer.toPlace = "" ∧
        assumedOrigin context before =
          (.float transfer.origin.lat, .float transfer.origin.lon) ∧
        transfer.isIntercity = false ∧ transfer.isReturnToHotel = false) := by
  unfold formatActivityForFrontend at hformat
  rw [isIntercityActivity_transferDict, isTaggedTransfer_transferDict] at hformat
  obtain ⟨duration, -, hformat⟩ := exists_of_bind_eq_ok hformat
  obtain ⟨estimatedTime, -, hformat⟩ := exists_of_bind_eq_ok hformat
  obtain ⟨recommendedDuration, -, hformat⟩ := exists_of_bind_eq_ok hformat
  obtain ⟨bestTime, -, hformat⟩ := exists_of_bind_eq_ok hformat
  cases hformat
  have horigin := @fromCoords_transferDict hash context before after transfer
  constructor
  · intro hshows
    have hdistance : PyVal.float 0 = .float transfer.distanceKm := hshows.distance
    have hmode : PyVal.str "walk" = .str (modeText transfer.recommendedMode) := hshows.mode
    have hfromPlace : PyVal.str "" = .str transfer.fromPlace := hshows.fromPlace
    have htoPlace : PyVal.str "" = .str transfer.toPlace := hshows.toPlace
    have hintercity : PyVal.bool false = .bool transfer.isIntercity := hshows.intercity
    have hreturn : PyVal.bool false = .bool transfer.isReturnToHotel := hshows.returnToHotel
    have hlat : (assumedOrigin context before).1 = .float transfer.origin.lat := by
      rw [← horigin]
      exact hshows.fromLat
    have hlon : (assumedOrigin context before).2 = .float transfer.origin.lon := by
      rw [← horigin]
      exact hshows.fromLng
    rw [PyVal.float.injEq] at hdistance
    rw [PyVal.str.injEq] at hmode hfromPlace htoPlace
    rw [PyVal.bool.injEq] at hintercity hreturn
    exact ⟨NNRat.coe_eq_zero.mp hdistance.symm, hmode.symm, hfromPlace.symm, htoPlace.symm,
      Prod.ext hlat hlon, hintercity.symm, hreturn.symm⟩
  · rintro ⟨hdistance, hmode, hfromPlace, htoPlace, hassumed, hintercity, hreturn⟩
    rw [hassumed] at horigin
    exact
      { distance := by
          rw [hdistance]
          rfl
        mode := by
          rw [hmode]
          rfl
        fromPlace := by
          rw [hfromPlace]
          rfl
        toPlace := by
          rw [htoPlace]
          rfl
        fromLat := congrArg Prod.fst horigin
        fromLng := congrArg Prod.snd horigin
        toLat := rfl
        toLng := rfl
        intercity := by
          rw [hintercity]
          rfl
        returnToHotel := by
          rw [hreturn]
          rfl }

end Transfer

/-! ## The formatting of a transfer that says the defaults -/

/-- The end of an item is a whole number, or is not there. -/
theorem exists_endTime (hash : String → ℤ) (item : TimelineItem) :
    ∃ stop : ℤ, getValue (timelineValue hash item) "end_time" (.int 0) = .int stop := by
  cases item with
  | transferDict source => exact ⟨0, rfl⟩
  | transferItem transfer => exact ⟨0, rfl⟩
  | scheduled item =>
      cases item with
      | activity item => exact ⟨item.endTime, rfl⟩
      | hotel item => exact ⟨item.endTime, rfl⟩
      | intercity item => exact ⟨item.endTime, rfl⟩

section Timeline

variable {hash : String → ℤ} {env : FormatEnv} {before : List TimelineItem}
  {after : List PyVal} {transfer : TransferItem} {minutes : ℤ}

/-- A transfer has whole times: none, or those behind the item before it. -/
theorem exists_timesOf_eq_ok
    (hminutes : calculateDynamicDuration env
      (before.map (timelineValue hash) ++ .dict (transferDict hash transfer) :: after)
      before.length (.dict (transferDict hash transfer)) = .ok (.int minutes)) :
    ∃ start stop : ℤ, timesOf env
      (before.map (timelineValue hash) ++ .dict (transferDict hash transfer) :: after)
      before.length (.dict (transferDict hash transfer)) = .ok (.int start, .int stop) := by
  have hstart : getValue (.dict (transferDict hash transfer)) "start_time" (.int 0) = .int 0 := rfl
  have hstop : getValue (.dict (transferDict hash transfer)) "end_time" (.int 0) = .int 0 := rfl
  have htransfer : isTransfer env (.dict (transferDict hash transfer)) = true := rfl
  have hzero : isZero (.int 0) = true := by decide
  unfold timesOf
  simp only [hminutes, hstart, hstop, htransfer, hzero, Bool.true_or, Bool.true_and, if_true]
  cases before using List.reverseRecOn with
  | nil => exact ⟨0, 0, rfl⟩
  | append_singleton first last =>
      obtain ⟨stop, hlast⟩ := exists_endTime hash last
      have hprevious : (List.map (timelineValue hash) (first ++ [last]) ++
          .dict (transferDict hash transfer) :: after)[(first ++ [last]).length - 1]? =
            some (timelineValue hash last) := by
        simp
      have hpositive : 0 < (first ++ [last]).length := by simp
      rw [if_pos hpositive, hprevious]
      dsimp only
      rw [hlast]
      have hcompared : (PyVal.int stop).greaterThan 0 "int" = .ok (decide (0 < stop)) := by
        simp [PyVal.greaterThan, PyVal.number?]
      rw [hcompared]
      by_cases hlate : 0 < stop
      · refine ⟨stop, stop + minutes, ?_⟩
        rw [decide_eq_true hlate]
        rfl
      · refine ⟨0, 0, ?_⟩
        rw [decide_eq_false hlate]
        rfl

theorem exists_formatTimeWindow_eq_ok
    (hminutes : calculateDynamicDuration env
      (before.map (timelineValue hash) ++ .dict (transferDict hash transfer) :: after)
      before.length (.dict (transferDict hash transfer)) = .ok (.int minutes)) :
    ∃ window, formatTimeWindow env
      (before.map (timelineValue hash) ++ .dict (transferDict hash transfer) :: after)
      before.length (.dict (transferDict hash transfer)) = .ok window := by
  obtain ⟨start, stop, htimes⟩ := exists_timesOf_eq_ok hminutes
  unfold formatTimeWindow
  rw [htimes]
  simp only [bind, Except.bind, comparedTime, PyVal.number?, PyVal.whole?]
  split_ifs <;> exact ⟨_, rfl⟩

/-- Without names, distance and flag the name of a transfer of an hour says its minutes. -/
theorem name_transferItemToDict (hminutes : transfer.durationMinutes = 60)
    (hfromPlace : transfer.fromPlace = "") (htoPlace : transfer.toPlace = "")
    (hreturn : transfer.isReturnToHotel = false) :
    (transferItemToDict hash transfer).name = "Traslado (60min)" := by
  have htext : "Traslado (" ++ (toString (60 : ℤ) ++ "min)") = "Traslado (60min)" := by decide
  simpa [transferItemToDict, normalizePlaceFields, generateSmartName, transferName, hminutes,
    hfromPlace, htoPlace, hreturn] using htext

/-- The minutes are read from the name. -/
theorem calculateDynamicDuration_transferDict {activities : List PyVal} {index : ℕ}
    (hname : (transferItemToDict hash transfer).name = "Traslado (60min)") :
    calculateDynamicDuration env activities index (.dict (transferDict hash transfer)) =
      .ok (.int 60) := by
  have hfound : getValue (.dict (transferDict hash transfer)) "name" (.str "") =
      .str (transferItemToDict hash transfer).name := rfl
  have hduration : getValue (.dict (transferDict hash transfer)) "duration_minutes" (.int 0) =
      .int 0 := rfl
  have hnone : (PyVal.int 0).greaterThan 0 "int" = .ok false := by
    simp [PyVal.greaterThan, PyVal.number?]
  have hread : minutesInName "Traslado (60min)" = some 60 := by decide +kernel
  unfold calculateDynamicDuration
  rw [hduration, hfound, hname, isTaggedTransfer_transferDict]
  dsimp only [FormatEnv.strOf]
  rw [hnone, hread]
  rfl

end Timeline

/-! ## What is lost -/

/-- The normalization leaves out what only a transfer has, its distance for one. -/
theorem not_carriesFields_transferDict (hash : String → ℤ) (transfer : TransferItem) :
    ¬ CarriesFields (transferDict hash transfer) transfer := by
  intro hcarries
  have hdistance := hcarries ("distance_km", .float transfer.distanceKm) (by simp [transferEntries])
  have hmissing : (transferDict hash transfer).lookup "distance_km" = none := rfl
  rw [hmissing] at hdistance
  cases hdistance

/-- No dictionary of the timeline carries the fields of its transfer, and the formatting
recovers them exactly when they are what it assumes without them. -/
theorem recoversTransfer_iff (hash : String → ℤ) (env : FormatEnv) (context : FormatContext)
    (before after : List TimelineItem) (transfer : TransferItem) (order : ℕ) :
    ¬ CarriesFields (transferDict hash transfer) transfer ∧
      (RecoversTransfer env context
          ((before ++ .transferDict transfer :: after).map (timelineValue hash)) before.length
          (.dict (transferDict hash transfer)) order transfer ↔
        SaysTheDefaults context (before.map (timelineValue hash)) transfer) := by
  refine ⟨not_carriesFields_transferDict hash transfer, ?_⟩
  have hactivities : (before ++ .transferDict transfer :: after).map (timelineValue hash) =
      before.map (timelineValue hash) ++
        .dict (transferDict hash transfer) :: after.map (timelineValue hash) := by
    rw [List.map_append, List.map_cons]
    rfl
  have hlength : before.length = (before.map (timelineValue hash)).length := by
    rw [List.length_map]
  have hrecommended :
      getValue (.dict (transferDict hash transfer)) "duration_minutes" (.int 60) = .int 60 := rfl
  rw [hactivities]
  constructor
  · rintro ⟨-, hminutes, data, hformat, hshows⟩
    rw [hrecommended, PyVal.int.injEq] at hminutes
    rw [hlength] at hformat
    obtain ⟨hdistance, hmode, hfromPlace, htoPlace, horigin, hintercity, hreturn⟩ :=
      (showsTransfer_iff hformat).mp hshows
    exact ⟨hdistance, by exact_mod_cast hminutes.symm, hmode, hfromPlace, htoPlace, horigin,
      hintercity, hreturn⟩
  · rintro ⟨hdistance, hminutes, hmode, hfromPlace, htoPlace, horigin, hintercity, hreturn⟩
    have hestimated := fun activities index =>
      @calculateDynamicDuration_transferDict hash env transfer activities index
        (name_transferItemToDict hminutes hfromPlace htoPlace hreturn)
    obtain ⟨data, hformat⟩ : ∃ data, formatActivityForFrontend env context
        (before.map (timelineValue hash) ++
          .dict (transferDict hash transfer) :: after.map (timelineValue hash)) before.length
        (.dict (transferDict hash transfer)) order = .ok (some data) := by
      obtain ⟨window, hwindow⟩ := exists_formatTimeWindow_eq_ok
        (hestimated (before.map (timelineValue hash) ++
          .dict (transferDict hash transfer) :: after.map (timelineValue hash)) before.length)
      unfold formatActivityForFrontend
      rw [isIntercityActivity_transferDict, hestimated, hrecommended, hwindow]
      exact ⟨_, rfl⟩
    have hshown := hformat
    rw [hlength] at hshown
    exact
      { estimatedMinutes := by
          rw [hestimated, hminutes]
          rfl
        recommendedMinutes := by
          rw [hrecommended, hminutes]
          rfl
        response := ⟨data, hformat, (showsTransfer_iff hshown).mpr
          ⟨hdistance, hmode, hfromPlace, htoPlace, horigin, hintercity, hreturn⟩⟩ }

/-- A drive of twelve kilometres from a hotel to a museum. -/
def driveToMuseum : TransferItem where
  fromPlace := "Hotel"
  toPlace := "Museo"
  distanceKm := 12
  durationMinutes := 25
  recommendedMode := .drive
  origin := .onEquator 1
  destination := .onEquator (11 / 10)

/-- The drive becomes an hour of walking from nowhere to nowhere. -/
theorem not_recoversTransfer_driveToMuseum :
    ¬ CarriesFields (transferDict (fun _ => 0) driveToMuseum) driveToMuseum ∧
      ¬ RecoversTransfer walkingEnv ⟨1, []⟩
        [timelineValue (fun _ => 0) (.transferDict driveToMuseum)] 0
        (.dict (transferDict (fun _ => 0) driveToMuseum)) 1 driveToMuseum := by
  refine ⟨not_carriesFields_transferDict _ _, ?_⟩
  intro hrecovers
  have hminutes : PyVal.int 60 = .int 25 := hrecovers.recommendedMinutes
  cases hminutes

end Goveling.Api
