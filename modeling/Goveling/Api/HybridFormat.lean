/-
# How the hybrid endpoint formats days

Every item of a day becomes a place or a transfer of the response, unless it is an
intercity activity. What tells a transfer is its category, its type or a word in
its name; the times of the day are then added up over the places alone.
-/

import Goveling.Api.ResultReaders
import Goveling.Api.TimeTexts

namespace Goveling.Api

open Goveling.Python Goveling.Ortools

/-- What the formatting takes from the request, the text of a value that is none
yet, and the distance between two points. -/
structure FormatEnv where
  textOf : PyVal → String
  haversineKm : ℚ → ℚ → ℚ → ℚ → ℚ
  transportMode : String
  dailyStartHour : ℕ
  dailyEndHour : ℕ

/-- `str(value)`. -/
def FormatEnv.strOf (env : FormatEnv) : PyVal → String
  | .str text => text
  | value => env.textOf value

/-! ## What is a transfer -/

/-- The name of an item in small letters. -/
def FormatEnv.nameOf (env : FormatEnv) (activity : PyVal) : String :=
  lowerText (env.strOf (getValue activity "name" (.str "")))

/-- Some word occurs in the name of an item. -/
def FormatEnv.nameHas (env : FormatEnv) (words : List String) (activity : PyVal) : Bool :=
  words.any fun word => textIn word (env.nameOf activity)

/-- The words that make an item a transfer. -/
def transferWords : List String := ["traslado", "viaje", "regreso"]

/-- The category or the type of an item is `transfer`. -/
def isTaggedTransfer (activity : PyVal) : Bool :=
  (getValue activity "category" (.str "")).isText "transfer" ||
    (getValue activity "type" (.str "")).isText "transfer"

/-- The test of the loop over the items. -/
def isTransfer (env : FormatEnv) (activity : PyVal) : Bool :=
  isTaggedTransfer activity || env.nameHas transferWords activity

/-- An intercity activity is left out of the days. -/
def isIntercityActivity (activity : PyVal) : Bool :=
  (getValue activity "is_intercity_activity" (.bool false)).truthy ||
    (getValue activity "type" (.str "")).isText "intercity_activity"

/-! ## The duration of an item -/

/-- A number that is zero. -/
def isZero (value : PyVal) : Bool := value.number? = some 0

/-- `table.get(key, default)`. -/
def tableGet {β : Type} (table : List (String × β)) (key : PyVal) (default : β) :
    Except PyError β :=
  match key with
  | .str text => .ok ((table.lookup text).getD default)
  | key =>
      if key.hashable then .ok default
      else .error (.typeError ("unhashable type: '" ++ key.typeName ++ "'"))

/-- What follows the first opening bracket that it can be read behind. -/
def searchBracket {β : Type} (read : List Char → Option β) : List Char → Option β
  | [] => none
  | c :: rest =>
      if c = '(' then (read rest).or (searchBracket read rest) else searchBracket read rest

/-- Digits up to a closing text. -/
def digitsBefore (closing text : List Char) : Option ℕ :=
  if closing.isPrefixOf (text.dropWhile Char.isDigit) then
    Math.numberOf (text.takeWhile Char.isDigit)
  else none

/-- Minutes in brackets, such as `(68min)`. -/
def minutesInName (name : String) : Option ℕ :=
  searchBracket (digitsBefore "min)".toList) name.toList

/-- Hours in brackets, such as `(3h)` or `(2.5h)`. -/
def hoursInName (name : String) : Option ℚ :=
  searchBracket (fun text =>
    match text.dropWhile Char.isDigit with
    | '.' :: decimals => do
        let whole ← Math.numberOf (text.takeWhile Char.isDigit)
        let fraction ← digitsBefore "h)".toList decimals
        some (whole + fraction / 10 ^ (decimals.takeWhile Char.isDigit).length)
    | _ => (digitsBefore "h)".toList text).map fun n : ℕ => (n : ℚ)) name.toList

example : minutesInName "Traslado (68min)" = some 68 := by decide +kernel

/-- The kilometres per hour of a mode. -/
def speeds : List (String × ℚ) :=
  [("walk", 9 / 2), ("walking", 9 / 2), ("drive", 45), ("car", 45),
    ("transit", 30), ("bicycle", 15)]

/-- The minutes of a transfer between unknown points. -/
def fallbackTimes : List (String × ℕ) :=
  [("walk", 20), ("walking", 20), ("drive", 15), ("car", 15), ("transit", 25), ("bicycle", 12)]

/-- The minutes of an item without a duration. -/
def activityDefaults : List (String × ℕ) :=
  [("hotel", 30), ("restaurant", 90), ("museum", 120), ("tourist_attraction", 90), ("park", 60),
    ("cafe", 45), ("shopping_mall", 120)]

/-- The point of a neighbour, if neither coordinate is zero. -/
def coordsOf? (activity : PyVal) : Option (PyVal × PyVal) :=
  let lat := getValue activity "lat" (.float 0)
  let lon := getValue activity "lon" (.float 0)
  if isZero lat || isZero lon then none else some (lat, lon)

/-- A number for the functions of `math`. -/
def realNumber (value : PyVal) : Except PyError ℚ :=
  match value.number? with
  | some number => .ok number
  | none => .error (.typeError ("must be real number, not " ++ value.typeName))

/-- `haversine_km` of two points. -/
def FormatEnv.distanceKm (env : FormatEnv) (origin dest : PyVal × PyVal) : Except PyError ℚ := do
  .ok (env.haversineKm (← realNumber origin.1) (← realNumber origin.2) (← realNumber dest.1)
    (← realNumber dest.2))

/-- The minutes of a way, with a buffer that is larger for a long one. -/
def travelMinutes (distanceKm speedKmh : ℚ) : ℤ :=
  let buffer : ℚ := if 30 < distanceKm then 6 / 5 else 11 / 10
  max 5 (truncated (distanceKm / speedKmh * 60 * buffer))

/-- The minutes of a transfer whose name does not say them: by the distance between
the neighbours, or by the mode alone. -/
def transferDuration (env : FormatEnv) (activities : List PyVal) (index : ℕ) (activity : PyVal) :
    Except PyError PyVal := do
  let transportMode := getValue activity "transport_mode" (.str env.transportMode)
  let origin := if 0 < index then activities[index - 1]?.bind coordsOf? else none
  let dest := activities[index + 1]?.bind coordsOf?
  match origin, dest with
  | some origin, some dest => do
      let distanceKm ← env.distanceKm origin dest
      let speedKmh ← tableGet speeds transportMode (45)
      .ok (.int (travelMinutes distanceKm speedKmh))
  | _, _ => do
      let fallbackTime ← tableGet fallbackTimes transportMode 15
      .ok (.int fallbackTime)

/-- `calculate_dynamic_duration_with_context`. -/
def calculateDynamicDuration (env : FormatEnv) (activities : List PyVal) (index : ℕ)
    (activity : PyVal) : Except PyError PyVal := do
  let duration := getValue activity "duration_minutes" (.int 0)
  let name := env.strOf (getValue activity "name" (.str ""))
  if ← duration.greaterThan 0 "int" then .ok duration
  else if isTaggedTransfer activity ||
      env.nameHas ["traslado", "transfer", "viaje", "regreso"] activity then
    match minutesInName name, hoursInName name with
    | some minutes, _ => .ok (.int minutes)
    | none, some hours => .ok (.int (truncated (hours * 60)))
    | none, none => transferDuration env activities index activity
  else do
    let category := getValue activity "category"
      (getValue activity "type" (.str "point_of_interest"))
    let minutes ← tableGet activityDefaults category 60
    .ok (.int minutes)

/-! ## The time window of an item -/

/-- Two times are equal. -/
def sameTime : PyVal → PyVal → Bool
  | .none, .none => true
  | .str first, .str second => first = second
  | first, second =>
      match first.number?, second.number? with
      | some a, some b => a = b
      | _, _ => false

/-- A time that is compared with a number. -/
def comparedTime (time : PyVal) : Except PyError ℚ :=
  match time.number? with
  | some number => .ok number
  | none => .error (.typeError
      ("'<' not supported between instances of '" ++ time.typeName ++ "' and 'int'"))

/-- The times of an item. A transfer without valid times starts when the item before
it ends. -/
def timesOf (env : FormatEnv) (activities : List PyVal) (index : ℕ) (activity : PyVal) :
    Except PyError (PyVal × PyVal) :=
  let startTime := getValue activity "start_time" (.int 0)
  let endTime := getValue activity "end_time" (.int 0)
  if isTransfer env activity && (isZero startTime || sameTime startTime endTime) then
    match (if 0 < index then activities[index - 1]? else none) with
    | none => .ok (startTime, endTime)
    | some prevActivity => do
        let prevEndTime := getValue prevActivity "end_time" (.int 0)
        let transferDuration ← calculateDynamicDuration env activities index activity
        if ← prevEndTime.greaterThan 0 "int" then
          .ok (prevEndTime, ← prevEndTime.plus transferDuration)
        else .ok (startTime, endTime)
  else .ok (startTime, endTime)

/-- `format_time_window`: nothing for an item without times or outside of the day. -/
def formatTimeWindow (env : FormatEnv) (activities : List PyVal) (index : ℕ) (activity : PyVal) :
    Except PyError PyVal := do
  let (startTime, endTime) ← timesOf env activities index activity
  if isZero startTime && isZero endTime then .ok .none
  else
    let startNumber ← comparedTime startTime
    if startNumber < 0 || 1440 ≤ startNumber then .ok .none
    else
      let endNumber ← comparedTime endTime
      if endNumber < 0 || 1440 ≤ endNumber then .ok .none
      else
        match startTime.whole?, endTime.whole? with
        | some start, some stop => .ok (.str (clockText start ++ "-" ++ clockText stop))
        | _, _ => .error (.valueError "Unknown format code 'd' for object of type 'float'")

/-! ## One item -/

/-- What the formatting of an item knows of its day and of the day before. -/
structure FormatContext where
  currentDay : ℕ
  prevDayActivities : List PyDict

/-- The point of an item, under either name of the longitude. -/
def placeCoords (activity : PyVal) : PyVal × PyVal :=
  let lng := getValue activity "lng" (.float 0)
  (getValue activity "lat" (.float 0),
    if isZero lng then getValue activity "lon" (.float 0) else lng)

/-- A point with both coordinates zero. -/
def isUnplaced (coords : PyVal × PyVal) : Bool := isZero coords.1 && isZero coords.2

/-- Where a transfer starts: at its own origin, at the last item of the day before it
with a point, or at the last item of the day before. -/
def fromCoords (context : FormatContext) (activities : List PyVal) (index : ℕ)
    (activity : PyVal) : PyVal × PyVal :=
  let fromLon := getValue activity "from_lon" (.float 0)
  let own := (getValue activity "from_lat" (.float 0),
    if isZero fromLon then getValue activity "from_lng" (.float 0) else fromLon)
  if isUnplaced own then
    match index with
    | before + 1 =>
        let candidates := ((activities.take (before + 1)).map placeCoords).reverse
        (candidates.find? fun coords => !isUnplaced coords).getD (candidates.head?.getD own)
    | 0 =>
        if 1 < context.currentDay then
          (context.prevDayActivities.getLast?.map fun last => placeCoords (.dict last)).getD own
        else own
  else own

/-- The entries of a transfer. -/
def transferData (context : FormatContext) (activities : List PyVal) (index : ℕ)
    (activity : PyVal) : PyDict :=
  let coords := fromCoords context activities index activity
  [ ("from_lat", coords.1),
    ("from_lng", coords.2),
    ("to_lat", getValue activity "lat" (.float 0)),
    ("to_lng", getValue activity "lon" (.float 0)),
    ("from_place", getValue activity "from_place" (.str "")),
    ("to_place", getValue activity "to_place" (.str "")),
    ("distance_km", getValue activity "distance_km" (.float 0)),
    ("transport_mode", getValue activity "recommended_mode" (.str "walk"))]

/-- `format_activity_for_frontend`, without the random identifier. -/
def formatActivityForFrontend (env : FormatEnv) (context : FormatContext) (activities : List PyVal)
    (index : ℕ) (activity : PyVal) (order : ℕ) : Except PyError (Option PyDict) :=
  if isIntercityActivity activity then .ok none
  else do
    let duration ← calculateDynamicDuration env activities index activity
    let estimatedTime ← hoursText duration
    let recommendedDuration ← hoursText (getValue activity "duration_minutes" (.int 60))
    let bestTime ← formatTimeWindow env activities index activity
    let name := getValue activity "name" (.str "lugar")
    .ok (some ([
      ("name", getValue activity "name" (.str "Lugar sin nombre")),
      ("category",
        getValue activity "place_type" (getValue activity "type" (.str "point_of_interest"))),
      ("rating",
        (getValue activity "rating" (.float (9 / 2))).orElse (.float (9 / 2))),
      ("image", getValue activity "image" (.str "")),
      ("description",
        getValue activity "description" (.str ("Actividad en " ++ env.strOf name))),
      ("estimated_time", estimatedTime),
      ("priority", getValue activity "priority" (.int 5)),
      ("lat", getValue activity "lat" (.float 0)),
      ("lng", getValue activity "lon" (.float 0)),
      ("recommended_duration", recommendedDuration),
      ("best_time", bestTime),
      ("order", .int order),
      ("is_intercity", .bool false),
      ("quality_flag", getValue activity "quality_flag" .none),
      ("suggested", getValue activity "suggested" (.bool false)),
      ("suggestion_reason", getValue activity "suggestion_reason" .none)] ++
      if isTaggedTransfer activity then transferData context activities index activity else []))

/-! ## One day -/

/-- The number of a transfer moves to a key of its own. -/
def asTransfer (transfer : PyDict) (transferOrder : ℕ) : PyDict :=
  (transfer.set "transfer_order" (.int transferOrder)).filter fun entry => entry.1 ≠ "order"

/-- One turn of the loop over the items of a day. -/
def formatItem (env : FormatEnv) (context : FormatContext) (activities : List PyVal)
    (items : DayItems) (entry : PyVal × ℕ) : Except PyError DayItems :=
  if isTransfer env entry.1 then do
    let order := items.transfers.length + 1
    match ← formatActivityForFrontend env context activities entry.2 entry.1 order with
    | none => .ok items
    | some transfer =>
        .ok { items with transfers := items.transfers ++ [asTransfer transfer order] }
  else do
    let order := items.places.length + 1
    match ← formatActivityForFrontend env context activities entry.2 entry.1 order with
    | none => .ok items
    | some place => .ok { items with places := items.places ++ [place] }

/-- The times of a day in minutes. -/
structure DayTimes where
  activity : ℚ := 0
  transport : ℚ := 0
  walking : ℚ := 0

/-- The text of a value whose method is called. -/
def textFor (method : String) (value : PyVal) : Except PyError String :=
  match value with
  | .str text => .ok text
  | other => .error (.attributeError
      ("'" ++ other.typeName ++ "' object has no attribute '" ++ method ++ "'"))

/-- The test of the loop over the formatted places. -/
def countsAsTransfer (place : PyDict) : Except PyError Bool :=
  if (place.get "category" .none).isText "transfer" then .ok true
  else do
    let name ← textFor "lower" (place.get "name" (.str ""))
    .ok (transferWords.any fun word => textIn word (lowerText name))

/-- One turn of the loop over the formatted places. Up to half an hour is walking. -/
def addPlace (times : DayTimes) (place : PyDict) : Except PyError DayTimes := do
  let estimatedTime ← textFor "replace" (place.get "estimated_time" (.str "0h"))
  let estimatedHours ← floatOfText (replaceText estimatedTime "h" "")
  let estimatedMinutes := estimatedHours * 60
  let times := { times with activity := times.activity + estimatedMinutes }
  if ← countsAsTransfer place then
    if estimatedMinutes ≤ 30 then
      .ok { times with walking := times.walking + estimatedMinutes }
    else .ok { times with transport := times.transport + estimatedMinutes }
  else .ok times

/-- An entry that is there only for a value that counts. -/
def truthyEntry (key : String) (value : PyVal) : PyDict :=
  if value.truthy then [(key, value)] else []

/-- The entry of the response for a day. -/
def hybridDayData (env : FormatEnv) (dayCounter : ℕ) (day : PyDict) (items : DayItems)
    (times : DayTimes) (isSuggested : Bool) : PyDict :=
  let totalHours := times.activity / 60
  let freeHours := max 0 ((env.dailyEndHour : ℚ) - env.dailyStartHour - totalHours)
  [ ("day", .int dayCounter),
    ("date", day.get "date" (.str "")),
    ("places", .list (items.places.map .dict)),
    ("transfers", .list (items.transfers.map .dict)),
    ("total_places", .int items.places.length),
    ("total_transfers", .int items.transfers.length),
    ("total_time", .str (fixedText 1 totalHours ++ "h")),
    ("walking_time", .str (minutesText times.walking)),
    ("transport_time", .str (minutesText times.transport)),
    ("free_time", .str (freeTimeText freeHours)),
    ("is_suggested", .bool isSuggested),
    ("is_tentative", .bool false)] ++
    truthyEntry "base" (day.get "base" .none) ++
    truthyEntry "free_blocks" (day.get "free_blocks" .none)

/-- The state of the loop over the days. -/
structure FormatState where
  itineraryDays : List PyDict := []
  prevDayActivities : List PyDict := []

/-- One turn of the loop over the days. -/
def formatDay (env : FormatEnv) (state : FormatState) (value : PyVal) :
    Except PyError FormatState := do
  let day ← value.getter
  let dayCounter := state.itineraryDays.length + 1
  let context : FormatContext :=
    { currentDay := dayCounter, prevDayActivities := state.prevDayActivities }
  let activities ← (day.get "activities" (.list [])).iterate
  let items ← activities.zipIdx.foldlM (formatItem env context activities) {}
  let times ← items.places.foldlM addPlace {}
  let count ← (day.get "activities" (.list [])).len
  .ok
    { itineraryDays := state.itineraryDays ++
        [hybridDayData env dayCounter day items times (count = 0)]
      prevDayActivities := items.places ++ items.transfers }

/-! ## All days -/

/-- The days of the response and the times of all of them. -/
structure FormattedItinerary where
  itineraryDays : List PyDict
  totalTransportMinutes : ℤ
  totalWalkingMinutes : ℤ
  totalTravelMinutes : ℤ

/-- A time of a day in minutes. -/
def minutesUnder (key : String) (day : PyDict) : Except PyError ℤ := do
  parseTimeString (← textFor "split" (day.get key (.str "0min")))

/-- The part of `generate_hybrid_itinerary_endpoint` that formats the days and adds
their times up. -/
def formatItinerary (env : FormatEnv) (daysData : List PyVal) :
    Except PyError FormattedItinerary := do
  let state ← daysData.foldlM (formatDay env) {}
  let transport ← state.itineraryDays.mapM (minutesUnder "transport_time")
  let walking ← state.itineraryDays.mapM (minutesUnder "walking_time")
  .ok
    { itineraryDays := state.itineraryDays
      totalTransportMinutes := transport.sum
      totalWalkingMinutes := walking.sum
      totalTravelMinutes := transport.sum + walking.sum }

end Goveling.Api
