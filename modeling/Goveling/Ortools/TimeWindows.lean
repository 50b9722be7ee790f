/-
# Time windows of places

`generate_time_windows` gives each place a window under its identifier. The
windows go by the type of a place: restaurants by what their names tell, museums,
the outdoors and shops each with their own hours, and only the other places by
the daily hours of the preferences. A hard constraint is one of the hours of a
type, whatever the daily hours are. An identifier that two places share has one
window, so it is for places with different identifiers that each keeps its own.
-/

import Goveling.Math.OrderedMap
import Goveling.Python.Text
import Goveling.Python.Value
import Mathlib.Data.List.Perm.Subperm

namespace Goveling.Ortools

open Goveling.Math Goveling.Python

/-! ## Windows -/

/-- `datetime.time` with hours and minutes. -/
structure ClockTime where
  hour : ℕ
  minute : ℕ := 0
  hour_lt : hour < 24
  minute_lt : minute < 60 := by decide
  deriving DecidableEq

/-- `TimeWindow`. -/
structure TimeWindow where
  startTime : ClockTime
  endTime : ClockTime
  dayOffset : ℕ := 0
  isRequired : Bool := true
  deriving DecidableEq

/-- `to_minutes`. -/
def TimeWindow.toMinutes (window : TimeWindow) : ℕ × ℕ :=
  let startMinutes := window.startTime.hour * 60 + window.startTime.minute
  let endMinutes := window.endTime.hour * 60 + window.endTime.minute
  let dayMinutes := window.dayOffset * 24 * 60
  (startMinutes + dayMinutes, endMinutes + dayMinutes)

/-- `time(hour, 0)`. -/
def timeOf (hour : PyVal) : Except PyError ClockTime :=
  match hour.whole? with
  | none => .error (.typeError
      ("'" ++ hour.typeName ++ "' object cannot be interpreted as an integer"))
  | some h =>
      if hrange : 0 ≤ h ∧ h ≤ 23 then
        .ok { hour := h.toNat, hour_lt := by omega }
      else .error (.valueError "hour must be in 0..23")

/-- The window for breakfast and coffee. -/
def breakfastWindow : TimeWindow where
  startTime := { hour := 7, hour_lt := by decide }
  endTime := { hour := 11, hour_lt := by decide }
  isRequired := false

/-- `RESTAURANT_LUNCH_START` and `RESTAURANT_LUNCH_END`. -/
def lunchWindow : TimeWindow where
  startTime := { hour := 12, hour_lt := by decide }
  endTime := { hour := 15, hour_lt := by decide }

/-- `RESTAURANT_DINNER_START` and `RESTAURANT_DINNER_END`. -/
def dinnerWindow : TimeWindow where
  startTime := { hour := 19, hour_lt := by decide }
  endTime := { hour := 22, hour_lt := by decide }

/-- The window of a restaurant in general. -/
def restaurantWindow : TimeWindow where
  startTime := { hour := 12, hour_lt := by decide }
  endTime := { hour := 22, hour_lt := by decide }
  isRequired := false

/-- `place.get("name", "").lower()`. -/
def lowerName (place : PyDict) : Except PyError String :=
  match place.get "name" (.str "") with
  | .str name => .ok (lowerText name)
  | other => .error (.attributeError
      ("'" ++ other.typeName ++ "' object has no attribute 'lower'"))

/-- `_generate_restaurant_time_window`. -/
def generateRestaurantTimeWindow (place : PyDict) : Except PyError TimeWindow := do
  let placeName ← lowerName place
  if ["breakfast", "cafe", "coffee"].any fun keyword => textIn keyword placeName then
    return breakfastWindow
  else if ["lunch", "almuerzo"].any fun keyword => textIn keyword placeName then
    return lunchWindow
  else if ["dinner", "cena", "night"].any fun keyword => textIn keyword placeName then
    return dinnerWindow
  else return restaurantWindow

/-- `_generate_museum_time_window`, with `MUSEUM_PREFERRED_START` and
`MUSEUM_PREFERRED_END`. -/
def generateMuseumTimeWindow : TimeWindow where
  startTime := { hour := 10, hour_lt := by decide }
  endTime := { hour := 17, hour_lt := by decide }

/-- `_generate_outdoor_time_window`. -/
def generateOutdoorTimeWindow : TimeWindow where
  startTime := { hour := 8, hour_lt := by decide }
  endTime := { hour := 17, hour_lt := by decide }
  isRequired := false

/-- `_generate_shopping_time_window`, with `SHOPPING_PREFERRED_START` and
`SHOPPING_PREFERRED_END`. -/
def generateShoppingTimeWindow : TimeWindow where
  startTime := { hour := 10, hour_lt := by decide }
  endTime := { hour := 20, hour_lt := by decide }
  isRequired := false

/-- The generic window: the daily hours. -/
def genericTimeWindow (preferences : PyDict) : Except PyError TimeWindow := do
  let startTime ← timeOf (preferences.get "daily_start_hour" (.int 9))
  let endTime ← timeOf (preferences.get "daily_end_hour" (.int 18))
  return { startTime := startTime, endTime := endTime, isRequired := false }

/-! ## The loop -/

/-- `place_type in types`. -/
def typeIn (placeType : PyVal) (types : List String) : Bool := types.any placeType.isText

/-- `place.get("type", place.get("category", "attraction"))`. -/
def placeTypeOf (place : PyDict) : PyVal :=
  place.get "type" (place.get "category" (.str "attraction"))

/-- The window of a place: the branches of the loop. -/
def timeWindowOf (preferences place : PyDict) : Except PyError TimeWindow :=
  let placeType := placeTypeOf place
  if typeIn placeType ["restaurant", "cafe", "bar"] then generateRestaurantTimeWindow place
  else if typeIn placeType ["museum", "gallery", "monument"] then .ok generateMuseumTimeWindow
  else if typeIn placeType ["park", "beach", "natural_feature"] then .ok generateOutdoorTimeWindow
  else if typeIn placeType ["shopping", "shopping_mall", "store"] then
    .ok generateShoppingTimeWindow
  else genericTimeWindow preferences

/-- What a dictionary is keyed by: numbers that are equal are one key. -/
inductive PlaceKey
  | none
  | number (value : ℚ)
  | text (value : String)
  deriving DecidableEq, Repr

/-- The key that a value makes. -/
def keyOf : PyVal → Except PyError PlaceKey
  | .none => .ok .none
  | .bool value => .ok (.number (if value then 1 else 0))
  | .int value => .ok (.number value)
  | .float value => .ok (.number value)
  | .str value => .ok (.text value)
  | .list _ => .error (.typeError "unhashable type: 'list'")
  | .dict _ => .error (.typeError "unhashable type: 'dict'")

/-- `place_id` of a place and its index. -/
def placeIdOf (entry : PyDict × ℕ) : Except PyError PlaceKey :=
  keyOf (entry.1.get "id" (.str ("place_" ++ toString entry.2)))

/-- The body of the loop. -/
def addTimeWindow (preferences : PyDict) (timeWindows : OrderedMap PlaceKey TimeWindow)
    (entry : PyDict × ℕ) : Except PyError (OrderedMap PlaceKey TimeWindow) := do
  let window ← timeWindowOf preferences entry.1
  let placeId ← placeIdOf entry
  return timeWindows.set placeId window

/-- `generate_time_windows`. -/
def generateTimeWindows (places : List PyDict) (preferences : PyDict) :
    Except PyError (OrderedMap PlaceKey TimeWindow) :=
  places.zipIdx.foldlM (addTimeWindow preferences) OrderedMap.empty

/-! ## What is promised -/

/-- The preferences give two hours, the one of the start first. -/
structure GivesHours (preferences : PyDict) (dailyStart dailyEnd : ℤ) : Prop where
  start : preferences.get "daily_start_hour" (.int 9) = .int dailyStart
  stop : preferences.get "daily_end_hour" (.int 18) = .int dailyEnd
  lt : dailyStart < dailyEnd

/-- The places are under these identifiers, one each, and each has its own window. -/
structure OneWindowEach (preferences : PyDict) (places : List PyDict) (placeIds : List PlaceKey)
    (timeWindows : OrderedMap PlaceKey TimeWindow) : Prop where
  keys : timeWindows.keys = placeIds
  own : List.Forall₂ (fun place window => timeWindowOf preferences place = .ok window) places
    timeWindows.values

/-- The hard constraints: lunch, dinner and museums. -/
def strictWindows : List TimeWindow := [lunchWindow, dinnerWindow, generateMuseumTimeWindow]

/-- Between the daily hours. -/
def TimeWindow.Within (window : TimeWindow) (dailyStart dailyEnd : ℤ) : Prop :=
  dailyStart * 60 ≤ window.toMinutes.1 ∧ window.toMinutes.2 ≤ dailyEnd * 60

/-- Each place has a window of its own, which ends after it starts and lies between the
daily hours when it is a hard constraint. -/
def GivesEachAWindow (places : List PyDict) (preferences : PyDict) (dailyStart dailyEnd : ℤ) :
    Prop :=
  ∃ placeIds timeWindows, generateTimeWindows places preferences = .ok timeWindows ∧
    OneWindowEach preferences places placeIds timeWindows ∧
    ∀ window ∈ timeWindows.values, window.toMinutes.1 < window.toMinutes.2 ∧
      (window.isRequired = true → window.Within dailyStart dailyEnd)

/-! ## One place -/

section Place

variable {preferences place : PyDict} {window : TimeWindow}

/-- A place has the hours of its type, or the daily hours. -/
theorem timeWindowOf_cases (preferences place : PyDict) :
    timeWindowOf preferences place = generateRestaurantTimeWindow place ∨
      timeWindowOf preferences place = .ok generateMuseumTimeWindow ∨
      timeWindowOf preferences place = .ok generateOutdoorTimeWindow ∨
      timeWindowOf preferences place = .ok generateShoppingTimeWindow ∨
      timeWindowOf preferences place = genericTimeWindow preferences := by
  unfold timeWindowOf
  dsimp only
  split_ifs <;> simp

/-- A restaurant has one of four windows. -/
theorem exists_generateRestaurantTimeWindow {name : String}
    (hname : place.get "name" (.str "") = .str name) :
    ∃ window ∈ [breakfastWindow, lunchWindow, dinnerWindow, restaurantWindow],
      generateRestaurantTimeWindow place = .ok window := by
  have hlower : lowerName place = .ok (lowerText name) := by
    unfold lowerName
    rw [hname]
  unfold generateRestaurantTimeWindow
  rw [hlower]
  dsimp only [bind, Except.bind]
  split_ifs
  · exact ⟨breakfastWindow, by simp, rfl⟩
  · exact ⟨lunchWindow, by simp, rfl⟩
  · exact ⟨dinnerWindow, by simp, rfl⟩
  · exact ⟨restaurantWindow, by simp, rfl⟩

theorem timeOf_int {hour : ℤ} (hrange : 0 ≤ hour ∧ hour ≤ 23) :
    timeOf (.int hour) = .ok { hour := hour.toNat, hour_lt := by omega } :=
  dif_pos hrange

/-- Daily hours that are hours of a day make a window. -/
theorem exists_genericTimeWindow {dailyStart dailyEnd : ℤ}
    (hhours : GivesHours preferences dailyStart dailyEnd)
    (hclock : 0 ≤ dailyStart ∧ dailyEnd ≤ 23) :
    ∃ window, genericTimeWindow preferences = .ok window ∧ window.isRequired = false ∧
      window.toMinutes.1 < window.toMinutes.2 := by
  have hlt := hhours.lt
  unfold genericTimeWindow
  rw [hhours.start, hhours.stop, timeOf_int ⟨hclock.1, by omega⟩, timeOf_int ⟨by omega, hclock.2⟩]
  refine ⟨_, rfl, rfl, ?_⟩
  show dailyStart.toNat * 60 + 0 + 0 * 24 * 60 < dailyEnd.toNat * 60 + 0 + 0 * 24 * 60
  omega

/-- A place with a name has a window that ends after it starts, and it is a hard constraint
only for lunch, dinner and museums. -/
theorem exists_timeWindowOf {dailyStart dailyEnd : ℤ}
    (hhours : GivesHours preferences dailyStart dailyEnd)
    (hclock : 0 ≤ dailyStart ∧ dailyEnd ≤ 23) {name : String}
    (hname : place.get "name" (.str "") = .str name) :
    ∃ window, timeWindowOf preferences place = .ok window ∧
      window.toMinutes.1 < window.toMinutes.2 ∧
      (window.isRequired = true → window ∈ strictWindows) := by
  rcases timeWindowOf_cases preferences place with hrestaurant | hmuseum | houtdoor | hshop | hdaily
  · obtain ⟨window, hmem, hwindow⟩ := exists_generateRestaurantTimeWindow hname
    have hfour : ∀ window ∈ [breakfastWindow, lunchWindow, dinnerWindow, restaurantWindow],
        window.toMinutes.1 < window.toMinutes.2 ∧
          (window.isRequired = true → window ∈ strictWindows) := by decide
    exact ⟨window, hrestaurant.trans hwindow, hfour window hmem⟩
  · exact ⟨_, hmuseum, by decide, by decide⟩
  · exact ⟨_, houtdoor, by decide, by decide⟩
  · exact ⟨_, hshop, by decide, by decide⟩
  · obtain ⟨window, hwindow, hsoft, hlt⟩ := exists_genericTimeWindow hhours hclock
    refine ⟨window, hdaily.trans hwindow, hlt, fun hrequired => ?_⟩
    rw [hsoft] at hrequired
    cases hrequired

end Place

/-! ## All places -/

/-- The loop writes the windows under the identifiers, one after the other. -/
theorem foldlM_addTimeWindow {preferences : PyDict} {entries : List (PyDict × ℕ)}
    {windows : List TimeWindow} {placeIds : List PlaceKey}
    (hwindows : List.Forall₂ (fun entry window => timeWindowOf preferences entry.1 = .ok window)
      entries windows)
    (hids : List.Forall₂ (fun entry placeId => placeIdOf entry = .ok placeId) entries placeIds)
    (timeWindows : OrderedMap PlaceKey TimeWindow) :
    entries.foldlM (addTimeWindow preferences) timeWindows =
      .ok (timeWindows.setAll (placeIds.zip windows)) := by
  induction hwindows generalizing placeIds timeWindows with
  | nil =>
      cases hids
      rfl
  | cons hwindow hrest ih =>
      cases hids with
      | cons hid hids =>
          rw [List.foldlM_cons, List.zip_cons_cons, OrderedMap.setAll_cons, ← ih hids]
          unfold addTimeWindow
          rw [hwindow, hid]
          rfl

/-- Places with different identifiers and names keep their own windows, one each. The hard
constraints among them are the hours of lunch, dinner and museums, whatever the daily hours. -/
theorem generateTimeWindows_ownWindows {places : List PyDict} {preferences : PyDict}
    {dailyStart dailyEnd : ℤ} {placeIds : List PlaceKey}
    (hhours : GivesHours preferences dailyStart dailyEnd)
    (hclock : 0 ≤ dailyStart ∧ dailyEnd ≤ 23)
    (hnames : ∀ place ∈ places, ∃ name, place.get "name" (.str "") = .str name)
    (hids : places.zipIdx.mapM placeIdOf = .ok placeIds) (hdistinct : placeIds.Nodup) :
    ∃ timeWindows, generateTimeWindows places preferences = .ok timeWindows ∧
      OneWindowEach preferences places placeIds timeWindows ∧
      ∀ window ∈ timeWindows.values, window.toMinutes.1 < window.toMinutes.2 ∧
        (window.isRequired = true → window ∈ strictWindows) := by
  have heach : ∀ place ∈ places, ∃ window, timeWindowOf preferences place = .ok window ∧
      window.toMinutes.1 < window.toMinutes.2 ∧
      (window.isRequired = true → window ∈ strictWindows) := by
    intro place hplace
    obtain ⟨name, hname⟩ := hnames place hplace
    exact exists_timeWindowOf hhours hclock hname
  obtain ⟨windows, hwindows⟩ := (exists_mapM_eq_ok_iff places).mpr fun place hplace =>
    (heach place hplace).imp fun _ => And.left
  have hown := forall₂_of_mapM_eq_ok hwindows
  have hforall := forall₂_of_mapM_eq_ok hids
  have hlength : placeIds.length = windows.length := by
    rw [← hforall.length_eq, ← hown.length_eq, List.length_zipIdx]
  have hrun : generateTimeWindows places preferences =
      .ok (OrderedMap.empty.setAll (placeIds.zip windows)) := by
    apply foldlM_addTimeWindow _ hforall
    rw [← List.zipIdx_map_fst 0 places, List.forall₂_map_left_iff] at hown
    exact hown
  have hkeys : (placeIds.zip windows).map Prod.fst = placeIds :=
    List.map_fst_zip hlength.le
  have hentries : (OrderedMap.empty.setAll (placeIds.zip windows)).entries =
      placeIds.zip windows := by
    apply OrderedMap.entries_setAll_empty
    rw [hkeys]
    exact hdistinct
  have hvalues : (OrderedMap.empty.setAll (placeIds.zip windows)).values = windows := by
    rw [OrderedMap.values, hentries]
    exact List.map_snd_zip hlength.ge
  refine ⟨_, hrun, ⟨?_, ?_⟩, ?_⟩
  · rw [OrderedMap.keys, hentries, hkeys]
  · rw [hvalues]
    exact hown
  · intro window hwindow
    rw [hvalues] at hwindow
    obtain ⟨place, hplace, hfound⟩ := (mem_of_mapM_eq_ok hwindows).mp hwindow
    obtain ⟨other, hother, hpromise⟩ := heach place hplace
    cases hfound.symm.trans hother
    exact hpromise

/-- A museum with an identifier and a square without one. -/
def museumAndSquare : List PyDict :=
  [[("id", .str "m1"), ("name", .str "Museo"), ("type", .str "museum")],
    [("name", .str "Plaza"), ("type", .str "tourist_attraction")]]

theorem generateTimeWindows_museumAndSquare :
    ∃ timeWindows, generateTimeWindows museumAndSquare [] = .ok timeWindows ∧
      OneWindowEach [] museumAndSquare [.text "m1", .text "place_1"] timeWindows ∧
      ∀ window ∈ timeWindows.values, window.toMinutes.1 < window.toMinutes.2 ∧
        (window.isRequired = true → window ∈ strictWindows) :=
  generateTimeWindows_ownWindows
    (⟨rfl, rfl, by decide⟩ : GivesHours [] 9 18) (by decide)
    (by
      intro place hplace
      rcases List.mem_cons.mp hplace with rfl | hplace
      · exact ⟨"Museo", rfl⟩
      · rw [List.mem_singleton.mp hplace]
        exact ⟨"Plaza", rfl⟩)
    rfl (by decide)

/-! ## Identifiers that are shared -/

/-- A loop that returns has found a window and an identifier for every place. -/
theorem exists_of_foldlM_addTimeWindow {preferences : PyDict} {entries : List (PyDict × ℕ)}
    {timeWindows final : OrderedMap PlaceKey TimeWindow}
    (hloop : entries.foldlM (addTimeWindow preferences) timeWindows = .ok final) :
    ∃ windows placeIds,
      List.Forall₂ (fun entry window => timeWindowOf preferences entry.1 = .ok window) entries
        windows ∧
      List.Forall₂ (fun entry placeId => placeIdOf entry = .ok placeId) entries placeIds ∧
      final = timeWindows.setAll (placeIds.zip windows) := by
  induction entries generalizing timeWindows with
  | nil =>
      cases hloop
      exact ⟨[], [], .nil, .nil, rfl⟩
  | cons entry rest ih =>
      rw [List.foldlM_cons] at hloop
      obtain ⟨next, hturn, hrest⟩ := exists_of_bind_eq_ok hloop
      obtain ⟨window, hwindow, hturn⟩ := exists_of_bind_eq_ok hturn
      obtain ⟨placeId, hid, hturn⟩ := exists_of_bind_eq_ok hturn
      cases hturn
      obtain ⟨windows, placeIds, hwindows, hids, rfl⟩ := ih hrest
      exact ⟨window :: windows, placeId :: placeIds, .cons hwindow hwindows, .cons hid hids, rfl⟩

/-- There are as many windows as places only if no two places share an identifier. -/
theorem nodup_of_generateTimeWindows {places : List PyDict} {preferences : PyDict}
    {placeIds : List PlaceKey} {timeWindows : OrderedMap PlaceKey TimeWindow}
    (hids : places.zipIdx.mapM placeIdOf = .ok placeIds)
    (hrun : generateTimeWindows places preferences = .ok timeWindows)
    (hsize : timeWindows.size = places.length) : placeIds.Nodup := by
  obtain ⟨windows, found, hwindows, hfound, hfinal⟩ := exists_of_foldlM_addTimeWindow hrun
  have hsame : found = placeIds :=
    List.right_unique_forall₂'
      (fun _ _ _ hfirst hsecond => Except.ok.inj (hfirst.symm.trans hsecond)) hfound
      (forall₂_of_mapM_eq_ok hids)
  have hlength : placeIds.length = places.length := by
    rw [← (forall₂_of_mapM_eq_ok hids).length_eq, List.length_zipIdx]
  have hsubset : timeWindows.keys ⊆ placeIds := by
    intro key hkey
    rw [hfinal, OrderedMap.mem_keys_setAll] at hkey
    rcases hkey with hnone | hkey
    · cases hnone
    · obtain ⟨entry, hentry, rfl⟩ := List.mem_map.mp hkey
      exact hsame ▸ (List.of_mem_zip hentry).1
  have hkeys : timeWindows.keys.length = places.length := by
    rw [OrderedMap.keys, List.length_map]
    exact hsize
  have hperm : timeWindows.keys.Perm placeIds :=
    (List.Nodup.subperm timeWindows.nodup hsubset).perm_of_length_le (hlength.trans hkeys.symm).le
  exact hperm.nodup_iff.mp timeWindows.nodup

/-! ## A dinner behind the daily hours -/

/-- A restaurant for dinner. -/
def dinnerPlace : PyDict :=
  [("id", .str "r1"), ("name", .str "Cena"), ("type", .str "restaurant")]

theorem givesEachAWindow_dinner_false :
    ¬ ∀ (places : List PyDict) (preferences : PyDict) (dailyStart dailyEnd : ℤ),
      GivesHours preferences dailyStart dailyEnd →
        GivesEachAWindow places preferences dailyStart dailyEnd := by
  intro hgives
  obtain ⟨placeIds, timeWindows, -, hone, hwindows⟩ :=
    hgives [dinnerPlace] [] 9 18 ⟨rfl, rfl, by decide⟩
  have hdinner : timeWindowOf [] dinnerPlace = .ok dinnerWindow := by rfl
  have hown := hone.own
  cases hvalues : timeWindows.values with
  | nil =>
      rw [hvalues] at hown
      cases hown
  | cons window rest =>
      rw [hvalues] at hown hwindows
      have hwindow := (List.forall₂_cons.mp hown).1
      cases hdinner.symm.trans hwindow
      have hwithin := (hwindows dinnerWindow List.mem_cons_self).2 rfl
      have hlate : ¬ ((dinnerWindow.toMinutes.2 : ℕ) : ℤ) ≤ 18 * 60 := by decide
      exact hlate hwithin.2

end Goveling.Ortools
