/-
# Suggestions for free days

A free day gets the first acceptable place of each of three searches. A search that fails, or
whose place cannot be described, gives a general suggestion instead, what is missing is filled up,
and when the preferences cannot be read there are three fixed suggestions. The identifiers of the
places that are taken are kept in a set that all days share.
-/

import Goveling.Places.PlaceIds

namespace Goveling.Api.SmartSuggestions

open Goveling.Math.NewKeys Goveling.Places Goveling.Python
open Goveling.Ortools (PlaceKey keyOf)

/-- `str` of a value and `lower` of a text. -/
structure TextEnv where
  textOf : PyVal → String
  lower : String → String

/-- What the function is called with for one day, the used places apart. The preferences are those
of the request, and the searches of the day answer or fail one after the other. -/
structure FreeDay where
  dayDate : String
  dayNumber : ℤ
  centerLat : ℚ
  centerLon : ℚ
  preferences : PyVal
  answers : ℕ → Except PyError PyVal

/-! ## The categories of a day -/

/-- The interests of the user, or the first three kinds of places. -/
def interestsOf (preferences : PyVal) : Except PyError PyVal :=
  preferences.get "interests" (.list [.str "tourist_attraction", .str "restaurant", .str "museum"])

/-- One group of categories, for an interest or a word in the preferences. -/
def categoryGroup (interests : PyVal) (interest : String) (mentioned : Bool)
    (categories : List String) : Except PyError (List String) := do
  if (← interests.contains interest) || mentioned then return categories else return []

/-- `all_categories`. -/
def allCategories (env : TextEnv) (preferences interests : PyVal) :
    Except PyError (List String) := do
  let text := env.textOf preferences
  let culture ← categoryGroup interests "tourist_attraction" (textIn "culture" text)
    ["tourist_attraction", "point_of_interest", "museum", "art_gallery"]
  let food ← categoryGroup interests "restaurant" (textIn "food" text)
    ["restaurant", "cafe", "bakery"]
  let nature ← categoryGroup interests "nature" (textIn "nature" text)
    ["park", "natural_feature", "zoo"]
  let shopping ← categoryGroup interests "shopping" false
    ["shopping_mall", "store", "department_store"]
  let nightlife ← categoryGroup interests "nightlife" false ["night_club", "bar", "casino"]
  let categories := culture ++ food ++ nature ++ shopping ++ nightlife
  if categories.isEmpty then
    return ["tourist_attraction", "restaurant", "point_of_interest", "museum", "park",
      "art_gallery", "cafe", "shopping_mall"]
  else return categories

/-- The three categories of a day, three further on than those of the day before. -/
def searchCategories (categories : List String) (dayNumber : ℤ) : List String :=
  (List.range 3).map fun i =>
    categories.getD (((dayNumber - 1) * 3 + i) % categories.length).toNat ""

/-- The preferences as the searches need them. -/
structure Preferences where
  interests : PyVal
  budgetLevel : PyVal
  categories : List String

/-- The beginning of the function, which reads the preferences. -/
def readPreferences (env : TextEnv) (day : FreeDay) : Except PyError Preferences := do
  let interests ← interestsOf day.preferences
  let budgetLevel ← day.preferences.get "budget" (.str "medium")
  let categories ← allCategories env day.preferences interests
  return ⟨interests, budgetLevel, searchCategories categories day.dayNumber⟩

/-! ## A place of a search -/

/-- `value.lower()`. -/
def TextEnv.lowered (env : TextEnv) : PyVal → Except PyError String
  | .str text => .ok (env.lower text)
  | other => .error (.attributeError
      ("'" ++ other.typeName ++ "' object has no attribute 'lower'"))

/-- A name of the day contains the name or is contained in it. -/
def nameAlreadyUsed (env : TextEnv) (suggestionName : String) (suggestedPlaces : List PyDict) :
    Except PyError Bool :=
  suggestedPlaces.anyM fun place => do
    let usedName ← env.lowered (place.get "name" (.str ""))
    return textIn suggestionName usedName || textIn usedName suggestionName

/-- The loop over the places of a search, up to the first new one. -/
def findNew (env : TextEnv) (suggestedPlaces : List PyDict) (usedPlaceIds : List PlaceKey) :
    List PyVal → Except PyError (Option (PyDict × PlaceKey))
  | [] => .ok none
  | suggestion :: rest => do
      let fields ← suggestion.getter
      let suggestionName ← env.lowered (fields.get "name" (.str ""))
      if (placeId fields).truthy then
        let id ← keyOf (placeId fields)
        if id ∈ usedPlaceIds then findNew env suggestedPlaces usedPlaceIds rest
        else if ← nameAlreadyUsed env suggestionName suggestedPlaces then
          findNew env suggestedPlaces usedPlaceIds rest
        else return some (fields, id)
      else findNew env suggestedPlaces usedPlaceIds rest

/-- `duration_map`: the duration and the best time of a category. -/
def durationOf : String → String × String
  | "restaurant" => ("1.5h", "12:00-14:00")
  | "cafe" => ("1.0h", "15:00-16:00")
  | "museum" => ("2.5h", "10:00-12:30")
  | "art_gallery" => ("2.0h", "10:30-12:30")
  | "park" => ("1.5h", "09:00-10:30")
  | "natural_feature" => ("2.0h", "09:00-11:00")
  | "shopping_mall" => ("2.0h", "14:00-16:00")
  | "store" => ("1.0h", "15:00-16:00")
  | "tourist_attraction" => ("2.5h", "10:00-12:30")
  | "point_of_interest" => ("2.0h", "10:00-12:00")
  | "night_club" => ("3.0h", "21:00-00:00")
  | "bar" => ("2.0h", "19:00-21:00")
  | _ => ("2.0h", "10:00-12:00")

/-- A category in words. -/
def categoryWords (category : String) : String := replaceText category "_" " "

/-- A text among others that are joined. -/
def joinedItem (item : PyVal × ℕ) : Except PyError String :=
  match item.1 with
  | .str text => .ok text
  | other => .error (.typeError ("sequence item " ++ toString item.2 ++
      ": expected str instance, " ++ other.typeName ++ " found"))

/-- `', '.join(interests)`. -/
def joinedInterests (interests : PyVal) : Except PyError String := do
  let items ← interests.iterate
  return ", ".intercalate (← items.zipIdx.mapM joinedItem)

/-- The interests that contain the category or are contained in it. -/
def interestMatch (interests : PyVal) (category : String) : Except PyError (List PyVal) := do
  let items ← interests.iterate
  items.filterM fun interest =>
    match interest with
    | .str text => .ok (textIn text category || textIn category text)
    | other => .error (.typeError ("'in <string>' requires string as left operand, not " ++
        other.typeName))

/-- `value.replace(' ', '+')`. -/
def plusForBlanks : PyVal → Except PyError String
  | .str text => .ok (replaceText text " " "+")
  | other => .error (.attributeError
      ("'" ++ other.typeName ++ "' object has no attribute 'replace'"))

/-- The description of a place, and the reason for suggesting it. -/
def wordsFor (env : TextEnv) (day : FreeDay) (interests : PyVal) (category : String)
    (isSynthetic placeName : PyVal) : Except PyError (String × String) :=
  if isSynthetic.truthy then
    .ok ("📍 Sugerencia local para " ++ categoryWords category ++ " - " ++ env.textOf placeName,
      "🎯 Sugerencia basada en tus intereses para " ++ day.dayDate)
  else do
    return ("✨ Recomendado por Google Places - " ++ env.textOf placeName ++
        " es un destino destacado en el área",
      "🎯 Sugerencia inteligente basada en tus intereses (" ++ (← joinedInterests interests) ++
        ") para " ++ day.dayDate)

/-- The entry for a place that a search has found. -/
def suggestedPlace (env : TextEnv) (day : FreeDay) (preferences : Preferences)
    (category : String) (orderCounter : ℕ) (suggestion : PyDict) : Except PyError PyDict := do
  let (estimatedDuration, bestTime) := durationOf category
  let isSynthetic := suggestion.get "synthetic" (.bool false)
  let placeName := suggestion.get "name" (.str ("Lugar " ++ category))
  let lat := suggestion.get "lat" (.float day.centerLat)
  let lng := suggestion.get "lon" (suggestion.get "lng" (.float day.centerLon))
  let (description, reasonText) ←
    wordsFor env day preferences.interests category isSynthetic placeName
  let nameInUrl ← plusForBlanks placeName
  let interestsMatched ← interestMatch preferences.interests category
  return [
    ("id", .str ("suggested-" ++ day.dayDate ++ "-" ++ toString orderCounter)),
    ("name", placeName),
    ("category", .str category),
    ("rating", suggestion.get "rating" (.float 4)),
    ("image", suggestion.get "photo_url" (suggestion.get "photo" (.str ""))),
    ("description", .str description),
    ("estimated_time", .str estimatedDuration),
    ("priority", .int (3 + orderCounter % 2)),
    ("lat", lat),
    ("lng", lng),
    ("recommended_duration", .str estimatedDuration),
    ("best_time", .str bestTime),
    ("order", .int orderCounter),
    ("is_intercity", .bool false),
    ("suggested", .bool true),
    ("suggestion_reason", .str reasonText),
    ("address", suggestion.get "address" (.str "Dirección no disponible")),
    ("phone", suggestion.get "phone" (.str "")),
    ("website", suggestion.get "website" (.str "")),
    ("reviews_count",
      suggestion.get "user_ratings_total" (suggestion.get "reviews_count" (.int 0))),
    ("place_id", placeId suggestion),
    ("price_level", suggestion.get "price_level" (.int 0)),
    ("types", suggestion.get "types" (.list [.str category])),
    ("opening_hours", suggestion.get "opening_hours" (.dict [])),
    ("google_maps_url", .str ("https://www.google.com/maps/search/" ++ nameInUrl ++ "/@" ++
      env.textOf lat ++ "," ++ env.textOf lng)),
    ("google_places_verified", .bool !isSynthetic.truthy),
    ("synthetic", isSynthetic),
    ("popularity_score", suggestion.get "rating" (.float 4)),
    ("budget_match", preferences.budgetLevel),
    ("interest_match", .list interestsMatched),
    ("eta_minutes", suggestion.get "eta_minutes" (.int 5))]

/-! ## Suggestions without a search -/

/-- The entry instead of a search that failed. -/
def fallbackSuggestion (day : FreeDay) (category : String) (orderCounter : ℕ) : PyDict := [
  ("id", .str ("suggested-" ++ day.dayDate ++ "-fallback-" ++ toString orderCounter)),
  ("name", .str ("Explorar " ++ categoryWords category ++ " local")),
  ("category", .str category),
  ("rating", .float 4),
  ("image", .str ""),
  ("description", .str ("Sugerencia local para " ++ categoryWords category)),
  ("estimated_time", .str "2.0h"),
  ("priority", .int 3),
  ("lat", .float day.centerLat),
  ("lng", .float day.centerLon),
  ("recommended_duration", .str "2.0h"),
  ("best_time", .str "10:00-12:00"),
  ("order", .int orderCounter),
  ("is_intercity", .bool false),
  ("suggested", .bool true),
  ("suggestion_reason", .str ("Sugerencia automática para " ++ day.dayDate)),
  ("google_places_verified", .bool false)]

/-- `fallback_options`. -/
def fallbackOptions : List (List (String × String)) := [
  [("restaurant", "Café parisino tradicional"), ("museum", "Galería de arte local"),
    ("park", "Jardín urbano cercano")],
  [("shopping_mall", "Mercado local típico"), ("tourist_attraction", "Monumento histórico"),
    ("cafe", "Pastelería artesanal")],
  [("point_of_interest", "Mirador panorámico"), ("restaurant", "Bistro de barrio"),
    ("library", "Centro cultural local")],
  [("art_gallery", "Espacio creativo"), ("park", "Plaza principal"),
    ("restaurant", "Cocina regional")]]

/-- The options for a day, in a cycle of four days. -/
def dayFallbacks (dayNumber : ℤ) : List (String × String) :=
  fallbackOptions.getD ((dayNumber - 1) % fallbackOptions.length).toNat []

/-- The entry that fills up a day behind some others. -/
def fallbackPlace (day : FreeDay) (currentCount i : ℕ) (option : String × String) : PyDict :=
  let latOffset : ℚ := (i + day.dayNumber * (1 / 2)) * (1 / 1000)
  let lonOffset : ℚ := (i + day.dayNumber * (3 / 10)) * (1 / 1000)
  [ ("id", .str ("suggested-" ++ day.dayDate ++ "-varied-" ++ toString (i + 1))),
    ("name", .str option.2),
    ("category", .str option.1),
    ("rating", .float (41 / 10 + i * (1 / 10))),
    ("image", .str ""),
    ("description", .str ("Sugerencia día " ++ toString day.dayNumber ++ " - " ++ option.2)),
    ("estimated_time", .str "1.5h"),
    ("priority", .int 4),
    ("lat", .float (day.centerLat + latOffset)),
    ("lng", .float (day.centerLon + lonOffset)),
    ("recommended_duration", .str "1.5h"),
    ("best_time", .str "12:30-14:00"),
    ("order", .int ((currentCount + i + 1 : ℕ) : ℤ)),
    ("is_intercity", .bool false),
    ("suggested", .bool true),
    ("suggestion_reason", .str ("Sugerencia variada para " ++ day.dayDate ++ " (día " ++
      toString day.dayNumber ++ ")")),
    ("google_places_verified", .bool false),
    ("synthetic", .bool true)]

/-- An entry of the last resort. -/
def emergencySuggestion (day : FreeDay) (order : ℕ)
    (name category description estimatedTime : String) (priority : ℤ) (offset : ℚ)
    (bestTime : String) : PyDict := [
  ("id", .str ("suggested-" ++ day.dayDate ++ "-emergency-" ++ toString order)),
  ("name", .str name),
  ("category", .str category),
  ("rating", .float 4),
  ("image", .str ""),
  ("description", .str (description ++ " para " ++ day.dayDate)),
  ("estimated_time", .str estimatedTime),
  ("priority", .int priority),
  ("lat", .float (day.centerLat + offset)),
  ("lng", .float (day.centerLon + offset)),
  ("recommended_duration", .str estimatedTime),
  ("best_time", .str bestTime),
  ("order", .int order),
  ("is_intercity", .bool false),
  ("suggested", .bool true),
  ("suggestion_reason", .str ("Sugerencia automática para " ++ day.dayDate)),
  ("google_places_verified", .bool false),
  ("synthetic", .bool true)]

/-- The three suggestions for a day whose preferences cannot be read. -/
def emergencySuggestions (day : FreeDay) : List PyDict := [
  emergencySuggestion day 1 "Explorar área local" "tourist_attraction" "Sugerencia de emergencia"
    "2.0h" 3 0 "10:00-12:00",
  emergencySuggestion day 2 "Almuerzo local" "restaurant" "Restaurante sugerido"
    "1.5h" 4 (1 / 1000) "12:30-14:00",
  emergencySuggestion day 3 "Actividad recreativa" "park" "Parque o actividad al aire libre"
    "1.5h" 3 (2 / 1000) "15:00-17:00"]

/-! ## A day and all days -/

/-- The state of the loop over the categories of a day. -/
structure DayState where
  suggestedPlaces : List PyDict := []
  orderCounter : ℕ := 1
  usedPlaceIds : List PlaceKey

/-- One more suggestion, with the number that is counted. -/
def DayState.add (state : DayState) (suggestion : PyDict) : DayState :=
  { state with
    suggestedPlaces := state.suggestedPlaces ++ [suggestion]
    orderCounter := state.orderCounter + 1 }

/-- `budget_level in price_levels`, which fails for what cannot be a key. -/
def lookUpPrices (budgetLevel : PyVal) : Except PyError Bool :=
  if budgetLevel.hashable then .ok (["low", "medium", "high", "any"].any budgetLevel.isText)
  else .error (.typeError ("unhashable type: '" ++ budgetLevel.typeName ++ "'"))

/-- The search for a category, up to the place that is taken from its answer. -/
def searchedPlace (env : TextEnv) (preferences : Preferences) (answer : Except PyError PyVal)
    (state : DayState) : Except PyError (Option (PyDict × PlaceKey)) := do
  let _hasPrices ← lookUpPrices preferences.budgetLevel
  let realSuggestions ← answer
  let _ ← realSuggestions.len
  findNew env state.suggestedPlaces state.usedPlaceIds (← realSuggestions.iterate)

/-- One turn of the loop over the categories. A place that is found is used from then on, also
when no entry can be made of it. -/
def searchCategory (env : TextEnv) (day : FreeDay) (preferences : Preferences) (category : String)
    (answer : Except PyError PyVal) (state : DayState) : DayState :=
  match searchedPlace env preferences answer state with
  | .error _ => state.add (fallbackSuggestion day category state.orderCounter)
  | .ok none => state
  | .ok (some (fields, id)) =>
      let state := { state with usedPlaceIds := id :: state.usedPlaceIds }
      match suggestedPlace env day preferences category state.orderCounter fields with
      | .ok suggestion => state.add suggestion
      | .error _ => state.add (fallbackSuggestion day category state.orderCounter)

/-- The loop over the categories. It is left early with three suggestions, which three categories
do not give before the last one. -/
def searchAll (env : TextEnv) (day : FreeDay) (preferences : Preferences)
    (usedPlaceIds : List PlaceKey) : DayState :=
  preferences.categories.zipIdx.foldl
    (fun state category =>
      searchCategory env day preferences category.1 (day.answers category.2) state)
    { usedPlaceIds }

/-- The loop that fills a day up to three suggestions, which one turn does. -/
def fillUp (day : FreeDay) (suggestedPlaces : List PyDict) : List PyDict :=
  if suggestedPlaces.length < 3 then
    suggestedPlaces ++ ((dayFallbacks day.dayNumber).take (3 - suggestedPlaces.length)).mapIdx
      (fallbackPlace day suggestedPlaces.length)
  else suggestedPlaces

/-- `generate_smart_suggestions_for_day`, with the used places afterwards. -/
def generateSmartSuggestionsForDay (env : TextEnv) (day : FreeDay)
    (usedPlaceIds : List PlaceKey) : List PyDict × List PlaceKey :=
  match readPreferences env day with
  | .error _ => (emergencySuggestions day, usedPlaceIds)
  | .ok preferences =>
      let state := searchAll env day preferences usedPlaceIds
      (fillUp day state.suggestedPlaces, state.usedPlaceIds)

/-- The suggestions for some days that share the used places. -/
def suggestionsForDays (env : TextEnv) : List FreeDay → List PlaceKey → List (List PyDict)
  | [], _ => []
  | day :: rest, usedPlaceIds =>
      let suggestions := generateSmartSuggestionsForDay env day usedPlaceIds
      suggestions.1 :: suggestionsForDays env rest suggestions.2

/-! ## What is asked of the suggestions -/

/-- The number that a suggestion has among those of its day. -/
def orderOf (suggestion : PyDict) : PyVal := suggestion.get "order" .none

/-- Each day gets three suggestions in order, and no identifier is suggested twice. -/
structure SuggestsThreeEach (days : List FreeDay) (suggestions : List (List PyDict)) : Prop where
  length : suggestions.length = days.length
  orders : ∀ ofDay ∈ suggestions, ofDay.map orderOf = [.int 1, .int 2, .int 3]
  distinct : suggestions.flatten.Pairwise fun first second => ¬ SharesPlaceId first second

/-! ## One search -/

/-- A drawing of suggestions with the numbers from one on. -/
structure IsNumbered (usedBefore : List PlaceKey) (suggestedPlaces : List PyDict)
    (usedPlaceIds : List PlaceKey) : Prop where
  orders : suggestedPlaces.map orderOf =
    (List.range suggestedPlaces.length).map fun i => .int ((i + 1 : ℕ) : ℤ)
  draws : Draws placeKey? usedBefore suggestedPlaces usedPlaceIds
  ids : ∀ suggestion ∈ suggestedPlaces, IsSetId (placeId suggestion)

/-- The state of the loop: the counter is the next number. -/
structure DayInvariant (usedBefore : List PlaceKey) (state : DayState) : Prop where
  numbered : IsNumbered usedBefore state.suggestedPlaces state.usedPlaceIds
  counter : state.orderCounter = state.suggestedPlaces.length + 1

section Search

variable {env : TextEnv} {day : FreeDay} {preferences : Preferences} {category : String}
  {usedBefore usedPlaceIds usedAfter : List PlaceKey} {suggestedPlaces : List PyDict}
  {suggestion : PyDict} {state : DayState}

/-- A drawing is continued by one suggestion with the next number. -/
theorem IsNumbered.concat (hnumbered : IsNumbered usedBefore suggestedPlaces usedPlaceIds)
    (horder : orderOf suggestion = .int ((suggestedPlaces.length + 1 : ℕ) : ℤ))
    (hdraws : Draws placeKey? usedPlaceIds [suggestion] usedAfter)
    (hid : IsSetId (placeId suggestion)) :
    IsNumbered usedBefore (suggestedPlaces ++ [suggestion]) usedAfter where
  orders := by
    rw [List.map_append, hnumbered.orders, List.length_append, List.length_singleton,
      List.range_succ, List.map_append, List.map_singleton, List.map_singleton, horder]
  draws := hnumbered.draws.append hdraws
  ids := by
    intro other hother
    rcases List.mem_append.mp hother with hearlier | hlast
    · exact hnumbered.ids other hearlier
    · rwa [List.mem_singleton.mp hlast]

/-- A suggestion without an identifier can always follow. -/
theorem IsNumbered.concat_keyless (hnumbered : IsNumbered usedBefore suggestedPlaces usedPlaceIds)
    (horder : orderOf suggestion = .int ((suggestedPlaces.length + 1 : ℕ) : ℤ))
    (hempty : ¬ (placeId suggestion).truthy = true) :
    IsNumbered usedBefore (suggestedPlaces ++ [suggestion]) usedPlaceIds := by
  apply hnumbered.concat horder (Draws.of_keyless ?_) fun htruthy => absurd htruthy hempty
  intro other hother
  rw [List.mem_singleton.mp hother]
  exact setKey?_of_not_truthy hempty

/-- A place that is found has an identifier that was not used. -/
theorem findNew_eq_some {realSuggestions : List PyVal} {fields : PyDict} {id : PlaceKey}
    (hfound : findNew env suggestedPlaces usedPlaceIds realSuggestions = .ok (some (fields, id))) :
    (placeId fields).truthy = true ∧ keyOf (placeId fields) = .ok id ∧ id ∉ usedPlaceIds := by
  induction realSuggestions with
  | nil => cases hfound
  | cons suggestion rest ih =>
      obtain ⟨tried, -, hfound⟩ := exists_of_bind_eq_ok hfound
      obtain ⟨name, -, hfound⟩ := exists_of_bind_eq_ok hfound
      split at hfound
      · rename_i htruthy
        obtain ⟨key, hkey, hfound⟩ := exists_of_bind_eq_ok hfound
        split at hfound
        · exact ih hfound
        · rename_i hnew
          obtain ⟨similar, -, hfound⟩ := exists_of_bind_eq_ok hfound
          cases similar with
          | true => exact ih hfound
          | false =>
              cases hfound
              exact ⟨htruthy, hkey, hnew⟩
      · exact ih hfound

theorem searchedPlace_eq_some {answer : Except PyError PyVal} {fields : PyDict} {id : PlaceKey}
    (hfound : searchedPlace env preferences answer state = .ok (some (fields, id))) :
    (placeId fields).truthy = true ∧ keyOf (placeId fields) = .ok id ∧
      id ∉ state.usedPlaceIds := by
  obtain ⟨_, -, hfound⟩ := exists_of_bind_eq_ok hfound
  obtain ⟨_, -, hfound⟩ := exists_of_bind_eq_ok hfound
  obtain ⟨_, -, hfound⟩ := exists_of_bind_eq_ok hfound
  obtain ⟨_, -, hfound⟩ := exists_of_bind_eq_ok hfound
  exact findNew_eq_some hfound

/-- An entry keeps the identifier of its place and has the number that is counted. -/
theorem suggestedPlace_eq_ok {orderCounter : ℕ} {fields : PyDict}
    (hentry : suggestedPlace env day preferences category orderCounter fields = .ok suggestion) :
    placeId suggestion = placeId fields ∧ orderOf suggestion = .int orderCounter := by
  obtain ⟨words, -, hentry⟩ := exists_of_bind_eq_ok hentry
  obtain ⟨nameInUrl, -, hentry⟩ := exists_of_bind_eq_ok hentry
  obtain ⟨interestsMatched, -, hentry⟩ := exists_of_bind_eq_ok hentry
  cases hentry
  exact ⟨rfl, rfl⟩

/-- A general suggestion can always be added. -/
theorem DayInvariant.add_fallback (hstate : DayInvariant usedBefore state) :
    DayInvariant usedBefore (state.add (fallbackSuggestion day category state.orderCounter)) where
  numbered := by
    apply hstate.numbered.concat_keyless
    · rw [← hstate.counter]
      rfl
    · show ¬ (PyVal.str "").truthy = true
      decide
  counter := by
    show state.orderCounter + 1 = (state.suggestedPlaces ++ [_]).length + 1
    rw [hstate.counter, List.length_append, List.length_singleton]

/-- A place that is found but not described is used all the same. -/
theorem DayInvariant.use (hstate : DayInvariant usedBefore state) (id : PlaceKey) :
    DayInvariant usedBefore { state with usedPlaceIds := id :: state.usedPlaceIds } where
  numbered := {
    orders := hstate.numbered.orders
    draws := by
      have hused : Draws placeKey? state.usedPlaceIds [] (id :: state.usedPlaceIds) :=
        Draws.nil (List.subset_cons_self id state.usedPlaceIds)
      simpa only [List.append_nil] using hstate.numbered.draws.append hused
    ids := hstate.numbered.ids }
  counter := hstate.counter

/-- One turn of the loop keeps the invariant. -/
theorem DayInvariant.searchCategory (hstate : DayInvariant usedBefore state)
    (answer : Except PyError PyVal) :
    DayInvariant usedBefore (searchCategory env day preferences category answer state) := by
  unfold SmartSuggestions.searchCategory
  cases hsearched : searchedPlace env preferences answer state with
  | error e => exact hstate.add_fallback
  | ok found =>
      cases found with
      | none => exact hstate
      | some place =>
          obtain ⟨fields, id⟩ := place
          obtain ⟨htruthy, hkey, hnew⟩ := searchedPlace_eq_some hsearched
          dsimp only
          cases hentry : suggestedPlace env day preferences category state.orderCounter fields with
          | error e => exact (hstate.use id).add_fallback
          | ok suggestion =>
              obtain ⟨hid, horder⟩ := suggestedPlace_eq_ok hentry
              have hsetKey : placeKey? suggestion = some id := by
                rw [placeKey?, hid]
                exact setKey?_of_keyOf htruthy hkey
              have hset : IsSetId (placeId suggestion) := by
                rw [hid]
                exact isSetId_of_keyOf hkey
              constructor
              · apply hstate.numbered.concat _ (Draws.single hsetKey hnew) hset
                rw [horder, hstate.counter]
              · show state.orderCounter + 1 = (state.suggestedPlaces ++ [_]).length + 1
                rw [hstate.counter, List.length_append, List.length_singleton]

/-- One turn of the loop adds at most one suggestion. -/
theorem length_searchCategory_le (answer : Except PyError PyVal) :
    (searchCategory env day preferences category answer state).suggestedPlaces.length ≤
      state.suggestedPlaces.length + 1 := by
  have hadd : ∀ (other : DayState) (suggestion : PyDict),
      (other.add suggestion).suggestedPlaces.length = other.suggestedPlaces.length + 1 := by
    intro other suggestion
    show (other.suggestedPlaces ++ [suggestion]).length = _
    rw [List.length_append, List.length_singleton]
  unfold searchCategory
  split
  · exact (hadd _ _).le
  · exact Nat.le_succ _
  · dsimp only
    split
    · exact (hadd _ _).le
    · exact (hadd _ _).le

variable (env day preferences) in
/-- The loop over the categories keeps the invariant and adds a suggestion for each of them at
most. -/
theorem DayInvariant.foldl_searchCategory (hstate : DayInvariant usedBefore state)
    (categories : List (String × ℕ)) :
    DayInvariant usedBefore (categories.foldl
        (fun state category => SmartSuggestions.searchCategory env day preferences category.1
          (day.answers category.2) state) state) ∧
      (categories.foldl
        (fun state category => SmartSuggestions.searchCategory env day preferences category.1
          (day.answers category.2) state) state).suggestedPlaces.length ≤
        state.suggestedPlaces.length + categories.length := by
  induction categories generalizing state with
  | nil => exact ⟨hstate, le_rfl⟩
  | cons category rest ih =>
      have hturn : DayInvariant usedBefore (SmartSuggestions.searchCategory env day preferences
        category.1 (day.answers category.2) state) := hstate.searchCategory _
      obtain ⟨hkept, hlength⟩ := ih hturn
      refine ⟨hkept, hlength.trans ?_⟩
      have hone : (SmartSuggestions.searchCategory env day preferences category.1
        (day.answers category.2) state).suggestedPlaces.length ≤ _ := length_searchCategory_le _
      rw [List.length_cons]
      omega

end Search

/-! ## One day -/

section OneDay

variable {env : TextEnv} {day : FreeDay} {preferences : Preferences}
  {usedBefore usedPlaceIds : List PlaceKey} {suggestedPlaces : List PyDict}

theorem length_searchCategories (categories : List String) (dayNumber : ℤ) :
    (searchCategories categories dayNumber).length = 3 := by
  simp [searchCategories]

theorem readPreferences_eq_ok (hread : readPreferences env day = .ok preferences) :
    preferences.categories.length = 3 := by
  obtain ⟨interests, -, hread⟩ := exists_of_bind_eq_ok hread
  obtain ⟨budgetLevel, -, hread⟩ := exists_of_bind_eq_ok hread
  obtain ⟨categories, -, hread⟩ := exists_of_bind_eq_ok hread
  cases hread
  exact length_searchCategories _ _

/-- The searches of a day draw three new places at most. -/
theorem isNumbered_searchAll (hread : readPreferences env day = .ok preferences)
    (usedPlaceIds : List PlaceKey) :
    IsNumbered usedPlaceIds (searchAll env day preferences usedPlaceIds).suggestedPlaces
        (searchAll env day preferences usedPlaceIds).usedPlaceIds ∧
      (searchAll env day preferences usedPlaceIds).suggestedPlaces.length ≤ 3 := by
  have hstart : DayInvariant usedPlaceIds { usedPlaceIds } := {
    numbered := {
      orders := rfl
      draws := Draws.nil (List.Subset.refl usedPlaceIds)
      ids := fun _ hmem => absurd hmem List.not_mem_nil }
    counter := rfl }
  obtain ⟨hkept, hlength⟩ :=
    hstart.foldl_searchCategory env day preferences preferences.categories.zipIdx
  rw [List.length_zipIdx, readPreferences_eq_ok hread] at hlength
  exact ⟨hkept.numbered, hlength⟩

/-- Every day of the cycle has three options. -/
theorem length_dayFallbacks (dayNumber : ℤ) : (dayFallbacks dayNumber).length = 3 := by
  have hoptions : ∀ i < 4, (fallbackOptions.getD i []).length = 3 := by decide
  apply hoptions
  have hlength : (fallbackOptions.length : ℤ) = 4 := by decide
  rw [hlength]
  omega

/-- General suggestions number themselves from what is there on. -/
theorem IsNumbered.append_fallbackPlaces
    (hnumbered : IsNumbered usedBefore suggestedPlaces usedPlaceIds) (day : FreeDay)
    (options : List (String × String)) :
    IsNumbered usedBefore
      (suggestedPlaces ++ options.mapIdx (fallbackPlace day suggestedPlaces.length))
      usedPlaceIds := by
  induction options using List.reverseRecOn with
  | nil => simpa only [List.mapIdx_nil, List.append_nil] using hnumbered
  | append_singleton options option ih =>
      rw [List.mapIdx_concat, ← List.append_assoc]
      apply ih.concat_keyless
      · rw [List.length_append, List.length_mapIdx]
        rfl
      · show ¬ (PyVal.str "").truthy = true
        decide

/-- Filling up keeps what is there and numbers what is added. -/
theorem IsNumbered.fillUp (hnumbered : IsNumbered usedBefore suggestedPlaces usedPlaceIds)
    (hlength : suggestedPlaces.length ≤ 3) (day : FreeDay) :
    IsNumbered usedBefore (fillUp day suggestedPlaces) usedPlaceIds ∧
      (SmartSuggestions.fillUp day suggestedPlaces).length = 3 := by
  unfold SmartSuggestions.fillUp
  split_ifs with hfew
  · refine ⟨hnumbered.append_fallbackPlaces day _, ?_⟩
    rw [List.length_append, List.length_mapIdx, List.length_take, length_dayFallbacks]
    omega
  · exact ⟨hnumbered, by omega⟩

/-- The suggestions of last resort are numbered and have no identifiers. -/
theorem isNumbered_emergencySuggestions (day : FreeDay) (usedPlaceIds : List PlaceKey) :
    IsNumbered usedPlaceIds (emergencySuggestions day) usedPlaceIds where
  orders := rfl
  draws := by
    apply Draws.of_keyless
    intro suggestion hsuggestion
    simp only [emergencySuggestions, List.mem_cons, List.not_mem_nil, or_false] at hsuggestion
    rcases hsuggestion with rfl | rfl | rfl <;> rfl
  ids := by
    intro suggestion hsuggestion
    simp only [emergencySuggestions, List.mem_cons, List.not_mem_nil, or_false] at hsuggestion
    rcases hsuggestion with rfl | rfl | rfl <;> exact fun _ => rfl

/-- Whatever the searches answer, a day draws three numbered suggestions. -/
theorem isNumbered_generate (env : TextEnv) (day : FreeDay) (usedPlaceIds : List PlaceKey) :
    IsNumbered usedPlaceIds (generateSmartSuggestionsForDay env day usedPlaceIds).1
        (generateSmartSuggestionsForDay env day usedPlaceIds).2 ∧
      (generateSmartSuggestionsForDay env day usedPlaceIds).1.length = 3 := by
  unfold generateSmartSuggestionsForDay
  cases hread : readPreferences env day with
  | error e => exact ⟨isNumbered_emergencySuggestions day usedPlaceIds, rfl⟩
  | ok preferences =>
      obtain ⟨hnumbered, hlength⟩ := isNumbered_searchAll hread usedPlaceIds
      exact hnumbered.fillUp hlength day

end OneDay

/-! ## All days -/

/-- The suggestions of all days together are a drawing. -/
theorem exists_draws_suggestionsForDays (env : TextEnv) (days : List FreeDay)
    (usedPlaceIds : List PlaceKey) :
    (∃ usedAfter, Draws placeKey? usedPlaceIds (suggestionsForDays env days usedPlaceIds).flatten
        usedAfter) ∧
      ∀ suggestion ∈ (suggestionsForDays env days usedPlaceIds).flatten,
        IsSetId (placeId suggestion) := by
  induction days generalizing usedPlaceIds with
  | nil =>
      exact ⟨⟨usedPlaceIds, Draws.nil (List.Subset.refl usedPlaceIds)⟩,
        fun _ hmem => absurd hmem List.not_mem_nil⟩
  | cons day rest ih =>
      have hday := (isNumbered_generate env day usedPlaceIds).1
      obtain ⟨⟨usedAfter, hrest⟩, hids⟩ :=
        ih (generateSmartSuggestionsForDay env day usedPlaceIds).2
      refine ⟨⟨usedAfter, hday.draws.append hrest⟩, ?_⟩
      intro suggestion hmem
      rcases List.mem_append.mp hmem with hofDay | hlater
      · exact hday.ids suggestion hofDay
      · exact hids suggestion hlater

theorem orders_suggestionsForDays (env : TextEnv) (days : List FreeDay)
    (usedPlaceIds : List PlaceKey) :
    (suggestionsForDays env days usedPlaceIds).length = days.length ∧
      ∀ ofDay ∈ suggestionsForDays env days usedPlaceIds,
        ofDay.map orderOf = [.int 1, .int 2, .int 3] := by
  induction days generalizing usedPlaceIds with
  | nil => exact ⟨rfl, fun _ hmem => absurd hmem List.not_mem_nil⟩
  | cons day rest ih =>
      obtain ⟨hnumbered, hthree⟩ := isNumbered_generate env day usedPlaceIds
      obtain ⟨hlength, horders⟩ := ih (generateSmartSuggestionsForDay env day usedPlaceIds).2
      have hday := hnumbered.orders
      rw [hthree] at hday
      exact ⟨congrArg (· + 1) hlength, List.forall_mem_cons.mpr ⟨hday, horders⟩⟩

/-- Free days that share the used places get three suggestions each, numbered from one to three,
and no identifier is suggested twice, whatever the searches answer. -/
theorem suggestionsForDays_threeEach (env : TextEnv) (days : List FreeDay)
    (usedPlaceIds : List PlaceKey) :
    SuggestsThreeEach days (suggestionsForDays env days usedPlaceIds) := by
  obtain ⟨hlength, horders⟩ := orders_suggestionsForDays env days usedPlaceIds
  obtain ⟨⟨usedAfter, hdraws⟩, hids⟩ := exists_draws_suggestionsForDays env days usedPlaceIds
  exact ⟨hlength, horders, pairwise_not_sharesPlaceId hdraws hids⟩

end Goveling.Api.SmartSuggestions
