/-
# Where suggestions come from

The searches of a free day are calls of `search_nearby`, which makes places up when Google has
none. A day takes places with an identifier only, and those that are made up do not have one. So
every suggestion is a place that Google was found to have, and is marked as verified, or a general
one of the day itself, which is not.
-/

import Goveling.Api.SmartSuggestions
import Goveling.Places.NearbyFallback

namespace Goveling.Api.SmartSuggestions

open Goveling.Places Goveling.Python
open Goveling.Ortools (PlaceKey keyOf)

/-! ## Searches of a day -/

/-- `search_radius`. -/
def searchRadius (dayNumber : ℤ) : ℤ := 8000 + dayNumber % 3 * 2000

/-- The search of a day for a category. -/
def FreeDay.query (day : FreeDay) (category : String) : NearbyQuery where
  lat := day.centerLat
  lon := day.centerLon
  types := some [category]
  radiusM := searchRadius day.dayNumber
  limit := 3

/-- A free day whose searches are calls of `search_nearby`, with what the client of Google replies
to the attempts of each. The answers of the day as it is given are not used. -/
structure SearchedDay (maps : MapsEnv) where
  given : FreeDay
  synthetic : SyntheticEnv
  client : ℕ → ℕ → List PyVal
  replies : ∀ i attempt, Replies maps (client i attempt)

/-- The answer to the search of a day for a category. -/
def SearchedDay.answer {maps : MapsEnv} (searched : SearchedDay maps) (category : String) (i : ℕ) :
    Except PyError PyVal :=
  (searchNearby searched.synthetic (searched.given.query category) fun attempt =>
    .ok (searched.client i attempt)).map .list

/-- The day with the answers of its searches. -/
def SearchedDay.day {maps : MapsEnv} (env : TextEnv) (searched : SearchedDay maps) : FreeDay :=
  { searched.given with
    answers := fun i => do
      let preferences ← readPreferences env searched.given
      match preferences.categories[i]? with
      | some category => searched.answer category i
      | none => .ok (.list []) }

/-- The suggestion is verified, and made of a place with an identifier that the client replied to
a search of the day with. -/
structure FromGoogle {maps : MapsEnv} (env : TextEnv) (searched : SearchedDay maps)
    (suggestion : PyDict) : Prop where
  verified : suggestion.get "google_places_verified" .none = .bool true
  replied : ∃ preferences category i attempt order fields,
    readPreferences env searched.given = .ok preferences ∧
      (category, i) ∈ preferences.categories.zipIdx ∧
      .dict fields ∈ searched.client i attempt ∧ (placeId fields).truthy = true ∧
      suggestedPlace env (searched.day env) preferences category order fields = .ok suggestion

/-- The suggestion is not verified, and has no identifier. -/
structure IsGeneral (suggestion : PyDict) : Prop where
  unverified : suggestion.get "google_places_verified" .none = .bool false
  nameless : placeId suggestion = .str ""

/-- Every suggestion is a place of Google or a general one. -/
def HasSources {maps : MapsEnv} (env : TextEnv) (searched : SearchedDay maps)
    (suggestions : List PyDict) : Prop :=
  ∀ suggestion ∈ suggestions, FromGoogle env searched suggestion ∨ IsGeneral suggestion

section Sources

variable {maps : MapsEnv} {env : TextEnv} {searched : SearchedDay maps}
  {preferences : Preferences} {category : String} {i : ℕ} {state : DayState}

/-- A place that is found is one of the search. -/
theorem mem_of_findNew {suggestedPlaces : List PyDict} {usedPlaceIds : List PlaceKey}
    {realSuggestions : List PyVal} {fields : PyDict} {id : PlaceKey}
    (hfound : findNew env suggestedPlaces usedPlaceIds realSuggestions =
      .ok (some (fields, id))) : .dict fields ∈ realSuggestions := by
  induction realSuggestions with
  | nil => cases hfound
  | cons suggestion rest ih =>
      obtain ⟨tried, htried, hfound⟩ := exists_of_bind_eq_ok hfound
      obtain ⟨name, -, hfound⟩ := exists_of_bind_eq_ok hfound
      by_cases htruthy : (placeId tried).truthy = true
      · rw [if_pos htruthy] at hfound
        obtain ⟨key, hkey, hfound⟩ := exists_of_bind_eq_ok hfound
        by_cases hused : key ∈ usedPlaceIds
        · rw [if_pos hused] at hfound
          exact List.mem_cons_of_mem suggestion (ih hfound)
        · rw [if_neg hused] at hfound
          obtain ⟨similar, -, hfound⟩ := exists_of_bind_eq_ok hfound
          cases similar with
          | true => exact List.mem_cons_of_mem suggestion (ih hfound)
          | false =>
              cases hfound
              cases suggestion with
              | dict entries =>
                  cases htried
                  exact List.mem_cons_self
              | none | bool _ | int _ | float _ | str _ | list _ => cases htried
      · rw [if_neg htruthy] at hfound
        exact List.mem_cons_of_mem suggestion (ih hfound)

/-- A place that a day finds is one that the client replied with. -/
theorem exists_reply_of_searchedPlace (hread : readPreferences env searched.given = .ok preferences)
    (hcategory : (category, i) ∈ preferences.categories.zipIdx) {fields : PyDict} {id : PlaceKey}
    (hfound : searchedPlace env preferences ((searched.day env).answers i) state =
      .ok (some (fields, id))) :
    ∃ attempt, .dict fields ∈ searched.client i attempt ∧ (placeId fields).truthy = true := by
  have hid := (searchedPlace_eq_some hfound).1
  obtain ⟨places, hplaces, hfinds⟩ := exists_searchNearby searched.synthetic
    (searched.given.query category) fun attempt => .ok (searched.client i attempt)
  have hanswer : (searched.day env).answers i = .ok (.list places) := by
    have hasked : preferences.categories[i]? = some category :=
      List.mem_zipIdx_iff_getElem?.mp hcategory
    show (readPreferences env searched.given).bind _ = _
    rw [hread]
    show (match preferences.categories[i]? with
      | some category => searched.answer category i
      | none => .ok (.list [])) = _
    rw [hasked]
    show searched.answer category i = _
    unfold SearchedDay.answer
    rw [hplaces]
    rfl
  rw [hanswer] at hfound
  obtain ⟨prices, -, hfound⟩ := exists_of_bind_eq_ok hfound
  obtain ⟨answer, hsame, hfound⟩ := exists_of_bind_eq_ok hfound
  cases hsame
  obtain ⟨length, -, hfound⟩ := exists_of_bind_eq_ok hfound
  obtain ⟨items, hitems, hfound⟩ := exists_of_bind_eq_ok hfound
  cases hitems
  obtain ⟨attempt, -, results, hreply, hmem⟩ :=
    hfinds.exists_reply (mem_of_findNew hfound) hid
  cases hreply
  exact ⟨attempt, hmem, hid⟩

/-- The entry of a place that is not made up is verified. -/
theorem verified_of_suggestedPlace {day : FreeDay} {order : ℕ} {fields suggestion : PyDict}
    (hfields : fields.get "synthetic" (.bool false) = .bool false)
    (hentry : suggestedPlace env day preferences category order fields = .ok suggestion) :
    suggestion.get "google_places_verified" .none = .bool true := by
  obtain ⟨words, -, hentry⟩ := exists_of_bind_eq_ok hentry
  obtain ⟨nameInUrl, -, hentry⟩ := exists_of_bind_eq_ok hentry
  obtain ⟨interestsMatched, -, hentry⟩ := exists_of_bind_eq_ok hentry
  cases hentry
  show PyVal.bool (!(fields.get "synthetic" (.bool false)).truthy) = .bool true
  rw [hfields]
  rfl

theorem hasSources_append {suggestions others : List PyDict} :
    HasSources env searched (suggestions ++ others) ↔
      HasSources env searched suggestions ∧ HasSources env searched others :=
  List.forall_mem_append

theorem hasSources_singleton {suggestion : PyDict} :
    HasSources env searched [suggestion] ↔
      FromGoogle env searched suggestion ∨ IsGeneral suggestion :=
  List.forall_mem_singleton

theorem isGeneral_fallbackSuggestion (day : FreeDay) (category : String) (order : ℕ) :
    IsGeneral (fallbackSuggestion day category order) := ⟨rfl, rfl⟩

theorem HasSources.add_fallback (hstate : HasSources env searched state.suggestedPlaces) :
    HasSources env searched (state.add
      (fallbackSuggestion (searched.day env) category state.orderCounter)).suggestedPlaces :=
  hasSources_append.mpr
    ⟨hstate, hasSources_singleton.mpr (.inr (isGeneral_fallbackSuggestion _ _ _))⟩

/-- The search for a category adds a place of the client, or a general suggestion. -/
theorem HasSources.searchCategory (hread : readPreferences env searched.given = .ok preferences)
    (hcategory : (category, i) ∈ preferences.categories.zipIdx)
    (hstate : HasSources env searched state.suggestedPlaces) :
    HasSources env searched (SmartSuggestions.searchCategory env (searched.day env) preferences
      category ((searched.day env).answers i) state).suggestedPlaces := by
  unfold SmartSuggestions.searchCategory
  cases hsearched : searchedPlace env preferences ((searched.day env).answers i) state with
  | error e => exact hstate.add_fallback
  | ok found =>
      cases found with
      | none => exact hstate
      | some place =>
          obtain ⟨fields, id⟩ := place
          obtain ⟨attempt, hmem, hid⟩ := exists_reply_of_searchedPlace hread hcategory hsearched
          dsimp only
          cases hentry : suggestedPlace env (searched.day env) preferences category
              state.orderCounter fields with
          | error e => exact hstate.add_fallback
          | ok suggestion =>
              obtain ⟨entries, heq, hreal⟩ :=
                ((searched.replies i attempt).isPlaceInfo _ hmem).exists_fields
              cases heq
              apply hasSources_append.mpr
              refine ⟨hstate, hasSources_singleton.mpr (.inl ?_)⟩
              exact ⟨verified_of_suggestedPlace hreal hentry, preferences, category, i, attempt,
                state.orderCounter, fields, hread, hcategory, hmem, hid, hentry⟩

theorem HasSources.foldl_searchCategory
    (hread : readPreferences env searched.given = .ok preferences)
    {categories : List (String × ℕ)} (hcategories : categories ⊆ preferences.categories.zipIdx)
    (hstate : HasSources env searched state.suggestedPlaces) :
    HasSources env searched (categories.foldl (fun state category =>
      SmartSuggestions.searchCategory env (searched.day env) preferences category.1
        ((searched.day env).answers category.2) state) state).suggestedPlaces := by
  induction categories generalizing state with
  | nil => exact hstate
  | cons category rest ih =>
      obtain ⟨hfirst, hrest⟩ := List.cons_subset.mp hcategories
      exact ih hrest (hstate.searchCategory hread hfirst)

/-- What fills a day up is general. -/
theorem HasSources.fillUp {suggestedPlaces : List PyDict}
    (hplaces : HasSources env searched suggestedPlaces) :
    HasSources env searched (SmartSuggestions.fillUp (searched.day env) suggestedPlaces) := by
  unfold SmartSuggestions.fillUp
  by_cases hfew : suggestedPlaces.length < 3
  · rw [if_pos hfew]
    apply hasSources_append.mpr
    refine ⟨hplaces, fun suggestion hsuggestion => .inr ?_⟩
    obtain ⟨index, hindex, rfl⟩ := List.mem_mapIdx.mp hsuggestion
    exact ⟨rfl, rfl⟩
  · rw [if_neg hfew]
    exact hplaces

theorem hasSources_emergencySuggestions :
    HasSources env searched (emergencySuggestions (searched.day env)) := by
  intro suggestion hsuggestion
  simp only [emergencySuggestions, List.mem_cons, List.not_mem_nil, or_false] at hsuggestion
  rcases hsuggestion with rfl | rfl | rfl <;> exact .inr ⟨rfl, rfl⟩

/-- All suggestions of a day have their sources. -/
theorem hasSources_generate (env : TextEnv) (searched : SearchedDay maps)
    (usedPlaceIds : List PlaceKey) :
    HasSources env searched
      (generateSmartSuggestionsForDay env (searched.day env) usedPlaceIds).1 := by
  unfold generateSmartSuggestionsForDay
  have hsame : readPreferences env (searched.day env) = readPreferences env searched.given := rfl
  rw [hsame]
  cases hread : readPreferences env searched.given with
  | error e => exact hasSources_emergencySuggestions
  | ok preferences =>
      apply HasSources.fillUp
      exact HasSources.foldl_searchCategory hread (List.Subset.refl _)
        fun _ hmem => absurd hmem List.not_mem_nil

end Sources

/-- Over all free days, whatever Google answers to which search, and whatever of it comes from the
cache of the client: a suggestion is a verified one of a place that the client replied with to a
search of its day, or an unverified general one. No place that `search_nearby` makes up is ever
suggested. -/
theorem suggestionsForDays_sources (maps : MapsEnv) (env : TextEnv)
    (days : List (SearchedDay maps)) (usedPlaceIds : List PlaceKey) :
    List.Forall₂ (HasSources env) days
      (suggestionsForDays env (days.map (SearchedDay.day env)) usedPlaceIds) := by
  induction days generalizing usedPlaceIds with
  | nil => exact .nil
  | cons searched rest ih => exact .cons (hasSources_generate env searched usedPlaceIds) (ih _)

end Goveling.Api.SmartSuggestions
