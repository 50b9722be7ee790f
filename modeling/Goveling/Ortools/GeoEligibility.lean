/-
# The cities of a request

The first place that names a city speaks for all places of a request: the cities of
the others are not looked at. And without a list of allowed cities every request is
eligible, before the excluded ones are read. So what the two lists say of a trip is
kept when all its places are judged alike, or, without a list of allowed cities, when
none of them is excluded.
-/

import Goveling.Ortools.DecisionEngine

namespace Goveling.Ortools

open Goveling.Python

/-! ## Trips with cities -/

/-- A place with the city that it names. -/
structure CityPlace where
  place : PyVal
  city : String
  city_ne : city ≠ ""
  explicit : placeAttr place "city" "locality" .none = .str city

/-- A request whose places all name their cities. -/
structure CityRequest where
  request : RequestData
  places : List CityPlace
  listed : placesOf request = .list (places.map CityPlace.place)

variable {settings : DecisionSettings} {library : AnalysisLibrary}

/-- A place in an excluded city. -/
def CityPlace.Excluded (settings : DecisionSettings) (place : CityPlace) : Prop :=
  lowerText place.city ∈ cityNames settings.excludeCities

/-- A place in an allowed city: all cities are, if none is listed. -/
def CityPlace.Allowed (settings : DecisionSettings) (place : CityPlace) : Prop :=
  cityNames settings.cities = [] ∨ lowerText place.city ∈ cityNames settings.cities

/-- A place in an allowed city that is not excluded. -/
def CityPlace.Welcome (settings : DecisionSettings) (place : CityPlace) : Prop :=
  place.Allowed settings ∧ ¬ place.Excluded settings

instance (place : CityPlace) : Decidable (place.Excluded settings) :=
  inferInstanceAs (Decidable (_ ∈ _))

instance (place : CityPlace) : Decidable (place.Allowed settings) :=
  inferInstanceAs (Decidable (_ ∨ _))

instance (place : CityPlace) : Decidable (place.Welcome settings) :=
  inferInstanceAs (Decidable (_ ∧ _))

/-! ## The verdict -/

theorem CityPlace.truthy_city (place : CityPlace) :
    (placeAttr place.place "city" "locality" .none).truthy = true := by
  rw [place.explicit]
  exact decide_eq_true place.city_ne

/-- The city of a request is the one of its first place. -/
theorem detectCity_eq (trip : CityRequest) :
    detectCity library trip.request =
      match trip.places with
      | [] => .ok .none
      | first :: _ => .ok (.str first.city) := by
  unfold detectCity
  rw [trip.listed]
  cases trip.places with
  | nil => rfl
  | cons first others =>
      have hplaces : (PyVal.list (List.map CityPlace.place (first :: others))).truthy = true := rfl
      have hfirst : (List.map CityPlace.place (first :: others)).find?
          (fun place => (placeAttr place "city" "locality" .none).truthy) = some first.place :=
        List.find?_cons_of_pos first.truthy_city
      simp only [hplaces, Bool.not_true, Bool.false_eq_true, if_false, PyVal.iterate, bind,
        Except.bind, hfirst]
      exact congrArg Except.ok first.explicit

/-- A request is eligible if there is no list of allowed cities, or if its first place is
welcome. -/
theorem checkGeoEligibility_eq (trip : CityRequest) :
    checkGeoEligibility settings library trip.request =
      .ok (decide (settings.cities = "" ∨
        ∀ first ∈ trip.places.head?, first.Welcome settings)) := by
  unfold checkGeoEligibility
  split
  · rename_i hcities
    rw [decide_eq_true (.inl hcities)]
  · rename_i hcities
    rw [detectCity_eq]
    cases trip.places with
    | nil => simp [PyVal.truthy, bind, Except.bind, pure, Except.pure]
    | cons first others =>
        have hcity : (PyVal.str first.city).truthy = true := decide_eq_true first.city_ne
        simp only [List.head?_cons, Option.mem_some_iff, forall_eq', hcities, false_or]
        change (if (!(PyVal.str first.city).truthy) = true then _ else _) = _
        rw [hcity]
        refine congrArg Except.ok ?_
        rw [Bool.eq_iff_iff, decide_eq_true_iff]
        unfold CityPlace.Welcome CityPlace.Allowed CityPlace.Excluded
        simp
        tauto

/-- What the lists of allowed and of excluded cities promise of a request. -/
structure GeoPromises (settings : DecisionSettings) (library : AnalysisLibrary)
    (trip : CityRequest) : Prop where
  excluded : (∃ place ∈ trip.places, place.Excluded settings) →
    checkGeoEligibility settings library trip.request = .ok false
  eligible : (∀ place ∈ trip.places, place.Welcome settings) →
    checkGeoEligibility settings library trip.request = .ok true
  unordered : ∀ other : CityRequest, other.places.Perm trip.places →
    checkGeoEligibility settings library other.request =
      checkGeoEligibility settings library trip.request

theorem checkGeoEligibility_of_welcome {trip : CityRequest}
    (hall : ∀ place ∈ trip.places, place.Welcome settings) :
    checkGeoEligibility settings library trip.request = .ok true := by
  rw [checkGeoEligibility_eq, decide_eq_true]
  exact .inr fun first hfirst => hall first (List.mem_of_mem_head? hfirst)

theorem checkGeoEligibility_of_unwelcome (hcities : settings.cities ≠ "") {trip : CityRequest}
    (hne : trip.places ≠ []) (hnone : ∀ place ∈ trip.places, ¬ place.Welcome settings) :
    checkGeoEligibility settings library trip.request = .ok false := by
  obtain ⟨first, others, hplaces⟩ := List.exists_cons_of_ne_nil hne
  rw [hplaces] at hnone
  have hfirst : ¬ first.Welcome settings := hnone first List.mem_cons_self
  rw [checkGeoEligibility_eq, hplaces]
  simp [hcities, hfirst]

/-- A request with its places in another order, and nothing else. -/
def CityRequest.ofPlaces (places : List CityPlace) : CityRequest where
  request := { entries := [("places", .list (places.map CityPlace.place))] }
  places := places
  listed := rfl

/-- Among listed cities, every place decides in some order. -/
theorem welcome_iff_of_unordered (hcities : settings.cities ≠ "") {trip : CityRequest}
    (hunordered : ∀ other : CityRequest, other.places.Perm trip.places →
      checkGeoEligibility settings library other.request =
        checkGeoEligibility settings library trip.request)
    {place : CityPlace} (hmem : place ∈ trip.places) :
    place.Welcome settings ↔ checkGeoEligibility settings library trip.request = .ok true := by
  obtain ⟨before, after, hsplit⟩ := List.append_of_mem hmem
  have hperm : (place :: (before ++ after)).Perm trip.places := by
    rw [hsplit]
    exact List.perm_middle.symm
  rw [← hunordered (.ofPlaces (place :: (before ++ after))) hperm, checkGeoEligibility_eq]
  simp [CityRequest.ofPlaces, hcities]

/-- The promises are kept exactly when all places are judged alike or, if no allowed cities
are listed, when none is in an excluded city. -/
theorem geoPromises_iff (settings : DecisionSettings) (library : AnalysisLibrary)
    (trip : CityRequest) :
    GeoPromises settings library trip ↔
      if settings.cities = "" then ∀ place ∈ trip.places, ¬ place.Excluded settings
      else (∀ place ∈ trip.places, place.Welcome settings) ∨
        ∀ place ∈ trip.places, ¬ place.Welcome settings := by
  split
  · rename_i hcities
    have hverdict (any : CityRequest) :
        checkGeoEligibility settings library any.request = .ok true := by
      rw [checkGeoEligibility_eq, decide_eq_true (.inl hcities)]
    constructor
    · intro hpromises place hmem hexcluded
      have hrefused := hpromises.excluded ⟨place, hmem, hexcluded⟩
      rw [hverdict trip] at hrefused
      cases hrefused
    · intro hnone
      refine ⟨?_, fun _ => hverdict trip,
        fun other _ => (hverdict other).trans (hverdict trip).symm⟩
      rintro ⟨place, hmem, hexcluded⟩
      exact absurd hexcluded (hnone place hmem)
  · rename_i hcities
    constructor
    · intro hpromises
      have hjudged {place : CityPlace} (hmem : place ∈ trip.places) :=
        welcome_iff_of_unordered hcities hpromises.unordered hmem
      by_cases hverdict : checkGeoEligibility settings library trip.request = .ok true
      · exact .inl fun place hmem => (hjudged hmem).mpr hverdict
      · exact .inr fun place hmem hwelcome => hverdict ((hjudged hmem).mp hwelcome)
    · rintro (hall | hnone)
      · have hverdict {other : CityRequest} (hperm : other.places.Perm trip.places) :
            checkGeoEligibility settings library other.request = .ok true :=
          checkGeoEligibility_of_welcome fun place hmem => hall place (hperm.subset hmem)
        refine ⟨?_, fun _ => hverdict (.refl _),
          fun other hperm => (hverdict hperm).trans (hverdict (.refl _)).symm⟩
        rintro ⟨place, hmem, hexcluded⟩
        exact absurd hexcluded (hall place hmem).2
      · have hverdict {other : CityRequest} (hperm : other.places.Perm trip.places)
            (hne : trip.places ≠ []) :
            checkGeoEligibility settings library other.request = .ok false := by
          apply checkGeoEligibility_of_unwelcome hcities
          · exact fun hnil => hne (hnil ▸ hperm).symm.eq_nil
          · exact fun place hmem => hnone place (hperm.subset hmem)
        refine ⟨?_, checkGeoEligibility_of_welcome, ?_⟩
        · rintro ⟨place, hmem, -⟩
          exact hverdict (.refl _) (List.ne_nil_of_mem hmem)
        · intro other hperm
          by_cases hne : trip.places = []
          · have hall : ∀ place ∈ trip.places, place.Welcome settings := by simp [hne]
            rw [checkGeoEligibility_of_welcome hall]
            exact checkGeoEligibility_of_welcome fun place hmem => hall place (hperm.subset hmem)
          · exact (hverdict hperm hne).trans (hverdict (.refl _) hne).symm

/-! ## A trip to two cities -/

/-- A place that only has a city. -/
def placeIn (city : String) (city_ne : city ≠ "") : CityPlace where
  place := .dict [("city", .str city)]
  city := city
  city_ne := city_ne
  explicit := rfl

/-- Calama is excluded, and a trip that goes there second is eligible. -/
theorem not_geoPromises_calamaSecond :
    ¬ GeoPromises { cities := "santiago", excludeCities := "calama" } plainLibrary
      (.ofPlaces [placeIn "Santiago" (by decide), placeIn "Calama" (by decide)]) := by
  intro hpromises
  have hrefused := hpromises.excluded (by decide)
  rw [checkGeoEligibility_eq] at hrefused
  exact absurd hrefused (by decide)

end Goveling.Ortools
