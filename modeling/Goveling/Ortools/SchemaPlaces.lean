/-
# Places of the request schema in the converter

The schema of a request lets a place give its type, its opening hours and more
as a text or as `None`, or leave them out; a duration is no field of it, and
passes through as a text or a number. The converter asks the hours for keys,
a type that is `None` for its small letters, and the first word of a duration
for a number. A place of the schema that lies in its box is kept exactly when
none of the three raises.
-/

import Goveling.Ortools.MalformedRecords

namespace Goveling.Ortools

open Goveling.Math Goveling.Python

/-! ## Places of the schema -/

/-- A key that is missing, `None` or a text. -/
def IsOptionalText (entries : PyDict) (key : String) : Prop :=
  ∀ value, entries.lookup key = some value → value = .none ∨ ∃ text, value = .str text

/-- A key that gives a number, as itself or as the text of one. -/
def GivesNumber (entries : PyDict) (key : String) (number : ℚ) : Prop :=
  ∃ value, entries.lookup key = some value ∧ toFloat value = .ok (some number)

/-- A dictionary that is a valid place of the request schema. What the schema says of the other
fields is left open, and so are they. -/
structure SchemaPlace where
  entries : PyDict
  name : String
  lat : ℚ
  lon : ℚ
  name_given : entries.lookup "name" = some (.str name)
  name_length : 1 ≤ name.length ∧ name.length ≤ 100 ∧ stripText name ≠ ""
  lat_given : GivesNumber entries "lat" lat
  lat_range : -90 ≤ lat ∧ lat ≤ 90
  lon_given : GivesNumber entries "lon" lon ∨
    entries.get "lon" .none = .none ∧ GivesNumber entries "long" lon
  lon_range : -180 ≤ lon ∧ lon ≤ 180
  type_form : IsOptionalText entries "type"
  hours_form : IsOptionalText entries "opening_hours"
  duration_form : ∀ key ∈ ["duration", "visit_duration"], ∀ value,
    entries.lookup key = some value →
      value = .none ∨ (∃ text, value = .str text) ∨ ∃ number, value.number? = some number
  undeclared : ∀ key ∈ ["lng", "longitude", "geometry"], entries.lookup key = none

/-- The coordinates that the converter accepts. -/
def SchemaPlace.InBox (place : SchemaPlace) : Prop :=
  (-56 ≤ place.lat ∧ place.lat ≤ -17) ∧ -80 ≤ place.lon ∧ place.lon ≤ -66

/-- A duration that names hours begins with a number, and one that names minutes with a whole
number. -/
@[irreducible] def ReadableDuration (text : String) : Prop :=
  let durationStr := lowerText text
  if textIn "hour" durationStr then
    ∃ word rest hours, splitBlanks durationStr = word :: rest ∧ floatText word = .ok (some hours)
  else
    textIn "min" durationStr = true →
      ∃ word rest minutes, splitBlanks durationStr = word :: rest ∧
        parseInt word.toList = .ok minutes

/-- The optional fields of a place are in the form that the converter reads. -/
structure IsReadable (entries : PyDict) : Prop where
  hours : entries.get "opening_hours" .none = .none ∨
    entries.get "opening_hours" .none = .str ""
  type : entries.lookup "type" ≠ some .none
  duration : ∀ text, firstOf entries ["duration", "visit_duration"] = .str text →
    ReadableDuration text

/-- The place with an index is kept. -/
def KeepsPlace (legacyPlaces : List PyVal) (i : ℕ) : Prop :=
  ∃ kept ∈ (convertPlacesToOrtools legacyPlaces).1, kept.1.originalIndex = i

/-! ## What is extracted of a place of the schema -/

section Extracted

variable {entries : PyDict}

theorem get_of_lookup {key : String} {value : PyVal} (hvalue : entries.lookup key = some value)
    (default : PyVal) : entries.get key default = value := by
  rw [PyDict.get, hvalue]
  rfl

theorem ne_none_of_toFloat {value : PyVal} {number : ℚ}
    (hnumber : toFloat value = .ok (some number)) : value ≠ .none := by
  rintro rfl
  cases hnumber

/-- A coordinate under the first of its keys is the one that is extracted. -/
theorem extractCoordinate_of_givesNumber {key : String} {keys : List String}
    {locationKey : String} {santiago number : ℚ} (hnumber : GivesNumber entries key number) :
    extractCoordinate (key :: keys) locationKey santiago entries = .ok (some number) := by
  obtain ⟨value, hvalue, hfloat⟩ := hnumber
  have hfirst : firstOf entries (key :: keys) = value := get_of_lookup hvalue _
  unfold extractCoordinate
  rw [hfirst]
  cases value with
  | none => exact absurd rfl (ne_none_of_toFloat hfloat)
  | _ => exact hfloat

/-- The duration that is extracted depends on the type only for its default, which every
admitted type has. -/
theorem exists_defaultDuration (htype : IsOptionalText entries "type") :
    ∃ duration, defaultDuration entries = .ok duration := by
  unfold defaultDuration PyDict.get
  cases hvalue : entries.lookup "type" with
  | none => exact ⟨_, rfl⟩
  | some value =>
      rcases htype value hvalue with rfl | ⟨text, rfl⟩
      · exact ⟨_, rfl⟩
      · exact ⟨_, rfl⟩

theorem exists_durationOfText_iff (htype : IsOptionalText entries "type") (text : String) :
    (∃ duration, durationOfText entries text = .ok duration) ↔ ReadableDuration text := by
  unfold durationOfText ReadableDuration firstWord
  dsimp only
  split
  · cases splitBlanks (lowerText text) with
    | nil => simp [bind, Except.bind]
    | cons word rest =>
        dsimp only [bind, Except.bind]
        cases hfloat : floatText word with
        | error e => simp [hfloat]
        | ok hours =>
            cases hours with
            | none =>
                dsimp only
                split
                · simp [hfloat]
                · simp [hfloat]
            | some hours => simp [hfloat]
  · split
    · rename_i hmin
      cases splitBlanks (lowerText text) with
      | nil => simp [bind, Except.bind, hmin]
      | cons word rest =>
          dsimp only [bind, Except.bind]
          cases hint : parseInt word.toList with
          | error e => simp [hint, hmin]
          | ok minutes => simp [hint, hmin]
    · rename_i hmin
      exact iff_of_true (exists_defaultDuration htype) fun h => absurd h hmin

theorem exists_normalizePlaceType_iff (htype : IsOptionalText entries "type") :
    (∃ placeType, normalizePlaceType (entries.get "type" (.str "tourist_attraction")) =
      .ok placeType) ↔ entries.lookup "type" ≠ some .none := by
  unfold PyDict.get
  cases hvalue : entries.lookup "type" with
  | none => exact iff_of_true ⟨_, rfl⟩ nofun
  | some value =>
      rcases htype value hvalue with rfl | ⟨text, rfl⟩
      · exact iff_of_false (fun ⟨_, h⟩ => nomatch h) fun h => h rfl
      · exact iff_of_true ⟨_, rfl⟩ nofun

theorem exists_extractOpeningHours_iff (hhours : IsOptionalText entries "opening_hours") :
    (∃ hours, extractOpeningHours entries = .ok hours) ↔
      (entries.get "opening_hours" .none = .none ∨
        entries.get "opening_hours" .none = .str "") := by
  unfold extractOpeningHours PyDict.get
  cases hvalue : entries.lookup "opening_hours" with
  | none => exact iff_of_true ⟨_, rfl⟩ (.inl rfl)
  | some value =>
      rcases hhours value hvalue with rfl | ⟨text, rfl⟩
      · exact iff_of_true ⟨_, rfl⟩ (.inl rfl)
      · by_cases hempty : text = ""
        · subst hempty
          exact iff_of_true ⟨_, rfl⟩ (.inr rfl)
        · have htruthy : (PyVal.str text).truthy = true := by
            simp [PyVal.truthy, hempty]
          refine iff_of_false ?_ ?_
          · rintro ⟨hours, hread⟩
            rw [Option.getD_some, if_pos htruthy] at hread
            cases hread
          · rintro (hnone | hblank)
            · cases hnone
            · exact hempty (PyVal.str.inj hblank)

end Extracted

/-! ## Which places are kept -/

section Place

variable (place : SchemaPlace)

theorem SchemaPlace.extractLatitude_eq : extractLatitude place.entries = .ok (some place.lat) :=
  extractCoordinate_of_givesNumber place.lat_given

/-- The longitude comes from its key; the converter has Santiago's for a place that gives its
longitude under the other name of the schema. -/
theorem SchemaPlace.exists_extractLongitude (hbox : place.InBox) :
    ∃ lon, extractLongitude place.entries = .ok (some lon) ∧ -80 ≤ lon ∧ lon ≤ -66 := by
  rcases place.lon_given with hlon | ⟨hmissing, -⟩
  · exact ⟨place.lon, extractCoordinate_of_givesNumber hlon, hbox.2⟩
  · have hforeign : ∀ key ∈ ["lng", "longitude", "geometry"], ∀ default,
        place.entries.get key default = default := by
      intro key hkey default
      rw [PyDict.get, place.undeclared key hkey]
      rfl
    have hfirst : firstOf place.entries ["lon", "lng", "longitude"] = .none := by
      show place.entries.get "lon" (place.entries.get "lng"
        (place.entries.get "longitude" .none)) = .none
      rw [hforeign "lng" (by decide), hforeign "longitude" (by decide), hmissing]
    refine ⟨-706506 / 10000, ?_, by norm_num, by norm_num⟩
    unfold extractLongitude extractCoordinate
    rw [hfirst]
    dsimp only
    rw [hforeign "geometry" (by decide)]
    rfl

theorem SchemaPlace.exists_extractDuration_iff :
    (∃ duration, extractDuration place.entries = .ok duration) ↔
      ∀ text, firstOf place.entries ["duration", "visit_duration"] = .str text →
        ReadableDuration text := by
  have hform : firstOf place.entries ["duration", "visit_duration"] = .none ∨
      (∃ text, firstOf place.entries ["duration", "visit_duration"] = .str text) ∨
      ∃ number, (firstOf place.entries ["duration", "visit_duration"]).number? = some number := by
    rcases firstOf_eq_none_or place.entries ["duration", "visit_duration"] with
      hnone | ⟨key, hkey, hvalue⟩
    · exact .inl hnone
    · exact place.duration_form key hkey _ hvalue
  unfold extractDuration
  generalize firstOf place.entries ["duration", "visit_duration"] = duration at hform ⊢
  rcases hform with rfl | ⟨text, rfl⟩ | ⟨number, hnumber⟩
  · exact iff_of_true (exists_defaultDuration place.type_form) nofun
  · dsimp only
    rw [exists_durationOfText_iff place.type_form]
    constructor
    · intro hreadable other hother
      cases hother
      exact hreadable
    · intro hall
      exact hall text rfl
  · have hnumeric : ∀ text, duration ≠ .str text := by
      rintro text rfl
      cases hnumber
    refine iff_of_true ?_ fun text htext => absurd htext (hnumeric text)
    cases duration with
    | none => cases hnumber
    | str text => cases hnumber
    | list items => cases hnumber
    | dict entries => cases hnumber
    | bool value => exact ⟨_, rfl⟩
    | int value => exact ⟨_, rfl⟩
    | float value => exact ⟨_, rfl⟩

/-- A place of the schema is converted at a position exactly when its fields can be read. -/
theorem SchemaPlace.exists_place?_iff (hbox : place.InBox) (i : ℕ) :
    (∃ kept, (convertPlace i (.dict place.entries)).place? = some kept) ↔
      IsReadable place.entries := by
  obtain ⟨lon, hlon, hlower, hupper⟩ := place.exists_extractLongitude hbox
  constructor
  · rintro ⟨kept, hkept⟩
    obtain ⟨legacy, hlegacy, hmade⟩ := place?_convertPlace_iff.mp hkept
    cases hlegacy
    obtain ⟨_, -, hmade⟩ := exists_of_bind_eq_ok hmade
    obtain ⟨_, -, hmade⟩ := exists_of_bind_eq_ok hmade
    obtain ⟨placeType, htype, hmade⟩ := exists_of_bind_eq_ok hmade
    obtain ⟨duration, hduration, hmade⟩ := exists_of_bind_eq_ok hmade
    obtain ⟨hours, hhours, -⟩ := exists_of_bind_eq_ok hmade
    exact ⟨(exists_extractOpeningHours_iff place.hours_form).mp ⟨hours, hhours⟩,
      (exists_normalizePlaceType_iff place.type_form).mp ⟨placeType, htype⟩,
      place.exists_extractDuration_iff.mp ⟨duration, hduration⟩⟩
  · intro hreadable
    obtain ⟨placeType, htype⟩ :=
      (exists_normalizePlaceType_iff place.type_form).mpr hreadable.type
    obtain ⟨duration, hduration⟩ := place.exists_extractDuration_iff.mpr hreadable.duration
    obtain ⟨hours, hhours⟩ :=
      (exists_extractOpeningHours_iff place.hours_form).mpr hreadable.hours
    have hmade : ∃ made, ortoolsPlace i place.entries = .ok made ∧
        validateOrtoolsPlace made = true := by
      unfold ortoolsPlace
      rw [place.extractLatitude_eq, hlon, htype, hduration, hhours]
      refine ⟨_, rfl, ?_⟩
      have hname : ∀ default, place.entries.get "name" default = .str place.name :=
        get_of_lookup place.name_given
      unfold validateOrtoolsPlace
      dsimp only
      rw [hname]
      dsimp only
      simp only [Bool.and_eq_true, decide_eq_true_eq]
      exact ⟨⟨hbox.1, hlower⟩, hupper⟩
    obtain ⟨made, hmade, hvalid⟩ := hmade
    exact ⟨⟨made, hvalid⟩, place?_convertPlace_iff.mpr ⟨_, rfl, hmade⟩⟩

end Place

/-- The place with an index is kept when its conversion is. -/
theorem keepsPlace_iff {legacyPlaces : List PyVal} {i : ℕ} {value : PyVal}
    (hvalue : legacyPlaces[i]? = some value) :
    KeepsPlace legacyPlaces i ↔ ∃ kept, (convertPlace i value).place? = some kept := by
  constructor
  · rintro ⟨kept, hkept, hindex⟩
    obtain ⟨j, other, hother, hpick⟩ := Sift.mem_picked.mp hkept
    cases (convertPlace_index hpick).symm.trans hindex
    cases hvalue.symm.trans hother
    exact ⟨kept, hpick⟩
  · rintro ⟨kept, hpick⟩
    exact ⟨kept, Sift.mem_picked.mpr ⟨i, _, hvalue, hpick⟩, convertPlace_index hpick⟩

/-- Wherever a valid place of the schema stands in a request: if it lies in the box of the
converter, it is kept exactly when its hours are missing or empty, its type is not given as
`None`, and its duration can be read. -/
theorem keepsPlace_schemaPlace_iff (place : SchemaPlace) (hbox : place.InBox)
    {legacyPlaces : List PyVal} {i : ℕ}
    (hplace : legacyPlaces[i]? = some (.dict place.entries)) :
    KeepsPlace legacyPlaces i ↔ IsReadable place.entries := by
  rw [keepsPlace_iff hplace]
  exact place.exists_place?_iff hbox i

/-! ## A museum in Santiago -/

/-- A place that gives its name, its coordinates and its hours as a text. -/
def museumWithHours (hours : String) : SchemaPlace where
  entries := [("name", .str "Museo"), ("lat", .float (-33)), ("lon", .float (-70)),
    ("opening_hours", .str hours)]
  name := "Museo"
  lat := -33
  lon := -70
  name_given := rfl
  name_length := by decide
  lat_given := ⟨.float (-33), rfl, rfl⟩
  lat_range := by norm_num
  lon_given := .inl ⟨.float (-70), rfl, rfl⟩
  lon_range := by norm_num
  type_form := nofun
  hours_form := by
    intro value hvalue
    cases hvalue
    exact .inr ⟨hours, rfl⟩
  duration_form := by
    intro key hkey value hvalue
    rcases List.mem_pair.mp hkey with rfl | rfl <;> cases hvalue
  undeclared := by
    intro key hkey
    simp only [List.mem_cons, List.not_mem_nil, or_false] at hkey
    rcases hkey with rfl | rfl | rfl <;> rfl

theorem museumWithHours_inBox (hours : String) : (museumWithHours hours).InBox := by
  unfold SchemaPlace.InBox museumWithHours
  norm_num

/-- With hours that are empty the museum is kept. -/
theorem keepsPlace_schemaPlace_museum :
    KeepsPlace [.dict (museumWithHours "").entries] 0 ↔ IsReadable (museumWithHours "").entries :=
  keepsPlace_schemaPlace_iff (museumWithHours "") (museumWithHours_inBox "") rfl

/-- With hours as a text it is dropped. -/
theorem keepsPlace_openMuseum_false :
    ¬ KeepsPlace [.dict (museumWithHours "09:00-18:00").entries] 0 := by
  intro hkeeps
  have hreadable := ((museumWithHours "09:00-18:00").exists_place?_iff
    (museumWithHours_inBox _) 0).mp ((keepsPlace_iff rfl).mp hkeeps)
  rcases hreadable.hours with hnone | hempty
  · cases hnone
  · exact absurd (PyVal.str.inj hempty) (by decide)

end Goveling.Ortools
