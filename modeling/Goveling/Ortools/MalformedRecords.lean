/-
# Malformed records of a legacy request

Each place and each accommodation of a legacy request is converted inside its
own handler. The handler around a place does not look at the place again, so
whatever the place is, the others are converted as they would be without it.
The handler around an accommodation asks it for its name: what is no dictionary
raises there once more, and the conversion of the whole request fails.
-/

import Goveling.Ortools.LegacyRequests

namespace Goveling.Ortools

open Goveling.Math Goveling.Python

/-! ## Requests with and without malformed records -/

/-- A request with these places and accommodations. -/
def LegacyRequest.withRecords (request : LegacyRequest) (places accommodations : List PyVal) :
    LegacyRequest :=
  { request with
    entries := PyDict.set (PyDict.set request.entries "places" (.list places)) "accommodations"
      (.list accommodations) }

/-- A place that is converted when it is the only one. -/
def isWellFormedPlace (value : PyVal) : Bool := (convertPlace 0 value).place?.isSome

/-- What becomes of an accommodation that does not raise in its handler. -/
def accommodationOutcome (env : ConverterEnv) (i : ℕ) (value : PyVal) : AccommodationOutcome :=
  (convertAccommodation env i value).toOption.getD (.inr "")

/-- An accommodation that is converted when it is the only one. -/
def isWellFormedAccommodation (env : ConverterEnv) (value : PyVal) : Bool :=
  (accommodationOutcome env 0 value).getLeft?.isSome

/-- Two conversions of a record at different positions: they have the same fields, up to the
position itself and a name that was made of it. -/
structure SamePlace (first second : ValidPlace) : Prop where
  fields : second.1 =
    { first.1 with name := second.1.name, originalIndex := second.1.originalIndex }
  name : first.1.name = second.1.name ∨
    first.1.name = .str ("Place_" ++ toString (first.1.originalIndex + 1)) ∧
      second.1.name = .str ("Place_" ++ toString (second.1.originalIndex + 1))

/-- Two conversions of an accommodation: the same, up to a name that was made of the position. -/
structure SameAccommodation (first second : OrtoolsAccommodation) : Prop where
  fields : second = { first with name := second.name }
  name : first.name = second.name ∨ ∃ i j : ℕ,
    first.name = .str ("Accommodation_" ++ toString (i + 1)) ∧
      second.name = .str ("Accommodation_" ++ toString (j + 1))

/-- A conversion does not fail because of malformed records, and converts the others as it
would without them. -/
structure IsolatesMalformed (env : ConverterEnv) (dateEnv : DateEnv) (request : LegacyRequest)
    (places accommodations : List PyVal) : Prop where
  survives :
    (convertLegacyToOrtoolsFormat env dateEnv (request.withRecords
        (places.filter isWellFormedPlace)
        (accommodations.filter (isWellFormedAccommodation env)))).success = true →
      (convertLegacyToOrtoolsFormat env dateEnv
        (request.withRecords places accommodations)).success = true
  converts : ∀ parts wellFormedParts,
    convertRequestParts env dateEnv (request.withRecords places accommodations) = .ok parts →
      convertRequestParts env dateEnv (request.withRecords (places.filter isWellFormedPlace)
          (accommodations.filter (isWellFormedAccommodation env))) = .ok wellFormedParts →
        List.Forall₂ SamePlace parts.places wellFormedParts.places ∧
          List.Forall₂ SameAccommodation parts.accommodations wellFormedParts.accommodations

/-- A record that is a dictionary. -/
def IsDict (value : PyVal) : Prop := ∃ entries, value = .dict entries

/-! ## Places at other positions -/

/-- A converted place, as it would be at another position. -/
def OrtoolsPlace.movedTo (legacy : PyDict) (j : ℕ) (place : OrtoolsPlace) : OrtoolsPlace :=
  { place with
    name := legacy.get "name" (.str ("Place_" ++ toString (j + 1)))
    originalIndex := j }

theorem ortoolsPlace_movedTo {i : ℕ} {legacy : PyDict} {place : OrtoolsPlace}
    (hplace : ortoolsPlace i legacy = .ok place) (j : ℕ) :
    ortoolsPlace j legacy = .ok (place.movedTo legacy j) := by
  obtain ⟨lat, hlat, hplace⟩ := exists_of_bind_eq_ok hplace
  obtain ⟨lon, hlon, hplace⟩ := exists_of_bind_eq_ok hplace
  obtain ⟨placeType, htype, hplace⟩ := exists_of_bind_eq_ok hplace
  obtain ⟨duration, hduration, hplace⟩ := exists_of_bind_eq_ok hplace
  obtain ⟨hours, hhours, hplace⟩ := exists_of_bind_eq_ok hplace
  cases hplace
  unfold ortoolsPlace
  rw [hlat, hlon, htype, hduration, hhours]
  rfl

/-- The name of a converted place. -/
theorem name_of_ortoolsPlace {i : ℕ} {legacy : PyDict} {place : OrtoolsPlace}
    (hplace : ortoolsPlace i legacy = .ok place) :
    place.name = legacy.get "name" (.str ("Place_" ++ toString (i + 1))) := by
  obtain ⟨lat, -, hplace⟩ := exists_of_bind_eq_ok hplace
  obtain ⟨lon, -, hplace⟩ := exists_of_bind_eq_ok hplace
  obtain ⟨placeType, -, hplace⟩ := exists_of_bind_eq_ok hplace
  obtain ⟨duration, -, hplace⟩ := exists_of_bind_eq_ok hplace
  obtain ⟨hours, -, hplace⟩ := exists_of_bind_eq_ok hplace
  cases hplace
  rfl

/-- A name is given, or made of the position. -/
theorem get_name_cases (legacy : PyDict) (stem : String) (i j : ℕ) :
    legacy.get "name" (.str (stem ++ toString (i + 1))) =
        legacy.get "name" (.str (stem ++ toString (j + 1))) ∨
      legacy.get "name" (.str (stem ++ toString (i + 1))) = .str (stem ++ toString (i + 1)) ∧
        legacy.get "name" (.str (stem ++ toString (j + 1))) = .str (stem ++ toString (j + 1)) := by
  unfold PyDict.get
  cases legacy.lookup "name" with
  | none => exact .inr ⟨rfl, rfl⟩
  | some name => exact .inl rfl

/-- The validation does not depend on the position. -/
theorem validateOrtoolsPlace_movedTo {i : ℕ} {legacy : PyDict} {place : OrtoolsPlace}
    (hplace : ortoolsPlace i legacy = .ok place) (j : ℕ) :
    validateOrtoolsPlace (place.movedTo legacy j) = validateOrtoolsPlace place := by
  have hname := name_of_ortoolsPlace hplace
  obtain ⟨name, lat, lon⟩ := place
  unfold OrtoolsPlace.movedTo validateOrtoolsPlace
  dsimp only at hname ⊢
  rcases get_name_cases legacy "Place_" i j with hsame | ⟨hfirst, hsecond⟩
  · rw [hname, hsame]
  · rw [hname, hfirst, hsecond]
    cases lat <;> cases lon <;> rfl

theorem samePlace_movedTo {i : ℕ} {legacy : PyDict} {place : ValidPlace}
    (hplace : ortoolsPlace i legacy = .ok place.1) (j : ℕ) {moved : ValidPlace}
    (hmoved : moved.1 = place.1.movedTo legacy j) : SamePlace place moved := by
  have hname := name_of_ortoolsPlace hplace
  have hindex := (ortoolsPlace_eq_ok hplace).1
  refine ⟨?_, ?_⟩
  · rw [hmoved]
    rfl
  · rw [hmoved, hname, hindex]
    exact get_name_cases legacy "Place_" i j

/-- A place is converted at every position or at none. -/
theorem place?_convertPlace_iff {i : ℕ} {value : PyVal} {place : ValidPlace} :
    (convertPlace i value).place? = some place ↔
      ∃ legacy, value = .dict legacy ∧ ortoolsPlace i legacy = .ok place.1 := by
  constructor
  · intro hplace
    exact convertPlace_eq_kept (PlaceOutcome.place?_eq_some hplace)
  · rintro ⟨legacy, rfl, hplace⟩
    have hmade : (PyVal.getter (.dict legacy) >>= ortoolsPlace i) = .ok place.1 := hplace
    unfold convertPlace
    rw [hmade]
    dsimp only
    rw [dif_pos place.2]
    rfl

/-- A place that is converted at one position is converted at every other. -/
theorem exists_samePlace (i j : ℕ) (value : PyVal) (first : ValidPlace)
    (hfirst : (convertPlace i value).place? = some first) :
    ∃ second, (convertPlace j value).place? = some second ∧ SamePlace first second := by
  obtain ⟨legacy, rfl, hmade⟩ := place?_convertPlace_iff.mp hfirst
  have hvalid := (validateOrtoolsPlace_movedTo hmade j).trans first.2
  exact ⟨⟨_, hvalid⟩, place?_convertPlace_iff.mpr ⟨legacy, rfl, ortoolsPlace_movedTo hmade j⟩,
    samePlace_movedTo hmade j rfl⟩

/-- Malformed places change nothing for the others. -/
theorem forall₂_samePlace (places : List PyVal) :
    List.Forall₂ SamePlace (convertPlacesToOrtools places).1
      (convertPlacesToOrtools (places.filter isWellFormedPlace)).1 :=
  Sift.forall₂_picked_filter_isSome exists_samePlace places

/-! ## Accommodations at other positions -/

section Accommodations

variable {env : ConverterEnv}

/-- A converted accommodation, as it would be at another position. -/
def OrtoolsAccommodation.movedTo (legacy : PyDict) (j : ℕ)
    (accommodation : OrtoolsAccommodation) : OrtoolsAccommodation :=
  { accommodation with name := legacy.get "name" (.str ("Accommodation_" ++ toString (j + 1))) }

theorem ortoolsAccommodation_movedTo {i : ℕ} {legacy : PyDict}
    {accommodation : OrtoolsAccommodation}
    (haccommodation : ortoolsAccommodation i legacy = .ok accommodation) (j : ℕ) :
    ortoolsAccommodation j legacy = .ok (accommodation.movedTo legacy j) := by
  obtain ⟨lat, hlat, haccommodation⟩ := exists_of_bind_eq_ok haccommodation
  obtain ⟨lon, hlon, haccommodation⟩ := exists_of_bind_eq_ok haccommodation
  obtain ⟨kind, hkind, haccommodation⟩ := exists_of_bind_eq_ok haccommodation
  obtain ⟨city, hcity, haccommodation⟩ := exists_of_bind_eq_ok haccommodation
  cases haccommodation
  unfold ortoolsAccommodation
  rw [hlat, hlon, hkind, hcity]
  rfl

theorem name_of_ortoolsAccommodation {i : ℕ} {legacy : PyDict}
    {accommodation : OrtoolsAccommodation}
    (haccommodation : ortoolsAccommodation i legacy = .ok accommodation) :
    accommodation.name = legacy.get "name" (.str ("Accommodation_" ++ toString (i + 1))) := by
  obtain ⟨lat, -, haccommodation⟩ := exists_of_bind_eq_ok haccommodation
  obtain ⟨lon, -, haccommodation⟩ := exists_of_bind_eq_ok haccommodation
  obtain ⟨kind, -, haccommodation⟩ := exists_of_bind_eq_ok haccommodation
  obtain ⟨city, -, haccommodation⟩ := exists_of_bind_eq_ok haccommodation
  cases haccommodation
  rfl

theorem validateOrtoolsAccommodation_movedTo {i : ℕ} {legacy : PyDict}
    {accommodation : OrtoolsAccommodation}
    (haccommodation : ortoolsAccommodation i legacy = .ok accommodation) (j : ℕ) :
    validateOrtoolsAccommodation (accommodation.movedTo legacy j) =
      validateOrtoolsAccommodation accommodation := by
  have hname := name_of_ortoolsAccommodation haccommodation
  obtain ⟨name, lat, lon⟩ := accommodation
  unfold OrtoolsAccommodation.movedTo validateOrtoolsAccommodation
  dsimp only at hname ⊢
  rcases get_name_cases legacy "Accommodation_" i j with hsame | ⟨hfirst, hsecond⟩
  · rw [hname, hsame]
  · rw [hname, hfirst, hsecond]
    cases lat <;> cases lon <;> rfl

theorem sameAccommodation_movedTo {i : ℕ} {legacy : PyDict}
    {accommodation : OrtoolsAccommodation}
    (haccommodation : ortoolsAccommodation i legacy = .ok accommodation) (j : ℕ) :
    SameAccommodation accommodation (accommodation.movedTo legacy j) := by
  refine ⟨rfl, ?_⟩
  rw [name_of_ortoolsAccommodation haccommodation]
  rcases get_name_cases legacy "Accommodation_" i j with hsame | hmade
  · exact .inl hsame
  · exact .inr ⟨i, j, hmade⟩

/-- An accommodation that is converted is a dictionary, and it is valid. -/
theorem getLeft?_accommodationOutcome_iff {i : ℕ} {value : PyVal}
    {accommodation : OrtoolsAccommodation} :
    (accommodationOutcome env i value).getLeft? = some accommodation ↔
      ∃ legacy, value = .dict legacy ∧ ortoolsAccommodation i legacy = .ok accommodation ∧
        validateOrtoolsAccommodation accommodation = true := by
  unfold accommodationOutcome convertAccommodation
  cases value with
  | dict legacy =>
      dsimp only [PyVal.getter_dict, bind, Except.bind]
      cases hmade : ortoolsAccommodation i legacy with
      | error e =>
          simp [hmade, Except.toOption]
      | ok made =>
          by_cases hvalid : validateOrtoolsAccommodation made = true
          · simp only [hvalid, if_true, Except.toOption, Option.getD_some, Sum.getLeft?_inl,
              Option.some.injEq, PyVal.dict.injEq]
            constructor
            · rintro rfl
              exact ⟨legacy, rfl, hmade, hvalid⟩
            · rintro ⟨_, rfl, hsame, -⟩
              exact Except.ok.inj (hmade.symm.trans hsame)
          · simp only [hvalid, Except.toOption]
            constructor
            · rintro ⟨⟩
            · rintro ⟨_, hlegacy, hsame, hsameValid⟩
              cases hlegacy
              cases hmade.symm.trans hsame
              exact absurd hsameValid hvalid
  | _ => simp [PyVal.getter, bind, Except.bind, Except.toOption]

/-- An accommodation that is converted at one position is converted at every other. -/
theorem exists_sameAccommodation (i j : ℕ) (value : PyVal) (first : OrtoolsAccommodation)
    (hfirst : (accommodationOutcome env i value).getLeft? = some first) :
    ∃ second, (accommodationOutcome env j value).getLeft? = some second ∧
      SameAccommodation first second := by
  obtain ⟨legacy, rfl, hmade, hvalid⟩ := getLeft?_accommodationOutcome_iff.mp hfirst
  have hvalidThere := (validateOrtoolsAccommodation_movedTo hmade j).trans hvalid
  exact ⟨_, getLeft?_accommodationOutcome_iff.mpr
    ⟨legacy, rfl, ortoolsAccommodation_movedTo hmade j, hvalidThere⟩,
    sameAccommodation_movedTo hmade j⟩

/-- Only a dictionary gets through its handler. -/
theorem convertAccommodation_eq_ok_iff {i : ℕ} {value : PyVal} :
    convertAccommodation env i value = .ok (accommodationOutcome env i value) ↔ IsDict value := by
  unfold accommodationOutcome
  constructor
  · intro hconverted
    obtain ⟨legacy, hlegacy, -⟩ := exists_of_bind_eq_ok hconverted
    cases value with
    | dict entries => exact ⟨entries, rfl⟩
    | _ => cases hlegacy
  · rintro ⟨legacy, rfl⟩
    have hok : ∃ outcome, convertAccommodation env i (.dict legacy) = .ok outcome := by
      unfold convertAccommodation
      dsimp only [PyVal.getter_dict, bind, Except.bind]
      split
      · split
        · exact ⟨_, rfl⟩
        · exact ⟨_, rfl⟩
      · exact ⟨_, rfl⟩
    obtain ⟨outcome, houtcome⟩ := hok
    rw [houtcome]
    rfl

/-- The loop over the accommodations goes through exactly when all are dictionaries. -/
theorem convertAccommodationsToOrtools_of_isDict {accommodations : List PyVal}
    (hdicts : ∀ accommodation ∈ accommodations, IsDict accommodation) :
    convertAccommodationsToOrtools env accommodations =
      .ok (Sift.picked (accommodationOutcome env) Sum.getLeft? accommodations,
        Sift.picked (accommodationOutcome env) Sum.getRight? accommodations) := by
  have hloop : (accommodations.zipIdx.mapM fun entry =>
      convertAccommodation env entry.2 entry.1) =
      .ok (accommodations.mapIdx (accommodationOutcome env)) := by
    rw [List.mapIdx_eq_zipIdx_map, mapM_eq_ok_map_iff]
    intro entry hentry
    exact convertAccommodation_eq_ok_iff.mpr
      (hdicts entry.1 (List.fst_mem_of_mem_zipIdx hentry))
  unfold convertAccommodationsToOrtools
  rw [hloop]
  rfl

theorem isDict_of_convertAccommodationsToOrtools {accommodations : List PyVal}
    {converted : List OrtoolsAccommodation × List String}
    (hconverted : convertAccommodationsToOrtools env accommodations = .ok converted) :
    ∀ accommodation ∈ accommodations, IsDict accommodation := by
  obtain ⟨outcomes, houtcomes, -⟩ := exists_of_bind_eq_ok hconverted
  obtain ⟨hlength, hturns⟩ := List.forall₂_iff_get.mp (forall₂_of_mapM_eq_ok houtcomes)
  intro accommodation haccommodation
  obtain ⟨i, hi⟩ := List.mem_iff_getElem?.mp haccommodation
  have hentry : accommodations.zipIdx[i]? = some (accommodation, i) := by
    simp [List.getElem?_zipIdx, hi]
  obtain ⟨hlt, hat⟩ := List.getElem?_eq_some_iff.mp hentry
  have hturn := hturns i hlt (hlength ▸ hlt)
  rw [List.get_eq_getElem, hat] at hturn
  obtain ⟨legacy, hlegacy, -⟩ := exists_of_bind_eq_ok hturn
  cases accommodation with
  | dict entries => exact ⟨entries, rfl⟩
  | _ => cases hlegacy

end Accommodations

/-! ## Conversions of requests -/

section Requests

variable {env : ConverterEnv} {dateEnv : DateEnv} {request : LegacyRequest}
  {places accommodations : List PyVal}

theorem places_withRecords :
    (request.withRecords places accommodations).entries.get "places" (.list []) =
      .list places := by
  unfold LegacyRequest.withRecords PyDict.get
  dsimp only
  rw [PyDict.lookup_set_of_ne (by decide), PyDict.lookup_set_self]
  rfl

theorem accommodations_withRecords :
    (((request.withRecords places accommodations).entries.get "accommodations" .none).orElse
      (.list [])).iterate = .ok accommodations := by
  unfold LegacyRequest.withRecords PyDict.get
  dsimp only
  rw [PyDict.lookup_set_self]
  cases accommodations with
  | nil => rfl
  | cons first rest => rfl

/-- The conversion of a request goes through exactly when its accommodations are dictionaries
and its dates can be converted. -/
theorem convertRequestParts_eq_ok_iff {parts : RequestParts} :
    convertRequestParts env dateEnv (request.withRecords places accommodations) = .ok parts ↔
      ∃ made dates,
        convertAccommodationsToOrtools env accommodations = .ok made ∧
        convertDatesToOrtools dateEnv request.startDate request.endDate = .ok dates ∧
        parts =
          { places := (convertPlacesToOrtools places).1
            accommodations := made.1
            data := ortoolsRequest (request.withRecords places accommodations)
              (convertPlacesToOrtools places).1 made.1 dates.1 places.length
            warnings := (convertPlacesToOrtools places).2 ++ made.2 ++ dates.2 } := by
  constructor
  · intro hparts
    obtain ⟨given, hgiven, hparts⟩ := exists_of_bind_eq_ok hparts
    rw [places_withRecords, PyVal.iterate_list] at hgiven
    cases hgiven
    obtain ⟨given, hgiven, hparts⟩ := exists_of_bind_eq_ok hparts
    rw [accommodations_withRecords] at hgiven
    cases hgiven
    obtain ⟨made, hmade, hparts⟩ := exists_of_bind_eq_ok hparts
    obtain ⟨dates, hdates, hparts⟩ := exists_of_bind_eq_ok hparts
    cases hparts
    exact ⟨made, dates, hmade, hdates, rfl⟩
  · rintro ⟨made, dates, hmade, hdates, rfl⟩
    unfold convertRequestParts
    rw [places_withRecords, PyVal.iterate_list]
    dsimp only [bind, Except.bind]
    rw [accommodations_withRecords]
    dsimp only
    rw [hmade]
    dsimp only
    have hsame : convertDatesToOrtools dateEnv
        (request.withRecords places accommodations).startDate
        (request.withRecords places accommodations).endDate = .ok dates := hdates
    rw [hsame]

theorem success_convertLegacyToOrtoolsFormat_iff :
    (convertLegacyToOrtoolsFormat env dateEnv request).success = true ↔
      ∃ parts, convertRequestParts env dateEnv request = .ok parts := by
  unfold convertLegacyToOrtoolsFormat
  cases convertRequestParts env dateEnv request with
  | ok parts => exact iff_of_true rfl ⟨parts, rfl⟩
  | error e => exact iff_of_false Bool.false_ne_true nofun

theorem success_withRecords_iff :
    (convertLegacyToOrtoolsFormat env dateEnv
        (request.withRecords places accommodations)).success = true ↔
      (∀ accommodation ∈ accommodations, IsDict accommodation) ∧
        ∃ dates, convertDatesToOrtools dateEnv request.startDate request.endDate =
          .ok dates := by
  rw [success_convertLegacyToOrtoolsFormat_iff]
  constructor
  · rintro ⟨parts, hparts⟩
    obtain ⟨made, dates, hmade, hdates, -⟩ := convertRequestParts_eq_ok_iff.mp hparts
    exact ⟨isDict_of_convertAccommodationsToOrtools hmade, dates, hdates⟩
  · rintro ⟨hdicts, dates, hdates⟩
    exact ⟨_, convertRequestParts_eq_ok_iff.mpr
      ⟨_, dates, convertAccommodationsToOrtools_of_isDict hdicts, hdates, rfl⟩⟩

/-- What is well-formed is a dictionary. -/
theorem isDict_of_mem_filter {accommodation : PyVal}
    (hmem : accommodation ∈ accommodations.filter (isWellFormedAccommodation env)) :
    IsDict accommodation := by
  obtain ⟨alone, halone⟩ := Option.isSome_iff_exists.mp (List.mem_filter.mp hmem).2
  obtain ⟨legacy, hlegacy, -⟩ := getLeft?_accommodationOutcome_iff.mp halone
  exact ⟨legacy, hlegacy⟩

/-- Where both conversions go through, the well-formed records come out the same. -/
theorem forall₂_same_of_parts {parts wellFormedParts : RequestParts}
    (hparts : convertRequestParts env dateEnv (request.withRecords places accommodations) =
      .ok parts)
    (hwellFormed : convertRequestParts env dateEnv (request.withRecords
      (places.filter isWellFormedPlace)
      (accommodations.filter (isWellFormedAccommodation env))) = .ok wellFormedParts) :
    List.Forall₂ SamePlace parts.places wellFormedParts.places ∧
      List.Forall₂ SameAccommodation parts.accommodations wellFormedParts.accommodations := by
  obtain ⟨made, dates, hmade, -, rfl⟩ := convertRequestParts_eq_ok_iff.mp hparts
  obtain ⟨others, otherDates, hothers, -, rfl⟩ := convertRequestParts_eq_ok_iff.mp hwellFormed
  rw [convertAccommodationsToOrtools_of_isDict
    (isDict_of_convertAccommodationsToOrtools hmade)] at hmade
  rw [convertAccommodationsToOrtools_of_isDict fun _ => isDict_of_mem_filter] at hothers
  cases hmade
  cases hothers
  exact ⟨forall₂_samePlace places,
    Sift.forall₂_picked_filter_isSome exists_sameAccommodation accommodations⟩

end Requests

/-- The malformed records of a request are isolated exactly when every accommodation is at
least a dictionary, or the dates of the request cannot be converted in any case. -/
theorem isolatesMalformed_iff (env : ConverterEnv) (dateEnv : DateEnv) (request : LegacyRequest)
    (places accommodations : List PyVal) :
    IsolatesMalformed env dateEnv request places accommodations ↔
      (∀ accommodation ∈ accommodations, IsDict accommodation) ∨
        ¬ ∃ dates, convertDatesToOrtools dateEnv request.startDate request.endDate =
          .ok dates := by
  constructor
  · intro hisolates
    by_cases hdates : ∃ dates,
        convertDatesToOrtools dateEnv request.startDate request.endDate = .ok dates
    · have hsurvives := hisolates.survives
        (success_withRecords_iff.mpr ⟨fun _ => isDict_of_mem_filter, hdates⟩)
      exact .inl (success_withRecords_iff.mp hsurvives).1
    · exact .inr hdates
  · intro hcondition
    refine ⟨?_, fun _ _ => forall₂_same_of_parts⟩
    intro hwellFormed
    have hdates := (success_withRecords_iff.mp hwellFormed).2
    rcases hcondition with hdicts | hnone
    · exact success_withRecords_iff.mpr ⟨hdicts, hdates⟩
    · exact absurd hdates hnone

/-- A text among the accommodations fails a request with two dates that can be read. -/
theorem isolatesMalformed_text_false :
    ¬ IsolatesMalformed ⟨"", fun _ => ""⟩ newYear
      { entries := [], startDate := .moment newYear.today, endDate := .moment newYear.today,
        inputKeys := [] } [] [.str "Hotel Plaza"] := by
  intro hisolates
  have hdates : ∃ dates, convertDatesToOrtools newYear (.moment newYear.today)
      (.moment newYear.today) = .ok dates := ⟨_, rfl⟩
  have hsurvives := hisolates.survives
    (success_withRecords_iff.mpr ⟨fun _ => isDict_of_mem_filter, hdates⟩)
  obtain ⟨entries, hentries⟩ :=
    (success_withRecords_iff.mp hsurvives).1 (.str "Hotel Plaza") List.mem_cons_self
  cases hentries

end Goveling.Ortools
