/-
# Coordinates of the places

`validate_coordinates` reads the coordinates of every place with `float`, which takes texts, and
a missing key for 0. What it tests is the number that was read; what it keeps is the place as it
came. Only a correction writes numbers. A correction moves a latitude to the nearest pole and a
longitude by a full turn, and is thrown away if it moves one of them by more than five degrees,
as a full turn always does.
-/

import Goveling.Math.Matching
import Goveling.Python.Numbers
import Mathlib.Algebra.Order.Group.Abs
import Mathlib.Tactic.Linarith

namespace Goveling.Optimizer

open Goveling.Math Goveling.Python

/-! ## Corrections -/

/-- Latitude and longitude are in their ranges. -/
def InRange (lat lon : ℚ) : Prop := (-90 ≤ lat ∧ lat ≤ 90) ∧ -180 ≤ lon ∧ lon ≤ 180

instance (lat lon : ℚ) : Decidable (InRange lat lon) :=
  inferInstanceAs (Decidable ((-90 ≤ lat ∧ lat ≤ 90) ∧ -180 ≤ lon ∧ lon ≤ 180))

/-- `_attempt_coordinate_correction`. -/
def attemptCoordinateCorrection (lat lon : ℚ) : Option (ℚ × ℚ) :=
  let correctedLat := if 90 < lat then 90 else if lat < -90 then -90 else lat
  let correctedLon :=
    if 180 < lon then if lon ≤ 360 then lon - 360 else 180
    else if lon < -180 then if -360 ≤ lon then lon + 360 else -180
    else lon
  if |lat - correctedLat| ≤ 5 ∧ |lon - correctedLon| ≤ 5 then some (correctedLat, correctedLon)
  else none

/-- `(-33.4489, -70.6693)`. -/
def santiago : ℚ × ℚ := (-334489 / 10000, -706693 / 10000)

/-- `_validate_single_coordinate`. A number that is not finite is in no range, and no correction
of it is small. -/
def validateSingleCoordinate (lat lon : PyVal) : ℚ × ℚ :=
  match toFloat lat, toFloat lon with
  | .ok (some lat), .ok (some lon) =>
      if InRange lat lon then (lat, lon)
      else (attemptCoordinateCorrection lat lon).getD santiago
  | _, _ => santiago

/-- Both coordinates are out of range by five degrees at most. -/
def NearRange (lat lon : ℚ) : Prop := (-95 ≤ lat ∧ lat ≤ 95) ∧ -185 ≤ lon ∧ lon ≤ 185

/-- Two longitudes name one meridian. -/
def SameMeridian (first second : ℚ) : Prop := ∃ turns : ℤ, second = first + 360 * turns

/-- What a pair is corrected to: its latitude moves to the nearest in range, and its longitude
to the one in range of the same meridian. -/
structure CorrectsTo (lat lon : ℚ) (corrected : ℚ × ℚ) : Prop where
  inRange : InRange corrected.1 corrected.2
  lat_eq : corrected.1 = max (-90) (min 90 lat)
  meridian : SameMeridian lon corrected.2

/-- A pair that is almost in range is corrected, and no other answer than none stands for one
that is not. -/
structure CorrectsNearPairs (lat lon : ℚ) : Prop where
  corrects : NearRange lat lon →
    ∃ corrected, attemptCoordinateCorrection lat lon = some corrected ∧
      CorrectsTo lat lon corrected
  gives_up : attemptCoordinateCorrection lat lon = none → ¬ NearRange lat lon

section Correction

variable {lat lon : ℚ}

/-- The latitude of a correction. -/
theorem clamped_eq :
    (if 90 < lat then 90 else if lat < -90 then -90 else lat) = max (-90) (min 90 lat) := by
  split
  · rename_i hnorth
    rw [min_eq_left hnorth.le]
    norm_num
  · rename_i hnorth
    rw [min_eq_right (not_lt.mp hnorth)]
    split
    · rename_i hsouth
      rw [max_eq_left hsouth.le]
    · rename_i hsouth
      rw [max_eq_right (not_lt.mp hsouth)]

theorem clamped_mem (lat : ℚ) : -90 ≤ max (-90) (min 90 lat) ∧ max (-90) (min 90 lat) ≤ 90 :=
  ⟨le_max_left _ _, max_le (by norm_num) (min_le_left _ _)⟩

/-- Clamping moves a latitude by what it is out of range. -/
theorem abs_sub_clamped_le_iff : |lat - max (-90) (min 90 lat)| ≤ 5 ↔ -95 ≤ lat ∧ lat ≤ 95 := by
  rw [abs_le]
  rcases lt_or_ge 90 lat with hnorth | hnorth
  · rw [min_eq_left hnorth.le, max_eq_right (by norm_num)]
    constructor
    · intro hnear
      constructor <;> linarith
    · intro hnear
      constructor <;> linarith
  · rw [min_eq_right hnorth]
    rcases lt_or_ge lat (-90) with hsouth | hsouth
    · rw [max_eq_left hsouth.le]
      constructor
      · intro hnear
        constructor <;> linarith
      · intro hnear
        constructor <;> linarith
    · rw [max_eq_right hsouth, sub_self]
      constructor
      · intro _
        constructor <;> linarith
      · intro _
        constructor <;> norm_num

/-- A longitude in range stays; the latitude decides. -/
theorem attemptCoordinateCorrection_of_lon (hlon : -180 ≤ lon ∧ lon ≤ 180) :
    attemptCoordinateCorrection lat lon =
      if -95 ≤ lat ∧ lat ≤ 95 then some (max (-90) (min 90 lat), lon) else none := by
  unfold attemptCoordinateCorrection
  dsimp only
  rw [clamped_eq, if_neg (not_lt.mpr hlon.2), if_neg (not_lt.mpr hlon.1), sub_self, abs_zero]
  simp only [abs_sub_clamped_le_iff]
  norm_num

/-- A longitude out of range is moved by a full turn, or by more than half a one: that is never
small. -/
theorem attemptCoordinateCorrection_eq_none (hlon : ¬ (-180 ≤ lon ∧ lon ≤ 180)) :
    attemptCoordinateCorrection lat lon = none := by
  unfold attemptCoordinateCorrection
  dsimp only
  apply if_neg
  rintro ⟨-, hsmall⟩
  rw [abs_le] at hsmall
  apply hlon
  split at hsmall
  · split at hsmall
    · linarith [hsmall.1, hsmall.2]
    · rename_i hfar
      linarith [hsmall.1, hsmall.2]
  · rename_i heast
    split at hsmall
    · split at hsmall
      · linarith [hsmall.1, hsmall.2]
      · linarith [hsmall.1, hsmall.2]
    · rename_i hwest
      exact ⟨not_lt.mp hwest, not_lt.mp heast⟩

/-- What is corrected is the latitude. -/
theorem attemptCoordinateCorrection_eq_some_iff {corrected : ℚ × ℚ} :
    attemptCoordinateCorrection lat lon = some corrected ↔
      (-180 ≤ lon ∧ lon ≤ 180) ∧ (-95 ≤ lat ∧ lat ≤ 95) ∧
        corrected = (max (-90) (min 90 lat), lon) := by
  by_cases hlon : -180 ≤ lon ∧ lon ≤ 180
  · rw [attemptCoordinateCorrection_of_lon hlon]
    split
    · rename_i hlat
      simp [hlon, hlat, eq_comm]
    · rename_i hlat
      simp [hlat]
  · rw [attemptCoordinateCorrection_eq_none hlon]
    simp [hlon]

/-- Pairs near the range are corrected exactly when their longitude is in range. -/
theorem correctsNearPairs_iff (lat lon : ℚ) :
    CorrectsNearPairs lat lon ↔ (NearRange lat lon → -180 ≤ lon ∧ lon ≤ 180) := by
  constructor
  · intro hcorrects hnear
    obtain ⟨corrected, hcorrected, -⟩ := hcorrects.corrects hnear
    exact (attemptCoordinateCorrection_eq_some_iff.mp hcorrected).1
  · intro hlon
    refine ⟨fun hnear => ?_, fun hnone hnear => ?_⟩
    · refine ⟨(max (-90) (min 90 lat), lon),
        attemptCoordinateCorrection_eq_some_iff.mpr ⟨hlon hnear, hnear.1, rfl⟩, ?_⟩
      exact ⟨⟨clamped_mem lat, hlon hnear⟩, rfl, 0, by norm_num⟩
    · rw [attemptCoordinateCorrection_of_lon (hlon hnear), if_pos hnear.1] at hnone
      cases hnone

/-- A single pair is always answered with one in range. -/
theorem inRange_validateSingleCoordinate (lat lon : PyVal) :
    InRange (validateSingleCoordinate lat lon).1 (validateSingleCoordinate lat lon).2 := by
  have hdefault : InRange santiago.1 santiago.2 := by decide +kernel
  unfold validateSingleCoordinate
  split
  · split
    · assumption
    · cases hcorrected : attemptCoordinateCorrection _ _ with
      | none => exact hdefault
      | some corrected =>
          obtain ⟨hlon, -, rfl⟩ := attemptCoordinateCorrection_eq_some_iff.mp hcorrected
          exact ⟨clamped_mem _, hlon⟩
  · exact hdefault

/-- Two degrees beyond the date line nothing is returned. -/
theorem not_correctsNearPairs_dateLine : ¬ CorrectsNearPairs 10 182 := by
  intro hcorrects
  have hnear : NearRange 10 182 := by
    unfold NearRange
    norm_num
  obtain ⟨corrected, hcorrected, -⟩ := hcorrects.corrects hnear
  have hlon := (attemptCoordinateCorrection_eq_some_iff.mp hcorrected).1
  norm_num at hlon

end Correction

/-! ## Places -/

/-- A point within a thousandth of a degree of `(0, 0)`. -/
def NearOrigin (lat lon : ℚ) : Prop := |lat| < 1 / 1000 ∧ |lon| < 1 / 1000

instance (lat lon : ℚ) : Decidable (NearOrigin lat lon) :=
  inferInstanceAs (Decidable (|lat| < 1 / 1000 ∧ |lon| < 1 / 1000))

/-- A place with other coordinates and a mark for it. -/
def moveTo (place : PyDict) (mark : String) (lat lon : PyVal) : PyDict :=
  ((place.set "lat" lat).set "lon" lon).set mark (.bool true)

/-- The body of the loop of `validate_coordinates`: the place that is appended, if one is. A
coordinate that cannot be read is logged, and one that is not finite cannot be corrected. -/
def validatePlace (place : PyDict) : Option PyDict :=
  match toFloat (PyDict.get place "lat" (.int 0)), toFloat (PyDict.get place "lon" (.int 0)) with
  | .ok (some lat), .ok (some lon) =>
      if ¬ InRange lat lon then
        (attemptCoordinateCorrection lat lon).map fun corrected =>
          moveTo place "coordinates_corrected" (.float corrected.1) (.float corrected.2)
      else if NearOrigin lat lon then none
      else if |lon| < |lat| ∧ 90 < |lon| then
        if (-90 ≤ lon ∧ lon ≤ 90) ∧ -180 ≤ lat ∧ lat ≤ 180 then
          some (moveTo place "coordinates_swapped" (.float lon) (.float lat))
        else some place
      else some place
  | _, _ => none

/-- `validate_coordinates` of a list of places. -/
def validateCoordinates (places : List PyDict) : List PyDict := places.filterMap validatePlace

/-- A place stores a number under a key. -/
def Stores (place : PyDict) (key : String) (number : ℚ) : Prop :=
  ∃ value, place.lookup key = some value ∧ value.number? = some number

/-- A place stores numbers for its coordinates, which are in range and not near `(0, 0)`. -/
def StoresCoordinates (place : PyDict) : Prop :=
  ∃ lat lon, Stores place "lat" lat ∧ Stores place "lon" lon ∧ InRange lat lon ∧
    ¬ NearOrigin lat lon

/-- The keys that a correction writes to. -/
def coordinateKeys : List String :=
  ["lat", "lon", "coordinates_corrected", "coordinates_swapped"]

/-- A place that was kept: the same one if its coordinates were valid, and one that differs in
its coordinates at most. -/
structure Kept (before after : PyDict) : Prop where
  unchanged : StoresCoordinates before → after = before
  others : ∀ key ∉ coordinateKeys, after.lookup key = before.lookup key

/-- What is promised of a validation: all that is returned has coordinates, is a part of what
came in the order it came in, and has all that was valid. -/
structure Validates (places validated : List PyDict) : Prop where
  stored : ∀ place ∈ validated, StoresCoordinates place
  kept : ∃ kept, kept.Sublist places ∧ List.Forall₂ Kept kept validated
  complete : ∀ place ∈ places, StoresCoordinates place → place ∈ validated

/-- `float` reads the coordinates of a place, with 0 for a missing key. -/
def ReadsAs (place : PyDict) (lat lon : ℚ) : Prop :=
  toFloat (PyDict.get place "lat" (.int 0)) = .ok (some lat) ∧
    toFloat (PyDict.get place "lon" (.int 0)) = .ok (some lon)

section Places

variable {place after : PyDict} {lat lon : ℚ}

theorem get_of_stores {key : String} {number : ℚ} (hstores : Stores place key number) :
    toFloat (PyDict.get place key (.int 0)) = .ok (some number) := by
  obtain ⟨value, hvalue, hnumber⟩ := hstores
  unfold PyDict.get
  rw [hvalue]
  exact toFloat_of_number hnumber

theorem readsAs_of_stores (hlat : Stores place "lat" lat) (hlon : Stores place "lon" lon) :
    ReadsAs place lat lon :=
  ⟨get_of_stores hlat, get_of_stores hlon⟩

/-- Coordinates in range are never taken for swapped ones. -/
theorem not_swapped (hrange : InRange lat lon) : ¬ (|lon| < |lat| ∧ 90 < |lon|) := by
  rintro ⟨hless, hfar⟩
  have hlat : |lat| ≤ 90 := abs_le.mpr hrange.1
  linarith

/-- What is done with a place depends on what is read. -/
theorem validatePlace_of_reads (hreads : ReadsAs place lat lon) :
    validatePlace place =
      if InRange lat lon then if NearOrigin lat lon then none else some place
      else (attemptCoordinateCorrection lat lon).map fun corrected =>
        moveTo place "coordinates_corrected" (.float corrected.1) (.float corrected.2) := by
  unfold validatePlace
  rw [hreads.1, hreads.2]
  dsimp only
  by_cases hrange : InRange lat lon
  · rw [if_neg (not_not_intro hrange), if_pos hrange, if_neg (not_swapped hrange)]
  · rw [if_pos hrange, if_neg hrange]

/-- Only places whose coordinates are read are kept. -/
theorem exists_readsAs (hkept : validatePlace place = some after) :
    ∃ lat lon, ReadsAs place lat lon := by
  unfold validatePlace at hkept
  split at hkept
  · rename_i lat lon hlat hlon
    exact ⟨lat, lon, hlat, hlon⟩
  · cases hkept

theorem lookup_moveTo {mark key : String} (hkey : key ∉ coordinateKeys)
    (hmark : mark ∈ coordinateKeys) (newLat newLon : PyVal) :
    (moveTo place mark newLat newLon).lookup key = place.lookup key := by
  have hne : ∀ other ∈ coordinateKeys, key ≠ other := fun other hother heq => hkey (heq ▸ hother)
  unfold moveTo
  rw [PyDict.lookup_set_of_ne (hne mark hmark), PyDict.lookup_set_of_ne (hne "lon" (by decide)),
    PyDict.lookup_set_of_ne (hne "lat" (by decide))]

/-- A corrected place stores the pole and its longitude. -/
theorem storesCoordinates_corrected (hrange : ¬ InRange lat lon) {corrected : ℚ × ℚ}
    (hcorrected : attemptCoordinateCorrection lat lon = some corrected) :
    StoresCoordinates
      (moveTo place "coordinates_corrected" (.float corrected.1) (.float corrected.2)) := by
  obtain ⟨hlon, -, rfl⟩ := attemptCoordinateCorrection_eq_some_iff.mp hcorrected
  have hlat : ¬ (-90 ≤ lat ∧ lat ≤ 90) := fun hlat => hrange ⟨hlat, hlon⟩
  refine ⟨max (-90) (min 90 lat), lon, ⟨.float _, ?_, rfl⟩, ⟨.float _, ?_, rfl⟩,
    ⟨clamped_mem lat, hlon⟩, ?_⟩
  · unfold moveTo
    rw [PyDict.lookup_set_of_ne (by decide), PyDict.lookup_set_of_ne (by decide),
      PyDict.lookup_set_self]
  · unfold moveTo
    rw [PyDict.lookup_set_of_ne (by decide), PyDict.lookup_set_self]
  · rintro ⟨hsmall, -⟩
    rcases lt_or_ge 90 lat with hnorth | hnorth
    · rw [min_eq_left hnorth.le] at hsmall
      norm_num at hsmall
    · have hsouth : lat < -90 := not_le.mp fun hsouth => hlat ⟨hsouth, hnorth⟩
      rw [min_eq_right hnorth, max_eq_left hsouth.le] at hsmall
      norm_num at hsmall

/-- A place with valid coordinates is kept as it is. -/
theorem validatePlace_of_storesCoordinates (hstores : StoresCoordinates place) :
    validatePlace place = some place := by
  obtain ⟨lat, lon, hlat, hlon, hrange, hfar⟩ := hstores
  rw [validatePlace_of_reads (readsAs_of_stores hlat hlon), if_pos hrange, if_neg hfar]

/-- Whatever is kept was kept whole. -/
theorem kept_of_validatePlace (hkept : validatePlace place = some after) : Kept place after := by
  obtain ⟨lat, lon, hreads⟩ := exists_readsAs hkept
  refine ⟨fun hstores => ?_, fun key hkey => ?_⟩
  · rw [validatePlace_of_storesCoordinates hstores] at hkept
    exact (Option.some.inj hkept).symm
  · rw [validatePlace_of_reads hreads] at hkept
    split at hkept
    · split at hkept
      · cases hkept
      · cases hkept
        rfl
    · obtain ⟨corrected, -, rfl⟩ := Option.map_eq_some_iff.mp hkept
      exact lookup_moveTo hkey (by decide) _ _

end Places

/-- A validation returns nothing but places with coordinates exactly when every place whose
coordinates read as valid ones has numbers for both. -/
theorem validates_validateCoordinates_iff (places : List PyDict) :
    Validates places (validateCoordinates places) ↔
      ∀ place ∈ places, ∀ lat lon, ReadsAs place lat lon → InRange lat lon →
        ¬ NearOrigin lat lon → Stores place "lat" lat ∧ Stores place "lon" lon := by
  constructor
  · intro hvalidates place hplace lat lon hreads hrange hfar
    have hkept : validatePlace place = some place := by
      rw [validatePlace_of_reads hreads, if_pos hrange, if_neg hfar]
    have hmem : place ∈ validateCoordinates places :=
      List.mem_filterMap.mpr ⟨place, hplace, hkept⟩
    obtain ⟨lat', lon', hlat, hlon, -, -⟩ := hvalidates.stored place hmem
    obtain ⟨hlat', hlon'⟩ := readsAs_of_stores hlat hlon
    cases hlat'.symm.trans hreads.1
    cases hlon'.symm.trans hreads.2
    exact ⟨hlat, hlon⟩
  · intro hnumbers
    refine ⟨fun after hafter => ?_, ?_, fun place hplace hstores => ?_⟩
    · obtain ⟨place, hplace, hkept⟩ := List.mem_filterMap.mp hafter
      obtain ⟨lat, lon, hreads⟩ := exists_readsAs hkept
      rw [validatePlace_of_reads hreads] at hkept
      split at hkept
      · rename_i hrange
        split at hkept
        · cases hkept
        · rename_i hfar
          cases hkept
          obtain ⟨hlat, hlon⟩ := hnumbers _ hplace lat lon hreads hrange hfar
          exact ⟨lat, lon, hlat, hlon, hrange, hfar⟩
      · rename_i hrange
        obtain ⟨corrected, hcorrected, rfl⟩ := Option.map_eq_some_iff.mp hkept
        exact storesCoordinates_corrected hrange hcorrected
    · have hkept : ∀ place after, validatePlace place = some after → Kept place after :=
        fun _ _ => kept_of_validatePlace
      exact exists_sublist_forall₂_filterMap hkept places
    · exact List.mem_filterMap.mpr
        ⟨place, hplace, validatePlace_of_storesCoordinates hstores⟩

/-- A place whose latitude is a text. -/
def textLatitude : PyDict :=
  [("name", .str "Mercado"), ("lat", .str "-33.4"), ("lon", .float (-70))]

/-- The text is taken for a latitude and stays a text. -/
theorem not_validates_textLatitude :
    ¬ Validates [textLatitude] (validateCoordinates [textLatitude]) := by
  intro hvalidates
  have hreads : ReadsAs textLatitude (-334 / 10) (-70) := ⟨by decide +kernel, by decide +kernel⟩
  have hkept : validatePlace textLatitude = some textLatitude := by
    rw [validatePlace_of_reads hreads, if_pos (by decide +kernel), if_neg (by decide +kernel)]
  obtain ⟨lat, -, ⟨value, hvalue, hnumber⟩, -⟩ := hvalidates.stored textLatitude
    (List.mem_filterMap.mpr ⟨textLatitude, List.mem_singleton_self _, hkept⟩)
  cases hvalue
  cases hnumber

end Goveling.Optimizer
