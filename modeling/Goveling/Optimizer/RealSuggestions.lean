/-
# Suggestions for a free block

Suggestions of the places service are filtered by the distance they carry, converted, freed of
repeated identifiers and cut to three. Each one that cannot be converted is skipped. A suggestion
that carries no distance counts as being at the location, and the distance to the location is
never computed.
-/

import Goveling.Math.Matching
import Goveling.Optimizer.Types
import Goveling.Places.PlaceIds

namespace Goveling.Optimizer

open Goveling.Math Goveling.Math.NewKeys Goveling.Places Goveling.Python
open Goveling.Ortools (PlaceKey keyOf)

/-- A suggestion with what the routing service answers for the walk to it from the location of
the user, should it be asked. -/
structure AskedSuggestion where
  suggestion : PyDict
  eta : Except PyError PyDict

/-! ## The conversion of a suggestion -/

/-- The number that is compared with a bound. -/
def comparedNumber (operator boundType : String) (value : PyVal) : Except PyError ℚ :=
  match value.number? with
  | some number => .ok number
  | none => .error (.typeError ("'" ++ operator ++ "' not supported between instances of '" ++
      value.typeName ++ "' and '" ++ boundType ++ "'"))

section Conversion

variable (textOf : PyVal → String)

/-- `_generate_suggestion_reason_enhanced`. -/
def generateSuggestionReasonEnhanced (suggestion : PyDict) (etaMinutes : PyVal) :
    Except PyError String := do
  let rating := suggestion.get "rating" (.float 4)
  let source := suggestion.get "source" (.str "synthetic")
  let minutes ← comparedNumber "<=" "int" etaMinutes
  let distanceDesc :=
    if minutes ≤ 5 then "muy cerca"
    else if minutes ≤ 15 then "cerca"
    else textOf etaMinutes ++ "min caminando"
  let stars ← comparedNumber ">=" "float" rating
  let ratingDesc :=
    if 45 / 10 ≤ stars then "excelente rating (" ++ textOf rating ++ "⭐)"
    else if 4 ≤ stars then "buen rating (" ++ textOf rating ++ "⭐)"
    else "rating " ++ textOf rating ++ "⭐"
  let sourcePrefix := if source.isText "google_places" then "Google Places: " else ""
  return sourcePrefix ++ ratingDesc ++ ", " ++ distanceDesc

/-- The entry of a place that Google Places has found. -/
def realEntry (suggestion : PyDict) : Except PyError PyDict := do
  let name ← suggestion.item "name"
  let lat ← suggestion.item "lat"
  let lon ← suggestion.item "lon"
  let type ← suggestion.item "type"
  let rating := suggestion.get "rating" (.float 4)
  return [
    ("name", name),
    ("lat", lat),
    ("lon", lon),
    ("type", type),
    ("rating", rating),
    ("eta_minutes", suggestion.get "eta_minutes" (.int 0)),
    ("reason", suggestion.get "reason" (.str ("Google Places: " ++ textOf rating ++ "⭐"))),
    ("synthetic", .bool false),
    ("source", .str "google_places"),
    ("place_id", placeId suggestion),
    ("vicinity", suggestion.get "vicinity" (.str "")),
    ("user_ratings_total", suggestion.get "user_ratings_total" (.int 0)),
    ("distance_km", suggestion.get "distance_km" (.int 0)),
    ("price_level", suggestion.get "price_level" .none)]

/-- The entry of a synthetic place, whose walk is asked for. -/
def syntheticEntry (asked : AskedSuggestion) : Except PyError PyDict := do
  let lat ← asked.suggestion.item "lat"
  let lon ← asked.suggestion.item "lon"
  let etaInfo ← asked.eta
  let duration ← etaInfo.item "duration_minutes"
  let reason ← generateSuggestionReasonEnhanced textOf asked.suggestion duration
  let name ← asked.suggestion.item "name"
  let type ← asked.suggestion.item "type"
  return [
    ("name", name),
    ("lat", lat),
    ("lon", lon),
    ("type", type),
    ("rating", asked.suggestion.get "rating" (.float 4)),
    ("eta_minutes", .int (truncated (← duration.real))),
    ("reason", .str reason),
    ("synthetic", .bool true)]

/-- `suggestion.get('synthetic', True)` is not true. -/
def AskedSuggestion.isReal (asked : AskedSuggestion) : Bool :=
  !(asked.suggestion.get "synthetic" (.bool true)).truthy

/-- The body of the loop: a suggestion that carries too large a distance is left out. -/
def enrichSuggestion (asked : AskedSuggestion) : Except PyError (Option PyDict) := do
  if ← (asked.suggestion.get "distance_km" (.int 0)).greaterThan 5 "float" then
    let _ ← asked.suggestion.item "name"
    return none
  else if asked.isReal then return some (← realEntry textOf asked.suggestion)
  else return some (← syntheticEntry textOf asked)

/-- What the body of the loop adds. What fails is skipped. -/
def enrichedEntry (asked : AskedSuggestion) : Option PyDict :=
  (enrichSuggestion textOf asked).toOption.join

/-- The loop over the enriched suggestions. -/
def deduplicate : List PlaceKey → List PyDict → Except PyError (List PyDict)
  | _, [] => .ok []
  | seenPlaceIds, suggestion :: rest =>
      if (placeId suggestion).truthy then do
        let id ← keyOf (placeId suggestion)
        if id ∈ seenPlaceIds then deduplicate seenPlaceIds rest
        else return suggestion :: (← deduplicate (id :: seenPlaceIds) rest)
      else do return suggestion :: (← deduplicate seenPlaceIds rest)

/-- `_enrich_suggestions_real`. -/
def enrichSuggestionsReal (rawSuggestions : List AskedSuggestion) :
    Except PyError (List PyDict) := do
  let enriched := rawSuggestions.filterMap (enrichedEntry textOf)
  return (← deduplicate [] enriched).take 3

end Conversion

/-! ## What is asked of the suggestions -/

/-- The entry is the suggestion of the input, at its place. -/
def IsEntryOf (suggestion entry : PyDict) : Prop :=
  ∀ key ∈ ["name", "lat", "lon", "type"],
    ∃ value, suggestion.lookup key = some value ∧ entry.lookup key = some value

/-- The coordinates are those of a point near another one. -/
def LiesWithin (globe : Globe) (userLocation : Location) (maxDistanceKm : ℚ) (entry : PyDict) :
    Prop :=
  ∃ location : Location, entry.number? "lat" = some location.lat ∧
    entry.number? "lon" = some location.lon ∧
    globe.haversineKm userLocation location ≤ maxDistanceKm

/-- At most three entries that come from the input in its order, near the user and without a
repeated identifier. -/
structure NearbyEntries (globe : Globe) (userLocation : Location)
    (rawSuggestions : List AskedSuggestion) (entries : List PyDict) : Prop where
  length_le : entries.length ≤ 3
  fromInput : ∃ chosen : List AskedSuggestion, chosen.Sublist rawSuggestions ∧
    List.Forall₂ (fun asked entry => IsEntryOf asked.suggestion entry) chosen entries
  near : ∀ entry ∈ entries, LiesWithin globe userLocation 5 entry
  distinct : entries.Pairwise fun first second => ¬ SharesPlaceId first second

/-- The suggestions are enriched to such entries. -/
def EnrichesNearby (textOf : PyVal → String) (globe : Globe) (userLocation : Location)
    (rawSuggestions : List AskedSuggestion) : Prop :=
  ∃ entries, enrichSuggestionsReal textOf rawSuggestions = .ok entries ∧
    NearbyEntries globe userLocation rawSuggestions entries

/-- The minutes of the walk, when they are known as a number. -/
def AskedSuggestion.minutes? (asked : AskedSuggestion) : Option ℚ :=
  match asked.eta with
  | .ok etaInfo => etaInfo.number? "duration_minutes"
  | .error _ => none

/-- The distance that is carried is at most five kilometres, the fields that are copied are there,
and for a synthetic suggestion the rating and the minutes of the walk are numbers. -/
def AskedSuggestion.isConvertible (asked : AskedSuggestion) : Bool :=
  (asked.suggestion.get "distance_km" (.int 0)).number?.any (fun distanceKm => distanceKm ≤ 5) &&
    ["name", "lat", "lon", "type"].all asked.suggestion.has &&
    (asked.isReal ||
      asked.minutes?.isSome && (asked.suggestion.get "rating" (.float 4)).number?.isSome)

/-- The identifier that is kept: a synthetic suggestion loses its own. -/
def AskedSuggestion.keptId (asked : AskedSuggestion) : PyVal :=
  if asked.isReal then placeId asked.suggestion else .str ""

/-- The suggestions that can be converted. -/
def candidates (rawSuggestions : List AskedSuggestion) : List AskedSuggestion :=
  rawSuggestions.filter AskedSuggestion.isConvertible

/-- The first three of them whose identifiers are not repeated. -/
def firstCandidates (rawSuggestions : List AskedSuggestion) : List AskedSuggestion :=
  (firstOfEach (fun asked => setKey? asked.keptId) [] (candidates rawSuggestions)).take 3

/-! ## One suggestion -/

section OneSuggestion

variable {textOf : PyVal → String} {asked : AskedSuggestion} {suggestion entry : PyDict}

theorem item_eq_ok_iff {entries : PyDict} {key : String} {value : PyVal} :
    entries.item key = .ok value ↔ entries.lookup key = some value := by
  unfold PyDict.item
  cases entries.lookup key with
  | none => simp
  | some found => simp

theorem has_of_item {entries : PyDict} {key : String} {value : PyVal}
    (hitem : entries.item key = .ok value) : entries.has key = true := by
  unfold PyDict.has
  rw [item_eq_ok_iff.mp hitem]
  rfl

theorem exists_item_of_has {entries : PyDict} {key : String} (hhas : entries.has key = true) :
    ∃ value, entries.item key = .ok value := by
  obtain ⟨value, hvalue⟩ := Option.isSome_iff_exists.mp hhas
  exact ⟨value, item_eq_ok_iff.mpr hvalue⟩

theorem number?_of_comparedNumber {operator boundType : String} {value : PyVal} {number : ℚ}
    (hnumber : comparedNumber operator boundType value = .ok number) :
    value.number? = some number := by
  unfold comparedNumber at hnumber
  split at hnumber
  · rename_i found hfound
    cases hnumber
    exact hfound
  · cases hnumber

theorem comparedNumber_of_number? {value : PyVal} {number : ℚ}
    (hnumber : value.number? = some number) (operator boundType : String) :
    comparedNumber operator boundType value = .ok number := by
  unfold comparedNumber
  rw [hnumber]

variable (textOf) in
/-- The reason can be given when the minutes and the rating are numbers. -/
theorem exists_generateSuggestionReasonEnhanced {etaMinutes : PyVal} {minutes stars : ℚ}
    (hminutes : etaMinutes.number? = some minutes)
    (hstars : (suggestion.get "rating" (.float 4)).number? = some stars) :
    ∃ reason, generateSuggestionReasonEnhanced textOf suggestion etaMinutes = .ok reason := by
  unfold generateSuggestionReasonEnhanced
  dsimp only
  rw [comparedNumber_of_number? hminutes, comparedNumber_of_number? hstars]
  exact ⟨_, rfl⟩

theorem numbers_of_generateSuggestionReasonEnhanced {etaMinutes : PyVal} {reason : String}
    (hreason : generateSuggestionReasonEnhanced textOf suggestion etaMinutes = .ok reason) :
    (∃ minutes, etaMinutes.number? = some minutes) ∧
      ∃ stars, (suggestion.get "rating" (.float 4)).number? = some stars := by
  obtain ⟨minutes, hminutes, hrest⟩ := exists_of_bind_eq_ok hreason
  obtain ⟨stars, hstars, -⟩ := exists_of_bind_eq_ok hrest
  exact ⟨⟨minutes, number?_of_comparedNumber hminutes⟩,
    ⟨stars, number?_of_comparedNumber hstars⟩⟩

/-- The fields that are copied are there. -/
def HasCopiedFields (suggestion : PyDict) : Prop :=
  ["name", "lat", "lon", "type"].all suggestion.has = true

theorem hasCopiedFields_of_items {name lat lon type : PyVal}
    (hname : suggestion.item "name" = .ok name) (hlat : suggestion.item "lat" = .ok lat)
    (hlon : suggestion.item "lon" = .ok lon) (htype : suggestion.item "type" = .ok type) :
    HasCopiedFields suggestion := by
  simp [HasCopiedFields, has_of_item hname, has_of_item hlat, has_of_item hlon, has_of_item htype]

theorem exists_items_of_hasCopiedFields (hfields : HasCopiedFields suggestion) :
    ∃ name lat lon type, suggestion.item "name" = .ok name ∧ suggestion.item "lat" = .ok lat ∧
      suggestion.item "lon" = .ok lon ∧ suggestion.item "type" = .ok type := by
  have hall := List.all_eq_true.mp hfields
  obtain ⟨name, hname⟩ := exists_item_of_has (hall "name" (by decide))
  obtain ⟨lat, hlat⟩ := exists_item_of_has (hall "lat" (by decide))
  obtain ⟨lon, hlon⟩ := exists_item_of_has (hall "lon" (by decide))
  obtain ⟨type, htype⟩ := exists_item_of_has (hall "type" (by decide))
  exact ⟨name, lat, lon, type, hname, hlat, hlon, htype⟩

/-- An entry with the four fields first is an entry of the suggestion they are taken from. -/
theorem isEntryOf_of_items {name lat lon type : PyVal} (rest : PyDict)
    (hname : suggestion.item "name" = .ok name) (hlat : suggestion.item "lat" = .ok lat)
    (hlon : suggestion.item "lon" = .ok lon) (htype : suggestion.item "type" = .ok type) :
    IsEntryOf suggestion
      (("name", name) :: ("lat", lat) :: ("lon", lon) :: ("type", type) :: rest) := by
  intro key hkey
  simp only [List.mem_cons, List.not_mem_nil, or_false] at hkey
  rcases hkey with rfl | rfl | rfl | rfl
  · exact ⟨name, item_eq_ok_iff.mp hname, rfl⟩
  · exact ⟨lat, item_eq_ok_iff.mp hlat, rfl⟩
  · exact ⟨lon, item_eq_ok_iff.mp hlon, rfl⟩
  · exact ⟨type, item_eq_ok_iff.mp htype, rfl⟩

theorem realEntry_eq_ok (hentry : realEntry textOf suggestion = .ok entry) :
    HasCopiedFields suggestion ∧ IsEntryOf suggestion entry ∧
      placeId entry = placeId suggestion := by
  obtain ⟨name, hname, hrest⟩ := exists_of_bind_eq_ok hentry
  obtain ⟨lat, hlat, hrest⟩ := exists_of_bind_eq_ok hrest
  obtain ⟨lon, hlon, hrest⟩ := exists_of_bind_eq_ok hrest
  obtain ⟨type, htype, hrest⟩ := exists_of_bind_eq_ok hrest
  cases hrest
  exact ⟨hasCopiedFields_of_items hname hlat hlon htype,
    isEntryOf_of_items _ hname hlat hlon htype, rfl⟩

variable (textOf) in
theorem exists_realEntry (hfields : HasCopiedFields suggestion) :
    ∃ entry, realEntry textOf suggestion = .ok entry := by
  obtain ⟨name, lat, lon, type, hname, hlat, hlon, htype⟩ :=
    exists_items_of_hasCopiedFields hfields
  unfold realEntry
  rw [hname, hlat, hlon, htype]
  exact ⟨_, rfl⟩

theorem minutes?_eq_some {minutes : ℚ} (hminutes : asked.minutes? = some minutes) :
    ∃ etaInfo, asked.eta = .ok etaInfo ∧ etaInfo.number? "duration_minutes" = some minutes := by
  unfold AskedSuggestion.minutes? at hminutes
  split at hminutes
  · rename_i etaInfo heta
    exact ⟨etaInfo, heta, hminutes⟩
  · cases hminutes

/-- The walk and the rating are known as numbers. -/
def AskedSuggestion.HasNumbers (asked : AskedSuggestion) : Prop :=
  (∃ minutes, asked.minutes? = some minutes) ∧
    ∃ stars, (asked.suggestion.get "rating" (.float 4)).number? = some stars

theorem syntheticEntry_eq_ok (hentry : syntheticEntry textOf asked = .ok entry) :
    HasCopiedFields asked.suggestion ∧ asked.HasNumbers ∧ IsEntryOf asked.suggestion entry ∧
      placeId entry = .str "" := by
  obtain ⟨lat, hlat, hrest⟩ := exists_of_bind_eq_ok hentry
  obtain ⟨lon, hlon, hrest⟩ := exists_of_bind_eq_ok hrest
  obtain ⟨etaInfo, heta, hrest⟩ := exists_of_bind_eq_ok hrest
  obtain ⟨duration, hduration, hrest⟩ := exists_of_bind_eq_ok hrest
  obtain ⟨reason, hreason, hrest⟩ := exists_of_bind_eq_ok hrest
  obtain ⟨name, hname, hrest⟩ := exists_of_bind_eq_ok hrest
  obtain ⟨type, htype, hrest⟩ := exists_of_bind_eq_ok hrest
  obtain ⟨minutes, -, hrest⟩ := exists_of_bind_eq_ok hrest
  cases hrest
  obtain ⟨⟨minutes, hminutes⟩, hstars⟩ := numbers_of_generateSuggestionReasonEnhanced hreason
  refine ⟨hasCopiedFields_of_items hname hlat hlon htype, ⟨⟨minutes, ?_⟩, hstars⟩,
    isEntryOf_of_items _ hname hlat hlon htype, rfl⟩
  unfold AskedSuggestion.minutes?
  rw [heta]
  show (etaInfo.lookup "duration_minutes").bind PyVal.number? = some minutes
  rw [item_eq_ok_iff.mp hduration]
  exact hminutes

variable (textOf) in
theorem exists_syntheticEntry (hfields : HasCopiedFields asked.suggestion)
    (hnumbers : asked.HasNumbers) : ∃ entry, syntheticEntry textOf asked = .ok entry := by
  obtain ⟨name, lat, lon, type, hname, hlat, hlon, htype⟩ :=
    exists_items_of_hasCopiedFields hfields
  obtain ⟨⟨minutes, hminutes⟩, stars, hstars⟩ := hnumbers
  obtain ⟨etaInfo, heta, hminutes⟩ := minutes?_eq_some hminutes
  obtain ⟨duration, hduration, hnumber⟩ := Option.bind_eq_some_iff.mp hminutes
  obtain ⟨reason, hreason⟩ :=
    exists_generateSuggestionReasonEnhanced textOf hnumber hstars
  have hreal : duration.real = .ok minutes := by simp only [PyVal.real, hnumber]
  unfold syntheticEntry
  rw [hname, hlat, hlon, htype, heta]
  simp only [bind, Except.bind, item_eq_ok_iff.mpr hduration, hreason, hreal]
  exact ⟨_, rfl⟩

/-- What a suggestion carries lets it through. -/
def CarriesNear (suggestion : PyDict) : Prop :=
  ∃ distanceKm, (suggestion.get "distance_km" (.int 0)).number? = some distanceKm ∧
    distanceKm ≤ 5

theorem isConvertible_iff :
    asked.isConvertible = true ↔ CarriesNear asked.suggestion ∧
      HasCopiedFields asked.suggestion ∧ (asked.isReal = true ∨ asked.HasNumbers) := by
  unfold AskedSuggestion.isConvertible CarriesNear HasCopiedFields AskedSuggestion.HasNumbers
  rw [Bool.and_eq_true, Bool.and_eq_true, Bool.or_eq_true, Bool.and_eq_true, and_assoc,
    Option.any_eq_true, Option.isSome_iff_exists, Option.isSome_iff_exists]
  simp only [decide_eq_true_iff]

/-- What is added comes from a convertible suggestion, with its fields and the identifier that
is kept of it. -/
theorem enrichedEntry_eq_some (hentry : enrichedEntry textOf asked = some entry) :
    asked.isConvertible = true ∧ IsEntryOf asked.suggestion entry ∧
      placeId entry = asked.keptId := by
  rw [isConvertible_iff]
  unfold AskedSuggestion.keptId
  have hok := eq_ok_of_toOption (Option.join_eq_some_iff.mp hentry)
  obtain ⟨far, hfar, hrest⟩ := exists_of_bind_eq_ok hok
  have hnear : CarriesNear asked.suggestion ∨ far = true := by
    unfold PyVal.greaterThan at hfar
    split at hfar
    · rename_i distanceKm hdistance
      cases hfar
      by_cases hlong : 5 < distanceKm
      · exact Or.inr (decide_eq_true hlong)
      · exact Or.inl ⟨distanceKm, hdistance, not_lt.mp hlong⟩
    · cases hfar
  cases far with
  | true =>
      obtain ⟨name, -, hrest⟩ := exists_of_bind_eq_ok hrest
      cases hrest
  | false =>
      have hcarries : CarriesNear asked.suggestion := by simpa using hnear
      rw [if_neg Bool.false_ne_true] at hrest
      cases hreal : asked.isReal with
      | true =>
          rw [hreal, if_pos rfl] at hrest
          obtain ⟨made, hmade, hrest⟩ := exists_of_bind_eq_ok hrest
          cases hrest
          obtain ⟨hfields, hentry, hid⟩ := realEntry_eq_ok hmade
          exact ⟨⟨hcarries, hfields, Or.inl rfl⟩, hentry, hid⟩
      | false =>
          rw [hreal, if_neg Bool.false_ne_true] at hrest
          obtain ⟨made, hmade, hrest⟩ := exists_of_bind_eq_ok hrest
          cases hrest
          obtain ⟨hfields, hnumbers, hentry, hid⟩ := syntheticEntry_eq_ok hmade
          exact ⟨⟨hcarries, hfields, Or.inr hnumbers⟩, hentry, hid⟩

theorem exists_enrichedEntry (textOf : PyVal → String) (hconvertible : asked.isConvertible = true) :
    ∃ entry, enrichedEntry textOf asked = some entry := by
  obtain ⟨⟨distanceKm, hdistance, hnear⟩, hfields, hkind⟩ := isConvertible_iff.mp hconvertible
  have hfar : (asked.suggestion.get "distance_km" (.int 0)).greaterThan 5 "float" = .ok false := by
    unfold PyVal.greaterThan
    rw [hdistance]
    exact congrArg Except.ok (decide_eq_false (not_lt.mpr hnear))
  unfold enrichedEntry enrichSuggestion
  rw [hfar]
  cases hreal : asked.isReal with
  | true =>
      obtain ⟨entry, hentry⟩ := exists_realEntry textOf hfields
      exact ⟨entry, by rw [hentry]; rfl⟩
  | false =>
      rw [hreal] at hkind
      obtain ⟨entry, hentry⟩ :=
        exists_syntheticEntry textOf hfields (hkind.resolve_left Bool.false_ne_true)
      exact ⟨entry, by rw [hentry]; rfl⟩

end OneSuggestion

/-! ## All suggestions -/

section AllSuggestions

variable {textOf : PyVal → String} {globe : Globe} {userLocation : Location}

/-- Entries whose identifiers sets can have are freed of repetitions. -/
theorem deduplicate_of_isSetId {enriched : List PyDict}
    (hids : ∀ entry ∈ enriched, IsSetId (placeId entry)) (seenPlaceIds : List PlaceKey) :
    deduplicate seenPlaceIds enriched =
      .ok (firstOfEach placeKey? seenPlaceIds enriched) := by
  induction enriched generalizing seenPlaceIds with
  | nil => rfl
  | cons entry rest ih =>
      obtain ⟨hentry, hrest⟩ := List.forall_mem_cons.mp hids
      have hloop := ih hrest
      unfold deduplicate
      by_cases htruthy : (placeId entry).truthy = true
      · obtain ⟨k, hk⟩ := exists_keyOf (hentry htruthy)
        have hkey : placeKey? entry = some k := setKey?_of_keyOf htruthy hk
        rw [if_pos htruthy, hk]
        show (if k ∈ seenPlaceIds then _ else _) = _
        by_cases hseen : k ∈ seenPlaceIds
        · rw [if_pos hseen, firstOfEach_used hkey hseen, hloop]
        · rw [if_neg hseen, firstOfEach_new hkey hseen, hloop]
          rfl
      · have hkey : placeKey? entry = none := setKey?_of_not_truthy htruthy
        rw [if_neg htruthy, firstOfEach_keyless hkey, hloop]
        rfl

/-- An identifier that no set can have ends the loop. -/
theorem isSetId_of_deduplicate {seenPlaceIds : List PlaceKey} {enriched deduplicated : List PyDict}
    (hloop : deduplicate seenPlaceIds enriched = .ok deduplicated) :
    ∀ entry ∈ enriched, IsSetId (placeId entry) := by
  induction enriched generalizing seenPlaceIds deduplicated with
  | nil => exact fun _ hmem => absurd hmem List.not_mem_nil
  | cons entry rest ih =>
      unfold deduplicate at hloop
      rw [List.forall_mem_cons]
      by_cases htruthy : (placeId entry).truthy = true
      · rw [if_pos htruthy] at hloop
        obtain ⟨k, hk, hloop⟩ := exists_of_bind_eq_ok hloop
        refine ⟨isSetId_of_keyOf hk, ?_⟩
        split at hloop
        · exact ih hloop
        · obtain ⟨kept, hkept, -⟩ := exists_of_bind_eq_ok hloop
          exact ih hkept
      · rw [if_neg htruthy] at hloop
        obtain ⟨kept, hkept, -⟩ := exists_of_bind_eq_ok hloop
        exact ⟨fun h => absurd h htruthy, ih hkept⟩

/-- The entries are those of the candidates, one for one. -/
theorem forall₂_enriched (textOf : PyVal → String) (rawSuggestions : List AskedSuggestion) :
    List.Forall₂ (fun asked entry => enrichedEntry textOf asked = some entry)
      (candidates rawSuggestions) (rawSuggestions.filterMap (enrichedEntry textOf)) := by
  unfold candidates
  induction rawSuggestions with
  | nil => exact List.Forall₂.nil
  | cons asked rest ih =>
      by_cases hconvertible : asked.isConvertible = true
      · obtain ⟨entry, hentry⟩ := exists_enrichedEntry textOf hconvertible
        rw [List.filter_cons_of_pos hconvertible, List.filterMap_cons_some hentry]
        exact List.Forall₂.cons hentry ih
      · have hnone : enrichedEntry textOf asked = none := by
          rw [Option.eq_none_iff_forall_ne_some]
          intro entry hentry
          exact hconvertible (enrichedEntry_eq_some hentry).1
        rw [List.filter_cons_of_neg hconvertible, List.filterMap_cons_none hnone]
        exact ih

/-- The entry of a suggestion is where the suggestion is. -/
theorem liesWithin_entry_iff {asked : AskedSuggestion} {entry : PyDict}
    (hentry : IsEntryOf asked.suggestion entry) {maxDistanceKm : ℚ} :
    LiesWithin globe userLocation maxDistanceKm entry ↔
      LiesWithin globe userLocation maxDistanceKm asked.suggestion := by
  obtain ⟨lat, hlat, hlat'⟩ := hentry "lat" (by decide)
  obtain ⟨lon, hlon, hlon'⟩ := hentry "lon" (by decide)
  unfold LiesWithin PyDict.number?
  rw [hlat, hlat', hlon, hlon']

/-- The entries that are returned belong to the first candidates. -/
theorem forall₂_firstCandidates (textOf : PyVal → String)
    (rawSuggestions : List AskedSuggestion) :
    List.Forall₂ (fun asked entry => enrichedEntry textOf asked = some entry)
      (firstCandidates rawSuggestions)
      ((firstOfEach placeKey? [] (rawSuggestions.filterMap (enrichedEntry textOf))).take 3) := by
  apply List.forall₂_take
  apply forall₂_firstOfEach (forall₂_enriched textOf rawSuggestions)
  intro asked entry hentry
  exact congrArg setKey? (enrichedEntry_eq_some hentry).2.2

/-- At most three entries come from the input in its order, and none has the identifier of
another, wherever they lie. -/
theorem nearbyEntries_iff {rawSuggestions : List AskedSuggestion}
    (hids : ∀ entry ∈ rawSuggestions.filterMap (enrichedEntry textOf), IsSetId (placeId entry)) :
    NearbyEntries globe userLocation rawSuggestions
        ((firstOfEach placeKey? [] (rawSuggestions.filterMap (enrichedEntry textOf))).take 3) ↔
      ∀ asked ∈ firstCandidates rawSuggestions,
        LiesWithin globe userLocation 5 asked.suggestion := by
  have hentries := forall₂_firstCandidates textOf rawSuggestions
  have hnear : (∀ asked ∈ firstCandidates rawSuggestions,
        LiesWithin globe userLocation 5 asked.suggestion) ↔
      ∀ entry ∈ (firstOfEach placeKey? []
        (rawSuggestions.filterMap (enrichedEntry textOf))).take 3,
        LiesWithin globe userLocation 5 entry := by
    refine forall_mem_iff_of_forall₂ (fun asked entry hentry => ?_) hentries
    exact (liesWithin_entry_iff (enrichedEntry_eq_some hentry).2.1).symm
  rw [hnear]
  constructor
  · exact NearbyEntries.near
  · intro hlies
    refine ⟨List.length_take_le _ _, ⟨firstCandidates rawSuggestions, ?_, ?_⟩, hlies, ?_⟩
    · exact (List.take_sublist _ _).trans
        ((firstOfEach_sublist _ _).trans List.filter_sublist)
    · exact hentries.imp fun _ _ hentry => (enrichedEntry_eq_some hentry).2.1
    · obtain ⟨usedAfter, hdraws⟩ := exists_draws_firstOfEach placeKey? []
        (rawSuggestions.filterMap (enrichedEntry textOf))
      apply (pairwise_not_sharesPlaceId hdraws ?_).sublist (List.take_sublist _ _)
      intro entry hmem
      exact hids entry ((firstOfEach_sublist _ _).subset hmem)

end AllSuggestions

/-- The suggestions are enriched to entries near the user exactly when the identifiers that are
kept can be told apart and the first three candidates really lie near. -/
theorem enrichesNearby_iff (textOf : PyVal → String) (globe : Globe) (userLocation : Location)
    (rawSuggestions : List AskedSuggestion) :
    EnrichesNearby textOf globe userLocation rawSuggestions ↔
      (∀ asked ∈ candidates rawSuggestions, IsSetId asked.keptId) ∧
        ∀ asked ∈ firstCandidates rawSuggestions,
          LiesWithin globe userLocation 5 asked.suggestion := by
  have hids : (∀ asked ∈ candidates rawSuggestions, IsSetId asked.keptId) ↔
      ∀ entry ∈ rawSuggestions.filterMap (enrichedEntry textOf), IsSetId (placeId entry) := by
    apply forall_mem_iff_of_forall₂ _ (forall₂_enriched textOf rawSuggestions)
    intro asked entry hentry
    rw [(enrichedEntry_eq_some hentry).2.2]
  rw [hids]
  constructor
  · rintro ⟨entries, hentries, hnearby⟩
    obtain ⟨deduplicated, hloop, hrest⟩ := exists_of_bind_eq_ok hentries
    cases hrest
    have hset := isSetId_of_deduplicate hloop
    rw [deduplicate_of_isSetId hset] at hloop
    cases hloop
    exact ⟨hset, (nearbyEntries_iff hset).mp hnearby⟩
  · rintro ⟨hset, hnear⟩
    refine ⟨_, ?_, (nearbyEntries_iff hset).mpr hnear⟩
    unfold enrichSuggestionsReal
    dsimp only
    rw [deduplicate_of_isSetId hset]
    rfl

/-- A place that carries no distance, a degree away from the user. -/
def farViewpoint : AskedSuggestion where
  suggestion := [("name", .str "Mirador"), ("lat", .int 0), ("lon", .int 1),
    ("type", .str "tourist_attraction"), ("synthetic", .bool false)]
  eta := .error (.exception "not asked")

/-- More than a hundred kilometres count as none. -/
theorem not_enrichesNearby_farViewpoint :
    ¬ EnrichesNearby (fun _ => "4.0") .equatorial .origin [farViewpoint] := by
  rintro ⟨entries, hentries, hnearby⟩
  have hvalue : enrichSuggestionsReal (fun _ => "4.0") [farViewpoint] =
      .ok [(realEntry (fun _ => "4.0") farViewpoint.suggestion).toOption.getD []] := by rfl
  rw [hvalue] at hentries
  cases hentries
  obtain ⟨location, hlat, hlon, hnear⟩ := hnearby.near _ List.mem_cons_self
  have hlocation : location = .onEquator 1 :=
    Location.ext (Option.some.inj hlat).symm (Option.some.inj hlon).symm
  rw [hlocation] at hnear
  revert hnear
  decide +kernel

end Goveling.Optimizer
