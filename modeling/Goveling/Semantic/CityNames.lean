/-
# Names and boxes of the places of a request

The managers of the semantic services name the city of a request after the
center of its places, from a list of regions and with a generic name elsewhere,
and box the places with a margin. Both look at the coordinates that count as
true, so a coordinate that is zero or missing is left out.
-/

import Goveling.Python.Value

namespace Goveling.Semantic

open Goveling.Python

/-- `[p.get(key, 0) for p in places if p.get(key)]`. -/
def presentValues (key : String) (places : List PyDict) : List PyVal :=
  (places.map fun place => PyDict.get place key (.int 0)).filter PyVal.truthy

/-- `sum(values) / len(values)`. -/
def meanOf (values : List PyVal) : Except PyError ℚ := do
  let total ← PyVal.sum values
  let quotient ← total.dividedBy values.length
  quotient.real

/-- A region with a name: the bounds of the center's latitude and longitude. -/
structure Region where
  name : String
  minLat : ℚ
  maxLat : ℚ
  minLon : ℚ
  maxLon : ℚ

/-- The center lies in the region. -/
def Region.covers (region : Region) (centerLat centerLon : ℚ) : Bool :=
  (region.minLat ≤ centerLat && centerLat ≤ region.maxLat) &&
    (region.minLon ≤ centerLon && centerLon ≤ region.maxLon)

/-- The regions that both managers know. No latitude is in the last one, whose bounds are
written in the wrong order. -/
def knownRegions : List Region :=
  [⟨"santiago", -33.6, -33.3, -70.8, -70.4⟩, ⟨"antofagasta", -23.7, -23.4, -70.5, -70.2⟩,
    ⟨"copiapo", -27.4, -27.2, -70.4, -70.2⟩, ⟨"la_serena", -29.3, -29.8, -71.3, -71.1⟩]

/-- `_detect_city_from_places`, for the regions of a manager and its name of other places. -/
def detectCity (regions : List Region) (otherName : ℚ → ℚ → String) (places : List PyDict) :
    Except PyError (Option String) :=
  let lats := presentValues "lat" places
  let lons := presentValues "lon" places
  if lats.isEmpty || lons.isEmpty then .ok none
  else do
    let centerLat ← meanOf lats
    let centerLon ← meanOf lons
    match regions.find? (·.covers centerLat centerLon) with
    | some region => return some region.name
    | none => return some (otherName centerLat centerLon)

/-- A bounding box `(min_lat, max_lat, min_lon, max_lon)`. -/
structure BBox where
  minLat : ℚ
  maxLat : ℚ
  minLon : ℚ
  maxLon : ℚ
  deriving DecidableEq

/-- `max(values) + margin`. -/
def upperBound (margin : ℚ) (values : List PyVal) : Except PyError ℚ := do
  let largest ← PyVal.maxOf values
  let bound ← largest.plus (.float margin)
  bound.real

/-- `min(values) - margin`. -/
def lowerBound (margin : ℚ) (values : List PyVal) : Except PyError ℚ := do
  let smallest ← PyVal.minOf values
  smallest.minus (.float margin)

/-- `_calculate_bbox_from_places`, for the margin of a manager. -/
def calculateBBox (margin : ℚ) (places : List PyDict) : Except PyError BBox :=
  let lats := presentValues "lat" places
  let lons := presentValues "lon" places
  if lats.isEmpty || lons.isEmpty then
    .ok { minLat := -33.5, maxLat := -33.3, minLon := -70.8, maxLon := -70.5 }
  else do
    let minLat ← lowerBound margin lats
    let maxLat ← upperBound margin lats
    let minLon ← lowerBound margin lons
    let maxLon ← upperBound margin lons
    return { minLat := minLat, maxLat := maxLat, minLon := minLon, maxLon := maxLon }

/-- A request of a manager: its places, and the name of the city if the caller gives one. -/
structure CityRequest where
  places : List PyDict
  cityName : Option String := none

/-- The name that the caller gives, unless it is empty. -/
def CityRequest.givenName (request : CityRequest) : Option String :=
  request.cityName.filter (· ≠ "")

/-- The name a manager goes on with. -/
def CityRequest.resolveName (request : CityRequest)
    (detect : List PyDict → Except PyError (Option String)) : Except PyError (Option String) :=
  match request.givenName with
  | some name => .ok (some name)
  | none => detect request.places

/-- A name that is given is not empty, and neither is one that is detected. -/
theorem resolveName_ne_empty {regions : List Region} {otherName : ℚ → ℚ → String}
    (hregions : ∀ region ∈ regions, region.name ≠ "")
    (hother : ∀ centerLat centerLon, otherName centerLat centerLon ≠ "") {request : CityRequest}
    {name : String} (hname : request.resolveName (detectCity regions otherName) = .ok (some name)) :
    name ≠ "" := by
  unfold CityRequest.resolveName at hname
  split at hname
  · rename_i given hgiven
    cases hname
    simpa using (Option.filter_eq_some_iff.mp hgiven).2
  · unfold detectCity at hname
    dsimp only at hname
    split at hname
    · cases hname
    · obtain ⟨centerLat, -, hname⟩ := exists_of_bind_eq_ok hname
      obtain ⟨centerLon, -, hname⟩ := exists_of_bind_eq_ok hname
      split at hname
      · rename_i region hregion
        cases hname
        exact hregions region (List.mem_of_find?_eq_some hregion)
      · cases hname
        exact hother centerLat centerLon

/-- Where a place is, as the services read it. -/
def placePosition (place : PyDict) : Option (ℚ × ℚ) := do
  let lat ← (PyDict.get place "lat" (.int 0)).number?
  let lon ← (PyDict.get place "lon" (.int 0)).number?
  return (lat, lon)

/-- The position lies in the box. -/
def BBox.Contains (box : BBox) (position : ℚ × ℚ) : Prop :=
  (box.minLat ≤ position.1 ∧ position.1 ≤ box.maxLat) ∧
    (box.minLon ≤ position.2 ∧ position.2 ≤ box.maxLon)

/-- Every place that is somewhere lies in the box. -/
def BBox.ContainsAll (box : BBox) (places : List PyDict) : Prop :=
  ∀ place ∈ places, ∀ position, placePosition place = some position → box.Contains position

/-- A place at a position. -/
def placeAt (lat lon : ℚ) : PyDict := [("lat", .float lat), ("lon", .float lon)]

end Goveling.Semantic
