/-
# Searches that always find something

`search_nearby` asks the client of Google Maps, a second time if something went wrong, and makes
places up when the client has none. So it never fails: what it returns are places that the client
has found, or at least three that are made up. The two can be told apart, since a place that is
made up has no identifier.
-/

import Goveling.Places.GoogleMapsClient
import Goveling.Places.PlaceIds

namespace Goveling.Places

open Goveling.Math Goveling.Python

/-! ## Made-up places -/

/-- What the functions of a place that is made up answer: those of `math`, the distance of two
points, `hash` of a text, and the text of a number. -/
structure SyntheticEnv where
  pi : ℚ
  cos : ℚ → ℚ
  sin : ℚ → ℚ
  sqrt : ℚ → ℚ
  calculateDistance : ℚ → ℚ → ℚ → ℚ → ℚ
  hash : String → ℤ
  floatText : ℚ → String

/-- `type_suggestions`, and what stands for a type that is not in it. -/
def typeSuggestions : String → List String
  | "restaurant" =>
      ["Restaurante local", "Lugar de comida típica", "Bistró familiar", "Comida casera",
        "Parrilla tradicional", "Casa de comidas", "Restaurante regional", "Cocina local",
        "Lugar gastronómico"]
  | "tourist_attraction" =>
      ["Sitio histórico", "Mirador", "Plaza principal", "Monumento local", "Punto panorámico",
        "Lugar emblemático", "Atracción cultural", "Sitio de interés", "Lugar destacado"]
  | "museum" =>
      ["Centro cultural", "Galería de arte", "Museo local", "Espacio cultural", "Museo histórico",
        "Centro de arte", "Galería local", "Museo temático", "Espacio expositivo"]
  | "park" =>
      ["Parque urbano", "Plaza verde", "Área recreativa", "Espacio verde", "Parque central",
        "Zona natural", "Área de descanso", "Parque local", "Espacio público"]
  | "shopping_mall" =>
      ["Centro comercial", "Mercado local", "Tiendas", "Galería comercial", "Plaza comercial",
        "Centro de compras"]
  | "cafe" =>
      ["Café local", "Lugar de café", "Cafetería", "Café artesanal", "Casa de té", "Espacio café"]
  | "lodging" => ["Hotel Plaza", "Hotel Centro", "Hostal Local"]
  | "accommodation" => ["Hotel Ejecutivo", "Hotel Boutique", "Hotel Business"]
  | "point_of_interest" =>
      ["Lugar de interés", "Punto destacado", "Sitio relevante", "Atracción local",
        "Punto turístico", "Lugar notable"]
  | _ => ["Lugar de interés"]

/-- `modifiers`. -/
def nameModifiers : List String :=
  ["Central", "del Centro", "Principal", "Local", "Tradicional", "Histórico"]

/-- The cities of `_infer_city_name`. -/
def chileanCities : List (ℚ × ℚ × String) :=
  [(-33.4489, -70.6693, "Santiago"), (-23.6509, -70.3975, "Antofagasta"),
    (-29.9027, -71.2519, "La Serena"), (-36.8201, -73.0444, "Concepción"),
    (-39.8142, -73.2459, "Valdivia"), (-20.2141, -70.1522, "Iquique"),
    (-27.3668, -70.4037, "Copiapó"), (-22.4908, -68.9016, "Calama"),
    (-18.4783, -70.3146, "Arica"), (-41.4693, -72.9424, "Puerto Montt"),
    (-53.1638, -70.9171, "Punta Arenas")]

section Synthetic

variable (env : SyntheticEnv)

/-- `_infer_city_name`. -/
def inferCityName (lat lon : ℚ) : String :=
  let closest := chileanCities.foldl (fun (closest : Option ℚ × String) city =>
    let distance := env.sqrt ((lat - city.1) ^ 2 + (lon - city.2.1) ^ 2)
    if closest.1.all fun minDistance => distance < minDistance then (some distance, city.2.2)
    else closest) (none, "")
  if closest.1.any fun minDistance => minDistance < 1 then closest.2 else ""

/-- The name of a place that is made up. -/
def syntheticName (cityName placeType : String) (i : ℕ) : String :=
  let suggestions := typeSuggestions placeType
  let baseName := suggestions.getD (i % suggestions.length) ""
  if placeType ∈ ["lodging", "accommodation"] then
    if cityName ≠ "" ∧ !textIn cityName baseName then baseName ++ " " ++ cityName else baseName
  else baseName ++ " " ++ nameModifiers.getD (i % nameModifiers.length) ""

/-- One of some places that are made up. -/
def syntheticPlace (lat lon : ℚ) (cityName : String) (maxSuggestions : ℕ) (placeType : String)
    (i : ℕ) : PyDict :=
  let angle := i * 2 * env.pi / maxSuggestions
  let radiusOffset : ℚ := 0.003 + i * 0.001
  let offsetLat := lat + radiusOffset * env.cos angle
  let offsetLon := lon + radiusOffset * env.sin angle
  let distanceKm := env.calculateDistance lat lon offsetLat offsetLon
  let etaMinutes := max 1 (truncated (distanceKm * 1000 / 83.33))
  let baseRating : ℚ := 3.8 + (env.hash (placeType ++ "_" ++ toString i) % 10 : ℤ) / 10
  let rating : ℚ := roundHalfEven (baseRating * 10) / 10
  [("name", .str (syntheticName cityName placeType i)),
    ("lat", .float offsetLat),
    ("lon", .float offsetLon),
    ("type", .str placeType),
    ("rating", .float rating),
    ("eta_minutes", .int etaMinutes),
    ("reason", .str ("buen rating (" ++ env.floatText rating ++ "⭐), " ++
      if etaMinutes < 5 then "muy cerca" else "cerca")),
    ("synthetic", .bool true)]

/-- The places that are made up for some types, in turn. -/
def syntheticPlaces (lat lon : ℚ) (types : List String) (limit : ℤ) : List PyDict :=
  let maxSuggestions := (max limit 3).toNat
  (List.range maxSuggestions).map fun i =>
    syntheticPlace env lat lon (inferCityName env lat lon) maxSuggestions
      (types.getD (i % types.length) "") i

/-- `_generate_synthetic_suggestions`, whose first turn divides by the number of types. -/
def generateSyntheticSuggestions (lat lon : ℚ) (types : List String) (limit : ℤ) :
    Except PyError (List PyVal) :=
  if types = [] then .error (.zeroDivisionError "integer modulo by zero")
  else .ok ((syntheticPlaces env lat lon types limit).map .dict)

end Synthetic

/-! ## Searches -/

/-- The arguments of `search_nearby`. -/
structure NearbyQuery where
  lat : ℚ
  lon : ℚ
  types : Option (List String) := none
  radiusM : ℤ := 3000
  limit : ℤ := 3

/-- The types that are searched. -/
def NearbyQuery.searchedTypes (query : NearbyQuery) : List String :=
  query.types.getD ["tourist_attraction", "restaurant", "point_of_interest"]

/-- `types or ['point_of_interest']`. -/
def NearbyQuery.lastTypes (query : NearbyQuery) : List String :=
  if query.searchedTypes = [] then ["point_of_interest"] else query.searchedTypes

section Search

variable (env : SyntheticEnv)

/-- One attempt of a search, with what the client returns for it or raises. -/
def searchAttempt (query : NearbyQuery) (reply : Except PyError (List PyVal)) :
    Except PyError (List PyVal) := do
  let results ← reply
  if results ≠ [] ∧ query.limit ≤ results.length then return upTo query.limit results
  else if results ≠ [] then return results
  else generateSyntheticSuggestions env query.lat query.lon query.searchedTypes query.limit

/-- `search_nearby`, with what the client replies to its attempts. -/
def searchNearby (query : NearbyQuery) (client : ℕ → Except PyError (List PyVal)) :
    Except PyError (List PyVal) :=
  match searchAttempt env query (client 0) with
  | .ok places => .ok places
  | .error _ =>
      match searchAttempt env query (client 1) with
      | .ok places => .ok places
      | .error _ =>
          generateSyntheticSuggestions env query.lat query.lon query.lastTypes query.limit

end Search

/-- What a search finds: up to its limit of the places that the client has, or places that are
made up for at least one type. -/
inductive Finds (env : SyntheticEnv) (query : NearbyQuery)
    (client : ℕ → Except PyError (List PyVal)) : List PyVal → Prop
  | google (attempt : ℕ) (results places : List PyVal) (hattempt : attempt ≤ 1)
      (hreply : client attempt = .ok results) (hresults : results ≠ [])
      (hplaces : places = upTo query.limit results ∨
        (places = results ∧ (results.length : ℤ) < query.limit)) :
      Finds env query client places
  | made (types : List String) (htypes : types ≠ []) :
      Finds env query client
        ((syntheticPlaces env query.lat query.lon types query.limit).map .dict)

section Promises

variable {env : SyntheticEnv} {query : NearbyQuery} {client : ℕ → Except PyError (List PyVal)}
  {places : List PyVal}

theorem generateSyntheticSuggestions_of_ne_nil {types : List String} (htypes : types ≠ [])
    (lat lon : ℚ) (limit : ℤ) :
    generateSyntheticSuggestions env lat lon types limit =
      .ok ((syntheticPlaces env lat lon types limit).map .dict) :=
  if_neg htypes

theorem NearbyQuery.lastTypes_ne_nil (query : NearbyQuery) : query.lastTypes ≠ [] := by
  unfold NearbyQuery.lastTypes
  by_cases hnone : query.searchedTypes = []
  · rw [if_pos hnone]
    exact List.cons_ne_nil _ _
  · rw [if_neg hnone]
    exact hnone

/-- What an attempt returns is found by the search. -/
theorem finds_of_searchAttempt {attempt : ℕ} (hattempt : attempt ≤ 1)
    (hplaces : searchAttempt env query (client attempt) = .ok places) :
    Finds env query client places := by
  obtain ⟨results, hreply, hrest⟩ := exists_of_bind_eq_ok hplaces
  by_cases hresults : results = []
  · rw [if_neg fun hboth => hboth.1 hresults, if_neg fun hne => hne hresults] at hrest
    unfold generateSyntheticSuggestions at hrest
    by_cases htypes : query.searchedTypes = []
    · rw [if_pos htypes] at hrest
      cases hrest
    · rw [if_neg htypes] at hrest
      cases hrest
      exact .made query.searchedTypes htypes
  · by_cases hmany : query.limit ≤ results.length
    · rw [if_pos ⟨hresults, hmany⟩] at hrest
      cases hrest
      exact .google attempt results _ hattempt hreply hresults (.inl rfl)
    · rw [if_neg fun hboth => hmany hboth.2, if_pos hresults] at hrest
      cases hrest
      exact .google attempt _ _ hattempt hreply hresults (.inr ⟨rfl, not_le.mp hmany⟩)

/-- A search always finds something. -/
theorem exists_searchNearby (env : SyntheticEnv) (query : NearbyQuery)
    (client : ℕ → Except PyError (List PyVal)) :
    ∃ places, searchNearby env query client = .ok places ∧ Finds env query client places := by
  unfold searchNearby
  cases hfirst : searchAttempt env query (client 0) with
  | ok places => exact ⟨places, rfl, finds_of_searchAttempt (Nat.zero_le 1) hfirst⟩
  | error e =>
      cases hsecond : searchAttempt env query (client 1) with
      | ok places => exact ⟨places, rfl, finds_of_searchAttempt le_rfl hsecond⟩
      | error e' =>
          exact ⟨_, generateSyntheticSuggestions_of_ne_nil query.lastTypes_ne_nil _ _ _,
            .made query.lastTypes query.lastTypes_ne_nil⟩

/-- A place that is made up has no identifier. -/
theorem placeId_syntheticPlace (lat lon : ℚ) (cityName : String) (maxSuggestions : ℕ)
    (placeType : String) (i : ℕ) :
    placeId (syntheticPlace env lat lon cityName maxSuggestions placeType i) = .str "" := rfl

/-- Of the places that a search finds, those with an identifier are the client's. -/
theorem Finds.exists_reply (hfinds : Finds env query client places) {fields : PyDict}
    (hmem : .dict fields ∈ places) (hid : (placeId fields).truthy = true) :
    ∃ attempt ≤ 1, ∃ results, client attempt = .ok results ∧ .dict fields ∈ results := by
  cases hfinds with
  | google attempt results places hattempt hreply hresults hplaces =>
      refine ⟨attempt, hattempt, results, hreply, ?_⟩
      rcases hplaces with rfl | ⟨rfl, -⟩
      · exact mem_of_mem_upTo hmem
      · exact hmem
  | made types htypes =>
      obtain ⟨place, hplace, heq⟩ := List.mem_map.mp hmem
      cases heq
      obtain ⟨i, -, rfl⟩ := List.mem_map.mp hplace
      rw [placeId_syntheticPlace] at hid
      cases hid

end Promises

/-! ## Places of the client -/

/-- A value that the client has made of a place of Google. -/
def IsPlaceInfo (maps : MapsEnv) (place : PyVal) : Prop :=
  ∃ source, placeInfo maps source = .ok place

/-- What the client replies to a search, be it from its cache: what it made of the answers to some
search. -/
def Replies (maps : MapsEnv) (results : List PyVal) : Prop :=
  ∃ ask lat lon types radiusM limit,
    searchNearbyPlaces maps ask lat lon types radiusM limit = .list results

section Client

variable {maps : MapsEnv} {ask : MapsApi} {places allPlaces found : List PyVal}

theorem isPlaceInfo_of_addPlaces {limit : ℤ} (hall : ∀ place ∈ allPlaces, IsPlaceInfo maps place)
    (hfound : addPlaces maps limit places allPlaces = .ok found) :
    ∀ place ∈ found, IsPlaceInfo maps place := by
  induction places generalizing allPlaces with
  | nil =>
      cases hfound
      exact hall
  | cons place rest ih =>
      obtain ⟨info, hinfo, hrest⟩ := exists_of_bind_eq_ok hfound
      have hmore : ∀ other ∈ allPlaces ++ [info], IsPlaceInfo maps other := by
        rw [List.forall_mem_append, List.forall_mem_singleton]
        exact ⟨hall, place, hinfo⟩
      by_cases henough : limit ≤ (allPlaces ++ [info]).length
      · rw [if_pos henough] at hrest
        cases hrest
        exact hmore
      · rw [if_neg henough] at hrest
        exact ih hmore hrest

theorem isPlaceInfo_of_addType {lat lon : ℚ} {radiusM limit : ℤ} {placeType : String}
    (hall : ∀ place ∈ allPlaces, IsPlaceInfo maps place)
    (hfound : addType maps ask lat lon radiusM limit placeType allPlaces = .ok found) :
    ∀ place ∈ found, IsPlaceInfo maps place := by
  obtain ⟨response, -, hrest⟩ := exists_of_bind_eq_ok hfound
  by_cases hstatus : response.status ≠ 200
  · rw [if_pos hstatus] at hrest
    cases hrest
    exact hall
  · rw [if_neg hstatus] at hrest
    obtain ⟨data, -, hrest⟩ := exists_of_bind_eq_ok hrest
    obtain ⟨status, -, hrest⟩ := exists_of_bind_eq_ok hrest
    cases hok : status.isText "OK" with
    | false =>
        rw [hok] at hrest
        cases hrest
        exact hall
    | true =>
        rw [hok] at hrest
        obtain ⟨listed, -, hrest⟩ := exists_of_bind_eq_ok hrest
        obtain ⟨firstTwo, -, hrest⟩ := exists_of_bind_eq_ok hrest
        obtain ⟨items, -, hrest⟩ := exists_of_bind_eq_ok hrest
        exact isPlaceInfo_of_addPlaces hall hrest

theorem isPlaceInfo_of_addTypes {lat lon : ℚ} {radiusM limit : ℤ} {types : List String}
    (hall : ∀ place ∈ allPlaces, IsPlaceInfo maps place)
    (hfound : addTypes maps ask lat lon radiusM limit types allPlaces = .ok found) :
    ∀ place ∈ found, IsPlaceInfo maps place := by
  induction types generalizing allPlaces with
  | nil =>
      cases hfound
      exact hall
  | cons placeType rest ih =>
      obtain ⟨more, hmore, hrest⟩ := exists_of_bind_eq_ok hfound
      by_cases henough : limit ≤ more.length
      · rw [if_pos henough] at hrest
        cases hrest
        exact isPlaceInfo_of_addType hall hmore
      · rw [if_neg henough] at hrest
        exact ih (isPlaceInfo_of_addType hall hmore) hrest

/-- The client replies with places of Google only. -/
theorem Replies.isPlaceInfo {results : List PyVal} (hreplies : Replies maps results) :
    ∀ place ∈ results, IsPlaceInfo maps place := by
  obtain ⟨ask, lat, lon, types, radiusM, limit, hresults⟩ := hreplies
  unfold searchNearbyPlaces at hresults
  by_cases hkey : maps.apiKey = ""
  · rw [if_pos hkey] at hresults
    cases hresults
    exact fun _ hmem => absurd hmem List.not_mem_nil
  · rw [if_neg hkey] at hresults
    cases hadded : addTypes maps ask lat lon radiusM limit types [] with
    | error e =>
        rw [hadded] at hresults
        cases hresults
        exact fun _ hmem => absurd hmem List.not_mem_nil
    | ok allPlaces =>
        rw [hadded] at hresults
        cases hresults
        intro place hmem
        exact isPlaceInfo_of_addTypes (fun _ hnone => absurd hnone List.not_mem_nil) hadded place
          (mem_of_mem_upTo hmem)

/-- A place of the client is a dictionary that is not marked as made up. -/
theorem IsPlaceInfo.exists_fields {place : PyVal} (hinfo : IsPlaceInfo maps place) :
    ∃ fields : PyDict, place = .dict fields ∧
      fields.get "synthetic" (.bool false) = .bool false := by
  obtain ⟨source, hsource⟩ := hinfo
  unfold placeInfo at hsource
  obtain ⟨name, -, hsource⟩ := exists_of_bind_eq_ok hsource
  obtain ⟨geometry, -, hsource⟩ := exists_of_bind_eq_ok hsource
  obtain ⟨location, -, hsource⟩ := exists_of_bind_eq_ok hsource
  obtain ⟨rating, -, hsource⟩ := exists_of_bind_eq_ok hsource
  obtain ⟨vicinity, -, hsource⟩ := exists_of_bind_eq_ok hsource
  obtain ⟨address, -, hsource⟩ := exists_of_bind_eq_ok hsource
  obtain ⟨photo, -, hsource⟩ := exists_of_bind_eq_ok hsource
  obtain ⟨lat, -, hsource⟩ := exists_of_bind_eq_ok hsource
  obtain ⟨lon, -, hsource⟩ := exists_of_bind_eq_ok hsource
  obtain ⟨ratingsTotal, -, hsource⟩ := exists_of_bind_eq_ok hsource
  obtain ⟨priceLevel, -, hsource⟩ := exists_of_bind_eq_ok hsource
  obtain ⟨types, -, hsource⟩ := exists_of_bind_eq_ok hsource
  obtain ⟨id, -, hsource⟩ := exists_of_bind_eq_ok hsource
  obtain ⟨hours, -, hsource⟩ := exists_of_bind_eq_ok hsource
  cases hsource
  exact ⟨_, rfl, rfl⟩

/-- What a search finds are dictionaries. -/
theorem Finds.exists_fields {env : SyntheticEnv} {query : NearbyQuery}
    {client : ℕ → Except PyError (List PyVal)} (hfinds : Finds env query client places)
    (hclient : ∀ attempt results, client attempt = .ok results → Replies maps results) :
    ∀ place ∈ places, ∃ fields : PyDict, place = .dict fields := by
  intro place hplace
  cases hfinds with
  | google attempt results places hattempt hreply hresults hplaces =>
      have hmem : place ∈ results := by
        rcases hplaces with rfl | ⟨rfl, -⟩
        · exact mem_of_mem_upTo hplace
        · exact hplace
      obtain ⟨fields, hfields, -⟩ :=
        ((hclient attempt results hreply).isPlaceInfo place hmem).exists_fields
      exact ⟨fields, hfields⟩
  | made types htypes =>
      obtain ⟨fields, -, rfl⟩ := List.mem_map.mp hplace
      exact ⟨fields, rfl⟩

end Client

end Goveling.Places
