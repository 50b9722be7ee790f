/-
# Accommodations of a multi-city trip

`plan_multi_city_accommodations` walks through the cities with a day counter. A
city gets a hotel when more than one day is allotted to it, and the counter
moves on by its days, with or without a hotel. A city of one day is left before
the counter has moved. So the stays are in order and apart, but a stay starts on
the right day only as long as the cities passed over took no days.
-/

import Goveling.Math.OrderedMap
import Goveling.Math.RunningTotals
import Goveling.Python.Text

namespace Goveling.MultiCity

open Goveling.Math Goveling.Python

/-! ## Hotels -/

/-- A pair of coordinates as the recommender passes them on. -/
abbrev LatLon := ℚ × ℚ

/-- An entry of `hotel_database`, with the keys that may be missing. -/
structure HotelRecord where
  name : String
  lat : ℚ
  lon : ℚ
  address : Option String := none
  rating : Option ℚ := none
  priceRange : Option String := none

/-- The fields of a `HotelRecommendation` that are set or read here. -/
structure HotelRecommendation where
  name : String
  lat : ℚ
  lon : ℚ
  address : String := ""
  rating : ℚ := 0
  priceRange : String := "medium"
  convenienceScore : ℚ := 0
  reasoning : String := ""
  city : String := ""
  intercityAccessibility : ℚ := 0

/-- What a recommender works with: `str.lower`, the hotel database and the geodesic distance in
kilometers, which raises for coordinates that are out of range. -/
structure HotelEnv where
  lower : String → String
  hotelDatabase : String → Option (List HotelRecord)
  geodesic : LatLon → LatLon → Except PyError ℚ

/-- `_get_synthetic_city_coordinates`. -/
def getSyntheticCityCoordinates (env : HotelEnv) (cityName : String) : LatLon :=
  (List.lookup (env.lower cityName)
    [("paris", (48.8566, 2.3522)),
      ("london", (51.5074, -0.1278)),
      ("berlin", (52.5200, 13.4050)),
      ("madrid", (40.4168, -3.7038)),
      ("rome", (41.9028, 12.4964)),
      ("amsterdam", (52.3676, 4.9041)),
      ("barcelona", (41.3851, 2.1734)),
      ("santiago", (-33.4489, -70.6693)),
      ("valparaiso", (-33.0472, -71.6127))]).getD (0, 0)

/-- `_generate_synthetic_hotel_for_city`. -/
def generateSyntheticHotelForCity (env : HotelEnv) (cityName : String) :
    List HotelRecommendation :=
  let coordinates := getSyntheticCityCoordinates env cityName
  [{ name := "Hotel Central " ++ cityName
     lat := coordinates.1
     lon := coordinates.2
     address := "Centro de " ++ cityName
     rating := 4
     priceRange := "medium"
     city := cityName
     convenienceScore := 0.7
     reasoning :=
       "Hotel sintético generado para " ++ cityName ++ " (sin data específica disponible)" }]

/-- `find_hotels_by_city_name`. -/
def findHotelsByCityName (env : HotelEnv) (cityName : String) (maxRecommendations : ℕ) :
    List HotelRecommendation :=
  match env.hotelDatabase (replaceText (env.lower cityName) " " "_") with
  | some hotels =>
      (hotels.take maxRecommendations).map fun hotel =>
        { name := hotel.name
          lat := hotel.lat
          lon := hotel.lon
          address := hotel.address.getD ""
          rating := hotel.rating.getD 0
          priceRange := hotel.priceRange.getD "medium"
          city := cityName
          convenienceScore := hotel.rating.getD 0 / 5
          reasoning := "Hotel encontrado por búsqueda de ciudad: " ++ cityName }
  | none => generateSyntheticHotelForCity env cityName

/-- `_calculate_intercity_accessibility`. -/
def calculateIntercityAccessibility (env : HotelEnv) (hotel : HotelRecommendation)
    (cityCoordinates : LatLon) : Except PyError ℚ := do
  let distanceToCenter ← env.geodesic (hotel.lat, hotel.lon) cityCoordinates
  return max 0 (1 - distanceToCenter / 20)

/-! ## The plan -/

/-- A city of the trip: its name, and its coordinates if it has the key. -/
structure CityInfo where
  name : String
  coordinates : Option LatLon

/-- `city_info['coordinates']`. -/
def CityInfo.coordinatesItem (city : CityInfo) : Except PyError LatLon :=
  match city.coordinates with
  | some coordinates => .ok coordinates
  | none => .error (.keyError "coordinates")

/-- An element of `accommodations`. -/
structure Accommodation where
  city : String
  hotel : HotelRecommendation
  nights : ℤ
  checkInDay : ℤ
  checkOutDay : ℤ
  coordinates : LatLon

/-- The element that `add_city_accommodation` appends. -/
def cityAccommodation (city : String) (hotel : HotelRecommendation) (nights checkInDay : ℤ) :
    Accommodation where
  city := city
  hotel := hotel
  nights := nights
  checkInDay := checkInDay
  checkOutDay := checkInDay + nights
  coordinates := (hotel.lat, hotel.lon)

/-- `_estimate_accommodation_costs`. -/
def estimateAccommodationCosts (accommodations : List Accommodation) : ℚ :=
  (accommodations.map fun acc =>
    (List.lookup acc.hotel.priceRange [("low", 50), ("medium", 120), ("high", 250)]).getD 120 *
      (acc.nights : ℚ)).sum

/-- The dictionary of `_analyze_intercity_logistics`; the last three are missing from the plan of
a single hotel. -/
structure IntercityLogistics where
  complexity : String := "simple"
  logisticsScore : ℚ := 1
  avgIntercityDistanceKm : Option ℚ := none
  maxIntercityDistanceKm : Option ℚ := none
  totalAccommodationChanges : Option ℕ := none

/-- `_analyze_intercity_logistics`. -/
def analyzeIntercityLogistics (env : HotelEnv) (accommodations : List Accommodation) :
    Except PyError IntercityLogistics :=
  if accommodations.length ≤ 1 then .ok {}
  else do
    let distances ← (accommodations.zip accommodations.tail).mapM fun hop =>
      env.geodesic (hop.1.hotel.lat, hop.1.hotel.lon) (hop.2.hotel.lat, hop.2.hotel.lon)
    let average := distances.sum / distances.length
    let longest := distances.foldl max (distances.headD 0)
    return {
      complexity :=
        if 800 < longest then "international" else if 300 < average then "intercity" else "simple"
      logisticsScore := max 0.1 (1 - average / 1000)
      avgIntercityDistanceKm := some average
      maxIntercityDistanceKm := some longest
      totalAccommodationChanges := some accommodations.length }

/-- `MultiCityAccommodationPlan`. -/
structure MultiCityAccommodationPlan where
  accommodations : List Accommodation
  totalNights : ℤ
  totalCities : ℕ
  estimatedCost : ℚ
  intercityOptimization : IntercityLogistics

/-- The days allotted to a city. -/
def cityDays (daysPerCity : OrderedMap String ℤ) (city : CityInfo) : ℤ :=
  (daysPerCity.get? city.name).getD 1

/-- The plan so far and `current_day`. -/
structure PlanProgress where
  accommodations : List Accommodation := []
  currentDay : ℤ := 1

/-- The body of the loop over the cities. -/
def planCity (env : HotelEnv) (daysPerCity : OrderedMap String ℤ) (progress : PlanProgress)
    (city : CityInfo) : Except PyError PlanProgress :=
  let days := cityDays daysPerCity city
  if days ≤ 1 then .ok progress
  else
    match findHotelsByCityName env city.name 3 with
    | [] => .ok { progress with currentDay := progress.currentDay + days }
    | found :: _ => do
        let coordinates ← city.coordinatesItem
        let accessibility ← calculateIntercityAccessibility env found coordinates
        let bestHotel :=
          { found with city := city.name, intercityAccessibility := accessibility }
        return {
          accommodations := progress.accommodations ++
            [cityAccommodation city.name bestHotel (days - 1) progress.currentDay]
          currentDay := progress.currentDay + days }

/-- `plan_multi_city_accommodations`. -/
def planMultiCityAccommodations (env : HotelEnv) (cities : List CityInfo)
    (daysPerCity : OrderedMap String ℤ) : Except PyError MultiCityAccommodationPlan := do
  let progress ← cities.foldlM (planCity env daysPerCity) {}
  let logistics ← analyzeIntercityLogistics env progress.accommodations
  return {
    accommodations := progress.accommodations
    totalNights := (progress.accommodations.map Accommodation.nights).sum
    totalCities := progress.accommodations.length
    estimatedCost := estimateAccommodationCosts progress.accommodations
    intercityOptimization := logistics }

/-! ## Stays in the sequence of the cities -/

/-- More than one day is allotted to the city, and a hotel is found. -/
def getsHotel (env : HotelEnv) (daysPerCity : OrderedMap String ℤ) (city : CityInfo) : Bool :=
  1 < cityDays daysPerCity city && !(findHotelsByCityName env city.name 3).isEmpty

/-- The cities that get a hotel, each with 1 plus the days allotted to all cities before it. -/
def sequenceCheckIns (env : HotelEnv) (cities : List CityInfo)
    (daysPerCity : OrderedMap String ℤ) : List (String × ℤ) :=
  ((starts (cityDays daysPerCity) 1 cities).filter fun entry =>
    getsHotel env daysPerCity entry.1).map fun entry => (entry.1.name, entry.2)

/-- The stays of a plan follow the sequence of the cities and their days, and none overlaps with
a later one. -/
structure StaysInSequence (env : HotelEnv) (cities : List CityInfo)
    (daysPerCity : OrderedMap String ℤ) (plan : MultiCityAccommodationPlan) : Prop where
  checkIns : plan.accommodations.map (fun acc => (acc.city, acc.checkInDay)) =
    sequenceCheckIns env cities daysPerCity
  apart : plan.accommodations.Pairwise fun earlier later => earlier.checkOutDay ≤ later.checkInDay

/-- The days by which `current_day` moves on. -/
def countedDays (daysPerCity : OrderedMap String ℤ) (city : CityInfo) : ℤ :=
  if cityDays daysPerCity city ≤ 1 then 0 else cityDays daysPerCity city

/-- The days allotted to the cities that are passed over. -/
def passedOverDays (daysPerCity : OrderedMap String ℤ) (cities : List CityInfo) : ℤ :=
  ((cities.filter fun city => cityDays daysPerCity city ≤ 1).map (cityDays daysPerCity)).sum

/-- What the stays of a plan are read by: the city and the days of the check-in and the
check-out. -/
def stayDays (acc : Accommodation) : String × ℤ × ℤ := (acc.city, acc.checkInDay, acc.checkOutDay)

/-- The stay of a city that is come to on a day. -/
def stayFrom (daysPerCity : OrderedMap String ℤ) (entry : CityInfo × ℤ) : String × ℤ × ℤ :=
  (entry.1.name, entry.2, entry.2 + (cityDays daysPerCity entry.1 - 1))

section Plan

variable {env : HotelEnv} {daysPerCity : OrderedMap String ℤ}

theorem countedDays_nonneg (city : CityInfo) : 0 ≤ countedDays daysPerCity city := by
  unfold countedDays
  split <;> omega

/-- One city: the counter, and the stay that is appended. -/
theorem planCity_eq_ok {progress next : PlanProgress} {city : CityInfo}
    (hcity : planCity env daysPerCity progress city = .ok next) :
    next.currentDay = progress.currentDay + countedDays daysPerCity city ∧
      next.accommodations.map stayDays = progress.accommodations.map stayDays ++
        if getsHotel env daysPerCity city then
          [stayFrom daysPerCity (city, progress.currentDay)] else [] := by
  unfold planCity at hcity
  by_cases hshort : cityDays daysPerCity city ≤ 1
  · have hnone : ¬1 < cityDays daysPerCity city := by omega
    simp only [hshort, if_true] at hcity
    cases hcity
    simp [countedDays, getsHotel, hshort, hnone]
  · have hlong : 1 < cityDays daysPerCity city := by omega
    simp only [hshort, if_false] at hcity
    cases hhotels : findHotelsByCityName env city.name 3 with
    | nil =>
        rw [hhotels] at hcity
        cases hcity
        simp [countedDays, getsHotel, hshort, hhotels]
    | cons found others =>
        rw [hhotels] at hcity
        obtain ⟨coordinates, -, hcity⟩ := exists_of_bind_eq_ok hcity
        obtain ⟨accessibility, -, hcity⟩ := exists_of_bind_eq_ok hcity
        cases hcity
        simp [countedDays, getsHotel, hshort, hlong, hhotels, stayDays, stayFrom,
          cityAccommodation]

/-- The loop: every city that gets a hotel stays from where the counter stands. -/
theorem stayDays_foldlM {cities : List CityInfo} {progress final : PlanProgress}
    (hloop : cities.foldlM (planCity env daysPerCity) progress = .ok final) :
    final.accommodations.map stayDays = progress.accommodations.map stayDays ++
      ((starts (countedDays daysPerCity) progress.currentDay cities).filter fun entry =>
        getsHotel env daysPerCity entry.1).map (stayFrom daysPerCity) := by
  induction cities generalizing progress with
  | nil =>
      cases hloop
      simp
  | cons city rest ih =>
      rw [List.foldlM_cons] at hloop
      obtain ⟨next, hcity, hrest⟩ := exists_of_bind_eq_ok hloop
      obtain ⟨hday, hstays⟩ := planCity_eq_ok hcity
      rw [ih hrest, hstays, hday, starts_cons, List.append_assoc]
      by_cases hhotel : getsHotel env daysPerCity city = true
      · simp [hhotel]
      · simp [hhotel]

/-- The stays of a plan. -/
theorem stayDays_planMultiCityAccommodations {cities : List CityInfo}
    {plan : MultiCityAccommodationPlan}
    (hplan : planMultiCityAccommodations env cities daysPerCity = .ok plan) :
    plan.accommodations.map stayDays =
      ((starts (countedDays daysPerCity) 1 cities).filter fun entry =>
        getsHotel env daysPerCity entry.1).map (stayFrom daysPerCity) := by
  obtain ⟨progress, hloop, hrest⟩ := exists_of_bind_eq_ok hplan
  obtain ⟨logistics, -, hplan⟩ := exists_of_bind_eq_ok hrest
  cases hplan
  exact stayDays_foldlM hloop

/-- A stay ends before the counter has passed its city. -/
theorem stayFrom_le {entry : CityInfo × ℤ} (hhotel : getsHotel env daysPerCity entry.1 = true) :
    (stayFrom daysPerCity entry).2.2 ≤ entry.2 + countedDays daysPerCity entry.1 := by
  have hlong : 1 < cityDays daysPerCity entry.1 := by
    simp only [getsHotel, Bool.and_eq_true, decide_eq_true_eq] at hhotel
    exact hhotel.1
  have hcounted : countedDays daysPerCity entry.1 = cityDays daysPerCity entry.1 :=
    if_neg (by omega)
  rw [hcounted]
  show entry.2 + (cityDays daysPerCity entry.1 - 1) ≤ entry.2 + cityDays daysPerCity entry.1
  omega

/-- The stays are apart, whatever days are allotted. -/
theorem apart_planMultiCityAccommodations {cities : List CityInfo}
    {plan : MultiCityAccommodationPlan}
    (hplan : planMultiCityAccommodations env cities daysPerCity = .ok plan) :
    plan.accommodations.Pairwise fun earlier later =>
      earlier.checkOutDay ≤ later.checkInDay := by
  have hstays := stayDays_planMultiCityAccommodations hplan
  have hpairs : (plan.accommodations.map stayDays).Pairwise fun earlier later =>
      earlier.2.2 ≤ later.2.1 := by
    rw [hstays, List.pairwise_map]
    have hstarts : ((starts (countedDays daysPerCity) 1 cities).filter fun entry =>
        getsHotel env daysPerCity entry.1).Pairwise fun earlier later =>
          earlier.2 + countedDays daysPerCity earlier.1 ≤ later.2 :=
      (pairwise_starts (fun city _ => countedDays_nonneg city) 1).filter _
    apply hstarts.imp_of_mem
    intro earlier later hearlier _ hle
    have hhotel : getsHotel env daysPerCity earlier.1 = true := (List.mem_filter.mp hearlier).2
    exact (stayFrom_le hhotel).trans hle
  exact List.pairwise_map.mp hpairs

/-- Days are passed over or counted. -/
theorem sum_cityDays (cities : List CityInfo) :
    (cities.map (cityDays daysPerCity)).sum =
      (cities.map (countedDays daysPerCity)).sum + passedOverDays daysPerCity cities := by
  induction cities with
  | nil => rfl
  | cons city rest ih =>
      have hsplit : cityDays daysPerCity city + passedOverDays daysPerCity rest =
          countedDays daysPerCity city + passedOverDays daysPerCity (city :: rest) := by
        by_cases hshort : cityDays daysPerCity city ≤ 1
        · simp [passedOverDays, countedDays, hshort]
        · simp [passedOverDays, countedDays, hshort]
      rw [List.map_cons, List.map_cons, List.sum_cons, List.sum_cons, ih]
      linarith

/-- The check-ins of a plan go by the counter. -/
theorem checkIns_planMultiCityAccommodations {cities : List CityInfo}
    {plan : MultiCityAccommodationPlan}
    (hplan : planMultiCityAccommodations env cities daysPerCity = .ok plan) :
    (plan.accommodations.map fun acc => (acc.city, acc.checkInDay)) =
      ((starts (countedDays daysPerCity) 1 cities).filter fun entry =>
        getsHotel env daysPerCity entry.1).map fun entry => (entry.1.name, entry.2) := by
  have hstays := congrArg (List.map fun stay : String × ℤ × ℤ => (stay.1, stay.2.1))
    (stayDays_planMultiCityAccommodations hplan)
  rw [List.map_map, List.map_map] at hstays
  exact hstays

end Plan

/-- The stays follow the sequence exactly when, before every city that gets a hotel, the cities
passed over were allotted no days in all. -/
theorem staysInSequence_iff_passedOverDays (env : HotelEnv) (cities : List CityInfo)
    (daysPerCity : OrderedMap String ℤ) {plan : MultiCityAccommodationPlan}
    (hplan : planMultiCityAccommodations env cities daysPerCity = .ok plan) :
    StaysInSequence env cities daysPerCity plan ↔
      ∀ before city after, cities = before ++ city :: after →
        getsHotel env daysPerCity city = true → passedOverDays daysPerCity before = 0 := by
  have hcheckIns : (plan.accommodations.map fun acc => (acc.city, acc.checkInDay)) =
      sequenceCheckIns env cities daysPerCity ↔
      ∀ before city after, cities = before ++ city :: after →
        getsHotel env daysPerCity city = true →
          1 + (before.map (countedDays daysPerCity)).sum =
            1 + (before.map (cityDays daysPerCity)).sum := by
    rw [checkIns_planMultiCityAccommodations hplan]
    exact filter_starts_eq_iff (getsHotel env daysPerCity) CityInfo.name _ _ 1 1 cities
  have hsame : ∀ before : List CityInfo,
      1 + (before.map (countedDays daysPerCity)).sum = 1 + (before.map (cityDays daysPerCity)).sum ↔
        passedOverDays daysPerCity before = 0 := by
    intro before
    rw [sum_cityDays before]
    constructor <;> intro h <;> linarith
  simp only [hsame] at hcheckIns
  rw [← hcheckIns]
  exact ⟨StaysInSequence.checkIns, fun hright =>
    ⟨hright, apart_planMultiCityAccommodations hplan⟩⟩

/-! ## A day in Madrid -/

/-- A recommender for cities that are not in the database, with hotels at their centers. -/
def HotelEnv.centered : HotelEnv where
  lower := lowerText
  hotelDatabase := fun _ => none
  geodesic := fun _ _ => .ok 0

/-- Two days in London and one in Madrid. -/
def londonMadridDays : OrderedMap String ℤ :=
  (OrderedMap.empty.set "London" 2).set "Madrid" 1

/-- London. -/
def london : CityInfo where
  name := "London"
  coordinates := some (51.5074, -0.1278)

/-- Madrid. -/
def madrid : CityInfo where
  name := "Madrid"
  coordinates := some (40.4168, -3.7038)

/-- The day in Madrid comes last. -/
theorem staysInSequence_londonMadrid :
    ∃ plan, planMultiCityAccommodations .centered [london, madrid] londonMadridDays = .ok plan ∧
      StaysInSequence .centered [london, madrid] londonMadridDays plan := by
  refine ⟨_, rfl, (staysInSequence_iff_passedOverDays .centered _ _ rfl).mpr ?_⟩
  intro before city after hsplit hhotel
  cases before with
  | nil => rfl
  | cons first others =>
      obtain ⟨-, hrest⟩ := List.cons.inj hsplit
      cases others with
      | nil =>
          obtain ⟨rfl, -⟩ := List.cons.inj hrest
          exact absurd hhotel (by decide +kernel)
      | cons second more => simp at hrest

/-- The day in Madrid comes first, and the hotel in London is booked for it. -/
theorem staysInSequence_madridLondon_fails :
    ∃ plan, planMultiCityAccommodations .centered [madrid, london] londonMadridDays = .ok plan ∧
      ¬StaysInSequence .centered [madrid, london] londonMadridDays plan := by
  refine ⟨_, rfl, fun hstays => ?_⟩
  exact absurd hstays.checkIns (by decide +kernel)

end Goveling.MultiCity
