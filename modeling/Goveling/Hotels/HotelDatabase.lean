/-
# Hotels that are known by name

The recommender has a list of hotels for some cities, the names of hotels that are usual in
others, and the coordinates of the cities for which it makes hotels up.
-/

import Goveling.Python.Value

namespace Goveling.Hotels

open Goveling.Python

/-- The keys of a hotel that are read, whatever its source. -/
structure HotelOffer where
  name : PyVal
  lat : PyVal
  lon : PyVal
  address : PyVal
  rating : PyVal
  priceRange : String

/-- An entry of `hotel_database`. -/
def listedHotel (name : String) (lat lon : ℚ) (address : String) (rating : ℚ)
    (priceRange : String) : HotelOffer where
  name := .str name
  lat := .float lat
  lon := .float lon
  address := .str address
  rating := .float rating
  priceRange := priceRange

/-- `hotel_database`. -/
def hotelDatabase : List (String × List HotelOffer) :=
  [ ("santiago",
    [ listedHotel "Hotel Sheraton Santiago" (-33.4172) (-70.606)
        "Av. Santa María 1742, Providencia" 4.6 "high",
      listedHotel "W Santiago" (-33.415) (-70.61)
        "Isidora Goyenechea 3000, Las Condes" 4.7 "high",
      listedHotel "Hotel Plaza San Francisco" (-33.4372) (-70.6506)
        "Alameda 816, Santiago Centro" 4.5 "medium",
      listedHotel "Hotel Carrera" (-33.4378) (-70.6511)
        "Teatinos 180, Santiago Centro" 4.2 "medium",
      listedHotel "Ibis Santiago Providencia" (-33.4372) (-70.6172)
        "Eliodoro Yáñez 1800, Providencia" 4.0 "low",
      listedHotel "Hotel Director Vitacura" (-33.389) (-70.595)
        "Av. Vitacura 3600, Vitacura" 4.4 "high",
      listedHotel "Hotel Magnolia Santiago Centro" (-33.4389) (-70.6507)
        "Huérfanos 539, Santiago Centro" 4.1 "medium",
      listedHotel "Best Western Los Condes" (-33.4089) (-70.595)
        "Vitacura 4873, Las Condes" 4.0 "medium",
      listedHotel "Hotel Boutique Castillo Rojo" (-33.4262) (-70.6344)
        "Constitución 195, Bellavista" 4.3 "medium",
      listedHotel "Hotel NH Ciudad de Santiago" (-33.435) (-70.645)
        "Av. O'Higgins 136, Santiago Centro" 4.2 "medium"]),
  ("antofagasta",
    [ listedHotel "Hotel Terrado Antofagasta" (-23.646929) (-70.4031467)
        "Avenida Balmaceda 2575, Antofagasta" 4.5 "high",
      listedHotel "Hotel Antofagasta" (-23.65) (-70.3977)
        "Av. Grecia 1490, Antofagasta" 4.3 "medium",
      listedHotel "Ibis Antofagasta" (-23.6435) (-70.3955)
        "Av. Grecia 1171, Antofagasta" 4.0 "low"]),
  ("calama",
    [ listedHotel "Hotel Diego de Almagro Calama" (-22.4583) (-68.9204)
        "Av. Granaderos 3452, Calama" 4.2 "medium",
      listedHotel "Park Plaza Calama" (-22.4595) (-68.9215)
        "Av. Balmaceda 2634, Calama" 4.1 "medium"]),
  ("paris",
    [ listedHotel "Hotel Le Meurice" 48.8656 2.3279 "228 Rue de Rivoli, Paris" 4.8 "high",
      listedHotel "Hotel des Grands Boulevards" 48.8719 2.3432
        "17 Boulevard Poissonnière, Paris" 4.5 "high",
      listedHotel "Hotel Malte Opera" 48.8719 2.3432 "63 Rue de Richelieu, Paris" 4.2 "medium",
      listedHotel "Hotel ibis Paris Centre" 48.8566 2.3522
        "35 Boulevard Saint-Marcel, Paris" 4.0 "medium"]),
  ("amsterdam",
    [ listedHotel "Waldorf Astoria Amsterdam" 52.3676 4.9041
        "Herengracht 542-556, Amsterdam" 4.7 "high",
      listedHotel "Hotel V Nesplein" 52.3654 4.8944 "Nesplein 49, Amsterdam" 4.4 "medium",
      listedHotel "Hotel NH Amsterdam Centre" 52.3702 4.8952
        "Stadhouderskade 7, Amsterdam" 4.2 "medium"]),
  ("berlin",
    [ listedHotel "Hotel Adlon Kempinski Berlin" 52.5163 13.3777
        "Unter den Linden 77, Berlin" 4.8 "high",
      listedHotel "Meininger Hotel Berlin Mitte" 52.52 13.405
        "Hallesches Ufer 30, Berlin" 4.1 "low",
      listedHotel "Hotel Hackescher Hof" 52.5243 13.4015
        "Große Präsidentenstraße 8, Berlin" 4.3 "medium"]),
  ("rome",
    [ listedHotel "Hotel de Russie" 41.9109 12.4776 "Via del Babuino 9, Rome" 4.7 "high",
      listedHotel "Hotel Artemide" 41.9028 12.4964 "Via Nazionale 22, Rome" 4.4 "medium"]),
  ("barcelona",
    [ listedHotel "Hotel Casa Fuster" 41.4036 2.154 "Passeig de Gràcia 132, Barcelona" 4.6 "high",
      listedHotel "Hotel Barcelona Gothic" 41.3851 2.1734
        "Carrer Jaume I, 14, Barcelona" 4.2 "medium"])]

/-- `determine_city`. -/
def determineCity (lat : ℚ) : Option String :=
  if -23.7 ≤ lat ∧ lat ≤ -23.5 then some "antofagasta"
  else if -22.5 ≤ lat ∧ lat ≤ -22.4 then some "calama"
  else if -35 ≤ lat ∧ lat ≤ -32 then some "santiago"
  else none

/-- `international_cities`. -/
def internationalCities : List (ℚ × ℚ × String) :=
  [(28.5383, -81.3792, "Orlando"),
    (25.7617, -80.1918, "Miami"),
    (40.7128, -74.0060, "Nueva York"),
    (34.0522, -118.2437, "Los Ángeles"),
    (41.8781, -87.6298, "Chicago"),
    (19.4326, -99.1332, "Ciudad de México"),
    (20.6597, -103.3496, "Guadalajara"),
    (-23.5505, -46.6333, "São Paulo"),
    (-22.9068, -43.1729, "Río de Janeiro"),
    (-34.6118, -58.3960, "Buenos Aires"),
    (-12.0464, -77.0428, "Lima")]

/-- `_get_realistic_hotels_for_city`. -/
def getRealisticHotelsForCity (cityName : String) : List (String × String) :=
  (List.lookup cityName
    [("Orlando",
      [("Grand Bohemian Orlando", "high"),
        ("Embassy Suites Orlando Downtown", "medium"),
        ("Hampton Inn & Suites Orlando Downtown", "medium"),
        ("Hilton Orlando Lake Buena Vista", "high"),
        ("Holiday Inn Express Orlando Downtown", "low")]),
    ("Miami",
      [("The Ritz-Carlton South Beach", "high"),
        ("Fontainebleau Miami Beach", "high"),
        ("Hampton Inn & Suites Miami Downtown", "medium"),
        ("Holiday Inn Express Miami Airport", "low"),
        ("InterContinental Miami", "high")]),
    ("Nueva York",
      [("The Plaza Hotel", "high"),
        ("Hampton Inn Manhattan Times Square", "medium"),
        ("Holiday Inn Express Manhattan", "low"),
        ("The Westin New York", "high"),
        ("Courtyard by Marriott Manhattan", "medium")]),
    ("Los Ángeles",
      [("The Beverly Hills Hotel", "high"),
        ("Hollywood Roosevelt Hotel", "medium"),
        ("Hampton Inn & Suites LAX", "medium"),
        ("Holiday Inn Express Hollywood", "low"),
        ("The Standard Downtown LA", "medium")])]).getD
    [("Grand Hotel Central", "high"),
      ("Plaza Hotel", "medium"),
      ("Business Hotel", "medium"),
      ("Express Inn", "low"),
      ("City Center Hotel", "medium")]

/-- The hotel types that are added to the realistic ones. -/
def genericHotelTypes : List (String × String) :=
  [("Hotel Plaza", "high"),
    ("Hotel Centro", "medium"),
    ("Hotel Boutique", "high"),
    ("Hotel Ejecutivo", "medium"),
    ("Hotel Business", "medium"),
    ("Hotel Comfort", "low")]

end Goveling.Hotels
