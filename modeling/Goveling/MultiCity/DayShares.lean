/-
# What is promised of the days of the cities

Both optimizers round every share by itself, give every city a day at least, and let the heaviest
city alone pay for the sum. What the others have is all that matters then: the heaviest city has
a day as long as the others leave one, and where they leave none its number of days is zero or
negative. The fallback of the daily distribution divides by that number, also in the handler of
its own exception.
-/

import Goveling.MultiCity.CountryOptimizer
import Goveling.MultiCity.SimpleOptimizer

namespace Goveling.MultiCity

open Goveling.Math Goveling.Python

universe u

variable {P : Type u}

/-! ## What the heaviest city is left with -/

section Others

variable {share : Share} {weights : OrderedMap String ℚ} {totalDays : ℤ} {maxCity : String}

/-- The days of the cities other than the heaviest: a rounded share each, and one day at least. -/
def daysOfOthers (share : Share) (weights : OrderedMap String ℚ) (totalDays : ℤ) : ℤ :=
  match heaviest weights with
  | some maxCity => ((shareDays share weights totalDays).erase maxCity).values.sum
  | none => 0

/-- The heaviest city has what the others leave. -/
theorem get?_heaviest_distributeDays (hheaviest : heaviest weights = some maxCity) :
    (distributeDays share weights totalDays).get? maxCity =
      some (totalDays - daysOfOthers share weights totalDays) := by
  obtain ⟨weight, hmem, -⟩ := mem_of_heaviest hheaviest
  have hweight := OrderedMap.get?_eq_some_of_mem hmem
  have hshare : (shareDays share weights totalDays).get? maxCity =
      some (assignedDays share weights.values.sum totalDays weight) := by
    rw [shareDays, OrderedMap.get?_mapValues, hweight]
    rfl
  have hothers := OrderedMap.sum_values_erase hshare
  rw [get?_distributeDays hheaviest, hweight, Option.map_some, if_pos rfl, daysOfOthers, hheaviest]
  simp only [Option.some.injEq]
  omega

/-- Every city has as many days as a bound of at most one asks exactly when the others leave as
many to the heaviest. -/
theorem forall_values_distributeDays_iff (hheaviest : heaviest weights = some maxCity) {low : ℤ}
    (hlow : low ≤ 1) :
    (∀ days ∈ (distributeDays share weights totalDays).values, low ≤ days) ↔
      low ≤ totalDays - daysOfOthers share weights totalDays := by
  have hleft := @get?_heaviest_distributeDays share weights totalDays maxCity hheaviest
  constructor
  · intro hall
    exact hall _ (List.mem_map_of_mem (OrderedMap.mem_of_get?_eq_some hleft))
  · intro hleast days hdays
    obtain ⟨entry, hentry, rfl⟩ := List.mem_map.mp hdays
    have hget := OrderedMap.get?_eq_some_of_mem hentry
    by_cases hname : entry.1 = maxCity
    · rw [hname, hleft] at hget
      rwa [← Option.some.inj hget]
    · exact hlow.trans (one_le_get?_distributeDays hheaviest hname hget)

end Others

/-! ## What is promised -/

/-- Every city has an entry and a day, and the entries add up to the trip. -/
structure SharesDays (cities : List (City P)) (totalDays : ℤ)
    (daysDistribution : OrderedMap String ℤ) : Prop where
  keys : daysDistribution.keys = cities.map City.name
  one_le : ∀ days ∈ daysDistribution.values, 1 ≤ days
  sum : daysDistribution.values.sum = totalDays

/-- What is promised of one optimizer: a trip with a day for every city is shared, and no trip
gives a city a negative number of days. -/
structure SharesFairly (cities : List (City P)) (totalDays : ℤ)
    (daysDistribution : OrderedMap String ℤ) : Prop where
  shares : (cities.length : ℤ) ≤ totalDays → SharesDays cities totalDays daysDistribution
  nonneg : ∀ days ∈ daysDistribution.values, 0 ≤ days

/-- The days of both optimizers are as promised, and no city with places has its places divided
by zero days, which is when its daily distribution raises. -/
structure DistributesDays (share : Share) (integrator : Country.HybridIntegrator P)
    (cities : List (City P)) (totalDays : ℤ) : Prop where
  simple : SharesFairly cities totalDays (Simple.distributeDaysAmongCities share cities totalDays)
  country : SharesFairly cities totalDays
    (Country.distributeDaysAmongCities share cities totalDays)
  divides : ∀ city ∈ cities, city.pois ≠ [] →
    ∃ schedule, Country.optimizeCityPoisWithOrtools integrator city.pois
      (daysOf (Country.distributeDaysAmongCities share cities totalDays) city) = .ok schedule

/-- The others leave the heaviest city a day in a trip with a day for every city, and do not
take more days than any trip has. -/
structure LeavesDays (share : Share) (weights : OrderedMap String ℚ) (totalDays : ℤ) : Prop where
  leavesOne : (weights.keys.length : ℤ) ≤ totalDays →
    daysOfOthers share weights totalDays < totalDays
  within : daysOfOthers share weights totalDays ≤ totalDays

/-- The optimizer schedules the places on no days at all. -/
def SchedulesOnNoDays (integrator : Country.HybridIntegrator P) (pois : List P) : Prop :=
  ∃ result, integrator pois 0 = .ok result ∧ result.success = true

section Promises

variable {share : Share} {integrator : Country.HybridIntegrator P} {cities : List (City P)}
  {totalDays : ℤ} {weights : OrderedMap String ℚ} {maxCity : String}

/-- One optimizer shares as promised exactly when the others leave enough. -/
theorem sharesFairly_distributeDays_iff (hheaviest : heaviest weights = some maxCity)
    (hkeys : weights.keys = cities.map City.name) :
    SharesFairly cities totalDays (distributeDays share weights totalDays) ↔
      LeavesDays share weights totalDays := by
  have hone := @forall_values_distributeDays_iff share weights totalDays _ hheaviest 1 le_rfl
  have hzero := @forall_values_distributeDays_iff share weights totalDays _ hheaviest 0 (by omega)
  have hlength : weights.keys.length = cities.length := by rw [hkeys, List.length_map]
  constructor
  · rintro ⟨hshares, hnonneg⟩
    refine ⟨fun hdays => ?_, ?_⟩
    · have hleft := hone.mp (hshares (hlength ▸ hdays)).one_le
      omega
    · have hleft := hzero.mp hnonneg
      omega
  · rintro ⟨hleaves, hwithin⟩
    refine ⟨fun hdays => ⟨?_, hone.mpr ?_, sum_distributeDays hheaviest⟩, hzero.mpr (by omega)⟩
    · rw [keys_distributeDays hheaviest, hkeys]
    · have hless := hleaves (hlength ▸ hdays)
      omega

/-- A daily distribution is there exactly when there is a day or the optimizer needs none. -/
theorem exists_optimizeCityPois_iff {pois : List P} {days : ℤ} :
    (∃ schedule, Country.optimizeCityPoisWithOrtools integrator pois days = .ok schedule) ↔
      (days = 0 → SchedulesOnNoDays integrator pois) := by
  constructor
  · rintro ⟨schedule, hschedule⟩ rfl
    by_contra hnone
    unfold Country.optimizeCityPoisWithOrtools at hschedule
    cases hanswer : integrator pois 0 with
    | error e =>
        rw [hanswer] at hschedule
        cases hschedule
    | ok result =>
        have hfails : ¬ result.success = true := fun hsuccess => hnone ⟨result, hanswer, hsuccess⟩
        simp only [hanswer, bind, Except.bind, if_neg hfails] at hschedule
        cases hschedule
  · intro hneeds
    by_cases hdays : days = 0
    · subst hdays
      obtain ⟨result, hanswer, hsuccess⟩ := hneeds rfl
      exact ⟨_, Country.optimizeCityPoisWithOrtools_of_success integrator hanswer hsuccess⟩
    · exact Country.exists_optimizeCityPois integrator pois hdays

/-- Only a heaviest city can be without days, and is when the others have them all. -/
theorem daysOf_eq_zero_iff (hheaviest : heaviest (Country.cityWeights cities) = some maxCity)
    {city : City P} (hcity : city ∈ cities) :
    daysOf (Country.distributeDaysAmongCities share cities totalDays) city = 0 ↔
      city.name = maxCity ∧
        daysOfOthers share (Country.cityWeights cities) totalDays = totalDays := by
  have hleft := @get?_heaviest_distributeDays share _ totalDays _ hheaviest
  unfold daysOf
  rw [Country.distributeDaysAmongCities_eq (List.ne_nil_of_mem hcity)]
  by_cases hname : city.name = maxCity
  · rw [hname, hleft, Option.getD_some]
    constructor
    · exact fun hzero => ⟨rfl, by omega⟩
    · rintro ⟨-, hall⟩
      omega
  · have hkey : city.name ∈
        (distributeDays share (Country.cityWeights cities) totalDays).keys := by
      rw [keys_distributeDays hheaviest]
      exact Country.mem_keys_cityWeights.mpr (List.mem_map_of_mem hcity)
    obtain ⟨days, hdays⟩ := OrderedMap.exists_get?_of_mem_keys hkey
    have hone := one_le_get?_distributeDays hheaviest hname hdays
    rw [hdays, Option.getD_some]
    constructor
    · intro hzero
      omega
    · exact fun hmax => absurd hmax.1 hname

end Promises

/-- The others leave enough in both optimizers, and where they leave the heaviest city no day its
places are scheduled without. -/
structure DaysSuffice (share : Share) (integrator : Country.HybridIntegrator P)
    (cities : List (City P)) (totalDays : ℤ) : Prop where
  simple : LeavesDays share (Simple.cityWeights cities) totalDays
  country : LeavesDays share (Country.cityWeights cities) totalDays
  scheduled : daysOfOthers share (Country.cityWeights cities) totalDays = totalDays →
    ∀ city ∈ cities, heaviest (Country.cityWeights cities) = some city.name → city.pois ≠ [] →
      SchedulesOnNoDays integrator city.pois

/-- The days are distributed as promised exactly when the shares of the other cities leave the
heaviest one its day. -/
theorem distributesDays_iff (share : Share) (integrator : Country.HybridIntegrator P)
    {cities : List (City P)} (totalDays : ℤ) (hcities : cities ≠ [])
    (hnames : (cities.map City.name).Nodup) :
    DistributesDays share integrator cities totalDays ↔
      DaysSuffice share integrator cities totalDays := by
  obtain ⟨maxCity, hheaviest⟩ := Country.exists_heaviest_cityWeights hcities
  have hcountry := @sharesFairly_distributeDays_iff P share cities totalDays _ _ hheaviest
    (OrderedMap.keys_setAll_map_of_nodup hnames _)
  have hsimple : SharesFairly cities totalDays
      (Simple.distributeDaysAmongCities share cities totalDays) ↔
        LeavesDays share (Simple.cityWeights cities) totalDays := by
    obtain ⟨first, rest, rfl⟩ := List.exists_cons_of_ne_nil hcities
    obtain ⟨largest, hlargest⟩ := Simple.exists_heaviest_cityWeights first rest
    exact sharesFairly_distributeDays_iff hlargest (OrderedMap.keys_setAll_map_of_nodup hnames _)
  have hequal := @Country.distributeDaysAmongCities_eq P share cities totalDays hcities
  have hzero := fun {city : City P} hcity =>
    @daysOf_eq_zero_iff P share cities totalDays maxCity hheaviest city hcity
  constructor
  · rintro ⟨hsimpleShares, hcountryShares, hdivides⟩
    refine ⟨hsimple.mp hsimpleShares, hcountry.mp (hequal ▸ hcountryShares), ?_⟩
    intro hall city hcity hmax hpois
    have hnone := (hzero hcity).mpr ⟨Option.some.inj (hmax.symm.trans hheaviest), hall⟩
    exact exists_optimizeCityPois_iff.mp (hdivides city hcity hpois) hnone
  · rintro ⟨hsimpleLeaves, hcountryLeaves, hscheduled⟩
    refine ⟨hsimple.mpr hsimpleLeaves, hequal ▸ hcountry.mpr hcountryLeaves, ?_⟩
    intro city hcity hpois
    apply exists_optimizeCityPois_iff.mpr
    intro hnone
    obtain ⟨hname, hall⟩ := (hzero hcity).mp hnone
    exact hscheduled hall city hcity (by rw [hheaviest, hname]) hpois

/-- The optimizer that is asked has no method of the name that is called. -/
def missingOptimizer : Country.HybridIntegrator String := fun _ _ =>
  .error (.attributeError
    "'HybridArchitectureIntegrator' object has no attribute 'optimize_itinerary'")

/-- Two cities with two places and one. -/
def limaAndCusco : List (City String) :=
  [⟨"Lima", mkRat (-120) 10, mkRat (-770) 10, "Peru", ["Plaza Mayor", "Larco"]⟩,
    ⟨"Cusco", mkRat (-135) 10, mkRat (-720) 10, "Peru", ["Qorikancha"]⟩]

/-- Three days are two and one. -/
theorem distributesDays_limaAndCusco :
    DistributesDays exactShare missingOptimizer limaAndCusco 3 :=
  (distributesDays_iff exactShare missingOptimizer 3 (by decide) (by decide)).mpr
    { simple := ⟨fun _ => by decide +kernel, by decide +kernel⟩
      country := ⟨fun _ => by decide +kernel, by decide +kernel⟩
      scheduled := fun hall => absurd hall (by decide +kernel) }

/-- Two cities with three places and two with one. -/
def fourPeruvianCities : List (City String) :=
  [⟨"Lima", mkRat (-120) 10, mkRat (-770) 10, "Peru", ["Plaza Mayor", "Larco", "Barranco"]⟩,
    ⟨"Cusco", mkRat (-135) 10, mkRat (-720) 10, "Peru", ["Qorikancha", "San Pedro", "San Blas"]⟩,
    ⟨"Puno", mkRat (-158) 10, mkRat (-700) 10, "Peru", ["Malecon"]⟩,
    ⟨"Nazca", mkRat (-148) 10, mkRat (-749) 10, "Peru", ["Mirador"]⟩]

/-- Four days for four cities: the first two shares are one and a half, which rounds to two, and
the heaviest city pays for both. -/
theorem not_distributesDays_fourPeruvianCities :
    ¬ DistributesDays exactShare missingOptimizer fourPeruvianCities 4 := by
  intro hdistributes
  have hone := (hdistributes.simple.shares (by decide)).one_le
  revert hone
  decide +kernel

/-! ## The daily distribution -/

/-- Over a day or more both optimizers deal all places out in order, however many there are. -/
theorem schedulesAll_simpleDailyDistribution {pois : List P} (hpois : pois ≠ []) {days : ℤ}
    (hdays : 1 ≤ days) :
    SchedulesAll pois days (Simple.simpleDailyDistribution pois days) ∧
      ∃ schedule, Country.simpleDailyDistribution pois days = .ok schedule ∧
        SchedulesAll pois days schedule := by
  constructor
  · unfold Simple.simpleDailyDistribution
    rw [if_neg (by simpa using hpois)]
    exact schedulesAll_dealOut pois _ hdays
  · refine ⟨_, Country.simpleDailyDistribution_eq_ok pois (by omega), ?_⟩
    exact schedulesAll_dealOut pois _ hdays

/-- Two places in four days. -/
theorem schedulesAll_simpleDailyDistribution_twoInFour :
    SchedulesAll ["Plaza Mayor", "Larco"] 4
        (Simple.simpleDailyDistribution ["Plaza Mayor", "Larco"] 4) ∧
      ∃ schedule, Country.simpleDailyDistribution ["Plaza Mayor", "Larco"] 4 = .ok schedule ∧
        SchedulesAll ["Plaza Mayor", "Larco"] 4 schedule :=
  schedulesAll_simpleDailyDistribution (List.cons_ne_nil _ _) (by decide)

end Goveling.MultiCity
