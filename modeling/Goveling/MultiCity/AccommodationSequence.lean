/-
# Accommodations in the order of travel

`optimize_accommodation_sequence` books the stays of a plan anew along a sequence of
cities, a travel day after every stay. The stays are right for every sequence. The totals
are those of the plan that it was given, so they are right as long as the cities of the
sequence pick as many stays, and as many nights, as the plan has.
-/

import Goveling.Math.EarlyExit
import Goveling.MultiCity.AccommodationPlan
import Mathlib.Data.List.Chain

namespace Goveling.MultiCity

open Goveling.Math Goveling.Python

/-! ## The new plan -/

/-- The plan that `optimize_accommodation_sequence` builds: `intercity_optimization` is left
empty. -/
structure OptimizedPlan where
  accommodations : List Accommodation
  totalNights : ℤ
  totalCities : ℕ
  estimatedCost : ℚ

/-- `accommodation_map`: of two stays in a city, the later one. -/
def accommodationMap (plan : MultiCityAccommodationPlan) : OrderedMap String Accommodation :=
  OrderedMap.empty.setAll (plan.accommodations.map fun acc => (acc.city, acc))

/-- A stay that is booked from a day on. -/
def bookStay (entry : Accommodation × ℤ) : Accommodation :=
  { entry.1 with
    checkInDay := entry.2
    checkOutDay := entry.2 + entry.1.nights }

/-- The body of the loop over the sequence. -/
def placeStay (accommodations : OrderedMap String Accommodation) (progress : PlanProgress)
    (city : String) : PlanProgress :=
  match accommodations.get? city with
  | some acc =>
      { accommodations := progress.accommodations ++ [bookStay (acc, progress.currentDay)]
        currentDay := progress.currentDay + (acc.nights + 1) }
  | none => progress

/-- `optimize_accommodation_sequence`. -/
def optimizeAccommodationSequence (plan : MultiCityAccommodationPlan)
    (cityTravelSequence : List String) : OptimizedPlan :=
  { accommodations :=
      (cityTravelSequence.foldl (placeStay (accommodationMap plan)) {}).accommodations
    totalNights := plan.totalNights
    totalCities := plan.totalCities
    estimatedCost := plan.estimatedCost }

/-! ## The stays -/

/-- The stays of a plan that a sequence of cities picks. -/
def pickedStays (plan : MultiCityAccommodationPlan) (sequence : List String) :
    List Accommodation :=
  sequence.filterMap (accommodationMap plan).get?

/-- A stay and the day of travel after it. -/
def stayAndTravel (acc : Accommodation) : ℤ := acc.nights + 1

theorem accommodations_foldl_placeStay (accommodations : OrderedMap String Accommodation)
    (progress : PlanProgress) (sequence : List String) :
    (sequence.foldl (placeStay accommodations) progress).accommodations =
      progress.accommodations ++
        (starts stayAndTravel progress.currentDay (sequence.filterMap accommodations.get?)).map
          bookStay := by
  induction sequence generalizing progress with
  | nil => simp
  | cons city rest ih =>
      rw [List.foldl_cons, ih, List.filterMap_cons]
      unfold placeStay
      cases accommodations.get? city with
      | none => rfl
      | some acc => simp [stayAndTravel]

/-- The picked stays are booked one after the other, from the first day on. -/
theorem accommodations_optimize (plan : MultiCityAccommodationPlan) (sequence : List String) :
    (optimizeAccommodationSequence plan sequence).accommodations =
      (starts stayAndTravel 1 (pickedStays plan sequence)).map bookStay := by
  unfold optimizeAccommodationSequence
  rw [accommodations_foldl_placeStay]
  rfl

theorem get?_accommodationMap (plan : MultiCityAccommodationPlan) (city : String) :
    (accommodationMap plan).get? city =
      plan.accommodations.reverse.find? fun acc => acc.city = city := by
  unfold accommodationMap
  rw [OrderedMap.get?_setAll_map plan.accommodations Accommodation.city fun acc => acc,
    Option.map_id']

/-- A stay is kept under its city. -/
theorem of_get?_accommodationMap {plan : MultiCityAccommodationPlan} {city : String}
    {acc : Accommodation} (hacc : (accommodationMap plan).get? city = some acc) :
    acc.city = city ∧ acc ∈ plan.accommodations := by
  rw [get?_accommodationMap] at hacc
  have hcity := List.find?_some hacc
  exact ⟨of_decide_eq_true hcity, List.mem_reverse.mp (List.mem_of_find?_eq_some hacc)⟩

theorem mem_of_mem_pickedStays {plan : MultiCityAccommodationPlan} {sequence : List String}
    {acc : Accommodation} (hacc : acc ∈ pickedStays plan sequence) : acc ∈ plan.accommodations := by
  obtain ⟨city, -, hcity⟩ := List.mem_filterMap.mp hacc
  exact (of_get?_accommodationMap hcity).2

/-- The picked stays are in the cities of the sequence that have one. -/
theorem map_city_pickedStays (plan : MultiCityAccommodationPlan) (sequence : List String) :
    (pickedStays plan sequence).map Accommodation.city =
      sequence.filter fun city => city ∈ plan.accommodations.map Accommodation.city := by
  unfold pickedStays
  induction sequence with
  | nil => rfl
  | cons city rest ih =>
      rw [List.filterMap_cons, List.filter_cons]
      cases hacc : (accommodationMap plan).get? city with
      | none =>
          have hmissing : city ∉ plan.accommodations.map Accommodation.city := by
            rw [get?_accommodationMap, List.find?_eq_none] at hacc
            intro hmem
            obtain ⟨acc, hin, hcity⟩ := List.mem_map.mp hmem
            exact hacc acc (List.mem_reverse.mpr hin) (decide_eq_true hcity)
          rw [if_neg (by simpa using hmissing)]
          exact ih
      | some acc =>
          obtain ⟨hcity, hin⟩ := of_get?_accommodationMap hacc
          have hmem : city ∈ plan.accommodations.map Accommodation.city :=
            List.mem_map.mpr ⟨acc, hin, hcity⟩
          rw [if_pos (decide_eq_true hmem), List.map_cons, ih, hcity]

/-- What is promised of the stays of a plan along a sequence of cities: they follow it, none
overlaps with a later one, and each one begins a travel day after the one before has ended. -/
structure StaysAlong (plan : MultiCityAccommodationPlan) (sequence : List String)
    (stays : List Accommodation) : Prop where
  follow : stays.map Accommodation.city =
    sequence.filter fun city => city ∈ plan.accommodations.map Accommodation.city
  apart : stays.Pairwise fun earlier later => earlier.checkOutDay ≤ later.checkInDay
  travel : stays.IsChain fun earlier later => later.checkInDay = earlier.checkOutDay + 1

theorem staysAlong_optimize (plan : MultiCityAccommodationPlan) (sequence : List String)
    (hnights : ∀ acc ∈ plan.accommodations, 0 ≤ acc.nights) :
    StaysAlong plan sequence (optimizeAccommodationSequence plan sequence).accommodations := by
  rw [accommodations_optimize]
  constructor
  · rw [← map_city_pickedStays, List.map_map]
    conv_rhs => rw [← map_fst_starts stayAndTravel 1 (pickedStays plan sequence), List.map_map]
    rfl
  · have hamount : ∀ acc ∈ pickedStays plan sequence, 0 ≤ stayAndTravel acc := by
      intro acc hacc
      have := hnights acc (mem_of_mem_pickedStays hacc)
      unfold stayAndTravel
      omega
    rw [List.pairwise_map]
    refine (pairwise_starts hamount 1).imp fun {earlier later} hle => ?_
    show earlier.2 + earlier.1.nights ≤ later.2
    unfold stayAndTravel at hle
    omega
  · rw [List.isChain_map]
    refine (isChain_starts stayAndTravel 1 _).imp fun earlier later hnext => ?_
    show later.2 = earlier.2 + earlier.1.nights + 1
    rw [hnext]
    unfold stayAndTravel
    ring

/-! ## The totals -/

/-- The totals of a plan are those of its stays. -/
structure TotalsAgree (optimized : OptimizedPlan) : Prop where
  nights : optimized.totalNights = (optimized.accommodations.map Accommodation.nights).sum
  cities : optimized.totalCities = optimized.accommodations.length

/-- The stays that a sequence picks are as many as the plan says, with as many nights. -/
structure PicksTotals (plan : MultiCityAccommodationPlan) (sequence : List String) : Prop where
  nights : ((pickedStays plan sequence).map Accommodation.nights).sum = plan.totalNights
  cities : (pickedStays plan sequence).length = plan.totalCities

theorem totalsAgree_iff (plan : MultiCityAccommodationPlan) (sequence : List String) :
    TotalsAgree (optimizeAccommodationSequence plan sequence) ↔ PicksTotals plan sequence := by
  have hnights : (optimizeAccommodationSequence plan sequence).accommodations.map
      Accommodation.nights = (pickedStays plan sequence).map Accommodation.nights := by
    rw [accommodations_optimize, List.map_map]
    conv_rhs => rw [← map_fst_starts stayAndTravel 1 (pickedStays plan sequence), List.map_map]
    rfl
  have hlength : (optimizeAccommodationSequence plan sequence).accommodations.length =
      (pickedStays plan sequence).length := by
    simpa using congrArg List.length hnights
  constructor
  · rintro ⟨hsum, hcount⟩
    exact ⟨by rw [← hnights, ← hsum]; rfl, by rw [← hlength, ← hcount]; rfl⟩
  · rintro ⟨hsum, hcount⟩
    exact ⟨by rw [hnights, hsum]; rfl, by rw [hlength, hcount]; rfl⟩

/-- The stays of `plan_multi_city_accommodations` have a night at least, and its totals are those
of its stays. -/
theorem planMultiCityAccommodations_totals {env : HotelEnv} {cities : List CityInfo}
    {daysPerCity : OrderedMap String ℤ} {plan : MultiCityAccommodationPlan}
    (hplan : planMultiCityAccommodations env cities daysPerCity = .ok plan) :
    (∀ acc ∈ plan.accommodations, 1 ≤ acc.nights) ∧
      plan.totalNights = (plan.accommodations.map Accommodation.nights).sum ∧
      plan.totalCities = plan.accommodations.length := by
  obtain ⟨progress, hloop, hrest⟩ := exists_of_bind_eq_ok hplan
  obtain ⟨logistics, -, hplan⟩ := exists_of_bind_eq_ok hrest
  cases hplan
  refine ⟨?_, rfl, rfl⟩
  refine foldlM_invariant (fun progress => ∀ acc ∈ progress.accommodations, 1 ≤ acc.nights)
    ?_ (by simp) hloop
  intro progress city next _ hnights hcity
  unfold planCity at hcity
  dsimp only at hcity
  split at hcity
  · cases hcity
    exact hnights
  · rename_i hlong
    split at hcity
    · cases hcity
      exact hnights
    · obtain ⟨coordinates, -, hcity⟩ := exists_of_bind_eq_ok hcity
      obtain ⟨accessibility, -, hcity⟩ := exists_of_bind_eq_ok hcity
      cases hcity
      rw [List.forall_mem_append, List.forall_mem_singleton]
      refine ⟨hnights, ?_⟩
      show 1 ≤ cityDays daysPerCity city - 1
      omega

/-- A sequence that names the cities of a plan once each picks all its stays. -/
theorem picksTotals_of_perm {plan : MultiCityAccommodationPlan} {sequence : List String}
    (hcities : (plan.accommodations.map Accommodation.city).Nodup)
    (honce : (sequence.filter fun city => city ∈ plan.accommodations.map Accommodation.city).Perm
      (plan.accommodations.map Accommodation.city))
    (hnights : plan.totalNights = (plan.accommodations.map Accommodation.nights).sum)
    (hcount : plan.totalCities = plan.accommodations.length) : PicksTotals plan sequence := by
  rw [← map_city_pickedStays] at honce
  have hsubset : pickedStays plan sequence ⊆ plan.accommodations :=
    fun acc hacc => mem_of_mem_pickedStays hacc
  have hnodup : (pickedStays plan sequence).Nodup :=
    List.Nodup.of_map Accommodation.city (honce.nodup_iff.mpr hcities)
  have hlength : (pickedStays plan sequence).length = plan.accommodations.length := by
    simpa using honce.length_eq
  have hperm : (pickedStays plan sequence).Perm plan.accommodations :=
    (List.subperm_of_subset hnodup hsubset).perm_of_length_le hlength.ge
  exact ⟨by rw [hnights, (hperm.map Accommodation.nights).sum_eq], hlength.trans hcount.symm⟩

/-- A plan of `plan_multi_city_accommodations` is right along every sequence that names its
cities once each. -/
theorem right_of_planned {env : HotelEnv} {cities : List CityInfo}
    {daysPerCity : OrderedMap String ℤ} {plan : MultiCityAccommodationPlan}
    (hplan : planMultiCityAccommodations env cities daysPerCity = .ok plan)
    (hcities : (plan.accommodations.map Accommodation.city).Nodup) {sequence : List String}
    (honce : (sequence.filter fun city => city ∈ plan.accommodations.map Accommodation.city).Perm
      (plan.accommodations.map Accommodation.city)) :
    StaysAlong plan sequence (optimizeAccommodationSequence plan sequence).accommodations ∧
      TotalsAgree (optimizeAccommodationSequence plan sequence) := by
  obtain ⟨hpositive, hnights, hcount⟩ := planMultiCityAccommodations_totals hplan
  refine ⟨staysAlong_optimize plan sequence fun acc hacc => ?_, ?_⟩
  · exact zero_le_one.trans (hpositive acc hacc)
  · exact (totalsAgree_iff plan sequence).mpr (picksTotals_of_perm hcities honce hnights hcount)

/-- Along every sequence of cities, the stays are right; and the totals are those of the stays
exactly when the sequence picks as many stays, and as many nights, as the plan has. -/
theorem optimizeAccommodationSequence_right_iff (plan : MultiCityAccommodationPlan)
    (sequence : List String) (hnights : ∀ acc ∈ plan.accommodations, 0 ≤ acc.nights) :
    StaysAlong plan sequence (optimizeAccommodationSequence plan sequence).accommodations ∧
        TotalsAgree (optimizeAccommodationSequence plan sequence) ↔
      PicksTotals plan sequence := by
  rw [and_iff_right (staysAlong_optimize plan sequence hnights)]
  exact totalsAgree_iff plan sequence

/-! ## Two nights in London and one in Madrid -/

/-- A stay in a hotel without much to say of it. -/
def plainStay (city : String) (nights : ℤ) : Accommodation where
  city := city
  hotel := { name := "Hotel Central " ++ city, lat := 0, lon := 0 }
  nights := nights
  checkInDay := 1
  checkOutDay := 1 + nights
  coordinates := (0, 0)

/-- Two nights in London and one in Madrid. -/
def londonMadridPlan : MultiCityAccommodationPlan where
  accommodations := [plainStay "London" 2, plainStay "Madrid" 1]
  totalNights := 3
  totalCities := 2
  estimatedCost := 360
  intercityOptimization := {}

theorem optimizeAccommodationSequence_right_madridLondon :
    StaysAlong londonMadridPlan ["Madrid", "London"]
        (optimizeAccommodationSequence londonMadridPlan ["Madrid", "London"]).accommodations ∧
      TotalsAgree (optimizeAccommodationSequence londonMadridPlan ["Madrid", "London"]) :=
  (optimizeAccommodationSequence_right_iff londonMadridPlan ["Madrid", "London"]
    (by decide)).mpr ⟨by decide +kernel, by decide +kernel⟩

/-- A sequence without London: the totals still count its nights. -/
theorem optimizeAccommodationSequence_counts_london :
    ¬ (StaysAlong londonMadridPlan ["Madrid"]
        (optimizeAccommodationSequence londonMadridPlan ["Madrid"]).accommodations ∧
      TotalsAgree (optimizeAccommodationSequence londonMadridPlan ["Madrid"])) := by
  rintro ⟨-, htotals⟩
  exact absurd htotals.nights (by decide +kernel)

end Goveling.MultiCity
