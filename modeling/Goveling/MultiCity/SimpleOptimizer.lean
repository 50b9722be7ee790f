/-
# The trip through several cities of `MultiCityOptimizerSimple`

The days are split over the names of the cities, and every city of the sequence
then writes its own days from a running day on. The result covers the trip as
long as names are not repeated and the split leaves the largest city a day, or
nothing to be put there. Otherwise days are missing, too many or taken twice.
-/

import Goveling.MultiCity.DaySplit

namespace Goveling.MultiCity

open Goveling.Math Goveling.Python

universe u

/-- `OptimizationStrategy`. -/
inductive OptimizationStrategy
  | singleCityOrtools
  | intercityHybrid
  | multiCountryComplex
  | customEurotrip
  deriving DecidableEq, Repr

/-- `MultiCityItinerary`, as far as the simple optimizer fills it in. -/
structure MultiCityItinerary (P : Type u) where
  cities : List (City P)
  dailySchedules : OrderedMap ℤ (List P)
  totalDurationDays : ℤ
  totalDistanceKm : ℚ := 0
  optimizationStrategy : OptimizationStrategy
  confidence : ℚ

namespace Simple

variable {P : Type u}

/-- The weight of a city is the number of its places, and one if it has none. -/
def cityWeight (city : City P) : ℚ :=
  if city.pois.isEmpty then 1 else city.pois.length

/-- The loop that collects the weights under the names of the cities. -/
def cityWeights (cities : List (City P)) : OrderedMap String ℚ :=
  OrderedMap.empty.setAll (cities.map fun city => (city.name, cityWeight city))

/-- `_distribute_days_among_cities`. -/
def distributeDaysAmongCities (share : Share) (cities : List (City P)) (totalDays : ℤ) :
    OrderedMap String ℤ :=
  if cities.isEmpty then OrderedMap.empty
  else distributeDays share (cityWeights cities) totalDays

/-- `_simple_daily_distribution`. -/
def simpleDailyDistribution (pois : List P) (days : ℤ) : OrderedMap ℤ (List P) :=
  if pois.isEmpty then OrderedMap.empty
  else
    let poisPerDay := if 0 < days then max 1 (pois.length / days.toNat) else pois.length
    dealOut pois poisPerDay days

/-- One city of the loop that writes the daily schedules. -/
def scheduleCity (daysPerCity : OrderedMap String ℤ) (state : OrderedMap ℤ (List P) × ℤ)
    (city : City P) : OrderedMap ℤ (List P) × ℤ :=
  let (dailySchedules, currentDay) := state
  let cityDays := (daysPerCity.get? city.name).getD 1
  let citySchedule := simpleDailyDistribution city.pois cityDays
  (dailySchedules.setAll ((List.range cityDays.toNat).map fun dayOffset : ℕ =>
    (currentDay + dayOffset, (citySchedule.get? ((dayOffset : ℤ) + 1)).getD [])),
    currentDay + cityDays)

/-- The sum of the distances from each city to the next. -/
def sequenceDistance (distanceTo : DistanceTo P) : List (City P) → ℚ
  | first :: second :: rest =>
      distanceTo first second + sequenceDistance distanceTo (second :: rest)
  | _ => 0

variable [DecidableEq P]

/-- `_optimize_intercity_hybrid_simple`. -/
def optimizeIntercityHybridSimple (distanceTo : DistanceTo P) (share : Share)
    (cities : List (City P)) (days : ℤ) (startCity : Option String) : MultiCityItinerary P :=
  let optimalSequence := findOptimalCitySequence distanceTo cities startCity
  let daysPerCity := distributeDaysAmongCities share optimalSequence days
  let (dailySchedules, _) :=
    optimalSequence.foldl (scheduleCity daysPerCity) (OrderedMap.empty, 1)
  { cities := optimalSequence
    dailySchedules := dailySchedules
    totalDurationDays := days
    totalDistanceKm := sequenceDistance distanceTo optimalSequence
    optimizationStrategy := .intercityHybrid
    confidence := mkRat 7 10 }

end Simple

namespace Simple

variable {P : Type u}

/-! ## The loop writes blocks of days -/

/-- What a city writes on its days. -/
def cityBlock (daysPerCity : OrderedMap String ℤ) (city : City P) : Block (List P) where
  length := daysOf daysPerCity city
  day dayOffset := some (((simpleDailyDistribution city.pois
    (daysOf daysPerCity city)).get? ((dayOffset : ℤ) + 1)).getD [])

theorem foldl_scheduleCity (daysPerCity : OrderedMap String ℤ) (sequence : List (City P))
    (dailySchedules : OrderedMap ℤ (List P)) (currentDay : ℤ) :
    sequence.foldl (scheduleCity daysPerCity) (dailySchedules, currentDay) =
      (dailySchedules.setAll (laidOut currentDay (sequence.map (cityBlock daysPerCity))),
        currentDay + totalDays (sequence.map (cityBlock daysPerCity))) := by
  induction sequence generalizing dailySchedules currentDay with
  | nil => simp
  | cons city rest ih =>
      have hstep : scheduleCity daysPerCity (dailySchedules, currentDay) city =
          (dailySchedules.setAll ((cityBlock daysPerCity city).days currentDay),
            currentDay + (cityBlock daysPerCity city).length) := by
        simp only [Block.days, cityBlock, Option.map_some, List.filterMap_eq_map']
        rfl
      rw [List.foldl_cons, hstep, ih, List.map_cons, laidOut_cons, OrderedMap.setAll_append,
        totalDays_cons, add_assoc]

/-- A city with days has all its places on them. -/
theorem placesOn_simpleDailyDistribution (pois : List P) {days : ℤ} (hdays : 1 ≤ days) :
    placesOn (simpleDailyDistribution pois days) days = pois := by
  unfold simpleDailyDistribution
  by_cases hpois : pois.isEmpty
  · rw [if_pos hpois, List.isEmpty_iff.mp hpois]
    apply List.flatMap_eq_nil_iff.mpr
    intro day hday
    rfl
  · rw [if_neg hpois]
    exact placesOn_dealOut pois hdays

/-- What a block writes is all the places of its city, or nothing. -/
theorem flatten_contents_cityBlock (daysPerCity : OrderedMap String ℤ) (city : City P) :
    (cityBlock daysPerCity city).contents.flatten =
      if 1 ≤ daysOf daysPerCity city then city.pois else [] := by
  have hcontents : (cityBlock daysPerCity city).contents.flatten =
      placesOn (simpleDailyDistribution city.pois (daysOf daysPerCity city))
        (daysOf daysPerCity city) := by
    simp only [Block.contents, cityBlock, List.filterMap_eq_map']
    rfl
  rw [hcontents]
  split
  · exact placesOn_simpleDailyDistribution city.pois ‹_›
  · have hnone : (daysOf daysPerCity city).toNat = 0 := by omega
    simp [placesOn, hnone]

theorem flatten_contents_cityBlocks (daysPerCity : OrderedMap String ℤ)
    (sequence : List (City P)) :
    ((sequence.map (cityBlock daysPerCity)).flatMap Block.contents).flatten =
      sequence.flatMap fun city => if 1 ≤ daysOf daysPerCity city then city.pois else [] := by
  induction sequence with
  | nil => rfl
  | cons city rest ih =>
      rw [List.map_cons, List.flatMap_cons, List.flatten_append, ih, List.flatMap_cons,
        flatten_contents_cityBlock]

/-! ## When the trip is covered -/

/-- The schedules are for the days of the trip, and have every place of every city once. -/
structure CoversTrip (cities : List (City P)) (days : ℤ)
    (dailySchedules : OrderedMap ℤ (List P)) : Prop where
  keys : ∀ day, day ∈ dailySchedules.keys ↔ 1 ≤ day ∧ day ≤ days
  pois : dailySchedules.values.flatten.Perm (cities.flatMap City.pois)

/-- The days left for a city when each of the others has its share. -/
def daysLeft (share : Share) (cities : List (City P)) (days : ℤ) (city : City P) : ℤ :=
  let shareOf := assignedDays share (cities.map cityWeight).sum days
  days - ((cities.map fun other => shareOf (cityWeight other)).sum - shareOf (cityWeight city))

/-- No other city of the starting city's name has places, no further name is
repeated, and the largest city has a day left. It may also have none left if nothing is to be
put there, which happens when it is the starting city and no city has two places. -/
structure DaysFit (share : Share) (cities : List (City P)) (days : ℤ)
    (startCity : Option String) : Prop where
  dropped : ∀ city ∈ droppedCities cities startCity, city.pois = []
  names : ((visitedCities cities startCity).map City.name).Nodup
  left : ∃ largest ∈ visitedCities cities startCity,
    (∀ other ∈ visitedCities cities startCity, cityWeight other ≤ cityWeight largest) ∧
      (1 ≤ daysLeft share (visitedCities cities startCity) days largest ∨
        daysLeft share (visitedCities cities startCity) days largest = 0 ∧
          cityWeight largest = 1 ∧
          ∀ current ∈ currentCity cities startCity, current.pois = [])

theorem one_le_cityWeight (city : City P) : 1 ≤ cityWeight city := by
  unfold cityWeight
  split
  · exact le_rfl
  · rename_i hpois
    have hlength : 0 < city.pois.length := by
      apply List.length_pos_of_ne_nil
      simpa using hpois
    exact_mod_cast hlength

theorem cityWeight_of_no_pois {city : City P} (hpois : city.pois = []) : cityWeight city = 1 := by
  simp [cityWeight, hpois]

section Split

variable {share : Share} {current : City P} {order : List (City P)} {days : ℤ}

/-- The names that get days are the names of the cities. -/
theorem mem_keys_cityWeights {sequence : List (City P)} {name : String} :
    name ∈ (cityWeights sequence).keys ↔ name ∈ sequence.map City.name :=
  OrderedMap.mem_keys_setAll_map

theorem exists_heaviest_cityWeights (current : City P) (order : List (City P)) :
    ∃ maxCity, heaviest (cityWeights (current :: order)) = some maxCity :=
  exists_heaviest (mem_keys_cityWeights.mpr List.mem_cons_self)

/-- The weight under a name is the weight of a city of that name. -/
theorem exists_of_mem_cityWeights {sequence : List (City P)} {entry : String × ℚ}
    (hentry : entry ∈ (cityWeights sequence).entries) :
    ∃ city ∈ sequence, city.name = entry.1 ∧ cityWeight city = entry.2 := by
  rcases OrderedMap.mem_entries_setAll hentry with hnone | hmem
  · cases hnone
  · obtain ⟨city, hcity, rfl⟩ := List.mem_map.mp hmem
    exact ⟨city, hcity, rfl, rfl⟩

theorem entries_cityWeights {sequence : List (City P)} (hnames : (sequence.map City.name).Nodup) :
    (cityWeights sequence).entries =
      sequence.map fun city => (city.name, cityWeight city) := by
  apply OrderedMap.entries_setAll_empty
  rw [List.map_map]
  exact hnames

/-- The days of the cities, each name counted once. -/
theorem sum_daysOf_keys {sequence : List (City P)} {maxCity : String}
    (hheaviest : heaviest (cityWeights sequence) = some maxCity) :
    ((cityWeights sequence).keys.map fun name =>
      ((distributeDays share (cityWeights sequence) days).get? name).getD 1).sum = days := by
  rw [← keys_distributeDays hheaviest,
    OrderedMap.map_getD_keys, sum_distributeDays hheaviest]

theorem sum_daysOf {sequence : List (City P)} {maxCity : String}
    (hheaviest : heaviest (cityWeights sequence) = some maxCity)
    (hnames : (sequence.map City.name).Nodup) :
    (sequence.map (daysOf (distributeDays share (cityWeights sequence) days))).sum = days := by
  have hkeys : (cityWeights sequence).keys = sequence.map City.name :=
    OrderedMap.keys_setAll_map_of_nodup hnames _
  have hsum := @sum_daysOf_keys _ share days _ _ hheaviest
  rw [hkeys, List.map_map] at hsum
  exact hsum

/-- Only cities of the heaviest name can be left without a day. -/
theorem one_le_daysOf {sequence : List (City P)} {maxCity : String}
    (hheaviest : heaviest (cityWeights sequence) = some maxCity) {city : City P}
    (hcity : city ∈ sequence) (hname : city.name ≠ maxCity) :
    1 ≤ daysOf (distributeDays share (cityWeights sequence) days) city := by
  have hkey : city.name ∈ (distributeDays share (cityWeights sequence) days).keys := by
    rw [keys_distributeDays hheaviest]
    exact mem_keys_cityWeights.mpr (List.mem_map_of_mem hcity)
  obtain ⟨cityDays, hdays⟩ := OrderedMap.exists_get?_of_mem_keys hkey
  unfold daysOf
  rw [hdays]
  exact one_le_get?_distributeDays hheaviest hname hdays

/-- A city of the heaviest name has the days left over. -/
theorem daysOf_heaviest {sequence : List (City P)} {maxCity : String}
    (hheaviest : heaviest (cityWeights sequence) = some maxCity)
    (hnames : (sequence.map City.name).Nodup) {city : City P}
    (hcity : city ∈ sequence) (hname : city.name = maxCity) :
    daysOf (distributeDays share (cityWeights sequence) days) city =
      daysLeft share sequence days city := by
  have hentries := entries_cityWeights hnames
  have hmem : (city.name, cityWeight city) ∈ (cityWeights sequence).entries := by
    rw [hentries]
    exact List.mem_map.mpr ⟨city, hcity, rfl⟩
  have hweight := OrderedMap.get?_eq_some_of_mem hmem
  have hvalues : (cityWeights sequence).values = sequence.map cityWeight := by
    show (cityWeights sequence).entries.map Prod.snd = _
    rw [hentries, List.map_map]
    rfl
  unfold daysOf
  rw [get?_distributeDays hheaviest, hweight, Option.map_some, Option.getD_some, if_pos hname,
    shareDays, OrderedMap.values_mapValues, hvalues, List.map_map]
  simp only [daysLeft, Function.comp_def]
  omega

/-- When every weight is one, the starting city is the heaviest. -/
theorem heaviest_eq_current
    (hequal : ∀ entry ∈ (cityWeights (current :: order)).entries, entry.2 = 1) :
    heaviest (cityWeights (current :: order)) = some current.name := by
  refine heaviest_of_equal ?_ hequal
  have hkept := OrderedMap.keys_prefix_setAll
    (OrderedMap.empty.set current.name (cityWeight current))
    (order.map fun city => (city.name, cityWeight city))
  obtain ⟨rest, hrest⟩ := hkept
  show ((OrderedMap.setAll _ _).keys).head? = _
  rw [List.map_cons, OrderedMap.setAll_cons, ← hrest]
  rfl

/-- Blocks of cities that get no negative number of days fill a range of days. -/
theorem mem_keys_cityBlocks {daysPerCity : OrderedMap String ℤ} {sequence : List (City P)}
    (hdays : ∀ city ∈ sequence, 0 ≤ daysOf daysPerCity city) (day : ℤ) :
    day ∈ (OrderedMap.empty.setAll
        (laidOut 1 (sequence.map (cityBlock daysPerCity)))).keys ↔
      1 ≤ day ∧ day < 1 + (sequence.map (daysOf daysPerCity)).sum := by
  have hlength : ∀ block ∈ sequence.map (cityBlock daysPerCity), 0 ≤ block.length := by
    intro block hblock
    obtain ⟨city, hcity, rfl⟩ := List.mem_map.mp hblock
    exact hdays city hcity
  have htotal : totalDays (sequence.map (cityBlock daysPerCity)) =
      (sequence.map (daysOf daysPerCity)).sum := by
    simp [totalDays, Function.comp_def, cityBlock]
  rw [keys_setAll_laidOut hlength, ← htotal]
  apply mem_map_fst_laidOut hlength
  intro block hblock offset
  obtain ⟨city, -, rfl⟩ := List.mem_map.mp hblock
  rfl

/-- Cities that are placed have all their places in the schedules. -/
theorem flatten_values_cityBlocks {daysPerCity : OrderedMap String ℤ} {sequence : List (City P)}
    (hplaced : ∀ city ∈ sequence, Placed daysPerCity city) :
    (OrderedMap.empty.setAll
        (laidOut 1 (sequence.map (cityBlock daysPerCity)))).values.flatten =
      sequence.flatMap City.pois := by
  have hlength : ∀ block ∈ sequence.map (cityBlock daysPerCity), 0 ≤ block.length := by
    intro block hblock
    obtain ⟨city, hcity, rfl⟩ := List.mem_map.mp hblock
    exact nonneg_of_placed (hplaced city hcity)
  rw [values_setAll_laidOut hlength, flatten_contents_cityBlocks]
  apply List.flatMap_congr
  intro city hcity
  rcases hplaced city hcity with hone | ⟨hzero, hpois⟩
  · rw [if_pos hone]
  · rw [hpois]
    split <;> rfl

/-- Whatever the numbers of days are, only cities with a day get places into the schedules. -/
theorem length_flatten_values_cityBlocks_le (daysPerCity : OrderedMap String ℤ)
    (sequence : List (City P)) :
    (OrderedMap.empty.setAll
        (laidOut 1 (sequence.map (cityBlock daysPerCity)))).values.flatten.length ≤
      (sequence.map fun city =>
        if 1 ≤ daysOf daysPerCity city then city.pois.length else 0).sum := by
  have hle := OrderedMap.length_flatten_values_setAll_le OrderedMap.empty
    (laidOut 1 (sequence.map (cityBlock daysPerCity)))
  have hlengths : ((laidOut 1 (sequence.map (cityBlock daysPerCity))).map
      fun entry => entry.2.length).sum =
      (sequence.map fun city =>
        if 1 ≤ daysOf daysPerCity city then city.pois.length else 0).sum := by
    have hsnd := congrArg List.length (congrArg List.flatten
      (map_snd_laidOut 1 (sequence.map (cityBlock daysPerCity))))
    rw [flatten_contents_cityBlocks, List.length_flatten, List.map_map, List.length_flatMap] at hsnd
    simp only [Function.comp_def] at hsnd
    rw [hsnd]
    congr 1
    apply List.map_congr_left
    intro city hcity
    split <;> rfl
  rw [hlengths] at hle
  have hempty : (OrderedMap.empty : OrderedMap ℤ (List P)).values.flatten.length = 0 := rfl
  rwa [hempty, Nat.zero_add] at hle

/-- If all places are in the schedules, the dropped cities have none, and neither have
the cities without a day. -/
theorem no_pois_of_perm {daysPerCity : OrderedMap String ℤ}
    {cities sequence dropped : List (City P)}
    (hpois : (cities.flatMap City.pois).Perm
      (sequence.flatMap City.pois ++ dropped.flatMap City.pois))
    (hperm : (OrderedMap.empty.setAll (laidOut 1
      (sequence.map (cityBlock daysPerCity)))).values.flatten.Perm (cities.flatMap City.pois)) :
    (∀ city ∈ dropped, city.pois = []) ∧
      ∀ city ∈ sequence, ¬ 1 ≤ daysOf daysPerCity city → city.pois = [] := by
  have hbound := length_flatten_values_cityBlocks_le daysPerCity sequence
  rw [(hperm.trans hpois).length_eq, List.length_append, List.length_flatMap] at hbound
  have hle : ∀ city ∈ sequence,
      (if 1 ≤ daysOf daysPerCity city then city.pois.length else 0) ≤ city.pois.length := by
    intro city hcity
    split <;> omega
  have hsum := List.sum_le_sum hle
  constructor
  · have hnone : dropped.flatMap City.pois = [] := by
      apply List.length_eq_zero_iff.mp
      omega
    exact List.flatMap_eq_nil_iff.mp hnone
  · intro city hcity hday
    by_contra hsome
    have hlt := List.sum_lt_sum _ _ hle ⟨city, hcity, by
      rw [if_neg hday]
      exact List.length_pos_of_ne_nil hsome⟩
    omega

/-- If the heaviest name has no places, then nothing weighs more than one. -/
theorem weights_eq_one_of_no_pois {maxCity : String}
    (hheaviest : heaviest (cityWeights (current :: order)) = some maxCity)
    (hnone : ∀ city ∈ current :: order, city.name = maxCity → city.pois = []) :
    ∀ entry ∈ (cityWeights (current :: order)).entries, entry.2 = 1 := by
  obtain ⟨weight, hweight, hlargest⟩ := mem_of_heaviest hheaviest
  obtain ⟨largest, hmem, hlargestName, hlargestWeight⟩ := exists_of_mem_cityWeights hweight
  have hone : weight = 1 := by
    change cityWeight largest = weight at hlargestWeight
    rw [← hlargestWeight]
    exact cityWeight_of_no_pois (hnone largest hmem hlargestName)
  intro entry hentry
  obtain ⟨other, -, -, hotherWeight⟩ := exists_of_mem_cityWeights hentry
  have hup := hlargest entry hentry
  have hdown := one_le_cityWeight other
  rw [hone] at hup
  rw [hotherWeight] at hdown
  exact le_antisymm hup hdown

/-- The second city starts on the day the first one leaves to it. -/
theorem mem_keys_second {daysPerCity : OrderedMap String ℤ} {first second : City P}
    (rest : List (City P)) (hsecond : 1 ≤ daysOf daysPerCity second) :
    1 + daysOf daysPerCity first ∈ (OrderedMap.empty.setAll (laidOut 1
      ((first :: second :: rest).map (cityBlock daysPerCity)))).keys := by
  apply OrderedMap.mem_keys_setAll.mpr
  apply Or.inr
  rw [List.map_cons, List.map_cons, laidOut_cons, laidOut_cons, List.map_append, List.map_append]
  apply List.mem_append_right
  apply List.mem_append_left
  refine List.mem_map.mpr ⟨(1 + daysOf daysPerCity first, _),
    Block.mem_days.mpr ⟨0, ?_, rfl, ?_⟩, rfl⟩
  · show ((0 : ℕ) : ℤ) < daysOf daysPerCity second
    omega
  · show 1 + daysOf daysPerCity first = 1 + daysOf daysPerCity first + ((0 : ℕ) : ℤ)
    simp

/-- If the schedules are for days of the trip, only the starting city can be without a
day, and then it has none rather than a negative number. -/
theorem current_of_no_day {maxCity : String}
    (hheaviest : heaviest (cityWeights (current :: order)) = some maxCity) (hdays : 1 ≤ days)
    (hothers : ∀ city ∈ order, city.name ≠ current.name)
    (hnone : ∀ city ∈ current :: order,
      ¬ 1 ≤ daysOf (distributeDays share (cityWeights (current :: order)) days) city →
        city.pois = [])
    (hkeys : ∀ day ∈ (OrderedMap.empty.setAll (laidOut 1 ((current :: order).map
      (cityBlock (distributeDays share (cityWeights (current :: order)) days))))).keys, 1 ≤ day)
    (city : City P) (hcity : city ∈ current :: order)
    (hday : ¬ 1 ≤ daysOf (distributeDays share (cityWeights (current :: order)) days) city) :
    city = current ∧
      daysOf (distributeDays share (cityWeights (current :: order)) days) current = 0 := by
  have hname : city.name = maxCity := by
    by_contra hother
    exact hday (one_le_daysOf hheaviest hcity hother)
  have hequal := weights_eq_one_of_no_pois hheaviest fun other hother heq => by
    apply hnone other hother
    unfold daysOf at hday ⊢
    rwa [heq, ← hname]
  obtain rfl : current.name = maxCity := by
    have hfirst := heaviest_eq_current hequal
    rw [hheaviest] at hfirst
    exact (Option.some.inj hfirst).symm
  have hcurrent : city = current := by
    rcases List.mem_cons.mp hcity with heq | hlater
    · exact heq
    · exact absurd hname (hothers city hlater)
  subst hcurrent
  refine ⟨rfl, ?_⟩
  cases order with
  | nil =>
      have hsum := @sum_daysOf _ share days _ _ hheaviest (by simp)
      simp only [List.map_cons, List.map_nil, List.sum_cons, List.sum_nil, add_zero] at hsum
      omega
  | cons second rest =>
      have hsecond := @one_le_daysOf _ share days _ _ hheaviest second (by simp)
        (hothers second List.mem_cons_self)
      have hfirst := hkeys _ (mem_keys_second rest hsecond)
      omega

/-- Names are not repeated if the days of the cities add up and only the starting city
can be without a day. -/
theorem nodup_names_of_total {maxCity : String}
    (hheaviest : heaviest (cityWeights (current :: order)) = some maxCity)
    (hothers : ∀ city ∈ order, city.name ≠ current.name)
    (hempty : ∀ city ∈ current :: order,
      ¬ 1 ≤ daysOf (distributeDays share (cityWeights (current :: order)) days) city →
        city = current)
    (htotal : ((current :: order).map
      (daysOf (distributeDays share (cityWeights (current :: order)) days))).sum = days) :
    ((current :: order).map City.name).Nodup := by
  have hkeysSum := @sum_daysOf_keys _ share days _ _ hheaviest
  have hrepeated : ∀ name ∈ (current :: order).map City.name,
      1 < ((current :: order).map City.name).count name →
        1 ≤ ((distributeDays share (cityWeights (current :: order)) days).get? name).getD 1 := by
    intro name hname htwice
    by_contra hday
    obtain ⟨city, hcity, rfl⟩ := List.mem_map.mp hname
    obtain rfl := hempty city hcity hday
    have honce : city.name ∉ order.map City.name := by
      intro hlater
      obtain ⟨other, hother, heq⟩ := List.mem_map.mp hlater
      exact hothers other hother heq
    rw [List.map_cons, List.count_cons_self, List.count_eq_zero_of_not_mem honce] at htwice
    omega
  have hsums := sum_names_eq_iff (cityWeights (current :: order)).nodup
    (fun name => mem_keys_cityWeights) fun name hname htwice =>
      le_trans Int.one_nonneg (hrepeated name hname htwice)
  rw [List.map_map] at hsums
  have hzero := hsums.mp (htotal.trans hkeysSum.symm)
  apply List.nodup_iff_count_le_one.mpr
  intro name
  by_contra htwice
  have hname : name ∈ (current :: order).map City.name := List.one_le_count_iff.mp (by omega)
  have hone := hrepeated name hname (by omega)
  rw [hzero name hname (by omega)] at hone
  omega

/-- The trip is covered exactly when no city with places is dropped, names are not
repeated, and every city is placed. -/
theorem coversTrip_iff_placed {cities dropped : List (City P)} (hdays : 1 ≤ days)
    (hcities : ((current :: order) ++ dropped).Perm cities)
    (hothers : ∀ city ∈ order, city.name ≠ current.name) :
    CoversTrip cities days (OrderedMap.empty.setAll (laidOut 1 ((current :: order).map
        (cityBlock (distributeDays share (cityWeights (current :: order)) days))))) ↔
      (∀ city ∈ dropped, city.pois = []) ∧ ((current :: order).map City.name).Nodup ∧
        ∀ city ∈ current :: order,
          Placed (distributeDays share (cityWeights (current :: order)) days) city := by
  obtain ⟨maxCity, hheaviest⟩ := exists_heaviest_cityWeights current order
  have hpois : (cities.flatMap City.pois).Perm
      ((current :: order).flatMap City.pois ++ dropped.flatMap City.pois) := by
    rw [← List.flatMap_append]
    exact hcities.symm.flatMap_right _
  constructor
  · rintro ⟨hkeys, hperm⟩
    obtain ⟨hdropped, hnone⟩ := no_pois_of_perm hpois hperm
    have hempty := current_of_no_day hheaviest hdays hothers hnone
      fun day hday => ((hkeys day).mp hday).1
    have hplaced : ∀ city ∈ current :: order,
        Placed (distributeDays share (cityWeights (current :: order)) days) city := by
      intro city hcity
      by_cases hday : 1 ≤ daysOf (distributeDays share (cityWeights (current :: order)) days) city
      · exact .inl hday
      · obtain ⟨rfl, hzero⟩ := hempty city hcity hday
        exact .inr ⟨hzero, hnone city hcity hday⟩
    refine ⟨hdropped, ?_, hplaced⟩
    have hrange := mem_keys_cityBlocks fun city hcity => nonneg_of_placed (hplaced city hcity)
    apply nodup_names_of_total hheaviest hothers fun city hcity hday => (hempty city hcity hday).1
    have hlast := (hrange days).mp ((hkeys days).mpr ⟨hdays, le_rfl⟩)
    have hend := (hkeys _).mp ((hrange ((current :: order).map
      (daysOf (distributeDays share (cityWeights (current :: order)) days))).sum).mpr
        ⟨by omega, by omega⟩)
    omega
  · rintro ⟨hdropped, hnames, hplaced⟩
    refine ⟨?_, ?_⟩
    · intro day
      rw [mem_keys_cityBlocks fun city hcity => nonneg_of_placed (hplaced city hcity),
        sum_daysOf hheaviest hnames]
      omega
    · rw [flatten_values_cityBlocks hplaced]
      have hnone : dropped.flatMap City.pois = [] := List.flatMap_eq_nil_iff.mpr hdropped
      rw [hnone, List.append_nil] at hpois
      exact hpois.symm

/-- Among different names the heaviest one is that of a largest city. -/
theorem exists_heaviest_city (hnames : ((current :: order).map City.name).Nodup) :
    ∃ city ∈ current :: order,
      heaviest (cityWeights (current :: order)) = some city.name ∧
        ∀ other ∈ current :: order, cityWeight other ≤ cityWeight city := by
  have hentries := entries_cityWeights hnames
  obtain ⟨maxCity, hheaviest⟩ := exists_heaviest_cityWeights current order
  obtain ⟨weight, hweight, hlargest⟩ := mem_of_heaviest hheaviest
  rw [hentries] at hweight hlargest
  obtain ⟨city, hcity, heq⟩ := List.mem_map.mp hweight
  obtain ⟨rfl, rfl⟩ := Prod.mk.inj heq
  exact ⟨city, hcity, hheaviest, fun other hother => hlargest _ (List.mem_map_of_mem hother)⟩

/-- When the heaviest city weighs one, it is the first. -/
theorem heaviest_eq_current_of_weight_one (hnames : ((current :: order).map City.name).Nodup)
    {city : City P} (hcity : city ∈ current :: order)
    (hheaviest : heaviest (cityWeights (current :: order)) = some city.name)
    (hmost : ∀ other ∈ current :: order, cityWeight other ≤ cityWeight city)
    (hone : cityWeight city = 1) : city = current := by
  have hfirst : heaviest (cityWeights (current :: order)) = some current.name := by
    apply heaviest_eq_current
    intro entry hentry
    rw [entries_cityWeights hnames] at hentry
    obtain ⟨other, hother, rfl⟩ := List.mem_map.mp hentry
    exact le_antisymm (hone ▸ hmost other hother) (one_le_cityWeight other)
  rw [hheaviest] at hfirst
  exact List.inj_on_of_nodup_map hnames hcity List.mem_cons_self (Option.some.inj hfirst)

/-- The split places every city exactly when the largest one has a day left, or has
none and the trip starts in a city without places and no city has two. -/
theorem forall_placed_iff (hnames : ((current :: order).map City.name).Nodup) :
    (∀ city ∈ current :: order,
        Placed (distributeDays share (cityWeights (current :: order)) days) city) ↔
      ∃ largest ∈ current :: order,
        (∀ other ∈ current :: order, cityWeight other ≤ cityWeight largest) ∧
          (1 ≤ daysLeft share (current :: order) days largest ∨
            daysLeft share (current :: order) days largest = 0 ∧ cityWeight largest = 1 ∧
              current.pois = []) := by
  obtain ⟨heaviestCity, hmem, hheaviest, hmost⟩ := exists_heaviest_city hnames
  have hleft := @daysOf_heaviest _ share days _ _ hheaviest hnames _ hmem rfl
  have hone := heaviest_eq_current_of_weight_one hnames hmem hheaviest hmost
  constructor
  · intro hplaced
    refine ⟨heaviestCity, hmem, hmost, ?_⟩
    rcases hplaced heaviestCity hmem with hday | ⟨hzero, hpois⟩
    · exact .inl (hleft ▸ hday)
    · have hweightOne := cityWeight_of_no_pois hpois
      exact .inr ⟨hleft ▸ hzero, hweightOne, hone hweightOne ▸ hpois⟩
  · rintro ⟨largest, hlargestMem, hlargestMost, hdays⟩ city hcity
    have hsameWeight : cityWeight heaviestCity = cityWeight largest :=
      le_antisymm (hlargestMost _ hmem) (hmost _ hlargestMem)
    have hsameLeft : daysLeft share (current :: order) days heaviestCity =
        daysLeft share (current :: order) days largest := by
      unfold daysLeft
      rw [hsameWeight]
    rw [← hsameLeft, ← hleft, ← hsameWeight] at hdays
    by_cases hname : city.name = heaviestCity.name
    · have hcityEq : city = heaviestCity := List.inj_on_of_nodup_map hnames hcity hmem hname
      rw [hcityEq]
      rcases hdays with hday | ⟨hzero, hweightOne, hpois⟩
      · exact .inl hday
      · refine .inr ⟨hzero, ?_⟩
        rw [hone hweightOne]
        exact hpois
    · exact .inl (one_le_daysOf hheaviest hcity hname)

end Split

theorem daysLeft_perm {share : Share} {days : ℤ} {first second : List (City P)}
    (hperm : first.Perm second) (city : City P) :
    daysLeft share first days city = daysLeft share second days city := by
  have hweights : (first.map cityWeight).sum = (second.map cityWeight).sum :=
    (hperm.map cityWeight).sum_eq
  unfold daysLeft
  rw [hweights]
  simp only [(hperm.map _).sum_eq]

/-- The optimizer covers the trip exactly when the days fit. -/
theorem optimizeIntercityHybridSimple_covers_iff [DecidableEq P] (distanceTo : DistanceTo P)
    (share : Share) (cities : List (City P)) (days : ℤ) (startCity : Option String)
    (hcities : cities ≠ []) (hdays : 1 ≤ days) :
    CoversTrip cities days
        (optimizeIntercityHybridSimple distanceTo share cities days startCity).dailySchedules ↔
      DaysFit share cities days startCity := by
  obtain ⟨current, hcurrent⟩ := exists_currentCity hcities startCity
  obtain ⟨order, hsequence, horder⟩ := findOptimalCitySequence_eq distanceTo hcurrent
  have hvisited : visitedCities cities startCity =
      current :: remainingCities cities current := by
    simp only [visitedCities, hcurrent]
  have hperm : (current :: order).Perm (visitedCities cities startCity) := by
    rw [hvisited]
    exact horder.cons current
  have hall : ((current :: order) ++ droppedCities cities startCity).Perm cities :=
    (hperm.append_right _).trans (visited_append_dropped_perm hcurrent)
  have hothers : ∀ city ∈ order, city.name ≠ current.name := by
    intro city hcity
    simpa using (List.mem_filter.mp (horder.subset hcity)).2
  have hschedules :
      (optimizeIntercityHybridSimple distanceTo share cities days startCity).dailySchedules =
        OrderedMap.empty.setAll (laidOut 1 ((current :: order).map
          (cityBlock (distributeDays share (cityWeights (current :: order)) days)))) := by
    simp only [optimizeIntercityHybridSimple, hsequence, foldl_scheduleCity]
    rfl
  rw [hschedules, coversTrip_iff_placed hdays hall hothers]
  constructor
  · rintro ⟨hdropped, hnames, hplaced⟩
    obtain ⟨largest, hmem, hmost, hleft⟩ := (forall_placed_iff hnames).mp hplaced
    refine ⟨hdropped, ((hperm.map City.name).nodup_iff).mp hnames, largest,
      hperm.subset hmem, fun other hother => hmost other (hperm.symm.subset hother), ?_⟩
    rw [← daysLeft_perm hperm]
    rcases hleft with hday | ⟨hzero, hone, hpois⟩
    · exact .inl hday
    · refine .inr ⟨hzero, hone, ?_⟩
      intro first hfirst
      rw [hcurrent] at hfirst
      obtain rfl : current = first := by simpa using hfirst
      exact hpois
  · rintro ⟨hdropped, hnames, largest, hmem, hmost, hleft⟩
    have hnames' := ((hperm.map City.name).nodup_iff).mpr hnames
    refine ⟨hdropped, hnames', (forall_placed_iff hnames').mpr
      ⟨largest, hperm.symm.subset hmem, fun other hother => hmost other (hperm.subset hother), ?_⟩⟩
    rw [daysLeft_perm hperm]
    rcases hleft with hday | ⟨hzero, hone, hpois⟩
    · exact .inl hday
    · exact .inr ⟨hzero, hone, hpois current hcurrent⟩

/-- Two cities, one with two places and one with one. -/
def paris : City String := ⟨"Paris", mkRat 489 10, mkRat 24 10, "France", ["Louvre", "Orsay"]⟩

def berlin : City String := ⟨"Berlin", mkRat 525 10, mkRat 134 10, "Germany", ["Tiergarten"]⟩

/-- The distance between the two. -/
def parisBerlin : DistanceTo String := fun first second =>
  if first.name = second.name then mkRat 0 1 else mkRat 878 1

/-- Three days are enough for both. -/
theorem optimizeIntercityHybridSimple_covers_three :
    CoversTrip [paris, berlin] 3
      (optimizeIntercityHybridSimple parisBerlin exactShare [paris, berlin] 3
        none).dailySchedules :=
  (optimizeIntercityHybridSimple_covers_iff parisBerlin exactShare [paris, berlin] 3 none
    (by decide) (by decide)).mpr
    { dropped := by decide +kernel
      names := by decide +kernel
      left := ⟨paris, by decide +kernel, by decide +kernel, by decide +kernel⟩ }

/-- On a trip of one day Paris is left with no day, and its places are lost. -/
theorem optimizeIntercityHybridSimple_loses_paris :
    ¬ CoversTrip [paris, berlin] 1
      (optimizeIntercityHybridSimple parisBerlin exactShare [paris, berlin] 1
        none).dailySchedules := by
  rintro ⟨-, hpois⟩
  have hlength := hpois.length_eq
  revert hlength
  decide +kernel

end Simple

end Goveling.MultiCity
