/-
# Splitting days over cities, and places over days

Both multi-city optimizers give every city a rounded share of the days, at least
one, and then let the city with the largest weight have what is missing or too
much. Nothing keeps that city above zero. The days of one city get its places in
slices of equal length, the last day what is left.
-/

import Goveling.Math.DayBlocks
import Goveling.Math.Slices
import Goveling.MultiCity.Intercity

namespace Goveling.MultiCity

open Goveling.Math Goveling.Python

universe u

/-! ## Days -/

/-- What `round((weight / total_weight) * total_days)` gives, which is floating point
arithmetic. Nothing below depends on it. -/
abbrev Share := ℚ → ℚ → ℤ → ℤ

/-- The share without errors of the arithmetic before the rounding. -/
def exactShare : Share := fun weight totalWeight totalDays =>
  roundHalfEven (weight / totalWeight * totalDays)

/-- A share of the days, and one day at least. -/
def assignedDays (share : Share) (totalWeight : ℚ) (totalDays : ℤ) (weight : ℚ) : ℤ :=
  max 1 (share weight totalWeight totalDays)

theorem one_le_assignedDays (share : Share) (totalWeight : ℚ) (totalDays : ℤ) (weight : ℚ) :
    1 ≤ assignedDays share totalWeight totalDays weight :=
  le_max_left 1 _

/-- The loop that gives every name its share. -/
def shareDays (share : Share) (weights : OrderedMap String ℚ) (totalDays : ℤ) :
    OrderedMap String ℤ :=
  weights.mapValues (assignedDays share weights.values.sum totalDays)

/-- `max(city_weights.keys(), key=lambda x: city_weights[x])`. -/
def heaviest (weights : OrderedMap String ℚ) : Option String :=
  (weights.entries.argmax Prod.snd).map Prod.fst

/-- `_distribute_days_among_cities`, once the weights are there. -/
def distributeDays (share : Share) (weights : OrderedMap String ℚ) (totalDays : ℤ) :
    OrderedMap String ℤ :=
  let daysDistribution := shareDays share weights totalDays
  let actualTotal := daysDistribution.values.sum
  if actualTotal = totalDays then daysDistribution
  else
    match heaviest weights with
    | some maxCity => daysDistribution.modify maxCity (· + (totalDays - actualTotal))
    | none => daysDistribution

section Distribution

variable {share : Share} {weights : OrderedMap String ℚ} {totalDays : ℤ} {maxCity : String}

theorem mem_of_heaviest (hheaviest : heaviest weights = some maxCity) :
    ∃ weight, (maxCity, weight) ∈ weights.entries ∧
      ∀ entry ∈ weights.entries, entry.2 ≤ weight := by
  obtain ⟨entry, hargmax, rfl⟩ := Option.map_eq_some_iff.mp hheaviest
  exact ⟨entry.2, List.argmax_mem hargmax, fun other hother => List.le_of_mem_argmax hother hargmax⟩

/-- Where there is a name, some name is the heaviest. -/
theorem exists_heaviest {name : String} (hname : name ∈ weights.keys) :
    ∃ maxCity, heaviest weights = some maxCity := by
  cases hargmax : weights.entries.argmax Prod.snd with
  | none =>
      rw [OrderedMap.keys, List.argmax_eq_none.mp hargmax] at hname
      cases hname
  | some entry => exact ⟨entry.1, by simp [heaviest, hargmax]⟩

@[simp]
theorem keys_shareDays : (shareDays share weights totalDays).keys = weights.keys :=
  OrderedMap.keys_mapValues _ _

theorem distributeDays_eq (hheaviest : heaviest weights = some maxCity) :
    distributeDays share weights totalDays =
      if (shareDays share weights totalDays).values.sum = totalDays
      then shareDays share weights totalDays
      else (shareDays share weights totalDays).modify maxCity
        (· + (totalDays - (shareDays share weights totalDays).values.sum)) := by
  simp only [distributeDays, hheaviest]

theorem keys_distributeDays (hheaviest : heaviest weights = some maxCity) :
    (distributeDays share weights totalDays).keys = weights.keys := by
  rw [distributeDays_eq hheaviest]
  split
  · exact keys_shareDays
  · rw [OrderedMap.keys_modify, keys_shareDays]

/-- The days add up to the trip. -/
theorem sum_distributeDays (hheaviest : heaviest weights = some maxCity) :
    (distributeDays share weights totalDays).values.sum = totalDays := by
  rw [distributeDays_eq hheaviest]
  split
  · assumption
  · have hmem : maxCity ∈ (shareDays share weights totalDays).keys := by
      obtain ⟨weight, hweight, -⟩ := mem_of_heaviest hheaviest
      rw [keys_shareDays]
      exact List.mem_map_of_mem hweight
    rw [OrderedMap.sum_values_modify_add hmem]
    omega

/-- Every name keeps its share, and the heaviest one has the rest on top. -/
theorem get?_distributeDays (hheaviest : heaviest weights = some maxCity) (name : String) :
    (distributeDays share weights totalDays).get? name =
      (weights.get? name).map fun weight =>
        assignedDays share weights.values.sum totalDays weight +
          if name = maxCity then totalDays - (shareDays share weights totalDays).values.sum
          else 0 := by
  have hshare : (shareDays share weights totalDays).get? name =
      (weights.get? name).map (assignedDays share weights.values.sum totalDays) :=
    OrderedMap.get?_mapValues _ _ _
  rw [distributeDays_eq hheaviest]
  split
  · rename_i htotal
    rw [hshare, htotal, sub_self]
    simp
  · rw [OrderedMap.get?_modify, hshare]
    by_cases hname : name = maxCity
    · simp only [if_pos hname, Option.map_map]
      rfl
    · simp [hname]

/-- Only the heaviest name can be left without a day. -/
theorem one_le_get?_distributeDays (hheaviest : heaviest weights = some maxCity) {name : String}
    {days : ℤ} (hname : name ≠ maxCity)
    (hdays : (distributeDays share weights totalDays).get? name = some days) : 1 ≤ days := by
  rw [get?_distributeDays hheaviest] at hdays
  obtain ⟨weight, -, rfl⟩ := Option.map_eq_some_iff.mp hdays
  have hone := one_le_assignedDays share weights.values.sum totalDays weight
  rw [if_neg hname]
  omega

end Distribution

/-- When every weight is the same, the first name is the heaviest. -/
theorem heaviest_of_equal {weights : OrderedMap String ℚ} {first : String} {weight : ℚ}
    (hfirst : weights.keys.head? = some first)
    (hequal : ∀ entry ∈ weights.entries, entry.2 = weight) : heaviest weights = some first := by
  unfold OrderedMap.keys at hfirst
  unfold heaviest
  cases hentries : weights.entries with
  | nil =>
      rw [hentries] at hfirst
      cases hfirst
  | cons entry rest =>
      rw [hentries] at hfirst hequal
      obtain rfl : entry.1 = first := by simpa using hfirst
      rw [List.argmax_cons]
      cases hrest : rest.argmax Prod.snd with
      | none => rfl
      | some other =>
          have hother := hequal other (List.mem_cons_of_mem _ (List.argmax_mem hrest))
          have hentry := hequal entry List.mem_cons_self
          have hnot : ¬ entry.2 < other.2 := by rw [hother, hentry]; exact lt_irrefl _
          simp [hnot]

/-- Counting every name once gives the same sum exactly when the repeated names count
for nothing. -/
theorem sum_names_eq_iff {names keys : List String} {count : String → ℤ} (hkeys : keys.Nodup)
    (hsame : ∀ name, name ∈ keys ↔ name ∈ names)
    (hcount : ∀ name ∈ names, 1 < names.count name → 0 ≤ count name) :
    (names.map count).sum = (keys.map count).sum ↔
      ∀ name ∈ names, 1 < names.count name → count name = 0 := by
  have hperm : (keys ++ names.diff keys).Perm names := by
    apply List.subperm_append_diff_self_of_count_le
    intro name hname
    rw [List.count_eq_one_of_mem hkeys hname]
    exact List.one_le_count_iff.mpr ((hsame name).mp hname)
  have hextra : ∀ name, name ∈ names.diff keys ↔ name ∈ names ∧ 1 < names.count name := by
    intro name
    have hcountEq := hperm.count_eq name
    rw [List.count_append] at hcountEq
    constructor
    · intro hname
      have hmem : name ∈ names := hperm.subset (List.mem_append_right _ hname)
      have hlater := List.one_le_count_iff.mpr hname
      rw [List.count_eq_one_of_mem hkeys ((hsame name).mpr hmem)] at hcountEq
      exact ⟨hmem, by omega⟩
    · rintro ⟨hmem, hrepeated⟩
      rw [List.count_eq_one_of_mem hkeys ((hsame name).mpr hmem)] at hcountEq
      apply List.one_le_count_iff.mp
      omega
  have htotal := (hperm.map count).sum_eq
  rw [List.map_append, List.sum_append] at htotal
  have hnonneg : ∀ value ∈ (names.diff keys).map count, 0 ≤ value := by
    intro value hvalue
    obtain ⟨name, hname, rfl⟩ := List.mem_map.mp hvalue
    obtain ⟨hmem, hrepeated⟩ := (hextra name).mp hname
    exact hcount name hmem hrepeated
  constructor
  · intro hsum name hname hrepeated
    apply List.all_zero_of_le_zero_le_of_sum_eq_zero hnonneg (by omega)
    exact List.mem_map_of_mem ((hextra name).mpr ⟨hname, hrepeated⟩)
  · intro hzero
    have hnone : ((names.diff keys).map count).sum = 0 := by
      apply List.sum_eq_zero
      intro value hvalue
      obtain ⟨name, hname, rfl⟩ := List.mem_map.mp hvalue
      obtain ⟨hmem, hrepeated⟩ := (hextra name).mp hname
      exact hzero name hmem hrepeated
    omega

section Cities

variable {P : Type u}

/-- The days a city takes: one if its name was given none. -/
def daysOf (daysPerCity : OrderedMap String ℤ) (city : City P) : ℤ :=
  (daysPerCity.get? city.name).getD 1

/-- A city has a day, or none and nothing to put there. -/
def Placed (daysPerCity : OrderedMap String ℤ) (city : City P) : Prop :=
  1 ≤ daysOf daysPerCity city ∨ daysOf daysPerCity city = 0 ∧ city.pois = []

theorem nonneg_of_placed {daysPerCity : OrderedMap String ℤ} {city : City P}
    (hplaced : Placed daysPerCity city) : 0 ≤ daysOf daysPerCity city := by
  rcases hplaced with hone | ⟨hzero, -⟩
  · omega
  · omega

end Cities

/-! ## Places -/

variable {P : Type u}

/-- The places of the days `1` to `days` when every day but the last has `poisPerDay`. -/
def dealOut (pois : List P) (poisPerDay : ℕ) (days : ℤ) : OrderedMap ℤ (List P) :=
  OrderedMap.empty.setAll ((List.range days.toNat).map fun day : ℕ =>
    let startIdx := day * poisPerDay
    let endIdx := if (day : ℤ) + 1 < days then startIdx + poisPerDay else pois.length
    ((day : ℤ) + 1, slice pois startIdx endIdx))

/-- The days are written once each, in order. -/
theorem entries_dealOut (pois : List P) (poisPerDay : ℕ) (days : ℤ) :
    (dealOut pois poisPerDay days).entries = (List.range days.toNat).map fun day : ℕ =>
      ((day : ℤ) + 1, slice pois (day * poisPerDay)
        (if (day : ℤ) + 1 < days then day * poisPerDay + poisPerDay else pois.length)) := by
  apply OrderedMap.entries_setAll_empty
  rw [List.map_map]
  apply List.nodup_range.map
  intro first second heq
  simpa using heq

theorem get?_dealOut (pois : List P) (poisPerDay : ℕ) {days : ℤ} {day : ℕ}
    (hday : (day : ℤ) < days) :
    (dealOut pois poisPerDay days).get? (day + 1) =
      some (slice pois (day * poisPerDay)
        (if (day : ℤ) + 1 < days then day * poisPerDay + poisPerDay else pois.length)) := by
  have hmem : ((day : ℤ) + 1, slice pois (day * poisPerDay)
      (if (day : ℤ) + 1 < days then day * poisPerDay + poisPerDay else pois.length)) ∈
      (dealOut pois poisPerDay days).entries := by
    rw [entries_dealOut]
    exact List.mem_map.mpr ⟨day, List.mem_range.mpr (by omega), rfl⟩
  exact OrderedMap.get?_eq_some_of_mem hmem

/-- What a city's schedule shows on its days, a missing day counting as empty. -/
def placesOn (schedule : OrderedMap ℤ (List P)) (days : ℤ) : List P :=
  (List.range days.toNat).flatMap fun day : ℕ => (schedule.get? ((day : ℤ) + 1)).getD []

/-- The days have all the places in order. -/
theorem placesOn_dealOut (pois : List P) {poisPerDay : ℕ} {days : ℤ} (hdays : 1 ≤ days) :
    placesOn (dealOut pois poisPerDay days) days = pois := by
  obtain ⟨last, rfl⟩ : ∃ last : ℕ, days = last + 1 := ⟨(days - 1).toNat, by omega⟩
  let cut (day : ℕ) : ℕ := if day ≤ last then min (day * poisPerDay) pois.length else pois.length
  have hslices : placesOn (dealOut pois poisPerDay (last + 1)) (last + 1) =
      (List.range (last + 1)).flatMap fun day => slice pois (cut day) (cut (day + 1)) := by
    unfold placesOn
    have htoNat : ((last : ℤ) + 1).toNat = last + 1 := by omega
    rw [htoNat]
    apply List.flatMap_congr
    intro day hday
    have hlast : day < last + 1 := List.mem_range.mp hday
    rw [get?_dealOut pois poisPerDay (by omega), Option.getD_some, ← slice_min_length]
    have hstart : min (day * poisPerDay) pois.length = cut day := by
      simp only [cut]
      rw [if_pos (by omega)]
    rw [hstart]
    by_cases hmore : day + 1 ≤ last
    · have hlt : (day : ℤ) + 1 < last + 1 := by omega
      rw [if_pos hlt]
      simp only [cut]
      rw [if_pos hmore, add_mul, one_mul]
    · have hnot : ¬ (day : ℤ) + 1 < last + 1 := by omega
      rw [if_neg hnot, min_self]
      simp only [cut]
      rw [if_neg hmore]
  have hmono : ∀ day < last + 1, cut day ≤ cut (day + 1) := by
    intro day hday
    simp only [cut]
    rw [if_pos (by omega)]
    split
    · apply min_le_min_right
      exact Nat.mul_le_mul_right _ (by omega)
    · exact min_le_right _ _
  rw [hslices, flatMap_slice pois cut (last + 1) hmono]
  simp [cut]

/-- The schedule of some places for the days `1` to `days`. -/
structure SchedulesAll (pois : List P) (days : ℤ) (schedule : OrderedMap ℤ (List P)) : Prop where
  keys : schedule.keys = (List.range days.toNat).map fun day : ℕ => (day : ℤ) + 1
  places : schedule.values.flatten = pois

/-- Dealt out over a day or more, the places are all there. -/
theorem schedulesAll_dealOut (pois : List P) (poisPerDay : ℕ) {days : ℤ} (hdays : 1 ≤ days) :
    SchedulesAll pois days (dealOut pois poisPerDay days) := by
  constructor
  · show (dealOut pois poisPerDay days).entries.map Prod.fst = _
    rw [entries_dealOut, List.map_map]
    rfl
  · have hshown : (dealOut pois poisPerDay days).values.flatten =
        placesOn (dealOut pois poisPerDay days) days := by
      show ((dealOut pois poisPerDay days).entries.map Prod.snd).flatten = _
      rw [entries_dealOut, List.map_map, ← List.flatMap_def]
      apply List.flatMap_congr
      intro day hday
      have hbefore : day < days.toNat := List.mem_range.mp hday
      rw [get?_dealOut pois poisPerDay (by omega)]
      rfl
    rw [hshown, placesOn_dealOut pois hdays]

end Goveling.MultiCity
