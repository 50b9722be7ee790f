/-
# The free time that the multimodal endpoint reads back

The free time of a day is written as a text and read again to find the days with room for
more. Only whole hours are read, and the suggestions are for days without places alone.
-/

import Goveling.Api.DayNumbers

namespace Goveling.Api.Multimodal

open Goveling.Python Goveling.Ortools

/-- The minutes of a day's window that its activities and transfers leave. -/
def actualFreeMinutes (request : ItineraryRequest) (day : FrontendDay) : ℚ :=
  ((request.dailyEndHour : ℚ) - request.dailyStartHour) * 60 -
    (day.activityMinutes + day.transportMinutes)

/-- The turn of the loop for a day changes it. -/
def GetsSuggestions (env : MultimodalEnv) (center : ℚ × ℚ) (state : FillState)
    (entry : PyDict) : Prop :=
  (fillDay env center state entry).days ≠ state.days ++ [entry]

/-- The entry of a day gives its free minutes back. The day is found when there are more than
two hours of them or hardly anything to do, and one that has places gets suggestions when
there are more than two hours. -/
structure RecoversFreeTime (env : MultimodalEnv) (request : ItineraryRequest)
    (day : FrontendDay) (entry : PyDict) : Prop where
  minutes : (freeMinutes entry : ℚ) = actualFreeMinutes request day
  detected : isPartiallyFree entry = true ↔
    120 < actualFreeMinutes request day ∨ day.places.length ≤ 1
  suggested : day.places ≠ [] → ∀ center state,
    (GetsSuggestions env center state entry ↔ 120 < actualFreeMinutes request day)

section FreeTime

variable {env : MultimodalEnv} {request : ItineraryRequest} {day : FrontendDay} {entry : PyDict}

/-- Hours are read back, but hours and minutes count as no free time. -/
theorem freeMinutes_dayData (hentry : dayData env request day = .ok entry) :
    freeMinutes entry =
      if 0 < Int.fract (actualFreeMinutes request day / 60) then 0
      else ⌊actualFreeMinutes request day / 60⌋ * 60 := by
  have htext : textUnder entry "free_time" "0h" =
      freeTimeText (actualFreeMinutes request day / 60) := by
    unfold dayData at hentry
    obtain ⟨transport, -, hentry⟩ := exists_of_bind_eq_ok hentry
    obtain ⟨walking, -, hentry⟩ := exists_of_bind_eq_ok hentry
    cases hentry
    rfl
  unfold freeMinutes
  rw [htext, wholeNumber?_freeTimeText]
  split_ifs <;> rfl

theorem placesCount_dayData (hentry : dayData env request day = .ok entry) :
    placesCount entry = day.places.length := by
  unfold dayData at hentry
  obtain ⟨transport, -, hentry⟩ := exists_of_bind_eq_ok hentry
  obtain ⟨walking, -, hentry⟩ := exists_of_bind_eq_ok hentry
  cases hentry
  exact List.length_map _

/-- The free minutes are read back exactly when they are whole hours. -/
theorem freeMinutes_eq_iff (hentry : dayData env request day = .ok entry) :
    (freeMinutes entry : ℚ) = actualFreeMinutes request day ↔
      ∃ hours : ℤ, actualFreeMinutes request day = hours * 60 := by
  rw [freeMinutes_dayData hentry]
  constructor
  · intro hminutes
    split_ifs at hminutes with hmore
    · -- a free time that is not read counts as none, which is no hour at all
      exact ⟨0, by rw [← hminutes, Int.cast_zero, zero_mul]⟩
    · exact ⟨⌊actualFreeMinutes request day / 60⌋, by rw [← hminutes]; push_cast; simp⟩
  · rintro ⟨hours, hwhole⟩
    have hhours : actualFreeMinutes request day / 60 = hours := by
      rw [hwhole]
      exact mul_div_cancel_right₀ _ (by norm_num)
    rw [hhours, Int.fract_intCast, if_neg (lt_irrefl _), Int.floor_intCast, hwhole]
    push_cast
    rfl

/-- A day that has places is left as it is. -/
theorem not_getsSuggestions (hentry : dayData env request day = .ok entry)
    (hplaces : day.places ≠ []) (center : ℚ × ℚ) (state : FillState) :
    ¬ GetsSuggestions env center state entry := by
  unfold GetsSuggestions fillDay
  rw [placesCount_dayData hentry, if_neg (List.length_eq_zero_iff.not.mpr hplaces)]
  exact fun hchanged => hchanged rfl

end FreeTime

/-- The free time of a day is recovered exactly when it is a whole number of hours, and at most
two of them unless the day is empty. -/
theorem recoversFreeTime_iff {env : MultimodalEnv} {request : ItineraryRequest}
    {day : FrontendDay} {entry : PyDict} (hentry : dayData env request day = .ok entry) :
    RecoversFreeTime env request day entry ↔
      (∃ hours : ℤ, actualFreeMinutes request day = hours * 60) ∧
        (day.places ≠ [] → actualFreeMinutes request day ≤ 120) := by
  constructor
  · intro hrecovers
    refine ⟨(freeMinutes_eq_iff hentry).mp hrecovers.minutes, fun hplaces => ?_⟩
    have hnone := not_getsSuggestions hentry hplaces (0, 0) {}
    rw [hrecovers.suggested hplaces] at hnone
    exact not_lt.mp hnone
  · rintro ⟨hwhole, hfew⟩
    have hminutes := (freeMinutes_eq_iff hentry).mpr hwhole
    refine ⟨hminutes, ?_, fun hplaces center state => ?_⟩
    · unfold isPartiallyFree
      rw [Bool.or_eq_true, decide_eq_true_iff, decide_eq_true_iff, placesCount_dayData hentry,
        ← hminutes]
      exact or_congr_left (by exact_mod_cast Iff.rfl)
    · exact iff_of_false (not_getsSuggestions hentry hplaces center state)
        (not_lt.mpr (hfew hplaces))

/-- A day of a museum alone, which takes some of its minutes. -/
def museumDay (minutes : ℕ) : FrontendDay where
  day := 1
  date := .str "2025-06-01"
  places := [[("name", .str "Museo"), ("duration_minutes", .int minutes)]]
  transfers := []
  activityMinutes := minutes
  transportMinutes := 0
  isSuggested := false
  base := .none
  freeBlocks := .list []
  actionableRecommendations := .list []
  scheduleInfo := .none

/-- Seven of nine hours in a museum leave two. -/
theorem recoversFreeTime_sevenHours :
    ∃ entry, dayData quietEnv juneRequest (museumDay 420) = .ok entry ∧
      (RecoversFreeTime quietEnv juneRequest (museumDay 420) entry ↔
        (∃ hours : ℤ, actualFreeMinutes juneRequest (museumDay 420) = hours * 60) ∧
          ((museumDay 420).places ≠ [] →
            actualFreeMinutes juneRequest (museumDay 420) ≤ 120)) :=
  ⟨_, rfl, recoversFreeTime_iff rfl⟩

/-- Seven and a half hours leave an hour and a half, which counts as no time at all. -/
theorem not_recoversFreeTime_sevenAndHalf :
    ∃ entry, dayData quietEnv juneRequest (museumDay 450) = .ok entry ∧
      textUnder entry "free_time" "0h" = "1h30min" ∧ freeMinutes entry = 0 ∧
      ¬ RecoversFreeTime quietEnv juneRequest (museumDay 450) entry := by
  refine ⟨_, rfl, by decide +kernel, by decide +kernel, ?_⟩
  intro hrecovers
  have hminutes := hrecovers.minutes
  revert hminutes
  decide +kernel

end Goveling.Api.Multimodal
