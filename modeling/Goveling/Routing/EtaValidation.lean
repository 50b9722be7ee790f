/-
# The validation of an ETA

`FreeRoutingService` checks the ETA of a routing API before it returns it: an
extreme distance is replaced by the straight-line distance, and a duration with
an unreasonable speed by one with a reasonable speed. The speed is only looked
at when the duration is positive, the default of a missing distance is read but
not written, and neither a negative distance nor a straight line of length zero
is told from a good one. For an ETA with numbers in both fields the result is
reasonable, and validating it again changes nothing, exactly when the duration
and the distance that is kept are positive.
-/

import Goveling.Python.Value

namespace Goveling.Routing

open Goveling.Python

/-! ## The validation -/

/-- The bounds of a reasonable speed in kilometres an hour. -/
structure SpeedLimits where
  minSpeed : ℚ
  maxSpeed : ℚ

/-- The bounds for a mode of transport. -/
def speedLimits (transportMode : String) : SpeedLimits :=
  if transportMode = "walk" then { minSpeed := 2, maxSpeed := 8 }
  else if transportMode = "walking" then { minSpeed := 2, maxSpeed := 8 }
  else if transportMode = "drive" then { minSpeed := 10, maxSpeed := 120 }
  else if transportMode = "car" then { minSpeed := 10, maxSpeed := 120 }
  else if transportMode = "transit" then { minSpeed := 8, maxSpeed := 80 }
  else if transportMode = "bicycle" then { minSpeed := 8, maxSpeed := 30 }
  else { minSpeed := 1, maxSpeed := 150 }

/-- The reported distance is kept, unless it differs extremely from the straight line. -/
def validateDistance (result : PyDict) (distanceDiff haversineDistanceKm : ℚ) : PyDict :=
  if 1 / 10 < distanceDiff then
    if haversineDistanceKm * 2 < distanceDiff then
      PyDict.set (PyDict.set result "distance_km" (.float haversineDistanceKm))
        "fallback_to_haversine" (.bool true)
    else PyDict.set result "distance_validated" (.bool true)
  else result

/-- A duration with an unreasonable speed is replaced. -/
def adjustDuration (result : PyDict) (distanceKm durationMinutes : ℚ) (limits : SpeedLimits) :
    PyDict :=
  let impliedSpeedKmh := distanceKm / durationMinutes * 60
  if impliedSpeedKmh < limits.minSpeed ∨ limits.maxSpeed < impliedSpeedKmh then
    let targetSpeed :=
      if impliedSpeedKmh < limits.minSpeed then limits.minSpeed * (3 / 2)
      else limits.maxSpeed * (4 / 5)
    PyDict.set (PyDict.set result "duration_minutes" (.float (distanceKm / targetSpeed * 60)))
      "speed_adjusted" (.bool true)
  else result

/-- `_validate_and_adjust_eta`. A distance that is found for the speed is a number, since
the straight-line distance could be subtracted from it. -/
def validateAndAdjustEta (result : PyDict) (haversineDistanceKm : ℚ) (transportMode : String) :
    Except PyError PyDict := do
  let reportedDistance := PyDict.get result "distance_km" (.float haversineDistanceKm)
  let durationMinutes := PyDict.get result "duration_minutes" (.int 0)
  let distanceDiff := |← reportedDistance.minus (.float haversineDistanceKm)|
  let result := validateDistance result distanceDiff haversineDistanceKm
  if ← durationMinutes.greaterThan 0 "int" then
    let distance ← (← PyDict.item result "distance_km").real
    return adjustDuration result distance (← durationMinutes.real) (speedLimits transportMode)
  else return result

/-! ## What is asked of it -/

/-- The implied speed is inside the limits. -/
def SpeedLimits.Allow (limits : SpeedLimits) (distanceKm durationMinutes : ℚ) : Prop :=
  limits.minSpeed ≤ distanceKm / durationMinutes * 60 ∧
    distanceKm / durationMinutes * 60 ≤ limits.maxSpeed

/-- An ETA with a distance between zero and three times the straight line, from the hundred
metres on from which routing APIs are asked at all, and a speed inside the limits. -/
def Reasonable (haversineDistanceKm : ℚ) (limits : SpeedLimits) (eta : PyDict) : Prop :=
  ∃ distance duration, PyDict.number? eta "distance_km" = some distance ∧
    PyDict.number? eta "duration_minutes" = some duration ∧
    0 ≤ distance ∧ (1 / 10 ≤ haversineDistanceKm → distance ≤ 3 * haversineDistanceKm) ∧
    0 < duration ∧ limits.Allow distance duration

/-- The validation returns a reasonable ETA, which validating again does not change. -/
def ValidatesOnce (result : PyDict) (haversineDistanceKm : ℚ) (transportMode : String) : Prop :=
  ∃ eta, validateAndAdjustEta result haversineDistanceKm transportMode = .ok eta ∧
    Reasonable haversineDistanceKm (speedLimits transportMode) eta ∧
    validateAndAdjustEta eta haversineDistanceKm transportMode = .ok eta

/-- The distance that is kept: the straight line for one that differs extremely. -/
def keptDistance (distance haversineDistanceKm : ℚ) : ℚ :=
  if 1 / 10 < |distance - haversineDistanceKm| ∧
      haversineDistanceKm * 2 < |distance - haversineDistanceKm| then haversineDistanceKm
  else distance

/-- An API result with numbers in both fields, a positive duration, and a positive distance
to keep. -/
def IsPositiveEta (result : PyDict) (haversineDistanceKm : ℚ) : Prop :=
  ∃ distance duration, PyDict.number? result "distance_km" = some distance ∧
    PyDict.number? result "duration_minutes" = some duration ∧
    0 < duration ∧ 0 < keptDistance distance haversineDistanceKm

/-! ## The distance -/

section Distance

variable {result : PyDict} {distance haversineDistanceKm : ℚ}

theorem number?_set_self (entries : PyDict) (key : String) (value : ℚ) :
    PyDict.number? (PyDict.set entries key (.float value)) key = some value := by
  rw [PyDict.number?, PyDict.lookup_set_self]
  rfl

theorem number?_set_of_ne {entries : PyDict} {key other : String} {value : PyVal}
    (hne : other ≠ key) :
    PyDict.number? (PyDict.set entries key value) other = PyDict.number? entries other := by
  rw [PyDict.number?, PyDict.lookup_set_of_ne hne, PyDict.number?]

theorem number?_validateDistance_distance
    (hdistance : PyDict.number? result "distance_km" = some distance) (haversineDistanceKm : ℚ) :
    PyDict.number? (validateDistance result |distance - haversineDistanceKm| haversineDistanceKm)
      "distance_km" = some (keptDistance distance haversineDistanceKm) := by
  unfold validateDistance keptDistance
  split_ifs with hfar hextreme hboth hboth hboth
  · rw [number?_set_of_ne (by decide), number?_set_self]
  · exact absurd ⟨hfar, hextreme⟩ hboth
  · exact absurd hboth.2 hextreme
  · rw [number?_set_of_ne (by decide), hdistance]
  · exact absurd hboth.1 hfar
  · exact hdistance

theorem lookup_validateDistance_duration (distanceDiff : ℚ) :
    (validateDistance result distanceDiff haversineDistanceKm).lookup "duration_minutes" =
      result.lookup "duration_minutes" := by
  unfold validateDistance
  split_ifs
  · rw [PyDict.lookup_set_of_ne (by decide), PyDict.lookup_set_of_ne (by decide)]
  · rw [PyDict.lookup_set_of_ne (by decide)]
  · rfl

/-- Three times the straight line bounds a distance that does not differ extremely. -/
theorem keptDistance_le (hapart : 1 / 10 ≤ haversineDistanceKm) :
    keptDistance distance haversineDistanceKm ≤ 3 * haversineDistanceKm := by
  unfold keptDistance
  split_ifs with hextreme
  · linarith
  · by_contra hlong
    apply hextreme
    have habs := le_abs_self (distance - haversineDistanceKm)
    constructor <;> linarith

end Distance

/-! ## The speed -/

/-- The speeds that durations are adjusted to are inside the limits. -/
structure SpeedLimits.LeaveRoom (limits : SpeedLimits) : Prop where
  positive : 0 < limits.minSpeed
  above : limits.minSpeed * (3 / 2) ≤ limits.maxSpeed
  below : limits.minSpeed ≤ limits.maxSpeed * (4 / 5)

theorem speedLimits_leaveRoom (transportMode : String) :
    (speedLimits transportMode).LeaveRoom := by
  unfold speedLimits
  split_ifs <;> constructor <;> norm_num

section Speed

variable {limits : SpeedLimits} {distance duration : ℚ}

/-- A positive speed is the one a duration was computed from. -/
theorem speed_of_adjusted (hdistance : 0 < distance) {speed : ℚ} (hspeed : 0 < speed) :
    distance / (distance / speed * 60) * 60 = speed := by
  field_simp

/-- The speed of an adjusted duration. -/
theorem SpeedLimits.LeaveRoom.target (hroom : limits.LeaveRoom) (impliedSpeedKmh : ℚ) :
    limits.minSpeed ≤ (if impliedSpeedKmh < limits.minSpeed then limits.minSpeed * (3 / 2)
        else limits.maxSpeed * (4 / 5)) ∧
      (if impliedSpeedKmh < limits.minSpeed then limits.minSpeed * (3 / 2)
        else limits.maxSpeed * (4 / 5)) ≤ limits.maxSpeed := by
  obtain ⟨hpositive, habove, hbelow⟩ := hroom
  split_ifs
  · exact ⟨by linarith, habove⟩
  · exact ⟨hbelow, by linarith⟩

theorem number?_adjustDuration_distance (result : PyDict) (distance duration : ℚ)
    (limits : SpeedLimits) :
    PyDict.number? (adjustDuration result distance duration limits) "distance_km" =
      PyDict.number? result "distance_km" := by
  unfold adjustDuration
  dsimp only
  split_ifs
  · rw [number?_set_of_ne (by decide), number?_set_of_ne (by decide)]
  · rw [number?_set_of_ne (by decide), number?_set_of_ne (by decide)]
  · rfl

/-- The duration afterwards is positive and its speed is inside the limits. -/
theorem exists_duration_adjustDuration (hroom : limits.LeaveRoom) {result : PyDict}
    (hduration : PyDict.number? result "duration_minutes" = some duration)
    (hpositive : 0 < duration) (hdistance : 0 < distance) :
    ∃ adjusted, PyDict.number? (adjustDuration result distance duration limits)
        "duration_minutes" = some adjusted ∧ 0 < adjusted ∧ limits.Allow distance adjusted := by
  unfold adjustDuration
  dsimp only
  generalize htarget : (if distance / duration * 60 < limits.minSpeed then
    limits.minSpeed * (3 / 2) else limits.maxSpeed * (4 / 5)) = target
  have hbounds := hroom.target (distance / duration * 60)
  rw [htarget] at hbounds
  have htargetPos : 0 < target := lt_of_lt_of_le hroom.positive hbounds.1
  split_ifs with hunreasonable
  · refine ⟨distance / target * 60, ?_, by positivity, ?_⟩
    · rw [number?_set_of_ne (by decide), number?_set_self]
    · unfold SpeedLimits.Allow
      rw [speed_of_adjusted hdistance htargetPos]
      exact hbounds
  · rw [not_or, not_lt, not_lt] at hunreasonable
    exact ⟨duration, hduration, hpositive, hunreasonable⟩

/-- A duration whose speed is inside the limits is left alone. -/
theorem adjustDuration_of_allow (result : PyDict) (hallow : limits.Allow distance duration) :
    adjustDuration result distance duration limits = result := by
  unfold adjustDuration
  rw [if_neg]
  rw [not_or, not_lt, not_lt]
  exact hallow

end Speed

/-! ## The validation of an ETA with numbers -/

section Validation

variable {result : PyDict} {distance duration haversineDistanceKm : ℚ} {transportMode : String}

theorem get_of_number? {entries : PyDict} {key : String} {number : ℚ}
    (hnumber : PyDict.number? entries key = some number) (default : PyVal) :
    (PyDict.get entries key default).number? = some number := by
  obtain ⟨value, hvalue, hvalueNumber⟩ := Option.bind_eq_some_iff.mp hnumber
  rw [PyDict.get, hvalue]
  exact hvalueNumber

theorem item_of_number? {entries : PyDict} {key : String} {number : ℚ}
    (hnumber : PyDict.number? entries key = some number) :
    ∃ value, PyDict.item entries key = .ok value ∧ value.real = .ok number := by
  obtain ⟨value, hvalue, hvalueNumber⟩ := Option.bind_eq_some_iff.mp hnumber
  refine ⟨value, ?_, ?_⟩
  · simp only [PyDict.item, hvalue]
  · simp only [PyVal.real, hvalueNumber]

/-- The difference that is judged, for a reported distance that is a number. -/
theorem minus_of_number? {value : PyVal} {number : ℚ} (hnumber : value.number? = some number)
    (subtrahend : ℚ) : value.minus (.float subtrahend) = .ok (number - subtrahend) := by
  simp only [PyVal.minus, hnumber]
  rfl

/-- An ETA with numbers and a positive duration goes through both checks. -/
theorem validateAndAdjustEta_of_numbers
    (hdistance : PyDict.number? result "distance_km" = some distance)
    (hduration : PyDict.number? result "duration_minutes" = some duration)
    (hpositive : 0 < duration) (haversineDistanceKm : ℚ) (transportMode : String) :
    validateAndAdjustEta result haversineDistanceKm transportMode =
      .ok (adjustDuration
        (validateDistance result |distance - haversineDistanceKm| haversineDistanceKm)
        (keptDistance distance haversineDistanceKm) duration (speedLimits transportMode)) := by
  have hkept := number?_validateDistance_distance hdistance haversineDistanceKm
  obtain ⟨value, hitem, hreal⟩ := item_of_number? hkept
  have hdurationNumber := get_of_number? hduration (.int 0)
  have hgreater : (PyDict.get result "duration_minutes" (.int 0)).greaterThan 0 "int" =
      .ok true := by
    simp only [PyVal.greaterThan, hdurationNumber, hpositive, decide_true]
  have hdurationReal : (PyDict.get result "duration_minutes" (.int 0)).real = .ok duration := by
    simp only [PyVal.real, hdurationNumber]
  unfold validateAndAdjustEta
  dsimp only
  rw [minus_of_number? (get_of_number? hdistance _), hgreater, hdurationReal]
  dsimp only [bind, Except.bind]
  rw [if_pos rfl, hitem]
  dsimp only
  rw [hreal]
  rfl

theorem Settled.adjustDuration {key : String} {value : PyVal}
    (hsettled : PyDict.Settled result key value) (hduration : key ≠ "duration_minutes")
    (hadjusted : key ≠ "speed_adjusted") (limits : SpeedLimits) :
    PyDict.Settled (adjustDuration result distance duration limits) key value := by
  unfold Routing.adjustDuration
  dsimp only
  split_ifs
  · exact (hsettled.set_of_ne hduration _).set_of_ne hadjusted _
  · exact (hsettled.set_of_ne hduration _).set_of_ne hadjusted _
  · exact hsettled

/-- Validating the distance that was kept changes nothing: a mark is set again at most. -/
theorem validateDistance_again (keptKm : ℚ) (limits : SpeedLimits) :
    validateDistance
        (adjustDuration
          (validateDistance result |distance - haversineDistanceKm| haversineDistanceKm)
          keptKm duration limits)
        |keptDistance distance haversineDistanceKm - haversineDistanceKm| haversineDistanceKm =
      adjustDuration
        (validateDistance result |distance - haversineDistanceKm| haversineDistanceKm)
        keptKm duration limits := by
  by_cases hfar : 1 / 10 < |distance - haversineDistanceKm|
  · by_cases hextreme : haversineDistanceKm * 2 < |distance - haversineDistanceKm|
    · -- the straight line does not differ from itself
      rw [keptDistance, if_pos ⟨hfar, hextreme⟩, sub_self, abs_zero, validateDistance]
      exact if_neg (by norm_num)
    · have hmarked : PyDict.Settled
          (validateDistance result |distance - haversineDistanceKm| haversineDistanceKm)
          "distance_validated" (.bool true) := by
        rw [validateDistance, if_pos hfar, if_neg hextreme]
        exact PyDict.settled_set _ _ _
      rw [keptDistance, if_neg fun hboth => hextreme hboth.2]
      conv_lhs => rw [validateDistance, if_pos hfar, if_neg hextreme]
      exact PyDict.Settled.set_eq
        (Settled.adjustDuration hmarked (by decide) (by decide) limits)
  · rw [keptDistance, if_neg fun hboth => hfar hboth.1]
    conv_lhs => rw [validateDistance, if_neg hfar]

/-- A distance that was kept is kept again. -/
theorem keptDistance_keptDistance :
    keptDistance (keptDistance distance haversineDistanceKm) haversineDistanceKm =
      keptDistance distance haversineDistanceKm := by
  by_cases hextreme : 1 / 10 < |distance - haversineDistanceKm| ∧
      haversineDistanceKm * 2 < |distance - haversineDistanceKm|
  · rw [keptDistance, keptDistance, if_pos hextreme]
    exact ite_self _
  · have hkept : keptDistance distance haversineDistanceKm = distance := if_neg hextreme
    rw [hkept, hkept]

/-! ## When an ETA is validated once and for all -/

theorem IsPositiveEta.validatesOnce (hpositive : IsPositiveEta result haversineDistanceKm) :
    ValidatesOnce result haversineDistanceKm transportMode := by
  obtain ⟨distance, duration, hdistance, hduration, hdurationPos, hkeptPos⟩ := hpositive
  have hfirst := validateAndAdjustEta_of_numbers hdistance hduration hdurationPos
    haversineDistanceKm transportMode
  have hbetween : PyDict.number?
      (validateDistance result |distance - haversineDistanceKm| haversineDistanceKm)
      "duration_minutes" = some duration := by
    rw [PyDict.number?, lookup_validateDistance_duration]
    exact hduration
  obtain ⟨adjusted, hadjusted, hadjustedPos, hallow⟩ :=
    exists_duration_adjustDuration (speedLimits_leaveRoom transportMode) hbetween hdurationPos
      hkeptPos
  have hkept := (number?_adjustDuration_distance _ (keptDistance distance haversineDistanceKm)
    duration (speedLimits transportMode)).trans
      (number?_validateDistance_distance hdistance haversineDistanceKm)
  refine ⟨_, hfirst, ?_, ?_⟩
  · exact ⟨_, adjusted, hkept, hadjusted, hkeptPos.le, keptDistance_le, hadjustedPos, hallow⟩
  · rw [validateAndAdjustEta_of_numbers hkept hadjusted hadjustedPos,
      validateDistance_again, keptDistance_keptDistance, adjustDuration_of_allow _ hallow]

/-- A number that is read with a default is there, or it is the default. -/
theorem number?_of_get {entries : PyDict} {key : String} {default : PyVal} {number : ℚ}
    (hnumber : (PyDict.get entries key default).number? = some number) :
    PyDict.number? entries key = some number ∨
      entries.lookup key = none ∧ default.number? = some number := by
  unfold PyDict.get at hnumber
  cases hlookup : entries.lookup key with
  | none =>
      rw [hlookup] at hnumber
      exact .inr ⟨rfl, hnumber⟩
  | some value =>
      rw [hlookup] at hnumber
      refine .inl ?_
      rw [PyDict.number?, hlookup]
      exact hnumber

/-- What a validation that returns has read. -/
theorem exists_of_validateAndAdjustEta_eq_ok {eta : PyDict}
    (heta : validateAndAdjustEta result haversineDistanceKm transportMode = .ok eta) :
    ∃ distance duration,
      (PyDict.get result "distance_km" (.float haversineDistanceKm)).number? = some distance ∧
      (PyDict.get result "duration_minutes" (.int 0)).number? = some duration ∧
      (0 < duration → ∃ value, PyDict.item
        (validateDistance result |distance - haversineDistanceKm| haversineDistanceKm)
        "distance_km" = .ok value) ∧
      (¬ 0 < duration → eta =
        validateDistance result |distance - haversineDistanceKm| haversineDistanceKm) := by
  obtain ⟨difference, hminus, heta⟩ := exists_of_bind_eq_ok heta
  obtain ⟨positive, hgreater, heta⟩ := exists_of_bind_eq_ok heta
  have hdistance : ∃ distance,
      (PyDict.get result "distance_km" (.float haversineDistanceKm)).number? = some distance ∧
        difference = distance - haversineDistanceKm := by
    unfold PyVal.minus at hminus
    split at hminus
    · rename_i a b ha hb
      cases hminus
      cases hb
      exact ⟨a, ha, rfl⟩
    · cases hminus
  have hduration : ∃ duration,
      (PyDict.get result "duration_minutes" (.int 0)).number? = some duration ∧
        positive = decide (0 < duration) := by
    unfold PyVal.greaterThan at hgreater
    split at hgreater
    · rename_i duration hduration
      cases hgreater
      exact ⟨duration, hduration, rfl⟩
    · cases hgreater
  obtain ⟨distance, hdistance, rfl⟩ := hdistance
  obtain ⟨duration, hduration, rfl⟩ := hduration
  refine ⟨distance, duration, hdistance, hduration, ?_, ?_⟩
  · intro hpositive
    rw [if_pos (decide_eq_true hpositive)] at heta
    obtain ⟨value, hvalue, -⟩ := exists_of_bind_eq_ok heta
    exact ⟨value, hvalue⟩
  · intro hnonpositive
    rw [if_neg (by simpa using hnonpositive)] at heta
    exact (Except.ok.inj heta).symm

/-- The ETA that was made reasonable has both of its numbers, and a positive duration. -/
theorem numbers_of_reasonable {eta : PyDict}
    (heta : validateAndAdjustEta result haversineDistanceKm transportMode = .ok eta)
    (hreasonable : Reasonable haversineDistanceKm (speedLimits transportMode) eta) :
    ∃ distance duration, PyDict.number? result "distance_km" = some distance ∧
      PyDict.number? result "duration_minutes" = some duration ∧ 0 < duration := by
  obtain ⟨distance, duration, hdistance, hduration, hitem, hkept⟩ :=
    exists_of_validateAndAdjustEta_eq_ok heta
  obtain ⟨finalDistance, finalDuration, hfinal, hfinalDuration, -, -, hfinalPos, -⟩ :=
    hreasonable
  have hpositive : 0 < duration := by
    by_contra hnonpositive
    rw [hkept hnonpositive, PyDict.number?, lookup_validateDistance_duration,
      ← PyDict.number?] at hfinalDuration
    cases hduration.symm.trans (get_of_number? hfinalDuration _)
    exact hnonpositive hfinalPos
  have hdurationThere : PyDict.number? result "duration_minutes" = some duration := by
    rcases number?_of_get hduration with hthere | ⟨-, hdefault⟩
    · exact hthere
    · cases hdefault
      exact absurd hpositive (lt_irrefl _)
  refine ⟨distance, duration, ?_, hdurationThere, hpositive⟩
  rcases number?_of_get hdistance with hthere | ⟨hmissing, hdefault⟩
  · exact hthere
  · -- the default is the straight line itself, and is not written to the result
    cases hdefault
    obtain ⟨value, hvalue⟩ := hitem hpositive
    rw [sub_self, abs_zero, validateDistance, if_neg (by norm_num), PyDict.item,
      hmissing] at hvalue
    cases hvalue

end Validation

/-- An ETA is reasonable after the validation, and stays as it is, exactly when both of its
numbers are there and the duration and the distance to keep are positive. -/
theorem validatesOnce_iff (result : PyDict) (haversineDistanceKm : ℚ) (transportMode : String) :
    ValidatesOnce result haversineDistanceKm transportMode ↔
      IsPositiveEta result haversineDistanceKm := by
  constructor
  · rintro ⟨eta, heta, hreasonable, -⟩
    obtain ⟨distance, duration, hdistance, hduration, hpositive⟩ :=
      numbers_of_reasonable heta hreasonable
    refine ⟨distance, duration, hdistance, hduration, hpositive, ?_⟩
    rw [validateAndAdjustEta_of_numbers hdistance hduration hpositive] at heta
    cases heta
    obtain ⟨finalDistance, finalDuration, hfinal, -, hnonneg, -, -, hallow⟩ := hreasonable
    rw [number?_adjustDuration_distance, number?_validateDistance_distance hdistance] at hfinal
    cases hfinal
    -- a distance of zero has no speed
    refine lt_of_le_of_ne hnonneg fun hzero => ?_
    have hslow := hallow.1
    rw [← hzero, zero_div, zero_mul] at hslow
    exact absurd hslow (not_le.mpr (speedLimits_leaveRoom transportMode).positive)
  · exact IsPositiveEta.validatesOnce

/-- Five kilometres in no time are returned as they are. -/
theorem validatesOnce_zeroDuration_false :
    ¬ ValidatesOnce [("distance_km", .int 5), ("duration_minutes", .int 0)] 5 "drive" := by
  rintro ⟨eta, heta, hreasonable, -⟩
  obtain ⟨distance, duration, -, hduration, hpositive⟩ := numbers_of_reasonable heta hreasonable
  cases hduration
  exact absurd hpositive (by decide)

end Goveling.Routing
