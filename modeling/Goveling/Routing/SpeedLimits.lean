/-
# Speed limits

A speed limit is a text: a number with a unit behind it, or anything else. The units are taken out
only where they are written in small letters, and what then reads as a number is the speed,
whatever its sign. Only too high a speed is cut off.
-/

import Goveling.Python.FloatTexts
import Goveling.Routing.HybridGraph

namespace Goveling.Routing.Hybrid

open Goveling.Python

/-! ## What is asked of a speed limit -/

/-- The text of a positive number, and behind it the unit if there is one, in small letters or
capitals. The limit is in kilometres an hour and at most 150. -/
def StatesLimit (maxspeed : String) (kmh : ℚ) : Prop :=
  ∃ number unit value, maxspeed = number ++ unit ∧ finiteFloat? number = some value ∧ 0 < value ∧
    ((lowerText (stripText unit) ∈ ["", "km/h"] ∧ kmh = min value 150) ∨
      (lowerText (stripText unit) = "mph" ∧ kmh = min (value * (160934 / 100000)) 150))

/-- The speed is positive and at most 150, it is the limit that is stated, and the edge takes a
time that is not negative. -/
structure KeepsSpeedLimit (highwayType maxspeed : String) (distanceM : ℚ≥0) : Prop where
  inRange : ∃ kmh, getSpeed (.str highwayType) (.str maxspeed) = .ok (.finite kmh) ∧
    0 < kmh ∧ kmh ≤ 150
  stated : ∀ kmh, StatesLimit maxspeed kmh →
    getSpeed (.str highwayType) (.str maxspeed) = .ok (.finite kmh)
  travelTime : ∃ seconds,
    calculateTravelTime distanceM (.str highwayType) (.str maxspeed) = .ok (some seconds) ∧
      0 ≤ seconds

/-- The text that is read as a number. -/
def limitText (maxspeed : String) : String :=
  stripText (replaceText (replaceText maxspeed "mph" "") "km/h" "")

/-- The speed of a road of a type. -/
def typicalSpeed (highwayType : String) : ℚ := (speedProfiles.lookup highwayType).getD 40

/-- What is read is a positive number, also an infinite one. Where nothing is read, no other limit
is stated than the one for the type of the road. -/
def ReadsPositiveLimit (highwayType maxspeed : String) : Prop :=
  match floatText (limitText maxspeed) with
  | .ok (some number) => 0 < number
  | .ok none => ¬ textIn "nan" (lowerText (limitText maxspeed)) = true ∧
      ¬ "-".toList.isPrefixOf (limitText maxspeed).toList = true
  | .error _ => ∀ kmh, StatesLimit maxspeed kmh → kmh = typicalSpeed highwayType

/-! ## The speed -/

section Speeds

variable {highwayType maxspeed : String}

theorem typicalSpeed_mem (highwayType : String) :
    0 < typicalSpeed highwayType ∧ typicalSpeed highwayType ≤ 150 := by
  have hprofiles : ∀ entry ∈ speedProfiles, 0 < entry.2 ∧ entry.2 ≤ 150 := by decide +kernel
  unfold typicalSpeed
  cases hlookup : speedProfiles.lookup highwayType with
  | none => norm_num
  | some kmh =>
      obtain ⟨before, after, hprofile, -⟩ := List.lookup_eq_some_iff.mp hlookup
      apply hprofiles (highwayType, kmh)
      rw [hprofile]
      exact List.mem_append_right before List.mem_cons_self

/-- The kilometres of a unit of the limit. -/
def kmPerUnit (maxspeed : String) : ℚ :=
  if textIn "mph" (lowerText maxspeed) then 160934 / 100000 else 1

theorem kmPerUnit_pos (maxspeed : String) : 0 < kmPerUnit maxspeed := by
  unfold kmPerUnit
  split_ifs <;> norm_num

/-- The speed is the limit where one is read, and that of the road otherwise. -/
theorem getSpeed_text (highwayType maxspeed : String) :
    getSpeed (.str highwayType) (.str maxspeed) =
      match floatText (limitText maxspeed) with
      | .ok number => .ok (cappedSpeed (limitText maxspeed) (kmPerUnit maxspeed) number)
      | .error _ => .ok (.finite (typicalSpeed highwayType)) := by
  by_cases hempty : maxspeed = ""
  · have hnothing : floatText (limitText "") =
        .error (.valueError ("could not convert string to float: '" ++ "" ++ "'")) := by
      decide +kernel
    rw [hempty, hnothing]
    rfl
  · have htruthy : (PyVal.str maxspeed).truthy = true := decide_eq_true hempty
    have hexplicit : explicitSpeed (.str maxspeed) =
        floatText (limitText maxspeed) >>= fun number =>
          .ok (cappedSpeed (limitText maxspeed) (kmPerUnit maxspeed) number) := rfl
    unfold getSpeed
    rw [if_pos htruthy, hexplicit]
    cases floatText (limitText maxspeed) with
    | error e => rfl
    | ok number => rfl

theorem calculateTravelTime_of_finite {kmh : ℚ} (distanceM : ℚ)
    (hspeed : getSpeed (.str highwayType) (.str maxspeed) = .ok (.finite kmh)) (hpos : 0 < kmh) :
    calculateTravelTime distanceM (.str highwayType) (.str maxspeed) =
      .ok (some (distanceM / (kmh / (36 / 10)))) := by
  have hms : kmh / (36 / 10) ≠ 0 := by positivity
  unfold calculateTravelTime
  rw [hspeed]
  exact if_neg hms

end Speeds

/-! ## Stated limits -/

section Stated

variable {number unit : String} {value : ℚ}

/-- The small letters and the stroke of the units. -/
def unitChars : List Char := ['m', 'p', 'h', 'k', '/']

theorem not_isFloatChar_of_mem {c : Char} (hc : c ∈ unitChars) : isFloatChar c = false := by
  have hall : unitChars.all (fun c => !isFloatChar c) = true := by decide
  simpa using List.all_eq_true.mp hall c hc

/-- The letters of the units are small. -/
theorem toLower_of_mem_unitChars {c : Char} (hc : c ∈ unitChars) : c.toLower = c := by
  have hall : unitChars.all (fun c => c.toLower = c) = true := by decide
  simpa using List.all_eq_true.mp hall c hc

/-- No number has a character of the units. -/
theorem not_mem_of_finiteFloat? (hread : finiteFloat? number = some value) {c : Char}
    (hc : c ∈ unitChars) : c ∉ number.toList := by
  intro hmem
  have hfloat := isFloatChar_of_finiteFloat? hread c hmem
  rw [toLower_of_mem_unitChars hc, not_isFloatChar_of_mem hc] at hfloat
  cases hfloat

theorem not_mem_blank {c : Char} (hc : c.isWhitespace = false) {text : List Char}
    (hblank : Blank text) : c ∉ text := by
  intro hmem
  have hwhite := hblank c hmem
  rw [hc] at hwhite
  cases hwhite

/-- A unit in small letters is taken out from between texts without its letters. -/
theorem replaceChars_units {before after : List Char} (hm : 'm' ∉ before) (hk : 'k' ∉ before)
    (hm' : 'm' ∉ after) (hk' : 'k' ∉ after) (hunit : unit ∈ ["", "km/h", "mph"]) :
    replaceChars "km/h".toList "".toList 0
      (replaceChars "mph".toList "".toList 0 (before ++ unit.toList ++ after)) =
        before ++ after := by
  simp only [List.mem_cons, List.not_mem_nil, or_false] at hunit
  have hmBoth : 'm' ∉ before ++ after := by
    rw [List.mem_append, not_or]
    exact ⟨hm, hm'⟩
  have hkBoth : 'k' ∉ before ++ after := by
    rw [List.mem_append, not_or]
    exact ⟨hk, hk'⟩
  rcases hunit with rfl | rfl | rfl
  · show replaceChars ('k' :: ['m', '/', 'h']) [] 0
      (replaceChars ('m' :: ['p', 'h']) [] 0 (before ++ [] ++ after)) = _
    rw [List.append_nil, replaceChars_of_not_mem hmBoth, replaceChars_of_not_mem hkBoth]
  · -- the `m` of this unit is not the beginning of the other one
    have hstays : replaceChars ('m' :: ['p', 'h']) [] 0 ('m' :: '/' :: 'h' :: after) =
        'm' :: '/' :: 'h' :: after := by
      have hrest : '/' :: 'h' :: replaceChars ('m' :: ['p', 'h']) [] 0 after =
          '/' :: 'h' :: after := by
        rw [replaceChars_of_not_mem hm']
      simpa [replaceChars] using hrest
    have hmk : 'm' ∉ before ++ ['k'] := by simpa using hm
    show replaceChars ('k' :: ['m', '/', 'h']) [] 0
      (replaceChars ('m' :: ['p', 'h']) [] 0 (before ++ ['k', 'm', '/', 'h'] ++ after)) = _
    have hsplit : before ++ ['k', 'm', '/', 'h'] ++ after =
        before ++ ['k'] ++ ('m' :: '/' :: 'h' :: after) := by simp
    rw [hsplit, replaceChars_append hmk, hstays, ← hsplit, replaceChars_part hk hk',
      List.append_nil]
  · show replaceChars ('k' :: ['m', '/', 'h']) [] 0
      (replaceChars ('m' :: ['p', 'h']) [] 0 (before ++ ('m' :: ['p', 'h']) ++ after)) = _
    rw [replaceChars_part hm hm', List.append_nil, replaceChars_of_not_mem hkBoth]

theorem limitText_eq (maxspeed : String) :
    limitText maxspeed = stripText (String.ofList (replaceChars "km/h".toList "".toList 0
      (replaceChars "mph".toList "".toList 0 maxspeed.toList))) := by
  unfold limitText
  rw [replaceText, replaceText,
    @String.toList_ofList (replaceChars "mph".toList "".toList 0 maxspeed.toList)]

/-- A unit in small letters is taken out, and the number is read. -/
theorem floatText_limitText (hread : finiteFloat? number = some value)
    (hunit : stripText unit ∈ ["", "km/h", "mph"]) :
    floatText (limitText (number ++ unit)) = .ok (some value) := by
  obtain ⟨before, after, hbefore, hafter, htext⟩ := exists_blanks_around unit
  have hm : 'm' ∉ number.toList ++ before := by
    rw [List.mem_append, not_or]
    exact ⟨not_mem_of_finiteFloat? hread (by decide),
      not_mem_blank (by decide) hbefore⟩
  have hk : 'k' ∉ number.toList ++ before := by
    rw [List.mem_append, not_or]
    exact ⟨not_mem_of_finiteFloat? hread (by decide),
      not_mem_blank (by decide) hbefore⟩
  have hcleaned := replaceChars_units hm hk (not_mem_blank (by decide) hafter)
    (not_mem_blank (by decide) hafter) hunit
  have htext : (number ++ unit).toList =
      number.toList ++ before ++ (stripText unit).toList ++ after := by
    rw [String.toList_append, htext]
    simp only [List.append_assoc]
  have hblank : Blank (before ++ after) := by
    intro c hc
    exact (List.mem_append.mp hc).elim (hbefore c) (hafter c)
  have hfinite : finiteFloat? (limitText (number ++ unit)) = some value := by
    rw [limitText_eq, htext, hcleaned, List.append_assoc, stripText_append_blank number hblank,
      finiteFloat?_stripText, hread]
  unfold floatText
  rw [hfinite]

/-- A text that is not in small letters has a character that becomes another one in them. -/
theorem exists_capital {text : String} (hcapital : lowerText text ≠ text) :
    ∃ c ∈ text.toList, c.toLower ≠ c := by
  by_contra hnone
  push Not at hnone
  apply hcapital
  rw [lowerText, List.map_congr_left hnone, List.map_id', String.ofList_toList]

/-- Cleaning a text leaves what is no blank and no letter of the units. -/
theorem mem_limitText {maxspeed : String} {c : Char} (hblank : c.isWhitespace = false)
    (hother : c ∉ unitChars) (hc : c ∈ maxspeed.toList) : c ∈ (limitText maxspeed).toList := by
  have hkmh : ['k', 'm', '/', 'h'] ⊆ unitChars := by decide
  have hmph : ['m', 'p', 'h'] ⊆ unitChars := by decide
  rw [limitText_eq]
  apply mem_stripText hblank
  rw [String.toList_ofList]
  show c ∈ replaceChars ('k' :: ['m', '/', 'h']) _ 0 (replaceChars ('m' :: ['p', 'h']) _ 0 _)
  apply mem_replaceChars fun hmem => hother (hkmh hmem)
  apply mem_replaceChars fun hmem => hother (hmph hmem)
  exact hc

/-- Nothing is read where a letter of the units is left, be it a capital. -/
theorem exists_error_of_mem_limitText {maxspeed : String} {c : Char}
    (hc : c ∈ (limitText maxspeed).toList) (hunit : c.toLower ∈ unitChars) :
    ∃ e, floatText (limitText maxspeed) = .error e := by
  have hfinite : finiteFloat? (limitText maxspeed) = none := by
    rw [Option.eq_none_iff_forall_ne_some]
    intro value hread
    have hfloat := isFloatChar_of_finiteFloat? hread c hc
    rw [not_isFloatChar_of_mem hunit] at hfloat
    cases hfloat
  have hinfinite : lowerText (stripText (limitText maxspeed)) ∉ nonFiniteTexts := by
    intro hmem
    have hnone : ∀ text ∈ nonFiniteTexts, unitChars.all (fun c => c ∉ text.toList) = true := by
      decide +kernel
    have hmissing := List.all_eq_true.mp (hnone _ hmem) _ hunit
    apply of_decide_eq_true hmissing
    rw [lowerText, String.toList_ofList]
    apply List.mem_map_of_mem
    rw [limitText, stripText_stripText]
    exact hc
  unfold floatText
  rw [hfinite]
  exact ⟨_, if_neg hinfinite⟩

/-- A unit with capitals stays, and nothing is read. -/
theorem exists_error_of_capitals (hlower : lowerText (stripText unit) ∈ ["", "km/h", "mph"])
    (hcapital : stripText unit ∉ ["", "km/h", "mph"]) (number : String) :
    ∃ e, floatText (limitText (number ++ unit)) = .error e := by
  have hother : lowerText (stripText unit) ≠ stripText unit := by
    intro hsame
    exact hcapital (hsame ▸ hlower)
  obtain ⟨c, hc, hchange⟩ := exists_capital hother
  -- the capital of a letter of the units
  have hunitChar : c.toLower ∈ unitChars := by
    have hmem : c.toLower ∈ (lowerText (stripText unit)).toList := by
      rw [lowerText, String.toList_ofList]
      exact List.mem_map_of_mem hc
    have hall : ∀ text ∈ ["", "km/h", "mph"], text.toList ⊆ unitChars := by
      decide +kernel
    exact hall _ hlower hmem
  have hcapitals : c ∉ unitChars := fun hmem => hchange (toLower_of_mem_unitChars hmem)
  have hblank : c.isWhitespace = false := by
    cases hwhite : c.isWhitespace with
    | false => rfl
    | true => exact absurd (toLower_of_isWhitespace hwhite) hchange
  have hmem : c ∈ (number ++ unit).toList := by
    obtain ⟨before, after, -, -, htext⟩ := exists_blanks_around unit
    rw [String.toList_append, htext]
    simp [hc]
  exact exists_error_of_mem_limitText (mem_limitText hblank hcapitals hmem) hunitChar

theorem kmPerUnit_append (hread : finiteFloat? number = some value)
    (hlower : lowerText (stripText unit) ∈ ["", "km/h", "mph"]) :
    kmPerUnit (number ++ unit) =
      if lowerText (stripText unit) = "mph" then 160934 / 100000 else 1 := by
  obtain ⟨before, after, hbefore, hafter, htext⟩ := exists_blanks_around unit
  have htoList : (lowerText (number ++ unit)).toList = (number.toList ++ before).map Char.toLower ++
      (lowerText (stripText unit)).toList ++ after.map Char.toLower := by
    rw [lowerText, String.toList_ofList, String.toList_append, htext, lowerText,
      String.toList_ofList]
    simp only [List.map_append, List.append_assoc]
  unfold kmPerUnit
  by_cases hmph : lowerText (stripText unit) = "mph"
  · rw [if_pos hmph, if_pos]
    rw [textIn_iff, htoList, hmph]
    exact ⟨_, _, rfl⟩
  · rw [if_neg hmph, if_neg]
    intro hfound
    -- only the unit could have the letter
    have hp : 'p' ∈ (lowerText (number ++ unit)).toList :=
      (textIn_iff.mp hfound).subset (by decide)
    rw [htoList, List.mem_append, List.mem_append, List.map_append, List.mem_append] at hp
    have hnoBlank : ∀ blanks, Blank blanks → 'p' ∉ blanks.map Char.toLower := by
      intro blanks hblanks hmem
      obtain ⟨c, hc, hlowered⟩ := List.mem_map.mp hmem
      rw [toLower_of_isWhitespace (hblanks c hc)] at hlowered
      exact not_mem_blank (by decide) hblanks (hlowered ▸ hc)
    rcases hp with ((hp | hp) | hp) | hp
    · obtain ⟨c, hc, hlowered⟩ := List.mem_map.mp hp
      have hfloat := isFloatChar_of_finiteFloat? hread c hc
      rw [hlowered] at hfloat
      exact absurd hfloat (by decide)
    · exact hnoBlank before hbefore hp
    · have hothers : ∀ text ∈ ["", "km/h", "mph"], text ≠ "mph" → 'p' ∉ text.toList := by
        decide +kernel
      exact hothers _ hlower hmph hp
    · exact hnoBlank after hafter hp

end Stated

/-- A stated limit is the number that is read, or nothing is read. -/
theorem floatText_of_statesLimit {maxspeed : String} {kmh : ℚ}
    (hstates : StatesLimit maxspeed kmh) :
    (∃ value, floatText (limitText maxspeed) = .ok (some value) ∧
        kmh = min (value * kmPerUnit maxspeed) 150) ∨
      ∃ e, floatText (limitText maxspeed) = .error e := by
  obtain ⟨number, unit, value, rfl, hread, -, hunit⟩ := hstates
  have hlower : lowerText (stripText unit) ∈ ["", "km/h", "mph"] := by
    rcases hunit with ⟨hkm, -⟩ | ⟨hmph, -⟩
    · exact (by decide : ["", "km/h"] ⊆ ["", "km/h", "mph"]) hkm
    · rw [hmph]
      decide
  by_cases hsmall : stripText unit ∈ ["", "km/h", "mph"]
  · left
    refine ⟨value, floatText_limitText hread hsmall, ?_⟩
    rw [kmPerUnit_append hread hlower]
    rcases hunit with ⟨hkm, hkmh⟩ | ⟨hmph, hkmh⟩
    · have hno : lowerText (stripText unit) ≠ "mph" := by
        intro hmph
        rw [hmph] at hkm
        exact absurd hkm (by decide)
      rw [if_neg hno, mul_one, hkmh]
    · rw [if_pos hmph, hkmh]
  · exact Or.inr (exists_error_of_capitals hlower hsmall number)

/-- A finite speed in the range keeps the limit when no other one is stated. -/
theorem keepsSpeedLimit_of_finite {highwayType maxspeed : String} {kmh : ℚ} (distanceM : ℚ≥0)
    (hspeed : getSpeed (.str highwayType) (.str maxspeed) = .ok (.finite kmh)) (hpos : 0 < kmh)
    (hle : kmh ≤ 150) (hstated : ∀ limit, StatesLimit maxspeed limit → limit = kmh) :
    KeepsSpeedLimit highwayType maxspeed distanceM where
  inRange := ⟨kmh, hspeed, hpos, hle⟩
  stated := by
    intro limit hlimit
    rw [hstated limit hlimit, hspeed]
  travelTime := ⟨_, calculateTravelTime_of_finite distanceM hspeed hpos,
    div_nonneg distanceM.coe_nonneg (by positivity)⟩

section Kept

variable {highwayType maxspeed : String} {distanceM : ℚ≥0}

/-- Where nothing is read the speed is that of the road. -/
theorem keepsSpeedLimit_iff_of_error {e : PyError}
    (hfloat : floatText (limitText maxspeed) = .error e) :
    KeepsSpeedLimit highwayType maxspeed distanceM ↔
      ∀ kmh, StatesLimit maxspeed kmh → kmh = typicalSpeed highwayType := by
  have hspeed := getSpeed_text highwayType maxspeed
  rw [hfloat] at hspeed
  constructor
  · intro hkeeps limit hlimit
    have hlimitSpeed := hkeeps.stated limit hlimit
    rw [hspeed] at hlimitSpeed
    cases hlimitSpeed
    rfl
  · intro htypical
    obtain ⟨hpos, hle⟩ := typicalSpeed_mem highwayType
    exact keepsSpeedLimit_of_finite distanceM hspeed hpos hle htypical

/-- A finite number is the speed, and only too high a one is cut off. -/
theorem keepsSpeedLimit_iff_of_number {number : ℚ}
    (hfloat : floatText (limitText maxspeed) = .ok (some number)) :
    KeepsSpeedLimit highwayType maxspeed distanceM ↔ 0 < number := by
  have hspeed := getSpeed_text highwayType maxspeed
  have hunit := kmPerUnit_pos maxspeed
  rw [hfloat] at hspeed
  constructor
  · intro hkeeps
    obtain ⟨kmh, hkmh, hpos, -⟩ := hkeeps.inRange
    rw [hspeed] at hkmh
    cases hkmh
    exact pos_of_mul_pos_left (lt_min_iff.mp hpos).1 hunit.le
  · intro hpos
    refine keepsSpeedLimit_of_finite distanceM hspeed
      (lt_min (mul_pos hpos hunit) (by norm_num)) (min_le_right _ _) ?_
    intro limit hlimit
    rcases floatText_of_statesLimit hlimit with ⟨value, hvalue, hlimitValue⟩ | ⟨e, he⟩
    · rw [hfloat] at hvalue
      cases hvalue
      exact hlimitValue
    · rw [hfloat] at he
      cases he

/-- Of the numbers that are not finite only positive infinity is cut off to a speed. -/
theorem keepsSpeedLimit_iff_of_nonFinite (hfloat : floatText (limitText maxspeed) = .ok none) :
    KeepsSpeedLimit highwayType maxspeed distanceM ↔
      ¬ textIn "nan" (lowerText (limitText maxspeed)) = true ∧
        ¬ "-".toList.isPrefixOf (limitText maxspeed).toList = true := by
  have hcapped : getSpeed (.str highwayType) (.str maxspeed) = .ok
      (if textIn "nan" (lowerText (limitText maxspeed)) then .nan
      else if "-".toList.isPrefixOf (limitText maxspeed).toList then .negInfinite
      else .finite 150) := by
    rw [getSpeed_text, hfloat]
    rfl
  constructor
  · intro hkeeps
    obtain ⟨kmh, hkmh, -⟩ := hkeeps.inRange
    rw [hcapped] at hkmh
    constructor
    · intro hnan
      rw [if_pos hnan] at hkmh
      cases hkmh
    · intro hminus
      rw [if_pos hminus] at hkmh
      split_ifs at hkmh <;> cases hkmh
  · rintro ⟨hnan, hminus⟩
    rw [if_neg hnan, if_neg hminus] at hcapped
    refine keepsSpeedLimit_of_finite distanceM hcapped (by norm_num) le_rfl ?_
    intro limit hlimit
    rcases floatText_of_statesLimit hlimit with ⟨value, hvalue, -⟩ | ⟨e, he⟩
    · rw [hfloat] at hvalue
      cases hvalue
    · rw [hfloat] at he
      cases he

end Kept

/-- A speed limit is kept exactly when a positive number is read of it, and where nothing is read
no other limit is stated than the one for the type of the road. -/
theorem keepsSpeedLimit_iff (highwayType maxspeed : String) (distanceM : ℚ≥0) :
    KeepsSpeedLimit highwayType maxspeed distanceM ↔
      ReadsPositiveLimit highwayType maxspeed := by
  unfold ReadsPositiveLimit
  cases hfloat : floatText (limitText maxspeed) with
  | error e => exact keepsSpeedLimit_iff_of_error hfloat
  | ok number? =>
      cases number? with
      | some number => exact keepsSpeedLimit_iff_of_number hfloat
      | none => exact keepsSpeedLimit_iff_of_nonFinite hfloat

/-- A limit of zero ends the loading of the map. -/
theorem not_keepsSpeedLimit_zero : ¬ KeepsSpeedLimit "residential" "0" 100 := by
  intro hkeeps
  obtain ⟨seconds, hseconds, -⟩ := hkeeps.travelTime
  have hzero : calculateTravelTime 100 (.str "residential") (.str "0") =
      .error (.zeroDivisionError "float division by zero") := by
    decide +kernel
  rw [NNRat.cast_ofNat, hzero] at hseconds
  cases hseconds

end Goveling.Routing.Hybrid
