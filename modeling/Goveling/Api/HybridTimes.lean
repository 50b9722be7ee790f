/-
# The times that the hybrid endpoint reports

The times of a day are added up over its places, after its transfers were taken
out. Only a place that is still called a transfer, by the type of the place, counts
as travel. The total of the trip is the sum of its days.
-/

import Goveling.Api.Classification
import Goveling.Math.Matching

namespace Goveling.Api

open Goveling.Python Goveling.Ortools Goveling.Math

/-! ## Hours with one decimal -/

/-- The minutes behind a number of hours with one decimal. -/
def tenthsMinutes (minutes : ℚ) : ℤ := 6 * roundHalfEven (minutes / 60 * 10)

theorem roundHalfEven_nonneg {q : ℚ} (hq : 0 ≤ q) : 0 ≤ roundHalfEven q := by
  have hfloor : 0 ≤ ⌊q⌋ := Int.floor_nonneg.mpr hq
  unfold roundHalfEven
  split_ifs
  · exact hfloor
  · omega
  · have hround : (0 : ℚ) < round q + 1 := by
      have hclose := abs_le.mp (abs_sub_round q)
      linarith [hclose.2]
    have hround' : (0 : ℤ) < round q + 1 := by exact_mod_cast hround
    omega

/-- A number with one decimal: the digits of the whole part, a point and a digit. -/
theorem toList_fixedText {q : ℚ} (hq : 0 ≤ q) :
    (fixedText 1 q).toList =
      Nat.toDigits 10 ((roundHalfEven (q * 10)).toNat / 10) ++
        '.' :: [Nat.digitChar ((roundHalfEven (q * 10)).toNat % 10)] := by
  have hpadded := @toList_zeroPadded 1 ((roundHalfEven (q * 10)).toNat % 10) (by decide)
    (by omega)
  unfold fixedText
  simp only [abs_of_nonneg hq, pow_one, not_lt.mpr hq, if_false, one_ne_zero,
    String.toList_append, toList_toString, hpadded]
  simp [paddedDigits]

theorem not_mem_digitChar {c : Char} (hc : c.isDigit = false) {d : ℕ} (hd : d < 10) :
    c ∉ [Nat.digitChar d] := by
  rw [← Nat.toDigits_of_lt_base hd]
  exact not_mem_toDigits hc d

/-- Hours with one decimal are read back from their text. -/
theorem floatOfText_fixedText {q : ℚ} (hq : 0 ≤ q) :
    floatOfText (replaceText (fixedText 1 q ++ "h") "h" "") =
      .ok ((roundHalfEven (q * 10) : ℚ) / 10) := by
  have hscaled := Int.toNat_of_nonneg (roundHalfEven_nonneg (by linarith : (0 : ℚ) ≤ q * 10))
  generalize hn : (roundHalfEven (q * 10)).toNat = n at hscaled
  have htext : (fixedText 1 q).toList =
      Nat.toDigits 10 (n / 10) ++ '.' :: [Nat.digitChar (n % 10)] := by
    rw [toList_fixedText hq, hn]
  have hdigit : n % 10 < 10 := Nat.mod_lt n (by omega)
  have hh : 'h' ∉ (fixedText 1 q).toList := by
    rw [htext, List.mem_append, List.mem_cons, not_or, not_or]
    exact ⟨not_mem_toDigits rfl _, by decide, not_mem_digitChar rfl hdigit⟩
  have hlast : numberOf [Nat.digitChar (n % 10)] = some (n % 10) := by
    rw [← Nat.toDigits_of_lt_base hdigit, numberOf_toDigits]
  have hread : decimalNumber? (fixedText 1 q).toList = some ((n : ℚ) / 10) := by
    have hsplit : (n : ℚ) = 10 * ((n / 10 : ℕ) : ℚ) + ((n % 10 : ℕ) : ℚ) := by
      exact_mod_cast (Nat.div_add_mod n 10).symm
    unfold decimalNumber?
    rw [htext, List.splitOn_append_cons_self_of_not_mem (not_mem_toDigits rfl _),
      List.splitOn_eq_singleton (not_mem_digitChar rfl hdigit)]
    simp only [numberOf_toDigits, hlast, bind, Option.bind, List.length_singleton, pow_one]
    rw [hsplit]
    congr 1
    ring
  have hunit := @replaceText_h (fixedText 1 q) "" hh (by decide)
  rw [String.append_empty, String.append_empty] at hunit
  rw [hunit]
  unfold floatOfText
  rw [hread, ← hscaled]
  push_cast
  rfl

/-! ## The duration of an item is no negative number -/

section Durations

variable {env : FormatEnv} {activities : List PyVal} {index : ℕ} {activity duration : PyVal}

/-- A number that is not negative. -/
def IsDuration (value : PyVal) : Prop := ∃ number, value.number? = some number ∧ 0 ≤ number

theorem isDuration_int {n : ℤ} (hn : 0 ≤ n) : IsDuration (.int n) :=
  ⟨(n : ℚ), rfl, by exact_mod_cast hn⟩

theorem isDuration_nat (n : ℕ) : IsDuration (.int n) := isDuration_int (Int.natCast_nonneg n)

/-- What is found in brackets was read at some place of the text. -/
theorem exists_of_searchBracket {β : Type} {read : List Char → Option β} {text : List Char} {b : β}
    (hfound : searchBracket read text = some b) : ∃ rest, read rest = some b := by
  induction text with
  | nil => cases hfound
  | cons c rest ih =>
      unfold searchBracket at hfound
      split at hfound
      · cases hread : read rest with
        | none =>
            rw [hread, Option.none_or] at hfound
            exact ih hfound
        | some found =>
            rw [hread, Option.some_or, Option.some.injEq] at hfound
            exact ⟨rest, by rw [hread, hfound]⟩
      · exact ih hfound

theorem hoursInName_nonneg {name : String} {hours : ℚ} (hfound : hoursInName name = some hours) :
    0 ≤ hours := by
  obtain ⟨rest, hread⟩ := exists_of_searchBracket hfound
  split at hread
  · obtain ⟨whole, -, hread⟩ := Option.bind_eq_some_iff.mp hread
    obtain ⟨fraction, -, hread⟩ := Option.bind_eq_some_iff.mp hread
    cases hread
    positivity
  · obtain ⟨n, -, rfl⟩ := Option.map_eq_some_iff.mp hread
    exact Nat.cast_nonneg n

theorem transferDuration_isDuration
    (hduration : transferDuration env activities index activity = .ok duration) :
    IsDuration duration := by
  unfold transferDuration at hduration
  dsimp only at hduration
  split at hduration
  · obtain ⟨distanceKm, -, hduration⟩ := exists_of_bind_eq_ok hduration
    obtain ⟨speedKmh, -, hduration⟩ := exists_of_bind_eq_ok hduration
    cases hduration
    apply isDuration_int
    exact le_trans (by decide) (le_max_left 5 _)
  · obtain ⟨fallbackTime, -, hduration⟩ := exists_of_bind_eq_ok hduration
    cases hduration
    exact isDuration_nat fallbackTime

/-- The duration of an item is a number that is not negative. -/
theorem calculateDynamicDuration_isDuration
    (hduration : calculateDynamicDuration env activities index activity = .ok duration) :
    IsDuration duration := by
  unfold calculateDynamicDuration at hduration
  obtain ⟨positive, hpositive, hduration⟩ := exists_of_bind_eq_ok hduration
  cases positive with
  | true =>
      cases hduration
      unfold PyVal.greaterThan at hpositive
      split at hpositive
      · rename_i number hnumber
        rw [Except.ok.injEq, decide_eq_true_eq] at hpositive
        exact ⟨number, hnumber, hpositive.le⟩
      · cases hpositive
  | false =>
      dsimp only at hduration
      rw [if_neg (by decide)] at hduration
      split at hduration
      · split at hduration
        · cases hduration
          exact isDuration_nat _
        · rename_i hours _ hhours
          cases hduration
          have hnonneg : (0 : ℚ) ≤ hours * 60 := by
            have hfound := hoursInName_nonneg hhours
            positivity
          apply isDuration_int
          rw [truncated_of_nonneg hnonneg]
          exact Int.floor_nonneg.mpr hnonneg
        · exact transferDuration_isDuration hduration
      · obtain ⟨minutes, -, hduration⟩ := exists_of_bind_eq_ok hduration
        cases hduration
        exact isDuration_nat minutes

end Durations

/-! ## What is added up -/

/-- The minutes of an item at a position of its day. -/
def minutesOf (env : FormatEnv) (activities : List PyVal) (entry : PyVal × ℕ) : ℚ :=
  match calculateDynamicDuration env activities entry.2 entry.1 with
  | .ok duration => duration.number?.getD 0
  | .error _ => 0

/-- A place is still called a transfer by the type of the place. -/
def isTransferPlace (activity : PyVal) : Bool :=
  (getValue activity "place_type" .none).isText "transfer"

/-- The minutes that the places of a day add to its travel. -/
def countedMinutes (env : FormatEnv) (activities : List PyVal) : ℤ :=
  (((entrySplit env activities.zipIdx).places.filter fun entry => isTransferPlace entry.1).map
    fun entry => tenthsMinutes (minutesOf env activities entry)).sum

/-- The minutes of the transfers of a day. -/
def transferMinutes (env : FormatEnv) (activities : List PyVal) : ℚ :=
  ((entrySplit env activities.zipIdx).transfers.map (minutesOf env activities)).sum

section Counting

variable {env : FormatEnv} {context : FormatContext} {activities : List PyVal}

/-- The entries of a place that the times are added up from. -/
theorem formatsPlace_get {entry : PyVal × ℕ} {place : PyDict}
    (hplace : FormatsPlace env context activities entry place) :
    place.get "estimated_time" (.str "0h") =
        .str (fixedText 1 (minutesOf env activities entry / 60) ++ "h") ∧
      0 ≤ minutesOf env activities entry ∧
      place.get "category" .none = getValue entry.1 "place_type"
        (getValue entry.1 "type" (.str "point_of_interest")) ∧
      place.get "name" (.str "") = getValue entry.1 "name" (.str "Lugar sin nombre") := by
  obtain ⟨order, hformat⟩ := hplace
  unfold formatActivityForFrontend at hformat
  split at hformat
  · cases hformat
  · obtain ⟨duration, hduration, hformat⟩ := exists_of_bind_eq_ok hformat
    obtain ⟨estimatedTime, hestimated, hformat⟩ := exists_of_bind_eq_ok hformat
    obtain ⟨recommendedDuration, -, hformat⟩ := exists_of_bind_eq_ok hformat
    obtain ⟨bestTime, -, hformat⟩ := exists_of_bind_eq_ok hformat
    cases hformat
    obtain ⟨number, hnumber, hnonneg⟩ := calculateDynamicDuration_isDuration hduration
    have hminutes : minutesOf env activities entry = number := by
      simp only [minutesOf, hduration, hnumber, Option.getD_some]
    simp only [hoursText, hnumber, Except.ok.injEq] at hestimated
    rw [hminutes]
    exact ⟨hestimated.symm, hnonneg, rfl, rfl⟩

/-- The category of a formatted place is the type of the place, or its own type, which
was asked before. -/
theorem isText_category_of_place {entry : PyVal × ℕ} {place : PyDict}
    (hplace : FormatsPlace env context activities entry place)
    (htype : getValue entry.1 "type" .none ≠ .str "transfer") :
    (place.get "category" .none).isText "transfer" = isTransferPlace entry.1 := by
  obtain ⟨-, -, hcategory, -⟩ := formatsPlace_get hplace
  rw [hcategory, Bool.eq_iff_iff]
  unfold isTransferPlace
  rw [PyVal.isText_iff, PyVal.isText_iff]
  cases hentry : entry.1 with
  | dict entries =>
      rw [hentry] at htype
      simp only [getValue, PyDict.get] at htype ⊢
      cases entries.lookup "place_type" with
      | some value => rfl
      | none =>
          cases htypes : entries.lookup "type" with
          | none => simp
          | some value =>
              rw [htypes] at htype
              simpa using htype
  | none | bool _ | int _ | float _ | str _ | list _ => simp [getValue]

/-- The name of a formatted place has none of the words that were looked for before. -/
theorem words_of_place {entry : PyVal × ℕ} {place : PyDict} {name : String}
    (hplace : FormatsPlace env context activities entry place)
    (hwords : env.nameHas transferWords entry.1 = false)
    (htext : textFor "lower" (place.get "name" (.str "")) = .ok name) :
    (transferWords.any fun word => textIn word (lowerText name)) = false := by
  obtain ⟨-, -, -, hname⟩ := formatsPlace_get hplace
  rw [hname] at htext
  cases hentry : entry.1 with
  | dict entries =>
      rw [hentry] at htext hwords
      unfold FormatEnv.nameHas FormatEnv.nameOf at hwords
      simp only [getValue, PyDict.get] at htext hwords
      cases hlookup : entries.lookup "name" with
      | none =>
          rw [hlookup] at htext
          cases htext
          decide +kernel
      | some value =>
          rw [hlookup, Option.getD_some] at htext hwords
          cases value with
          | str text =>
              cases htext
              exact hwords
          | none | bool _ | int _ | float _ | list _ | dict _ => cases htext
  | none | bool _ | int _ | float _ | str _ | list _ =>
      rw [hentry] at htext
      cases htext
      decide +kernel

/-- A place counts as travel when the type of the place says transfer: its name and
its own type have been asked before. -/
theorem countsAsTransfer_eq_ok {entry : PyVal × ℕ} {place : PyDict} {counts : Bool}
    (hplace : FormatsPlace env context activities entry place)
    (hnot : isTransfer env entry.1 = false) (hcounts : countsAsTransfer place = .ok counts) :
    counts = isTransferPlace entry.1 := by
  unfold isTransfer at hnot
  rw [Bool.or_eq_false_iff] at hnot
  obtain ⟨htag, hwords⟩ := hnot
  have htype : getValue entry.1 "type" .none ≠ .str "transfer" := by
    intro htype
    rw [(isTaggedTransfer_iff entry.1).mpr (Or.inr htype)] at htag
    cases htag
  have hplaceType := isText_category_of_place hplace htype
  unfold countsAsTransfer at hcounts
  split at hcounts
  · rename_i htransfer
    cases hcounts
    rw [← hplaceType, htransfer]
  · rename_i htransfer
    obtain ⟨name, htext, hcounts⟩ := exists_of_bind_eq_ok hcounts
    cases hcounts
    rw [← hplaceType, Bool.eq_false_iff.mpr htransfer]
    exact words_of_place hplace hwords htext

/-- Whole minutes that are no negative number. -/
def IsWhole (minutes : ℚ) : Prop := ∃ n : ℕ, minutes = n

theorem isWhole_add {first second : ℚ} (hfirst : IsWhole first) (hsecond : IsWhole second) :
    IsWhole (first + second) := by
  obtain ⟨m, rfl⟩ := hfirst
  obtain ⟨n, rfl⟩ := hsecond
  exact ⟨m + n, by push_cast; rfl⟩

theorem isWhole_tenthsMinutes {minutes : ℚ} (hminutes : 0 ≤ minutes) :
    IsWhole (tenthsMinutes minutes) := by
  have hround : 0 ≤ roundHalfEven (minutes / 60 * 10) := roundHalfEven_nonneg (by positivity)
  have hnonneg : 0 ≤ tenthsMinutes minutes := by
    unfold tenthsMinutes
    omega
  exact ⟨(tenthsMinutes minutes).toNat, by exact_mod_cast (Int.toNat_of_nonneg hnonneg).symm⟩

/-- One turn of the loop adds the minutes of a place that counts as travel. -/
theorem addPlace_eq_ok {entry : PyVal × ℕ} {place : PyDict} {times result : DayTimes}
    (hplace : FormatsPlace env context activities entry place)
    (hnot : isTransfer env entry.1 = false) (hadd : addPlace times place = .ok result) :
    result.walking + result.transport = times.walking + times.transport +
        (if isTransferPlace entry.1 then (tenthsMinutes (minutesOf env activities entry) : ℚ)
          else 0) ∧
      (IsWhole times.walking → IsWhole result.walking) ∧
      (IsWhole times.transport → IsWhole result.transport) := by
  obtain ⟨hestimated, hnonneg, -, -⟩ := formatsPlace_get hplace
  have hhours : (0 : ℚ) ≤ minutesOf env activities entry / 60 := by positivity
  have hwhole := isWhole_tenthsMinutes hnonneg
  unfold addPlace at hadd
  rw [hestimated] at hadd
  obtain ⟨text, htext, hadd⟩ := exists_of_bind_eq_ok hadd
  cases htext
  rw [floatOfText_fixedText hhours] at hadd
  obtain ⟨hours, hhours', hadd⟩ := exists_of_bind_eq_ok hadd
  cases hhours'
  have hminutes : (roundHalfEven (minutesOf env activities entry / 60 * 10) : ℚ) / 10 * 60 =
      (tenthsMinutes (minutesOf env activities entry) : ℚ) := by
    unfold tenthsMinutes
    push_cast
    ring
  rw [hminutes] at hadd
  obtain ⟨counts, hcounts, hadd⟩ := exists_of_bind_eq_ok hadd
  rw [← countsAsTransfer_eq_ok hplace hnot hcounts]
  cases counts with
  | false =>
      cases hadd
      refine ⟨by simp, fun hold => hold, fun hold => hold⟩
  | true =>
      dsimp only at hadd
      rw [if_pos rfl] at hadd
      rw [if_pos rfl]
      split at hadd
      · cases hadd
        exact ⟨by ring, fun hold => isWhole_add hold hwhole, fun hold => hold⟩
      · cases hadd
        exact ⟨by ring, fun hold => hold, fun hold => isWhole_add hold hwhole⟩

/-- The loop over the places of a day. -/
theorem foldlM_addPlace_eq_ok {entries : List (PyVal × ℕ)} {places : List PyDict}
    (hplaces : List.Forall₂ (FormatsPlace env context activities) entries places)
    (hnot : ∀ entry ∈ entries, isTransfer env entry.1 = false) {times result : DayTimes}
    (hloop : places.foldlM addPlace times = .ok result) :
    result.walking + result.transport = times.walking + times.transport +
        (((entries.filter fun entry => isTransferPlace entry.1).map
          fun entry => tenthsMinutes (minutesOf env activities entry)).sum : ℤ) ∧
      (IsWhole times.walking → IsWhole result.walking) ∧
      (IsWhole times.transport → IsWhole result.transport) := by
  induction hplaces generalizing times with
  | nil =>
      cases hloop
      exact ⟨by simp, fun hold => hold, fun hold => hold⟩
  | @cons entry place entries places hplace _ ih =>
      rw [List.foldlM_cons] at hloop
      obtain ⟨next, hnext, hloop⟩ := exists_of_bind_eq_ok hloop
      obtain ⟨hsum, hwalking, htransport⟩ :=
        addPlace_eq_ok hplace (hnot entry List.mem_cons_self) hnext
      obtain ⟨hrest, hwalking', htransport'⟩ :=
        ih (fun other hother => hnot other (List.mem_cons_of_mem _ hother)) hloop
      refine ⟨?_, fun hold => hwalking' (hwalking hold), fun hold => htransport' (htransport hold)⟩
      rw [hrest, hsum, List.filter_cons]
      cases hcounts : isTransferPlace entry.1 with
      | false => simp
      | true =>
          simp only [if_true, List.map_cons, List.sum_cons]
          push_cast
          ring

end Counting

/-! ## What is reported -/

/-- The items of a day. -/
def dayActivities (value : PyVal) : List PyVal :=
  match (getValue value "activities" (.list [])).iterate with
  | .ok activities => activities
  | .error _ => []

/-- The minutes that a day of the response reports under a key. -/
def reportedMinutes (key : String) (day : PyDict) : ℤ :=
  match minutesUnder key day with
  | .ok minutes => minutes
  | .error _ => 0

/-- The minutes of travel that a day of the response reports. -/
def reportedTravel (day : PyDict) : ℤ :=
  reportedMinutes "walking_time" day + reportedMinutes "transport_time" day

/-- Every day reports the minutes of its transfers, and the total is that of the days. -/
structure ReportsTravel (env : FormatEnv) (daysData : List PyVal)
    (formatted : FormattedItinerary) : Prop where
  daily : List.Forall₂
    (fun value day => (reportedTravel day : ℚ) = transferMinutes env (dayActivities value))
    daysData formatted.itineraryDays
  total : formatted.totalTravelMinutes = (formatted.itineraryDays.map reportedTravel).sum

section Reporting

variable {env : FormatEnv}

/-- The times of a day in its entry. -/
theorem reportedTravel_hybridDayData {dayCounter : ℕ} {day : PyDict} {items : DayItems}
    {times : DayTimes} {isSuggested : Bool} (hwalking : IsWhole times.walking)
    (htransport : IsWhole times.transport) :
    (reportedTravel (hybridDayData env dayCounter day items times isSuggested) : ℚ) =
      times.walking + times.transport := by
  have hreported : ∀ {key : String} {minutes : ℚ}, IsWhole minutes →
      minutesUnder key (hybridDayData env dayCounter day items times isSuggested) =
        parseTimeString (minutesText minutes) →
      (reportedMinutes key (hybridDayData env dayCounter day items times isSuggested) : ℚ) =
        minutes := by
    rintro key _ ⟨n, rfl⟩ hread
    rw [(spellsMinutes_minutesText (Nat.cast_nonneg n)).parseTimeString,
      Nat.floor_natCast] at hread
    simp only [reportedMinutes, hread]
    push_cast
    rfl
  unfold reportedTravel
  push_cast
  rw [hreported hwalking rfl, hreported htransport rfl]

/-- One turn of the loop over the days adds a day that reports what its places count. -/
theorem formatDay_eq_ok {state next : FormatState} {value : PyVal}
    (hformat : formatDay env state value = .ok next) :
    ∃ day, next.itineraryDays = state.itineraryDays ++ [day] ∧
      reportedTravel day = countedMinutes env (dayActivities value) := by
  unfold formatDay at hformat
  obtain ⟨day, hday, hformat⟩ := exists_of_bind_eq_ok hformat
  obtain ⟨activities, hactivities, hformat⟩ := exists_of_bind_eq_ok hformat
  obtain ⟨items, hitems, hformat⟩ := exists_of_bind_eq_ok hformat
  obtain ⟨times, htimes, hformat⟩ := exists_of_bind_eq_ok hformat
  obtain ⟨count, -, hformat⟩ := exists_of_bind_eq_ok hformat
  cases hformat
  have hread : dayActivities value = activities := by
    cases value with
    | dict entries =>
        rw [PyVal.getter_dict, Except.ok.injEq] at hday
        subst hday
        show (match (PyDict.get entries "activities" (.list [])).iterate with
          | .ok activities => activities
          | .error _ => []) = activities
        rw [hactivities]
    | none | bool _ | int _ | float _ | str _ | list _ => cases hday
  obtain ⟨places, transfers, rfl, hplaces, -⟩ := foldlM_formatItem_eq_ok hitems
  have hnot : ∀ entry ∈ (entrySplit env activities.zipIdx).places,
      isTransfer env entry.1 = false := by
    intro entry hentry
    have hkept := (List.mem_filter.mp hentry).2
    rw [Bool.and_eq_true] at hkept
    simpa using hkept.2
  obtain ⟨hsum, hwalking, htransport⟩ := foldlM_addPlace_eq_ok hplaces hnot htimes
  refine ⟨_, rfl, ?_⟩
  have hreported := @reportedTravel_hybridDayData env (state.itineraryDays.length + 1) day
    { places := [] ++ places, transfers := [] ++ transfers } times (decide (count = 0))
    (hwalking ⟨0, rfl⟩) (htransport ⟨0, rfl⟩)
  rw [hsum, zero_add, zero_add] at hreported
  rw [hread]
  exact_mod_cast hreported

/-- The loop over the days. -/
theorem foldlM_formatDay_eq_ok {daysData : List PyVal} {state result : FormatState}
    (hloop : daysData.foldlM (formatDay env) state = .ok result) :
    ∃ days, result.itineraryDays = state.itineraryDays ++ days ∧
      List.Forall₂ (fun value day => reportedTravel day = countedMinutes env (dayActivities value))
        daysData days := by
  induction daysData generalizing state with
  | nil =>
      cases hloop
      exact ⟨[], by simp, List.Forall₂.nil⟩
  | cons value rest ih =>
      rw [List.foldlM_cons] at hloop
      obtain ⟨next, hnext, hloop⟩ := exists_of_bind_eq_ok hloop
      obtain ⟨day, hday, hreported⟩ := formatDay_eq_ok hnext
      obtain ⟨days, hdays, hrest⟩ := ih hloop
      exact ⟨day :: days, by rw [hdays, hday, List.append_assoc, List.singleton_append],
        List.Forall₂.cons hreported hrest⟩

/-- The total of a formatted itinerary is the sum of what its days report. -/
theorem totalTravelMinutes_eq {daysData : List PyVal} {formatted : FormattedItinerary}
    (hformat : formatItinerary env daysData = .ok formatted) :
    formatted.totalTravelMinutes = (formatted.itineraryDays.map reportedTravel).sum := by
  unfold formatItinerary at hformat
  obtain ⟨state, -, hformat⟩ := exists_of_bind_eq_ok hformat
  obtain ⟨transport, htransport, hformat⟩ := exists_of_bind_eq_ok hformat
  obtain ⟨walking, hwalking, hformat⟩ := exists_of_bind_eq_ok hformat
  cases hformat
  have hread : ∀ key : String, ∀ (day : PyDict) (minutes : ℤ), minutesUnder key day = .ok minutes →
      id minutes = reportedMinutes key day := by
    intro key day minutes hminutes
    simp only [reportedMinutes, hminutes, id]
  have htransport' := map_eq_of_mapM_eq_ok (hread "transport_time") htransport
  have hwalking' := map_eq_of_mapM_eq_ok (hread "walking_time") hwalking
  rw [List.map_id] at htransport' hwalking'
  show transport.sum + walking.sum = _
  rw [htransport', hwalking', ← List.sum_map_add]
  apply congrArg List.sum
  apply List.map_congr_left
  intro day _
  exact add_comm _ _

/-- Every formatted day reports what its places count. -/
theorem reportedTravel_eq {daysData : List PyVal} {formatted : FormattedItinerary}
    (hformat : formatItinerary env daysData = .ok formatted) :
    List.Forall₂ (fun value day => reportedTravel day = countedMinutes env (dayActivities value))
      daysData formatted.itineraryDays := by
  unfold formatItinerary at hformat
  obtain ⟨state, hstate, hformat⟩ := exists_of_bind_eq_ok hformat
  obtain ⟨transport, -, hformat⟩ := exists_of_bind_eq_ok hformat
  obtain ⟨walking, -, hformat⟩ := exists_of_bind_eq_ok hformat
  obtain ⟨days, hdays, hreported⟩ := foldlM_formatDay_eq_ok hstate
  rw [List.nil_append] at hdays
  cases hformat
  rw [← hdays] at hreported
  exact hreported

end Reporting

/-- The formatted days report the minutes of their transfers exactly when on every day
the items that are listed as places and typed as transfers have as many minutes, in
tenths of hours, as the items that are listed as transfers. -/
theorem formatItinerary_reportsTravel_iff {env : FormatEnv} {daysData : List PyVal}
    {formatted : FormattedItinerary} (hformat : formatItinerary env daysData = .ok formatted) :
    ReportsTravel env daysData formatted ↔ ∀ value ∈ daysData,
      (countedMinutes env (dayActivities value) : ℚ) =
        transferMinutes env (dayActivities value) := by
  have hiff : ∀ (value : PyVal) (day : PyDict),
      reportedTravel day = countedMinutes env (dayActivities value) →
      ((reportedTravel day : ℚ) = transferMinutes env (dayActivities value) ↔
        (countedMinutes env (dayActivities value) : ℚ) =
          transferMinutes env (dayActivities value)) := by
    intro value day hsame
    rw [hsame]
  rw [← forall₂_iff_of_forall₂ hiff (reportedTravel_eq hformat)]
  exact ⟨fun hreports => hreports.daily, fun hdaily => ⟨hdaily, totalTravelMinutes_eq hformat⟩⟩

/-- An hour in a museum. -/
def museumVisit : PyVal :=
  .dict [("name", .str "Museo"), ("type", .str "museum"), ("duration_minutes", .int 60)]

/-- A drive of three quarters of an hour, as the optimizer lists it. -/
def cityDrive : PyVal :=
  .dict [("name", .str "Traslado (45min)"), ("type", .str "transfer"),
    ("category", .str "transfer")]

/-- A day with some items. -/
def dayWith (activities : List PyVal) : PyVal :=
  .dict [("date", .str "2025-06-01"), ("activities", .list activities)]

/-- A day without transfers is reported as it is. -/
theorem formatItinerary_reportsTravel_museum :
    ∃ formatted, formatItinerary walkingEnv [dayWith [museumVisit]] = .ok formatted ∧
      (ReportsTravel walkingEnv [dayWith [museumVisit]] formatted ↔
        ∀ value ∈ [dayWith [museumVisit]],
          (countedMinutes walkingEnv (dayActivities value) : ℚ) =
            transferMinutes walkingEnv (dayActivities value)) := by
  have hok : (formatItinerary walkingEnv [dayWith [museumVisit]]).isOk = true := by
    decide +kernel
  obtain ⟨formatted, hformat⟩ := exists_eq_ok_of_isOk hok
  exact ⟨formatted, hformat, formatItinerary_reportsTravel_iff hformat⟩

/-- A day with a visit and a drive: the response reports no travel at all. -/
theorem formatItinerary_reportsTravel_not_drive :
    ∃ formatted, formatItinerary walkingEnv [dayWith [museumVisit, cityDrive]] = .ok formatted ∧
      ¬ ReportsTravel walkingEnv [dayWith [museumVisit, cityDrive]] formatted := by
  have hok : (formatItinerary walkingEnv [dayWith [museumVisit, cityDrive]]).isOk = true := by
    decide +kernel
  obtain ⟨formatted, hformat⟩ := exists_eq_ok_of_isOk hok
  refine ⟨formatted, hformat, ?_⟩
  intro hreports
  have hdaily := hreports.daily
  have hreported := reportedTravel_eq hformat
  cases hdays : formatted.itineraryDays with
  | nil =>
      rw [hdays] at hdaily
      cases hdaily
  | cons day rest =>
      rw [hdays, List.forall₂_cons] at hdaily hreported
      have hcounted : countedMinutes walkingEnv
          (dayActivities (dayWith [museumVisit, cityDrive])) = 0 := by
        decide +kernel
      have htransfers : transferMinutes walkingEnv
          (dayActivities (dayWith [museumVisit, cityDrive])) = 45 := by
        decide +kernel
      have hsame := hdaily.1
      rw [hreported.1, hcounted, htransfers] at hsame
      norm_num at hsame

end Goveling.Api
