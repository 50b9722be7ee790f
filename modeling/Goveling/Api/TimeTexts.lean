/-
# Durations in texts

The hybrid endpoint writes minutes as a text of hours and minutes, and reads the
minutes back from the text to add them up.
-/

import Goveling.Python.Text
import Mathlib.Tactic.Linarith
import Mathlib.Tactic.Positivity

namespace Goveling.Api

open Goveling.Python Goveling.Math

/-- The free time of a day, in hours and minutes. -/
def freeTimeText (freeHours : ℚ) : String :=
  let hours := toString (truncated freeHours) ++ "h"
  if 0 < Int.fract freeHours then
    hours ++ toString (truncated (Int.fract freeHours * 60)) ++ "min"
  else hours

/-- The walking time or the transport time of a day: minutes alone below an hour. -/
def minutesText (minutes : ℚ) : String :=
  let hours := ⌊minutes / 60⌋
  let rest := minutes - hours * 60
  if minutes < 60 then toString (truncated minutes) ++ "min"
  else if 0 < rest then toString hours ++ "h" ++ toString (truncated rest) ++ "min"
  else toString hours ++ "h"

/-- The number before or behind the `h`, which may be missing. -/
def intOrZero (text : List Char) : Except PyError ℤ :=
  if text.isEmpty then .ok 0 else intOfText (String.ofList text)

/-- `parse_time_string` of the hybrid endpoint. -/
def parseTimeString (timeStr : String) : Except PyError ℤ :=
  if timeStr = "" || timeStr = "0min" then .ok 0
  else if textIn "h" timeStr then
    match timeStr.toList.splitOn 'h' with
    | [] => .ok 0
    | [first] => do
        let hours ← intOrZero first
        .ok (hours * 60)
    | first :: second :: _ => do
        let hours ← intOrZero first
        let minutes ← intOrZero (replaceText (String.ofList second) "min" "").toList
        .ok (hours * 60 + minutes)
  else if textIn "min" timeStr then intOfText (replaceText timeStr "min" "")
  else .ok 0

/-! ## Which free times read alike -/

/-- A step from below zero to zero or above is forgotten exactly when it is the one from the
last unit below. -/
theorem truncated_add_eq_iff_of_neg {number : ℚ} {extra : ℤ} (hnumber : number < 0)
    (hmoved : 0 ≤ number + extra) :
    truncated (number + extra) = truncated number ↔ extra = 1 ∧ -1 < number := by
  have hpositive : (0 : ℚ) < extra := by linarith
  unfold truncated
  rw [if_pos hmoved, if_neg (not_le.mpr hnumber), Int.floor_add_intCast]
  constructor
  · intro hsame
    have hbelow : ⌊number⌋ < 0 := Int.floor_lt.mpr (by push_cast; exact hnumber)
    have hzero : ⌈number⌉ = 0 := le_antisymm (Int.ceil_le.mpr (by push_cast; exact hnumber.le))
      (hsame ▸ Int.floor_add_intCast number extra ▸ Int.floor_nonneg.mpr hmoved)
    have hnear := Int.ceil_le_floor_add_one number
    have hlt := Int.ceil_lt_add_one number
    rw [hzero, Int.cast_zero] at hlt
    exact ⟨by omega, by linarith⟩
  · rintro ⟨rfl, habove⟩
    have hceil : ⌈number⌉ = 0 :=
      Int.ceil_eq_iff.mpr ⟨by push_cast; linarith, by push_cast; exact hnumber.le⟩
    have hfloor : ⌊number⌋ = -1 :=
      Int.floor_eq_iff.mpr ⟨by push_cast; exact habove.le, by push_cast; linarith⟩
    rw [hceil, hfloor]
    rfl

/-- Cutting the decimals off forgets whole numbers only around zero. -/
theorem truncated_add_intCast_eq_iff {number : ℚ} {extra : ℤ} :
    truncated (number + extra) = truncated number ↔
      extra = 0 ∨ (extra = 1 ∧ -1 < number ∧ number < 0) ∨
        (extra = -1 ∧ 0 < number ∧ number < 1) := by
  rcases lt_or_ge number 0 with hbelow | hnonneg
  · rcases lt_or_ge (number + extra) 0 with hstays | hmoved
    · have hceil := Int.ceil_add_intCast number extra
      unfold truncated
      rw [if_neg (not_le.mpr hbelow), if_neg (not_le.mpr hstays), hceil]
      constructor
      · intro hsame
        exact .inl (by omega)
      · rintro (rfl | ⟨rfl, habove, -⟩ | ⟨-, hpositive, -⟩)
        · exact add_zero _
        · push_cast at hstays
          linarith
        · linarith
    · rw [truncated_add_eq_iff_of_neg hbelow hmoved]
      constructor
      · exact fun ⟨hone, habove⟩ => .inr (.inl ⟨hone, habove, hbelow⟩)
      · rintro (rfl | ⟨hone, habove, -⟩ | ⟨-, hpositive, -⟩)
        · push_cast at hmoved
          linarith
        · exact ⟨hone, habove⟩
        · linarith
  · rcases lt_or_ge (number + extra) 0 with hmoved | hstays
    · -- the step back goes from below zero to zero or above
      have hback : number + extra + ((-extra : ℤ) : ℚ) = number := by
        push_cast
        ring
      have hreturn := truncated_add_eq_iff_of_neg hmoved (hnonneg.trans_eq hback.symm)
      rw [hback] at hreturn
      rw [eq_comm, hreturn]
      constructor
      · rintro ⟨hone, habove⟩
        obtain rfl : extra = -1 := by omega
        push_cast at hmoved habove
        exact .inr (.inr ⟨rfl, by linarith, by linarith⟩)
      · rintro (rfl | ⟨-, -, hbelow⟩ | ⟨rfl, hpositive, -⟩)
        · push_cast at hmoved
          linarith
        · linarith
        · exact ⟨by norm_num, by push_cast; linarith⟩
    · have hfloor := Int.floor_add_intCast number extra
      unfold truncated
      rw [if_pos hnonneg, if_pos hstays, hfloor]
      constructor
      · intro hsame
        exact .inl (by omega)
      · rintro (rfl | ⟨-, -, hbelow⟩ | ⟨rfl, -, habove⟩)
        · exact add_zero _
        · linarith
        · push_cast at hstays
          linarith

/-- Free times that are whole hours apart read alike only around zero. -/
theorem freeTimeText_add_intCast_eq_iff {freeHours : ℚ} {extra : ℤ} :
    freeTimeText (freeHours + extra) = freeTimeText freeHours ↔
      extra = 0 ∨ (extra = 1 ∧ -1 < freeHours ∧ freeHours < 0) ∨
        (extra = -1 ∧ 0 < freeHours ∧ freeHours < 1) := by
  rw [← truncated_add_intCast_eq_iff]
  unfold freeTimeText
  rw [Int.fract_add_intCast]
  constructor
  · intro htexts
    have hhours : toString (truncated (freeHours + extra)) ++ "h" =
        toString (truncated freeHours) ++ "h" := by
      dsimp only at htexts
      split at htexts
      · rwa [String.append_left_inj, String.append_left_inj] at htexts
      · exact htexts
    exact toString_injective ((String.append_left_inj _).mp hhours)
  · intro hsame
    rw [hsame]

/-- No free time that is computed is written with decimals. -/
theorem freeTimeText_ne_of_decimal {text : String} (hdecimal : '.' ∈ text.toList)
    (freeHours : ℚ) : freeTimeText freeHours ≠ text := by
  rintro rfl
  have hnone : ∀ number : ℤ, '.' ∉ number.repr.toList := not_mem_toString rfl (by decide)
  unfold freeTimeText at hdecimal
  dsimp only at hdecimal
  split at hdecimal <;>
    simp [String.toList_append, hnone] at hdecimal

/-! ## Reading back what was written -/

/-- The unit behind a number is taken off. -/
theorem replaceText_min (n : ℕ) : replaceText (toString n ++ "min") "min" "" = toString n := by
  have hm : 'm' ∉ (toString n).toList := by
    rw [toList_toString]
    exact not_mem_toDigits rfl n
  unfold replaceText
  rw [String.toList_append]
  show String.ofList (replaceChars ('m' :: ['i', 'n']) [] 0 ((toString n).toList ++ _)) = _
  rw [replaceChars_append hm]
  show String.ofList ((toString n).toList ++ []) = _
  rw [List.append_nil, String.ofList_toList]

theorem h_not_mem_toString (n : ℕ) : 'h' ∉ (toString n).toList := by
  rw [toList_toString]
  exact not_mem_toDigits rfl n

theorem intOrZero_toString (n : ℕ) : intOrZero (toString n).toList = .ok (n : ℤ) := by
  unfold intOrZero
  rw [if_neg (by simp), String.ofList_toList, intOfText_toString]

theorem textIn_h {text : String} : textIn "h" text = true ↔ 'h' ∈ text.toList :=
  textIn_singleton (c := 'h')

/-- A text with an `h` is read in two parts. -/
theorem parseTimeString_of_h {text : String} {n : ℕ} {rest : List Char} {minutes : ℤ}
    (htext : text.toList = (toString n).toList ++ 'h' :: rest) (hrest : 'h' ∉ rest)
    (hminutes : intOrZero (replaceText (String.ofList rest) "min" "").toList = .ok minutes) :
    parseTimeString text = .ok ((n : ℤ) * 60 + minutes) := by
  have hmem : 'h' ∈ text.toList := by
    rw [htext]
    simp
  have hmeans : ¬ (text = "" || text = "0min") = true := by
    intro hnone
    rw [Bool.or_eq_true, decide_eq_true_iff, decide_eq_true_iff] at hnone
    obtain rfl | rfl := hnone <;> simp at hmem
  unfold parseTimeString
  rw [if_neg hmeans, if_pos (textIn_h.mpr hmem), htext,
    List.splitOn_append_cons_self_of_not_mem (h_not_mem_toString n),
    List.splitOn_eq_singleton hrest]
  dsimp only
  rw [intOrZero_toString, hminutes]
  rfl

/-- A text of minutes alone. -/
theorem parseTimeString_minutes (n : ℕ) : parseTimeString (toString n ++ "min") = .ok (n : ℤ) := by
  by_cases hnone : toString n ++ "min" = "0min"
  · have hzero : n = 0 := by
      have hlist := congrArg String.toList hnone
      rw [String.toList_append, toList_toString] at hlist
      have hdigits : Nat.toDigits 10 n = Nat.toDigits 10 0 :=
        List.append_cancel_right (hlist.trans (by decide : _ = Nat.toDigits 10 0 ++ "min".toList))
      have hread := congrArg numberOf hdigits
      rw [numberOf_toDigits, numberOf_toDigits] at hread
      exact Option.some.inj hread
    subst hzero
    rfl
  · have hempty : toString n ++ "min" ≠ "" := by
      intro hempty
      have hlist := congrArg String.toList hempty
      rw [String.toList_append] at hlist
      simp at hlist
    have hh : ¬ textIn "h" (toString n ++ "min") = true := by
      rw [textIn_h, String.toList_append, List.mem_append]
      rintro (hdigit | hunit)
      · exact h_not_mem_toString n hdigit
      · exact absurd hunit (by decide)
    have hmin : textIn "min" (toString n ++ "min") = true := by
      rw [textIn_iff, String.toList_append]
      exact (List.suffix_append _ _).isInfix
    have hmeans : ¬ (toString n ++ "min" = "" || toString n ++ "min" = "0min") = true := by
      rw [Bool.or_eq_true, decide_eq_true_iff, decide_eq_true_iff]
      exact not_or.mpr ⟨hempty, hnone⟩
    unfold parseTimeString
    rw [if_neg hmeans, if_neg hh, if_pos hmin, replaceText_min, intOfText_toString]

/-- A text of hours alone. -/
theorem parseTimeString_hours (n : ℕ) :
    parseTimeString (toString n ++ "h") = .ok ((n : ℤ) * 60) := by
  have hread := @parseTimeString_of_h (toString n ++ "h") n [] 0 (by simp) (by simp) rfl
  rw [hread, add_zero]

/-- A text of hours and minutes. -/
theorem parseTimeString_hours_minutes (n m : ℕ) :
    parseTimeString (toString n ++ "h" ++ toString m ++ "min") = .ok ((n : ℤ) * 60 + m) := by
  have hrest : 'h' ∉ (toString m ++ "min").toList := by
    rw [String.toList_append, List.mem_append]
    rintro (hdigit | hunit)
    · exact h_not_mem_toString m hdigit
    · exact absurd hunit (by decide)
  apply parseTimeString_of_h _ hrest
  · rw [String.ofList_toList, replaceText_min, intOrZero_toString]
  · simp

/-! ## Free times without their `h` -/

/-- The only `h` of a text is taken out. -/
theorem replaceText_h {before after : String} (hbefore : 'h' ∉ before.toList)
    (hafter : 'h' ∉ after.toList) :
    replaceText (before ++ "h" ++ after) "h" "" = before ++ after := by
  have hrest := @replaceChars_append 'h' [] [] after.toList hafter []
  rw [List.append_nil, replaceChars, List.append_nil] at hrest
  unfold replaceText
  rw [String.toList_append, String.toList_append, List.append_assoc]
  show String.ofList (replaceChars ['h'] [] 0 (before.toList ++ _)) = _
  rw [replaceChars_append hbefore]
  show String.ofList (_ ++ replaceChars ['h'] [] 0 after.toList) = _
  rw [hrest, ← String.toList_append, String.ofList_toList]

/-- Only a free time of whole hours is a number without its `h`. -/
theorem wholeNumber?_freeTimeText (freeHours : ℚ) :
    wholeNumber? (replaceText (freeTimeText freeHours) "h" "").toList =
      if 0 < Int.fract freeHours then none else some ⌊freeHours⌋ := by
  unfold freeTimeText
  dsimp only
  split_ifs with hmore
  · have hminutes : 'h' ∉ (toString (truncated (Int.fract freeHours * 60)) ++ "min").toList := by
      rw [String.toList_append, List.mem_append, not_or]
      exact ⟨not_mem_toString rfl (by decide) _, by decide⟩
    rw [String.append_assoc, replaceText_h (not_mem_toString rfl (by decide) _) hminutes]
    apply wholeNumber?_eq_none_of_mem (c := 'm') rfl (by decide) (by decide)
    rw [String.toList_append, String.toList_append]
    simp
  · have hwhole : Int.fract freeHours = 0 := le_antisymm (not_lt.mp hmore) (Int.fract_nonneg _)
    obtain ⟨hours, rfl⟩ := Int.fract_eq_zero_iff.mp hwhole
    have hcut : truncated (hours : ℚ) = hours := by
      unfold truncated
      split_ifs <;> simp
    have hread := @replaceText_h (toString hours) "" (not_mem_toString rfl (by decide) hours)
      (by decide)
    rw [String.append_empty, String.append_empty] at hread
    rw [hcut, hread, wholeNumber?_toString, Int.floor_intCast]

/-! ## What is written is read back -/

/-- The texts of durations, and the minutes that they stand for. -/
inductive SpellsMinutes : String → ℕ → Prop
  | minutes (n : ℕ) : SpellsMinutes (toString n ++ "min") n
  | hours (n : ℕ) : SpellsMinutes (toString n ++ "h") (n * 60)
  | hoursAndMinutes (n m : ℕ) :
      SpellsMinutes (toString n ++ "h" ++ toString m ++ "min") (n * 60 + m)

/-- The reader knows all of them. -/
theorem SpellsMinutes.parseTimeString {text : String} {minutes : ℕ}
    (hspells : SpellsMinutes text minutes) : parseTimeString text = .ok (minutes : ℤ) := by
  cases hspells with
  | minutes => exact parseTimeString_minutes minutes
  | hours n =>
      rw [parseTimeString_hours]
      rfl
  | hoursAndMinutes n m =>
      rw [parseTimeString_hours_minutes]
      rfl

/-- The writer writes one of them, for the whole minutes. -/
theorem spellsMinutes_minutesText {minutes : ℚ} (hminutes : 0 ≤ minutes) :
    SpellsMinutes (minutesText minutes) ⌊minutes⌋₊ := by
  have htext : ∀ {number : ℚ}, 0 ≤ number → toString ⌊number⌋ = toString ⌊number⌋₊ := by
    intro number hnumber
    rw [← Int.natCast_floor_eq_floor hnumber]
    rfl
  have hhours : (0 : ℚ) ≤ minutes / 60 := by positivity
  have hrest : (0 : ℚ) ≤ minutes - ⌊minutes / 60⌋ * 60 := by
    have hfloor := Int.floor_le (minutes / 60)
    linarith
  have hsplit : ⌊minutes⌋₊ = ⌊minutes / 60⌋₊ * 60 + ⌊minutes - ⌊minutes / 60⌋ * 60⌋₊ := by
    have hsum : minutes = ((⌊minutes / 60⌋ * 60 : ℤ) : ℚ) + (minutes - ⌊minutes / 60⌋ * 60) := by
      push_cast
      ring
    have hwhole : ⌊minutes⌋ = ⌊minutes / 60⌋ * 60 + ⌊minutes - ⌊minutes / 60⌋ * 60⌋ := by
      conv_lhs => rw [hsum, Int.floor_intCast_add]
    rw [← Int.natCast_floor_eq_floor hminutes, ← Int.natCast_floor_eq_floor hrest,
      ← Int.natCast_floor_eq_floor hhours] at hwhole
    rw [← Int.natCast_floor_eq_floor hhours]
    exact_mod_cast hwhole
  unfold minutesText
  by_cases hshort : minutes < 60
  · rw [if_pos hshort, truncated_of_nonneg hminutes, htext hminutes]
    exact .minutes _
  · rw [if_neg hshort]
    by_cases hmore : 0 < minutes - ⌊minutes / 60⌋ * 60
    · rw [if_pos hmore, truncated_of_nonneg hrest, htext hhours, htext hrest, hsplit]
      exact .hoursAndMinutes _ _
    · have hzero : minutes - ⌊minutes / 60⌋ * 60 = 0 := le_antisymm (not_lt.mp hmore) hrest
      rw [if_neg hmore, htext hhours, hsplit, hzero, Nat.floor_zero, add_zero]
      exact .hours _

/-- What is read back is the whole minutes. -/
theorem parseTimeString_minutesText {minutes : ℚ} (hminutes : 0 ≤ minutes) :
    parseTimeString (minutesText minutes) = .ok ⌊minutes⌋ := by
  rw [(spellsMinutes_minutesText hminutes).parseTimeString,
    Int.natCast_floor_eq_floor hminutes]

/-- A day and an hour and half a minute, of which the half is lost. -/
theorem parseTimeString_minutesText_dayAndHour :
    parseTimeString (minutesText (3001 / 2)) = .ok ⌊(3001 / 2 : ℚ)⌋ :=
  parseTimeString_minutesText (by norm_num)

end Goveling.Api
