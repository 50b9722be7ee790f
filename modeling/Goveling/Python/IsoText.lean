/-
# Dates as texts

`datetime.fromisoformat` reads a day, and after a separator of any kind a time
with an offset. Of the texts it takes, the ones modelled are those that every
version of it takes. Only the day is kept.
-/

import Goveling.Python.Calendar

namespace Goveling.Python

open Goveling.Math

/-! ## The grammar -/

/-- Two digits of a number below a bound. -/
def isPairBelow (bound : ℕ) (first second : Char) : Bool :=
  match digitOf first, digitOf second with
  | some a, some b => 10 * a + b < bound
  | _, _ => false

/-- What may follow the seconds: milliseconds or microseconds. -/
def isAfterSeconds : List Char → Bool
  | [] => true
  | point :: decimals =>
      point = '.' && (decimals.length = 3 || decimals.length = 6) && decimals.all Char.isDigit

/-- What may follow the minutes. -/
def isAfterMinutes : List Char → Bool
  | [] => true
  | colon :: first :: second :: rest =>
      colon = ':' && isPairBelow 60 first second && isAfterSeconds rest
  | _ => false

/-- What may follow the hours. -/
def isAfterHours : List Char → Bool
  | [] => true
  | colon :: first :: second :: rest =>
      colon = ':' && isPairBelow 60 first second && isAfterMinutes rest
  | _ => false

/-- A time `HH[:MM[:SS[.fff[fff]]]]`. -/
def isClock : List Char → Bool
  | first :: second :: rest => isPairBelow 24 first second && isAfterHours rest
  | _ => false

/-- A time with or without an offset, which has minutes at least. -/
def isIsoTime (text : List Char) : Bool :=
  isClock (text.takeWhile fun c => c ≠ '+' && c ≠ '-') &&
    match text.dropWhile fun c => c ≠ '+' && c ≠ '-' with
    | [] => true
    | _ :: offset => 5 ≤ offset.length && isClock offset

/-- The date with these numbers, if the calendar has it. -/
def Date.ofNumbers? (year month day : ℕ) : Option Date :=
  if h : (1 ≤ year ∧ year ≤ 9999) ∧ (1 ≤ month ∧ month ≤ 12) ∧
      1 ≤ day ∧ day ≤ daysInMonth year month then
    some ⟨year, month, day, h.1.1, h.1.2, h.2.1.1, h.2.1.2, h.2.2.1, h.2.2.2⟩
  else none

/-- The date of a text `YYYY-MM-DD`. -/
def isoDate? (text : List Char) : Option Date :=
  if (text.drop 4).take 1 = ['-'] ∧ (text.drop 7).take 1 = ['-'] ∧ text.length = 10 then do
    let year ← numberOf (text.take 4)
    let month ← numberOf ((text.drop 5).take 2)
    let day ← numberOf (text.drop 8)
    Date.ofNumbers? year month day
  else none

/-- `datetime.fromisoformat(text).date()`. -/
def fromisoformat (text : String) : Except PyError Date :=
  let invalid := .error (.valueError ("Invalid isoformat string: '" ++ text ++ "'"))
  match isoDate? (text.toList.take 10), text.toList.drop 10 with
  | some date, [] => .ok date
  | some date, _ :: time => if isIsoTime time then .ok date else invalid
  | none, _ => invalid

/-! ## Texts of the grammar -/

/-- A day with or without a time, and with or without a `Z`. -/
structure IsoText where
  day : Date
  time : Option ({separator : Char // separator ≠ 'Z'} ×
    {clock : List Char // isClock clock = true})
  zulu : Bool

/-- The separator and the time. -/
def IsoText.timePart (text : IsoText) : List Char :=
  match text.time with
  | some (separator, clock) => separator.1 :: clock.1
  | none => []

/-- The text itself. -/
def IsoText.render (text : IsoText) : String :=
  String.ofList (text.day.isoformat.toList ++ (text.timePart ++ if text.zulu then ['Z'] else []))

/-! ## Reading dates back -/

theorem Date.ofNumbers?_self (date : Date) :
    Date.ofNumbers? date.year date.month date.day = some date :=
  dif_pos ⟨⟨date.year_pos, date.year_le⟩, ⟨date.month_pos, date.month_le⟩, date.day_pos,
    date.day_le⟩

theorem length_isoformat (date : Date) : date.isoformat.toList.length = 10 := by
  rw [date.toList_isoformat]
  simp

/-- A date is read back from its text. -/
theorem isoDate?_isoformat (date : Date) : isoDate? date.isoformat.toList = some date := by
  have hyear := date.year_le
  have hmonth := date.month_le
  have hday := date.day_le.trans (daysInMonth_le date.year date.month)
  have hlength := length_isoformat date
  have hyears := numberOf_paddedDigits (by decide : 0 < 4) (by omega : date.year < 10 ^ 4)
  have hmonths := numberOf_paddedDigits (by decide : 0 < 2) (by omega : date.month < 10 ^ 2)
  have hdays := numberOf_paddedDigits (by decide : 0 < 2) (by omega : date.day < 10 ^ 2)
  unfold isoDate?
  rw [date.toList_isoformat] at hlength ⊢
  -- the numbers stand at fixed positions, four and seven characters after the start
  generalize hyearDigits : paddedDigits 4 date.year = years at hlength hyears ⊢
  generalize hmonthDigits : paddedDigits 2 date.month = months at hlength hmonths ⊢
  generalize hdayDigits : paddedDigits 2 date.day = days at hlength hdays ⊢
  have hyearLength : years.length = 4 := hyearDigits ▸ length_paddedDigits 4 date.year
  have hmonthLength : months.length = 2 := hmonthDigits ▸ length_paddedDigits 2 date.month
  obtain ⟨y₁, y₂, y₃, y₄, rfl⟩ := List.length_eq_four.mp hyearLength
  obtain ⟨m₁, m₂, rfl⟩ := List.length_eq_two.mp hmonthLength
  rw [if_pos ⟨rfl, rfl, hlength⟩]
  show (do
    let year ← numberOf [y₁, y₂, y₃, y₄]
    let month ← numberOf [m₁, m₂]
    let day ← numberOf days
    Date.ofNumbers? year month day) = some date
  rw [hyears, hmonths, hdays]
  exact date.ofNumbers?_self

theorem Date.isoformat_injective : Function.Injective Date.isoformat := by
  intro first second hsame
  have hread := isoDate?_isoformat first
  rw [hsame, isoDate?_isoformat] at hread
  exact (Option.some.inj hread).symm

/-! ## Reading times -/

/-- The characters of a time without an offset. -/
def isClockChar (c : Char) : Bool := c.isDigit || c = ':' || c = '.'

theorem isClockChar_of_isPairBelow {bound : ℕ} {first second : Char}
    (hpair : isPairBelow bound first second = true) :
    isClockChar first = true ∧ isClockChar second = true := by
  have hdigit : ∀ c, (digitOf c).isSome = true → isClockChar c = true := by
    intro c hc
    unfold digitOf at hc
    split at hc
    · rename_i hdigit
      simp [isClockChar, hdigit]
    · cases hc
  unfold isPairBelow at hpair
  split at hpair
  · rename_i a b ha hb
    exact ⟨hdigit first (ha ▸ rfl), hdigit second (hb ▸ rfl)⟩
  · cases hpair

theorem all_isClockChar_afterSeconds {text : List Char} (htext : isAfterSeconds text = true) :
    text.all isClockChar = true := by
  cases text with
  | nil => rfl
  | cons point decimals =>
      unfold isAfterSeconds at htext
      rw [Bool.and_eq_true, Bool.and_eq_true, decide_eq_true_eq] at htext
      obtain ⟨⟨rfl, -⟩, hdigits⟩ := htext
      rw [List.all_cons, Bool.and_eq_true, List.all_eq_true]
      refine ⟨rfl, ?_⟩
      intro c hc
      have hdigit := List.all_eq_true.mp hdigits c hc
      simp [isClockChar, hdigit]

/-- A colon, two digits and something else that is made of the characters of a time. -/
theorem all_isClockChar_pair {colon first second : Char} {rest : List Char} {after : Bool}
    (hafter : after = true → rest.all isClockChar = true)
    (htext : (colon = ':' && isPairBelow 60 first second && after) = true) :
    (colon :: first :: second :: rest).all isClockChar = true := by
  rw [Bool.and_eq_true, Bool.and_eq_true, decide_eq_true_eq] at htext
  obtain ⟨⟨rfl, hpair⟩, hrest⟩ := htext
  obtain ⟨hfirst, hsecond⟩ := isClockChar_of_isPairBelow hpair
  rw [List.all_cons, List.all_cons, List.all_cons, hfirst, hsecond, hafter hrest]
  rfl

theorem all_isClockChar_afterMinutes {text : List Char} (htext : isAfterMinutes text = true) :
    text.all isClockChar = true := by
  unfold isAfterMinutes at htext
  split at htext
  · rfl
  · exact all_isClockChar_pair all_isClockChar_afterSeconds htext
  · cases htext

theorem all_isClockChar_afterHours {text : List Char} (htext : isAfterHours text = true) :
    text.all isClockChar = true := by
  unfold isAfterHours at htext
  split at htext
  · rfl
  · exact all_isClockChar_pair all_isClockChar_afterMinutes htext
  · cases htext

theorem all_isClockChar_clock {text : List Char} (htext : isClock text = true) :
    text.all isClockChar = true := by
  unfold isClock at htext
  split at htext
  · rw [Bool.and_eq_true] at htext
    obtain ⟨hfirst, hsecond⟩ := isClockChar_of_isPairBelow htext.1
    rw [List.all_cons, List.all_cons, hfirst, hsecond, all_isClockChar_afterHours htext.2]
    rfl
  · cases htext

/-- A time is an ISO time, and so is one with the offset of Greenwich. -/
theorem isIsoTime_clock {clock : List Char} (hclock : isClock clock = true) :
    isIsoTime clock = true ∧ isIsoTime (clock ++ "+00:00".toList) = true := by
  have hunsigned : ∀ c ∈ clock, (decide (c ≠ '+') && decide (c ≠ '-')) = true := by
    intro c hc
    have hchar := List.all_eq_true.mp (all_isClockChar_clock hclock) c hc
    rw [Bool.and_eq_true, decide_eq_true_eq, decide_eq_true_eq]
    constructor
    · rintro rfl
      exact absurd hchar (by decide)
    · rintro rfl
      exact absurd hchar (by decide)
  unfold isIsoTime
  constructor
  · have htaken : (clock ++ []).takeWhile (fun c => c ≠ '+' && c ≠ '-') = clock ++ [] :=
      List.takeWhile_append_of_pos hunsigned
    have hdropped : (clock ++ []).dropWhile (fun c => c ≠ '+' && c ≠ '-') = [] :=
      List.dropWhile_append_of_pos hunsigned
    rw [List.append_nil] at htaken hdropped
    rw [htaken, hdropped, hclock]
    rfl
  · rw [List.takeWhile_append_of_pos hunsigned, List.dropWhile_append_of_pos hunsigned]
    have hzone : ("+00:00".toList.takeWhile fun c => c ≠ '+' && c ≠ '-') = [] := by decide
    rw [hzone, List.append_nil, hclock]
    decide

/-! ## Reading texts back -/

theorem Z_not_mem_isoformat (date : Date) : 'Z' ∉ date.isoformat.toList := by
  have hpart := fun width n => not_mem_zeroPadded (by decide : 'Z'.isDigit = false) width n
  have hdash : 'Z' ∉ "-".toList := by decide
  unfold Date.isoformat
  simp only [String.toList_append, List.mem_append, hpart, hdash, or_self, not_false_iff]

theorem Z_not_mem_timePart (text : IsoText) : 'Z' ∉ text.timePart := by
  unfold IsoText.timePart
  cases text.time with
  | none => exact List.not_mem_nil
  | some time =>
      obtain ⟨⟨separator, hseparator⟩, ⟨clock, hclock⟩⟩ := time
      rw [List.mem_cons, not_or]
      refine ⟨fun heq => hseparator heq.symm, fun hmem => ?_⟩
      exact absurd (List.all_eq_true.mp (all_isClockChar_clock hclock) 'Z' hmem) (by decide)

/-- The `Z` of a text is replaced, and nothing else. -/
theorem toList_replaceText_render (text : IsoText) :
    (replaceText text.render "Z" "+00:00").toList =
      text.day.isoformat.toList ++
        (text.timePart ++ if text.zulu then "+00:00".toList else []) := by
  have hrender : text.render.toList = text.day.isoformat.toList ++
      (text.timePart ++ if text.zulu then ['Z'] else []) := String.toList_ofList
  have hpart : "Z".toList = 'Z' :: [] := rfl
  unfold replaceText
  rw [String.toList_ofList, hrender, hpart, replaceChars_append (Z_not_mem_isoformat text.day),
    replaceChars_append (Z_not_mem_timePart text)]
  cases text.zulu <;> rfl

/-- A text is read as its day, whatever its time is. -/
theorem fromisoformat_render (text : IsoText) :
    fromisoformat (replaceText text.render "Z" "+00:00") = .ok text.day := by
  have hten := length_isoformat text.day
  unfold fromisoformat
  rw [toList_replaceText_render, List.take_left' hten, List.drop_left' hten,
    isoDate?_isoformat]
  unfold IsoText.timePart
  cases htime : text.time with
  | none => cases text.zulu <;> rfl
  | some time =>
      obtain ⟨⟨separator, -⟩, ⟨clock, hclock⟩⟩ := time
      obtain ⟨hlocal, hzone⟩ := isIsoTime_clock hclock
      cases text.zulu with
      | false =>
          dsimp only [List.cons_append]
          rw [if_neg Bool.false_ne_true, List.append_nil, if_pos hlocal]
      | true =>
          dsimp only [List.cons_append]
          rw [if_pos rfl, if_pos hzone]

end Goveling.Python
