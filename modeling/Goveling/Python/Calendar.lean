/-
# Dates

Days of the proleptic Gregorian calendar, from the first day of the year 1 to the
last one of the year 9999. The text of a date grows with the date, so sorting the
texts of the days of a trip changes nothing.
-/

import Goveling.Python.Text
import Mathlib.Data.String.Basic
import Mathlib.Tactic.NormNum

namespace Goveling.Python

open Goveling.Math

/-- A leap year. -/
def isLeap (year : ℕ) : Bool := year % 4 = 0 && (year % 100 ≠ 0 || year % 400 = 0)

/-- The number of days of a month. -/
def daysInMonth (year month : ℕ) : ℕ :=
  if month = 2 then if isLeap year then 29 else 28
  else if month = 4 || month = 6 || month = 9 || month = 11 then 30 else 31

/-- A date of the calendar. -/
structure Date where
  year : ℕ
  month : ℕ
  day : ℕ
  year_pos : 1 ≤ year
  year_le : year ≤ 9999
  month_pos : 1 ≤ month
  month_le : month ≤ 12
  day_pos : 1 ≤ day
  day_le : day ≤ daysInMonth year month
  deriving DecidableEq, Repr

theorem one_le_daysInMonth (year month : ℕ) : 1 ≤ daysInMonth year month := by
  unfold daysInMonth
  split_ifs <;> omega

theorem daysInMonth_le (year month : ℕ) : daysInMonth year month ≤ 31 := by
  unfold daysInMonth
  split_ifs <;> omega

namespace Date

/-- The first day of a month. -/
def firstOfMonth (year month : ℕ) (hyear : 1 ≤ year ∧ year ≤ 9999)
    (hmonth : 1 ≤ month ∧ month ≤ 12) : Date :=
  ⟨year, month, 1, hyear.1, hyear.2, hmonth.1, hmonth.2, le_rfl, one_le_daysInMonth year month⟩

/-- The day after a date, if the calendar has one. -/
def next? (date : Date) : Option Date :=
  if hday : date.day < daysInMonth date.year date.month then
    some { date with
      day := date.day + 1
      day_pos := Nat.le_add_left 1 date.day
      day_le := hday }
  else if hmonth : date.month < 12 then
    some (firstOfMonth date.year (date.month + 1) ⟨date.year_pos, date.year_le⟩
      ⟨Nat.le_add_left 1 date.month, hmonth⟩)
  else if hyear : date.year < 9999 then
    some (firstOfMonth (date.year + 1) 1 ⟨Nat.le_add_left 1 date.year, hyear⟩ ⟨le_rfl, by decide⟩)
  else none

/-- `date + timedelta(days=1)`. -/
def tomorrow (date : Date) : Except PyError Date :=
  match date.next? with
  | some next => .ok next
  | none => .error (.exception "date value out of range")

/-- `date + timedelta(days=count)`. -/
def plusDays : Date → ℕ → Except PyError Date
  | date, 0 => .ok date
  | date, count + 1 => do plusDays (← date.tomorrow) count

/-! ## Counting days -/

/-- The days of the years before a year. -/
def daysBeforeYear (year : ℕ) : ℕ :=
  (year - 1) * 365 + (year - 1) / 4 - (year - 1) / 100 + (year - 1) / 400

/-- The days of a year before a month. -/
def daysBeforeMonth (year month : ℕ) : ℕ :=
  ((List.range (month - 1)).map fun before => daysInMonth year (before + 1)).sum

/-- `date.toordinal()`: the first day of the year 1 is the day 1. -/
def toordinal (date : Date) : ℕ :=
  daysBeforeYear date.year + daysBeforeMonth date.year date.month + date.day

/-- `(last - first).days`. -/
def daysUntil (first last : Date) : ℤ := (last.toordinal : ℤ) - first.toordinal

theorem daysBeforeMonth_succ (year : ℕ) {month : ℕ} (hmonth : 1 ≤ month) :
    daysBeforeMonth year (month + 1) = daysBeforeMonth year month + daysInMonth year month := by
  obtain ⟨before, rfl⟩ := Nat.exists_eq_add_of_le' hmonth
  simp [daysBeforeMonth, List.range_succ]

/-- The months of a year make up the year. -/
theorem daysBeforeMonth_december (year : ℕ) :
    daysBeforeMonth year 12 + 31 = if isLeap year then 366 else 365 := by
  cases hleap : isLeap year <;>
    simp [daysBeforeMonth, daysInMonth, hleap, List.range_succ]

theorem isLeap_iff (year : ℕ) : isLeap year = true ↔ 4 ∣ year ∧ (100 ∣ year → 400 ∣ year) := by
  simp only [isLeap, Bool.and_eq_true, Bool.or_eq_true, decide_eq_true_eq]
  omega

/-- A year is as long as its months. The three divisors of the calendar divide one
another, which leaves four cases. -/
theorem daysBeforeYear_succ {year : ℕ} (hyear : 1 ≤ year) :
    daysBeforeYear (year + 1) = daysBeforeYear year + if isLeap year then 366 else 365 := by
  obtain ⟨before, rfl⟩ := Nat.exists_eq_add_of_le' hyear
  have hfew : before / 100 ≤ before / 4 := Nat.div_le_div_left (by decide) (by decide)
  have h400 : 400 ∣ before + 1 → 100 ∣ before + 1 := (by decide : 100 ∣ 400).trans
  have h100 : 100 ∣ before + 1 → 4 ∣ before + 1 := (by decide : 4 ∣ 100).trans
  simp only [daysBeforeYear, isLeap_iff, Nat.add_sub_cancel, Nat.succ_div]
  generalize before / 4 = fours at *
  generalize before / 100 = hundreds at *
  generalize before / 400 = fourHundreds at *
  by_cases hfour : 4 ∣ before + 1
  · by_cases hhundred : 100 ∣ before + 1
    · by_cases hfourHundred : 400 ∣ before + 1
      · simp only [hfour, hhundred, hfourHundred, if_true, true_and, forall_const]
        omega
      · simp only [hfour, hhundred, hfourHundred, if_true, if_false, true_and, forall_const]
        omega
    · have hfourHundred : ¬ 400 ∣ before + 1 := fun h => hhundred (h400 h)
      simp only [hfour, hhundred, hfourHundred, if_true, if_false, true_and, false_imp_iff]
      omega
  · have hhundred : ¬ 100 ∣ before + 1 := fun h => hfour (h100 h)
    have hfourHundred : ¬ 400 ∣ before + 1 := fun h => hhundred (h400 h)
    simp only [hfour, hhundred, hfourHundred, if_false, false_and]
    omega

/-- What the day after a date is: the next day of the month, the first day of the
next month, or the first day of the next year. -/
theorem next?_cases {date next : Date} (hnext : date.next? = some next) :
    (next.year = date.year ∧ next.month = date.month ∧ next.day = date.day + 1) ∨
      (date.day = daysInMonth date.year date.month ∧ next.day = 1 ∧
        ((next.year = date.year ∧ next.month = date.month + 1) ∨
          (date.month = 12 ∧ next.year = date.year + 1 ∧ next.month = 1))) := by
  unfold next? at hnext
  split_ifs at hnext with hday hmonth hyear
  · cases hnext
    exact Or.inl ⟨rfl, rfl, rfl⟩
  · cases hnext
    exact Or.inr ⟨le_antisymm date.day_le (not_lt.mp hday), rfl, Or.inl ⟨rfl, rfl⟩⟩
  · cases hnext
    exact Or.inr ⟨le_antisymm date.day_le (not_lt.mp hday), rfl,
      Or.inr ⟨le_antisymm date.month_le (not_lt.mp hmonth), rfl, rfl⟩⟩

/-- The day after a date is one day later. -/
theorem toordinal_next {date next : Date} (hnext : date.next? = some next) :
    next.toordinal = date.toordinal + 1 := by
  unfold toordinal
  obtain ⟨hyear, hmonth, hday⟩ | ⟨hlast, hday, ⟨hyear, hmonth⟩ | ⟨hdecember, hyear, hmonth⟩⟩ :=
    next?_cases hnext
  · rw [hyear, hmonth, hday]
    omega
  · rw [hyear, hmonth, hday, daysBeforeMonth_succ _ date.month_pos, hlast]
    omega
  · have hmonths := daysBeforeMonth_december date.year
    have hjanuary : daysBeforeMonth (date.year + 1) 1 = 0 := rfl
    have hdays : daysInMonth date.year 12 = 31 := rfl
    rw [hyear, hmonth, hday, hjanuary, daysBeforeYear_succ date.year_pos, hlast, hdecember, hdays]
    omega

/-- Only the last day of the calendar has no day after it. -/
theorem toordinal_of_next?_eq_none {date : Date} (hnext : date.next? = none) :
    date.toordinal = 3652059 := by
  unfold next? at hnext
  split_ifs at hnext with hday hmonth hyear
  have hyear' : date.year = 9999 := le_antisymm date.year_le (not_lt.mp hyear)
  have hmonth' : date.month = 12 := le_antisymm date.month_le (not_lt.mp hmonth)
  have hday' : date.day = daysInMonth date.year date.month :=
    le_antisymm date.day_le (not_lt.mp hday)
  unfold toordinal
  rw [hday', hmonth', hyear']
  rfl

/-- A month does not begin before an earlier one of its year. -/
theorem daysBeforeMonth_mono (year : ℕ) {first second : ℕ} (hfirst : 1 ≤ first)
    (hle : first ≤ second) : daysBeforeMonth year first ≤ daysBeforeMonth year second := by
  induction second, hle using Nat.le_induction with
  | base => exact le_rfl
  | succ month hmonth ih =>
      rw [daysBeforeMonth_succ year (hfirst.trans hmonth)]
      exact ih.trans (Nat.le_add_right _ _)

theorem daysBeforeYear_mono {first second : ℕ} (hfirst : 1 ≤ first) (hle : first ≤ second) :
    daysBeforeYear first ≤ daysBeforeYear second := by
  induction second, hle using Nat.le_induction with
  | base => exact le_rfl
  | succ year hyear ih =>
      rw [daysBeforeYear_succ (hfirst.trans hyear)]
      exact ih.trans (Nat.le_add_right _ _)

/-- The calendar ends with the year 9999. -/
theorem toordinal_le (date : Date) : date.toordinal ≤ 3652059 := by
  have hmonths : daysBeforeMonth date.year (date.month + 1) ≤ daysBeforeMonth date.year 13 :=
    daysBeforeMonth_mono _ (Nat.le_add_left 1 _) (Nat.succ_le_succ date.month_le)
  have hdays : daysInMonth date.year 12 = 31 := rfl
  rw [daysBeforeMonth_succ _ date.month_pos, daysBeforeMonth_succ _ (by decide), hdays,
    daysBeforeMonth_december] at hmonths
  have hyears : daysBeforeYear (date.year + 1) ≤ daysBeforeYear 10000 :=
    daysBeforeYear_mono (Nat.le_add_left 1 _) (Nat.succ_le_succ date.year_le)
  rw [daysBeforeYear_succ date.year_pos] at hyears
  have hend : daysBeforeYear 10000 = 3652059 := rfl
  have hday := date.day_le
  unfold toordinal
  omega

/-! ## The text of a date -/

/-- `date.strftime('%Y-%m-%d')`. -/
def isoformat (date : Date) : String :=
  zeroPadded 4 date.year ++ "-" ++ zeroPadded 2 date.month ++ "-" ++ zeroPadded 2 date.day

theorem toList_isoformat (date : Date) :
    date.isoformat.toList = paddedDigits 4 date.year ++ ("-".toList ++
      (paddedDigits 2 date.month ++ ("-".toList ++ paddedDigits 2 date.day))) := by
  have hyear := date.year_le
  have hmonth := date.month_le
  have hday := date.day_le.trans (daysInMonth_le date.year date.month)
  simp only [isoformat, String.toList_append, List.append_assoc]
  rw [toList_zeroPadded (by decide) (by omega), toList_zeroPadded (by decide) (by omega),
    toList_zeroPadded (by decide) (by omega)]

/-- The texts of dates are ordered by the year, then by the month, then by the day. -/
theorem isoformat_lt {first second : Date}
    (hlt : first.year < second.year ∨ (first.year = second.year ∧ (first.month < second.month ∨
      (first.month = second.month ∧ first.day < second.day)))) :
    first.isoformat < second.isoformat := by
  have hyear := second.year_le
  have hmonth := second.month_le
  have hday := second.day_le.trans (daysInMonth_le second.year second.month)
  rw [String.lt_iff_toList_lt, toList_isoformat, toList_isoformat]
  obtain hyears | ⟨hyears, hmonths | ⟨hmonths, hdays⟩⟩ := hlt
  · apply lex_append_of_lex (lex_paddedDigits hyears (by omega))
    simp
  · rw [hyears]
    apply List.Lex.append_left
    apply List.Lex.append_left
    apply lex_append_of_lex (lex_paddedDigits hmonths (by omega))
    simp
  · rw [hyears, hmonths]
    apply List.Lex.append_left
    apply List.Lex.append_left
    apply List.Lex.append_left
    apply List.Lex.append_left
    exact lex_paddedDigits hdays (by omega)

/-- The text of the day after a date comes later. -/
theorem isoformat_lt_next {date next : Date} (hnext : date.next? = some next) :
    date.isoformat < next.isoformat := by
  apply isoformat_lt
  have hcases := next?_cases hnext
  omega

/-! ## Consecutive dates -/

/-- So many dates from a date on, as far as the calendar goes. -/
def datesFrom : Date → ℕ → List Date
  | _, 0 => []
  | date, count + 1 =>
      date :: match date.next? with
        | some next => datesFrom next count
        | none => []

/-- The dates of a trip. -/
def tripDates (start last : Date) : List Date := datesFrom start (start.daysUntil last + 1).toNat

theorem datesFrom_succ {date next : Date} (hnext : date.next? = some next) (count : ℕ) :
    datesFrom date (count + 1) = date :: datesFrom next count := by
  simp only [datesFrom, hnext]

/-- Every date of a run of dates is later than the date before the run. -/
theorem isoformat_lt_of_mem_datesFrom {date next : Date} (hnext : date.next? = some next)
    {count : ℕ} {later : Date} (hlater : later ∈ datesFrom next count) :
    date.isoformat < later.isoformat := by
  induction count generalizing date next with
  | zero => simp [datesFrom] at hlater
  | succ count ih =>
      cases hafter : next.next? with
      | none =>
          simp only [datesFrom, hafter, List.mem_singleton] at hlater
          rw [hlater]
          exact isoformat_lt_next hnext
      | some after =>
          rw [datesFrom_succ hafter, List.mem_cons] at hlater
          obtain rfl | hrest := hlater
          · exact isoformat_lt_next hnext
          · exact (isoformat_lt_next hnext).trans (ih hafter hrest)

/-- The texts of consecutive dates grow. -/
theorem pairwise_isoformat_datesFrom (date : Date) (count : ℕ) :
    ((datesFrom date count).map isoformat).Pairwise (· < ·) := by
  induction count generalizing date with
  | zero => exact List.Pairwise.nil
  | succ count ih =>
      cases hnext : date.next? with
      | none => simp [datesFrom, hnext]
      | some next =>
          rw [datesFrom_succ hnext, List.map_cons, List.pairwise_cons]
          refine ⟨fun text htext => ?_, ih next⟩
          obtain ⟨later, hlater, rfl⟩ := List.mem_map.mp htext
          exact isoformat_lt_of_mem_datesFrom hnext hlater

/-- As many dates as asked for, unless the calendar ends. -/
theorem length_datesFrom {date : Date} {count : ℕ} (hend : date.toordinal + count ≤ 3652060) :
    (datesFrom date count).length = count := by
  induction count generalizing date with
  | zero => rfl
  | succ count ih =>
      cases hnext : date.next? with
      | none =>
          have hlast := toordinal_of_next?_eq_none hnext
          have hzero : count = 0 := by omega
          simp [datesFrom, hnext, hzero]
      | some next =>
          have hone := toordinal_next hnext
          rw [datesFrom_succ hnext, List.length_cons, ih (by omega)]

/-- A trip has a date for every day. -/
theorem length_tripDates {start last : Date} (hle : start.toordinal ≤ last.toordinal) :
    (tripDates start last).length = (start.daysUntil last + 1).toNat := by
  have hlast := last.toordinal_le
  apply length_datesFrom
  unfold daysUntil
  omega

/-- Counting on from the first of consecutive dates gives the others. -/
theorem plusDays_of_getElem? {date later : Date} {count index : ℕ}
    (hlater : (datesFrom date count)[index]? = some later) : date.plusDays index = .ok later := by
  induction index generalizing date count with
  | zero =>
      cases count with
      | zero => cases hlater
      | succ count =>
          cases hlater
          rfl
  | succ index ih =>
      cases count with
      | zero => cases hlater
      | succ count =>
          cases hnext : date.next? with
          | none => simp [datesFrom, hnext] at hlater
          | some next =>
              rw [datesFrom_succ hnext, List.getElem?_cons_succ] at hlater
              unfold plusDays tomorrow
              rw [hnext]
              exact ih hlater

end Date

end Goveling.Python
