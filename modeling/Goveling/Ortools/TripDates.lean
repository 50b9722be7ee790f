/-
# The dates of a trip

The first and the last day of a trip come as ISO texts, with or without a time
and a `Z`, as `datetime` values or as `date` values. The converter keeps the day
of a text and of a `datetime`. A `date` is neither: it is taken for a missing
date, the first day becomes the current one and the last day the one after the
first.
-/

import Goveling.Ortools.LegacyRequests
import Goveling.Python.IsoText

namespace Goveling.Ortools

open Goveling.Python

/-- A day of a trip in one of the forms that a request gives it in. -/
inductive TripDate
  | iso (text : IsoText)
  | moment (day : Date)
  | plain (day : Date)

namespace TripDate

/-- The day itself. -/
def day : TripDate → Date
  | iso text => text.day
  | moment day => day
  | plain day => day

/-- What the type tests of the converter see: a `date` is neither a text nor a `datetime`. -/
def toLegacy : TripDate → LegacyDate
  | iso text => .text text.render
  | moment day => .moment day
  | plain _ => .other

/-- A `date` value. -/
def IsPlain : TripDate → Prop
  | plain _ => True
  | _ => False

end TripDate

theorem TripDate.IsPlain.eq_plain {date : TripDate} (hplain : date.IsPlain) :
    ∃ day, date = .plain day := by
  cases date with
  | plain day => exact ⟨day, rfl⟩
  | iso text => exact hplain.elim
  | moment day => exact hplain.elim

/-- The clock on a day, with the texts that `fromisoformat` reads. -/
def isoDates (today : Date) : DateEnv where
  today := today
  fromisoformat := fromisoformat

/-- The dates of a trip are converted to the texts of the same days. -/
def KeepsDays (today : Date) (start last : TripDate) : Prop :=
  ∃ warnings, convertDatesToOrtools (isoDates today) start.toLegacy last.toLegacy =
    .ok ((start.day.isoformat, last.day.isoformat), warnings)

/-- The dates of a trip are converted without anything that stands in for them: what stands in
for a date comes with a warning. -/
def ConvertsWithoutFallback (today : Date) (start last : TripDate) : Prop :=
  ∀ dates warnings, convertDatesToOrtools (isoDates today) start.toLegacy last.toLegacy =
    .ok (dates, warnings) → warnings = []

section Dates

variable {today : Date}

theorem parse_render (text : IsoText) : (isoDates today).parse text.render = .ok text.day := by
  rw [DateEnv.parse, isoDates]
  dsimp only
  rw [fromisoformat_render]

theorem startDt_of_not_isPlain {start : TripDate} (hstart : ¬ start.IsPlain) :
    startDt (isoDates today) start.toLegacy = .ok (start.day, []) := by
  cases start with
  | iso text =>
      unfold TripDate.toLegacy startDt
      dsimp only
      rw [parse_render]
      rfl
  | moment day => rfl
  | plain day => exact absurd trivial hstart

theorem endDt_of_not_isPlain {last : TripDate} (hlast : ¬ last.IsPlain) (start : Date) :
    endDt (isoDates today) start last.toLegacy = .ok (last.day, []) := by
  cases last with
  | iso text =>
      unfold TripDate.toLegacy endDt
      dsimp only
      rw [parse_render]
      rfl
  | moment day => rfl
  | plain day => exact absurd trivial hlast

theorem startDt_plain (day : Date) :
    startDt (isoDates today) (TripDate.plain day).toLegacy =
      .ok (today, ["start_date_defaulted_to_now"]) := rfl

theorem endDt_plain (start day : Date) :
    endDt (isoDates today) start (TripDate.plain day).toLegacy =
      start.tomorrow.map fun tomorrow => (tomorrow, ["end_date_defaulted_to_next_day"]) := by
  unfold TripDate.toLegacy endDt
  dsimp only
  cases start.tomorrow <;> rfl

/-- Dates that are texts or `datetime` values are converted as they are. -/
theorem convertDatesToOrtools_of_not_isPlain (today : Date) {start last : TripDate}
    (hstart : ¬ start.IsPlain) (hlast : ¬ last.IsPlain) :
    convertDatesToOrtools (isoDates today) start.toLegacy last.toLegacy =
      .ok ((start.day.isoformat, last.day.isoformat), []) := by
  unfold convertDatesToOrtools
  rw [startDt_of_not_isPlain hstart]
  dsimp only
  rw [endDt_of_not_isPlain hlast]
  rfl

/-- Dates that stand in for others keep the warnings that there were. -/
theorem warnings_of_defaulted {env : DateEnv} {before warnings : List String} {e : PyError}
    {dates : String × String}
    (hdates : convertDatesToOrtools.defaulted env before e = .ok (dates, warnings)) :
    warnings ≠ [] := by
  obtain ⟨tomorrow, -, hparts⟩ := exists_of_bind_eq_ok hdates
  obtain ⟨-, rfl⟩ := Prod.mk.inj (Except.ok.inj hparts)
  simp

/-- A `date` is always warned about. -/
theorem warnings_of_isPlain {start last : TripDate} (hplain : start.IsPlain ∨ last.IsPlain)
    {dates : String × String} {warnings : List String}
    (hdates : convertDatesToOrtools (isoDates today) start.toLegacy last.toLegacy =
      .ok (dates, warnings)) : warnings ≠ [] := by
  unfold convertDatesToOrtools at hdates
  split at hdates
  · exact warnings_of_defaulted hdates
  · rename_i first startWarnings hfirst
    split at hdates
    · exact warnings_of_defaulted hdates
    · rename_i final endWarnings hfinal
      obtain ⟨-, rfl⟩ := Prod.mk.inj (Except.ok.inj hdates)
      rcases hplain with hstart | hlast
      · obtain ⟨day, rfl⟩ := hstart.eq_plain
        cases hfirst.symm.trans (startDt_plain day)
        simp
      · obtain ⟨day, rfl⟩ := hlast.eq_plain
        rw [endDt_plain] at hfinal
        obtain ⟨tomorrow, -, hparts⟩ := exists_of_map_eq_ok hfinal
        cases hparts
        simp

/-- The first date that the converter goes on with. -/
theorem exists_startDt (today : Date) (start : TripDate) :
    ∃ first warnings, startDt (isoDates today) start.toLegacy = .ok (first, warnings) ∧
      (first = start.day ↔ (start.IsPlain → start.day = today)) ∧
      (start.day = today → first = today) := by
  by_cases hstart : start.IsPlain
  · obtain ⟨day, rfl⟩ := hstart.eq_plain
    refine ⟨today, _, startDt_plain day, ?_, fun _ => rfl⟩
    exact ⟨fun hday _ => hday.symm, fun hday => (hday hstart).symm⟩
  · refine ⟨_, _, startDt_of_not_isPlain hstart, ?_, id⟩
    exact iff_of_true rfl fun hplain => absurd hplain hstart

/-- Of two days the converter has the texts, whatever the warnings are. -/
theorem exists_dates_eq_iff {first last start final : Date} (warnings : List String) :
    (∃ others, (.ok ((first.isoformat, last.isoformat), warnings) :
        Except PyError ((String × String) × List String)) =
      .ok ((start.isoformat, final.isoformat), others)) ↔ first = start ∧ last = final := by
  constructor
  · rintro ⟨others, hsame⟩
    obtain ⟨hdates, -⟩ := Prod.mk.inj (Except.ok.inj hsame)
    obtain ⟨hfirst, hlast⟩ := Prod.mk.inj hdates
    exact ⟨Date.isoformat_injective hfirst, Date.isoformat_injective hlast⟩
  · rintro ⟨rfl, rfl⟩
    exact ⟨warnings, rfl⟩

end Dates

/-- The days alone are right if whatever stands in for a `date` happens to be that day. -/
theorem keepsDays_alone_iff (today : Date) (start last : TripDate) :
    KeepsDays today start last ↔
      (start.IsPlain → start.day = today) ∧
        (last.IsPlain → start.day.next? = some last.day) := by
  obtain ⟨first, startWarnings, hfirst, hday, htoday⟩ := exists_startDt today start
  unfold KeepsDays convertDatesToOrtools
  rw [hfirst, ← hday]
  dsimp only
  by_cases hlast : last.IsPlain
  · obtain ⟨day, rfl⟩ := hlast.eq_plain
    rw [endDt_plain, Date.tomorrow]
    cases hnext : first.next? with
    | some next =>
        show (∃ warnings, Except.ok ((first.isoformat, next.isoformat), _) =
          .ok ((start.day.isoformat, day.isoformat), warnings)) ↔ _
        rw [exists_dates_eq_iff]
        refine and_congr_right fun hsame => ?_
        rw [← hsame, hnext, Option.some.injEq]
        exact ⟨fun hlater _ => hlater, fun hlater => hlater trivial⟩
    | none =>
        -- after the last day of the calendar the dates stand for today and tomorrow
        constructor
        · rintro ⟨warnings, hdates⟩
          obtain ⟨tomorrow, htomorrow, hparts⟩ := exists_of_bind_eq_ok hdates
          obtain ⟨hdates, -⟩ := Prod.mk.inj (Except.ok.inj hparts)
          have hstart := Date.isoformat_injective (Prod.mk.inj hdates).1
          have hend : today.next? = none := htoday hstart.symm ▸ hnext
          have hfails : today.tomorrow = .error (.exception "date value out of range") := by
            unfold Date.tomorrow
            rw [hend]
          cases hfails.symm.trans htomorrow
        · rintro ⟨hsame, hfollows⟩
          rw [← hsame, hnext] at hfollows
          cases hfollows trivial
  · rw [endDt_of_not_isPlain hlast]
    dsimp only
    rw [exists_dates_eq_iff]
    exact and_congr_right fun _ => iff_of_true rfl fun hplain => absurd hplain hlast

/-- Both dates of a trip are converted to the texts of their own days, with nothing that stands
in for them, exactly when neither is given as a `date`. -/
theorem keepsDays_iff (today : Date) (start last : TripDate) :
    (KeepsDays today start last ∧ ConvertsWithoutFallback today start last) ↔
      ¬ start.IsPlain ∧ ¬ last.IsPlain := by
  constructor
  · rintro ⟨⟨warnings, hdates⟩, hwithout⟩
    have hnone := hwithout _ _ hdates
    exact ⟨fun hstart => warnings_of_isPlain (.inl hstart) hdates hnone,
      fun hlast => warnings_of_isPlain (.inr hlast) hdates hnone⟩
  · rintro ⟨hstart, hlast⟩
    have hdates := convertDatesToOrtools_of_not_isPlain today hstart hlast
    refine ⟨⟨[], hdates⟩, ?_⟩
    intro dates warnings hothers
    rw [hdates] at hothers
    exact (Prod.mk.inj (Except.ok.inj hothers)).2.symm

/-! ## The first days of a year -/

theorem valid_march : 1 ≤ 3 ∧ 3 ≤ 12 := by decide

/-- The first of March. -/
def marchFirst : Date := .firstOfMonth 2026 3 valid_2026 valid_march

/-- On New Year's Day a trip in March that is given by two `date` values starts at once. -/
theorem keepsDays_plain_false :
    ¬ (KeepsDays newYear.today (.plain marchFirst) (.plain marchFirst) ∧
      ConvertsWithoutFallback newYear.today (.plain marchFirst) (.plain marchFirst)) := by
  rintro ⟨⟨warnings, hdates⟩, hwithout⟩
  have hplain : (TripDate.plain marchFirst).IsPlain := trivial
  exact warnings_of_isPlain (.inl hplain) hdates (hwithout _ _ hdates)

end Goveling.Ortools
