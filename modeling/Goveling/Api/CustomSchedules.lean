/-
# Custom schedules of the multimodal endpoint

A request can give single dates hours of their own. The endpoint hands them to the
classic optimizer under the texts of their dates, and the optimizer plans each date in its
own window. The free time of a day is computed by the endpoint again, from the hours that
hold for the whole trip.
-/

import Goveling.Api.DayNumbers
import Goveling.Api.TransferFields
import Goveling.Math.Matching
import Goveling.Optimizer.DayWindows
import Goveling.Optimizer.FreeTime
import Goveling.Optimizer.Packing

namespace Goveling.Api.Multimodal

open Goveling.Math Goveling.Python
open Goveling.Optimizer hiding tripDates

universe u

variable {σ : Type u}

/-! ## The request -/

/-- `DailySchedule`: hours for the date with this text. -/
structure DailySchedule where
  date : String
  startHour : ℕ
  endHour : ℕ
  endHour_le : endHour ≤ 23
  startHour_lt : startHour < endHour

/-- A validated request with the hours of single dates. -/
structure ScheduledRequest extends ItineraryRequest where
  customSchedules : List DailySchedule := []
  dailyStartHour_mem : 6 ≤ dailyStartHour ∧ dailyStartHour ≤ 12
  dailyEndHour_mem : 15 ≤ dailyEndHour ∧ dailyEndHour ≤ 23

/-- The hours of a schedule as the optimizer is given them. -/
def DailySchedule.hours (schedule : DailySchedule) : CustomSchedule where
  startHour := schedule.startHour
  endHour := schedule.endHour

/-- `custom_schedule_map`. -/
def customScheduleMap (schedules : List DailySchedule) : OrderedMap String CustomSchedule :=
  OrderedMap.empty.setAll (schedules.map fun schedule => (schedule.date, schedule.hours))

namespace ScheduledRequest

variable (request : ScheduledRequest)

/-- The custom schedule of a date: the last one that was given for it. -/
def scheduleOn (date : String) : Option DailySchedule :=
  request.customSchedules.reverse.find? fun schedule => schedule.date = date

/-- The hours of a date: those of its custom schedule, or those of every day. -/
def hoursOn (date : String) : CustomSchedule :=
  ((request.scheduleOn date).map DailySchedule.hours).getD
    { startHour := request.dailyStartHour, endHour := request.dailyEndHour }

/-- The window that a date should be planned in. -/
def windowOn (date : String) : TimeWindow where
  start := (request.hoursOn date).startHour * 60
  stop := (request.hoursOn date).endHour * 60

/-- How many hours a date has. -/
def availableHours (date : String) : ℤ :=
  (request.hoursOn date).endHour - (request.hoursOn date).startHour

/-- How many hours a date has that no custom schedule is given for. -/
def dailyHours : ℤ := request.dailyEndHour - request.dailyStartHour

/-- The text of the date with an ordinal, by which the optimizer calls the dates of the trip. -/
def textOfOrdinal (ordinal : ℤ) : String :=
  (((Date.tripDates request.startDate request.endDate).find? fun date =>
    (date.toordinal : ℤ) = ordinal).map Date.isoformat).getD ""

/-- The custom schedules of the dates of the trip, under their ordinals. -/
def datedSchedules : OrderedMap ℤ CustomSchedule :=
  OrderedMap.empty.setAll
    ((Date.tripDates request.startDate request.endDate).filterMap fun date =>
      ((customScheduleMap request.customSchedules).get? date.isoformat).map fun hours =>
        ((date.toordinal : ℤ), hours))

end ScheduledRequest

/-! ## The optimizer -/

/-- A run of `_optimize_classic_method` from the clusters with their home bases on, of which
there are none when no place is valid. What its result says of a day besides the date and
the timeline is only handed on. -/
structure ClassicRun (σ : Type u) where
  globe : Globe
  services : Services σ
  settings : Settings
  transportMode : TransportMode
  noOriginalAccommodations : Bool := false
  service : σ
  clusters : List { cluster : Cluster // cluster.places ≠ [] }
  search : ℤ → List Suggestion
  hash : String → ℤ
  dayRest : DayRecord → PyDict
  freeDayRest : SuggestedDay → PyDict
  resultRest : PyDict

/-- What stays fixed while the trip of a request is planned. -/
def ClassicRun.context (run : ClassicRun σ) (request : ScheduledRequest) : TripContext σ where
  globe := run.globe
  services := run.services
  settings := run.settings
  timeWindow := { start := request.dailyStartHour * 60, stop := request.dailyEndHour * 60 }
  transportMode := run.transportMode
  customSchedules := request.datedSchedules
  noOriginalAccommodations := run.noOriginalAccommodations

/-- A day of the result: its date, its timeline and the rest. -/
structure PlannedDay where
  date : String
  timeline : List TimelineItem
  rest : PyDict

/-- The dictionary of a day, whose activities are the whole timeline. -/
def PlannedDay.entries (hash : String → ℤ) (day : PlannedDay) : PyDict :=
  ("date", .str day.date) ::
    ("activities", .list (day.timeline.map (timelineValue hash))) :: day.rest

/-- A routed day under the text of its date. -/
def ClassicRun.dayOf (run : ClassicRun σ) (request : ScheduledRequest) (day : DayRecord) :
    PlannedDay where
  date := request.textOfOrdinal day.date
  timeline := day.timeline
  rest := run.dayRest day

/-- A day without clusters under the text of its date. -/
def ClassicRun.freeDayOf (run : ClassicRun σ) (request : ScheduledRequest) (day : SuggestedDay) :
    PlannedDay where
  date := request.textOfOrdinal day.date
  timeline := []
  rest := run.freeDayRest day

/-- The days that the optimizer plans. Without clusters it is not given the schedules. -/
def plannedDays (run : ClassicRun σ) (request : ScheduledRequest) :
    Except PyError (List PlannedDay) :=
  let context := run.context request
  let startDate : ℤ := request.startDate.toordinal
  let endDate : ℤ := request.endDate.toordinal
  if run.clusters.isEmpty then
    .ok ((generateFreeDaysWithSuggestions context.timeWindow run.search startDate endDate).map
      (run.freeDayOf request))
  else do
    let allocated ← allocateClustersToDays run.globe (run.clusters.map Subtype.val) startDate
      endDate
    let packed ← packActivitiesByStrategy run.settings .balanced allocated
    .ok ((classicDays context run.service packed).value.map (run.dayOf request))

/-- `_optimize_classic_method`: days without clusters come in a dictionary, routed ones in a
list. -/
def optimizeClassicMethod (run : ClassicRun σ) (request : ScheduledRequest) :
    Except PyError PyVal := do
  let days ← plannedDays run request
  let value : PyVal :=
    if run.clusters.isEmpty then .dict (days.map fun day => (day.date, .dict (day.entries run.hash)))
    else .list (days.map fun day => .dict (day.entries run.hash))
  .ok (.dict (("days", value) :: run.resultRest))

/-! ## What should hold -/

/-- The minutes that the endpoint reads for an item: a transfer is a dictionary without a
duration, and takes the hour of the default. -/
def readMinutes : TimelineItem → ℕ
  | .transferDict _ => 60
  | .transferItem item => item.durationMinutes
  | .scheduled item => item.durationMinutes

/-- The minutes that the endpoint adds up for a day. -/
def PlannedDay.busyMinutes (day : PlannedDay) : ℕ := (day.timeline.map readMinutes).sum

/-- The free time in the entry for a day is what its items leave of its hours. -/
structure ReportsFreeTime (request : ScheduledRequest) (day : PlannedDay) (entry : PyDict) :
    Prop where
  date : entry.lookup "date" = some (.str day.date)
  freeTime : entry.lookup "free_time" =
    some (.str (freeTimeText (request.availableHours day.date - day.busyMinutes / 60)))

/-- Every day is planned inside its own window, and its entry reports the free time of this
window. -/
structure HonorsSchedules (request : ScheduledRequest) (days : List PlannedDay)
    (itinerary : List PyDict) : Prop where
  planned : ∀ day ∈ days, InsideWindow (request.windowOn day.date) day.timeline
  reported : List.Forall₂ (ReportsFreeTime request) days itinerary

/-- So many hours more than those left over read the same: cutting off the decimals hides an
hour around zero. -/
def ReadsAlike (extra : ℤ) (left : ℚ) : Prop :=
  extra = 0 ∨ (extra = 1 ∧ -1 < left ∧ left < 0) ∨ (extra = -1 ∧ 0 < left ∧ left < 1)

/-- A day whose free time comes out right: it is not filled with suggestions, which bring a
text of their own, and its free time reads as it would with the hours of every day. -/
structure TellsOwnHours (env : MultimodalEnv) (request : ScheduledRequest) (day : PlannedDay) :
    Prop where
  unfilled : day.timeline = [] → ∃ e, env.placesService = .error e
  hours : ReadsAlike (request.availableHours day.date - request.dailyHours)
    (request.dailyHours - day.busyMinutes / 60)

/-! ## The dates of the trip -/

section Dates

variable (request : ScheduledRequest)

theorem get?_customScheduleMap (date : String) :
    (customScheduleMap request.customSchedules).get? date =
      (request.scheduleOn date).map DailySchedule.hours :=
  OrderedMap.get?_setAll_map request.customSchedules DailySchedule.date DailySchedule.hours date

/-- Consecutive dates have consecutive ordinals. -/
theorem map_toordinal_datesFrom (date : Date) (count : ℕ) :
    (Date.datesFrom date count).map Date.toordinal =
      List.range' date.toordinal (Date.datesFrom date count).length := by
  induction count generalizing date with
  | zero => rfl
  | succ count ih =>
      cases hnext : date.next? with
      | none => simp [Date.datesFrom, hnext]
      | some next =>
          rw [Date.datesFrom_succ hnext, List.map_cons, ih, List.length_cons, List.range'_succ,
            Date.toordinal_next hnext]

/-- The dates of the trip are those that the optimizer plans. -/
theorem map_toordinal_tripDates :
    (Date.tripDates request.startDate request.endDate).map (fun date => (date.toordinal : ℤ)) =
      Optimizer.tripDates request.startDate.toordinal request.endDate.toordinal := by
  have hlength := Date.length_tripDates request.dates_le
  have hordinals := map_toordinal_datesFrom request.startDate
    (request.startDate.daysUntil request.endDate + 1).toNat
  unfold Date.tripDates at hlength ⊢
  rw [hlength, List.range'_eq_map_range] at hordinals
  have hcast := congrArg (List.map fun ordinal : ℕ => (ordinal : ℤ)) hordinals
  rw [List.map_map, List.map_map] at hcast
  refine hcast.trans ?_
  unfold Optimizer.tripDates Date.daysUntil
  apply List.map_congr_left
  intro index _
  exact Nat.cast_add _ _

theorem nodup_toordinal_tripDates :
    ((Date.tripDates request.startDate request.endDate).map
      fun date => (date.toordinal : ℤ)).Nodup := by
  rw [map_toordinal_tripDates]
  exact nodup_tripDates _ _

/-- An ordinal of the trip is that of a date, by whose text it goes. -/
theorem textOfOrdinal_toordinal {date : Date}
    (hdate : date ∈ Date.tripDates request.startDate request.endDate) :
    request.textOfOrdinal date.toordinal = date.isoformat := by
  have hinjective := List.inj_on_of_nodup_map (nodup_toordinal_tripDates request)
  unfold ScheduledRequest.textOfOrdinal
  cases hfound : (Date.tripDates request.startDate request.endDate).find? fun other =>
      ((other.toordinal : ℤ) = date.toordinal) with
  | none =>
      rw [List.find?_eq_none] at hfound
      exact absurd (decide_eq_true rfl) (hfound date hdate)
  | some other =>
      have hsame : (other.toordinal : ℤ) = date.toordinal := by
        simpa using List.find?_some hfound
      rw [hinjective (List.mem_of_find?_eq_some hfound) hdate hsame]
      rfl

theorem map_textOfOrdinal_tripDates :
    (Optimizer.tripDates request.startDate.toordinal request.endDate.toordinal).map
        request.textOfOrdinal = requestedDates request.toItineraryRequest := by
  rw [← map_toordinal_tripDates, List.map_map]
  apply List.map_congr_left
  intro date hdate
  exact textOfOrdinal_toordinal request hdate

/-- The optimizer finds the custom schedule of every date of the trip. -/
theorem get?_datedSchedules {date : Date}
    (hdate : date ∈ Date.tripDates request.startDate request.endDate) :
    request.datedSchedules.get? date.toordinal =
      (request.scheduleOn date.isoformat).map DailySchedule.hours := by
  rw [← get?_customScheduleMap]
  exact OrderedMap.get?_setAll_filterMap (nodup_toordinal_tripDates request)
    (fun date => (customScheduleMap request.customSchedules).get? date.isoformat) hdate

/-- The window that a date of the trip is planned in is its own. -/
theorem windowOf_context (run : ClassicRun σ) {date : Date}
    (hdate : date ∈ Date.tripDates request.startDate request.endDate) :
    (run.context request).windowOf date.toordinal = request.windowOn date.isoformat := by
  have hfound : (run.context request).customSchedules.get? date.toordinal =
      (request.scheduleOn date.isoformat).map DailySchedule.hours :=
    get?_datedSchedules request hdate
  unfold TripContext.windowOf ScheduledRequest.windowOn ScheduledRequest.hoursOn
  rw [hfound]
  cases request.scheduleOn date.isoformat <;> rfl

/-- Every window is at least an hour long. -/
theorem room_windowOf_context (run : ClassicRun σ) (ordinal : ℤ) :
    ((run.context request).windowOf ordinal).start + 30 ≤
      ((run.context request).windowOf ordinal).stop := by
  unfold TripContext.windowOf
  cases hfound : (run.context request).customSchedules.get? ordinal with
  | none =>
      have hstart := request.dailyStartHour_mem.2
      have hend := request.dailyEndHour_mem.1
      dsimp only [ClassicRun.context]
      omega
  | some custom =>
      have hwritten := OrderedMap.mem_entries_setAll (OrderedMap.mem_of_get?_eq_some hfound)
      obtain hnone | hwritten := hwritten
      · cases hnone
      · obtain ⟨date, -, hdated⟩ := List.mem_filterMap.mp hwritten
        obtain ⟨hours, hhours, heq⟩ := Option.map_eq_some_iff.mp hdated
        cases heq
        rw [get?_customScheduleMap] at hhours
        obtain ⟨schedule, -, rfl⟩ := Option.map_eq_some_iff.mp hhours
        have hlt := schedule.startHour_lt
        dsimp only [DailySchedule.hours]
        omega

end Dates

/-! ## The planned days -/

section Planned

variable (run : ClassicRun σ) (request : ScheduledRequest)

/-- The days without clusters are on the dates of the trip. -/
theorem dates_generateFreeDays (timeWindow : TimeWindow) (search : ℤ → List Suggestion)
    (startDate endDate : ℤ) :
    (generateFreeDaysWithSuggestions timeWindow search startDate endDate).map SuggestedDay.date =
      Optimizer.tripDates startDate endDate := by
  unfold generateFreeDaysWithSuggestions
  dsimp only
  rw [List.map_map]
  rfl

/-- The dates of a trip grow. -/
theorem pairwise_tripDates (startDate endDate : ℤ) :
    (Optimizer.tripDates startDate endDate).Pairwise (· < ·) := by
  apply List.Pairwise.map _ _ List.pairwise_lt_range
  intro first second hlt
  exact Int.add_lt_add_left (Int.ofNat_lt.mpr hlt) startDate

/-- The optimizer always plans the trip: its dates are those of the request, and each day is
inside its own window. -/
theorem exists_plannedDays : ∃ days, plannedDays run request = .ok days ∧
    days.map PlannedDay.date = requestedDates request.toItineraryRequest ∧
    ∀ day ∈ days, InsideWindow (request.windowOn day.date) day.timeline := by
  have hdates : (request.startDate.toordinal : ℤ) ≤ request.endDate.toordinal :=
    Int.ofNat_le.mpr request.dates_le
  have htexts := map_textOfOrdinal_tripDates request
  unfold plannedDays
  dsimp only
  split
  · refine ⟨_, rfl, ?_, ?_⟩
    · rw [← htexts, ← dates_generateFreeDays (run.context request).timeWindow run.search,
        List.map_map, List.map_map]
      rfl
    · intro day hday
      obtain ⟨suggested, -, rfl⟩ := List.mem_map.mp hday
      exact insideWindow_nil _
  · have hplaces : ∀ cluster ∈ run.clusters.map Subtype.val, cluster.places ≠ [] := by
      intro cluster hcluster
      obtain ⟨found, -, rfl⟩ := List.mem_map.mp hcluster
      exact found.property
    obtain ⟨allocated, hallocated, hreceives⟩ :=
      allocateClustersToDays_receives run.globe hplaces hdates
    obtain ⟨packed, hpacked, hkeys, -⟩ := packBalanced_conserves allocated
    obtain ⟨hclassic, hinside⟩ := windows_classicDays (run.context request) packed run.service
      (room_windowOf_context request run)
    have hsorted : sortedDates packed =
        Optimizer.tripDates request.startDate.toordinal request.endDate.toordinal := by
      unfold sortedDates
      rw [hkeys, hreceives.keys_eq, keys_emptyAssignments]
      apply sortedBy_eq_self
      rw [List.map_id]
      exact pairwise_tripDates _ _
    have hplan : packActivitiesByStrategy run.settings .balanced allocated = .ok packed := hpacked
    refine ⟨(classicDays (run.context request) run.service packed).value.map (run.dayOf request),
      ?_, ?_, ?_⟩
    · rw [hallocated]
      show (packActivitiesByStrategy run.settings .balanced allocated).bind _ = _
      rw [hplan]
      rfl
    · rw [← htexts, ← hsorted, ← hclassic, List.map_map, List.map_map]
      rfl
    · intro day hday
      obtain ⟨routed, hrouted, rfl⟩ := List.mem_map.mp hday
      have hmem : routed.date ∈
          Optimizer.tripDates request.startDate.toordinal request.endDate.toordinal := by
        rw [← hsorted, ← hclassic]
        exact List.mem_map_of_mem hrouted
      rw [← map_toordinal_tripDates] at hmem
      obtain ⟨date, hdate, hordinal⟩ := List.mem_map.mp hmem
      have hday := hinside routed hrouted
      rw [← hordinal, windowOf_context request run hdate] at hday
      show InsideWindow (request.windowOn (request.textOfOrdinal routed.date)) routed.timeline
      rw [← hordinal, textOfOrdinal_toordinal request hdate]
      exact hday

end Planned

end Goveling.Api.Multimodal
