/-
# The free time of days with their own hours

The endpoint reads every item of a timeline as a place, adds the durations up and takes
them from the hours of every day, also on a date with hours of its own. Days without places
are filled with suggestions afterwards, and their free time is replaced by a fixed text.
-/

import Goveling.Api.CustomSchedules

namespace Goveling.Api.Multimodal

open Goveling.Math Goveling.Python Goveling.Ortools
open Goveling.Optimizer hiding tripDates

universe u

variable {σ : Type u}

/-! ## Reading a day -/

/-- What the endpoint reads of a planned day. -/
structure ReadsDay (day : PlannedDay) (frontend : FrontendDay) : Prop where
  date : frontend.date = .str day.date
  places : frontend.places.length = day.timeline.length
  activityMinutes : frontend.activityMinutes = day.busyMinutes
  transportMinutes : frontend.transportMinutes = 0

section Reading

variable {converter : ConverterEnv} {hash : String → ℤ}

/-- Every item of a timeline is read as a place with the minutes that are counted for it. -/
theorem readActivity_timelineValue (items : DayItems) (item : TimelineItem) :
    ∃ place, readActivity converter items (timelineValue hash item) =
        .ok { items with places := items.places ++ [place] } ∧
      place.get "duration_minutes" (.int 0) = .int (readMinutes item) := by
  cases item with
  | transferDict source => exact ⟨_, rfl, rfl⟩
  | transferItem transfer => exact ⟨_, rfl, rfl⟩
  | scheduled item =>
      cases item with
      | activity item => exact ⟨_, rfl, rfl⟩
      | hotel item => exact ⟨_, rfl, rfl⟩
      | intercity item => exact ⟨_, rfl, rfl⟩

theorem sumOf_concat {key : String} {items : List PyDict} {item : PyDict} {total : ℚ}
    {minutes : ℕ} (hitems : sumOf key items = .ok total)
    (hitem : item.get key (.int 0) = .int minutes) :
    sumOf key (items ++ [item]) = .ok (total + minutes) := by
  unfold sumOf at hitems ⊢
  rw [List.foldlM_append, hitems]
  simp only [bind, Except.bind, List.foldlM_cons, List.foldlM_nil, hitem]
  rfl

/-- All items of a timeline become places. -/
theorem exists_readActivities (timeline : List TimelineItem) :
    ∃ items : DayItems,
      (timeline.map (timelineValue hash)).foldlM (readActivity converter) {} = .ok items ∧
      items.transfers = [] ∧ items.places.length = timeline.length ∧
      sumOf "duration_minutes" items.places =
        .ok (((timeline.map readMinutes).sum : ℕ) : ℚ) := by
  rw [List.foldlM_map]
  refine foldlM_ok_of_step _ (fun (items : DayItems) served => items.transfers = [] ∧
    items.places.length = served.length ∧ sumOf "duration_minutes" items.places =
      .ok (((served.map readMinutes).sum : ℕ) : ℚ)) timeline ?_ ⟨rfl, rfl, rfl⟩
  rintro items served item - ⟨htransfers, hlength, hminutes⟩
  obtain ⟨place, hread, hduration⟩ := readActivity_timelineValue items item
  refine ⟨_, hread, htransfers, by simp [hlength], ?_⟩
  rw [sumOf_concat hminutes hduration]
  simp

theorem readsDay_of_readDay {day : PlannedDay} {dayCounter : ℕ} {frontend : FrontendDay}
    (hread : readDay converter dayCounter (.dict (day.entries hash)) = .ok frontend) :
    ReadsDay day frontend := by
  obtain ⟨items, hitems, htransfers, hlength, hminutes⟩ :=
    @exists_readActivities converter hash day.timeline
  unfold readDay at hread
  obtain ⟨entries, hentries, hread⟩ := exists_of_bind_eq_ok hread
  cases hentries
  obtain ⟨activities, hactivities, hread⟩ := exists_of_bind_eq_ok hread
  cases hactivities
  obtain ⟨read, hfold, hread⟩ := exists_of_bind_eq_ok hread
  cases hitems.symm.trans hfold
  obtain ⟨activityMinutes, hactivity, hread⟩ := exists_of_bind_eq_ok hread
  cases hminutes.symm.trans hactivity
  obtain ⟨transportMinutes, htransport, hread⟩ := exists_of_bind_eq_ok hread
  rw [htransfers] at htransport
  cases htransport
  obtain ⟨count, -, hread⟩ := exists_of_bind_eq_ok hread
  cases hread
  exact ⟨rfl, hlength, rfl, rfl⟩

end Reading

/-! ## The entry of a day -/

/-- What the entry for a planned day says: its date and its places, and the free time that the
hours of every day leave. -/
structure ShowsDay (request : ScheduledRequest) (day : PlannedDay) (entry : PyDict) : Prop where
  date : entry.lookup "date" = some (.str day.date)
  places : placesCount entry = day.timeline.length
  freeTime : entry.lookup "free_time" =
    some (.str (freeTimeText (request.dailyHours - day.busyMinutes / 60)))

section Entries

variable {env : MultimodalEnv} {run : ClassicRun σ} {request : ScheduledRequest}
  {days : List PlannedDay}

theorem showsDay_of_dayData {day : PlannedDay} {frontend : FrontendDay} {entry : PyDict}
    (hreads : ReadsDay day frontend)
    (hentry : dayData env request.toItineraryRequest frontend = .ok entry) :
    ShowsDay request day entry := by
  unfold dayData at hentry
  obtain ⟨transport, -, hentry⟩ := exists_of_bind_eq_ok hentry
  obtain ⟨walking, -, hentry⟩ := exists_of_bind_eq_ok hentry
  cases hentry
  have hfree : (((request.dailyEndHour : ℚ) - request.dailyStartHour) * 60 -
      (frontend.activityMinutes + frontend.transportMinutes)) / 60 =
        request.dailyHours - day.busyMinutes / 60 := by
    rw [hreads.activityMinutes, hreads.transportMinutes]
    unfold ScheduledRequest.dailyHours
    push_cast
    ring
  refine ⟨?_, ?_, ?_⟩
  · show some frontend.date = _
    rw [hreads.date]
  · show (frontend.places.map PyVal.dict).length = _
    rw [List.length_map, hreads.places]
  · show some (PyVal.str (freeTimeText _)) = _
    rw [hfree]

/-- The days of a result are read in the order of their dates, in either form. -/
theorem daysInOrder_eq_ok {hash : String → ℤ}
    (hgrow : (days.map PlannedDay.date).Pairwise (· < ·)) (asDict : Bool) :
    daysInOrder (if asDict then .dict (days.map fun day => (day.date, .dict (day.entries hash)))
      else .list (days.map fun day => .dict (day.entries hash))) =
        .ok (days.map fun day => .dict (day.entries hash)) := by
  cases asDict with
  | false => rfl
  | true =>
      have hkeys : (days.map fun day => (day.date, PyVal.dict (day.entries hash))).map Prod.fst =
          days.map PlannedDay.date := by
        rw [List.map_map]
        rfl
      have hsorted : sortedBy id ((days.map fun day =>
          (day.date, PyVal.dict (day.entries hash))).map Prod.fst) =
            (days.map fun day => (day.date, PyVal.dict (day.entries hash))).map Prod.fst := by
        apply sortedBy_eq_self
        rw [hkeys, List.map_id]
        exact hgrow
      rw [if_pos rfl, daysInOrder, hsorted, PyDict.mapM_item_keys (hkeys ▸ hgrow.nodup), List.map_map]
      rfl

/-- The entries of the days before free days are filled. -/
theorem showsDays_of_read {frontends : List FrontendDay} {itineraryDays : List PyDict}
    {value : PyVal} (hdays : daysInOrder value =
      .ok (days.map fun day => .dict (day.entries run.hash)))
    (hread : readMultimodal env.converter (("days", value) :: run.resultRest) = .ok frontends)
    (hentries : frontends.mapM (dayData env request.toItineraryRequest) = .ok itineraryDays) :
    List.Forall₂ (ShowsDay request) days itineraryDays := by
  have hhas : PyDict.has (("days", value) :: run.resultRest) "days" = true := rfl
  have hfound : PyDict.get (("days", value) :: run.resultRest) "days" .none = value := rfl
  unfold readMultimodal at hread
  rw [if_pos hhas, hfound, hdays] at hread
  have hreads : List.Forall₂ ReadsDay days frontends := by
    have hturns := forall₂_of_mapM_eq_ok hread
    rw [List.zipIdx_map, List.forall₂_map_left_iff] at hturns
    have hindexed : List.Forall₂ ReadsDay (days.zipIdx.map Prod.fst) frontends :=
      List.forall₂_map_left_iff.mpr (hturns.imp fun day frontend hturn => readsDay_of_readDay hturn)
    rwa [List.zipIdx_map_fst] at hindexed
  have hshown := forall₂_of_mapM_eq_ok hentries
  refine forall₂_through (fun day frontend entry hday hentry => ?_) hreads hshown
  exact showsDay_of_dayData hday hentry

end Entries

/-! ## Filling free days -/

/-- A day without places is filled with suggestions when their service is there; any other
stays as it is. -/
def FilledDay (env : MultimodalEnv) (entry filled : PyDict) : Prop :=
  (((∃ e, env.placesService = .error e) ∨ placesCount entry ≠ 0) ∧ filled = entry) ∨
    (env.placesService = .ok () ∧ placesCount entry = 0 ∧
      ∃ suggestedPlaces, filled = fillWithSuggestions suggestedPlaces entry)

section Filling

variable {env : MultimodalEnv}

/-- The loop over the days fills each of them in its place. -/
theorem exists_filledDays (hservice : env.placesService = .ok ()) (center : ℚ × ℚ)
    (itineraryDays : List PyDict) (state : FillState) :
    ∃ filled, (itineraryDays.foldl (fillDay env center) state).days = state.days ++ filled ∧
      List.Forall₂ (FilledDay env) itineraryDays filled := by
  induction itineraryDays generalizing state with
  | nil => exact ⟨[], (List.append_nil _).symm, .nil⟩
  | cons day rest ih =>
      obtain ⟨filled, hdays, hfilled⟩ := ih (fillDay env center state day)
      have hstep : ∃ first, (fillDay env center state day).days = state.days ++ [first] ∧
          FilledDay env day first := by
        unfold fillDay
        split
        · rename_i hnone
          exact ⟨_, rfl, Or.inr ⟨hservice, hnone, _, rfl⟩⟩
        · rename_i hsome
          exact ⟨_, rfl, Or.inl ⟨Or.inr hsome, rfl⟩⟩
      obtain ⟨first, hfirst, hday⟩ := hstep
      refine ⟨first :: filled, ?_, .cons hday hfilled⟩
      rw [List.foldl_cons, hdays, hfirst, List.append_assoc]
      rfl

/-- When no date is without a day, the days are filled and nothing else happens to them. -/
theorem filledDays_fillFreeDays (request : ItineraryRequest) {itineraryDays : List PyDict}
    {texts : List String}
    (hdates : entriesUnder "date" itineraryDays = texts.map fun date => some (.str date))
    (hgrow : texts.Pairwise (· < ·)) :
    List.Forall₂ (FilledDay env) itineraryDays
      (fillFreeDays env request [] itineraryDays).1 := by
  unfold fillFreeDays
  split
  · rename_i hbusy
    rw [List.isEmpty_nil, Bool.true_and, Bool.not_eq_true', List.any_eq_false] at hbusy
    refine List.forall₂_same.mpr fun day hday => Or.inl ⟨Or.inr fun hnone => ?_, rfl⟩
    apply hbusy day hday
    simp [isPartiallyFree, hnone]
  · unfold suggestFreeDays
    cases hservice : env.placesService with
    | error e => exact List.forall₂_same.mpr fun day _ => Or.inl ⟨Or.inl ⟨e, hservice⟩, rfl⟩
    | ok _ =>
        obtain ⟨filled, hfilled, hrelated⟩ :=
          exists_filledDays hservice (centerOf request.places) itineraryDays {}
        have hentries := entriesUnder_foldl_fillDay env (centerOf request.places)
          (Or.inr rfl : "date" = "day" ∨ "date" = "date") itineraryDays {}
        rw [List.nil_append] at hfilled
        rw [hfilled, hdates] at hentries
        have hsorted := sortByDate_eq_self env hentries hgrow
        rw [← hsorted] at hrelated
        dsimp only [List.foldl_nil]
        rw [hfilled]
        split <;> exact hrelated

end Filling

/-! ## The response -/

section Response

variable {env : MultimodalEnv} {request : ScheduledRequest}

/-- The hours of a date are those of every day and so many more. -/
theorem reportsFreeTime_iff_of_shows {day : PlannedDay} {entry : PyDict}
    (hshows : ShowsDay request day entry) :
    ReportsFreeTime request day entry ↔
      ReadsAlike (request.availableHours day.date - request.dailyHours)
        (request.dailyHours - day.busyMinutes / 60) := by
  have hmoved : ((request.availableHours day.date : ℤ) : ℚ) - day.busyMinutes / 60 =
      ((request.dailyHours : ℚ) - day.busyMinutes / 60) +
        ((request.availableHours day.date - request.dailyHours : ℤ) : ℚ) := by
    push_cast
    ring
  unfold ReadsAlike
  rw [← freeTimeText_add_intCast_eq_iff, ← hmoved]
  constructor
  · rintro ⟨-, hfree⟩
    have htexts := hfree.symm.trans hshows.freeTime
    rwa [Option.some.injEq, PyVal.str.injEq] at htexts
  · intro htexts
    refine ⟨hshows.date, ?_⟩
    rw [hshows.freeTime, htexts]

/-- A filled day reports a fixed text, which is no free time that is computed. -/
theorem not_reportsFreeTime_fillWithSuggestions (day : PlannedDay) (suggestedPlaces : List PyDict)
    (entry : PyDict) :
    ¬ ReportsFreeTime request day (fillWithSuggestions suggestedPlaces entry) := by
  rintro ⟨-, hfree⟩
  unfold fillWithSuggestions at hfree
  rw [PyDict.lookup_set_of_ne (by decide), PyDict.lookup_set_of_ne (by decide),
    PyDict.lookup_set_self, Option.some.injEq, PyVal.str.injEq] at hfree
  exact freeTimeText_ne_of_decimal (by decide) _ hfree.symm

/-- What the response says of a day is right exactly when the day tells its own hours. -/
theorem reportsFreeTime_iff {day : PlannedDay} {filled : PyDict}
    (hfilled : ∃ entry, ShowsDay request day entry ∧ FilledDay env entry filled) :
    ReportsFreeTime request day filled ↔ TellsOwnHours env request day := by
  obtain ⟨entry, hshows, ⟨hkept, rfl⟩ | ⟨hservice, hnone, suggestedPlaces, rfl⟩⟩ := hfilled
  · rw [reportsFreeTime_iff_of_shows hshows]
    constructor
    · intro halike
      refine ⟨fun hempty => hkept.resolve_right fun hsome => hsome ?_, halike⟩
      rw [hshows.places, hempty]
      rfl
    · exact TellsOwnHours.hours
  · refine iff_of_false (not_reportsFreeTime_fillWithSuggestions day suggestedPlaces entry) ?_
    intro htells
    rw [hshows.places, List.length_eq_zero_iff] at hnone
    obtain ⟨e, herror⟩ := htells.unfilled hnone
    rw [hservice] at herror
    cases herror

/-- When the classic optimizer is asked, the endpoint formats its result. -/
theorem result_of_classic_asked {outcomes : EngineOutcomes}
    (hasked : Engine.classic ∈ (chooseEngine outcomes).engines) :
    (chooseEngine outcomes).result = outcomes.classic >>= checkResult := by
  have hbranch : Engine.classic ∉
      (ortoolsBranch outcomes { useOrtools := outcomes.useCity2graph }).engines := by
    unfold ortoolsBranch
    dsimp only
    split
    · split
      · simp
      · split <;> simp
    · simp
  unfold chooseEngine at hasked ⊢
  dsimp only at hasked ⊢
  split at hasked
  · exact absurd hasked hbranch
  · rename_i hclassic
    rw [if_neg hclassic]

/-- The result of the optimizer passes the check of the endpoint as it is. -/
theorem optimizationResult_eq {run : ClassicRun σ} {outcomes : EngineOutcomes}
    {days : List PlannedDay} {optimizationResult : PyDict}
    (hplan : plannedDays run request = .ok days)
    (hclassic : outcomes.classic = optimizeClassicMethod run request)
    (hasked : Engine.classic ∈ (chooseEngine outcomes).engines)
    (hchosen : (chooseEngine outcomes).result = .ok (.dict optimizationResult)) :
    optimizationResult = ("days", if run.clusters.isEmpty then
        .dict (days.map fun day => (day.date, .dict (day.entries run.hash)))
      else .list (days.map fun day => .dict (day.entries run.hash))) :: run.resultRest := by
  rw [result_of_classic_asked hasked, hclassic, optimizeClassicMethod, hplan] at hchosen
  have hchecked : ∀ value : PyVal, checkResult (.dict (("days", value) :: run.resultRest)) =
      .ok (.dict (("days", value) :: run.resultRest)) :=
    fun value => HasDays.checkResult ⟨_, rfl, rfl⟩
  have hsame := (hchecked _).symm.trans hchosen
  rw [Except.ok.injEq, PyVal.dict.injEq] at hsame
  exact hsame.symm

/-- The entries of the response are those of the planned days, filled where they are free. -/
theorem filledDays_of_answer {run : ClassicRun σ} {outcomes : EngineOutcomes}
    {days : List PlannedDay} {response : ItineraryResponse}
    (hplan : plannedDays run request = .ok days)
    (hdates : days.map PlannedDay.date = requestedDates request.toItineraryRequest)
    (hclassic : outcomes.classic = optimizeClassicMethod run request)
    (hasked : Engine.classic ∈ (chooseEngine outcomes).engines)
    (hanswer : generateMultimodalItineraryEndpoint env request.toItineraryRequest outcomes =
      .ok response) :
    List.Forall₂ (fun day filled => ∃ entry, ShowsDay request day entry ∧
      FilledDay env entry filled) days response.itinerary := by
  obtain ⟨optimizationResult, hchosen, hrespond⟩ :=
    generateMultimodalItineraryEndpoint_eq_ok hanswer
  rw [optimizationResult_eq hplan hclassic hasked hchosen] at hrespond
  obtain ⟨frontends, itineraryDays, empty, hread, hentries, hempty, hitinerary⟩ :=
    exists_of_respond_eq_ok hrespond
  have hgrow : (days.map PlannedDay.date).Pairwise (· < ·) := by
    rw [hdates]
    exact pairwise_requestedDates _
  have hshown : List.Forall₂ (ShowsDay request) days itineraryDays :=
    showsDays_of_read (daysInOrder_eq_ok hgrow run.clusters.isEmpty) hread hentries
  have htexts : entriesUnder "date" itineraryDays =
      (days.map PlannedDay.date).map fun date => some (.str date) := by
    rw [List.map_map]
    exact (map_eq_map_of_forall₂ hshown fun day entry hday => hday.date.symm).symm
  have hnone : empty = [] := by
    obtain ⟨-, hnone⟩ | ⟨hfew, -⟩ := emptyDays_eq_ok hempty
    · exact hnone
    · rw [← hdates, List.length_map, hshown.length_eq] at hfew
      exact absurd hfew (lt_irrefl _)
  rw [hitinerary, hnone]
  exact forall₂_through (fun day entry filled hday hfilled => ⟨entry, hday, hfilled⟩) hshown
    (filledDays_fillFreeDays request.toItineraryRequest htexts hgrow)

/-- The reported half: every entry is right exactly when every day tells its own hours. -/
theorem forall₂_reportsFreeTime_iff {run : ClassicRun σ} {outcomes : EngineOutcomes}
    {days : List PlannedDay} {response : ItineraryResponse}
    (hplan : plannedDays run request = .ok days)
    (hdates : days.map PlannedDay.date = requestedDates request.toItineraryRequest)
    (hclassic : outcomes.classic = optimizeClassicMethod run request)
    (hasked : Engine.classic ∈ (chooseEngine outcomes).engines)
    (hanswer : generateMultimodalItineraryEndpoint env request.toItineraryRequest outcomes =
      .ok response) :
    List.Forall₂ (ReportsFreeTime request) days response.itinerary ↔
      ∀ day ∈ days, TellsOwnHours env request day := by
  have hfilled := filledDays_of_answer hplan hdates hclassic hasked hanswer
  refine forall₂_iff_of_forall₂ (fun day entry hday => ?_) hfilled
  exact reportsFreeTime_iff hday

end Response

/-- Every request is planned inside its own windows. The response honors its schedules exactly
when no day is filled with suggestions and the free time of every day reads as with the hours
of every day. -/
theorem honorsSchedules_iff {env : MultimodalEnv} {run : ClassicRun σ}
    {request : ScheduledRequest} {outcomes : EngineOutcomes} {response : ItineraryResponse}
    (hclassic : outcomes.classic = optimizeClassicMethod run request)
    (hasked : Engine.classic ∈ (chooseEngine outcomes).engines)
    (hanswer : generateMultimodalItineraryEndpoint env request.toItineraryRequest outcomes =
      .ok response) :
    ∃ days, plannedDays run request = .ok days ∧
      (∀ day ∈ days, InsideWindow (request.windowOn day.date) day.timeline) ∧
      (HonorsSchedules request days response.itinerary ↔
        ∀ day ∈ days, TellsOwnHours env request day) := by
  obtain ⟨days, hplan, hdates, hinside⟩ := exists_plannedDays run request
  refine ⟨days, hplan, hinside, ?_⟩
  rw [← forall₂_reportsFreeTime_iff hplan hdates hclassic hasked hanswer]
  exact ⟨HonorsSchedules.reported, fun hreported => ⟨hinside, hreported⟩⟩

/-- A single day, from eleven to six instead of from nine. -/
def lateStart : ScheduledRequest where
  places := [(0, 0)]
  startDate := juneRequest.startDate
  endDate := juneRequest.startDate
  dailyStartHour := 9
  dailyEndHour := 18
  dates_le := le_rfl
  customSchedules := [{
    date := "2025-06-01"
    startHour := 11
    endHour := 18
    endHour_le := by decide
    startHour_lt := by decide }]
  dailyStartHour_mem := by decide
  dailyEndHour_mem := by decide

/-- A park ten minutes from the hotel. -/
def parkContext : DayContext Unit :=
  .steady { distanceKm := 5.56, durationMinutes := 10.0 } { start := 540, stop := 1080 }

def parkRun : ClassicRun Unit where
  globe := parkContext.globe
  services := parkContext.services
  settings := parkContext.settings
  transportMode := parkContext.transportMode
  service := ()
  clusters := [⟨.parkNearHotel, List.cons_ne_nil _ _⟩]
  search := fun _ => []
  hash := fun _ => 0
  dayRest := fun _ => []
  freeDayRest := fun _ => []
  resultRest := []

/-- The decision is against OR-Tools. -/
def parkOutcomes : EngineOutcomes where
  useCity2graph := false
  factors := .none
  enableOrtools := false
  ortools := .ok .none
  classic := optimizeClassicMethod parkRun lateStart

theorem exists_answer_lateStart :
    ∃ response, generateMultimodalItineraryEndpoint quietEnv lateStart.toItineraryRequest
      parkOutcomes = .ok response := by
  apply exists_eq_ok_of_isOk
  decide +kernel

/-- The day is planned inside its seven hours. -/
theorem honorsSchedules_iff_lateStart :
    ∃ response, generateMultimodalItineraryEndpoint quietEnv lateStart.toItineraryRequest
        parkOutcomes = .ok response ∧
      ∃ days, plannedDays parkRun lateStart = .ok days ∧
        (∀ day ∈ days, InsideWindow (lateStart.windowOn day.date) day.timeline) ∧
        (HonorsSchedules lateStart days response.itinerary ↔
          ∀ day ∈ days, TellsOwnHours quietEnv lateStart day) := by
  obtain ⟨response, hanswer⟩ := exists_answer_lateStart
  exact ⟨response, hanswer, honorsSchedules_iff rfl (List.mem_singleton_self _) hanswer⟩

/-- Its free time is still computed from nine hours. -/
theorem not_honorsSchedules_lateStart :
    ∃ days response, plannedDays parkRun lateStart = .ok days ∧
      generateMultimodalItineraryEndpoint quietEnv lateStart.toItineraryRequest
        parkOutcomes = .ok response ∧
      ¬ HonorsSchedules lateStart days response.itinerary := by
  obtain ⟨response, hanswer⟩ := exists_answer_lateStart
  obtain ⟨days, hplan, hdates, -⟩ := exists_plannedDays parkRun lateStart
  refine ⟨days, response, hplan, hanswer, fun hhonors => ?_⟩
  have htells := (forall₂_reportsFreeTime_iff hplan hdates rfl (List.mem_singleton_self _)
    hanswer).mp hhonors.reported
  have hrequested : requestedDates lateStart.toItineraryRequest = ["2025-06-01"] := by
    decide +kernel
  rw [hrequested] at hdates
  obtain ⟨day, hday, hdate⟩ := List.mem_map.mp (hdates ▸ List.mem_singleton_self "2025-06-01")
  have halike := (htells day hday).hours
  have hextra : lateStart.availableHours "2025-06-01" - lateStart.dailyHours = -2 := by
    decide +kernel
  rw [hdate, hextra] at halike
  obtain hnone | ⟨hone, -⟩ | ⟨hone, -⟩ := halike
  · cases hnone
  · cases hone
  · cases hone

end Goveling.Api.Multimodal
