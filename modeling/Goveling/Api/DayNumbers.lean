/-
# The numbers of the days of the multimodal endpoint

A response has one day for every date, numbered in the order of the dates, exactly
when the result has the first dates of the trip in their order: the missing dates
then come behind them, where the numbering expects them. After any other gap the
sorting moves days whose numbers stay.
-/

import Goveling.Api.MultimodalDays

namespace Goveling.Api.Multimodal

open Goveling.Python Goveling.Ortools Goveling.Python.Date

universe u v

/-! ## Lists with distinct keys -/

section Keys

variable {α : Type u} {κ : Type v}

/-- A permutation that keeps the distinct keys of a list in their order moves nothing. -/
theorem eq_of_perm_of_map_eq (key : α → κ) {items others : List α} (hperm : items.Perm others)
    (hkeys : items.map key = others.map key) (hnodup : (others.map key).Nodup) :
    items = others := by
  induction others generalizing items with
  | nil => exact List.perm_nil.mp hperm
  | cons other rest ih =>
      cases items with
      | nil => cases hkeys
      | cons item items =>
          rw [List.map_cons, List.map_cons, List.cons.injEq] at hkeys
          rw [List.map_cons, List.nodup_cons] at hnodup
          have hsame : item = other := by
            have hmem := hperm.subset List.mem_cons_self
            obtain heq | hrest := List.mem_cons.mp hmem
            · exact heq
            · exact absurd (hkeys.1 ▸ List.mem_map_of_mem hrest) hnodup.1
          subst hsame
          rw [ih (List.Perm.cons_inv hperm) hkeys.2 hnodup.2]

/-- Sorting a list whose keys grow changes nothing. -/
theorem sortedBy_eq_self [LinearOrder κ] {key : α → κ} {items : List α}
    (hgrow : (items.map key).Pairwise (· < ·)) : sortedBy key items = items := by
  apply List.Pairwise.insertionSort_eq
  rw [List.pairwise_map] at hgrow
  exact hgrow.imp fun hlt => hlt.le

end Keys

/-! ## What the entries say -/

/-- The entries under a key. -/
def entriesUnder (key : String) (days : List PyDict) : List (Option PyVal) :=
  days.map fun day => day.lookup key

/-- The numbers from one on. -/
def numbersTo (count : ℕ) : List (Option PyVal) :=
  (List.range count).map fun index : ℕ => some (.int (index + 1 : ℕ))

/-- The dates of the days of a result, in the order they are read in. -/
def resultDates (optimizationResult : PyDict) : List PyVal :=
  match daysInOrder (optimizationResult.get "days" .none) with
  | .ok days => days.map fun day => getValue day "date" (.str "")
  | .error _ => []

/-- The texts of the dates that a request asks for. -/
def requestedDates (request : ItineraryRequest) : List String :=
  (tripDates request.startDate request.endDate).map isoformat

/-- A day for a date that the result left out. -/
def IsCompletelyFree (day : PyDict) : Prop :=
  ∃ number date suggestedPlaces, day = freeDayEntry number date suggestedPlaces

/-- One day for every date of the trip, in order and numbered in this order, and the
dates that the optimizer left out are completely free days. -/
structure OneDayPerDate (request : ItineraryRequest) (optimizerDates : List PyVal)
    (itinerary : List PyDict) : Prop where
  dates : entriesUnder "date" itinerary =
    (requestedDates request).map fun date => some (.str date)
  numbers : entriesUnder "day" itinerary = numbersTo (requestedDates request).length
  free : ∀ day ∈ itinerary, (∀ date ∈ optimizerDates, day.lookup "date" ≠ some date) →
    IsCompletelyFree day

@[simp]
theorem entriesUnder_append (key : String) (first second : List PyDict) :
    entriesUnder key (first ++ second) = entriesUnder key first ++ entriesUnder key second :=
  List.map_append

@[simp]
theorem length_entriesUnder (key : String) (days : List PyDict) :
    (entriesUnder key days).length = days.length := List.length_map _

theorem numbersTo_succ (count : ℕ) :
    numbersTo (count + 1) = numbersTo count ++ [some (.int (count + 1 : ℕ))] := by
  simp [numbersTo, List.range_succ]

theorem nodup_numbersTo (count : ℕ) : (numbersTo count).Nodup := by
  apply List.Nodup.map _ List.nodup_range
  intro first second heq
  simp at heq
  omega

@[simp]
theorem length_numbersTo (count : ℕ) : (numbersTo count).length = count := by
  simp [numbersTo]

/-- A day has a text as its date. -/
theorem isText_get_iff {day : PyDict} {text : String} :
    (day.get "date" .none).isText text = true ↔ day.lookup "date" = some (.str text) := by
  rw [PyVal.isText_iff]
  unfold PyDict.get
  cases day.lookup "date" <;> simp

/-- Some day has a date. -/
theorem any_isText_iff {days : List PyDict} {text : String} :
    (days.any fun day => (day.get "date" .none).isText text) = true ↔
      some (.str text) ∈ entriesUnder "date" days := by
  simp only [List.any_eq_true, isText_get_iff, entriesUnder, List.mem_map]

/-! ## The days of the result -/

section Reading

variable {env : MultimodalEnv} {request : ItineraryRequest} {optimizationResult : PyDict}
  {days : List FrontendDay} {itineraryDays : List PyDict}

/-- A day gets the next number and keeps its date. -/
theorem readDay_eq_ok {converter : ConverterEnv} {dayCounter : ℕ} {value : PyVal}
    {day : FrontendDay} (hread : readDay converter dayCounter value = .ok day) :
    day.day = dayCounter ∧ day.date = getValue value "date" (.str "") := by
  unfold readDay at hread
  obtain ⟨entries, hentries, hread⟩ := exists_of_bind_eq_ok hread
  obtain ⟨activities, -, hread⟩ := exists_of_bind_eq_ok hread
  obtain ⟨items, -, hread⟩ := exists_of_bind_eq_ok hread
  obtain ⟨activityMinutes, -, hread⟩ := exists_of_bind_eq_ok hread
  obtain ⟨transportMinutes, -, hread⟩ := exists_of_bind_eq_ok hread
  obtain ⟨count, -, hread⟩ := exists_of_bind_eq_ok hread
  cases hread
  cases value with
  | dict found =>
      cases hentries
      exact ⟨rfl, rfl⟩
  | none | bool _ | int _ | float _ | str _ | list _ => cases hentries

theorem dayData_eq_ok {day : FrontendDay} {entry : PyDict}
    (hentry : dayData env request day = .ok entry) :
    entry.lookup "day" = some (.int day.day) ∧ entry.lookup "date" = some day.date := by
  unfold dayData at hentry
  obtain ⟨transport, -, hentry⟩ := exists_of_bind_eq_ok hentry
  obtain ⟨walking, -, hentry⟩ := exists_of_bind_eq_ok hentry
  cases hentry
  exact ⟨rfl, rfl⟩

/-- The days that are read are numbered from one on and have the dates of the result. -/
theorem readMultimodal_eq_ok {converter : ConverterEnv}
    (hread : readMultimodal converter optimizationResult = .ok days) :
    days.map FrontendDay.day = (List.range days.length).map (· + 1) ∧
      days.map FrontendDay.date = resultDates optimizationResult := by
  unfold readMultimodal at hread
  split at hread
  · obtain ⟨daysData, hdata, hread⟩ := exists_of_bind_eq_ok hread
    have hnumbers : days.map FrontendDay.day = daysData.zipIdx.map fun day => day.2 + 1 :=
      map_eq_of_mapM_eq_ok (fun _ _ hday => (readDay_eq_ok hday).1) hread
    have hdates : days.map FrontendDay.date =
        daysData.zipIdx.map fun day => getValue day.1 "date" (.str "") :=
      map_eq_of_mapM_eq_ok (fun _ _ hday => (readDay_eq_ok hday).2) hread
    have hlength : days.length = daysData.length := by
      simpa using congrArg List.length hnumbers
    constructor
    · rw [hnumbers, hlength, List.range_eq_range', ← List.zipIdx_map_snd 0 daysData, List.map_map]
      rfl
    · have hread : resultDates optimizationResult =
          daysData.map fun day => getValue day "date" (.str "") := by
        simp only [resultDates, hdata]
      rw [hdates, hread]
      conv_rhs => rw [← List.zipIdx_map_fst 0 daysData, List.map_map]
      rfl
  · cases hread

/-- The entries for the days of the result are numbered from one on and have its dates. -/
theorem entriesUnder_of_read (hread : readMultimodal env.converter optimizationResult = .ok days)
    (hentries : days.mapM (dayData env request) = .ok itineraryDays) :
    entriesUnder "day" itineraryDays = numbersTo itineraryDays.length ∧
      entriesUnder "date" itineraryDays = (resultDates optimizationResult).map some := by
  obtain ⟨hnumbers, hdates⟩ := readMultimodal_eq_ok hread
  have hday : entriesUnder "day" itineraryDays =
      days.map fun day => some (.int (day.day : ℕ)) :=
    map_eq_of_mapM_eq_ok (fun _ _ hentry => (dayData_eq_ok hentry).1) hentries
  have hdate : entriesUnder "date" itineraryDays = days.map fun day => some day.date :=
    map_eq_of_mapM_eq_ok (fun _ _ hentry => (dayData_eq_ok hentry).2) hentries
  have hlength : itineraryDays.length = days.length := by
    simpa using congrArg List.length hday
  constructor
  · rw [hday, hlength]
    show days.map ((fun number : ℕ => some (PyVal.int number)) ∘ FrontendDay.day) = _
    rw [← List.map_map, hnumbers, List.map_map]
    rfl
  · rw [hdate, ← hdates, List.map_map]
    rfl

end Reading

/-! ## Filling and inserting -/

section Filling

variable (env : MultimodalEnv) (center : ℚ × ℚ)

/-- Suggestions leave the number and the date of a day. -/
theorem lookup_fillWithSuggestions (suggestedPlaces : List PyDict) (existing : PyDict)
    {key : String} (hkey : key = "day" ∨ key = "date") :
    (fillWithSuggestions suggestedPlaces existing).lookup key = existing.lookup key := by
  unfold fillWithSuggestions
  obtain rfl | rfl := hkey <;>
    simp only [PyDict.lookup_set_of_ne, ne_eq, String.reduceEq, not_false_eq_true]

theorem entriesUnder_foldl_fillDay {key : String} (hkey : key = "day" ∨ key = "date")
    (itineraryDays : List PyDict) (state : FillState) :
    entriesUnder key (itineraryDays.foldl (fillDay env center) state).days =
      entriesUnder key state.days ++ entriesUnder key itineraryDays := by
  induction itineraryDays generalizing state with
  | nil => simp [entriesUnder]
  | cons day rest ih =>
      have hstep : entriesUnder key (fillDay env center state day).days =
          entriesUnder key state.days ++ [day.lookup key] := by
        unfold fillDay
        split
        · simp [entriesUnder, lookup_fillWithSuggestions _ _ hkey]
        · simp [entriesUnder]
      rw [List.foldl_cons, ih, hstep, List.append_assoc]
      rfl

theorem lookup_freeDayEntry (number : ℕ) (date : String) (suggestedPlaces : List PyDict) :
    (freeDayEntry number date suggestedPlaces).lookup "day" = some (.int number) ∧
      (freeDayEntry number date suggestedPlaces).lookup "date" = some (.str date) :=
  ⟨rfl, rfl⟩

/-- The days that a run of insertions adds: numbered behind the days before them,
completely free, and each on one of the dates. -/
theorem exists_inserted (dates : List String) (state : FillState) :
    ∃ added, (dates.foldl (insertDay env center) state).days = state.days ++ added ∧
      (∀ day ∈ added, IsCompletelyFree day) ∧
      (entriesUnder "day" state.days = numbersTo state.days.length →
        entriesUnder "day" (state.days ++ added) = numbersTo (state.days ++ added).length) := by
  induction dates generalizing state with
  | nil => exact ⟨[], by simp, by simp, by simp⟩
  | cons date rest ih =>
      obtain ⟨added, hdays, hfree, hnumbers⟩ := ih (insertDay env center state date)
      rw [List.foldl_cons, hdays]
      by_cases hfound : (state.days.any fun day => (day.get "date" .none).isText date) = true
      · have hsame : (insertDay env center state date).days = state.days := by
          unfold insertDay
          rw [if_pos hfound]
        rw [hsame] at hnumbers ⊢
        exact ⟨added, rfl, hfree, hnumbers⟩
      · obtain ⟨entry, hentry, hnumber, hcompletely⟩ : ∃ entry,
            (insertDay env center state date).days = state.days ++ [entry] ∧
              entry.lookup "day" = some (.int (state.days.length + 1 : ℕ)) ∧
              IsCompletelyFree entry := by
          unfold insertDay
          rw [if_neg hfound]
          exact ⟨_, rfl, (lookup_freeDayEntry _ _ _).1, _, _, _, rfl⟩
        rw [hentry] at hnumbers ⊢
        refine ⟨entry :: added, by simp, ?_, ?_⟩
        · intro day hday
          obtain rfl | hday := List.mem_cons.mp hday
          · exact hcompletely
          · exact hfree day hday
        · intro hstate
          rw [List.append_cons]
          apply hnumbers
          rw [entriesUnder_append, hstate, List.length_append, List.length_singleton,
            numbersTo_succ, ← hnumber]
          rfl

/-- Dates that no day has, each of them once, are all inserted. -/
theorem dates_inserted {dates : List String} (hnodup : dates.Nodup) (state : FillState)
    (hnew : ∀ date ∈ dates, some (PyVal.str date) ∉ entriesUnder "date" state.days) :
    entriesUnder "date" (dates.foldl (insertDay env center) state).days =
      entriesUnder "date" state.days ++ dates.map fun date => some (.str date) := by
  induction dates generalizing state with
  | nil => simp
  | cons date rest ih =>
      rw [List.nodup_cons] at hnodup
      have hmissing : ¬ (state.days.any fun day => (day.get "date" .none).isText date) = true :=
        fun hfound => hnew date List.mem_cons_self (any_isText_iff.mp hfound)
      have hstep : entriesUnder "date" (insertDay env center state date).days =
          entriesUnder "date" state.days ++ [some (.str date)] := by
        unfold insertDay
        rw [if_neg hmissing, entriesUnder_append]
        rfl
      rw [List.foldl_cons, ih hnodup.2, hstep, List.map_cons, List.append_assoc,
        List.singleton_append]
      intro later hlater
      rw [hstep, List.mem_append, List.mem_singleton]
      rintro (hold | hsame)
      · exact hnew later (List.mem_cons_of_mem _ hlater) hold
      · cases hsame
        exact hnodup.1 hlater

end Filling

/-! ## The dates that are missing -/

/-- The loop over the dates finds those without a day, if the calendar reaches behind
the last of them. -/
theorem missingDates_eq_ok {existing : List PyVal} {date : Date} {count : ℕ}
    {missing : List String} (hloop : missingDates existing date count = .ok missing) :
    (datesFrom date count).length = count ∧
      missing = ((datesFrom date count).map isoformat).filter fun text =>
        !existing.any fun value => value.isText text := by
  induction count generalizing date missing with
  | zero =>
      cases hloop
      exact ⟨rfl, rfl⟩
  | succ count ih =>
      unfold missingDates at hloop
      obtain ⟨rest, hrest, hloop⟩ := exists_of_bind_eq_ok hloop
      obtain ⟨next, hnext, hrest⟩ := exists_of_bind_eq_ok hrest
      have hnext? : date.next? = some next := by
        unfold tomorrow at hnext
        cases hfound : date.next? with
        | none => simp [hfound] at hnext
        | some found =>
            simp only [hfound, Except.ok.injEq] at hnext
            rw [hnext]
      obtain ⟨hlength, hmissing⟩ := ih hrest
      rw [datesFrom_succ hnext?]
      refine ⟨by rw [List.length_cons, hlength], ?_⟩
      rw [List.map_cons, List.filter_cons, ← hmissing]
      split at hloop
      · rename_i hfound
        cases hloop
        simp [hfound]
      · rename_i hfound
        cases hloop
        simp [hfound]

theorem length_datesFrom_le (date : Date) (count : ℕ) : (datesFrom date count).length ≤ count := by
  induction count generalizing date with
  | zero => exact le_rfl
  | succ count ih =>
      cases hnext : date.next? with
      | none => simp [datesFrom, hnext]
      | some next =>
          rw [datesFrom_succ hnext, List.length_cons]
          exact Nat.succ_le_succ (ih next)

section Missing

variable {request : ItineraryRequest} {itineraryDays : List PyDict} {empty : List String}

theorem totalDaysRequested_eq (request : ItineraryRequest) :
    totalDaysRequested request = ((totalDaysRequested request).toNat : ℤ) := by
  have hle := request.dates_le
  unfold totalDaysRequested daysUntil
  omega

theorem length_requestedDates_le (request : ItineraryRequest) :
    ((requestedDates request).length : ℤ) ≤ totalDaysRequested request := by
  rw [totalDaysRequested_eq]
  unfold requestedDates tripDates
  rw [List.length_map]
  exact_mod_cast length_datesFrom_le _ _

/-- Either there are as many days as dates, or the dates without a day are found. -/
theorem emptyDays_eq_ok (hempty : emptyDays request itineraryDays = .ok empty) :
    (totalDaysRequested request ≤ itineraryDays.length ∧ empty = []) ∨
      (itineraryDays.length < (requestedDates request).length ∧
        empty = (requestedDates request).filter fun text =>
          !itineraryDays.any fun day => (day.get "date" .none).isText text) := by
  unfold emptyDays at hempty
  split at hempty
  · rename_i hfew
    right
    dsimp only at hempty
    split at hempty
    · cases hempty
    · obtain ⟨hlength, hmissing⟩ := missingDates_eq_ok hempty
      have htotal := totalDaysRequested_eq request
      constructor
      · unfold requestedDates tripDates
        rw [List.length_map]
        show _ < (datesFrom request.startDate (totalDaysRequested request).toNat).length
        omega
      · rw [hmissing]
        apply List.filter_congr
        intro text _
        rw [List.any_map]
        rfl
  · rename_i hmany
    cases hempty
    exact Or.inl ⟨not_lt.mp hmany, rfl⟩

theorem pairwise_requestedDates (request : ItineraryRequest) :
    (requestedDates request).Pairwise (· < ·) :=
  pairwise_isoformat_datesFrom _ _

/-- Behind the first dates of a trip come the dates that are missing. -/
theorem filter_missing {dates first : List String} {days : List PyDict} (hnodup : dates.Nodup)
    (hdatesFirst : first <+: dates)
    (hdays : entriesUnder "date" days = first.map fun date => some (.str date)) :
    first ++ (dates.filter fun text =>
        !days.any fun day => (day.get "date" .none).isText text) = dates := by
  obtain ⟨rest, rfl⟩ := hdatesFirst
  obtain ⟨-, -, hdisjoint⟩ := List.nodup_append.mp hnodup
  have hfound : ∀ text, (days.any fun day => (day.get "date" .none).isText text) = true ↔
      text ∈ first := by
    intro text
    rw [any_isText_iff, hdays]
    simp
  have hfirst : first.filter (fun text =>
      !days.any fun day => (day.get "date" .none).isText text) = [] := by
    apply List.filter_eq_nil_iff.mpr
    intro text htext
    rw [(hfound text).mpr htext]
    decide
  have hrest : rest.filter (fun text =>
      !days.any fun day => (day.get "date" .none).isText text) = rest := by
    apply List.filter_eq_self.mpr
    intro text htext
    rw [Bool.not_eq_true', Bool.eq_false_iff]
    intro hold
    exact hdisjoint _ ((hfound text).mp hold) _ htext rfl
  rw [List.filter_append, hfirst, hrest, List.nil_append]

end Missing

/-! ## Sorting -/

section Sorting

variable (env : MultimodalEnv)

theorem sortByDate_perm (days : List PyDict) : (sortByDate env days).1.Perm days := by
  unfold sortByDate
  split
  · exact sortedBy_perm _ _
  · exact (env.sortMixed days).2

theorem dateText_of_lookup {day : PyDict} {text : String}
    (hdate : day.lookup "date" = some (.str text)) : dateText day = some text := by
  unfold dateText PyDict.get
  rw [hdate]
  rfl

/-- Days whose dates grow stay where they are. -/
theorem sortByDate_eq_self {days : List PyDict} {texts : List String}
    (hdates : entriesUnder "date" days = texts.map fun date => some (.str date))
    (hgrow : texts.Pairwise (· < ·)) : (sortByDate env days).1 = days := by
  have htexts : days.map dateText = texts.map some := by
    clear hgrow
    induction days generalizing texts with
    | nil =>
        cases texts with
        | nil => rfl
        | cons text texts => cases hdates
    | cons day rest ih =>
        cases texts with
        | nil => cases hdates
        | cons text texts =>
            obtain ⟨hday, hrest⟩ := List.cons.inj hdates
            rw [List.map_cons, List.map_cons, dateText_of_lookup hday, ih hrest]
  have hall : (days.all fun day => (dateText day).isSome) = true := by
    apply List.all_eq_true.mpr
    intro day hday
    have hmem : dateText day ∈ days.map dateText := List.mem_map_of_mem hday
    rw [htexts] at hmem
    obtain ⟨text, -, htext⟩ := List.mem_map.mp hmem
    rw [← htext]
    rfl
  unfold sortByDate
  rw [if_pos hall]
  apply sortedBy_eq_self
  have hkeys : days.map (fun day => (dateText day).getD "") = texts := by
    show days.map ((fun text : Option String => text.getD "") ∘ dateText) = texts
    rw [← List.map_map, htexts, List.map_map]
    exact List.map_id texts
  rw [hkeys]
  exact hgrow

/-- The days before the sorting. -/
def insertedDays (request : ItineraryRequest) (empty : List String) (itineraryDays : List PyDict) :
    List PyDict :=
  (empty.foldl (insertDay env (centerOf request.places))
    (itineraryDays.foldl (fillDay env (centerOf request.places)) {})).days

/-- The days stay, which is all there is when no date is empty or no service is
there, or they are filled, completed and sorted. -/
theorem fillFreeDays_cases (request : ItineraryRequest) (empty : List String)
    (itineraryDays : List PyDict) :
    ((fillFreeDays env request empty itineraryDays).1 = itineraryDays ∧
        (empty = [] ∨ ∃ e, env.placesService = .error e)) ∨
      ((fillFreeDays env request empty itineraryDays).1 =
          (sortByDate env (insertedDays env request empty itineraryDays)).1 ∧
        env.placesService = .ok ()) := by
  unfold fillFreeDays
  split
  · rename_i hnone
    rw [Bool.and_eq_true, List.isEmpty_iff] at hnone
    exact Or.inl ⟨rfl, Or.inl hnone.1⟩
  · unfold suggestFreeDays
    cases hservice : env.placesService with
    | error e => exact Or.inl ⟨rfl, Or.inr ⟨e, rfl⟩⟩
    | ok _ =>
        right
        refine ⟨?_, rfl⟩
        dsimp only
        split <;> rfl

end Sorting

/-! ## When there is one day for every date -/

section Numbering

variable {env : MultimodalEnv} {request : ItineraryRequest} {optimizationResult : PyDict}
  {itineraryDays : List PyDict} {empty : List String} {dates : List PyVal}

/-- What is known of the entries for the days of a result. -/
structure FromResult (dates : List PyVal) (itineraryDays : List PyDict) : Prop where
  numbers : entriesUnder "day" itineraryDays = numbersTo itineraryDays.length
  dates : entriesUnder "date" itineraryDays = dates.map some

/-- The days before the sorting are the days of the result and completely free days,
numbered in this order. -/
theorem exists_insertedDays (hdays : FromResult dates itineraryDays) (env : MultimodalEnv)
    (request : ItineraryRequest) (empty : List String) :
    ∃ filled added, insertedDays env request empty itineraryDays = filled ++ added ∧
      entriesUnder "date" filled = dates.map some ∧ (∀ day ∈ added, IsCompletelyFree day) ∧
      entriesUnder "day" (filled ++ added) = numbersTo (filled ++ added).length := by
  have hfilled : ∀ {key : String}, key = "day" ∨ key = "date" →
      entriesUnder key
          (itineraryDays.foldl (fillDay env (centerOf request.places)) {}).days =
        entriesUnder key itineraryDays :=
    fun hkey => entriesUnder_foldl_fillDay env _ hkey itineraryDays {}
  obtain ⟨added, hadded, hfree, hnumbers⟩ := exists_inserted env (centerOf request.places) empty
    (itineraryDays.foldl (fillDay env (centerOf request.places)) {})
  refine ⟨_, added, hadded, ?_, hfree, ?_⟩
  · rw [hfilled (Or.inr rfl), hdays.dates]
  · apply hnumbers
    have hnumber := hfilled (Or.inl rfl)
    have hlength := congrArg List.length hnumber
    rw [length_entriesUnder, length_entriesUnder] at hlength
    rw [hnumber, hdays.numbers, hlength]

/-- Days in the order of the dates that are numbered in this order were not moved by
the sorting, so the result has the first of the dates. -/
theorem prefix_of_oneDayPerDate (hdays : FromResult dates itineraryDays)
    (hone : OneDayPerDate request dates (fillFreeDays env request empty itineraryDays).1) :
    dates <+: (requestedDates request).map .str ∧
      (dates = (requestedDates request).map .str ∨ env.placesService = .ok ()) := by
  have hrequested : (requestedDates request).map (fun date => some (PyVal.str date)) =
      ((requestedDates request).map PyVal.str).map some := by
    rw [List.map_map]
    rfl
  have hinjective := List.map_injective_iff.mpr (Option.some_injective PyVal)
  obtain ⟨hsame, -⟩ | ⟨hsorted, hservice⟩ := fillFreeDays_cases env request empty itineraryDays
  · have hdates := hone.dates
    rw [hsame, hdays.dates, hrequested] at hdates
    have hall := hinjective hdates
    rw [hall]
    exact ⟨List.prefix_rfl, Or.inl rfl⟩
  · obtain ⟨filled, added, hinserted, hfilled, -, hnumbers⟩ :=
      exists_insertedDays hdays env request empty
    rw [hsorted, hinserted] at hone
    have hperm := sortByDate_perm env (filled ++ added)
    have hlength : (requestedDates request).length = (filled ++ added).length := by
      have hcount := congrArg List.length hone.dates
      rw [length_entriesUnder, hperm.length_eq, List.length_map] at hcount
      exact hcount.symm
    have hunmoved : (sortByDate env (filled ++ added)).1 = filled ++ added := by
      apply eq_of_perm_of_map_eq (fun day => day.lookup "day") hperm
      · show entriesUnder "day" _ = entriesUnder "day" _
        rw [hone.numbers, hnumbers, hlength]
      · show (entriesUnder "day" (filled ++ added)).Nodup
        rw [hnumbers]
        exact nodup_numbersTo _
    have hdates := hone.dates
    rw [hunmoved, entriesUnder_append, hfilled, hrequested] at hdates
    refine ⟨?_, Or.inr hservice⟩
    have hdatesFirst : dates.map some <+: ((requestedDates request).map PyVal.str).map some :=
      ⟨_, hdates⟩
    obtain ⟨first, hfirst, heq⟩ := List.prefix_map_iff.mp hdatesFirst
    rw [hinjective heq]
    exact hfirst

/-- The first dates of a trip and the dates that are missing are the dates of the trip. -/
theorem append_empty_of_prefix {first : List String}
    (hdays : FromResult (first.map .str) itineraryDays)
    (hempty : emptyDays request itineraryDays = .ok empty)
    (hdatesFirst : first <+: requestedDates request) : first ++ empty = requestedDates request := by
  have hdates : entriesUnder "date" itineraryDays = first.map fun date => some (.str date) := by
    rw [hdays.dates, List.map_map]
    rfl
  have hlength : itineraryDays.length = first.length := by
    simpa using congrArg List.length hdates
  obtain ⟨hmany, rfl⟩ | ⟨-, hmissing⟩ := emptyDays_eq_ok hempty
  · have hfew := length_requestedDates_le request
    rw [List.append_nil]
    apply hdatesFirst.eq_of_length_le
    omega
  · rw [hmissing]
    exact filter_missing (pairwise_requestedDates request).nodup hdatesFirst hdates

/-- The days before the sorting have the dates of the trip in their order. -/
theorem dates_insertedDays {first : List String} (hdays : FromResult (first.map .str) itineraryDays)
    (hall : first ++ empty = requestedDates request) :
    entriesUnder "date" (insertedDays env request empty itineraryDays) =
      (requestedDates request).map fun date => some (.str date) := by
  have hnodup : (first ++ empty).Nodup := by
    rw [hall]
    exact (pairwise_requestedDates request).nodup
  obtain ⟨-, hempty, hdisjoint⟩ := List.nodup_append.mp hnodup
  have hfilled : entriesUnder "date"
      (itineraryDays.foldl (fillDay env (centerOf request.places)) {}).days =
        first.map fun date => some (.str date) := by
    rw [entriesUnder_foldl_fillDay env _ (Or.inr rfl), hdays.dates, List.map_map]
    rfl
  unfold insertedDays
  rw [dates_inserted env _ hempty, hfilled, ← List.map_append, hall]
  intro date hdate hold
  rw [hfilled] at hold
  obtain ⟨known, hknown, heq⟩ := List.mem_map.mp hold
  cases heq
  exact hdisjoint _ hknown _ hdate rfl

/-- A day under one of some dates is not without these dates. -/
theorem not_free_of_mem {dates : List PyVal} {days : List PyDict}
    (hdates : entriesUnder "date" days = dates.map some) {day : PyDict} (hday : day ∈ days) :
    ¬ ∀ date ∈ dates, day.lookup "date" ≠ some date := by
  intro hfree
  have hmem : day.lookup "date" ∈ entriesUnder "date" days := List.mem_map.mpr ⟨day, hday, rfl⟩
  rw [hdates] at hmem
  obtain ⟨date, hdate, heq⟩ := List.mem_map.mp hmem
  exact hfree date hdate heq.symm

/-- If the result has the first of the dates, the missing ones are numbered where they
belong and the sorting changes nothing. -/
theorem oneDayPerDate_of_prefix {first : List String}
    (hdays : FromResult (first.map .str) itineraryDays)
    (hempty : emptyDays request itineraryDays = .ok empty)
    (hdatesFirst : first <+: requestedDates request)
    (hservice : first = requestedDates request ∨ env.placesService = .ok ()) :
    OneDayPerDate request (first.map .str) (fillFreeDays env request empty itineraryDays).1 := by
  have hall := append_empty_of_prefix hdays hempty hdatesFirst
  obtain ⟨hsame, hreason⟩ | ⟨hsorted, -⟩ := fillFreeDays_cases env request empty itineraryDays
  · have hfull : first = requestedDates request := by
      obtain hnone | ⟨e, herror⟩ := hreason
      · rw [hnone, List.append_nil] at hall
        exact hall
      · obtain hfull | hok := hservice
        · exact hfull
        · rw [hok] at herror
          cases herror
    have hdates : entriesUnder "date" itineraryDays = (requestedDates request).map fun date =>
        some (.str date) := by
      rw [hdays.dates, hfull, List.map_map]
      rfl
    have hlength : itineraryDays.length = (requestedDates request).length := by
      simpa using congrArg List.length hdates
    rw [hsame]
    refine ⟨hdates, by rw [hdays.numbers, hlength], ?_⟩
    intro day hday hleft
    exact absurd hleft (not_free_of_mem hdays.dates hday)
  · obtain ⟨filled, added, hinserted, hfilled, hfree, hnumbers⟩ :=
      exists_insertedDays hdays env request empty
    have hdates : entriesUnder "date" (filled ++ added) =
        (requestedDates request).map fun date => some (.str date) := by
      rw [← hinserted]
      exact dates_insertedDays hdays hall
    have hlength : (filled ++ added).length = (requestedDates request).length := by
      simpa using congrArg List.length hdates
    rw [hsorted, hinserted, sortByDate_eq_self env hdates (pairwise_requestedDates request)]
    refine ⟨hdates, by rw [hnumbers, hlength], ?_⟩
    intro day hday hleft
    obtain hold | hnew := List.mem_append.mp hday
    · exact absurd hleft (not_free_of_mem hfilled hold)
    · exact hfree day hnew

/-- What a response is made from: the days of the result, their entries and the dates that
have none. -/
theorem exists_of_respond_eq_ok {response : ItineraryResponse}
    (hresponse : respond env request optimizationResult = .ok response) :
    ∃ days itineraryDays empty, readMultimodal env.converter optimizationResult = .ok days ∧
      days.mapM (dayData env request) = .ok itineraryDays ∧
      emptyDays request itineraryDays = .ok empty ∧
      response.itinerary = (fillFreeDays env request empty itineraryDays).1 := by
  unfold respond at hresponse
  obtain ⟨days, hread, hresponse⟩ := exists_of_bind_eq_ok hresponse
  obtain ⟨itineraryDays, hentries, hresponse⟩ := exists_of_bind_eq_ok hresponse
  obtain ⟨transport, -, hresponse⟩ := exists_of_bind_eq_ok hresponse
  obtain ⟨walking, -, hresponse⟩ := exists_of_bind_eq_ok hresponse
  obtain ⟨routerStats, -, hresponse⟩ := exists_of_bind_eq_ok hresponse
  obtain ⟨empty, hempty, hresponse⟩ := exists_of_bind_eq_ok hresponse
  obtain ⟨efficiencyScore, -, hresponse⟩ := exists_of_bind_eq_ok hresponse
  obtain ⟨clustersGenerated, -, hresponse⟩ := exists_of_bind_eq_ok hresponse
  obtain ⟨longTransfers, -, hresponse⟩ := exists_of_bind_eq_ok hresponse
  obtain ⟨cachePerformance, -, hresponse⟩ := exists_of_bind_eq_ok hresponse
  cases hresponse
  exact ⟨days, itineraryDays, empty, hread, hentries, hempty, rfl⟩

/-- A response has the days that the filling leaves. -/
theorem respond_eq_ok {response : ItineraryResponse}
    (hresponse : respond env request optimizationResult = .ok response) :
    ∃ itineraryDays empty, FromResult (resultDates optimizationResult) itineraryDays ∧
      emptyDays request itineraryDays = .ok empty ∧
      response.itinerary = (fillFreeDays env request empty itineraryDays).1 := by
  obtain ⟨days, itineraryDays, empty, hread, hentries, hempty, hitinerary⟩ :=
    exists_of_respond_eq_ok hresponse
  obtain ⟨hnumbers, hdates⟩ := entriesUnder_of_read hread hentries
  exact ⟨itineraryDays, empty, ⟨hnumbers, hdates⟩, hempty, hitinerary⟩

end Numbering

/-- The response has one day for every date, in order and numbered in this order,
exactly when the result has the first dates of the trip in their order, and all of
them unless the service for suggestions is there. -/
theorem respond_oneDayPerDate_iff {env : MultimodalEnv} {request : ItineraryRequest}
    {optimizationResult : PyDict} {response : ItineraryResponse}
    (hresponse : respond env request optimizationResult = .ok response) :
    OneDayPerDate request (resultDates optimizationResult) response.itinerary ↔
      resultDates optimizationResult <+: (requestedDates request).map .str ∧
        (resultDates optimizationResult = (requestedDates request).map .str ∨
          env.placesService = .ok ()) := by
  obtain ⟨itineraryDays, empty, hdays, hempty, hitinerary⟩ := respond_eq_ok hresponse
  rw [hitinerary]
  constructor
  · exact prefix_of_oneDayPerDate hdays
  · rintro ⟨hdatesFirst, hservice⟩
    obtain ⟨first, hfirst, heq⟩ := List.prefix_map_iff.mp hdatesFirst
    rw [heq] at hdays hservice ⊢
    apply oneDayPerDate_of_prefix hdays hempty hfirst
    obtain hall | hok := hservice
    · apply Or.inl
      apply List.map_injective_iff.mpr _ hall
      intro a b hab
      cases hab
      rfl
    · exact Or.inr hok

/-- A trip of the first three days of June to one place. -/
def juneRequest : ItineraryRequest where
  places := [(0, 0)]
  startDate := ⟨2025, 6, 1, by decide, by decide, by decide, by decide, by decide, by decide⟩
  endDate := ⟨2025, 6, 3, by decide, by decide, by decide, by decide, by decide, by decide⟩
  dailyStartHour := 9
  dailyEndHour := 18
  dates_le := by decide +kernel

/-- Everything is there, and no day gets a suggestion. -/
def quietEnv : MultimodalEnv where
  converter := { timestamp := "", textOf := fun _ => "" }
  routerStats := .ok []
  processingSeconds := 0
  placesService := .ok ()
  suggestionsForDay := fun _ _ _ used => ([], used)
  sortMixed := fun days => ⟨(days, .error (.typeError "'<' not supported")), List.Perm.refl days⟩

/-- A result with a day for one date, and an hour in a museum on it. -/
def dayOn (date : String) : PyDict :=
  [("days", .list [.dict [("date", .str date), ("activities", .list [.dict
    [("name", .str "Museo"), ("type", .str "museum"), ("duration_minutes", .int 60)]])]])]

/-- A result for the first of the three days is completed in order. -/
theorem respond_oneDayPerDate_first :
    ∃ response, respond quietEnv juneRequest (dayOn "2025-06-01") = .ok response ∧
      (OneDayPerDate juneRequest (resultDates (dayOn "2025-06-01")) response.itinerary ↔
        resultDates (dayOn "2025-06-01") <+: (requestedDates juneRequest).map .str ∧
          (resultDates (dayOn "2025-06-01") = (requestedDates juneRequest).map .str ∨
            quietEnv.placesService = .ok ())) := by
  have hok : (respond quietEnv juneRequest (dayOn "2025-06-01")).isOk = true := by
    decide +kernel
  obtain ⟨response, hresponse⟩ := exists_eq_ok_of_isOk hok
  exact ⟨response, hresponse, respond_oneDayPerDate_iff hresponse⟩

/-- A result for the second day alone: the first day of the trip becomes the day 2. -/
theorem respond_oneDayPerDate_not_second :
    ∃ response, respond quietEnv juneRequest (dayOn "2025-06-02") = .ok response ∧
      ¬ OneDayPerDate juneRequest (resultDates (dayOn "2025-06-02")) response.itinerary := by
  have hok : (respond quietEnv juneRequest (dayOn "2025-06-02")).isOk = true := by
    decide +kernel
  obtain ⟨response, hresponse⟩ := exists_eq_ok_of_isOk hok
  refine ⟨response, hresponse, ?_⟩
  intro hone
  obtain ⟨itineraryDays, empty, hdays, -, hitinerary⟩ := respond_eq_ok hresponse
  rw [hitinerary] at hone
  obtain ⟨hdatesFirst, -⟩ := prefix_of_oneDayPerDate hdays hone
  have hfirst : PyVal.str "2025-06-02" = .str (juneRequest.startDate.isoformat) := by
    obtain ⟨rest, hrest⟩ := hdatesFirst
    exact (List.cons.inj hrest).1
  rw [PyVal.str.injEq] at hfirst
  exact absurd hfirst (by decide +kernel)

end Goveling.Api.Multimodal
