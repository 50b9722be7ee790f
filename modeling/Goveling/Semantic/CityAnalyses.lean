/-
# The analysis a request is answered from

Two managers answer clustering requests from the analysis of a city, which they
initialize once, with the box around the places of the request that comes first.
Later requests of the same name are answered from it. So an answer is taken from
an area around its places exactly when the first box of its name contains them;
a name that the caller gives, the name for everything else, and coordinates
without their signs say little about where that is.
-/

import Goveling.Math.FirstCome
import Goveling.Semantic.RealInitialization

namespace Goveling.Semantic

open Goveling.Math Goveling.Python

/-! ## Requests and boxes -/

/-- A request, with what the initialization of its city would answer. -/
structure HandledRequest where
  request : CityRequest
  succeeds : Bool

/-- The name and the box of an initialization that a request may start. -/
def offerOf (detect : List PyDict → Except PyError (Option String))
    (bboxOf : List PyDict → Except PyError BBox) (handled : HandledRequest) :
    Offer String BBox where
  key := (handled.request.resolveName detect).toOption.join
  value := if handled.succeeds then (bboxOf handled.request.places).toOption else none

/-- Every analysis that is used was initialized with a box around the places of its request. -/
def AnsweredWithin {S : Type} (step : S → HandledRequest → S)
    (answeredFrom : S → HandledRequest → Option BBox) (start : S)
    (requests : List HandledRequest) : Prop :=
  ∀ moment ∈ moments step start requests, ∀ bbox, answeredFrom moment.1 moment.2 = some bbox →
    bbox.ContainsAll moment.2.request.places

/-- The places of every request that is read lie in the first box that is offered for its name,
by the request or before. -/
def FirstBoxesContain (offer : HandledRequest → Offer String BBox)
    (isRead : HandledRequest → Bool) (requests : List HandledRequest) : Prop :=
  ∀ before handled after, requests = before ++ handled :: after → isRead handled = true →
    ∀ name bbox, (offer handled).key = some name →
      firstOffered name ((before ++ [handled]).map offer) = some bbox →
        bbox.ContainsAll handled.request.places

/-- Answers that are taken from the first box of the name. -/
theorem answeredWithin_iff {S : Type} {step : S → HandledRequest → S}
    {answeredFrom : S → HandledRequest → Option BBox} {start : S}
    {offer : HandledRequest → Offer String BBox} {isRead : HandledRequest → Bool}
    (hanswer : ∀ before handled, answeredFrom (runEnd step start before) handled =
      if isRead handled then
        (offer handled).key.bind fun name => firstOffered name ((before ++ [handled]).map offer)
      else none)
    (requests : List HandledRequest) :
    AnsweredWithin step answeredFrom start requests ↔ FirstBoxesContain offer isRead requests := by
  constructor
  · intro hwithin before handled after hsplit hread name bbox hname hfirst
    apply hwithin (runEnd step start before, handled)
      (mem_moments_iff.mpr ⟨before, after, hsplit, rfl⟩) bbox
    rw [hanswer, if_pos hread, hname]
    exact hfirst
  · intro hfirst moment hmoment bbox hbbox
    obtain ⟨before, after, hsplit, hstate⟩ := mem_moments_iff.mp hmoment
    rw [hstate, hanswer] at hbbox
    split at hbbox
    · rename_i hread
      obtain ⟨name, hname, hoffered⟩ := Option.bind_eq_some_iff.mp hbbox
      exact hfirst before moment.2 after hsplit hread name bbox hname hoffered
    · cases hbbox

/-! ## The manager of the semantic service -/

/-- The state of a `GlobalCity2GraphManager`, and of its service the cities with districts, with
the boxes these were made for. -/
structure GlobalManager where
  isEnabled : Bool := true
  initializedCities : Finset String := ∅
  semanticDistricts : OrderedMap String BBox := .empty

/-- `_detect_city_from_places`. -/
def detectCityFromPlaces : List PyDict → Except PyError (Option String) :=
  detectCity knownRegions fun _ _ => "ciudad_desconocida"

/-- `_calculate_bbox_from_places`. -/
def calculateBBoxFromPlaces : List PyDict → Except PyError BBox := calculateBBox 0.05

/-- `initialize_city_if_needed`. -/
def initializeCityIfNeeded (manager : GlobalManager) (handled : HandledRequest) :
    Bool × GlobalManager :=
  if manager.isEnabled then
    match handled.request.resolveName detectCityFromPlaces with
    | .error _ => (false, manager)
    | .ok none => (false, manager)
    | .ok (some name) =>
        if name = "" ∨ name ∈ manager.initializedCities then
          (name ∈ manager.initializedCities, manager)
        else
          match calculateBBoxFromPlaces handled.request.places with
          | .error _ => (false, manager)
          | .ok bbox =>
              if handled.succeeds then
                (true,
                  { manager with
                    initializedCities := insert name manager.initializedCities
                    semanticDistricts := manager.semanticDistricts.set name bbox })
              else (false, manager)
  else (false, manager)

/-- `get_smart_clustering_suggestions` reads the coordinates of every place by their keys. -/
def readsPlaces (handled : HandledRequest) : Bool :=
  handled.request.places.all fun place =>
    PyDict.has place "lat" && PyDict.has place "lon" && (placePosition place).isSome

/-- `get_semantic_clustering`: the box of the analysis that the suggestions are taken from. -/
def getSemanticClustering (manager : GlobalManager) (handled : HandledRequest) :
    Option BBox × GlobalManager :=
  if manager.isEnabled then
    let next := (initializeCityIfNeeded manager handled).2
    match handled.request.resolveName detectCityFromPlaces with
    | .ok (some name) =>
        (if name ≠ "" ∧ readsPlaces handled then next.semanticDistricts.get? name else none, next)
    | _ => (none, next)
  else (none, manager)

/-- What a request offers to the manager. -/
def globalOffer : HandledRequest → Offer String BBox :=
  offerOf detectCityFromPlaces calculateBBoxFromPlaces

/-- The initialized cities are those with districts, and the districts are made for the first
boxes of their names. -/
structure GlobalManager.Kept (past : List HandledRequest) (manager : GlobalManager) : Prop where
  isEnabled : manager.isEnabled = true
  agrees : ∀ name, name ∈ manager.initializedCities ↔ name ∈ manager.semanticDistricts.keys
  districts : manager.semanticDistricts = (past.map globalOffer).foldl keepFirst .empty

theorem resolveGlobalName_ne_empty {request : CityRequest} {name : String}
    (hname : request.resolveName detectCityFromPlaces = .ok (some name)) : name ≠ "" := by
  apply resolveName_ne_empty _ _ hname
  · decide
  · intro _ _
    decide

theorem key_offerOf {detect : List PyDict → Except PyError (Option String)}
    {bboxOf : List PyDict → Except PyError BBox} {handled : HandledRequest} {name : Option String}
    (hresolve : handled.request.resolveName detect = .ok name) :
    (offerOf detect bboxOf handled).key = name := by
  simp [offerOf, hresolve, Except.toOption]

/-- A request leaves the manager with what it offers, if the name is new. -/
theorem GlobalManager.Kept.initializing {past : List HandledRequest} {manager : GlobalManager}
    (hkept : manager.Kept past) (handled : HandledRequest) :
    (initializeCityIfNeeded manager handled).2.Kept (past ++ [handled]) := by
  have hstays : keepFirst manager.semanticDistricts (globalOffer handled) =
      manager.semanticDistricts → manager.Kept (past ++ [handled]) := fun hsame =>
    ⟨hkept.isEnabled, hkept.agrees, by
      rw [List.map_append, List.foldl_append, ← hkept.districts]
      exact hsame.symm⟩
  unfold initializeCityIfNeeded
  rw [if_pos hkept.isEnabled]
  split
  · rename_i hresolve
    apply hstays
    apply keepFirst_of_key_eq_none
    simp [globalOffer, offerOf, hresolve, Except.toOption]
  · rename_i hresolve
    exact hstays (keepFirst_of_key_eq_none (key_offerOf hresolve))
  · rename_i name hresolve
    have hkey : (globalOffer handled).key = some name := key_offerOf hresolve
    split
    · rename_i hknown
      have hmem : name ∈ manager.initializedCities :=
        hknown.resolve_left (resolveGlobalName_ne_empty hresolve)
      exact hstays (keepFirst_of_mem hkey ((hkept.agrees name).mp hmem))
    · rename_i hnew
      split
      · rename_i hraised
        apply hstays
        apply keepFirst_of_value_eq_none
        simp [globalOffer, offerOf, hraised, Except.toOption]
      · rename_i bbox hbbox
        split
        · rename_i hsucceeds
          have hnotMem : name ∉ manager.semanticDistricts.keys := fun hmem =>
            hnew (.inr ((hkept.agrees name).mpr hmem))
          have hvalue : (globalOffer handled).value = some bbox := by
            simp [globalOffer, offerOf, hbbox, hsucceeds, Except.toOption]
          refine ⟨hkept.isEnabled, fun city => ?_, ?_⟩
          · rw [OrderedMap.mem_keys_set, Finset.mem_insert, hkept.agrees city]
          · rw [List.map_append, List.foldl_append, ← hkept.districts]
            exact (keepFirst_of_not_mem hkey hvalue hnotMem).symm
        · rename_i hfails
          apply hstays
          apply keepFirst_of_value_eq_none
          simp [globalOffer, offerOf, hfails]

/-- The manager after a request. -/
def handleGlobal (manager : GlobalManager) (handled : HandledRequest) : GlobalManager :=
  (getSemanticClustering manager handled).2

/-- After some requests the manager has the first boxes of their names. -/
theorem kept_runEnd_handleGlobal (requests : List HandledRequest) :
    (runEnd handleGlobal {} requests).Kept requests := by
  apply runEnd_history
  · exact ⟨rfl, fun name => by simp [OrderedMap.keys, OrderedMap.empty], rfl⟩
  · intro past manager handled _ hkept
    have hhandle : handleGlobal manager handled = (initializeCityIfNeeded manager handled).2 := by
      unfold handleGlobal getSemanticClustering
      rw [if_pos hkept.isEnabled]
      dsimp only
      split <;> rfl
    rw [hhandle]
    exact hkept.initializing handled

/-- Suggestions are taken from the first box of the name. -/
theorem getSemanticClustering_eq (before : List HandledRequest) (handled : HandledRequest) :
    (getSemanticClustering (runEnd handleGlobal {} before) handled).1 =
      if readsPlaces handled then
        (globalOffer handled).key.bind fun name =>
          firstOffered name ((before ++ [handled]).map globalOffer)
      else none := by
  have hkept := kept_runEnd_handleGlobal before
  have hnext := hkept.initializing handled
  unfold getSemanticClustering
  rw [if_pos hkept.isEnabled]
  dsimp only
  split
  · rename_i name hresolve
    have hkey : (globalOffer handled).key = some name := key_offerOf hresolve
    have hfirst : (initializeCityIfNeeded (runEnd handleGlobal {} before)
        handled).2.semanticDistricts.get? name =
        firstOffered name ((before ++ [handled]).map globalOffer) := by
      rw [hnext.districts, get?_foldl_keepFirst]
      rfl
    rw [hkey, Option.bind_some, ← hfirst]
    simp [resolveGlobalName_ne_empty hresolve]
  · rename_i hnone
    have hkey : (globalOffer handled).key = none := by
      cases hresolve : handled.request.resolveName detectCityFromPlaces with
      | error e => simp [globalOffer, offerOf, hresolve, Except.toOption]
      | ok name =>
          cases name with
          | none => exact key_offerOf hresolve
          | some name => exact absurd hresolve (hnone name)
    rw [hkey]
    simp

/-! ## The manager with real data -/

/-- The state of a `GlobalRealCity2GraphManager`, and of its service the cities with districts,
with the boxes these were made for. -/
structure RealRequests where
  manager : RealManager := {}
  districts : OrderedMap String BBox := .empty

/-- `initialize_city_real_if_needed` for a request that nothing comes between. -/
def initializeCityRealIfNeeded (state : RealRequests) (handled : HandledRequest) :
    Bool × RealRequests :=
  match beginInitializeCityReal state.manager handled.request with
  | (.returned answer, manager) => (answer, { state with manager := manager })
  | (.awaiting name bbox, manager) =>
      let finished := finishInitializeCityReal manager name (.returned handled.succeeds)
      (finished.1,
        { manager := finished.2
          districts :=
            if handled.succeeds then state.districts.set name bbox else state.districts })

/-- `get_real_semantic_clustering`: the box of the analysis that the recommendations are taken
from. -/
def getRealSemanticClustering (state : RealRequests) (handled : HandledRequest) :
    Option BBox × RealRequests :=
  if state.manager.isEnabled then
    match initializeCityRealIfNeeded state handled with
    | (false, next) => (none, next)
    | (true, next) =>
        match handled.request.resolveName detectRealCityFromPlaces with
        | .ok (some name) =>
            (if name ≠ "" ∧ name ∈ next.manager.initializedCities then next.districts.get? name
              else none, next)
        | _ => (none, next)
  else (none, state)

/-- What a request offers to the manager. -/
def realOffer : HandledRequest → Offer String BBox :=
  offerOf detectRealCityFromPlaces calculateRealBBox

/-- The state after a request. -/
def handleReal (state : RealRequests) (handled : HandledRequest) : RealRequests :=
  (getRealSemanticClustering state handled).2

/-- Between requests nothing is in flight; the initialized cities are those with districts, and
the districts are made for the first boxes of their names. -/
structure RealRequests.Kept (past : List HandledRequest) (state : RealRequests) : Prop where
  isEnabled : state.manager.isEnabled = true
  statuses : ∃ log, StatusesAgree { manager := state.manager, inFlight := [], log := log }
  agrees : ∀ name, name ∈ state.manager.initializedCities ↔ name ∈ state.districts.keys
  districts : state.districts = (past.map realOffer).foldl keepFirst .empty

section Real

variable {past : List HandledRequest} {state : RealRequests} {handled : HandledRequest}

/-- A call that returns without waiting leaves the statuses in agreement. -/
theorem RealRequests.Kept.statuses_returned (hkept : state.Kept past) {answer : Bool}
    {manager : RealManager}
    (hbegin : beginInitializeCityReal state.manager handled.request =
      (.returned answer, manager)) :
    ∃ log, StatusesAgree { manager := manager, inFlight := [], log := log } := by
  obtain ⟨log, hagree⟩ := hkept.statuses
  have hcall := hagree.call handled.request
  unfold initializationStep at hcall
  simp only [hbegin] at hcall
  exact ⟨log, hcall⟩

/-- So does a call that waits and goes on. -/
theorem RealRequests.Kept.statuses_awaiting (hkept : state.Kept past) {name : String}
    {bbox : BBox} {manager : RealManager}
    (hbegin : beginInitializeCityReal state.manager handled.request =
      (.awaiting name bbox, manager)) (outcome : InitializationOutcome) :
    ∃ log, StatusesAgree
      { manager := (finishInitializeCityReal manager name outcome).2, inFlight := [],
        log := log } := by
  obtain ⟨log, hagree⟩ := hkept.statuses
  have hresume := (hagree.call handled.request).resume 0 outcome
  unfold initializationStep at hresume
  simp only [hbegin, List.nil_append, List.getElem?_cons_zero, List.eraseIdx_cons_zero] at hresume
  exact ⟨_, hresume⟩

/-- A request that leaves the cities as they are offers nothing new. -/
theorem RealRequests.Kept.stay (hkept : state.Kept past) {manager : RealManager}
    (hisEnabled : manager.isEnabled = true)
    (hstatuses : ∃ log, StatusesAgree { manager := manager, inFlight := [], log := log })
    (hcities : manager.initializedCities = state.manager.initializedCities)
    (hsame : keepFirst state.districts (realOffer handled) = state.districts) :
    { state with manager := manager }.Kept (past ++ [handled]) where
  isEnabled := hisEnabled
  statuses := hstatuses
  agrees := fun name => by
    rw [hcities]
    exact hkept.agrees name
  districts := by
    rw [List.map_append, List.foldl_append, ← hkept.districts]
    exact hsame.symm

/-- A request that starts a city and succeeds adds what it offers. -/
theorem RealRequests.Kept.add (hkept : state.Kept past) {manager : RealManager} {name : String}
    {bbox : BBox} (hisEnabled : manager.isEnabled = true)
    (hstatuses : ∃ log, StatusesAgree { manager := manager, inFlight := [], log := log })
    (hcities : manager.initializedCities = insert name state.manager.initializedCities)
    (hnew : name ∉ state.manager.initializedCities)
    (hkey : (realOffer handled).key = some name) (hvalue : (realOffer handled).value = some bbox) :
    RealRequests.Kept (past ++ [handled])
      { manager := manager, districts := state.districts.set name bbox } where
  isEnabled := hisEnabled
  statuses := hstatuses
  agrees := fun city => by
    rw [hcities, Finset.mem_insert, hkept.agrees city, OrderedMap.mem_keys_set]
  districts := by
    have hnotMem : name ∉ state.districts.keys := fun hmem => hnew ((hkept.agrees name).mpr hmem)
    rw [List.map_append, List.foldl_append, ← hkept.districts]
    exact (keepFirst_of_not_mem hkey hvalue hnotMem).symm

/-- What a request does, by its name and its box. -/
theorem RealRequests.Kept.begin_cases (hkept : state.Kept past) (handled : HandledRequest) :
    (∃ answer manager, beginInitializeCityReal state.manager handled.request =
        (.returned answer, manager) ∧ manager.isEnabled = true ∧
          manager.initializedCities = state.manager.initializedCities ∧
            keepFirst state.districts (realOffer handled) = state.districts ∧
              ∀ name, handled.request.resolveName detectRealCityFromPlaces = .ok (some name) →
                (answer = true ↔ name ∈ state.manager.initializedCities)) ∨
      ∃ name bbox, beginInitializeCityReal state.manager handled.request =
        (.awaiting name bbox, state.manager.setStatus (some name) .inProgress) ∧
          handled.request.resolveName detectRealCityFromPlaces = .ok (some name) ∧
            calculateRealBBox handled.request.places = .ok bbox ∧
              name ∉ state.manager.initializedCities := by
  cases hresolve : handled.request.resolveName detectRealCityFromPlaces with
  | error e =>
      have hsame : keepFirst state.districts (realOffer handled) = state.districts := by
        apply keepFirst_of_key_eq_none
        simp [realOffer, offerOf, hresolve, Except.toOption]
      refine .inl ⟨false, state.manager.setStatus handled.request.cityName .failed, ?_,
        hkept.isEnabled, rfl, hsame, by simp⟩
      unfold beginInitializeCityReal
      rw [if_pos hkept.isEnabled, hresolve]
  | ok found =>
      have hkey : (realOffer handled).key = found := key_offerOf hresolve
      cases found with
      | none =>
          refine .inl ⟨false, state.manager, ?_, hkept.isEnabled, rfl,
            keepFirst_of_key_eq_none hkey, by simp⟩
          unfold beginInitializeCityReal
          rw [if_pos hkept.isEnabled, hresolve]
      | some name =>
          obtain ⟨log, hagree⟩ := hkept.statuses
          have hbegin := hagree.begin_eq hkept.isEnabled hresolve List.not_mem_nil
          by_cases hthere : name ∈ state.manager.initializedCities
          · rw [if_pos hthere] at hbegin
            refine .inl ⟨true, state.manager, hbegin, hkept.isEnabled, rfl,
              keepFirst_of_mem hkey ((hkept.agrees name).mp hthere), ?_⟩
            rintro other hother
            cases hother
            exact iff_of_true rfl hthere
          · rw [if_neg hthere] at hbegin
            cases hbbox : calculateRealBBox handled.request.places with
            | error e =>
                rw [hbbox] at hbegin
                have hsame : keepFirst state.districts (realOffer handled) = state.districts := by
                  apply keepFirst_of_value_eq_none
                  simp [realOffer, offerOf, hbbox, Except.toOption]
                refine .inl ⟨false, _, hbegin, hkept.isEnabled, rfl, hsame, ?_⟩
                rintro other hother
                cases hother
                exact iff_of_false (by simp) hthere
            | ok bbox =>
                rw [hbbox] at hbegin
                exact .inr ⟨name, bbox, hbegin, rfl, rfl, hthere⟩

/-- A request leaves the state with what it offers, if the name is new, and says whether the city
is there. -/
theorem RealRequests.Kept.initializing (hkept : state.Kept past) (handled : HandledRequest) :
    (initializeCityRealIfNeeded state handled).2.Kept (past ++ [handled]) ∧
      ∀ name, handled.request.resolveName detectRealCityFromPlaces = .ok (some name) →
        ((initializeCityRealIfNeeded state handled).1 = true ↔
          name ∈ (initializeCityRealIfNeeded state handled).2.manager.initializedCities) := by
  unfold initializeCityRealIfNeeded
  rcases hkept.begin_cases handled with
    ⟨answer, manager, hbegin, hisEnabled, hcities, hsame, hanswer⟩ |
      ⟨name, bbox, hbegin, hresolve, hbbox, hnew⟩
  · rw [hbegin]
    refine ⟨hkept.stay hisEnabled (hkept.statuses_returned hbegin) hcities hsame, ?_⟩
    intro name hname
    exact hcities ▸ hanswer name hname
  · have hstatuses := hkept.statuses_awaiting hbegin (.returned handled.succeeds)
    have hkey : (realOffer handled).key = some name := key_offerOf hresolve
    rw [hbegin]
    cases hsucceeds : handled.succeeds with
    | false =>
        rw [hsucceeds] at hstatuses
        have hsame : keepFirst state.districts (realOffer handled) = state.districts := by
          apply keepFirst_of_value_eq_none
          simp [realOffer, offerOf, hsucceeds]
        refine ⟨hkept.stay hkept.isEnabled hstatuses rfl hsame, ?_⟩
        intro other hother
        cases hresolve.symm.trans hother
        exact iff_of_false (by simp [finishInitializeCityReal]) hnew
    | true =>
        rw [hsucceeds] at hstatuses
        have hvalue : (realOffer handled).value = some bbox := by
          simp [realOffer, offerOf, hbbox, hsucceeds, Except.toOption]
        refine ⟨hkept.add hkept.isEnabled hstatuses rfl hnew hkey hvalue, ?_⟩
        intro other hother
        cases hresolve.symm.trans hother
        exact iff_of_true rfl (Finset.mem_insert_self _ _)

/-- After some requests the service has the first boxes of their names. -/
theorem kept_runEnd_handleReal (requests : List HandledRequest) :
    (runEnd handleReal {} requests).Kept requests := by
  apply runEnd_history
  · exact ⟨rfl, ⟨[], statusesAgree_initial true⟩,
      fun name => by simp [OrderedMap.keys, OrderedMap.empty], rfl⟩
  · intro past state handled _ hkept
    have hhandle : handleReal state handled = (initializeCityRealIfNeeded state handled).2 := by
      unfold handleReal getRealSemanticClustering
      rw [if_pos hkept.isEnabled]
      split
      · rename_i next hnext
        rw [hnext]
      · rename_i next hnext
        rw [hnext]
        split <;> rfl
    rw [hhandle]
    exact (hkept.initializing handled).1

/-- Recommendations are taken from the first box of the name. -/
theorem getRealSemanticClustering_eq (before : List HandledRequest) (handled : HandledRequest) :
    (getRealSemanticClustering (runEnd handleReal {} before) handled).1 =
      (realOffer handled).key.bind fun name =>
        firstOffered name ((before ++ [handled]).map realOffer) := by
  have hkept := kept_runEnd_handleReal before
  obtain ⟨hnext, hanswer⟩ := hkept.initializing handled
  have hfirst : ∀ name,
      (initializeCityRealIfNeeded (runEnd handleReal {} before) handled).2.districts.get? name =
        firstOffered name ((before ++ [handled]).map realOffer) := by
    intro name
    rw [hnext.districts, get?_foldl_keepFirst]
    rfl
  unfold getRealSemanticClustering
  rw [if_pos hkept.isEnabled]
  generalize initializeCityRealIfNeeded (runEnd handleReal {} before) handled = outcome
    at hnext hanswer hfirst ⊢
  obtain ⟨initialized, next⟩ := outcome
  cases hresolve : handled.request.resolveName detectRealCityFromPlaces with
  | error e =>
      have hkey : (realOffer handled).key = none := by
        simp [realOffer, offerOf, hresolve, Except.toOption]
      cases initialized <;> simp [hkey]
  | ok found =>
      have hkey : (realOffer handled).key = found := key_offerOf hresolve
      cases found with
      | none => cases initialized <;> simp [hkey]
      | some name =>
          have hthere := hanswer name hresolve
          rw [hkey, Option.bind_some, ← hfirst name]
          cases initialized with
          | false =>
              have hnotMem : name ∉ next.districts.keys := fun hmem =>
                absurd (hthere.mpr ((hnext.agrees name).mpr hmem)) (by simp)
              exact (OrderedMap.not_mem_keys_iff.mp hnotMem).symm
          | true => exact if_pos ⟨resolveRealName_ne_empty hresolve, hthere.mp rfl⟩

end Real

/-! ## Both managers -/

/-- For either manager, every answer is taken from an analysis around the places of its request
exactly when these lie in the first box that is offered for the name of the request. -/
theorem answeredWithin_iff_firstBoxesContain (requests : List HandledRequest) :
    (AnsweredWithin handleGlobal (fun manager handled => (getSemanticClustering manager handled).1)
        {} requests ↔ FirstBoxesContain globalOffer readsPlaces requests) ∧
      (AnsweredWithin handleReal (fun state handled => (getRealSemanticClustering state handled).1)
        {} requests ↔ FirstBoxesContain realOffer (fun _ => true) requests) := by
  constructor
  · exact answeredWithin_iff getSemanticClustering_eq requests
  · apply answeredWithin_iff
    intro before handled
    exact getRealSemanticClustering_eq before handled

/-- A request for one place whose city can be initialized. -/
def requestAt (lat lon : ℚ) : HandledRequest where
  request := { places := [placeAt lat lon] }
  succeeds := true

/-- A place in Paris is looked up around a place in London, which is somewhere else too, and one
east of Greenwich around one that is as far west of it. -/
theorem not_answeredWithin :
    ¬AnsweredWithin handleGlobal (fun manager handled => (getSemanticClustering manager handled).1)
        {} [requestAt 51.5 (-0.1), requestAt 48.9 2.3] ∧
      ¬AnsweredWithin handleReal (fun state handled => (getRealSemanticClustering state handled).1)
        {} [requestAt 51.5 (-0.1), requestAt 51.5 0.1] := by
  constructor
  · intro hwithin
    have hcontains := hwithin (runEnd handleGlobal {} [requestAt 51.5 (-0.1)], requestAt 48.9 2.3)
      (mem_moments_iff.mpr ⟨[requestAt 51.5 (-0.1)], [], rfl, rfl⟩)
      ⟨51.45, 51.55, -0.15, -0.05⟩ (by decide +kernel) (placeAt 48.9 2.3) (by simp [requestAt])
      (48.9, 2.3) rfl
    exact absurd hcontains.1.1 (by norm_num)
  · intro hwithin
    have hcontains := hwithin (runEnd handleReal {} [requestAt 51.5 (-0.1)], requestAt 51.5 0.1)
      (mem_moments_iff.mpr ⟨[requestAt 51.5 (-0.1)], [], rfl, rfl⟩)
      ⟨51.48, 51.52, -0.12, -0.08⟩ (by decide +kernel) (placeAt 51.5 0.1) (by simp [requestAt])
      (51.5, 0.1) rfl
    exact absurd hcontains.2.2 (by norm_num)

end Goveling.Semantic
