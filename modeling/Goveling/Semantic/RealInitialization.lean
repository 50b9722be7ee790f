/-
# Initializing cities with real data

`initialize_city_real_if_needed` marks a city as in progress, waits for the
download, and notes how it ended. Calls run one after the other up to the await,
and while one waits others come by. The set of initialized cities and the map of
statuses are kept so that a name is in flight exactly while its status says so:
nobody starts a city twice at a time, or again once it is there, and after a
failure the next call starts it anew.
-/

import Goveling.Math.OrderedMap
import Goveling.Math.Runs
import Goveling.Semantic.CityNames
import Mathlib.Data.Finset.Insert

namespace Goveling.Semantic

open Goveling.Math Goveling.Python

/-! ## The manager -/

/-- The values of `initialization_status`. -/
inductive InitializationStatus
  | inProgress | completed | failed
  deriving DecidableEq

/-- The state of a `GlobalRealCity2GraphManager`. A status may stand under `None` when the
detection of a name has raised. -/
structure RealManager where
  isEnabled : Bool := true
  initializedCities : Finset String := ∅
  initializationStatus : OrderedMap (Option String) InitializationStatus := .empty

/-- The name of places outside of the regions. -/
def coordinateName (centerLat centerLon : ℚ) : String :=
  "city_" ++ fixedText 1 |centerLat| ++ "_" ++ fixedText 1 |centerLon|

/-- `_detect_city_from_places` of the manager with real data. -/
def detectRealCityFromPlaces : List PyDict → Except PyError (Option String) :=
  detectCity (knownRegions ++ [⟨"valparaiso", -33.1, -32.8, -71.6, -71.4⟩]) coordinateName

/-- `_calculate_bbox_from_places` of the manager with real data. -/
def calculateRealBBox : List PyDict → Except PyError BBox := calculateBBox 0.02

/-- Write a status. -/
def RealManager.setStatus (manager : RealManager) (name : Option String)
    (status : InitializationStatus) : RealManager :=
  { manager with initializationStatus := manager.initializationStatus.set name status }

/-- How far a call comes without waiting: it returns, or it awaits the download for a name. -/
inductive CallProgress
  | returned (answer : Bool)
  | awaiting (name : String) (bbox : BBox)

/-- `initialize_city_real_if_needed` up to the await. -/
def beginInitializeCityReal (manager : RealManager) (request : CityRequest) :
    CallProgress × RealManager :=
  if manager.isEnabled then
    match request.resolveName detectRealCityFromPlaces with
    | .error _ => (.returned false, manager.setStatus request.cityName .failed)
    | .ok none => (.returned false, manager)
    | .ok (some name) =>
        if name = "" ∨ name ∈ manager.initializedCities then
          (.returned (name ∈ manager.initializedCities), manager)
        else
          match manager.initializationStatus.get? (some name) with
          | some .inProgress => (.returned false, manager)
          | some .completed =>
              (.returned true,
                { manager with initializedCities := insert name manager.initializedCities })
          | _ =>
              let marked := manager.setStatus (some name) .inProgress
              match calculateRealBBox request.places with
              | .error _ => (.returned false, marked.setStatus (some name) .failed)
              | .ok bbox => (.awaiting name bbox, marked)
  else (.returned false, manager)

/-- How `initialize_city_real` ends. -/
inductive InitializationOutcome
  | returned (success : Bool)
  | raised (e : PyError)

/-- `initialize_city_real_if_needed` after the await. -/
def finishInitializeCityReal (manager : RealManager) (name : String) :
    InitializationOutcome → Bool × RealManager
  | .returned true =>
      (true,
        { manager with initializedCities := insert name manager.initializedCities }.setStatus
          (some name) .completed)
  | .returned false => (false, manager.setStatus (some name) .failed)
  | .raised _ => (false, manager.setStatus (some name) .failed)

/-! ## Calls that interleave -/

/-- What is noted of an initialization. -/
inductive InitializationEntry
  | started (name : String) (bbox : BBox)
  | ended (name : String) (outcome : InitializationOutcome)

/-- A manager, the names that calls wait for, and what has been started and has ended. -/
structure InitializationSystem where
  manager : RealManager
  inFlight : List String := []
  log : List InitializationEntry := []

/-- A call comes in and runs to its await, or the call at a position among the waiting ones goes
on with an outcome. -/
inductive InitializationEvent
  | call (request : CityRequest)
  | resume (position : ℕ) (outcome : InitializationOutcome)

/-- The system after an event. -/
def initializationStep (system : InitializationSystem) :
    InitializationEvent → InitializationSystem
  | .call request =>
      match beginInitializeCityReal system.manager request with
      | (.returned _, manager) => { system with manager := manager }
      | (.awaiting name bbox, manager) =>
          { manager := manager
            inFlight := system.inFlight ++ [name]
            log := system.log ++ [.started name bbox] }
  | .resume position outcome =>
      match system.inFlight[position]? with
      | none => system
      | some name =>
          { manager := (finishInitializeCityReal system.manager name outcome).2
            inFlight := system.inFlight.eraseIdx position
            log := system.log ++ [.ended name outcome] }

/-- A city whose initialization has succeeded is not started later. -/
def NotAgain (earlier later : InitializationEntry) : Prop :=
  ∀ name bbox, earlier = .ended name (.returned true) → later ≠ .started name bbox

/-- The promises of the manager. -/
structure InitializationSafe (system : InitializationSystem) : Prop where
  oneInFlight : system.inFlight.Nodup
  afterSuccess : ∀ name ∈ system.manager.initializedCities,
    .ended name (.returned true) ∈ system.log
  notAgain : system.log.Pairwise NotAgain
  afterFailure : ∀ position name outcome, system.inFlight[position]? = some name →
    outcome ≠ .returned true →
      name ∉ (initializationStep system (.resume position outcome)).manager.initializedCities ∧
        name ∉ (initializationStep system (.resume position outcome)).inFlight
  retried : ∀ request name bbox, system.manager.isEnabled = true →
    request.resolveName detectRealCityFromPlaces = .ok (some name) →
      calculateRealBBox request.places = .ok bbox →
        name ∉ system.manager.initializedCities → name ∉ system.inFlight →
          name ∈ (initializationStep system (.call request)).inFlight

/-! ## The invariant -/

/-- The statuses say what is in flight and what is there. -/
structure StatusesAgree (system : InitializationSystem) : Prop where
  nodup : system.inFlight.Nodup
  nonempty : "" ∉ system.inFlight ∧ "" ∉ system.manager.initializedCities
  inProgress_iff : ∀ name,
    system.manager.initializationStatus.get? (some name) = some .inProgress ↔
      name ∈ system.inFlight
  completed_iff : ∀ name,
    system.manager.initializationStatus.get? (some name) = some .completed ↔
      name ∈ system.manager.initializedCities
  succeeded_iff : ∀ name,
    .ended name (.returned true) ∈ system.log ↔ name ∈ system.manager.initializedCities
  notAgain : system.log.Pairwise NotAgain

@[simp]
theorem get?_setStatus (manager : RealManager) (name other : Option String)
    (status : InitializationStatus) :
    (manager.setStatus name status).initializationStatus.get? other =
      if other = name then some status else manager.initializationStatus.get? other :=
  OrderedMap.get?_set _ _ _ _

@[simp]
theorem initializedCities_setStatus (manager : RealManager) (name : Option String)
    (status : InitializationStatus) :
    (manager.setStatus name status).initializedCities = manager.initializedCities := rfl

theorem setStatus_setStatus (manager : RealManager) (name : Option String)
    (first second : InitializationStatus) :
    (manager.setStatus name first).setStatus name second = manager.setStatus name second := by
  simp only [RealManager.setStatus, OrderedMap.set_set]

theorem resolveRealName_ne_empty {request : CityRequest} {name : String}
    (hname : request.resolveName detectRealCityFromPlaces = .ok (some name)) : name ≠ "" := by
  apply resolveName_ne_empty _ _ hname
  · decide
  · intro centerLat centerLon hempty
    have hletters := congrArg String.toList hempty
    simp [coordinateName] at hletters

/-- What a call does before it waits: it returns and leaves the manager alone, it notes a failure
of a name that is neither in flight nor there, or it starts such a name. -/
theorem beginInitializeCityReal_cases {system : InitializationSystem}
    (hagree : StatusesAgree system) (request : CityRequest) :
    (∃ answer, beginInitializeCityReal system.manager request =
        (.returned answer, system.manager)) ∨
      (∃ name, beginInitializeCityReal system.manager request =
        (.returned false, system.manager.setStatus name .failed) ∧
          ∀ city, name = some city →
            city ∉ system.inFlight ∧ city ∉ system.manager.initializedCities) ∨
      ∃ name bbox, beginInitializeCityReal system.manager request =
        (.awaiting name bbox, system.manager.setStatus (some name) .inProgress) ∧
          name ≠ "" ∧ name ∉ system.inFlight ∧ name ∉ system.manager.initializedCities := by
  unfold beginInitializeCityReal
  split
  · split
    · rename_i hraised
      refine .inr (.inl ⟨request.cityName, rfl, fun city hcity => ?_⟩)
      have hgiven : request.givenName = none := by
        unfold CityRequest.resolveName at hraised
        split at hraised
        · cases hraised
        · assumption
      have hempty : city = "" := by simpa [CityRequest.givenName, hcity] using hgiven
      exact hempty ▸ hagree.nonempty
    · exact .inl ⟨false, rfl⟩
    · rename_i name hname
      split
      · exact .inl ⟨_, rfl⟩
      · rename_i hnew
        obtain ⟨hne, hnotThere⟩ := not_or.mp hnew
        split
        · exact .inl ⟨false, rfl⟩
        · rename_i hcompleted
          exact absurd ((hagree.completed_iff name).mp hcompleted) hnotThere
        · rename_i hnotInProgress _
          have hnotInFlight : name ∉ system.inFlight := fun hmem =>
            hnotInProgress ((hagree.inProgress_iff name).mpr hmem)
          dsimp only
          split
          · refine .inr (.inl ⟨some name, ?_, fun city hcity => ?_⟩)
            · rw [setStatus_setStatus]
            · cases hcity
              exact ⟨hnotInFlight, hnotThere⟩
          · exact .inr (.inr ⟨name, _, rfl, hne, hnotInFlight, hnotThere⟩)
  · exact .inl ⟨false, rfl⟩

/-- A status that is noted for a name says the same of the other names as before. -/
theorem get?_setStatus_some_iff {manager : RealManager} {name : String}
    {status wanted : InitializationStatus} {before after : String → Prop}
    (hbefore : ∀ city, manager.initializationStatus.get? (some city) = some wanted ↔ before city)
    (hname : status = wanted ↔ after name)
    (hothers : ∀ city, city ≠ name → (after city ↔ before city)) (city : String) :
    (manager.setStatus (some name) status).initializationStatus.get? (some city) = some wanted ↔
      after city := by
  rw [get?_setStatus]
  by_cases hcity : city = name
  · rw [if_pos (congrArg some hcity), hcity, ← hname]
    exact Option.some_inj
  · rw [if_neg fun hsome => hcity (Option.some.inj hsome), hothers city hcity]
    exact hbefore city

/-- A failure that is noted for a name which is neither in flight nor there. -/
theorem StatusesAgree.setFailed {system : InitializationSystem} (hagree : StatusesAgree system)
    {name : Option String} (hfree : ∀ city, name = some city →
      city ∉ system.inFlight ∧ city ∉ system.manager.initializedCities) :
    StatusesAgree { system with manager := system.manager.setStatus name .failed } where
  nodup := hagree.nodup
  nonempty := hagree.nonempty
  inProgress_iff := fun city => by
    rw [get?_setStatus]
    by_cases hcity : some city = name
    · rw [if_pos hcity]
      exact iff_of_false (by simp) (hfree city hcity.symm).1
    · rw [if_neg hcity]
      exact hagree.inProgress_iff city
  completed_iff := fun city => by
    rw [get?_setStatus]
    by_cases hcity : some city = name
    · rw [if_pos hcity]
      exact iff_of_false (by simp) (hfree city hcity.symm).2
    · rw [if_neg hcity]
      exact hagree.completed_iff city
  succeeded_iff := hagree.succeeded_iff
  notAgain := hagree.notAgain

/-- An initialization that is started for such a name. -/
theorem StatusesAgree.start {system : InitializationSystem} (hagree : StatusesAgree system)
    {name : String} (bbox : BBox) (hne : name ≠ "") (hnotInFlight : name ∉ system.inFlight)
    (hnotThere : name ∉ system.manager.initializedCities) :
    StatusesAgree
      { manager := system.manager.setStatus (some name) .inProgress
        inFlight := system.inFlight ++ [name]
        log := system.log ++ [.started name bbox] } where
  nodup := List.nodup_append.mpr ⟨hagree.nodup, List.nodup_singleton name, by
    intro city hcity other hother
    rw [List.mem_singleton.mp hother]
    exact fun heq => hnotInFlight (heq ▸ hcity)⟩
  nonempty := by
    refine ⟨?_, hagree.nonempty.2⟩
    rw [List.mem_append, List.mem_singleton, not_or]
    exact ⟨hagree.nonempty.1, hne.symm⟩
  inProgress_iff := get?_setStatus_some_iff hagree.inProgress_iff (by simp)
    fun city hcity => by simp [hcity]
  completed_iff := get?_setStatus_some_iff hagree.completed_iff (iff_of_false nofun hnotThere)
    fun _ _ => Iff.rfl
  succeeded_iff := fun city => by
    rw [List.mem_append]
    simpa using hagree.succeeded_iff city
  notAgain := by
    refine List.pairwise_append.mpr ⟨hagree.notAgain, List.pairwise_singleton _ _, ?_⟩
    rintro earlier hearlier later hlater city box rfl hstarted
    rw [List.mem_singleton.mp hlater] at hstarted
    cases hstarted
    exact hnotThere ((hagree.succeeded_iff name).mp hearlier)

/-- A call that comes in. -/
theorem StatusesAgree.call {system : InitializationSystem} (hagree : StatusesAgree system)
    (request : CityRequest) : StatusesAgree (initializationStep system (.call request)) := by
  unfold initializationStep
  dsimp only
  rcases beginInitializeCityReal_cases hagree request with
    ⟨answer, hbegin⟩ | ⟨name, hbegin, hfree⟩ | ⟨name, bbox, hbegin, hne, hnotInFlight, hnotThere⟩
  · rw [hbegin]
    exact hagree
  · rw [hbegin]
    exact hagree.setFailed hfree
  · rw [hbegin]
    exact hagree.start bbox hne hnotInFlight hnotThere

/-- The other names stay in flight when one goes on. -/
theorem mem_eraseIdx_iff {names : List String} (hnodup : names.Nodup) {position : ℕ}
    {name : String} (hname : names[position]? = some name) (city : String) :
    city ∈ names.eraseIdx position ↔ city ≠ name ∧ city ∈ names := by
  obtain ⟨hposition, rfl⟩ := List.getElem?_eq_some_iff.mp hname
  rw [← hnodup.erase_getElem position hposition]
  exact hnodup.mem_erase_iff

section Resume

variable {system : InitializationSystem} {position : ℕ} {name : String}

/-- What is in flight is not there yet. -/
theorem StatusesAgree.not_there (hagree : StatusesAgree system)
    (hname : system.inFlight[position]? = some name) :
    name ∉ system.manager.initializedCities := by
  intro hthere
  have hcompleted := (hagree.completed_iff name).mpr hthere
  rw [(hagree.inProgress_iff name).mpr (List.mem_of_getElem? hname)] at hcompleted
  cases hcompleted

/-- A name that goes on is not in flight any more, whatever status is noted. -/
theorem StatusesAgree.inProgress_of_resume (hagree : StatusesAgree system)
    (hname : system.inFlight[position]? = some name) {status : InitializationStatus}
    (hstatus : status ≠ .inProgress) (city : String) :
    (system.manager.setStatus (some name) status).initializationStatus.get? (some city) =
        some .inProgress ↔ city ∈ system.inFlight.eraseIdx position := by
  have hmem := mem_eraseIdx_iff hagree.nodup hname
  have hown : status = .inProgress ↔ name ∈ system.inFlight.eraseIdx position :=
    iff_of_false hstatus fun herased => ((hmem name).mp herased).1 rfl
  have hothers : ∀ other, other ≠ name →
      (other ∈ system.inFlight.eraseIdx position ↔ other ∈ system.inFlight) :=
    fun other hother => (hmem other).trans (and_iff_right hother)
  exact get?_setStatus_some_iff hagree.inProgress_iff hown hothers city

/-- An initialization that has failed. -/
theorem StatusesAgree.fail (hagree : StatusesAgree system)
    (hname : system.inFlight[position]? = some name) {outcome : InitializationOutcome}
    (hfailed : outcome ≠ .returned true) :
    StatusesAgree
      { manager := system.manager.setStatus (some name) .failed
        inFlight := system.inFlight.eraseIdx position
        log := system.log ++ [.ended name outcome] } where
  nodup := hagree.nodup.eraseIdx position
  nonempty := ⟨fun hempty => hagree.nonempty.1 (List.mem_of_mem_eraseIdx hempty),
    hagree.nonempty.2⟩
  inProgress_iff := hagree.inProgress_of_resume hname nofun
  completed_iff := get?_setStatus_some_iff hagree.completed_iff
    (iff_of_false nofun (hagree.not_there hname)) fun _ _ => Iff.rfl
  succeeded_iff := fun city => by
    rw [List.mem_append, List.mem_singleton, initializedCities_setStatus,
      ← hagree.succeeded_iff city]
    apply or_iff_left
    intro hended
    cases hended
    exact hfailed rfl
  notAgain := by
    refine List.pairwise_append.mpr ⟨hagree.notAgain, List.pairwise_singleton _ _, ?_⟩
    intro earlier _ later hlater city box _ hstarted
    rw [List.mem_singleton.mp hlater] at hstarted
    cases hstarted

/-- An initialization that has succeeded. -/
theorem StatusesAgree.succeed (hagree : StatusesAgree system)
    (hname : system.inFlight[position]? = some name) :
    StatusesAgree
      { manager := { system.manager with
          initializedCities := insert name system.manager.initializedCities }.setStatus
            (some name) .completed
        inFlight := system.inFlight.eraseIdx position
        log := system.log ++ [.ended name (.returned true)] } where
  nodup := hagree.nodup.eraseIdx position
  nonempty := by
    refine ⟨fun hempty => hagree.nonempty.1 (List.mem_of_mem_eraseIdx hempty), ?_⟩
    rw [initializedCities_setStatus, Finset.mem_insert, not_or]
    refine ⟨fun hempty => hagree.nonempty.1 ?_, hagree.nonempty.2⟩
    exact hempty ▸ List.mem_of_getElem? hname
  inProgress_iff := hagree.inProgress_of_resume hname nofun
  completed_iff := get?_setStatus_some_iff hagree.completed_iff
    (iff_of_true rfl (Finset.mem_insert_self name _)) fun city hcity => by simp [hcity]
  succeeded_iff := fun city => by
    rw [initializedCities_setStatus, Finset.mem_insert, ← hagree.succeeded_iff city,
      List.mem_append, List.mem_singleton, InitializationEntry.ended.injEq]
    simp [or_comm]
  notAgain := by
    refine List.pairwise_append.mpr ⟨hagree.notAgain, List.pairwise_singleton _ _, ?_⟩
    intro earlier _ later hlater city box _ hstarted
    rw [List.mem_singleton.mp hlater] at hstarted
    cases hstarted

/-- A call that goes on after a failure. -/
theorem initializationStep_resume_of_failed (hname : system.inFlight[position]? = some name)
    {outcome : InitializationOutcome} (hfailed : outcome ≠ .returned true) :
    initializationStep system (.resume position outcome) =
      { manager := system.manager.setStatus (some name) .failed
        inFlight := system.inFlight.eraseIdx position
        log := system.log ++ [.ended name outcome] } := by
  unfold initializationStep
  simp only [hname]
  cases outcome with
  | returned success =>
      cases success with
      | true => exact absurd rfl hfailed
      | false => rfl
  | raised e => rfl

/-- A call that goes on after a success. -/
theorem initializationStep_resume_of_success (hname : system.inFlight[position]? = some name) :
    initializationStep system (.resume position (.returned true)) =
      { manager := { system.manager with
          initializedCities := insert name system.manager.initializedCities }.setStatus
            (some name) .completed
        inFlight := system.inFlight.eraseIdx position
        log := system.log ++ [.ended name (.returned true)] } := by
  unfold initializationStep
  simp only [hname]
  rfl

/-- A call that goes on after its initialization. -/
theorem StatusesAgree.resume (hagree : StatusesAgree system) (position : ℕ)
    (outcome : InitializationOutcome) :
    StatusesAgree (initializationStep system (.resume position outcome)) := by
  cases hname : system.inFlight[position]? with
  | none =>
      have hstays : initializationStep system (.resume position outcome) = system := by
        unfold initializationStep
        simp only [hname]
      rw [hstays]
      exact hagree
  | some name =>
      by_cases hsuccess : outcome = .returned true
      · rw [hsuccess, initializationStep_resume_of_success hname]
        exact hagree.succeed hname
      · rw [initializationStep_resume_of_failed hname hsuccess]
        exact hagree.fail hname hsuccess

/-- A call for a city that is not in flight: it is there, or its places cannot be boxed, or it
is started. -/
theorem StatusesAgree.begin_eq (hagree : StatusesAgree system) {request : CityRequest}
    (henabled : system.manager.isEnabled = true)
    (hresolve : request.resolveName detectRealCityFromPlaces = .ok (some name))
    (hnotInFlight : name ∉ system.inFlight) :
    beginInitializeCityReal system.manager request =
      if name ∈ system.manager.initializedCities then (.returned true, system.manager)
      else
        match calculateRealBBox request.places with
        | .error _ => (.returned false, system.manager.setStatus (some name) .failed)
        | .ok bbox => (.awaiting name bbox, system.manager.setStatus (some name) .inProgress) := by
  unfold beginInitializeCityReal
  rw [if_pos henabled, hresolve]
  dsimp only
  by_cases hthere : name ∈ system.manager.initializedCities
  · rw [if_pos (.inr hthere), if_pos hthere, decide_eq_true hthere]
  · rw [if_neg (not_or.mpr ⟨resolveRealName_ne_empty hresolve, hthere⟩), if_neg hthere]
    split
    · rename_i hinProgress
      exact absurd ((hagree.inProgress_iff name).mp hinProgress) hnotInFlight
    · rename_i hcompleted
      exact absurd ((hagree.completed_iff name).mp hcompleted) hthere
    · rw [setStatus_setStatus]

/-- A call for a city that is neither there nor in flight starts it. -/
theorem StatusesAgree.call_starts (hagree : StatusesAgree system) {request : CityRequest}
    {bbox : BBox} (henabled : system.manager.isEnabled = true)
    (hresolve : request.resolveName detectRealCityFromPlaces = .ok (some name))
    (hbbox : calculateRealBBox request.places = .ok bbox)
    (hnotThere : name ∉ system.manager.initializedCities) (hnotInFlight : name ∉ system.inFlight) :
    name ∈ (initializationStep system (.call request)).inFlight := by
  have hbegin := hagree.begin_eq henabled hresolve hnotInFlight
  rw [if_neg hnotThere, hbbox] at hbegin
  unfold initializationStep
  simp only [hbegin]
  exact List.mem_append_right _ (List.mem_singleton.mpr rfl)

end Resume

/-- What the promises rest on. -/
theorem StatusesAgree.safe {system : InitializationSystem} (hagree : StatusesAgree system) :
    InitializationSafe system where
  oneInFlight := hagree.nodup
  afterSuccess := fun name => (hagree.succeeded_iff name).mpr
  notAgain := hagree.notAgain
  afterFailure := fun position name outcome hname hfailed => by
    rw [initializationStep_resume_of_failed hname hfailed]
    refine ⟨hagree.not_there hname, fun hmem => ?_⟩
    exact ((mem_eraseIdx_iff hagree.nodup hname name).mp hmem).1 rfl
  retried := fun _ _ _ henabled hresolve hbbox => hagree.call_starts henabled hresolve hbbox

theorem statusesAgree_initial (isEnabled : Bool) :
    StatusesAgree { manager := { isEnabled := isEnabled } } where
  nodup := List.nodup_nil
  nonempty := ⟨List.not_mem_nil, Finset.notMem_empty _⟩
  inProgress_iff := fun name => by simp [OrderedMap.get?, OrderedMap.empty]
  completed_iff := fun name => by simp [OrderedMap.get?, OrderedMap.empty]
  succeeded_iff := fun name => by simp
  notAgain := List.Pairwise.nil

/-- In every interleaving of calls and of the ends of their initializations, a city is in flight
once at most, is there only after a success and is not started again then, and can be started
again after a failure. -/
theorem initializeCityReal_safe (isEnabled : Bool) (events : List InitializationEvent) :
    InitializationSafe
      (runEnd initializationStep { manager := { isEnabled := isEnabled } } events) := by
  have hagree : StatusesAgree
      (runEnd initializationStep { manager := { isEnabled := isEnabled } } events) := by
    apply runEnd_invariant _ (statusesAgree_initial isEnabled)
    intro system event hagree
    cases event with
    | call request => exact hagree.call request
    | resume position outcome => exact hagree.resume position outcome
  exact hagree.safe

end Goveling.Semantic
