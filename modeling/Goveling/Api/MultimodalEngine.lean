/-
# The engine behind the multimodal endpoint

A decision and a setting send a request to OR-Tools; every other request goes to
the classic optimizer, and so does one that OR-Tools raises on. The branch of
OR-Tools asks for the decision and the setting, the branch of the classic
optimizer for the decision alone. What neither branch assigns is read all the
same when the result is checked.
-/

import Goveling.Api.ResultReaders

namespace Goveling.Api.Multimodal

open Goveling.Python

/-- The engines that can be asked for an itinerary. -/
inductive Engine
  | ortools
  | classic
  deriving DecidableEq, Repr

/-- What the choice of an engine depends on, and what the engines answer. -/
structure EngineOutcomes where
  useCity2graph : Bool
  factors : PyVal
  enableOrtools : Bool
  ortools : Except PyError PyVal
  classic : Except PyError PyVal

/-- The local variables of the choice, and the engines that were asked. -/
structure ChoiceState where
  useOrtools : Bool
  locals : PyDict := []
  engines : List Engine := []

/-- The entries that mark a result of OR-Tools. An empty result stays as it is. -/
def markOrtools (factors optimizationResult : PyVal) : Except PyError PyVal :=
  if optimizationResult.truthy then do
    let marked ← optimizationResult.setItem "optimization_mode" (.str "ortools_advanced")
    marked.setItem "decision_factors" factors
  else .ok optimizationResult

/-- The branch for a decision and a setting that agree on OR-Tools. A result that
cannot be marked counts as a failure, although the variable holds it already. -/
def ortoolsBranch (outcomes : EngineOutcomes) (state : ChoiceState) : ChoiceState :=
  if state.useOrtools && outcomes.enableOrtools then
    let asked := { state with engines := state.engines ++ [Engine.ortools] }
    match outcomes.ortools with
    | .error _ => { asked with useOrtools := false }
    | .ok optimizationResult =>
        match markOrtools outcomes.factors optimizationResult with
        | .ok marked => { asked with locals := asked.locals.set "optimization_result" marked }
        | .error _ =>
            { asked with
              useOrtools := false
              locals := asked.locals.set "optimization_result" optimizationResult }
  else state

/-- The check that comes before the formatting. -/
def checkResult (optimizationResult : PyVal) : Except PyError PyVal := do
  let invalid := .error (.valueError "Resultado de optimización multi-modal inválido")
  if optimizationResult.truthy then
    if ← optimizationResult.contains "days" then .ok optimizationResult else invalid
  else invalid

/-- The engines that were asked, and the result that is formatted. -/
structure EngineChoice where
  engines : List Engine
  result : Except PyError PyVal

/-- The lines of `generate_multimodal_itinerary_endpoint` between the decision and
the formatting. -/
def chooseEngine (outcomes : EngineOutcomes) : EngineChoice :=
  let state := ortoolsBranch outcomes { useOrtools := outcomes.useCity2graph }
  if state.useOrtools then
    { engines := state.engines
      result := localName state.locals "optimization_result" >>= checkResult }
  else
    { engines := state.engines ++ [.classic]
      result := outcomes.classic >>= checkResult }

/-! ## Which result is formatted -/

/-- A result with days. -/
def HasDays (optimizationResult : PyVal) : Prop :=
  ∃ entries : PyDict, optimizationResult = .dict entries ∧ entries.has "days" = true

/-- OR-Tools is asked and answers with days. -/
def OrtoolsServes (outcomes : EngineOutcomes) : Prop :=
  outcomes.useCity2graph = true ∧ outcomes.enableOrtools = true ∧
    ∃ optimizationResult, outcomes.ortools = .ok optimizationResult ∧ HasDays optimizationResult

/-- Some engine is asked, and what is formatted is its result: the one of OR-Tools
if that has days, and else the one of the classic optimizer. -/
structure FormatsAResult (outcomes : EngineOutcomes) : Prop where
  engines : (chooseEngine outcomes).engines ≠ []
  ortools : OrtoolsServes outcomes →
    .ortools ∈ (chooseEngine outcomes).engines ∧
      ∃ marked, outcomes.ortools >>= markOrtools outcomes.factors = .ok marked ∧
        HasDays marked ∧ (chooseEngine outcomes).result = .ok marked
  classic : ¬ OrtoolsServes outcomes →
    .classic ∈ (chooseEngine outcomes).engines ∧
      (chooseEngine outcomes).result = outcomes.classic >>= checkResult

/-- The decision is for OR-Tools, which is not enabled. -/
def DecidedWithoutSetting (outcomes : EngineOutcomes) : Prop :=
  outcomes.useCity2graph = true ∧ outcomes.enableOrtools = false

/-- A result that the branch of OR-Tools keeps, although it has no days. -/
def KeptWithoutDays (optimizationResult : PyVal) : Prop :=
  optimizationResult.truthy = false ∨
    ∃ entries : PyDict, optimizationResult = .dict entries ∧ entries.has "days" = false

/-- OR-Tools is asked and answers with a result that is kept without days. -/
def OrtoolsWithoutDays (outcomes : EngineOutcomes) : Prop :=
  outcomes.useCity2graph = true ∧ outcomes.enableOrtools = true ∧
    ∃ optimizationResult, outcomes.ortools = .ok optimizationResult ∧
      KeptWithoutDays optimizationResult

section Choice

variable {outcomes : EngineOutcomes} {optimizationResult : PyVal}

/-- Only a dictionary can be marked, and what is empty needs no mark. -/
theorem markOrtools_cases (factors optimizationResult : PyVal) :
    (optimizationResult.truthy = false ∧
        markOrtools factors optimizationResult = .ok optimizationResult) ∨
      (optimizationResult.truthy = true ∧ ∃ entries : PyDict, optimizationResult = .dict entries ∧
        markOrtools factors optimizationResult = .ok (.dict
          ((entries.set "optimization_mode" (.str "ortools_advanced")).set "decision_factors"
            factors))) ∨
      (optimizationResult.truthy = true ∧ (∀ entries, optimizationResult ≠ .dict entries) ∧
        ∃ e, markOrtools factors optimizationResult = .error e) := by
  by_cases htruthy : optimizationResult.truthy = true
  · right
    cases optimizationResult with
    | dict entries =>
        left
        refine ⟨htruthy, entries, rfl, ?_⟩
        unfold markOrtools
        rw [if_pos htruthy]
        rfl
    | none | bool _ | int _ | float _ | str _ | list _ =>
        right
        refine ⟨htruthy, by simp, ?_⟩
        unfold markOrtools
        rw [if_pos htruthy]
        exact ⟨_, rfl⟩
  · left
    refine ⟨Bool.eq_false_iff.mpr htruthy, ?_⟩
    unfold markOrtools
    rw [if_neg htruthy]

theorem HasDays.truthy (hdays : HasDays optimizationResult) : optimizationResult.truthy = true := by
  obtain ⟨entries, rfl, hhas⟩ := hdays
  cases entries with
  | nil => cases hhas
  | cons entry rest => rfl

theorem HasDays.not_keptWithoutDays (hdays : HasDays optimizationResult) :
    ¬ KeptWithoutDays optimizationResult := by
  rintro (hfalsy | ⟨entries, hdict, hhas⟩)
  · rw [hdays.truthy] at hfalsy
    cases hfalsy
  · obtain ⟨found, hfound, hdays⟩ := hdays
    cases hdict.symm.trans hfound
    rw [hhas] at hdays
    cases hdays

/-- Without the setting the branch of OR-Tools does nothing, and a decision for
OR-Tools skips the other branch. -/
theorem chooseEngine_of_decidedWithoutSetting (hdecided : DecidedWithoutSetting outcomes) :
    chooseEngine outcomes =
      { engines := [], result := .error (.unboundLocalError "optimization_result") } := by
  obtain ⟨huse, hdisabled⟩ := hdecided
  simp only [chooseEngine, ortoolsBranch, huse, hdisabled, Bool.and_false, Bool.false_eq_true,
    if_false, if_true]
  rfl

/-- A decision against OR-Tools leads to the classic optimizer. -/
theorem chooseEngine_of_not_useCity2graph (huse : outcomes.useCity2graph = false) :
    chooseEngine outcomes =
      { engines := [.classic], result := outcomes.classic >>= checkResult } := by
  simp only [chooseEngine, ortoolsBranch, huse, Bool.false_and, Bool.false_eq_true, if_false,
    List.nil_append]

section Asked

variable (huse : outcomes.useCity2graph = true) (henabled : outcomes.enableOrtools = true)

include huse henabled

/-- An exception of OR-Tools leads to the classic optimizer. -/
theorem chooseEngine_of_error {e : PyError} (hortools : outcomes.ortools = .error e) :
    chooseEngine outcomes =
      { engines := [.ortools, .classic], result := outcomes.classic >>= checkResult } := by
  simp only [chooseEngine, ortoolsBranch, huse, henabled, hortools, Bool.and_true, if_true,
    Bool.false_eq_true, if_false, List.nil_append, List.singleton_append]

/-- So does a result that cannot be marked. -/
theorem chooseEngine_of_unmarked {e : PyError}
    (hortools : outcomes.ortools = .ok optimizationResult)
    (hmark : markOrtools outcomes.factors optimizationResult = .error e) :
    chooseEngine outcomes =
      { engines := [.ortools, .classic], result := outcomes.classic >>= checkResult } := by
  simp only [chooseEngine, ortoolsBranch, huse, henabled, hortools, hmark, Bool.and_true, if_true,
    Bool.false_eq_true, if_false, List.nil_append, List.singleton_append]

/-- A result of OR-Tools that is marked is the one that is checked. -/
theorem chooseEngine_of_marked {marked : PyVal}
    (hortools : outcomes.ortools = .ok optimizationResult)
    (hmark : markOrtools outcomes.factors optimizationResult = .ok marked) :
    chooseEngine outcomes = { engines := [.ortools], result := checkResult marked } := by
  simp only [chooseEngine, ortoolsBranch, huse, henabled, hortools, hmark, Bool.and_true, if_true,
    List.nil_append]
  rfl

end Asked

/-- A result of OR-Tools that is kept is checked alone. -/
theorem engines_of_ortoolsWithoutDays (hkept : OrtoolsWithoutDays outcomes) :
    (chooseEngine outcomes).engines = [.ortools] := by
  obtain ⟨huse, henabled, optimizationResult, hortools, hkept⟩ := hkept
  obtain ⟨-, hmark⟩ | ⟨-, entries, -, hmark⟩ | ⟨htruthy, hnodict, -⟩ :=
    markOrtools_cases outcomes.factors optimizationResult
  · rw [chooseEngine_of_marked huse henabled hortools hmark]
  · rw [chooseEngine_of_marked huse henabled hortools hmark]
  · obtain hfalsy | ⟨entries, hdict, -⟩ := hkept
    · rw [htruthy] at hfalsy
      cases hfalsy
    · exact absurd hdict (hnodict entries)

/-- The marks leave the days of a result. -/
theorem has_days_set {entries : PyDict} {key : String} (value : PyVal) (hne : "days" ≠ key)
    (hhas : entries.has "days" = true) : (entries.set key value).has "days" = true := by
  unfold PyDict.has
  rw [PyDict.lookup_set_of_ne hne]
  exact hhas

theorem HasDays.checkResult (hdays : HasDays optimizationResult) :
    checkResult optimizationResult = .ok optimizationResult := by
  unfold Multimodal.checkResult
  rw [if_pos hdays.truthy]
  obtain ⟨entries, rfl, hhas⟩ := hdays
  show (if entries.has "days" = true then _ else _) = _
  rw [if_pos hhas]

/-- A result of OR-Tools with days is marked and formatted. -/
theorem chooseEngine_of_ortoolsServes (hserves : OrtoolsServes outcomes) :
    (chooseEngine outcomes).engines = [.ortools] ∧
      ∃ marked, outcomes.ortools >>= markOrtools outcomes.factors = .ok marked ∧
        HasDays marked ∧ (chooseEngine outcomes).result = .ok marked := by
  obtain ⟨huse, henabled, optimizationResult, hortools, hdays⟩ := hserves
  obtain ⟨hfalsy, -⟩ | ⟨-, entries, rfl, hmark⟩ | ⟨-, hnodict, -⟩ :=
    markOrtools_cases outcomes.factors optimizationResult
  · rw [hdays.truthy] at hfalsy
    cases hfalsy
  · obtain ⟨found, hfound, hhas⟩ := hdays
    cases hfound
    have hmarked : HasDays (.dict ((entries.set "optimization_mode"
        (.str "ortools_advanced")).set "decision_factors" outcomes.factors)) :=
      ⟨_, rfl, has_days_set _ (by decide) (has_days_set _ (by decide) hhas)⟩
    rw [chooseEngine_of_marked huse henabled hortools hmark, hortools]
    exact ⟨rfl, _, hmark, hmarked, hmarked.checkResult⟩
  · obtain ⟨entries, hdict, -⟩ := hdays
    exact absurd hdict (hnodict entries)

/-- Where OR-Tools neither serves nor keeps a result, the classic optimizer is asked. -/
theorem chooseEngine_classic (hsetting : ¬ DecidedWithoutSetting outcomes)
    (hkept : ¬ OrtoolsWithoutDays outcomes) (hserves : ¬ OrtoolsServes outcomes) :
    .classic ∈ (chooseEngine outcomes).engines ∧
      (chooseEngine outcomes).result = outcomes.classic >>= checkResult := by
  cases huse : outcomes.useCity2graph with
  | false =>
      rw [chooseEngine_of_not_useCity2graph huse]
      exact ⟨List.mem_singleton_self _, rfl⟩
  | true =>
      have henabled : outcomes.enableOrtools = true := by
        by_contra hdisabled
        exact hsetting ⟨huse, Bool.eq_false_iff.mpr hdisabled⟩
      cases hortools : outcomes.ortools with
      | error e =>
          rw [chooseEngine_of_error huse henabled hortools]
          exact ⟨by simp, rfl⟩
      | ok optimizationResult =>
          obtain ⟨hfalsy, -⟩ | ⟨-, entries, rfl, -⟩ | ⟨-, -, e, hmark⟩ :=
            markOrtools_cases outcomes.factors optimizationResult
          · exact absurd ⟨huse, henabled, _, hortools, Or.inl hfalsy⟩ hkept
          · cases hhas : entries.has "days" with
            | true => exact absurd ⟨huse, henabled, _, hortools, entries, rfl, hhas⟩ hserves
            | false =>
                exact absurd ⟨huse, henabled, _, hortools, Or.inr ⟨entries, rfl, hhas⟩⟩ hkept
          · rw [chooseEngine_of_unmarked huse henabled hortools hmark]
            exact ⟨by simp, rfl⟩

end Choice

/-- The endpoint formats the result of an engine exactly when no decision for
OR-Tools meets a setting against it and no result without days is kept. -/
theorem chooseEngine_formats_iff (outcomes : EngineOutcomes) :
    FormatsAResult outcomes ↔
      ¬ DecidedWithoutSetting outcomes ∧ ¬ OrtoolsWithoutDays outcomes := by
  constructor
  · intro hformats
    constructor
    · intro hdecided
      apply hformats.engines
      rw [chooseEngine_of_decidedWithoutSetting hdecided]
    · intro hkept
      have hserves : ¬ OrtoolsServes outcomes := by
        rintro ⟨-, -, served, hserved, hdays⟩
        obtain ⟨-, -, optimizationResult, hortools, hwithout⟩ := hkept
        cases hserved.symm.trans hortools
        exact hdays.not_keptWithoutDays hwithout
      have hclassic := (hformats.classic hserves).1
      rw [engines_of_ortoolsWithoutDays hkept] at hclassic
      simp at hclassic
  · rintro ⟨hsetting, hkept⟩
    have hclassic := chooseEngine_classic hsetting hkept
    refine ⟨?_, ?_, hclassic⟩
    · by_cases hserves : OrtoolsServes outcomes
      · rw [(chooseEngine_of_ortoolsServes hserves).1]
        exact List.cons_ne_nil _ _
      · exact List.ne_nil_of_mem (hclassic hserves).1
    · intro hserves
      obtain ⟨hengines, hresult⟩ := chooseEngine_of_ortoolsServes hserves
      rw [hengines]
      exact ⟨List.mem_singleton_self _, hresult⟩

/-- A request that is decided for OR-Tools with the setting at its default. -/
def decidedByDefault : EngineOutcomes where
  useCity2graph := true
  factors := .dict []
  enableOrtools := false
  ortools := .ok (.dict [("days", .list [])])
  classic := .ok (.dict [("days", .list [])])

/-- Both engines would answer with days, and neither of them is asked. -/
theorem chooseEngine_formats_no_result : ¬ FormatsAResult decidedByDefault := by
  intro hformats
  exact hformats.engines rfl

end Goveling.Api.Multimodal
