/-
# The multi-modal router for Chile

The graph of a mode is loaded from its file when it is first needed and stays in memory
until it is cleared. A mode is flagged as loaded exactly while memory holds its graph,
whatever the operations are. The counters are less in step: a request is counted before
the graph is looked up, a hit when the graph is found in memory, and preloading finds it
there without any request. So the hits exceed the requests exactly when more preloads than
requests have found things the other way round.
-/

import Goveling.Math.Runs
import Goveling.Optimizer.RoutingKey
import Goveling.Routing.HybridRoutingService

namespace Goveling.Routing

open Goveling.Math Goveling.Optimizer Goveling.Python

universe u

/-! ## Modes and files -/

/-- The modes that have a graph. -/
inductive RouterMode
  | drive | walk | bike
  deriving DecidableEq, Repr

namespace RouterMode

/-- The modes in the order of the router's tables. -/
def all : List RouterMode := [.drive, .walk, .bike]

/-- The key of a mode. -/
def text : RouterMode → String
  | .drive => "drive"
  | .walk => "walk"
  | .bike => "bike"

/-- The mode under a key. -/
def ofText? (text : String) : Option RouterMode := all.find? (·.text = text)

/-- `self.speeds`, in km/h. -/
def speed : RouterMode → ℚ
  | .drive => 50
  | .walk => 5
  | .bike => 15

end RouterMode

variable {Graph : Type u}

/-- What opening and unpickling a cache file comes to. A file may hold `None`. -/
inductive CacheFile (Graph : Type u)
  | missing
  | unreadable
  | holds (data : Option Graph)

/-- The counters of a mode. -/
structure UsageStats where
  requests : ℕ := 0
  cacheHits : ℕ := 0
  deriving DecidableEq, Repr

/-- The router: what is in memory, what is flagged as loaded, and the counters. -/
structure ChileMultiModalRouter (Graph : Type u) where
  memoryCache : RouterMode → Option (Option Graph) := fun _ => none
  cacheLoaded : RouterMode → Bool := fun _ => false
  usageStats : RouterMode → UsageStats := fun _ => {}

/-- A request for a route, with the files as they are then and the milliseconds it takes. -/
structure ChileRequest (Graph : Type u) where
  start : Coordinates
  finish : Coordinates
  mode : String := "drive"
  disk : RouterMode → CacheFile Graph
  elapsedMs : ℚ := 0

/-- The dictionary of a route; a simple one has no processing time. -/
structure ChileRoute where
  success : Bool
  mode : String
  distanceKm : ℚ
  timeMinutes : ℚ
  path : List (ℕ × Coordinates)
  geometry : List (ℚ × ℚ)
  source : String
  cacheUsed : Bool
  processingTimeMs : Option ℚ
  deriving DecidableEq

namespace ChileMultiModalRouter

/-! ## Loading -/

/-- `self._usage_stats[mode]['requests'] += 1`. -/
def countRequest (router : ChileMultiModalRouter Graph) (mode : RouterMode) :
    ChileMultiModalRouter Graph :=
  let stats := router.usageStats mode
  { router with
    usageStats := Function.update router.usageStats mode
      { stats with requests := stats.requests + 1 } }

/-- `self._usage_stats[mode]['cache_hits'] += 1`. -/
def countHit (router : ChileMultiModalRouter Graph) (mode : RouterMode) :
    ChileMultiModalRouter Graph :=
  let stats := router.usageStats mode
  { router with
    usageStats := Function.update router.usageStats mode
      { stats with cacheHits := stats.cacheHits + 1 } }

/-- Memory takes the data of a file, and the mode is loaded. -/
def store (router : ChileMultiModalRouter Graph) (mode : RouterMode) (data : Option Graph) :
    ChileMultiModalRouter Graph :=
  { router with
    memoryCache := Function.update router.memoryCache mode (some data)
    cacheLoaded := Function.update router.cacheLoaded mode true }

/-- `_load_cache_for_mode`. -/
def loadCacheForMode (router : ChileMultiModalRouter Graph)
    (disk : RouterMode → CacheFile Graph) (name : String) :
    Option Graph × ChileMultiModalRouter Graph :=
  match RouterMode.ofText? name with
  | none => (none, router)
  | some mode =>
      if router.cacheLoaded mode then
        ((router.memoryCache mode).getD none, router.countHit mode)
      else
        match disk mode with
        | .missing => (none, router)
        | .unreadable => (none, router)
        | .holds data => (data, router.store mode data)

/-- `preload_cache`. -/
def preloadCache (router : ChileMultiModalRouter Graph) (disk : RouterMode → CacheFile Graph)
    (name : String) : Bool × ChileMultiModalRouter Graph :=
  let (data, router) := router.loadCacheForMode disk name
  (data.isSome, router)

/-! ## Routes -/

section Routes

variable (squareRoot : ℚ → ℚ)

/-- The length of the straight line, at 111 km a degree. -/
def straightKm (start finish : Coordinates) : ℚ :=
  squareRoot ((finish.1 - start.1) ^ 2 + (finish.2 - start.2) ^ 2) * 111

/-- The straight line as a route of some source. -/
def straightRoute (request : ChileRequest Graph) (mode : RouterMode) (source : String)
    (cacheUsed : Bool) (processingTimeMs : Option ℚ) : ChileRoute :=
  let distanceKm := straightKm squareRoot request.start request.finish
  { success := true
    mode := mode.text
    distanceKm := roundDigits 2 distanceKm
    timeMinutes := roundDigits 1 (distanceKm / mode.speed * 60)
    path := [(0, request.start), (1, request.finish)]
    geometry := [request.start.swap, request.finish.swap]
    source
    cacheUsed
    processingTimeMs }

/-- `_calculate_simple_route`. -/
def calculateSimpleRoute (request : ChileRequest Graph) (mode : RouterMode) : ChileRoute :=
  straightRoute squareRoot request mode "simple_calculation" false none

/-- `get_route`. The counters of an unknown mode raise, and what is raised is caught. -/
def getRoute (router : ChileMultiModalRouter Graph) (request : ChileRequest Graph) :
    Option ChileRoute × ChileMultiModalRouter Graph :=
  match RouterMode.ofText? request.mode with
  | none => (none, router)
  | some mode =>
      let router := router.countRequest mode
      let (cacheData, router) := router.loadCacheForMode request.disk request.mode
      match cacheData with
      | none => (some (calculateSimpleRoute squareRoot request mode), router)
      | some _ =>
          (some (straightRoute squareRoot request mode "cached_calculation" true
            (some (roundDigits 2 request.elapsedMs))), router)

end Routes

/-! ## Memory -/

/-- The graph of a mode leaves memory. -/
def dropMode (router : ChileMultiModalRouter Graph) (mode : RouterMode) :
    ChileMultiModalRouter Graph :=
  { router with
    memoryCache := Function.update router.memoryCache mode none
    cacheLoaded := Function.update router.cacheLoaded mode false }

/-- `clear_memory_cache`. An empty text clears everything, as `None` does. -/
def clearMemoryCache (router : ChileMultiModalRouter Graph) (name : Option String) :
    ChileMultiModalRouter Graph :=
  match name with
  | some text =>
      if text = "" then RouterMode.all.foldl dropMode router
      else
        match RouterMode.ofText? text with
        | none => router
        | some mode =>
            if (router.memoryCache mode).isSome then router.dropMode mode else router
  | none => RouterMode.all.foldl dropMode router

/-- The hit ratio of a mode, as the status and the clean-up compute it. -/
def hitRatio (router : ChileMultiModalRouter Graph) (mode : RouterMode) : ℚ :=
  let stats := router.usageStats mode
  if 0 < stats.requests then stats.cacheHits / stats.requests else 0

/-- The total of `get_memory_usage`, for the size of an object in MB. -/
def memoryUsage (sizeMb : Option Graph → ℚ) (router : ChileMultiModalRouter Graph) : ℚ :=
  (RouterMode.all.map fun mode =>
    if router.cacheLoaded mode then
      match router.memoryCache mode with
      | some data => sizeMb data
      | none => 0
    else 0).sum

/-- What `optimize_memory` reports. -/
structure OptimizationReport where
  actionsTaken : List String := []
  memoryBeforeMb : ℚ := 0
  memoryAfterMb : ℚ := 0
  recommendations : List String := []
  deriving DecidableEq

/-- The turn of `optimize_memory` for a mode. -/
def optimizeMode (state : OptimizationReport × ChileMultiModalRouter Graph) (mode : RouterMode) :
    OptimizationReport × ChileMultiModalRouter Graph :=
  let (report, router) := state
  let stats := router.usageStats mode
  let (report, router) :=
    if stats.requests < 5 ∧ router.cacheLoaded mode ∧ router.hitRatio mode < 1 / 2 then
      ({ report with
          actionsTaken := report.actionsTaken ++
            ["Descargado cache " ++ mode.text ++ " (poco uso)"] },
        router.clearMemoryCache (some mode.text))
    else (report, router)
  if 10 < stats.requests ∧ ¬ router.cacheLoaded mode then
    ({ report with
        recommendations := report.recommendations ++
          ["Considerar pre-cargar " ++ mode.text ++ " (alto uso: " ++
            toString stats.requests ++ " requests)"] }, router)
  else (report, router)

/-- `optimize_memory`. -/
def optimizeMemory (sizeMb : Option Graph → ℚ) (router : ChileMultiModalRouter Graph) :
    OptimizationReport × ChileMultiModalRouter Graph :=
  let (report, after) := RouterMode.all.foldl optimizeMode
    ({ memoryBeforeMb := memoryUsage sizeMb router }, router)
  ({ report with memoryAfterMb := memoryUsage sizeMb after }, after)

/-! ## Runs of operations -/

/-- The operations on a router. -/
inductive Operation (Graph : Type u)
  | getRoute (request : ChileRequest Graph)
  | preloadCache (name : String) (disk : RouterMode → CacheFile Graph)
  | clearMemoryCache (name : Option String)
  | optimizeMemory

section Runs

variable (squareRoot : ℚ → ℚ) (sizeMb : Option Graph → ℚ)

/-- What an operation does to the router. -/
def perform (router : ChileMultiModalRouter Graph) : Operation Graph → ChileMultiModalRouter Graph
  | .getRoute request => (router.getRoute squareRoot request).2
  | .preloadCache name disk => (router.preloadCache disk name).2
  | .clearMemoryCache name => router.clearMemoryCache name
  | .optimizeMemory => (optimizeMemory sizeMb router).2

/-- The router after a sequence of operations. -/
def afterOperations (operations : List (Operation Graph)) : ChileMultiModalRouter Graph :=
  runEnd (perform squareRoot sizeMb) {} operations

/-- The operations of a sequence, each with the router it meets. -/
def operationMoments (operations : List (Operation Graph)) :
    List (ChileMultiModalRouter Graph × Operation Graph) :=
  moments (perform squareRoot sizeMb) {} operations

end Runs

/-- The status of every mode is sound: no more hits than requests, and flagged as loaded
exactly when memory has its graph. -/
structure StatusAgrees (router : ChileMultiModalRouter Graph) : Prop where
  hits_le : ∀ mode, (router.usageStats mode).cacheHits ≤ (router.usageStats mode).requests
  loaded_iff : ∀ mode, router.cacheLoaded mode = true ↔ (router.memoryCache mode).isSome = true

/-- A preload that finds its graph in memory. -/
def isWarmPreload (mode : RouterMode)
    (moment : ChileMultiModalRouter Graph × Operation Graph) : Bool :=
  match moment.2 with
  | .preloadCache name _ => RouterMode.ofText? name = some mode && moment.1.cacheLoaded mode
  | _ => false

/-- A request that does not find its graph in memory. -/
def isColdRequest (mode : RouterMode)
    (moment : ChileMultiModalRouter Graph × Operation Graph) : Bool :=
  match moment.2 with
  | .getRoute request =>
      RouterMode.ofText? request.mode = some mode && !moment.1.cacheLoaded mode
  | _ => false

/-! ## Flags and memory -/

/-- The flags say what memory holds. -/
def FlagsHold (router : ChileMultiModalRouter Graph) : Prop :=
  ∀ mode, router.cacheLoaded mode = true ↔ (router.memoryCache mode).isSome = true

section Flags

variable {router : ChileMultiModalRouter Graph}

theorem FlagsHold.dropMode (hflags : router.FlagsHold) (mode : RouterMode) :
    (router.dropMode mode).FlagsHold := by
  intro other
  by_cases hother : other = mode
  · subst hother
    simp [ChileMultiModalRouter.dropMode]
  · simpa [ChileMultiModalRouter.dropMode, Function.update_of_ne hother] using hflags other

theorem FlagsHold.store (hflags : router.FlagsHold) (mode : RouterMode) (data : Option Graph) :
    (router.store mode data).FlagsHold := by
  intro other
  by_cases hother : other = mode
  · subst hother
    simp [ChileMultiModalRouter.store]
  · simpa [ChileMultiModalRouter.store, Function.update_of_ne hother] using hflags other

theorem FlagsHold.loadCacheForMode (hflags : router.FlagsHold)
    (disk : RouterMode → CacheFile Graph) (name : String) :
    (router.loadCacheForMode disk name).2.FlagsHold := by
  unfold ChileMultiModalRouter.loadCacheForMode
  split
  · exact hflags
  · split
    · exact hflags
    · split
      · exact hflags
      · exact hflags
      · exact hflags.store _ _

theorem FlagsHold.clearMemoryCache (hflags : router.FlagsHold) (name : Option String) :
    (router.clearMemoryCache name).FlagsHold := by
  have hall : (runEnd ChileMultiModalRouter.dropMode router RouterMode.all).FlagsHold :=
    runEnd_invariant (fun _ mode hbefore => hbefore.dropMode mode) hflags RouterMode.all
  unfold ChileMultiModalRouter.clearMemoryCache
  split
  · split
    · exact hall
    · split
      · exact hflags
      · split
        · exact hflags.dropMode _
        · exact hflags
  · exact hall

theorem FlagsHold.optimizeMode {report : OptimizationReport} (hflags : router.FlagsHold)
    (mode : RouterMode) :
    (ChileMultiModalRouter.optimizeMode (report, router) mode).2.FlagsHold := by
  unfold ChileMultiModalRouter.optimizeMode
  dsimp only
  split
  · split
    · exact hflags.clearMemoryCache _
    · exact hflags.clearMemoryCache _
  · split
    · exact hflags
    · exact hflags

/-- What a request leaves: a counted request and a look for the graph. -/
theorem getRoute_snd (squareRoot : ℚ → ℚ) (request : ChileRequest Graph) :
    (router.getRoute squareRoot request).2 =
      match RouterMode.ofText? request.mode with
      | none => router
      | some mode =>
          ((router.countRequest mode).loadCacheForMode request.disk request.mode).2 := by
  unfold ChileMultiModalRouter.getRoute
  cases RouterMode.ofText? request.mode with
  | none => rfl
  | some mode =>
      dsimp only
      split <;> rfl

theorem FlagsHold.perform (hflags : router.FlagsHold) (squareRoot : ℚ → ℚ)
    (sizeMb : Option Graph → ℚ) (operation : Operation Graph) :
    (router.perform squareRoot sizeMb operation).FlagsHold := by
  cases operation with
  | getRoute request =>
      show (router.getRoute squareRoot request).2.FlagsHold
      rw [getRoute_snd]
      split
      · exact hflags
      · rename_i mode _
        have hcounted : (router.countRequest mode).FlagsHold := hflags
        exact hcounted.loadCacheForMode request.disk request.mode
  | preloadCache name disk => exact hflags.loadCacheForMode disk name
  | clearMemoryCache name => exact hflags.clearMemoryCache name
  | optimizeMemory =>
      exact @runEnd_invariant _ _ ChileMultiModalRouter.optimizeMode
        (fun state => state.2.FlagsHold) (fun _ mode hbefore => hbefore.optimizeMode mode)
        ({ memoryBeforeMb := memoryUsage sizeMb router }, router) hflags RouterMode.all

end Flags

/-- However the operations follow each other, the flags say what memory holds. -/
theorem flagsHold_afterOperations (squareRoot : ℚ → ℚ) (sizeMb : Option Graph → ℚ)
    (operations : List (Operation Graph)) :
    (afterOperations squareRoot sizeMb operations).FlagsHold :=
  runEnd_invariant (fun _ operation hbefore => hbefore.perform squareRoot sizeMb operation)
    (fun _ => by simp) operations

/-! ## Counters -/

section Counters

variable {router : ChileMultiModalRouter Graph}

/-- Clearing memory leaves the counters. -/
theorem usageStats_clearMemoryCache (name : Option String) :
    (router.clearMemoryCache name).usageStats = router.usageStats := by
  have hall : (RouterMode.all.foldl dropMode router).usageStats = router.usageStats := rfl
  unfold clearMemoryCache
  split
  · split
    · exact hall
    · split
      · rfl
      · split <;> rfl
  · exact hall

theorem usageStats_optimizeMode {report : OptimizationReport} (mode : RouterMode) :
    (optimizeMode (report, router) mode).2.usageStats = router.usageStats := by
  have hclear : (router.clearMemoryCache (some mode.text)).usageStats = router.usageStats :=
    usageStats_clearMemoryCache _
  unfold optimizeMode
  dsimp only
  split
  · split
    · exact hclear
    · exact hclear
  · split <;> rfl

theorem usageStats_optimizeMemory (sizeMb : Option Graph → ℚ) :
    (optimizeMemory sizeMb router).2.usageStats = router.usageStats :=
  @runEnd_invariant _ _ optimizeMode (fun state => state.2.usageStats = router.usageStats)
    (fun _ mode hbefore => (usageStats_optimizeMode mode).trans hbefore)
    ({ memoryBeforeMb := memoryUsage sizeMb router }, router) rfl RouterMode.all

theorem usageStats_countRequest (counted mode : RouterMode) :
    (router.countRequest counted).usageStats mode =
      { router.usageStats mode with
        requests := (router.usageStats mode).requests + if counted = mode then 1 else 0 } := by
  by_cases hcounted : counted = mode
  · subst hcounted
    simp [countRequest]
  · simp [countRequest, hcounted, Function.update_of_ne (Ne.symm hcounted)]

theorem usageStats_countHit (counted mode : RouterMode) :
    (router.countHit counted).usageStats mode =
      { router.usageStats mode with
        cacheHits := (router.usageStats mode).cacheHits + if counted = mode then 1 else 0 } := by
  by_cases hcounted : counted = mode
  · subst hcounted
    simp [countHit]
  · simp [countHit, hcounted, Function.update_of_ne (Ne.symm hcounted)]

/-- Loading a graph that is in memory counts a hit, and nothing else does. -/
theorem usageStats_loadCacheForMode (disk : RouterMode → CacheFile Graph) (name : String)
    (mode : RouterMode) :
    (router.loadCacheForMode disk name).2.usageStats mode =
      { router.usageStats mode with
        cacheHits := (router.usageStats mode).cacheHits +
          if RouterMode.ofText? name = some mode && router.cacheLoaded mode then 1 else 0 } := by
  unfold loadCacheForMode
  cases RouterMode.ofText? name with
  | none => rfl
  | some found =>
      dsimp only
      by_cases hloaded : router.cacheLoaded found = true
      · rw [if_pos hloaded]
        dsimp only
        rw [usageStats_countHit]
        by_cases hmode : found = mode
        · subst hmode
          simp [hloaded]
        · simp [hmode]
      · have hcold : (if some found = some mode && router.cacheLoaded mode then 1 else 0) = 0 := by
          by_cases hmode : found = mode
          · subst hmode
            simp [hloaded]
          · simp [hmode]
        rw [if_neg hloaded, hcold]
        split <;> rfl

variable (squareRoot : ℚ → ℚ) (sizeMb : Option Graph → ℚ)

/-- A request counts itself, and a hit if the graph is in memory. -/
theorem usageStats_getRoute (request : ChileRequest Graph) (mode : RouterMode) :
    (router.getRoute squareRoot request).2.usageStats mode =
      { requests := (router.usageStats mode).requests +
          if RouterMode.ofText? request.mode = some mode then 1 else 0
        cacheHits := (router.usageStats mode).cacheHits +
          if RouterMode.ofText? request.mode = some mode && router.cacheLoaded mode
          then 1 else 0 } := by
  rw [getRoute_snd]
  cases hname : RouterMode.ofText? request.mode with
  | none => rfl
  | some counted =>
      dsimp only
      have hloaded : (router.countRequest counted).cacheLoaded = router.cacheLoaded := rfl
      rw [usageStats_loadCacheForMode, usageStats_countRequest, hname, hloaded]
      simp only [Option.some.injEq]

/-- An operation moves hits and requests of a mode by the same number, but for preloads that
find the graph and requests that do not. -/
theorem perform_counts (operation : Operation Graph) (mode : RouterMode) :
    ((router.perform squareRoot sizeMb operation).usageStats mode).cacheHits +
          (router.usageStats mode).requests +
        (if isColdRequest mode (router, operation) then 1 else 0) =
      ((router.perform squareRoot sizeMb operation).usageStats mode).requests +
          (router.usageStats mode).cacheHits +
        (if isWarmPreload mode (router, operation) then 1 else 0) := by
  cases operation with
  | getRoute request =>
      show ((router.getRoute squareRoot request).2.usageStats mode).cacheHits + _ + _ =
        ((router.getRoute squareRoot request).2.usageStats mode).requests + _ + _
      rw [usageStats_getRoute]
      by_cases hmode : RouterMode.ofText? request.mode = some mode
      · cases hloaded : router.cacheLoaded mode <;>
          simp [isColdRequest, isWarmPreload, hmode, hloaded] <;> omega
      · simp [isColdRequest, isWarmPreload, hmode]
        omega
  | preloadCache name disk =>
      show ((router.loadCacheForMode disk name).2.usageStats mode).cacheHits + _ + _ =
        ((router.loadCacheForMode disk name).2.usageStats mode).requests + _ + _
      rw [usageStats_loadCacheForMode]
      by_cases hmode : RouterMode.ofText? name = some mode
      · cases hloaded : router.cacheLoaded mode <;>
          simp [isColdRequest, isWarmPreload, hmode, hloaded] <;> omega
      · simp [isColdRequest, isWarmPreload, hmode]
        omega
  | clearMemoryCache name =>
      show ((router.clearMemoryCache name).usageStats mode).cacheHits + _ + _ =
        ((router.clearMemoryCache name).usageStats mode).requests + _ + _
      rw [usageStats_clearMemoryCache]
      exact Nat.add_right_cancel_iff.mpr (Nat.add_comm _ _)
  | optimizeMemory =>
      show ((optimizeMemory sizeMb router).2.usageStats mode).cacheHits + _ + _ =
        ((optimizeMemory sizeMb router).2.usageStats mode).requests + _ + _
      rw [usageStats_optimizeMemory]
      exact Nat.add_right_cancel_iff.mpr (Nat.add_comm _ _)

/-- Over a sequence the hits exceed the requests by the warm preloads less the cold requests. -/
theorem cacheHits_afterOperations (operations : List (Operation Graph)) (mode : RouterMode) :
    ((afterOperations squareRoot sizeMb operations).usageStats mode).cacheHits +
        (operationMoments squareRoot sizeMb operations).countP (isColdRequest mode) =
      ((afterOperations squareRoot sizeMb operations).usageStats mode).requests +
        (operationMoments squareRoot sizeMb operations).countP (isWarmPreload mode) := by
  have hruns : ∀ router : ChileMultiModalRouter Graph,
      ((runEnd (perform squareRoot sizeMb) router operations).usageStats mode).cacheHits +
            (router.usageStats mode).requests +
          (moments (perform squareRoot sizeMb) router operations).countP (isColdRequest mode) =
        ((runEnd (perform squareRoot sizeMb) router operations).usageStats mode).requests +
            (router.usageStats mode).cacheHits +
          (moments (perform squareRoot sizeMb) router operations).countP (isWarmPreload mode) := by
    induction operations with
    | nil => exact fun router => Nat.add_right_cancel_iff.mpr (Nat.add_comm _ _)
    | cons operation rest ih =>
        intro router
        have hfirst := @perform_counts _ router squareRoot sizeMb operation mode
        have hrest := ih (router.perform squareRoot sizeMb operation)
        rw [runEnd_cons, moments_cons, List.countP_cons, List.countP_cons]
        omega
  exact hruns {}

end Counters

/-- The status is sound after a sequence of operations exactly when, for every mode, no more
preloads found its graph in memory than requests did not. -/
theorem statusAgrees_afterOperations_iff (squareRoot : ℚ → ℚ) (sizeMb : Option Graph → ℚ)
    (operations : List (Operation Graph)) :
    StatusAgrees (afterOperations squareRoot sizeMb operations) ↔
      ∀ mode, (operationMoments squareRoot sizeMb operations).countP (isWarmPreload mode) ≤
        (operationMoments squareRoot sizeMb operations).countP (isColdRequest mode) := by
  have hcounts := cacheHits_afterOperations squareRoot sizeMb operations
  constructor
  · intro hstatus mode
    have hmode := hcounts mode
    have hle := hstatus.hits_le mode
    omega
  · intro hpreloads
    refine ⟨fun mode => ?_, flagsHold_afterOperations squareRoot sizeMb operations⟩
    have hmode := hcounts mode
    have hle := hpreloads mode
    omega

/-- Preloading walks twice and asking for no route: one hit of no request. -/
theorem not_statusAgrees_preload_twice :
    ¬ ∀ operations : List (Operation Unit),
      StatusAgrees (afterOperations id (fun _ => 1) operations) := by
  intro hall
  let disk : RouterMode → CacheFile Unit := fun _ => .holds (some ())
  have hhits := (hall [.preloadCache "walk" disk, .preloadCache "walk" disk]).hits_le .walk
  revert hhits
  decide

end ChileMultiModalRouter

end Goveling.Routing
