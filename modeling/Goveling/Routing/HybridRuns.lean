/-
# A service over several loads

A lookup is remembered for its point and its limit, the coordinates of nodes are added to those of
earlier tables, and a table whose construction raises half-way leaves its nodes and its graph
behind. None of this is taken back by a later load. The answers are those of a new service only
while every load finds nothing in memory that its tables would answer differently.
-/

import Goveling.Math.Runs
import Goveling.Routing.NearestNode

namespace Goveling.Routing.Hybrid

open Goveling.Math Goveling.Python

/-! ## The service -/

/-- The arguments of a lookup. A limit that is left out is another key than one that is given. -/
structure LookupQuery where
  lat : ℚ
  lon : ℚ
  maxDistanceM : Option ℚ := none
  deriving DecidableEq

/-- The lookup that the arguments ask for. -/
def LookupQuery.answer (env : LookupEnv) (index : NodeIndex) (query : LookupQuery) :
    Except PyError (Option NearestNodeResult) :=
  findNearestNode env index query.lat query.lon (query.maxDistanceM.getD 1000)

/-- `HybridCity2GraphService`, with what `lru_cache` remembers, the last used first. -/
structure HybridService where
  index : NodeIndex
  graph : Option DiGraph
  memo : List (LookupQuery × Option NearestNodeResult)

/-- A new service. -/
def HybridService.new : HybridService := ⟨.empty, none, []⟩

/-- The tables of a country. -/
structure Tables where
  nodes : List NodeRow
  edges : List EdgeRow

/-- What `load_data` finds on the disk: no tables, or none that can be read, or tables. -/
inductive CountryData
  | unavailable
  | tables (found : Tables)

/-- What is asked of a service. -/
inductive Call
  | loadData (country : CountryData)
  | findNearestNode (query : LookupQuery)
  | route (origin dest : ℚ × ℚ) (weight : String)

/-- What a service answers. -/
inductive Answer
  | loaded (success : Bool)
  | found (result : Except PyError (Option NearestNodeResult))
  | routed (result : Except PyError (Option RouteResult))

/-- Tables of which the graph can be built. -/
def Tables.loads (tables : Tables) : Bool :=
  (buildOptimizedGraph tables.nodes tables.edges).2.isNone

section

variable (env : LookupEnv) (shortestPath : ShortestPath)

namespace HybridService

/-- `load_data` of tables. The index is built if the graph is. -/
def loadTables (service : HybridService) (tables : Tables) : HybridService :=
  let index := service.index.addNodes tables.nodes
  { service with
    index := if tables.loads then index.buildSpatialIndex env else index
    graph := some (buildOptimizedGraph tables.nodes tables.edges).1 }

/-- `find_nearest_node` with `lru_cache(maxsize=10000)`, which remembers no exceptions. -/
def lookup (service : HybridService) (query : LookupQuery) :
    Except PyError (Option NearestNodeResult) × HybridService :=
  match service.memo.find? fun entry => entry.1 = query with
  | some entry =>
      (.ok entry.2,
        { service with memo := entry :: service.memo.filter fun entry => entry.1 ≠ query })
  | none =>
      match query.answer env service.index with
      | .ok answer =>
          (.ok answer, { service with memo := ((query, answer) :: service.memo).take 10000 })
      | .error e => (.error e, service)

/-- `route` between two points. -/
def routeBetween (service : HybridService) (origin dest : ℚ × ℚ) (weight : String) :
    Except PyError (Option RouteResult) × HybridService :=
  match service.lookup env ⟨origin.1, origin.2, none⟩ with
  | (.error e, asked) => (.error e, asked)
  | (.ok originNode, asked) =>
      match asked.lookup env ⟨dest.1, dest.2, none⟩ with
      | (.error e, askedTwice) => (.error e, askedTwice)
      | (.ok destNode, askedTwice) =>
          (.ok (askedTwice.graph.bind fun graph =>
            Hybrid.route shortestPath graph weight originNode destNode), askedTwice)

/-- The answer to a call, and the service after it. -/
def call (service : HybridService) : Call → Answer × HybridService
  | .loadData .unavailable => (.loaded false, service)
  | .loadData (.tables tables) => (.loaded tables.loads, service.loadTables env tables)
  | .findNearestNode query =>
      let (result, asked) := service.lookup env query
      (.found result, asked)
  | .route origin dest weight =>
      let (result, asked) := service.routeBetween env shortestPath origin dest weight
      (.routed result, asked)

/-- The service after a call. -/
def after (service : HybridService) (asked : Call) : HybridService :=
  (service.call env shortestPath asked).2

/-- A new service that has loaded some tables, or none. -/
def fresh : Option Tables → HybridService
  | none => new
  | some tables => new.loadTables env tables

end HybridService

/-! ## The most recent load -/

/-- The tables of the service after a call, if it had some before. -/
def loadedAfter (tables : Option Tables) : Call → Option Tables
  | .loadData (.tables found) => if found.loads then some found else tables
  | _ => tables

/-- The tables of the most recent load that succeeded. -/
def lastLoaded (calls : List Call) : Option Tables := calls.foldl loadedAfter none

/-- The identifiers of the nodes of the tables. -/
def nodeIds : Option Tables → List ℤ
  | none => []
  | some tables => tables.nodes.map NodeRow.id

/-- An answer is the one of a new service that has loaded the tables, and a node is one of
theirs. -/
structure RefersTo (tables : Option Tables) (asked : Call) (answer : Answer) : Prop where
  fresh : answer = ((HybridService.fresh env tables).call env shortestPath asked).1
  known : ∀ result, answer = .found (.ok (some result)) → result.nodeId ∈ nodeIds tables

/-- Every answer of a run refers to the most recent load. -/
def AnswersFresh (calls : List Call) : Prop :=
  ∀ before asked later, calls = before ++ asked :: later →
    RefersTo env shortestPath (lastLoaded before) asked
      ((runEnd (HybridService.after env shortestPath) .new before).call env shortestPath asked).1

/-- A load that leaves nothing behind. Tables that can be loaded bring the same coordinates as to a
new service, and everything that is remembered is what they answer. Tables that cannot be loaded
bring nothing new up to the row that fails. -/
def SafeCall (moment : HybridService × Call) : Prop :=
  match moment.2 with
  | .loadData (.tables tables) =>
      if tables.loads then
        (moment.1.index.addNodes tables.nodes).nodeCoords = coordsOf tables.nodes ∧
          ∀ entry ∈ moment.1.memo,
            entry.1.answer env (loadedIndex env tables.nodes) = .ok entry.2
      else
        (moment.1.index.addNodes tables.nodes).nodeCoords = moment.1.index.nodeCoords ∧
          moment.1.graph = some (buildOptimizedGraph tables.nodes tables.edges).1
  | _ => True

end

/-! ## What a lookup returns -/

section

variable {env : LookupEnv} {shortestPath : ShortestPath}

/-- A node that is returned has coordinates. -/
theorem mem_keys_of_acceptNearest {index : NodeIndex} {lat lon maxDistanceM : ℚ}
    {nearest : Option Located} {result : NearestNodeResult}
    (haccepted : acceptNearest env index lat lon maxDistanceM nearest = .ok (some result)) :
    result.nodeId ∈ index.nodeCoords.keys := by
  unfold acceptNearest at haccepted
  cases nearest with
  | none => cases haccepted
  | some node =>
      dsimp only at haccepted
      split at haccepted
      · obtain ⟨located, hlocated, hresult⟩ := exists_of_bind_eq_ok haccepted
        cases hresult
        unfold NodeIndex.locate at hlocated
        split at hlocated
        · rename_i coordinates hfound
          exact OrderedMap.mem_keys_of_get?_eq_some hfound
        · cases hlocated
      · cases haccepted

theorem LookupQuery.mem_keys_of_answer {index : NodeIndex} {query : LookupQuery}
    {result : NearestNodeResult} (hanswer : query.answer env index = .ok (some result)) :
    result.nodeId ∈ index.nodeCoords.keys := by
  unfold LookupQuery.answer findNearestNode at hanswer
  split at hanswer
  · obtain ⟨nearest, -, haccepted⟩ := exists_of_bind_eq_ok hanswer
    exact mem_keys_of_acceptNearest haccepted
  · obtain ⟨nearest, -, haccepted⟩ := exists_of_bind_eq_ok hanswer
    exact mem_keys_of_acceptNearest haccepted

/-! ## What is refreshed by a load -/

theorem nodeCoords_buildSpatialIndex (index : NodeIndex) :
    (index.buildSpatialIndex env).nodeCoords = index.nodeCoords := by
  unfold NodeIndex.buildSpatialIndex
  split <;> rfl

/-- The attribute that is not used with or without an R-tree is as in a new service. -/
def NodeIndex.Unused (env : LookupEnv) (index : NodeIndex) : Prop :=
  if env.rtreeAvailable then index.nodeCoordsList = [] else index.spatialIndex = none

theorem NodeIndex.Unused.addNodes {index : NodeIndex} (hunused : index.Unused env)
    (nodes : List NodeRow) : (index.addNodes nodes).Unused env :=
  hunused

theorem NodeIndex.Unused.build {index : NodeIndex} (hunused : index.Unused env) :
    (index.buildSpatialIndex env).Unused env := by
  unfold NodeIndex.Unused NodeIndex.buildSpatialIndex at *
  split
  · rwa [if_pos ‹_›] at hunused
  · rwa [if_neg ‹_›] at hunused

/-- An index is built from the coordinates. -/
theorem NodeIndex.Unused.build_eq {index other : NodeIndex} (hunused : index.Unused env)
    (hother : other.Unused env) (hcoords : index.nodeCoords = other.nodeCoords) :
    index.buildSpatialIndex env = other.buildSpatialIndex env := by
  obtain ⟨coords, tree, listed⟩ := index
  obtain ⟨otherCoords, otherTree, otherListed⟩ := other
  obtain rfl : coords = otherCoords := hcoords
  unfold NodeIndex.Unused at hunused hother
  unfold NodeIndex.buildSpatialIndex
  cases hrtree : env.rtreeAvailable with
  | true =>
      rw [hrtree, if_pos rfl] at hunused hother
      obtain rfl : listed = [] := hunused
      obtain rfl : otherListed = [] := hother
      rfl
  | false =>
      rw [hrtree, if_neg Bool.false_ne_true] at hunused hother
      obtain rfl : tree = none := hunused
      obtain rfl : otherTree = none := hother
      rfl

theorem unused_empty : NodeIndex.empty.Unused env := by
  unfold NodeIndex.Unused
  split <;> rfl

theorem index_fresh {tables : Tables} (hloads : tables.loads = true) :
    (HybridService.fresh env (some tables)).index = loadedIndex env tables.nodes := by
  unfold HybridService.fresh HybridService.loadTables
  dsimp only
  rw [if_pos hloads]
  rfl

/-- What a service holds is what a new one holds that has loaded the tables, and everything that it
remembers is what they answer. -/
structure Coherent (env : LookupEnv) (tables : Option Tables) (service : HybridService) : Prop where
  loads : ∀ found ∈ tables, found.loads = true
  index : service.index = (HybridService.fresh env tables).index
  graph : service.graph = (HybridService.fresh env tables).graph
  memo : ∀ entry ∈ service.memo,
    entry.1.answer env (HybridService.fresh env tables).index = .ok entry.2

variable {tables : Option Tables} {service : HybridService}

variable (env) in
theorem coherent_fresh (hloads : ∀ found ∈ tables, found.loads = true) :
    Coherent env tables (HybridService.fresh env tables) where
  loads := hloads
  index := rfl
  graph := rfl
  memo := by
    cases tables with
    | none => exact List.forall_mem_nil _
    | some found => exact List.forall_mem_nil _

theorem Coherent.unused (hcoherent : Coherent env tables service) : service.index.Unused env := by
  rw [hcoherent.index]
  cases tables with
  | none => exact unused_empty
  | some found =>
      rw [index_fresh (hcoherent.loads found rfl)]
      exact (unused_empty.addNodes found.nodes).build

/-- A lookup answers as in a new service. -/
theorem Coherent.lookup (hcoherent : Coherent env tables service) (query : LookupQuery) :
    (service.lookup env query).1 = query.answer env (HybridService.fresh env tables).index ∧
      Coherent env tables (service.lookup env query).2 := by
  unfold HybridService.lookup
  split
  · rename_i entry hentry
    have hmem := List.mem_of_find?_eq_some hentry
    have hquery : entry.1 = query := by simpa using List.find?_some hentry
    refine ⟨?_, hcoherent.loads, hcoherent.index, hcoherent.graph, ?_⟩
    · rw [← hquery]
      exact (hcoherent.memo entry hmem).symm
    · intro other hother
      rcases List.mem_cons.mp hother with rfl | hold
      · exact hcoherent.memo other hmem
      · exact hcoherent.memo other (List.mem_of_mem_filter hold)
  · have hanswer : query.answer env service.index =
        query.answer env (HybridService.fresh env tables).index := by
      rw [hcoherent.index]
    split
    · rename_i answer hfound
      rw [hanswer] at hfound
      refine ⟨hfound.symm, hcoherent.loads, hcoherent.index, hcoherent.graph, ?_⟩
      intro entry hentry
      rcases List.mem_cons.mp (List.mem_of_mem_take hentry) with rfl | hold
      · exact hfound
      · exact hcoherent.memo entry hold
    · rename_i e hfailed
      rw [hanswer] at hfailed
      exact ⟨hfailed.symm, hcoherent⟩

/-- The route that a new service answers with. -/
def freshRoute (env : LookupEnv) (shortestPath : ShortestPath) (tables : Option Tables)
    (origin dest : ℚ × ℚ) (weight : String) : Except PyError (Option RouteResult) := do
  let originNode ←
    LookupQuery.answer env (HybridService.fresh env tables).index ⟨origin.1, origin.2, none⟩
  let destNode ←
    LookupQuery.answer env (HybridService.fresh env tables).index ⟨dest.1, dest.2, none⟩
  .ok ((HybridService.fresh env tables).graph.bind fun graph =>
    route shortestPath graph weight originNode destNode)

/-- A route is the one of a new service. -/
theorem Coherent.routeBetween (hcoherent : Coherent env tables service) (origin dest : ℚ × ℚ)
    (weight : String) :
    (service.routeBetween env shortestPath origin dest weight).1 =
        freshRoute env shortestPath tables origin dest weight ∧
      Coherent env tables (service.routeBetween env shortestPath origin dest weight).2 := by
  unfold HybridService.routeBetween freshRoute
  obtain ⟨horigin, hasked⟩ := hcoherent.lookup ⟨origin.1, origin.2, none⟩
  rw [← horigin]
  generalize service.lookup env ⟨origin.1, origin.2, none⟩ = first at *
  obtain ⟨_ | originNode, asked⟩ := first
  · exact ⟨rfl, hasked⟩
  · obtain ⟨hdest, haskedTwice⟩ := hasked.lookup ⟨dest.1, dest.2, none⟩
    rw [← hdest]
    dsimp only at *
    generalize asked.lookup env ⟨dest.1, dest.2, none⟩ = second at *
    obtain ⟨_ | destNode, askedTwice⟩ := second
    · exact ⟨rfl, haskedTwice⟩
    · refine ⟨?_, haskedTwice⟩
      dsimp only
      rw [haskedTwice.graph]
      rfl

/-! ## Runs -/

/-- A call is answered as by a new service. -/
theorem Coherent.call (hcoherent : Coherent env tables service) (asked : Call) :
    (service.call env shortestPath asked).1 =
      ((HybridService.fresh env tables).call env shortestPath asked).1 := by
  have hfresh := coherent_fresh env hcoherent.loads
  cases asked with
  | loadData country =>
      cases country with
      | unavailable => rfl
      | tables found => rfl
  | findNearestNode query =>
      exact congrArg Answer.found ((hcoherent.lookup query).1.trans (hfresh.lookup query).1.symm)
  | route origin dest weight =>
      exact congrArg Answer.routed ((hcoherent.routeBetween origin dest weight).1.trans
        (hfresh.routeBetween origin dest weight).1.symm)

/-- A call that leaves nothing behind keeps a service coherent with its tables. -/
theorem Coherent.after (hcoherent : Coherent env tables service) {asked : Call}
    (hsafe : SafeCall env (service, asked)) :
    Coherent env (loadedAfter tables asked) (service.after env shortestPath asked) := by
  cases asked with
  | findNearestNode query => exact (hcoherent.lookup query).2
  | route origin dest weight => exact (hcoherent.routeBetween origin dest weight).2
  | loadData country =>
      cases country with
      | unavailable => exact hcoherent
      | tables found =>
          unfold SafeCall at hsafe
          unfold loadedAfter HybridService.after HybridService.call HybridService.loadTables
          dsimp only at hsafe ⊢
          by_cases hloads : found.loads = true
          · rw [if_pos hloads] at hsafe
            rw [if_pos hloads, if_pos hloads]
            have hindex := (hcoherent.unused.addNodes found.nodes).build_eq
              (unused_empty.addNodes found.nodes) hsafe.1
            refine ⟨?_, ?_, rfl, ?_⟩
            · exact fun other hother => Option.some.inj hother ▸ hloads
            · rw [index_fresh hloads]
              exact hindex
            · rw [index_fresh hloads]
              exact hsafe.2
          · rw [if_neg hloads] at hsafe
            rw [if_neg hloads, if_neg hloads]
            have hindex : service.index.addNodes found.nodes = service.index := by
              have hkept : service.index.addNodes found.nodes = { service.index with
                  nodeCoords := (service.index.addNodes found.nodes).nodeCoords } := rfl
              rw [hkept, hsafe.1]
            refine ⟨hcoherent.loads, ?_, ?_, hcoherent.memo⟩
            · rw [hindex]
              exact hcoherent.index
            · rw [← hsafe.2]
              exact hcoherent.graph

theorem lastLoaded_concat (before : List Call) (asked : Call) :
    lastLoaded (before ++ [asked]) = loadedAfter (lastLoaded before) asked := by
  rw [lastLoaded, List.foldl_append]
  rfl

/-- A node that a new service returns is one of its tables. -/
theorem mem_nodeIds_of_fresh {query : LookupQuery} {result : NearestNodeResult}
    (hloads : ∀ found ∈ tables, found.loads = true)
    (hanswer : query.answer env (HybridService.fresh env tables).index = .ok (some result)) :
    result.nodeId ∈ nodeIds tables := by
  have hknown := LookupQuery.mem_keys_of_answer hanswer
  cases tables with
  | none => cases hknown
  | some found =>
      rw [index_fresh (hloads found rfl), loadedIndex, nodeCoords_buildSpatialIndex] at hknown
      exact OrderedMap.mem_keys_setAll_map.mp hknown

/-- The answers of a coherent service refer to its tables. -/
theorem Coherent.refersTo (hcoherent : Coherent env tables service) (asked : Call) :
    RefersTo env shortestPath tables asked (service.call env shortestPath asked).1 := by
  refine ⟨hcoherent.call asked, fun result hresult => ?_⟩
  cases asked with
  | findNearestNode query =>
      have hfound := (hcoherent.lookup query).1.symm.trans (Answer.found.inj hresult)
      exact mem_nodeIds_of_fresh hcoherent.loads hfound
  | loadData country =>
      cases country with
      | unavailable => cases hresult
      | tables found => cases hresult
  | route origin dest weight => cases hresult

end

/-- In a run whose loads leave nothing behind every answer refers to the most recent load. -/
theorem answersFresh_of_safeCalls (env : LookupEnv) (shortestPath : ShortestPath)
    (calls : List Call)
    (hsafe : ∀ moment ∈ moments (HybridService.after env shortestPath) .new calls,
      SafeCall env moment) : AnswersFresh env shortestPath calls := by
  rintro before asked later rfl
  have hcoherent : Coherent env (lastLoaded before)
      (runEnd (HybridService.after env shortestPath) .new before) := by
    apply runEnd_history_of_allowed (fun past => Coherent env (lastLoaded past)) (SafeCall env)
      (coherent_fresh env fun _ hnone => by cases hnone)
    · intro past service event hpast hevent
      rw [lastLoaded_concat]
      exact hpast.after hevent
    · intro moment hmoment
      obtain ⟨first, rest, hsplit, hstate⟩ := mem_moments_iff.mp hmoment
      refine hsafe moment (mem_moments_iff.mpr ⟨first, rest ++ asked :: later, ?_, hstate⟩)
      rw [hsplit, List.append_assoc, List.cons_append]
  exact hcoherent.refersTo asked

/-- The tables of a town of a single node. -/
def punta : Tables := ⟨[square 7], []⟩

/-- The tables of another town, far away. -/
def santiago : Tables := ⟨[⟨8, -334372 / 10000, -706506 / 10000⟩], []⟩

/-- A lookup in the first town. -/
def atSquare : LookupQuery where
  lat := -5316 / 100
  lon := -7090 / 100

/-- Lookups and a route after a single load. -/
theorem answersFresh_punta : AnswersFresh puntaArenas directPath
    [.loadData (.tables punta), .findNearestNode atSquare, .loadData .unavailable,
      .findNearestNode atSquare, .route (-5316 / 100, -7090 / 100) (-5316 / 100, -7090 / 100)
        "travel_time"] := by
  apply answersFresh_of_safeCalls puntaArenas directPath
  have hload : SafeCall puntaArenas (.new, .loadData (.tables punta)) := by
    have hloads : punta.loads = true := rfl
    unfold SafeCall
    dsimp only
    rw [if_pos hloads]
    exact ⟨rfl, List.forall_mem_nil _⟩
  simp only [moments_cons, moments_nil, List.forall_mem_cons]
  exact ⟨hload, trivial, trivial, trivial, trivial, List.forall_mem_nil _⟩

/-- A node that a run returns and that is not one of its tables does not refer to them. -/
theorem not_answersFresh {env : LookupEnv} {shortestPath : ShortestPath} (before : List Call)
    {query : LookupQuery} (result : NearestNodeResult)
    (hanswer : ((runEnd (HybridService.after env shortestPath) .new before).lookup env query).1 =
      .ok (some result))
    (hstale : result.nodeId ∉ nodeIds (lastLoaded before)) :
    ¬ AnswersFresh env shortestPath (before ++ [.findNearestNode query]) := by
  intro hfresh
  have hrefers := hfresh before (.findNearestNode query) [] rfl
  exact hstale (hrefers.known result (congrArg Answer.found hanswer))

/-- After the second load the service still returns a node of the first town: one that it
remembers, and one whose coordinates it keeps. -/
theorem not_answersFresh_santiago :
    ¬ AnswersFresh puntaArenas directPath
        [.loadData (.tables punta), .findNearestNode atSquare, .loadData (.tables santiago),
          .findNearestNode atSquare] ∧
      ¬ AnswersFresh puntaArenas directPath
        [.loadData (.tables punta), .loadData (.tables santiago), .findNearestNode atSquare] := by
  constructor
  · apply not_answersFresh [.loadData (.tables punta), .findNearestNode atSquare,
      .loadData (.tables santiago)] ⟨7, 0, -5316 / 100, -7090 / 100⟩
    · decide +kernel
    · decide
  · apply not_answersFresh [.loadData (.tables punta), .loadData (.tables santiago)]
      ⟨7, 0, -5316 / 100, -7090 / 100⟩
    · decide +kernel
    · decide

end Goveling.Routing.Hybrid
