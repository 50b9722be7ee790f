/-
# The graph of travel times

`HybridCity2GraphService` reads a table of nodes and a table of edges into a graph that has at most
one edge from a node to another, and `route` takes the fastest path of that graph. The table may
have several rows for two nodes. The last of them stays, also where an earlier one is faster.
-/

import Goveling.Math.OrderedMap
import Goveling.Math.Walks
import Goveling.Python.Numbers

namespace Goveling.Routing.Hybrid

open Goveling.Math Goveling.Math.Walks Goveling.Python

/-! ## Speeds -/

/-- `SPEED_PROFILES`. -/
def speedProfiles : List (String × ℚ) :=
  [("motorway", 120),
    ("motorway_link", 80),
    ("trunk", 100),
    ("trunk_link", 60),
    ("primary", 80),
    ("primary_link", 50),
    ("secondary", 60),
    ("secondary_link", 40),
    ("tertiary", 50),
    ("tertiary_link", 30),
    ("residential", 30),
    ("living_street", 20),
    ("unclassified", 40),
    ("service", 20),
    ("track", 15),
    ("path", 10),
    ("footway", 5),
    ("cycleway", 15),
    ("steps", 3),
    ("road", 40)]

/-- A speed in kilometres an hour, as far as a speed limit can give it. -/
inductive Speed
  | finite (kmh : ℚ)
  | negInfinite
  | nan

/-- `min(float(speed_str), 150)`, in kilometres. -/
def cappedSpeed (speedStr : String) (kmPerUnit : ℚ) : Option ℚ → Speed
  | some number => .finite (min (number * kmPerUnit) 150)
  | none =>
      if textIn "nan" (lowerText speedStr) then .nan
      else if "-".toList.isPrefixOf speedStr.toList then .negInfinite
      else .finite 150

/-- The speed that a speed limit gives. -/
def explicitSpeed : PyVal → Except PyError Speed
  | .str maxspeed => do
      let speedStr := stripText (replaceText (replaceText maxspeed "mph" "") "km/h" "")
      let number ← floatText speedStr
      let kmPerUnit : ℚ := if textIn "mph" (lowerText maxspeed) then 160934 / 100000 else 1
      .ok (cappedSpeed speedStr kmPerUnit number)
  | other => .error (.attributeError
      ("'" ++ other.typeName ++ "' object has no attribute 'replace'"))

/-- The speed that the type of a road gives. -/
def profileSpeed : PyVal → Except PyError Speed
  | .str highwayType => .ok (.finite ((speedProfiles.lookup highwayType).getD 40))
  | other =>
      if other.hashable then .ok (.finite 40)
      else .error (.typeError ("unhashable type: '" ++ other.typeName ++ "'"))

/-- `get_speed`. A speed limit that cannot be read is passed over. -/
def getSpeed (highwayType maxspeed : PyVal) : Except PyError Speed :=
  if maxspeed.truthy then
    match explicitSpeed maxspeed with
    | .ok speed => .ok speed
    | .error _ => profileSpeed highwayType
  else profileSpeed highwayType

/-- `calculate_travel_time` in seconds. A speed limit that reads `nan` gives no number. -/
def calculateTravelTime (distanceM : ℚ) (highwayType maxspeed : PyVal) :
    Except PyError (Option ℚ) := do
  match ← getSpeed highwayType maxspeed with
  | .finite kmh =>
      let speedMs := kmh / (36 / 10)
      if speedMs = 0 then .error (.zeroDivisionError "float division by zero")
      else .ok (some (distanceM / speedMs))
  | .negInfinite => .ok (some 0)
  | .nan => .ok none

/-! ## The graph -/

/-- A row of the table of nodes. -/
structure NodeRow where
  id : ℤ
  lat : ℚ
  lon : ℚ

/-- A row of the table of edges. A column that is missing reads as `None`, and `oneway` as
`False`. -/
structure EdgeRow where
  fromId : ℤ
  toId : ℤ
  distanceM : ℚ
  highwayType : PyVal
  maxspeed : PyVal
  oneway : PyVal

/-- The attributes of an edge. Its `weight` is its travel time. -/
structure EdgeData where
  distance : ℚ
  travelTime : Option ℚ
  highwayType : PyVal
  maxspeed : PyVal

/-- `nx.DiGraph`. -/
structure DiGraph where
  nodes : List ℤ
  edges : OrderedMap (ℤ × ℤ) EdgeData

/-- The travel time of a row. -/
def EdgeRow.travelTime (row : EdgeRow) : Except PyError (Option ℚ) :=
  calculateTravelTime row.distanceM row.highwayType row.maxspeed

/-- The attributes that a row gives to its edges. -/
def EdgeRow.data (row : EdgeRow) (travelTime : Option ℚ) : EdgeData where
  distance := row.distanceM
  travelTime := travelTime
  highwayType := row.highwayType
  maxspeed := row.maxspeed

namespace DiGraph

/-- The graph without nodes. -/
def empty : DiGraph := ⟨[], .empty⟩

/-- `graph.add_node(node)`. -/
def addNode (graph : DiGraph) (node : ℤ) : DiGraph :=
  if node ∈ graph.nodes then graph else { graph with nodes := graph.nodes ++ [node] }

/-- `graph.add_edge(source, target, **attributes)`. -/
def addEdge (graph : DiGraph) (source target : ℤ) (attributes : EdgeData) : DiGraph :=
  let joined := (graph.addNode source).addNode target
  { joined with edges := joined.edges.set (source, target) attributes }

/-- The edge from a node to another. -/
def edge? (graph : DiGraph) (source target : ℤ) : Option EdgeData :=
  graph.edges.get? (source, target)

/-- The edges of a row: one in its direction, and one back unless it is one-way. -/
def addRow (graph : DiGraph) (row : EdgeRow) (travelTime : Option ℚ) : DiGraph :=
  let forward := graph.addEdge row.fromId row.toId (row.data travelTime)
  if row.oneway.truthy then forward else forward.addEdge row.toId row.fromId (row.data travelTime)

/-- The edges of the rows up to the first one that raises. -/
def addRows : DiGraph → List EdgeRow → DiGraph × Option PyError
  | graph, [] => (graph, none)
  | graph, row :: rest =>
      match row.travelTime with
      | .ok travelTime => addRows (graph.addRow row travelTime) rest
      | .error e => (graph, some e)

end DiGraph

/-- `_build_optimized_graph`: the graph, and the exception that ended its construction. -/
def buildOptimizedGraph (nodes : List NodeRow) (rows : List EdgeRow) : DiGraph × Option PyError :=
  (nodes.foldl (fun graph row => graph.addNode row.id) DiGraph.empty).addRows rows

/-! ## Routes -/

/-- `NearestNodeResult`. -/
structure NearestNodeResult where
  nodeId : ℤ
  distanceM : ℚ
  lat : ℚ
  lon : ℚ
  deriving DecidableEq

/-- `RouteResult`. -/
structure RouteResult where
  path : List ℤ
  distanceM : ℚ
  travelTimeS : Option ℚ
  highwayTypes : List PyVal
  estimatedSpeedKmh : ℚ

/-- `nx.shortest_path(graph, source, target, weight)`, or nothing if it raises. -/
abbrev ShortestPath := DiGraph → ℤ → ℤ → String → Option (List ℤ)

/-- `avg_speed_kmh`. -/
def averageSpeed (distance : ℚ) : Option ℚ → ℚ
  | some travelTime => if 0 < travelTime then distance / 1000 / (travelTime / 3600) else 0
  | none => 0

/-- The result for the edges of a path. -/
def routeResult (path : List ℤ) (taken : List EdgeData) : RouteResult :=
  let distance := (taken.map EdgeData.distance).sum
  let travelTime := total EdgeData.travelTime taken
  { path := path
    distanceM := distance
    travelTimeS := travelTime
    highwayTypes := taken.map EdgeData.highwayType
    estimatedSpeedKmh := averageSpeed distance travelTime }

/-- `route` between two snapped points. -/
def route (shortestPath : ShortestPath) (graph : DiGraph) (weight : String)
    (origin dest : Option NearestNodeResult) : Option RouteResult := do
  let originNode ← origin
  let destNode ← dest
  let path ← shortestPath graph originNode.nodeId destNode.nodeId weight
  let taken ← steps graph.edge? path
  some (routeResult path taken)

/-! ## The edges of a graph -/

/-- A row that can be taken from a node to another. -/
def EdgeRow.leads (row : EdgeRow) (u v : ℤ) : Bool :=
  (row.fromId = u && row.toId = v) || (!row.oneway.truthy && row.toId = u && row.fromId = v)

/-- The last row that can be taken from a node to another. -/
def lastRow (rows : List EdgeRow) (u v : ℤ) : Option EdgeRow :=
  (rows.filter fun row => row.leads u v).getLast?

/-- The edge that a row makes. -/
def EdgeRow.edge? (row : EdgeRow) : Option EdgeData :=
  match row.travelTime with
  | .ok travelTime => some (row.data travelTime)
  | .error _ => none

theorem lastRow_cons (row : EdgeRow) (rest : List EdgeRow) (u v : ℤ) :
    lastRow (row :: rest) u v =
      (lastRow rest u v).or (if row.leads u v then some row else none) := by
  unfold lastRow
  by_cases hleads : row.leads u v = true
  · rw [List.filter_cons_of_pos (p := fun row : EdgeRow => row.leads u v) hleads,
      List.getLast?_cons, if_pos hleads]
    cases (rest.filter fun row => row.leads u v).getLast? with
    | none => rfl
    | some last => rfl
  · rw [List.filter_cons_of_neg (p := fun row : EdgeRow => row.leads u v) hleads,
      if_neg hleads, Option.or_none]

theorem mem_of_lastRow {rows : List EdgeRow} {u v : ℤ} {row : EdgeRow}
    (hlast : lastRow rows u v = some row) : row ∈ rows ∧ row.leads u v = true :=
  List.mem_filter.mp (List.mem_of_getLast? hlast)

namespace DiGraph

@[simp]
theorem edges_addNode (graph : DiGraph) (node : ℤ) : (graph.addNode node).edges = graph.edges := by
  unfold addNode
  split <;> rfl

theorem edge?_addNode (graph : DiGraph) (node u v : ℤ) :
    (graph.addNode node).edge? u v = graph.edge? u v := by
  rw [edge?, edges_addNode, edge?]

theorem edge?_addEdge (graph : DiGraph) (source target : ℤ) (attributes : EdgeData) (u v : ℤ) :
    (graph.addEdge source target attributes).edge? u v =
      if source = u ∧ target = v then some attributes else graph.edge? u v := by
  unfold addEdge edge?
  rw [OrderedMap.get?_set, edges_addNode, edges_addNode]
  by_cases hjoined : source = u ∧ target = v
  · obtain ⟨rfl, rfl⟩ := hjoined
    rw [if_pos rfl, if_pos ⟨rfl, rfl⟩]
  · have hne : (u, v) ≠ (source, target) := by
      rintro heq
      obtain ⟨rfl, rfl⟩ := Prod.mk.inj heq
      exact hjoined ⟨rfl, rfl⟩
    rw [if_neg hne, if_neg hjoined]

/-- A row overwrites the edges between its nodes. -/
theorem edge?_addRow (graph : DiGraph) (row : EdgeRow) (travelTime : Option ℚ) (u v : ℤ) :
    (graph.addRow row travelTime).edge? u v =
      if row.leads u v then some (row.data travelTime) else graph.edge? u v := by
  unfold addRow EdgeRow.leads
  cases row.oneway.truthy with
  | true => simp [edge?_addEdge]
  | false =>
      simp only [Bool.false_eq_true, if_false, edge?_addEdge]
      by_cases hforward : row.fromId = u ∧ row.toId = v
      · simp [hforward]
      · by_cases hback : row.toId = u ∧ row.fromId = v
        · simp [hback]
        · simp [hforward, hback]

/-- The edge from a node to another is made by the last row that leads there. -/
theorem edge?_addRows {graph : DiGraph} {rows : List EdgeRow}
    (hloaded : (graph.addRows rows).2 = none) (u v : ℤ) :
    (graph.addRows rows).1.edge? u v =
      (lastRow rows u v).elim (graph.edge? u v) EdgeRow.edge? := by
  induction rows generalizing graph with
  | nil => rfl
  | cons row rest ih =>
      cases htime : row.travelTime with
      | error e =>
          rw [addRows, htime] at hloaded
          cases hloaded
      | ok travelTime =>
          have hedge : row.edge? = some (row.data travelTime) := by
            rw [EdgeRow.edge?, htime]
          rw [addRows, htime] at hloaded ⊢
          rw [ih hloaded, lastRow_cons, edge?_addRow]
          cases lastRow rest u v with
          | some last => rfl
          | none =>
              rw [Option.none_or]
              split
              · exact hedge.symm
              · rfl

/-- Nodes stay. -/
theorem mem_nodes_addNode {graph : DiGraph} {node other : ℤ} :
    other ∈ (graph.addNode node).nodes ↔ other = node ∨ other ∈ graph.nodes := by
  unfold addNode
  split
  · rename_i hmem
    exact ⟨.inr, fun h => h.elim (fun heq => heq ▸ hmem) id⟩
  · rw [List.mem_append, List.mem_singleton, or_comm]

theorem nodes_subset_addRow (graph : DiGraph) (row : EdgeRow) (travelTime : Option ℚ) :
    graph.nodes ⊆ (graph.addRow row travelTime).nodes := by
  have hedge : ∀ (graph : DiGraph) (source target : ℤ) (attributes : EdgeData),
      graph.nodes ⊆ (graph.addEdge source target attributes).nodes := by
    intro graph source target attributes node hnode
    exact mem_nodes_addNode.mpr (.inr (mem_nodes_addNode.mpr (.inr hnode)))
  unfold addRow
  split
  · exact hedge ..
  · exact List.Subset.trans (hedge ..) (hedge ..)

theorem nodes_subset_addRows (graph : DiGraph) (rows : List EdgeRow) :
    graph.nodes ⊆ (graph.addRows rows).1.nodes := by
  induction rows generalizing graph with
  | nil => exact fun _ => id
  | cons row rest ih =>
      rw [addRows]
      split
      · exact List.Subset.trans (nodes_subset_addRow ..) (ih _)
      · exact fun _ => id

end DiGraph

/-! ## Tables and routes -/

/-- A table of edges whose travel times are numbers. -/
abbrev TimedTable :=
  { rows : List EdgeRow // ∀ row ∈ rows, ∃ time, row.travelTime = .ok (some time) }

/-- A row leads from a node to another in its travel time. -/
def RowStep (rows : List EdgeRow) (u v : ℤ) (time : ℚ) : Prop :=
  ∃ row ∈ rows, row.leads u v = true ∧ row.travelTime = .ok (some time)

/-- The last row that leads from a node to another does so in its travel time. -/
def LastStep (rows : List EdgeRow) (u v : ℤ) (time : ℚ) : Prop :=
  ∃ row, lastRow rows u v = some row ∧ row.travelTime = .ok (some time)

/-- A route has the least travel time of all paths over rows of the table, and there is no route
when there is no path. -/
def RouteIsFastest (rows : List EdgeRow) (source target : ℤ) (answer : Option RouteResult) : Prop :=
  match answer with
  | some result => ∃ time, result.travelTimeS = some time ∧
      IsLeast (weights (RowStep rows) source target) time
  | none => weights (RowStep rows) source target = ∅

/-- Some fastest path takes the last row wherever several rows lead from one node to the next, or
there is no path. -/
def KeepsFastest (rows : List EdgeRow) (source target : ℤ) : Prop :=
  (∃ time, Walk (LastStep rows) source target time ∧
    time ∈ lowerBounds (weights (RowStep rows) source target)) ∨
  weights (RowStep rows) source target = ∅

/-- What `shortest_path` does for two nodes of a graph: it raises or returns a path, and where there
is a fastest path, it returns one. -/
structure FindsShortest (shortestPath : ShortestPath) (graph : DiGraph) (source target : ℤ) :
    Prop where
  isPath : ∀ path, shortestPath graph source target "travel_time" = some path →
    ∃ taken, IsPath graph.edge? source target path taken
  least : source ∈ graph.nodes → target ∈ graph.nodes →
    (∃ time, IsLeast (weights (Step graph.edge? EdgeData.travelTime) source target) time) →
    ∃ path taken time, shortestPath graph source target "travel_time" = some path ∧
      IsPath graph.edge? source target path taken ∧
      total EdgeData.travelTime taken = some time ∧
      IsLeast (weights (Step graph.edge? EdgeData.travelTime) source target) time

theorem lastStep_rowStep {rows : List EdgeRow} {u v : ℤ} {time : ℚ}
    (hstep : LastStep rows u v time) : RowStep rows u v time := by
  obtain ⟨row, hlast, htime⟩ := hstep
  obtain ⟨hmem, hleads⟩ := mem_of_lastRow hlast
  exact ⟨row, hmem, hleads, htime⟩

/-- A table with travel times is loaded. -/
theorem TimedTable.addRows_eq_none (table : TimedTable) (graph : DiGraph) :
    (graph.addRows table.1).2 = none := by
  obtain ⟨rows, htimed⟩ := table
  dsimp only
  induction rows generalizing graph with
  | nil => rfl
  | cons row rest ih =>
      obtain ⟨time, htime⟩ := htimed row List.mem_cons_self
      rw [DiGraph.addRows, htime]
      exact ih _ fun other hother => htimed other (List.mem_cons_of_mem row hother)

theorem edge?_foldl_addNode (nodes : List NodeRow) (graph : DiGraph) (u v : ℤ) :
    (nodes.foldl (fun graph row => graph.addNode row.id) graph).edge? u v = graph.edge? u v := by
  induction nodes generalizing graph with
  | nil => rfl
  | cons row rest ih => rw [List.foldl_cons, ih, DiGraph.edge?_addNode]

theorem mem_nodes_foldl_addNode {nodes : List NodeRow} {graph : DiGraph} {node : ℤ}
    (hnode : node ∈ graph.nodes ∨ node ∈ nodes.map NodeRow.id) :
    node ∈ (nodes.foldl (fun graph row => graph.addNode row.id) graph).nodes := by
  induction nodes generalizing graph with
  | nil => exact hnode.resolve_right List.not_mem_nil
  | cons row rest ih =>
      apply ih
      rw [DiGraph.mem_nodes_addNode]
      rcases hnode with hold | hnew
      · exact .inl (.inr hold)
      · rcases List.mem_cons.mp hnew with heq | hrest
        · exact .inl (.inl heq)
        · exact .inr hrest

/-- The nodes of the table are nodes of the graph. -/
theorem mem_nodes_buildOptimizedGraph {nodes : List NodeRow} {rows : List EdgeRow} {node : ℤ}
    (hnode : node ∈ nodes.map NodeRow.id) : node ∈ (buildOptimizedGraph nodes rows).1.nodes :=
  DiGraph.nodes_subset_addRows _ rows (mem_nodes_foldl_addNode (.inr hnode))

/-- The edges of the graph are the last rows of the table. -/
theorem edge?_buildOptimizedGraph (nodes : List NodeRow) (table : TimedTable) (u v : ℤ) :
    (buildOptimizedGraph nodes table.1).1.edge? u v = (lastRow table.1 u v).bind EdgeRow.edge? := by
  unfold buildOptimizedGraph
  rw [DiGraph.edge?_addRows (table.addRows_eq_none _), edge?_foldl_addNode]
  cases lastRow table.1 u v with
  | none => rfl
  | some row => rfl

/-- The edges of the graph have the travel times of the last rows. -/
theorem step_eq_lastStep (nodes : List NodeRow) (table : TimedTable) :
    Step (buildOptimizedGraph nodes table.1).1.edge? EdgeData.travelTime = LastStep table.1 := by
  funext u v time
  unfold Step LastStep
  rw [edge?_buildOptimizedGraph]
  cases hlast : lastRow table.1 u v with
  | none => simp
  | some row =>
      obtain ⟨rowTime, htime⟩ := table.2 row (mem_of_lastRow hlast).1
      simp [EdgeRow.edge?, EdgeRow.data, htime]

theorem exists_travelTime (nodes : List NodeRow) (table : TimedTable) {u v : ℤ} {joining : EdgeData}
    (hjoining : (buildOptimizedGraph nodes table.1).1.edge? u v = some joining) :
    ∃ time, joining.travelTime = some time := by
  rw [edge?_buildOptimizedGraph] at hjoining
  obtain ⟨row, hlast, hedge⟩ := Option.bind_eq_some_iff.mp hjoining
  obtain ⟨time, htime⟩ := table.2 row (mem_of_lastRow hlast).1
  rw [EdgeRow.edge?, htime] at hedge
  exact ⟨time, congrArg EdgeData.travelTime (Option.some.inj hedge).symm⟩

section

variable {shortestPath : ShortestPath} {graph : DiGraph} {origin dest : NearestNodeResult}
  {weight : String} {result : RouteResult}

/-- A route follows the path that was found. -/
theorem route_eq_some_iff :
    route shortestPath graph weight (some origin) (some dest) = some result ↔
      ∃ path taken, shortestPath graph origin.nodeId dest.nodeId weight = some path ∧
        steps graph.edge? path = some taken ∧ routeResult path taken = result := by
  simp [route, Option.bind_eq_some_iff]

/-- A route for the default weight is a path with the travel time of the route. -/
theorem exists_path_of_route
    (hfinds : FindsShortest shortestPath graph origin.nodeId dest.nodeId)
    (hroute : route shortestPath graph "travel_time" (some origin) (some dest) = some result) :
    ∃ taken, IsPath graph.edge? origin.nodeId dest.nodeId result.path taken ∧
      result.travelTimeS = total EdgeData.travelTime taken := by
  obtain ⟨path, taken, hpath, htaken, rfl⟩ := route_eq_some_iff.mp hroute
  obtain ⟨found, hfound⟩ := hfinds.isPath path hpath
  obtain rfl : found = taken := Option.some.inj (hfound.taken.symm.trans htaken)
  exact ⟨found, hfound, rfl⟩

end

theorem routeIsFastest_iff_solves {rows : List EdgeRow} {source target : ℤ}
    {answer : Option RouteResult}
    (htimed : ∀ result, answer = some result → ∃ time, result.travelTimeS = some time) :
    RouteIsFastest rows source target answer ↔
      Solves (RowStep rows) source target (answer.bind RouteResult.travelTimeS) := by
  cases answer with
  | none => exact Iff.rfl
  | some result =>
      obtain ⟨time, htime⟩ := htimed result rfl
      unfold RouteIsFastest
      rw [Option.bind_some, htime]
      constructor
      · rintro ⟨other, hother, hleast⟩
        obtain rfl := Option.some.inj (hother.symm.trans htime)
        exact hleast
      · exact fun hleast => ⟨time, htime, hleast⟩

/-- The route between two nodes of the table has the least travel time of all paths over rows of
the table exactly if some fastest path takes the last row wherever there are several, or there is
no path at all. -/
theorem routeIsFastest_iff_keepsFastest (nodes : List NodeRow) (table : TimedTable)
    (shortestPath : ShortestPath) (origin dest : NearestNodeResult)
    (horigin : origin.nodeId ∈ nodes.map NodeRow.id) (hdest : dest.nodeId ∈ nodes.map NodeRow.id)
    (hfinds : FindsShortest shortestPath (buildOptimizedGraph nodes table.1).1 origin.nodeId
      dest.nodeId) :
    RouteIsFastest table.1 origin.nodeId dest.nodeId
        (route shortestPath (buildOptimizedGraph nodes table.1).1 "travel_time" (some origin)
          (some dest)) ↔
      KeepsFastest table.1 origin.nodeId dest.nodeId := by
  have hroute : ∀ result,
      route shortestPath (buildOptimizedGraph nodes table.1).1 "travel_time" (some origin)
        (some dest) = some result →
      ∃ time, result.travelTimeS = some time ∧
        Walk (LastStep table.1) origin.nodeId dest.nodeId time := by
    intro result hresult
    obtain ⟨taken, hpath, htravel⟩ := exists_path_of_route hfinds hresult
    obtain ⟨time, htime⟩ := exists_total
      (fun _ _ _ hjoining => exists_travelTime nodes table hjoining) hpath.taken
    exact ⟨time, htravel.trans htime, step_eq_lastStep nodes table ▸ hpath.walk htime⟩
  rw [routeIsFastest_iff_solves fun result hresult =>
    (hroute result hresult).imp fun _ htime => htime.1]
  apply solves_iff_of_kept fun _ _ _ => lastStep_rowStep
  · intro time htime
    obtain ⟨result, hresult, htravel⟩ := Option.bind_eq_some_iff.mp htime
    obtain ⟨other, hother, hwalk⟩ := hroute result hresult
    obtain rfl := Option.some.inj (hother.symm.trans htravel)
    exact hwalk
  · intro hleast
    rw [← step_eq_lastStep nodes table] at hleast
    obtain ⟨path, taken, time, hfound, hpath, htime, htimeLeast⟩ :=
      hfinds.least (mem_nodes_buildOptimizedGraph horigin) (mem_nodes_buildOptimizedGraph hdest)
        hleast
    refine ⟨time, ?_, step_eq_lastStep nodes table ▸ htimeLeast⟩
    rw [route_eq_some_iff.mpr ⟨path, taken, hfound, hpath.taken, rfl⟩]
    exact htime

/-- Where no row is faster than the last one for the same nodes, a fastest path can take the last
rows only. -/
theorem keepsFastest_of_lastStep_le {rows : List EdgeRow} {source target : ℤ}
    (hlast : ∀ u v time, RowStep rows u v time → ∃ lighter ≤ time, LastStep rows u v lighter)
    (hleast : (∃ time, IsLeast (weights (RowStep rows) source target) time) ∨
      weights (RowStep rows) source target = ∅) : KeepsFastest rows source target := by
  rcases hleast with ⟨time, hwalk, hlower⟩ | hempty
  · obtain ⟨lighter, hle, hkept⟩ := hwalk.exists_le hlast
    exact .inl ⟨lighter, hkept, fun other hother => hle.trans (hlower hother)⟩
  · exact .inr hempty

/-- A search that looks at direct edges only. -/
def directPath : ShortestPath := fun graph source target _ =>
  if source = target then some [source]
  else (graph.edge? source target).map fun _ => [source, target]

/-- Where no edge is faster than a direct one, the direct one is the fastest path. -/
theorem findsShortest_directPath {graph : DiGraph} {source target : ℤ} {joining : EdgeData}
    {time : ℚ} (hne : source ≠ target) (hjoining : graph.edge? source target = some joining)
    (htime : joining.travelTime = some time) (hnonneg : 0 ≤ time)
    (hslower : ∀ u v w, Step graph.edge? EdgeData.travelTime u v w → time ≤ w) :
    FindsShortest directPath graph source target := by
  have hfound : directPath graph source target "travel_time" = some [source, target] := by
    unfold directPath
    rw [if_neg hne, hjoining, Option.map_some]
  have hpath : IsPath graph.edge? source target [source, target] [joining] := by
    refine ⟨rfl, rfl, ?_⟩
    rw [steps, hjoining]
    rfl
  have htotal : total EdgeData.travelTime [joining] = some time := by
    rw [total, htime]
    exact congrArg some (add_zero time)
  constructor
  · intro path hsome
    obtain rfl := Option.some.inj (hfound.symm.trans hsome)
    exact ⟨[joining], hpath⟩
  · intro _ _ _
    refine ⟨_, _, time, hfound, hpath, htotal, hpath.walk htotal, ?_⟩
    exact fun other hother => Walk.le_of_ne hnonneg hslower hne hother

/-- A motorway of a hundred metres, in three seconds. -/
def motorway : EdgeRow where
  fromId := 1
  toId := 2
  distanceM := 100
  highwayType := .str "motorway"
  maxspeed := .none
  oneway := .bool true

/-- Stairs of a hundred metres, in two minutes. -/
def stairs : EdgeRow := { motorway with highwayType := .str "steps" }

theorem travelTime_motorway : motorway.travelTime = .ok (some 3) := by
  decide +kernel

theorem travelTime_stairs : stairs.travelTime = .ok (some 120) := by
  decide +kernel

/-- Two nodes a hundred metres apart. -/
def corners : List NodeRow :=
  [⟨1, -334372 / 10000, -706506 / 10000⟩, ⟨2, -334381 / 10000, -706506 / 10000⟩]

/-- A node that a point was snapped to. -/
def snapped (row : NodeRow) : NearestNodeResult := ⟨row.id, 0, row.lat, row.lon⟩

/-- A table with the motorway alone. -/
def motorwayOnly : TimedTable :=
  ⟨[motorway], List.forall_mem_singleton.mpr ⟨3, travelTime_motorway⟩⟩

/-- A table with the motorway first and the stairs last. -/
def stairsLast : TimedTable :=
  ⟨[motorway, stairs], List.forall_mem_cons.mpr ⟨⟨3, travelTime_motorway⟩,
    List.forall_mem_singleton.mpr ⟨120, travelTime_stairs⟩⟩⟩

theorem rowStep_motorwayOnly {u v : ℤ} {time : ℚ} (hstep : RowStep motorwayOnly.1 u v time) :
    time = 3 := by
  obtain ⟨row, hrow, -, htime⟩ := hstep
  obtain rfl := List.mem_singleton.mp hrow
  exact Option.some.inj (Except.ok.inj (htime.symm.trans travelTime_motorway))

/-- The last row that leads anywhere are the stairs. -/
theorem lastStep_stairsLast {u v : ℤ} {time : ℚ} (hstep : LastStep stairsLast.1 u v time) :
    time = 120 := by
  obtain ⟨row, hlast, htime⟩ := hstep
  have hstairs : row = stairs := by
    rw [show stairsLast.1 = [motorway, stairs] from rfl, lastRow_cons, lastRow_cons] at hlast
    have hsame : motorway.leads u v = stairs.leads u v := rfl
    rw [hsame] at hlast
    cases hleads : stairs.leads u v with
    | true =>
        rw [hleads] at hlast
        exact (Option.some.inj hlast).symm
    | false =>
        rw [hleads] at hlast
        cases hlast
  rw [hstairs, travelTime_stairs] at htime
  exact (Option.some.inj (Except.ok.inj htime)).symm

/-- The motorway alone makes the fastest route. -/
theorem routeIsFastest_motorwayOnly :
    RouteIsFastest motorwayOnly.1 1 2
      (route directPath (buildOptimizedGraph corners motorwayOnly.1).1 "travel_time"
        (some (snapped corners[0])) (some (snapped corners[1]))) := by
  have hdirect : LastStep motorwayOnly.1 1 2 3 := ⟨motorway, rfl, travelTime_motorway⟩
  have hslower : ∀ u v w, RowStep motorwayOnly.1 u v w → 3 ≤ w :=
    fun _ _ _ hstep => (rowStep_motorwayOnly hstep).ge
  have hfinds : FindsShortest directPath (buildOptimizedGraph corners motorwayOnly.1).1 1 2 := by
    obtain ⟨joining, hjoining, htime⟩ := (step_eq_lastStep corners motorwayOnly).symm ▸ hdirect
    apply findsShortest_directPath (by decide) hjoining htime (by decide)
    rw [step_eq_lastStep]
    exact fun u v w hstep => hslower u v w (lastStep_rowStep hstep)
  apply (routeIsFastest_iff_keepsFastest corners motorwayOnly directPath (snapped corners[0])
    (snapped corners[1]) (by decide) (by decide) hfinds).mpr
  refine .inl ⟨3, ?_, fun other hother => Walk.le_of_ne (by decide) hslower (by decide) hother⟩
  exact add_zero (3 : ℚ) ▸ Walk.cons hdirect (.nil 2)

/-- The stairs are the last row, and the route goes by the stairs. -/
theorem not_routeIsFastest_stairsLast :
    FindsShortest directPath (buildOptimizedGraph corners stairsLast.1).1 1 2 ∧
      ¬ RouteIsFastest stairsLast.1 1 2
        (route directPath (buildOptimizedGraph corners stairsLast.1).1 "travel_time"
          (some (snapped corners[0])) (some (snapped corners[1]))) := by
  have hdirect : LastStep stairsLast.1 1 2 120 := ⟨stairs, rfl, travelTime_stairs⟩
  obtain ⟨joining, hjoining, htime⟩ := (step_eq_lastStep corners stairsLast).symm ▸ hdirect
  constructor
  · apply findsShortest_directPath (by decide) hjoining htime (by decide)
    rw [step_eq_lastStep]
    exact fun u v w hstep => (lastStep_stairsLast hstep).ge
  · have hroute : route directPath (buildOptimizedGraph corners stairsLast.1).1 "travel_time"
        (some (snapped corners[0])) (some (snapped corners[1])) =
        some (routeResult [1, 2] [joining]) := by
      refine route_eq_some_iff.mpr ⟨[1, 2], [joining], ?_, ?_, rfl⟩
      · exact (if_neg (by decide)).trans (congrArg _ hjoining)
      · rw [steps, hjoining]
        rfl
    have hslow : (routeResult [1, 2] [joining]).travelTimeS = some 120 := by
      unfold routeResult
      dsimp only
      rw [total, htime]
      exact congrArg some (add_zero 120)
    have hfast : Walk (RowStep stairsLast.1) 1 2 3 :=
      add_zero (3 : ℚ) ▸ Walk.cons ⟨motorway, List.mem_cons_self, rfl, travelTime_motorway⟩ (.nil 2)
    rw [hroute]
    rintro ⟨time, htravel, hleast⟩
    obtain rfl := Option.some.inj (hslow.symm.trans htravel)
    exact absurd (hleast.2 hfast) (by decide)

end Goveling.Routing.Hybrid
