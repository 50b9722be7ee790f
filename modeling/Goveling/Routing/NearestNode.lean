/-
# The nearest node

`find_nearest_node` asks an R-tree for the nodes in a box around a point, or goes through all
nodes where there is no R-tree. The box is as many degrees wide as it is high, so away from the
equator it is too narrow. The loop over all nodes wants a distance below the limit where the check
after it allows the limit itself. The check takes node 0 for no node.
-/

import Goveling.Math.FirstLeast
import Goveling.Routing.HybridGraph

namespace Goveling.Routing.Hybrid

open Goveling.Math Goveling.Python

/-! ## The index -/

/-- A node with its latitude and longitude. -/
abbrev Located := ℤ × ℚ × ℚ

/-- A box of the R-tree. -/
structure Box where
  minX : ℚ
  minY : ℚ
  maxX : ℚ
  maxY : ℚ

/-- What the lookup works with: whether there is an R-tree, the identifiers that the R-tree lists
for a box, and the haversine distance in metres. -/
structure LookupEnv where
  rtreeAvailable : Bool
  intersection : List Located → Box → List ℤ
  haversineDistance : ℚ → ℚ → ℚ → ℚ → ℚ

/-- The attributes that a lookup reads. -/
structure NodeIndex where
  nodeCoords : OrderedMap ℤ (ℚ × ℚ)
  spatialIndex : Option (List Located)
  nodeCoordsList : List Located

/-- The attributes of a new service. -/
def NodeIndex.empty : NodeIndex := ⟨.empty, none, []⟩

/-- `node_coords[node_id] = (lat, lon)` for the nodes of a table. -/
def NodeIndex.addNodes (index : NodeIndex) (nodes : List NodeRow) : NodeIndex :=
  { index with
    nodeCoords := index.nodeCoords.setAll (nodes.map fun row => (row.id, row.lat, row.lon)) }

/-- `_build_spatial_index`. -/
def NodeIndex.buildSpatialIndex (env : LookupEnv) (index : NodeIndex) : NodeIndex :=
  if env.rtreeAvailable then { index with spatialIndex := some index.nodeCoords.entries }
  else { index with nodeCoordsList := index.nodeCoords.entries }

/-! ## The lookup -/

section

variable (env : LookupEnv) (index : NodeIndex) (lat lon maxDistanceM : ℚ)

/-- The distance from the point to a node. -/
def LookupEnv.distance (node : Located) : ℚ :=
  env.haversineDistance lat lon node.2.1 node.2.2

/-- The box that is searched. -/
def searchBox : Box :=
  let degDistance := maxDistanceM / 111000
  ⟨lon - degDistance, lat - degDistance, lon + degDistance, lat + degDistance⟩

/-- The node behind an identifier. -/
def NodeIndex.locate (nodeId : ℤ) : Except PyError Located :=
  match index.nodeCoords.get? nodeId with
  | some coordinates => .ok (nodeId, coordinates)
  | none => .error (.keyError (toString nodeId))

/-- The loop over the candidates of the R-tree. -/
def nearestCandidate (entries : List Located) : Except PyError (Option Located) := do
  let candidates ← (env.intersection entries (searchBox lat lon maxDistanceM)).mapM index.locate
  .ok (candidates.argmin (env.distance lat lon))

/-- The loop over all nodes. -/
def nearestListed : Option Located :=
  (index.nodeCoordsList.filter fun node => env.distance lat lon node < maxDistanceM).argmin
    (env.distance lat lon)

/-- `if nearest_node and min_distance <= max_distance_m`. -/
def acceptNearest (nearest : Option Located) : Except PyError (Option NearestNodeResult) :=
  match nearest with
  | some node =>
      if node.1 ≠ 0 ∧ env.distance lat lon node ≤ maxDistanceM then do
        let located ← index.locate node.1
        .ok (some ⟨node.1, env.distance lat lon node, located.2.1, located.2.2⟩)
      else .ok none
  | none => .ok none

/-- `find_nearest_node`. An R-tree without entries is no R-tree. -/
def findNearestNode : Except PyError (Option NearestNodeResult) := do
  let nearest ←
    match env.rtreeAvailable, index.spatialIndex with
    | true, some (entry :: entries) =>
        nearestCandidate env index lat lon maxDistanceM (entry :: entries)
    | _, _ => .ok (nearestListed env index lat lon maxDistanceM)
  acceptNearest env index lat lon maxDistanceM nearest

end

/-! ## What a lookup should answer -/

/-- The nodes of a table. -/
def coordsOf (nodes : List NodeRow) : OrderedMap ℤ (ℚ × ℚ) :=
  (NodeIndex.empty.addNodes nodes).nodeCoords

/-- The attributes of a new service that has loaded a table. -/
def loadedIndex (env : LookupEnv) (nodes : List NodeRow) : NodeIndex :=
  (NodeIndex.empty.addNodes nodes).buildSpatialIndex env

/-- The same libraries, with or without an R-tree. -/
def LookupEnv.using (env : LookupEnv) (rtreeAvailable : Bool) : LookupEnv :=
  { env with rtreeAvailable := rtreeAvailable }

/-- An entry lies in a box. -/
def Box.holds (box : Box) (entry : Located) : Bool :=
  box.minX ≤ entry.2.2 && entry.2.2 ≤ box.maxX && box.minY ≤ entry.2.1 && entry.2.1 ≤ box.maxY

/-- The R-tree lists the entries inside a box, in some order. -/
def LookupEnv.ListsBoxes (env : LookupEnv) : Prop :=
  ∀ (entries : List Located) (box : Box),
    (env.intersection entries box).Perm ((entries.filter box.holds).map Prod.fst)

section

variable (env : LookupEnv) (lat lon maxDistanceM : ℚ)

/-- A nearest node if there is one within the limit, and nothing otherwise. -/
def AnswersNearest (nodes : List Located) (answer : Except PyError (Option NearestNodeResult)) :
    Prop :=
  match answer with
  | .ok (some result) => ∃ node ∈ nodes,
      result = ⟨node.1, env.distance lat lon node, node.2.1, node.2.2⟩ ∧
      env.distance lat lon node ≤ maxDistanceM ∧
      ∀ other ∈ nodes, env.distance lat lon node ≤ env.distance lat lon other
  | .ok none => ∀ node ∈ nodes, maxDistanceM < env.distance lat lon node
  | .error _ => False

/-- Two answers at the same distance, or two times nothing. -/
def SameUpToTies (first second : Except PyError (Option NearestNodeResult)) : Prop :=
  ∃ one other, first = .ok one ∧ second = .ok other ∧
    one.map NearestNodeResult.distanceM = other.map NearestNodeResult.distanceM

/-- Both ways to look for a node answer with the nearest one, and agree. -/
def FindsNearest (nodes : List NodeRow) : Prop :=
  let withTree := findNearestNode (env.using true) (loadedIndex (env.using true) nodes) lat lon
    maxDistanceM
  let withoutTree := findNearestNode (env.using false) (loadedIndex (env.using false) nodes) lat lon
    maxDistanceM
  AnswersNearest env lat lon maxDistanceM (coordsOf nodes).entries withTree ∧
    AnswersNearest env lat lon maxDistanceM (coordsOf nodes).entries withoutTree ∧
    SameUpToTies withTree withoutTree

/-- The nodes that the R-tree lists. -/
def boxed (coords : OrderedMap ℤ (ℚ × ℚ)) : List Located :=
  (env.intersection coords.entries (searchBox lat lon maxDistanceM)).filterMap fun nodeId =>
    (coords.get? nodeId).map fun coordinates => (nodeId, coordinates)

/-- No node is within the limit. Or the closest nodes are below the limit, some of them are in the
box, and node 0 comes first neither among the closest nodes nor among those of the box. -/
def ReachesNearest (coords : OrderedMap ℤ (ℚ × ℚ)) : Prop :=
  (∀ node ∈ coords.entries, maxDistanceM < env.distance lat lon node) ∨
    (∃ node, IsFirstLeast (env.distance lat lon)
      (coords.entries.filter fun node => env.distance lat lon node < maxDistanceM) node ∧
      node.1 ≠ 0) ∧
    ∃ node, IsFirstLeast (env.distance lat lon) (boxed env lat lon maxDistanceM coords) node ∧
      node.1 ≠ 0 ∧
      ∀ other ∈ coords.entries, env.distance lat lon node ≤ env.distance lat lon other

variable {env lat lon maxDistanceM}

/-- A known node is located at its coordinates. -/
theorem NodeIndex.locate_of_mem {index : NodeIndex} {node : Located}
    (hnode : node ∈ index.nodeCoords.entries) : index.locate node.1 = .ok node := by
  rw [NodeIndex.locate, OrderedMap.get?_eq_some_of_mem hnode]

/-- The check lets the least of some known nodes through if it is near enough and not node 0. -/
theorem acceptNearest_some {index : NodeIndex} {node : Located}
    (hnode : node ∈ index.nodeCoords.entries) :
    acceptNearest env index lat lon maxDistanceM (some node) =
      .ok (if node.1 ≠ 0 ∧ env.distance lat lon node ≤ maxDistanceM then
        some ⟨node.1, env.distance lat lon node, node.2.1, node.2.2⟩ else none) := by
  unfold acceptNearest
  dsimp only
  split
  · rw [NodeIndex.locate_of_mem hnode]
    rfl
  · rfl

variable (env lat lon maxDistanceM) in
/-- The first of the least candidates is the answer that is wanted exactly if no node is within
the limit, or it is a nearest one within the limit and not node 0. -/
theorem answersNearest_argmin_iff (index : NodeIndex) {candidates : List Located}
    (hknown : ∀ node ∈ candidates, node ∈ index.nodeCoords.entries) :
    AnswersNearest env lat lon maxDistanceM index.nodeCoords.entries
        (acceptNearest env index lat lon maxDistanceM
          (candidates.argmin (env.distance lat lon))) ↔
      (∀ node ∈ index.nodeCoords.entries, maxDistanceM < env.distance lat lon node) ∨
        ∃ node, IsFirstLeast (env.distance lat lon) candidates node ∧ node.1 ≠ 0 ∧
          env.distance lat lon node ≤ maxDistanceM ∧
          ∀ other ∈ index.nodeCoords.entries,
            env.distance lat lon node ≤ env.distance lat lon other := by
  cases hleast : candidates.argmin (env.distance lat lon) with
  | none =>
      constructor
      · exact .inl
      · rintro (hnone | ⟨node, hfirst, -⟩)
        · exact hnone
        · rw [argmin_eq_some_iff_isFirstLeast.mpr hfirst] at hleast
          cases hleast
  | some node =>
      have hfirst := argmin_eq_some_iff_isFirstLeast.mp hleast
      have hnode := hknown node hfirst.mem
      rw [acceptNearest_some hnode]
      by_cases haccepted : node.1 ≠ 0 ∧ env.distance lat lon node ≤ maxDistanceM
      · rw [if_pos haccepted]
        constructor
        · rintro ⟨found, hfound, heq, hwithin, hnearest⟩
          refine .inr ⟨node, hfirst, haccepted.1, haccepted.2, fun other hother => ?_⟩
          have hsame : env.distance lat lon node = env.distance lat lon found :=
            congrArg NearestNodeResult.distanceM heq
          exact hsame ▸ hnearest other hother
        · rintro (hnone | ⟨found, hfound, -, -, hnearest⟩)
          · exact absurd haccepted.2 (hnone node hnode).not_ge
          · obtain rfl := Option.some.inj
              (hleast.symm.trans (argmin_eq_some_iff_isFirstLeast.mpr hfound))
            exact ⟨node, hnode, rfl, haccepted.2, hnearest⟩
      · rw [if_neg haccepted]
        constructor
        · exact .inl
        · rintro (hnone | ⟨found, hfound, hzero, hwithin, -⟩)
          · exact hnone
          · obtain rfl := Option.some.inj
              (hleast.symm.trans (argmin_eq_some_iff_isFirstLeast.mpr hfound))
            exact absurd ⟨hzero, hwithin⟩ haccepted

/-- The nodes that are listed are known. -/
theorem mem_entries_of_mem_boxed {coords : OrderedMap ℤ (ℚ × ℚ)} {node : Located}
    (hnode : node ∈ boxed env lat lon maxDistanceM coords) : node ∈ coords.entries := by
  obtain ⟨nodeId, -, hlocated⟩ := List.mem_filterMap.mp hnode
  obtain ⟨coordinates, hfound, rfl⟩ := Option.map_eq_some_iff.mp hlocated
  exact OrderedMap.mem_of_get?_eq_some hfound

theorem mapM_locate (index : NodeIndex) {nodeIds : List ℤ}
    (hknown : ∀ nodeId ∈ nodeIds, nodeId ∈ index.nodeCoords.keys) :
    nodeIds.mapM index.locate = .ok (nodeIds.filterMap fun nodeId =>
      (index.nodeCoords.get? nodeId).map fun coordinates => (nodeId, coordinates)) := by
  induction nodeIds with
  | nil => rfl
  | cons nodeId rest ih =>
      obtain ⟨coordinates, hfound⟩ :=
        OrderedMap.exists_get?_of_mem_keys (hknown nodeId List.mem_cons_self)
      have hlocated : index.locate nodeId = .ok (nodeId, coordinates) := by
        rw [NodeIndex.locate, hfound]
      rw [List.mapM_cons, hlocated, ih fun other hother => hknown other (.tail nodeId hother),
        List.filterMap_cons_some (by rw [hfound, Option.map_some])]
      rfl

/-- The identifiers that are listed for a box are those of entries. -/
theorem LookupEnv.ListsBoxes.mem_keys (hlists : env.ListsBoxes) {coords : OrderedMap ℤ (ℚ × ℚ)}
    (box : Box) {nodeId : ℤ} (hlisted : nodeId ∈ env.intersection coords.entries box) :
    nodeId ∈ coords.keys := by
  obtain ⟨entry, hentry, rfl⟩ := List.mem_map.mp ((hlists coords.entries box).mem_iff.mp hlisted)
  exact List.mem_map_of_mem (List.mem_of_mem_filter hentry)

theorem LookupEnv.ListsBoxes.boxed_nil (hlists : env.ListsBoxes)
    {coords : OrderedMap ℤ (ℚ × ℚ)} (hempty : coords.entries = []) :
    boxed env lat lon maxDistanceM coords = [] := by
  have hnothing := hlists coords.entries (searchBox lat lon maxDistanceM)
  rw [hempty, List.filter_nil, List.map_nil, List.perm_nil] at hnothing
  rw [boxed, hempty, hnothing, List.filterMap_nil]

/-- With an R-tree the lookup takes the first of the least nodes that are listed. -/
theorem findNearestNode_withTree (hlists : env.ListsBoxes) (nodes : List NodeRow) :
    findNearestNode (env.using true) (loadedIndex (env.using true) nodes) lat lon maxDistanceM =
      acceptNearest env (loadedIndex (env.using true) nodes) lat lon maxDistanceM
        ((boxed env lat lon maxDistanceM (coordsOf nodes)).argmin (env.distance lat lon)) := by
  have hindex : (loadedIndex (env.using true) nodes).spatialIndex = some (coordsOf nodes).entries :=
    rfl
  unfold findNearestNode
  rw [hindex]
  cases hentries : (coordsOf nodes).entries with
  | nil =>
      rw [hlists.boxed_nil hentries]
      rfl
  | cons entry entries =>
      have hlocated := mapM_locate (loadedIndex (env.using true) nodes) fun nodeId hlisted =>
        hlists.mem_keys (searchBox lat lon maxDistanceM) hlisted
      have hcandidates : nearestCandidate (env.using true) (loadedIndex (env.using true) nodes) lat
          lon maxDistanceM (coordsOf nodes).entries =
          .ok ((boxed env lat lon maxDistanceM (coordsOf nodes)).argmin (env.distance lat lon)) :=
        congrArg (fun step : Except PyError (List Located) => step >>= fun candidates =>
          (.ok (candidates.argmin (env.distance lat lon)) : Except PyError (Option Located)))
          hlocated
      rw [hentries] at hcandidates
      exact congrArg (fun step : Except PyError (Option Located) => step >>=
        acceptNearest env (loadedIndex (env.using true) nodes) lat lon maxDistanceM) hcandidates

/-- Without an R-tree the lookup takes the first of the least nodes below the limit. -/
theorem findNearestNode_withoutTree (nodes : List NodeRow) :
    findNearestNode (env.using false) (loadedIndex (env.using false) nodes) lat lon maxDistanceM =
      acceptNearest env (loadedIndex (env.using false) nodes) lat lon maxDistanceM
        (((coordsOf nodes).entries.filter fun node =>
          env.distance lat lon node < maxDistanceM).argmin (env.distance lat lon)) :=
  rfl

/-- Two nearest nodes are equally near. -/
theorem AnswersNearest.sameUpToTies {nodes : List Located}
    {first second : Except PyError (Option NearestNodeResult)}
    (hfirst : AnswersNearest env lat lon maxDistanceM nodes first)
    (hsecond : AnswersNearest env lat lon maxDistanceM nodes second) :
    SameUpToTies first second := by
  rcases first with _ | _ | one
  · exact hfirst.elim
  · rcases second with _ | _ | other
    · exact hsecond.elim
    · exact ⟨none, none, rfl, rfl, rfl⟩
    · obtain ⟨node, hnode, -, hwithin, -⟩ := hsecond
      exact absurd hwithin (hfirst node hnode).not_ge
  · obtain ⟨node, hnode, rfl, hwithin, hnearest⟩ := hfirst
    rcases second with _ | _ | other
    · exact hsecond.elim
    · exact absurd hwithin (hsecond node hnode).not_ge
    · obtain ⟨found, hfound, rfl, -, hfoundNearest⟩ := hsecond
      refine ⟨some _, some _, rfl, rfl, congrArg some ?_⟩
      exact le_antisymm (hnearest found hfound) (hfoundNearest node hnode)

/-- The first of the least below the limit is a nearest node. -/
theorem le_of_isFirstLeast_filter {nodes : List Located} {node : Located}
    (hfirst : IsFirstLeast (env.distance lat lon)
      (nodes.filter fun node => env.distance lat lon node < maxDistanceM) node) :
    env.distance lat lon node < maxDistanceM ∧
      ∀ other ∈ nodes, env.distance lat lon node ≤ env.distance lat lon other := by
  have hbelow := of_decide_eq_true (List.mem_filter.mp hfirst.mem).2
  refine ⟨hbelow, fun other hother => ?_⟩
  by_cases hwithin : env.distance lat lon other < maxDistanceM
  · exact hfirst.le (List.mem_filter.mpr ⟨hother, decide_eq_true hwithin⟩)
  · exact (hbelow.trans_le (not_lt.mp hwithin)).le

end

/-- With and without an R-tree the lookup answers with a nearest node within the limit, if there is
one, exactly if no node is within the limit, or the closest nodes are below the limit, some of them
are in the box, and node 0 does not come first among them. -/
theorem findsNearest_iff_reachesNearest (env : LookupEnv) (hlists : env.ListsBoxes)
    (lat lon maxDistanceM : ℚ) (nodes : List NodeRow) :
    FindsNearest env lat lon maxDistanceM nodes ↔
      ReachesNearest env lat lon maxDistanceM (coordsOf nodes) := by
  have htree := answersNearest_argmin_iff env lat lon maxDistanceM
    (loadedIndex (env.using true) nodes) fun node (hnode : node ∈
      boxed env lat lon maxDistanceM (coordsOf nodes)) => mem_entries_of_mem_boxed hnode
  have hlist := answersNearest_argmin_iff env lat lon maxDistanceM
    (loadedIndex (env.using false) nodes) fun node (hnode : node ∈
      (coordsOf nodes).entries.filter fun node => env.distance lat lon node < maxDistanceM) =>
        List.mem_of_mem_filter hnode
  unfold FindsNearest
  rw [findNearestNode_withTree hlists, findNearestNode_withoutTree]
  constructor
  · rintro ⟨hanswersTree, hanswersList, -⟩
    rcases hlist.mp hanswersList with hnone | ⟨node, hfirst, hzero, -⟩
    · exact .inl hnone
    · rcases htree.mp hanswersTree with hnone | ⟨other, hother, hotherZero, -, hnearest⟩
      · exact .inl hnone
      · exact .inr ⟨⟨node, hfirst, hzero⟩, other, hother, hotherZero, hnearest⟩
  · intro hreaches
    have hanswersTree := htree.mpr (hreaches.imp_right ?_)
    · have hanswersList := hlist.mpr (hreaches.imp_right ?_)
      · exact ⟨hanswersTree, hanswersList, hanswersTree.sameUpToTies hanswersList⟩
      · rintro ⟨⟨node, hfirst, hzero⟩, -⟩
        obtain ⟨hbelow, hnearest⟩ := le_of_isFirstLeast_filter hfirst
        exact ⟨node, hfirst, hzero, hbelow.le, hnearest⟩
    · rintro ⟨⟨node, hfirst, -⟩, other, hother, hotherZero, hnearest⟩
      have hnode := (List.mem_filter.mp hfirst.mem).1
      have hwithin := (hnearest node hnode).trans (le_of_isFirstLeast_filter hfirst).1.le
      exact ⟨other, hother, hotherZero, hwithin, hnearest⟩

/-- Distances near Punta Arenas, where a degree has 111195 metres from south to north and 66672 from
west to east, and an R-tree that lists its entries in their order. -/
def puntaArenas : LookupEnv where
  rtreeAvailable := true
  intersection := fun entries box => (entries.filter box.holds).map Prod.fst
  haversineDistance := fun lat1 lon1 lat2 lon2 => 111195 * |lat2 - lat1| + 66672 * |lon2 - lon1|

theorem puntaArenas_listsBoxes : puntaArenas.ListsBoxes := fun _ _ => .rfl

/-- A node where the point is. -/
def square (id : ℤ) : NodeRow := ⟨id, -5316 / 100, -7090 / 100⟩

/-- A node at the point is found. -/
theorem findsNearest_square :
    FindsNearest puntaArenas (-5316 / 100) (-7090 / 100) 1000 [square 7] := by
  apply (findsNearest_iff_reachesNearest puntaArenas puntaArenas_listsBoxes _ _ _ _).mpr
  have hlisted : (boxed puntaArenas (-5316 / 100) (-7090 / 100) 1000 (coordsOf [square 7])).argmin
      (puntaArenas.distance (-5316 / 100) (-7090 / 100)) = some (7, -5316 / 100, -7090 / 100) := by
    decide +kernel
  have hbelow : ((coordsOf [square 7]).entries.filter fun node =>
      puntaArenas.distance (-5316 / 100) (-7090 / 100) node < 1000).argmin
      (puntaArenas.distance (-5316 / 100) (-7090 / 100)) = some (7, -5316 / 100, -7090 / 100) := by
    decide +kernel
  have hnearest : ∀ other ∈ (coordsOf [square 7]).entries,
      puntaArenas.distance (-5316 / 100) (-7090 / 100) (7, -5316 / 100, -7090 / 100) ≤
        puntaArenas.distance (-5316 / 100) (-7090 / 100) other := by
    decide +kernel
  exact .inr ⟨⟨_, argmin_eq_some_iff_isFirstLeast.mp hbelow, by decide⟩, _,
    argmin_eq_some_iff_isFirstLeast.mp hlisted, by decide, hnearest⟩

/-- A node that is 867 metres to the east is outside the box for a kilometre, a node at the point
is not found by a loop that wants less than no metres, and node 0 is never found. -/
theorem not_findsNearest :
    ¬ FindsNearest puntaArenas (-5316 / 100) (-70913 / 1000) 1000 [square 7] ∧
      ¬ FindsNearest puntaArenas (-5316 / 100) (-7090 / 100) 0 [square 7] ∧
      ¬ FindsNearest puntaArenas (-5316 / 100) (-7090 / 100) 1000 [square 0] := by
  have houtside : findNearestNode (puntaArenas.using true)
      (loadedIndex (puntaArenas.using true) [square 7]) (-5316 / 100) (-70913 / 1000) 1000 =
      .ok none := by
    decide +kernel
  have hlimit : findNearestNode (puntaArenas.using false)
      (loadedIndex (puntaArenas.using false) [square 7]) (-5316 / 100) (-7090 / 100) 0 =
      .ok none := by
    decide +kernel
  have hzero : findNearestNode (puntaArenas.using true)
      (loadedIndex (puntaArenas.using true) [square 0]) (-5316 / 100) (-7090 / 100) 1000 =
      .ok none := by
    decide +kernel
  refine ⟨fun ⟨hanswers, _⟩ => ?_, fun ⟨_, hanswers, _⟩ => ?_, fun ⟨hanswers, _⟩ => ?_⟩
  · rw [houtside] at hanswers
    exact absurd (hanswers (7, -5316 / 100, -7090 / 100) (by decide +kernel)) (by decide +kernel)
  · rw [hlimit] at hanswers
    exact absurd (hanswers (7, -5316 / 100, -7090 / 100) (by decide +kernel)) (by decide +kernel)
  · rw [hzero] at hanswers
    exact absurd (hanswers (0, -5316 / 100, -7090 / 100) (by decide +kernel)) (by decide +kernel)

end Goveling.Routing.Hybrid
