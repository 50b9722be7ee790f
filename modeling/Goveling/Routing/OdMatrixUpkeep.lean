/-
# The upkeep of the matrices in Redis

`invalidate_cluster_cache` deletes the keys that meet a pattern with the name of a cluster between
two stars, and `cleanup_expired_keys` those that have expired. The pattern looks for the name
anywhere between two colons: it finds it where the keys have their cluster, and would find it
where they have their hash if a name were as long as one. So no matrix of a cluster outlives its
invalidation, and what happens to one cluster is not noticed by the others.
-/

import Goveling.Math.Expiry
import Goveling.Math.Glob
import Goveling.Python.Text
import Goveling.Routing.OdMatrixCache

namespace Goveling.Routing

open Goveling.Math Goveling.Python

/-! ## The upkeep -/

/-- The part of a key that names the cluster. -/
def MatrixCall.clusterPart (call : MatrixCall) : String :=
  match call.h3Cluster with
  | some cluster => if cluster = "" then "global" else cluster
  | none => "global"

/-- An entry is returned until it expires. -/
def isLive (now : ℚ) (entry : Traced MatrixCall ODMatrix ℚ) : Bool := now < entry.stamp

/-- `f"goveling:od:*:{h3_cluster}:*"`. -/
def clusterPattern (h3Cluster : String) : String := "goveling:od:*:" ++ h3Cluster ++ ":*"

/-- The key meets a pattern. -/
def keyMatches (pattern key : String) : Bool := globMatch (globTokens pattern.toList) key.toList

namespace RedisODMatrixCache

/-- `invalidate_cluster_cache`, with the time at which Redis is asked, unless it raises. Redis
lists the keys that have not expired. -/
def invalidateClusterCache (cache : RedisODMatrixCache) (h3Cluster : String)
    (askedAt : Option ℚ) : ℕ × RedisODMatrixCache :=
  match cache.connected, askedAt with
  | true, some now =>
      let keys := (cache.store.entries.filter fun entry =>
        isLive now entry.2 && keyMatches (clusterPattern h3Cluster) entry.1).map Prod.fst
      (keys.length, { cache with store := keys.foldl OrderedMap.erase cache.store })
  | _, _ => (0, cache)

/-- `cleanup_expired_keys`. -/
def cleanupExpiredKeys (cache : RedisODMatrixCache) (askedAt : Option ℚ) :
    ℕ × RedisODMatrixCache :=
  match cache.connected, askedAt with
  | true, some now =>
      let keys := (cache.store.entries.filter fun entry =>
        keyMatches "goveling:*" entry.1 && !isLive now entry.2).map Prod.fst
      (keys.length, { cache with store := keys.foldl OrderedMap.erase cache.store })
  | _, _ => (0, cache)

end RedisODMatrixCache

/-- `_calculate_hit_rate`. -/
def calculateHitRate (hits misses : ℕ) : ℚ :=
  let total := hits + misses
  if total = 0 then 0 else (hits : ℚ) / total * 100

/-! ## Histories -/

/-- What is asked of the cache. -/
inductive MatrixEvent
  | request (call : MatrixCall)
  | invalidate (h3Cluster : String) (askedAt : Option ℚ)
  | cleanup (askedAt : Option ℚ)

/-- What an event answers: a matrix, or how many keys were deleted. -/
inductive MatrixReply
  | matrix (result : Except PyError (Option ODMatrix))
  | deleted (keys : ℕ)

/-- When Redis is first asked. -/
def MatrixEvent.time : MatrixEvent → Option ℚ
  | .request call => call.readAt
  | .invalidate _ askedAt => askedAt
  | .cleanup askedAt => askedAt

/-- The cache after an event. -/
def upkeepStep (coordsHash : CoordsHash) (cache : RedisODMatrixCache) :
    MatrixEvent → RedisODMatrixCache
  | .request call => cache.next coordsHash call
  | .invalidate h3Cluster askedAt => (cache.invalidateClusterCache h3Cluster askedAt).2
  | .cleanup askedAt => (cache.cleanupExpiredKeys askedAt).2

/-- The answer to an event. -/
def upkeepReply (coordsHash : CoordsHash) (cache : RedisODMatrixCache) :
    MatrixEvent → MatrixReply
  | .request call => .matrix (cache.getOrCalculateMatrix coordsHash call).1
  | .invalidate h3Cluster askedAt =>
      .deleted (cache.invalidateClusterCache h3Cluster askedAt).1
  | .cleanup askedAt => .deleted (cache.cleanupExpiredKeys askedAt).1

/-- The event is about a cluster; a cleanup is about none. -/
def MatrixEvent.isOf (cluster : String) : MatrixEvent → Bool
  | .request call => call.clusterPart = cluster
  | .invalidate h3Cluster _ => h3Cluster = cluster
  | .cleanup _ => false

/-- The event is a cleanup. -/
def MatrixEvent.isCleanup : MatrixEvent → Bool
  | .cleanup _ => true
  | _ => false

/-! ## Names -/

/-- The hash is written with twelve characters, none of which is a colon. -/
def IsDigest (coordsHash : CoordsHash) : Prop :=
  ∀ coordinates, (coordsHash coordinates).length = 12 ∧ ':' ∉ (coordsHash coordinates).toList

/-- The name of a cluster: no colon, nothing that a pattern reads otherwise, and not as long as
a hash. The index of an `H3` cell has fifteen digits. -/
structure IsClusterName (cluster : String) : Prop where
  colon : ':' ∉ cluster.toList
  plain : ∀ c ∈ cluster.toList, c ∉ globSpecial
  length : cluster.length ≠ 12

/-- The names in an event are names. -/
def MatrixEvent.Named : MatrixEvent → Prop
  | .request call => ':' ∉ call.mode.toList ∧ IsClusterName call.clusterPart
  | .invalidate h3Cluster _ => IsClusterName h3Cluster
  | .cleanup _ => True

section Keys

variable {coordsHash : CoordsHash} {call : MatrixCall} {cluster : String}

theorem key_eq :
    call.key coordsHash = "goveling:od:" ++ call.mode ++ ":" ++ call.clusterPart ++ ":" ++
      coordsHash (sortedBy toLex call.coordinates) ++ ":" ++ toString call.coordinates.length :=
  rfl

theorem toList_key :
    (call.key coordsHash).toList =
      "goveling:od:".toList ++ (call.mode.toList ++ ':' :: (call.clusterPart.toList ++ ':' ::
        ((coordsHash (sortedBy toLex call.coordinates)).toList ++ ':' ::
          (toString call.coordinates.length).toList))) := by
  have hcolon : ":".toList = [':'] := rfl
  rw [key_eq]
  simp only [String.toList_append, hcolon, List.append_assoc,
    List.cons_append, List.nil_append]

/-- The pattern of a cluster is met by the keys of its matrices alone. -/
theorem keyMatches_key_iff (hdigest : IsDigest coordsHash) (hmode : ':' ∉ call.mode.toList)
    (hcall : IsClusterName call.clusterPart) (hcluster : IsClusterName cluster) :
    keyMatches (clusterPattern cluster) (call.key coordsHash) = true ↔
      call.clusterPart = cluster := by
  obtain ⟨hlength, hcolon⟩ := hdigest (sortedBy toLex call.coordinates)
  have hcount : ':' ∉ (toString call.coordinates.length).toList := by
    rw [toList_toString]
    exact not_mem_toDigits (by decide) _
  have hpattern : (clusterPattern cluster).toList =
      "goveling:od:".toList ++ '*' :: ((':' :: (cluster.toList ++ [':'])) ++ ['*']) := by
    simp [clusterPattern]
  have hmiddle : ∀ c ∈ ':' :: (cluster.toList ++ [':']), c ∉ globSpecial := by
    intro c hc
    rcases List.mem_cons.mp hc with rfl | hc
    · decide
    · rcases List.mem_append.mp hc with hname | hlast
      · exact hcluster.plain c hname
      · rw [List.mem_singleton.mp hlast]
        decide
  have hparts := @fourParts_iff ':' _ _ _ _ _ hmode hcall.colon hcolon hcount hcluster.colon
  unfold keyMatches
  rw [hpattern, globMatch_middle (not_mem_globSpecial (by decide)) hmiddle, toList_key]
  simp only [List.append_cancel_left_eq, List.cons_append, List.append_assoc, List.nil_append]
  rw [hparts, String.toList_inj, String.toList_inj, eq_comm]
  refine or_iff_left ?_
  rintro rfl
  exact hcluster.length hlength

end Keys

/-! ## What the events do to the store -/

section Store

variable {coordsHash : CoordsHash} {cache : RedisODMatrixCache}

/-- An invalidation deletes the keys of the good entries that meet its pattern, if Redis is
there. -/
theorem invalidateClusterCache_cases (cache : RedisODMatrixCache) (h3Cluster : String)
    (askedAt : Option ℚ) :
    (∃ now, askedAt = some now ∧ cache.connected = true ∧
      cache.invalidateClusterCache h3Cluster askedAt =
        ((cache.store.entries.filter fun entry =>
            isLive now entry.2 && keyMatches (clusterPattern h3Cluster) entry.1).length,
          { cache with
            store := cache.store.filter fun entry =>
              !(isLive now entry.2 && keyMatches (clusterPattern h3Cluster) entry.1) })) ∨
      (askedAt = none ∨ cache.connected = false) ∧
        cache.invalidateClusterCache h3Cluster askedAt = (0, cache) := by
  unfold RedisODMatrixCache.invalidateClusterCache
  split
  · rename_i now hconnected
    refine .inl ⟨now, rfl, hconnected, ?_⟩
    dsimp only
    rw [List.length_map, OrderedMap.foldl_erase_filter]
  · rename_i hnone
    refine .inr ⟨?_, rfl⟩
    by_cases hconnected : cache.connected = true
    · exact .inl (Option.eq_none_iff_forall_not_mem.mpr fun now hnow => hnone now hconnected hnow)
    · exact .inr (Bool.eq_false_iff.mpr hconnected)

/-- A cleanup removes what has expired, if Redis is there. -/
theorem cleanupExpiredKeys_cases (cache : RedisODMatrixCache) (askedAt : Option ℚ) :
    (∃ now, askedAt = some now ∧ (cache.cleanupExpiredKeys askedAt).2 =
      { cache with
        store := cache.store.filter fun entry =>
          !(keyMatches "goveling:*" entry.1 && !isLive now entry.2) }) ∨
      (cache.cleanupExpiredKeys askedAt).2 = cache := by
  unfold RedisODMatrixCache.cleanupExpiredKeys
  split
  · rename_i now hconnected
    refine .inl ⟨now, rfl, ?_⟩
    dsimp only
    rw [OrderedMap.foldl_erase_filter]
  · exact .inr rfl

/-- A request leaves the store alone or sets an entry of its own. -/
theorem next_cases (call : MatrixCall) :
    cache.next coordsHash call = cache ∨
      ∃ traced : Traced MatrixCall ODMatrix ℚ, traced.origin = call ∧
        cache.next coordsHash call =
          { cache with store := OrderedMap.set cache.store (call.key coordsHash) traced } := by
  unfold RedisODMatrixCache.next RedisODMatrixCache.getOrCalculateMatrix
  split
  · exact .inl rfl
  · split
    · exact .inl rfl
    · exact .inl rfl
    · unfold RedisODMatrixCache.setOdMatrix
      split
      · exact .inr ⟨_, rfl, rfl⟩
      · exact .inl rfl

/-- The upkeep only removes entries. -/
theorem upkeepStep_cases (event : MatrixEvent) :
    upkeepStep coordsHash cache event = cache ∨
      (∃ keep, upkeepStep coordsHash cache event =
        { cache with store := cache.store.filter keep }) ∨
      ∃ call, event = .request call ∧ ∃ traced : Traced MatrixCall ODMatrix ℚ,
        traced.origin = call ∧ upkeepStep coordsHash cache event =
          { cache with store := OrderedMap.set cache.store (call.key coordsHash) traced } := by
  cases event with
  | request call =>
      rcases @next_cases coordsHash cache call with hsame | ⟨traced, horigin, hset⟩
      · exact .inl hsame
      · exact .inr (.inr ⟨call, rfl, traced, horigin, hset⟩)
  | invalidate h3Cluster askedAt =>
      rcases invalidateClusterCache_cases cache h3Cluster askedAt with
        ⟨now, -, -, hdeleted⟩ | ⟨-, hsame⟩
      · exact .inr (.inl ⟨_, congrArg Prod.snd hdeleted⟩)
      · exact .inl (congrArg Prod.snd hsame)
  | cleanup askedAt =>
      rcases cleanupExpiredKeys_cases cache askedAt with ⟨now, -, hremoved⟩ | hsame
      · exact .inr (.inl ⟨_, hremoved⟩)
      · exact .inl hsame

theorem connected_upkeepStep (event : MatrixEvent) :
    (upkeepStep coordsHash cache event).connected = cache.connected := by
  rcases @upkeepStep_cases coordsHash cache event with hsame | ⟨keep, hfilter⟩ |
    ⟨call, -, traced, -, hset⟩
  · rw [hsame]
  · rw [hfilter]
  · rw [hset]

theorem connected_runEnd (events : List MatrixEvent) :
    (runEnd (upkeepStep coordsHash) cache events).connected = cache.connected := by
  have hstep : ∀ (state : RedisODMatrixCache) (event : MatrixEvent),
      state.connected = cache.connected →
      (upkeepStep coordsHash state event).connected = cache.connected :=
    fun state event hstate => (connected_upkeepStep event).trans hstate
  exact runEnd_invariant hstep rfl events

/-- What an event adds to the store is an entry of its own. -/
theorem adds_upkeepStep {good : String × Traced MatrixCall ODMatrix ℚ → Prop} {event : MatrixEvent}
    (hgood : ∀ call, event = .request call → ∀ traced : Traced MatrixCall ODMatrix ℚ,
      traced.origin = call → good (call.key coordsHash, traced)) :
    TracedMap.Adds good cache.store (upkeepStep coordsHash cache event).store := by
  rcases @upkeepStep_cases coordsHash cache event with hsame | ⟨keep, hfilter⟩ |
    ⟨call, hevent, traced, horigin, hset⟩
  · rw [hsame]
    exact .refl _
  · rw [hfilter]
    exact fun entry hentry => .inl (List.mem_of_mem_filter hentry)
  · rw [hset]
    exact TracedMap.adds_set _ (hgood call hevent traced horigin)

/-- The entry is under the key of a request with names. -/
def NamedEntry (coordsHash : CoordsHash) (entry : String × Traced MatrixCall ODMatrix ℚ) : Prop :=
  entry.1 = entry.2.origin.key coordsHash ∧ (MatrixEvent.request entry.2.origin).Named

/-- Every entry is under the key of a request with names. -/
def AllNamed (coordsHash : CoordsHash) (cache : RedisODMatrixCache) : Prop :=
  ∀ entry ∈ cache.store.entries, NamedEntry coordsHash entry

theorem AllNamed.upkeepStep (hall : AllNamed coordsHash cache) {event : MatrixEvent}
    (hnamed : event.Named) : AllNamed coordsHash (upkeepStep coordsHash cache event) := by
  have hadds : TracedMap.Adds (NamedEntry coordsHash) cache.store
      (Routing.upkeepStep coordsHash cache event).store := by
    refine adds_upkeepStep ?_
    rintro call rfl traced rfl
    exact ⟨rfl, hnamed⟩
  intro entry hentry
  rcases hadds entry hentry with hold | hnew
  · exact hall entry hold
  · exact hnew

theorem allNamed_runEnd {events : List MatrixEvent} (hnamed : ∀ event ∈ events, event.Named)
    (connected : Bool) :
    AllNamed coordsHash (runEnd (upkeepStep coordsHash) { connected := connected } events) := by
  have hstart : AllNamed coordsHash { connected := connected } := by
    intro entry hentry
    cases hentry
  have hstep : ∀ (past : List MatrixEvent) (state : RedisODMatrixCache), ∀ event ∈ events,
      AllNamed coordsHash state → AllNamed coordsHash (upkeepStep coordsHash state event) :=
    fun past state event hevent hall => hall.upkeepStep (hnamed event hevent)
  exact @runEnd_history _ _ _ (fun _ state => AllNamed coordsHash state) _ hstart events hstep

end Store

/-! ## After an invalidation -/

section Freshness

variable {coordsHash : CoordsHash} {cluster : String} {now : ℚ}

/-- The matrices of a cluster were asked for since, or have expired. -/
def AskedSince (coordsHash : CoordsHash) (cluster : String) (now : ℚ)
    (later : List MatrixEvent) (entry : String × Traced MatrixCall ODMatrix ℚ) : Prop :=
  NamedEntry coordsHash entry ∧ (entry.2.origin.clusterPart = cluster →
    .request entry.2.origin ∈ later ∨ isLive now entry.2 = false)

theorem askedSince_invalidate (hdigest : IsDigest coordsHash) {cache : RedisODMatrixCache}
    (hconnected : cache.connected = true) (hall : AllNamed coordsHash cache)
    (hcluster : IsClusterName cluster) (later : List MatrixEvent) :
    ∀ entry ∈ (upkeepStep coordsHash cache (.invalidate cluster (some now))).store.entries,
      AskedSince coordsHash cluster now later entry := by
  intro entry hentry
  rcases invalidateClusterCache_cases cache cluster (some now) with
    ⟨time, htime, -, hdeleted⟩ | ⟨hnone, -⟩
  · cases htime
    have hmem : entry ∈ (cache.invalidateClusterCache cluster (some now)).2.store.entries := hentry
    rw [hdeleted] at hmem
    obtain ⟨hold, hkept⟩ := List.mem_filter.mp hmem
    obtain ⟨hkey, hnamed⟩ := hall entry hold
    refine ⟨⟨hkey, hnamed⟩, fun hof => .inr ?_⟩
    have hmatches := (keyMatches_key_iff hdigest hnamed.1 hnamed.2 hcluster).mpr hof
    rw [hkey, hmatches, Bool.and_true, Bool.not_eq_true'] at hkept
    exact hkept
  · simp [hconnected] at hnone

/-- Requests store what was asked for since. -/
theorem askedSince_runEnd {later : List MatrixEvent} {cache : RedisODMatrixCache}
    (hstart : ∀ entry ∈ cache.store.entries, AskedSince coordsHash cluster now later entry)
    (hnamed : ∀ event ∈ later, event.Named) :
    ∀ entry ∈ (runEnd (upkeepStep coordsHash) cache later).store.entries,
      AskedSince coordsHash cluster now later entry := by
  refine @runEnd_history _ _ _ (fun _ (state : RedisODMatrixCache) =>
    ∀ entry ∈ state.store.entries, AskedSince coordsHash cluster now later entry) _ hstart later ?_
  intro past state event hevent hall entry hentry
  have hadds : TracedMap.Adds (AskedSince coordsHash cluster now later) state.store
      (upkeepStep coordsHash state event).store := by
    refine adds_upkeepStep ?_
    rintro asked rfl traced rfl
    exact ⟨⟨rfl, hnamed _ hevent⟩, fun _ => .inl hevent⟩
  exact (hadds entry hentry).elim (hall entry) id

/-- Once a cluster was invalidated, a request for it is served nothing but the matrix of a request
that came after. -/
theorem served_after_invalidate (coordsHash : CoordsHash) (hdigest : IsDigest coordsHash)
    (connected : Bool) (cluster : String) (now : ℚ) (before later : List MatrixEvent)
    (call : MatrixCall)
    (hnamed : ∀ event ∈ before ++ .invalidate cluster (some now) ::
      (later ++ [.request call]), event.Named)
    (horder : InOrder MatrixEvent.time now (later ++ [.request call]))
    (hcall : call.clusterPart = cluster)
    {entry : Traced MatrixCall ODMatrix ℚ}
    (hserved : (runEnd (upkeepStep coordsHash) { connected := connected }
      (before ++ .invalidate cluster (some now) :: later)).served coordsHash call =
        some entry) :
    .request entry.origin ∈ later := by
  have hconnected : ∀ events, (runEnd (upkeepStep coordsHash) { connected := connected }
      events).connected = connected :=
    fun events => connected_runEnd events
  unfold RedisODMatrixCache.served at hserved
  split at hserved
  · cases hserved
  · unfold RedisODMatrixCache.found at hserved
    split at hserved
    · rename_i hthere
      rw [hconnected] at hthere
      obtain ⟨readAt, hread, hfound⟩ := Option.bind_eq_some_iff.mp hserved
      obtain ⟨hget, hlive⟩ := Option.filter_eq_some_iff.mp hfound
      have hafter : now ≤ readAt := InOrder.le_last MatrixEvent.time horder readAt hread
      have hnames := List.forall_mem_append.mp hnamed
      obtain ⟨hcluster, hlater⟩ := List.forall_mem_cons.mp hnames.2
      have hgood : ∀ stored ∈ (runEnd (upkeepStep coordsHash) { connected := connected }
          (before ++ .invalidate cluster (some now) :: later)).store.entries,
          AskedSince coordsHash cluster now later stored := by
        rw [runEnd_append, runEnd_cons]
        exact askedSince_runEnd
          (askedSince_invalidate hdigest ((hconnected before).trans hthere)
            (allNamed_runEnd hnames.1 connected) hcluster later)
          fun event hevent => hlater event (List.mem_append_left _ hevent)
      obtain ⟨⟨hkey, hentry⟩, hsince⟩ := hgood _ (OrderedMap.mem_of_get?_eq_some hget)
      have hrequest := hlater _ (List.mem_append_right _ List.mem_cons_self)
      have hof : entry.origin.clusterPart = cluster := by
        rw [← keyMatches_key_iff hdigest hentry.1 hentry.2 hcluster, ← hkey]
        exact (keyMatches_key_iff hdigest hrequest.1 hrequest.2 hcluster).mpr hcall
      rcases hsince hof with hasked | hexpired
      · exact hasked
      · have hstamp : readAt < entry.stamp := of_decide_eq_true hlive
        exact absurd (hafter.trans_lt hstamp) (of_decide_eq_false hexpired)
    · cases hserved

/-- A request for three stops of a cell. -/
def cellCall (cell : String) (now : ℚ) : MatrixCall :=
  { equatorCall [(0, 0), (0, 1), (0, 3)] now with h3Cluster := some cell }

/-- A hash that is the same for all. -/
def oneHash : CoordsHash := fun _ => "8f14e45fceea"

theorem isDigest_oneHash : IsDigest oneHash := by
  have hhash : "8f14e45fceea".length = 12 ∧ ':' ∉ "8f14e45fceea".toList := by decide
  exact fun _ => hhash

theorem colon_not_mem_car : ':' ∉ "car".toList := by decide

theorem isClusterName_santiago : IsClusterName "85b22607fffffff" :=
  ⟨by decide, not_mem_globSpecial (by decide), by decide⟩

theorem isClusterName_valparaiso : IsClusterName "85b2266bfffffff" :=
  ⟨by decide, not_mem_globSpecial (by decide), by decide⟩

/-- The matrix of a cell, its invalidation a minute later, and the matrix again. -/
theorem served_after_invalidate_again : ∃ entry,
    (runEnd (upkeepStep oneHash) { connected := true }
      [.request (cellCall "85b22607fffffff" 0), .invalidate "85b22607fffffff" (some 60),
        .request (cellCall "85b22607fffffff" 120)]).served oneHash
          (cellCall "85b22607fffffff" 180) = some entry ∧
      .request entry.origin ∈ [MatrixEvent.request (cellCall "85b22607fffffff" 120)] := by
  obtain ⟨entry, hserved⟩ := Option.isSome_iff_exists.mp
    (by decide +kernel : ((runEnd (upkeepStep oneHash) { connected := true }
      [.request (cellCall "85b22607fffffff" 0), .invalidate "85b22607fffffff" (some 60),
        .request (cellCall "85b22607fffffff" 120)]).served oneHash
          (cellCall "85b22607fffffff" 180)).isSome = true)
  refine ⟨entry, hserved, served_after_invalidate oneHash isDigest_oneHash true
    "85b22607fffffff" 60 [.request (cellCall "85b22607fffffff" 0)]
    [.request (cellCall "85b22607fffffff" 120)] (cellCall "85b22607fffffff" 180)
    ?_ ?_ rfl hserved⟩
  · have hcall : ∀ now, (MatrixEvent.request (cellCall "85b22607fffffff" now)).Named :=
      fun _ => ⟨colon_not_mem_car, isClusterName_santiago⟩
    simp only [List.cons_append, List.nil_append, List.forall_mem_cons]
    exact ⟨hcall 0, isClusterName_santiago, hcall 120, hcall 180, List.forall_mem_nil _⟩
  · simp [InOrder, MatrixEvent.time, cellCall, equatorCall]
    norm_num

end Freshness

/-! ## The other clusters -/

section Others

variable {coordsHash : CoordsHash} {cluster : String} {now : ℚ}
  {cache other : RedisODMatrixCache}

/-- The event is neither about the cluster nor a cleanup. -/
def MatrixEvent.isElsewhere (cluster : String) (event : MatrixEvent) : Bool :=
  !event.isOf cluster && !event.isCleanup

/-- The caches have the same live matrices of every other cluster. -/
structure AlikeElsewhere (coordsHash : CoordsHash) (cluster : String) (now : ℚ)
    (cache other : RedisODMatrixCache) : Prop where
  connected : cache.connected = other.connected
  first : AllNamed coordsHash cache
  second : AllNamed coordsHash other
  same : ∀ call : MatrixCall, (MatrixEvent.request call).Named → call.clusterPart ≠ cluster →
    OrderedMap.good? isLive cache.store (call.key coordsHash) now =
      OrderedMap.good? isLive other.store (call.key coordsHash) now

theorem expires_isLive : Expires isLive := by
  intro now after entry hle hlive
  exact decide_eq_true (hle.trans_lt (of_decide_eq_true hlive))

/-- Requests for different clusters have different keys. -/
theorem key_ne_key (hdigest : IsDigest coordsHash) {call asked : MatrixCall}
    (hcall : (MatrixEvent.request call).Named) (hasked : (MatrixEvent.request asked).Named)
    (hne : call.clusterPart ≠ asked.clusterPart) :
    call.key coordsHash ≠ asked.key coordsHash := by
  intro hkeys
  apply hne
  rw [← keyMatches_key_iff hdigest hcall.1 hcall.2 hasked.2, hkeys]
  exact (keyMatches_key_iff hdigest hasked.1 hasked.2 hasked.2).mpr rfl

theorem found_eq_good? {call : MatrixCall}
    (hhappens : HappensAt MatrixEvent.time (.request call) now) :
    cache.found coordsHash call = if cache.connected = true ∧ call.readAt = some now then
      OrderedMap.good? isLive cache.store (call.key coordsHash) now else none := by
  unfold RedisODMatrixCache.found
  cases hread : call.readAt with
  | none => simp
  | some readAt =>
      rw [hhappens readAt hread]
      simp only [and_true]
      rfl

/-- A request for another cluster is served alike. -/
theorem served_of_alike (halike : AlikeElsewhere coordsHash cluster now cache other)
    {call : MatrixCall} (hnamed : (MatrixEvent.request call).Named)
    (hne : call.clusterPart ≠ cluster)
    (hhappens : HappensAt MatrixEvent.time (.request call) now) :
    cache.getOdMatrix coordsHash call = other.getOdMatrix coordsHash call := by
  unfold RedisODMatrixCache.getOdMatrix
  rw [found_eq_good? hhappens, found_eq_good? hhappens, halike.connected,
    halike.same call hnamed hne]

/-- What a request answers and stores depends on what it is served. -/
theorem getOrCalculateMatrix_congr {call : MatrixCall}
    (hconnected : cache.connected = other.connected)
    (hserved : cache.getOdMatrix coordsHash call = other.getOdMatrix coordsHash call) :
    (cache.getOrCalculateMatrix coordsHash call).1 =
        (other.getOrCalculateMatrix coordsHash call).1 ∧
      ((cache.next coordsHash call = cache ∧ other.next coordsHash call = other) ∨
        ∃ traced : Traced MatrixCall ODMatrix ℚ, traced.origin = call ∧
          cache.next coordsHash call =
            { cache with store := OrderedMap.set cache.store (call.key coordsHash) traced } ∧
          other.next coordsHash call =
            { other with store := OrderedMap.set other.store (call.key coordsHash) traced }) := by
  unfold RedisODMatrixCache.next RedisODMatrixCache.getOrCalculateMatrix
  rw [hserved]
  split
  · exact ⟨rfl, .inl ⟨rfl, rfl⟩⟩
  · split
    · exact ⟨rfl, .inl ⟨rfl, rfl⟩⟩
    · exact ⟨rfl, .inl ⟨rfl, rfl⟩⟩
    · refine ⟨rfl, ?_⟩
      unfold RedisODMatrixCache.setOdMatrix
      rw [hconnected]
      split
      · exact .inr ⟨_, rfl, rfl, rfl⟩
      · exact .inl ⟨rfl, rfl⟩

/-- Removing entries keeps their names. -/
theorem AllNamed.filter (hall : AllNamed coordsHash cache)
    (keep : String × Traced MatrixCall ODMatrix ℚ → Bool) :
    AllNamed coordsHash { cache with store := cache.store.filter keep } :=
  fun entry hentry => hall entry (List.mem_of_mem_filter hentry)

/-- The live entries of another cluster are the same. -/
theorem mem_live_of_alike (hdigest : IsDigest coordsHash)
    (halike : AlikeElsewhere coordsHash cluster now cache other) {name : String}
    (hname : IsClusterName name) (hne : name ≠ cluster)
    {entry : String × Traced MatrixCall ODMatrix ℚ}
    (hentry : entry ∈ cache.store.entries.filter fun entry =>
      isLive now entry.2 && keyMatches (clusterPattern name) entry.1) :
    entry ∈ other.store.entries.filter fun entry =>
      isLive now entry.2 && keyMatches (clusterPattern name) entry.1 := by
  obtain ⟨hmem, hpasses⟩ := List.mem_filter.mp hentry
  obtain ⟨hlive, hmatches⟩ := Bool.and_eq_true_iff.mp hpasses
  obtain ⟨hkey, hnamed⟩ := halike.first entry hmem
  rw [hkey, keyMatches_key_iff hdigest hnamed.1 hnamed.2 hname] at hmatches
  have hgood := OrderedMap.good?_eq_some_iff.mpr ⟨hmem, hlive⟩
  rw [hkey, halike.same entry.2.origin hnamed (hmatches ▸ hne), ← hkey] at hgood
  exact List.mem_filter.mpr ⟨(OrderedMap.good?_eq_some_iff.mp hgood).1, hpasses⟩

theorem AlikeElsewhere.symm (halike : AlikeElsewhere coordsHash cluster now cache other) :
    AlikeElsewhere coordsHash cluster now other cache :=
  ⟨halike.connected.symm, halike.second, halike.first,
    fun call hnamed hne => (halike.same call hnamed hne).symm⟩

/-- As many keys of another cluster are deleted. -/
theorem deleted_of_alike (hdigest : IsDigest coordsHash)
    (halike : AlikeElsewhere coordsHash cluster now cache other) {name : String}
    (hname : IsClusterName name) (hne : name ≠ cluster) :
    (cache.store.entries.filter fun entry =>
        isLive now entry.2 && keyMatches (clusterPattern name) entry.1).length =
      (other.store.entries.filter fun entry =>
        isLive now entry.2 && keyMatches (clusterPattern name) entry.1).length := by
  have hnodup : ∀ some : RedisODMatrixCache, (some.store.entries.filter fun entry =>
      isLive now entry.2 && keyMatches (clusterPattern name) entry.1).Nodup :=
    fun some => some.store.nodup.of_map.filter _
  apply List.Perm.length_eq
  refine (List.perm_ext_iff_of_nodup (hnodup cache) (hnodup other)).mpr fun entry => ?_
  exact ⟨mem_live_of_alike hdigest halike hname hne,
    mem_live_of_alike hdigest halike.symm hname hne⟩

/-- Removing entries on one side keeps what is alike if it keeps what is live elsewhere. -/
theorem AlikeElsewhere.filter_left (halike : AlikeElsewhere coordsHash cluster now cache other)
    {keep : String × Traced MatrixCall ODMatrix ℚ → Bool}
    (hkeep : ∀ call : MatrixCall, (MatrixEvent.request call).Named → call.clusterPart ≠ cluster →
      ∀ entry, isLive now entry = true → keep (call.key coordsHash, entry) = true) :
    AlikeElsewhere coordsHash cluster now { cache with store := cache.store.filter keep }
      other where
  connected := halike.connected
  first := halike.first.filter keep
  second := halike.second
  same call hnamed hne := by
    rw [OrderedMap.good?_filter, ← halike.same call hnamed hne]
    cases hgood : OrderedMap.good? isLive cache.store (call.key coordsHash) now with
    | none => rfl
    | some entry =>
        exact if_pos (hkeep call hnamed hne entry (Option.filter_eq_some_iff.mp hgood).2)

/-- Removing the same on both sides. -/
theorem AlikeElsewhere.filter_both (halike : AlikeElsewhere coordsHash cluster now cache other)
    (keep : String × Traced MatrixCall ODMatrix ℚ → Bool) :
    AlikeElsewhere coordsHash cluster now { cache with store := cache.store.filter keep }
      { other with store := other.store.filter keep } where
  connected := halike.connected
  first := halike.first.filter keep
  second := halike.second.filter keep
  same call hnamed hne := by
    rw [OrderedMap.good?_filter, OrderedMap.good?_filter, halike.same call hnamed hne]

/-- An invalidation of another cluster answers alike and keeps what is alike. -/
theorem invalidate_of_alike (hdigest : IsDigest coordsHash)
    (halike : AlikeElsewhere coordsHash cluster now cache other) {name : String}
    (hname : IsClusterName name) (hne : name ≠ cluster) {askedAt : Option ℚ}
    (hhappens : HappensAt MatrixEvent.time (.invalidate name askedAt) now) :
    (cache.invalidateClusterCache name askedAt).1 =
        (other.invalidateClusterCache name askedAt).1 ∧
      AlikeElsewhere coordsHash cluster now (cache.invalidateClusterCache name askedAt).2
        (other.invalidateClusterCache name askedAt).2 := by
  rcases invalidateClusterCache_cases cache name askedAt with
    ⟨time, htime, hthere, hdeleted⟩ | ⟨hnone, hsame⟩
  · rcases invalidateClusterCache_cases other name askedAt with
      ⟨again, hagain, -, hothers⟩ | ⟨hnone, -⟩
    · obtain rfl : time = now := hhappens time htime
      cases htime.symm.trans hagain
      rw [hdeleted, hothers]
      exact ⟨deleted_of_alike hdigest halike hname hne, halike.filter_both _⟩
    · rw [htime, ← halike.connected, hthere] at hnone
      simp at hnone
  · rcases invalidateClusterCache_cases other name askedAt with
      ⟨time, htime, hthere, -⟩ | ⟨-, hothers⟩
    · rw [htime, halike.connected, hthere] at hnone
      simp at hnone
    · rw [hsame, hothers]
      exact ⟨rfl, halike⟩

/-- A request for another cluster answers alike and keeps what is alike. -/
theorem request_of_alike (halike : AlikeElsewhere coordsHash cluster now cache other)
    {call : MatrixCall} (hnamed : (MatrixEvent.request call).Named)
    (hne : call.clusterPart ≠ cluster)
    (hhappens : HappensAt MatrixEvent.time (.request call) now) :
    (cache.getOrCalculateMatrix coordsHash call).1 =
        (other.getOrCalculateMatrix coordsHash call).1 ∧
      AlikeElsewhere coordsHash cluster now (cache.next coordsHash call)
        (other.next coordsHash call) := by
  obtain ⟨hreply, ⟨hfirst, hsecond⟩ | ⟨traced, -, hfirst, hsecond⟩⟩ :=
    getOrCalculateMatrix_congr halike.connected (served_of_alike halike hnamed hne hhappens)
  · rw [hfirst, hsecond]
    exact ⟨hreply, halike⟩
  · have hfirstNamed := @AllNamed.upkeepStep coordsHash cache halike.first (.request call) hnamed
    have hsecondNamed := @AllNamed.upkeepStep coordsHash other halike.second (.request call) hnamed
    have hset : ∀ asked : MatrixCall, (MatrixEvent.request asked).Named →
        asked.clusterPart ≠ cluster →
        OrderedMap.good? isLive (OrderedMap.set cache.store (call.key coordsHash) traced)
            (asked.key coordsHash) now =
          OrderedMap.good? isLive (OrderedMap.set other.store (call.key coordsHash) traced)
            (asked.key coordsHash) now := by
      intro asked hasked hother
      rw [OrderedMap.good?_set, OrderedMap.good?_set, halike.same asked hasked hother]
    refine ⟨hreply, ?_, hfirstNamed, hsecondNamed, ?_⟩
    · rw [hfirst, hsecond]
      exact halike.connected
    · rw [hfirst, hsecond]
      exact hset

/-- An event of the cluster itself keeps what is alike elsewhere. -/
theorem step_of_cluster (hdigest : IsDigest coordsHash) (hcluster : IsClusterName cluster)
    (halike : AlikeElsewhere coordsHash cluster now cache other) {event : MatrixEvent}
    (hnamed : event.Named) (hof : event.isOf cluster = true) :
    AlikeElsewhere coordsHash cluster now (upkeepStep coordsHash cache event) other := by
  cases event with
  | request call =>
      have hcall : call.clusterPart = cluster := of_decide_eq_true hof
      have hall := halike.first.upkeepStep hnamed
      rcases @next_cases coordsHash cache call with hsame | ⟨traced, -, hset⟩
      · simp only [upkeepStep]
        rw [hsame]
        exact halike
      · refine ⟨(connected_upkeepStep _).trans halike.connected, hall, halike.second, ?_⟩
        intro asked hasked hne
        have hkeys := key_ne_key hdigest hasked hnamed (hcall ▸ hne)
        simp only [upkeepStep]
        rw [hset, OrderedMap.good?_set, if_neg hkeys]
        exact halike.same asked hasked hne
  | invalidate name askedAt =>
      obtain rfl : name = cluster := of_decide_eq_true hof
      simp only [upkeepStep]
      rcases invalidateClusterCache_cases cache name askedAt with
        ⟨time, -, -, hdeleted⟩ | ⟨-, hsame⟩
      · rw [hdeleted]
        refine halike.filter_left fun call hcall hne entry _ => ?_
        have hmatches : keyMatches (clusterPattern name) (call.key coordsHash) = false :=
          Bool.eq_false_iff.mpr fun hmatch =>
            hne ((keyMatches_key_iff hdigest hcall.1 hcall.2 hcluster).mp hmatch)
        rw [hmatches, Bool.and_false]
        rfl
      · rw [hsame]
        exact halike
  | cleanup askedAt => cases hof

/-- A cleanup keeps what is alike. -/
theorem step_of_cleanup (halike : AlikeElsewhere coordsHash cluster now cache other)
    {askedAt : Option ℚ} (hhappens : HappensAt MatrixEvent.time (.cleanup askedAt) now) :
    AlikeElsewhere coordsHash cluster now (upkeepStep coordsHash cache (.cleanup askedAt))
      other := by
  simp only [upkeepStep]
  rcases cleanupExpiredKeys_cases cache askedAt with ⟨time, htime, hremoved⟩ | hsame
  · obtain rfl : time = now := hhappens time htime
    rw [hremoved]
    refine halike.filter_left fun call _ _ entry hlive => ?_
    rw [hlive, Bool.not_true, Bool.and_false]
    rfl
  · rw [hsame]
    exact halike

/-- What does not belong elsewhere is not noticed there. -/
theorem hides_elsewhere (hdigest : IsDigest coordsHash) (hcluster : IsClusterName cluster) :
    Hides MatrixEvent.time MatrixEvent.Named (upkeepStep coordsHash) (upkeepReply coordsHash)
      (upkeepStep coordsHash) (upkeepReply coordsHash) (MatrixEvent.isElsewhere cluster)
      (AlikeElsewhere coordsHash cluster) where
  later := by
    rintro now after cache other hle ⟨hconnected, hfirst, hsecond, hsame⟩
    refine ⟨hconnected, hfirst, hsecond, fun call hnamed hne => ?_⟩
    unfold OrderedMap.good?
    rw [expires_isLive.filter_later hle,
      expires_isLive.filter_later hle (OrderedMap.get? other.store _)]
    exact congrArg _ (hsame call hnamed hne)
  answers := by
    intro now cache other event hnamed hvisible hhappens halike
    cases event with
    | request call =>
        have hne : call.clusterPart ≠ cluster := by
          rintro rfl
          simp [MatrixEvent.isElsewhere, MatrixEvent.isOf] at hvisible
        exact congrArg MatrixReply.matrix (request_of_alike halike hnamed hne hhappens).1
    | invalidate name askedAt =>
        have hne : name ≠ cluster := by
          rintro rfl
          simp [MatrixEvent.isElsewhere, MatrixEvent.isOf] at hvisible
        exact congrArg MatrixReply.deleted
          (invalidate_of_alike hdigest halike hnamed hne hhappens).1
    | cleanup askedAt => simp [MatrixEvent.isElsewhere, MatrixEvent.isCleanup] at hvisible
  keeps := by
    intro now cache other event hnamed hvisible hhappens halike
    cases event with
    | request call =>
        have hne : call.clusterPart ≠ cluster := by
          rintro rfl
          simp [MatrixEvent.isElsewhere, MatrixEvent.isOf] at hvisible
        exact (request_of_alike halike hnamed hne hhappens).2
    | invalidate name askedAt =>
        have hne : name ≠ cluster := by
          rintro rfl
          simp [MatrixEvent.isElsewhere, MatrixEvent.isOf] at hvisible
        exact (invalidate_of_alike hdigest halike hnamed hne hhappens).2
    | cleanup askedAt => simp [MatrixEvent.isElsewhere, MatrixEvent.isCleanup] at hvisible
  ignores := by
    intro now cache other event hnamed hhidden hhappens halike
    by_cases hof : event.isOf cluster = true
    · exact step_of_cluster hdigest hcluster halike hnamed hof
    · cases event with
      | cleanup askedAt => exact step_of_cleanup halike hhappens
      | request call =>
          simp [MatrixEvent.isElsewhere, MatrixEvent.isCleanup, Bool.eq_false_iff.mpr hof]
            at hhidden
      | invalidate name askedAt =>
          simp [MatrixEvent.isElsewhere, MatrixEvent.isCleanup, Bool.eq_false_iff.mpr hof]
            at hhidden

end Others

/-- What is asked about other clusters is answered as if a cluster had never been asked for or
invalidated, and as if nothing had been cleaned up. -/
theorem replies_elsewhere (coordsHash : CoordsHash) (hdigest : IsDigest coordsHash)
    (connected : Bool) (cluster : String) (hcluster : IsClusterName cluster) (start : ℚ)
    (events : List MatrixEvent) (hnamed : ∀ event ∈ events, event.Named)
    (horder : InOrder MatrixEvent.time start events) :
    repliesOf (upkeepStep coordsHash) (upkeepReply coordsHash) (MatrixEvent.isElsewhere cluster)
        { connected := connected } events =
      repliesOf (upkeepStep coordsHash) (upkeepReply coordsHash)
        (MatrixEvent.isElsewhere cluster) { connected := connected }
        (events.filter (MatrixEvent.isElsewhere cluster)) := by
  refine repliesOf_filter (hides_elsewhere hdigest hcluster) hnamed horder ⟨rfl, ?_, ?_, ?_⟩
  · exact @allNamed_runEnd coordsHash [] (List.forall_mem_nil _) connected
  · exact @allNamed_runEnd coordsHash [] (List.forall_mem_nil _) connected
  · exact fun _ _ _ => rfl

/-- The matrices of two cells, where one is invalidated and what has expired is cleaned up. -/
theorem replies_elsewhere_valparaiso :
    repliesOf (upkeepStep oneHash) (upkeepReply oneHash)
        (MatrixEvent.isElsewhere "85b22607fffffff") { connected := true }
        [.request (cellCall "85b22607fffffff" 0), .request (cellCall "85b2266bfffffff" 0),
          .invalidate "85b22607fffffff" (some 60), .request (cellCall "85b2266bfffffff" 120),
          .cleanup (some 4000), .request (cellCall "85b2266bfffffff" 4060)] =
      repliesOf (upkeepStep oneHash) (upkeepReply oneHash)
        (MatrixEvent.isElsewhere "85b22607fffffff") { connected := true }
        [.request (cellCall "85b2266bfffffff" 0), .request (cellCall "85b2266bfffffff" 120),
          .request (cellCall "85b2266bfffffff" 4060)] := by
  refine replies_elsewhere oneHash isDigest_oneHash true "85b22607fffffff" isClusterName_santiago 0
    [.request (cellCall "85b22607fffffff" 0), .request (cellCall "85b2266bfffffff" 0),
      .invalidate "85b22607fffffff" (some 60), .request (cellCall "85b2266bfffffff" 120),
      .cleanup (some 4000), .request (cellCall "85b2266bfffffff" 4060)] ?_ ?_
  · have hcall : ∀ now, (MatrixEvent.request (cellCall "85b2266bfffffff" now)).Named :=
      fun _ => ⟨colon_not_mem_car, isClusterName_valparaiso⟩
    simp only [List.forall_mem_cons]
    exact ⟨⟨by decide, isClusterName_santiago⟩, hcall 0, isClusterName_santiago, hcall 120,
      trivial, hcall 4060, List.forall_mem_nil _⟩
  · simp [InOrder, MatrixEvent.time, cellCall, equatorCall]
    norm_num

end Goveling.Routing
