/-
# Packing the clusters of a trip

`pack_activities_by_strategy` takes an allocation apart and places its clusters
again. The balanced strategy deals them out in turn and the cluster-first one
leaves them where they are. The compact strategy fills one day after the other
up to `MAX_ACTIVITIES_PER_DAY` and has no place for what is left when the last
day is full. `Filled` describes its state after any number of clusters: every
day before the current one is full, every day after it is empty, and a cluster
is dropped only when no day is left.
-/

import Goveling.Optimizer.Allocation

namespace Goveling.Optimizer

open Goveling.Math Goveling.Python

/-- The packing strategies; any other name means `balanced`. -/
inductive PackingStrategy
  | compact | balanced | clusterFirst
  deriving DecidableEq

/-- `{date: [] for date in day_assignments.keys()}`. -/
def clearedDays (assignments : DayAssignments) : DayAssignments :=
  assignments.mapValues fun _ => []

/-- The body of the loop of `_pack_compact`, over the new assignment and the
index of the current day. -/
def compactStep (settings : Settings) (dayKeys : List ℤ) (state : DayAssignments × ℕ)
    (cluster : Cluster) : DayAssignments × ℕ :=
  match dayKeys[state.2]? with
  | some date =>
      let assignments := state.1.push date cluster
      if settings.maxActivitiesPerDay ≤ (assignments.bucket date).length then
        (assignments, state.2 + 1)
      else (assignments, state.2)
  | none => state

/-- `_pack_compact`. -/
def packCompact (settings : Settings) (assignments : DayAssignments) : DayAssignments :=
  (assignments.values.flatten.foldl (compactStep settings assignments.keys)
    (clearedDays assignments, 0)).1

/-- The body of the loop of `_pack_balanced`. -/
def balancedStep (dayKeys : List ℤ) (assignments : DayAssignments) (item : Cluster × ℕ) :
    Except PyError DayAssignments := do
  let day ← dayInTurn dayKeys item.2
  return assignments.push day item.1

/-- `_pack_balanced`. -/
def packBalanced (assignments : DayAssignments) : Except PyError DayAssignments :=
  assignments.values.flatten.zipIdx.foldlM (balancedStep assignments.keys)
    (clearedDays assignments)

/-- `pack_activities_by_strategy`. -/
def packActivitiesByStrategy (settings : Settings) (strategy : PackingStrategy)
    (assignments : DayAssignments) : Except PyError DayAssignments :=
  match strategy with
  | .compact => .ok (packCompact settings assignments)
  | .clusterFirst => .ok assignments
  | .balanced => packBalanced assignments

@[simp]
theorem keys_clearedDays (assignments : DayAssignments) :
    (clearedDays assignments).keys = assignments.keys :=
  OrderedMap.keys_mapValues _ _

@[simp]
theorem flatten_values_clearedDays (assignments : DayAssignments) :
    (clearedDays assignments).values.flatten = [] := by
  simp [clearedDays]

theorem bucket_clearedDays (assignments : DayAssignments) (date : ℤ) :
    (clearedDays assignments).bucket date = [] := by
  cases hget : (clearedDays assignments).get? date with
  | none => simp [OrderedMap.bucket, hget]
  | some value =>
      have hmem := OrderedMap.mem_of_get?_eq_some hget
      obtain ⟨entry, -, heq⟩ := List.mem_map.mp hmem
      simp only [OrderedMap.bucket, hget, Option.getD_some]
      exact (congrArg Prod.snd heq).symm

/-! ## The compact strategy -/

/-- How many clusters a day takes: one is always accepted before the test. -/
def dayCapacity (settings : Settings) : ℕ := max 1 settings.maxActivitiesPerDay.toNat

/-- How many clusters the day at an index has. -/
def loadAt (dayKeys : List ℤ) (assignments : DayAssignments) (idx : ℕ) : ℕ :=
  (dayKeys[idx]?.elim [] assignments.bucket).length

/-- The state of the compact strategy after the clusters `served`. -/
structure Filled (settings : Settings) (dayKeys : List ℤ) (state : DayAssignments × ℕ)
    (served : List Cluster) : Prop where
  keys_eq : state.1.keys = dayKeys
  index_le : state.2 ≤ dayKeys.length
  placed_eq : state.1.values.flatten.length =
    state.2 * dayCapacity settings + loadAt dayKeys state.1 state.2
  load_lt : loadAt dayKeys state.1 state.2 < dayCapacity settings
  later_empty : ∀ idx, state.2 < idx → loadAt dayKeys state.1 idx = 0
  placed_perm : ∃ dropped, served.Perm (state.1.values.flatten ++ dropped) ∧
    (state.2 < dayKeys.length → dropped = [])

section Compact

variable {settings : Settings} {dayKeys : List ℤ}

/-- Putting a cluster on a day changes the load of that day alone. -/
theorem loadAt_push {assignments : DayAssignments} {idx : ℕ} {date : ℤ} (cluster : Cluster)
    (hnodup : dayKeys.Nodup) (hkeys : assignments.keys = dayKeys)
    (hdate : dayKeys[idx]? = some date) (other : ℕ) :
    loadAt dayKeys (assignments.push date cluster) other =
      if other = idx then loadAt dayKeys assignments other + 1
      else loadAt dayKeys assignments other := by
  have hmem : date ∈ assignments.keys := hkeys ▸ List.mem_of_getElem? hdate
  by_cases hother : other = idx
  · subst hother
    simp [loadAt, hdate, OrderedMap.bucket_push_self hmem]
  · rw [if_neg hother]
    cases hday : dayKeys[other]? with
    | none => simp [loadAt, hday]
    | some day =>
        have hne : day ≠ date := by
          rintro rfl
          obtain ⟨hlt, -⟩ := List.getElem?_eq_some_iff.mp hday
          exact hother ((List.getElem?_inj hlt hnodup).mp (hday.trans hdate.symm))
        simp [loadAt, hday, OrderedMap.bucket_push_of_ne _ hne]

theorem filled_init (assignments : DayAssignments) :
    Filled settings assignments.keys (clearedDays assignments, 0) [] where
  keys_eq := keys_clearedDays assignments
  index_le := Nat.zero_le _
  placed_eq := by
    simp only [flatten_values_clearedDays, List.length_nil, Nat.zero_mul, Nat.zero_add, loadAt]
    cases assignments.keys[0]? <;> simp [bucket_clearedDays]
  load_lt := by
    have hpos : 0 < dayCapacity settings := Nat.lt_of_lt_of_le Nat.one_pos (le_max_left _ _)
    simp only [loadAt]
    cases assignments.keys[0]? <;> simpa [bucket_clearedDays] using hpos
  later_empty := by
    intro idx _
    simp only [loadAt]
    cases assignments.keys[idx]? <;> simp [bucket_clearedDays]
  placed_perm := ⟨[], by simp, fun _ => rfl⟩

/-- A cluster that finds no day left is dropped. -/
theorem Filled.drop {state : DayAssignments × ℕ} {served : List Cluster}
    (hfilled : Filled settings dayKeys state served) (hfull : state.2 = dayKeys.length)
    (cluster : Cluster) : Filled settings dayKeys state (served ++ [cluster]) where
  __ := hfilled
  placed_perm := by
    obtain ⟨dropped, hperm, -⟩ := hfilled.placed_perm
    refine ⟨dropped ++ [cluster], ?_, fun hlt => absurd hfull hlt.ne⟩
    rw [← List.append_assoc]
    exact hperm.append_right [cluster]

/-- A cluster that finds a day is put there. -/
theorem Filled.place (hnodup : dayKeys.Nodup) {state : DayAssignments × ℕ}
    {served : List Cluster} (hfilled : Filled settings dayKeys state served) {date : ℤ}
    (hdate : dayKeys[state.2]? = some date) (cluster : Cluster) :
    Filled settings dayKeys (compactStep settings dayKeys state cluster)
      (served ++ [cluster]) := by
  obtain ⟨assignments, idx⟩ := state
  obtain ⟨hkeys, hle, hplaced, hload, hlater, dropped, hperm, hnone⟩ := hfilled
  simp only at hdate hkeys hle hplaced hload hlater hperm hnone
  have hlt : idx < dayKeys.length := (List.getElem?_eq_some_iff.mp hdate).choose
  obtain rfl := hnone hlt
  have hmem : date ∈ assignments.keys := hkeys ▸ List.mem_of_getElem? hdate
  have hpush := OrderedMap.flatten_values_push_perm cluster hmem
  have hserved : (served ++ [cluster]).Perm
      ((assignments.push date cluster).values.flatten ++ []) := by
    rw [List.append_nil] at hperm ⊢
    exact (hperm.append_right [cluster]).trans
      ((List.perm_append_singleton _ _).trans hpush.symm)
  have hcount := hpush.length_eq
  have hloads := loadAt_push cluster hnodup hkeys hdate
  have hbucket : ((assignments.push date cluster).bucket date).length =
      loadAt dayKeys assignments idx + 1 := by
    have hself := hloads idx
    simpa [loadAt, hdate] using hself
  rw [List.length_cons, hplaced] at hcount
  simp only [compactStep, hdate]
  split
  · rename_i hmax
    have hcap : loadAt dayKeys assignments idx + 1 = dayCapacity settings := by
      simp only [dayCapacity] at hload ⊢
      omega
    have hnext : loadAt dayKeys (assignments.push date cluster) (idx + 1) = 0 := by
      rw [hloads, if_neg (Nat.succ_ne_self idx)]
      exact hlater (idx + 1) (Nat.lt_succ_self idx)
    refine ⟨by simpa using hkeys, hlt, ?_, ?_, ?_, [], hserved, fun _ => rfl⟩
    · simp only [hnext, hcount, Nat.succ_mul]
      omega
    · simp only [hnext]
      omega
    · intro other hother
      rw [hloads, if_neg (by omega)]
      exact hlater other (Nat.lt_of_succ_lt hother)
  · rename_i hmax
    refine ⟨by simpa using hkeys, hle, ?_, ?_, ?_, [], hserved, fun _ => rfl⟩
    · simp only [hloads, if_true, hcount]
      omega
    · simp only [hloads, if_true]
      simp only [dayCapacity]
      omega
    · intro other hother
      rw [hloads, if_neg (Nat.ne_of_gt hother)]
      exact hlater other hother

theorem Filled.step (hnodup : dayKeys.Nodup) {state : DayAssignments × ℕ}
    {served : List Cluster} (hfilled : Filled settings dayKeys state served)
    (cluster : Cluster) :
    Filled settings dayKeys (compactStep settings dayKeys state cluster)
      (served ++ [cluster]) := by
  cases hdate : dayKeys[state.2]? with
  | some date => exact hfilled.place hnodup hdate cluster
  | none =>
      have hfull : state.2 = dayKeys.length :=
        le_antisymm hfilled.index_le (List.getElem?_eq_none_iff.mp hdate)
      simpa only [compactStep, hdate] using hfilled.drop hfull cluster

theorem Filled.run (hnodup : dayKeys.Nodup) (clusters : List Cluster)
    {state : DayAssignments × ℕ} {served : List Cluster}
    (hfilled : Filled settings dayKeys state served) :
    Filled settings dayKeys (clusters.foldl (compactStep settings dayKeys) state)
      (served ++ clusters) := by
  induction clusters generalizing state served with
  | nil => simpa using hfilled
  | cons cluster rest ih => simpa using ih (hfilled.step hnodup cluster)

/-- Nothing was dropped exactly when the clusters fit into the days. -/
theorem Filled.perm_iff {state : DayAssignments × ℕ} {served : List Cluster}
    (hfilled : Filled settings dayKeys state served) :
    state.1.values.flatten.Perm served ↔
      served.length ≤ dayKeys.length * dayCapacity settings := by
  obtain ⟨dropped, hperm, hnone⟩ := hfilled.placed_perm
  have hcount := hperm.length_eq
  rw [List.length_append, hfilled.placed_eq] at hcount
  have hload := hfilled.load_lt
  rcases Nat.lt_or_eq_of_le hfilled.index_le with hlt | hfull
  · obtain rfl := hnone hlt
    rw [List.append_nil] at hperm
    have hroom := Nat.mul_le_mul_right (dayCapacity settings) (Nat.succ_le_of_lt hlt)
    rw [Nat.succ_mul] at hroom
    simp only [hperm.symm, true_iff]
    simp only [List.length_nil] at hcount
    omega
  · have hidle : loadAt dayKeys state.1 state.2 = 0 := by
      simp [loadAt, hfull]
    rw [hidle, hfull] at hcount
    constructor
    · intro hkept
      have hsame := hkept.length_eq
      rw [hfilled.placed_eq, hidle, hfull] at hsame
      omega
    · intro hfits
      have hempty : dropped = [] := List.length_eq_zero_iff.mp (by omega)
      rw [hempty, List.append_nil] at hperm
      exact hperm.symm

end Compact

theorem packCompact_filled (settings : Settings) (assignments : DayAssignments) :
    ∃ idx, Filled settings assignments.keys (packCompact settings assignments, idx)
      assignments.values.flatten :=
  ⟨_, Filled.run assignments.nodup assignments.values.flatten (filled_init assignments)⟩

/-! ## The balanced strategy -/

theorem packBalanced_conserves (assignments : DayAssignments) :
    ∃ packed, packBalanced assignments = .ok packed ∧ packed.keys = assignments.keys ∧
      packed.values.flatten.Perm assignments.values.flatten := by
  obtain ⟨packed, hpacked, hkeys, hperm⟩ := foldlM_ok_of_step (balancedStep assignments.keys)
    (fun state served => state.keys = assignments.keys ∧
      state.values.flatten.Perm (served.map Prod.fst))
    assignments.values.flatten.zipIdx
    (by
      rintro state served ⟨cluster, i⟩ hmem ⟨hkeys, hperm⟩
      have hdays : assignments.keys ≠ [] := by
        -- a cluster to deal out comes from some day
        intro hnil
        have hentries : assignments.entries = [] := List.map_eq_nil_iff.mp hnil
        simp [OrderedMap.values, hentries] at hmem
      obtain ⟨day, hday, hturn⟩ := exists_dayInTurn hdays i
      have hpush := OrderedMap.flatten_values_push_perm cluster (hkeys ▸ hday)
      refine ⟨state.push day cluster, ?_, (OrderedMap.keys_push _ _ _).trans hkeys, ?_⟩
      · simp only [balancedStep, hturn]
        rfl
      · rw [List.map_append]
        exact hpush.trans ((hperm.cons cluster).trans (List.perm_append_singleton _ _).symm))
    ⟨keys_clearedDays assignments, by simp⟩
  exact ⟨packed, hpacked, hkeys, by rwa [List.zipIdx_map_fst] at hperm⟩

/-! ## All strategies -/

/-- Packing keeps the dates and every cluster exactly when the strategy is not
the compact one or the clusters fit into the days under its cap. -/
theorem packActivitiesByStrategy_conserves_iff (settings : Settings)
    (strategy : PackingStrategy) (assignments : DayAssignments) :
    (∃ packed, packActivitiesByStrategy settings strategy assignments = .ok packed ∧
        packed.keys = assignments.keys ∧
        packed.values.flatten.Perm assignments.values.flatten) ↔
      (strategy = .compact → assignments.values.flatten.length ≤
        assignments.keys.length * max 1 settings.maxActivitiesPerDay.toNat) := by
  cases strategy with
  | compact =>
      obtain ⟨idx, hfilled⟩ := packCompact_filled settings assignments
      have hiff := hfilled.perm_iff
      constructor
      · rintro ⟨packed, hpacked, -, hperm⟩ -
        cases hpacked
        exact hiff.mp hperm
      · intro hfits
        exact ⟨_, rfl, hfilled.keys_eq, hiff.mpr (hfits rfl)⟩
  | balanced =>
      simp only [reduceCtorEq, false_imp_iff, iff_true]
      exact packBalanced_conserves assignments
  | clusterFirst =>
      simp only [reduceCtorEq, false_imp_iff, iff_true]
      exact ⟨assignments, rfl, rfl, List.Perm.refl _⟩

/-- One day with seven clusters: the compact strategy keeps six of them. -/
theorem packActivitiesByStrategy_drops_seventh :
    ¬ ∀ (strategy : PackingStrategy) (assignments : DayAssignments),
      ∃ packed, packActivitiesByStrategy {} strategy assignments = .ok packed ∧
        packed.keys = assignments.keys ∧
        packed.values.flatten.Perm assignments.values.flatten := by
  intro hall
  obtain ⟨packed, hpacked, -, hperm⟩ := hall .compact
    (OrderedMap.empty.set 0 (List.replicate 7
      { label := "0", centroid := .origin, places := [{ name := "Museo", location := .origin }] }))
  cases hpacked
  have hlength := hperm.length_eq
  revert hlength
  decide +kernel

end Goveling.Optimizer
