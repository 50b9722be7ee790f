/-
# Dictionaries that remember insertion order

A dictionary lists its entries in the order their keys were first written and
holds every key once. Overwriting keeps an entry in its place and a new key goes
to the end, so iterating over a dictionary is iterating over a list. The
invariant is a field; the operations below keep it by construction.
-/

import Mathlib.Algebra.Order.BigOperators.Group.List
import Mathlib.Data.List.Nodup
import Mathlib.Data.List.Perm.Basic
import Mathlib.Tactic.Linarith

namespace Goveling.Math

universe u v w

/-- A dictionary from `κ` to `β` in insertion order. -/
structure OrderedMap (κ : Type u) (β : Type v) where
  entries : List (κ × β)
  nodup : (entries.map Prod.fst).Nodup
  deriving DecidableEq

namespace OrderedMap

variable {κ : Type u} {β : Type v}

/-- The keys in insertion order. -/
def keys (m : OrderedMap κ β) : List κ := m.entries.map Prod.fst

/-- The values in the order of their keys. -/
def values (m : OrderedMap κ β) : List β := m.entries.map Prod.snd

/-- The dictionary without entries. -/
def empty : OrderedMap κ β := ⟨[], List.nodup_nil⟩

instance : Inhabited (OrderedMap κ β) := ⟨empty⟩

/-- Give every key a new value computed from the old one. -/
def mapValues {γ : Type w} (f : β → γ) (m : OrderedMap κ β) : OrderedMap κ γ where
  entries := m.entries.map fun entry => (entry.1, f entry.2)
  nodup := by
    have hkeys : (m.entries.map fun entry => (entry.1, f entry.2)).map Prod.fst =
        m.entries.map Prod.fst := by
      simp
    rw [hkeys]
    exact m.nodup

@[simp]
theorem keys_mapValues {γ : Type w} (f : β → γ) (m : OrderedMap κ β) :
    (m.mapValues f).keys = m.keys := by
  simp [keys, mapValues]

@[simp]
theorem values_mapValues {γ : Type w} (f : β → γ) (m : OrderedMap κ β) :
    (m.mapValues f).values = m.values.map f := by
  simp [values, mapValues]

/-- The number of keys. -/
def size (m : OrderedMap κ β) : ℕ := m.entries.length

/-- Keep the entries that pass a test. -/
def filter (m : OrderedMap κ β) (keep : κ × β → Bool) : OrderedMap κ β where
  entries := m.entries.filter keep
  nodup := (List.filter_sublist.map Prod.fst).nodup m.nodup

theorem size_filter_le (m : OrderedMap κ β) (keep : κ × β → Bool) :
    (m.filter keep).size ≤ m.size :=
  List.length_filter_le keep m.entries

/-- An entry that fails the test is one entry less. -/
theorem size_filter_lt {m : OrderedMap κ β} {keep : κ × β → Bool} {entry : κ × β}
    (hmem : entry ∈ m.entries) (hfails : ¬keep entry = true) :
    (m.filter keep).size < m.size := by
  refine lt_of_le_of_ne (m.size_filter_le keep) fun hsame => ?_
  exact hfails (List.length_filter_eq_length_iff.mp hsame entry hmem)

/-- Delete the entries whose keys came first. -/
def dropFirst (m : OrderedMap κ β) (n : ℕ) : OrderedMap κ β where
  entries := m.entries.drop n
  nodup := ((List.drop_sublist n m.entries).map Prod.fst).nodup m.nodup

@[simp]
theorem size_dropFirst (m : OrderedMap κ β) (n : ℕ) : (m.dropFirst n).size = m.size - n :=
  List.length_drop

theorem entries_dropFirst_subset (m : OrderedMap κ β) (n : ℕ) :
    (m.dropFirst n).entries ⊆ m.entries :=
  List.drop_subset n m.entries

/-- Items with different keys have different keys also where only some have a value. -/
theorem nodup_keys_filterMap {α : Type w} {items : List α} {keyOf : α → κ}
    (hnodup : (items.map keyOf).Nodup) (valueOf : α → Option β) :
    ((items.filterMap fun item => (valueOf item).map fun value => (keyOf item, value)).map
      Prod.fst).Nodup := by
  refine List.Nodup.sublist ?_ hnodup
  induction items with
  | nil => exact .slnil
  | cons item rest ih =>
      rw [List.map_cons, List.nodup_cons] at hnodup
      rw [List.filterMap_cons, List.map_cons]
      cases valueOf item with
      | none => exact (ih hnodup.2).cons _
      | some value => exact (ih hnodup.2).cons_cons _

section Lookup

variable [DecidableEq κ]

/-- The value stored under a key. -/
def get? (m : OrderedMap κ β) (key : κ) : Option β :=
  (m.entries.find? fun entry => entry.1 = key).map Prod.snd

/-- A value that is found is the value of an entry. -/
theorem mem_of_get?_eq_some {m : OrderedMap κ β} {key : κ} {value : β}
    (hget : m.get? key = some value) : (key, value) ∈ m.entries := by
  obtain ⟨entry, hfind, rfl⟩ := Option.map_eq_some_iff.mp hget
  have hkey : entry.1 = key := by simpa using List.find?_some hfind
  subst hkey
  exact List.mem_of_find?_eq_some hfind

/-- Overwrite the entry of a key, or add one at the end. -/
def setEntries (key : κ) (value : β) : List (κ × β) → List (κ × β)
  | [] => [(key, value)]
  | entry :: rest =>
      if entry.1 = key then (key, value) :: rest else entry :: setEntries key value rest

theorem keys_setEntries (key : κ) (value : β) (entries : List (κ × β)) :
    (setEntries key value entries).map Prod.fst =
      if key ∈ entries.map Prod.fst then entries.map Prod.fst
      else entries.map Prod.fst ++ [key] := by
  induction entries with
  | nil => simp [setEntries]
  | cons entry rest ih =>
      by_cases hkey : entry.1 = key
      · simp [setEntries, hkey]
      · have hne : ¬key = entry.1 := fun h => hkey h.symm
        simp only [setEntries, hkey, if_false, List.map_cons, ih, List.mem_cons, hne, false_or]
        split <;> rfl

theorem mem_setEntries {key : κ} {value : β} {entries : List (κ × β)} {entry : κ × β}
    (hmem : entry ∈ setEntries key value entries) : entry = (key, value) ∨ entry ∈ entries := by
  induction entries with
  | nil => exact .inl (by simpa [setEntries] using hmem)
  | cons first rest ih =>
      by_cases hkey : first.1 = key
      · simp only [setEntries, hkey, if_true, List.mem_cons] at hmem
        exact hmem.imp_right fun h => List.mem_cons_of_mem _ h
      · simp only [setEntries, hkey, if_false, List.mem_cons] at hmem
        rcases hmem with rfl | hrest
        · exact .inr List.mem_cons_self
        · exact (ih hrest).imp_right fun h => List.mem_cons_of_mem _ h

/-- Write a value under a key. -/
def set (m : OrderedMap κ β) (key : κ) (value : β) : OrderedMap κ β where
  entries := setEntries key value m.entries
  nodup := by
    rw [keys_setEntries]
    split
    · exact m.nodup
    · rename_i hnew
      exact List.nodup_append.mpr ⟨m.nodup, List.nodup_singleton key, by
        intro old hold new hmem
        rw [List.mem_singleton.mp hmem]
        exact fun heq => hnew (heq ▸ hold)⟩

theorem keys_set_of_not_mem {m : OrderedMap κ β} {key : κ} (hnew : key ∉ m.keys) (value : β) :
    (m.set key value).keys = m.keys ++ [key] :=
  (keys_setEntries key value m.entries).trans (if_neg hnew)

theorem entries_set_of_not_mem {m : OrderedMap κ β} {key : κ} (hnew : key ∉ m.keys)
    (value : β) : (m.set key value).entries = m.entries ++ [(key, value)] := by
  obtain ⟨entries, hnodup⟩ := m
  simp only [set, keys] at hnew ⊢
  clear hnodup
  induction entries with
  | nil => rfl
  | cons entry rest ih =>
      simp only [List.map_cons, List.mem_cons, not_or] at hnew
      have hne : ¬entry.1 = key := fun h => hnew.1 h.symm
      simp only [setEntries, hne, if_false, ih hnew.2, List.cons_append]

theorem setEntries_setEntries (key : κ) (first second : β) (entries : List (κ × β)) :
    setEntries key second (setEntries key first entries) = setEntries key second entries := by
  induction entries with
  | nil => simp [setEntries]
  | cons entry rest ih =>
      by_cases hkey : entry.1 = key
      · simp [setEntries, hkey]
      · simp [setEntries, hkey, ih]

/-- The last value written under a key is the one that stays. -/
theorem set_set (m : OrderedMap κ β) (key : κ) (first second : β) :
    (m.set key first).set key second = m.set key second := by
  simp only [set, setEntries_setEntries]

/-- Delete the entry of a key. -/
def erase (m : OrderedMap κ β) (key : κ) : OrderedMap κ β := m.filter (·.1 ≠ key)

/-- Writing under a new key adds one entry, and overwriting adds none. -/
theorem size_set (m : OrderedMap κ β) (key : κ) (value : β) :
    (m.set key value).size = if key ∈ m.keys then m.size else m.size + 1 := by
  have hkeys := congrArg List.length (keys_setEntries key value m.entries)
  rw [apply_ite List.length, List.length_append, List.length_singleton, List.length_map,
    List.length_map] at hkeys
  exact hkeys

theorem size_set_le (m : OrderedMap κ β) (key : κ) (value : β) :
    (m.set key value).size ≤ m.size + 1 := by
  rw [size_set]
  split
  · exact Nat.le_succ m.size
  · exact le_rfl

/-- Change the value under a key and leave every other entry alone. -/
def modify (m : OrderedMap κ β) (key : κ) (f : β → β) : OrderedMap κ β where
  entries := m.entries.map fun entry => if entry.1 = key then (entry.1, f entry.2) else entry
  nodup := by
    have hkeys : (m.entries.map fun entry =>
        if entry.1 = key then (entry.1, f entry.2) else entry).map Prod.fst =
        m.entries.map Prod.fst := by
      rw [List.map_map]
      refine List.map_congr_left fun entry _ => ?_
      simp only [Function.comp_apply]
      split <;> rfl
    rw [hkeys]
    exact m.nodup

@[simp]
theorem keys_modify (m : OrderedMap κ β) (key : κ) (f : β → β) :
    (m.modify key f).keys = m.keys := by
  simp only [keys, modify, List.map_map]
  refine List.map_congr_left fun entry _ => ?_
  simp only [Function.comp_apply]
  split <;> rfl

theorem get?_modify (m : OrderedMap κ β) (key : κ) (f : β → β) (other : κ) :
    (m.modify key f).get? other =
      if other = key then (m.get? other).map f else m.get? other := by
  obtain ⟨entries, hnodup⟩ := m
  simp only [get?, modify]
  clear hnodup
  induction entries with
  | nil => simp
  | cons entry rest ih =>
      by_cases hother : entry.1 = other <;> by_cases hkey : entry.1 = key
      · simp [← hother, hkey]
      · simp [← hother, hkey]
      · have hne : ¬key = other := fun h => hother (hkey.trans h)
        simpa [hkey, hne] using ih
      · simpa [hother, hkey] using ih

/-- A key of the dictionary has a value. -/
theorem exists_get?_of_mem_keys {m : OrderedMap κ β} {key : κ} (hkey : key ∈ m.keys) :
    ∃ value, m.get? key = some value := by
  obtain ⟨entry, hmem, rfl⟩ := List.mem_map.mp hkey
  cases hfind : m.entries.find? fun other => other.1 = entry.1 with
  | none => exact absurd (List.find?_eq_none.mp hfind entry hmem) (by simp)
  | some found => exact ⟨found.2, by simp [get?, hfind]⟩

/-- Changing the value of a key the entries do not have changes nothing. -/
theorem map_modify_eq_self {key : κ} {entries : List (κ × β)} (f : β → β)
    (hnot : key ∉ entries.map Prod.fst) :
    (entries.map fun entry => if entry.1 = key then (entry.1, f entry.2) else entry) =
      entries := by
  refine (List.map_congr_left fun entry hmem => ?_).trans (List.map_id _)
  have hne : ¬entry.1 = key := fun h => hnot (h ▸ List.mem_map_of_mem hmem)
  simp [hne]

theorem get?_mapValues {γ : Type w} (f : β → γ) (m : OrderedMap κ β) (key : κ) :
    (m.mapValues f).get? key = (m.get? key).map f := by
  obtain ⟨entries, hnodup⟩ := m
  simp only [get?, mapValues]
  clear hnodup
  induction entries with
  | nil => rfl
  | cons entry rest ih =>
      by_cases hkey : entry.1 = key
      · simp [hkey]
      · simpa [hkey] using ih

/-- What is found after writing one key. -/
theorem get?_set (m : OrderedMap κ β) (key : κ) (value : β) (other : κ) :
    (m.set key value).get? other = if other = key then some value else m.get? other := by
  obtain ⟨entries, hnodup⟩ := m
  simp only [get?, set]
  clear hnodup
  induction entries with
  | nil =>
      by_cases hother : other = key
      · simp [setEntries, hother]
      · have hne : ¬key = other := fun h => hother h.symm
        simp [setEntries, hother, hne]
  | cons entry rest ih =>
      by_cases hkey : entry.1 = key
      · by_cases hother : other = key
        · simp [setEntries, hkey, hother]
        · have hne : ¬key = other := fun h => hother h.symm
          simp [setEntries, hkey, hother, hne]
      · by_cases hfirst : entry.1 = other
        · have hother : ¬other = key := fun h => hkey (hfirst.trans h)
          simp [setEntries, hfirst, hother]
        · simpa [setEntries, hkey, hfirst] using ih

/-- What is found after removing one key. -/
theorem get?_erase (m : OrderedMap κ β) (key other : κ) :
    (m.erase key).get? other = if other = key then none else m.get? other := by
  obtain ⟨entries, hnodup⟩ := m
  simp only [get?, erase, filter]
  clear hnodup
  induction entries with
  | nil => simp
  | cons entry rest ih =>
      by_cases hkey : entry.1 = key
      · by_cases hother : other = key
        · simp [hother]
        · have hne : ¬key = other := fun h => hother h.symm
          simpa [hkey, hother, hne] using ih
      · by_cases hfirst : entry.1 = other
        · have hother : ¬other = key := fun h => hkey (hfirst.trans h)
          simp [hfirst, hother]
        · simpa [hkey, hfirst] using ih

/-- What is found after removing some keys. -/
theorem get?_foldl_erase (m : OrderedMap κ β) (keys : List κ) (other : κ) :
    (keys.foldl erase m).get? other = if other ∈ keys then none else m.get? other := by
  induction keys generalizing m with
  | nil => simp
  | cons key rest ih =>
      rw [List.foldl_cons, ih, get?_erase]
      by_cases hrest : other ∈ rest
      · simp [hrest]
      · simp [hrest]

theorem mem_keys_iff_isSome {m : OrderedMap κ β} {key : κ} :
    key ∈ m.keys ↔ (m.get? key).isSome := by
  constructor
  · intro hkey
    obtain ⟨value, hvalue⟩ := exists_get?_of_mem_keys hkey
    rw [hvalue]
    rfl
  · intro hsome
    obtain ⟨value, hvalue⟩ := Option.isSome_iff_exists.mp hsome
    exact List.mem_map.mpr ⟨_, mem_of_get?_eq_some hvalue, rfl⟩

theorem mem_keys_of_get?_eq_some {m : OrderedMap κ β} {key : κ} {value : β}
    (hget : m.get? key = some value) : key ∈ m.keys := by
  rw [mem_keys_iff_isSome, hget]
  rfl

theorem not_mem_keys_iff {m : OrderedMap κ β} {key : κ} :
    key ∉ m.keys ↔ m.get? key = none := by
  rw [mem_keys_iff_isSome, Option.not_isSome_iff_eq_none]

/-- Writing a key adds it to the keys. -/
theorem mem_keys_set {m : OrderedMap κ β} {key other : κ} {value : β} :
    other ∈ (m.set key value).keys ↔ other = key ∨ other ∈ m.keys := by
  rw [mem_keys_iff_isSome, mem_keys_iff_isSome, get?_set]
  by_cases hkey : other = key
  · simp [hkey]
  · simp [hkey]

/-- An entry of the dictionary is found under its key. -/
theorem get?_eq_some_of_mem {m : OrderedMap κ β} {entry : κ × β} (hmem : entry ∈ m.entries) :
    m.get? entry.1 = some entry.2 := by
  obtain ⟨value, hvalue⟩ := exists_get?_of_mem_keys (List.mem_map_of_mem hmem)
  have hfound := mem_of_get?_eq_some hvalue
  have hsame : (entry.1, value) = entry := List.inj_on_of_nodup_map m.nodup hfound hmem rfl
  rw [hvalue, ← hsame]

/-- What is found in the entries that pass a test. -/
theorem get?_filter (m : OrderedMap κ β) (keep : κ × β → Bool) (key : κ) :
    (m.filter keep).get? key = (m.get? key).filter fun value => keep (key, value) := by
  cases hget : m.get? key with
  | none =>
      rw [← not_mem_keys_iff] at hget
      rw [Option.filter_none, ← not_mem_keys_iff]
      exact fun hkey => hget ((List.filter_sublist.map Prod.fst).subset hkey)
  | some value =>
      have hmem := mem_of_get?_eq_some hget
      rw [Option.filter_some]
      by_cases hkeep : keep (key, value) = true
      · have hkept : (key, value) ∈ (m.filter keep).entries :=
          List.mem_filter.mpr ⟨hmem, hkeep⟩
        rw [if_pos hkeep]
        exact get?_eq_some_of_mem hkept
      · rw [if_neg hkeep, ← not_mem_keys_iff]
        intro hkey
        obtain ⟨entry, hentry, rfl⟩ := List.mem_map.mp hkey
        obtain ⟨hold, hpasses⟩ := List.mem_filter.mp hentry
        rw [get?_eq_some_of_mem hold, Option.some.injEq] at hget
        exact hkeep (hget ▸ hpasses)

theorem entries_foldl_erase (m : OrderedMap κ β) (keys : List κ) :
    (keys.foldl erase m).entries = m.entries.filter fun entry => entry.1 ∉ keys := by
  induction keys generalizing m with
  | nil => simp
  | cons key rest ih =>
      rw [List.foldl_cons, ih]
      show (m.entries.filter _).filter _ = _
      rw [List.filter_filter]
      refine List.filter_congr fun entry _ => ?_
      simp [not_or, Bool.and_comm]

/-- Removing the keys of some entries keeps the other entries. -/
theorem foldl_erase_filter (m : OrderedMap κ β) (drop : κ × β → Bool) :
    ((m.entries.filter drop).map Prod.fst).foldl erase m = m.filter fun entry => !drop entry := by
  have hentries : (((m.entries.filter drop).map Prod.fst).foldl erase m).entries =
      m.entries.filter fun entry => !drop entry := by
    rw [entries_foldl_erase]
    refine List.filter_congr fun entry hentry => ?_
    have hdropped : entry.1 ∈ (m.entries.filter drop).map Prod.fst ↔ drop entry = true := by
      constructor
      · intro hkey
        obtain ⟨other, hother, hsame⟩ := List.mem_map.mp hkey
        obtain ⟨hmem, hdrop⟩ := List.mem_filter.mp hother
        rwa [List.inj_on_of_nodup_map m.nodup hentry hmem hsame.symm]
      · exact fun hdrop => List.mem_map_of_mem (List.mem_filter.mpr ⟨hentry, hdrop⟩)
    cases hdrop : drop entry <;> simp [hdropped, hdrop]
  cases hfold : ((m.entries.filter drop).map Prod.fst).foldl erase m
  rw [hfold] at hentries
  simp only [filter, ← hentries]

/-- Reading every key gives the values, whatever a missing key counts as. -/
theorem map_getD_keys (m : OrderedMap κ β) (default : β) :
    m.keys.map (fun key => (m.get? key).getD default) = m.values := by
  show (m.entries.map Prod.fst).map _ = m.entries.map Prod.snd
  rw [List.map_map]
  apply List.map_congr_left
  intro entry hmem
  rw [Function.comp_apply, get?_eq_some_of_mem hmem]
  rfl

/-- Write a list of entries, one after the other. -/
def setAll (m : OrderedMap κ β) (entries : List (κ × β)) : OrderedMap κ β :=
  entries.foldl (fun m entry => m.set entry.1 entry.2) m

@[simp]
theorem setAll_nil (m : OrderedMap κ β) : m.setAll [] = m := rfl

@[simp]
theorem setAll_cons (m : OrderedMap κ β) (entry : κ × β) (rest : List (κ × β)) :
    m.setAll (entry :: rest) = (m.set entry.1 entry.2).setAll rest := rfl

theorem setAll_append (m : OrderedMap κ β) (first second : List (κ × β)) :
    m.setAll (first ++ second) = (m.setAll first).setAll second :=
  List.foldl_append

/-- Under a key is the last value that was written there. -/
theorem get?_setAll (m : OrderedMap κ β) (entries : List (κ × β)) (key : κ) :
    (m.setAll entries).get? key = (entries.reverse.lookup key).or (m.get? key) := by
  induction entries generalizing m with
  | nil => simp
  | cons entry rest ih =>
      rw [setAll_cons, ih, get?_set, List.reverse_cons, List.lookup_append, Option.or_assoc,
        List.lookup_cons, List.lookup_nil]
      by_cases hkey : key = entry.1
      · simp [hkey]
      · simp [hkey, beq_eq_false_iff_ne.mpr hkey]

/-- In a dictionary written from some items the last item of a name is found. -/
theorem get?_setAll_map {α : Type w} (items : List α) (nameOf : α → κ) (valueOf : α → β)
    (key : κ) :
    (empty.setAll (items.map fun item => (nameOf item, valueOf item))).get? key =
      (items.reverse.find? fun item => nameOf item = key).map valueOf := by
  rw [get?_setAll, ← List.map_reverse]
  have hnone : (empty : OrderedMap κ β).get? key = none := rfl
  rw [hnone, Option.or_none]
  induction items.reverse with
  | nil => rfl
  | cons item rest ih =>
      rw [List.map_cons, List.lookup_cons, List.find?_cons]
      by_cases hname : nameOf item = key
      · simp [hname]
      · simp [hname, beq_eq_false_iff_ne.mpr (Ne.symm hname), ih]

/-- Of entries under different keys each is found. -/
theorem get?_setAll_of_mem {m : OrderedMap κ β} {entries : List (κ × β)}
    (hnodup : (entries.map Prod.fst).Nodup) {entry : κ × β} (hmem : entry ∈ entries) :
    (m.setAll entries).get? entry.1 = some entry.2 := by
  induction entries generalizing m with
  | nil => cases hmem
  | cons first rest ih =>
      rw [List.map_cons, List.nodup_cons] at hnodup
      rw [setAll_cons]
      rcases List.mem_cons.mp hmem with rfl | hrest
      · have hnew : entry.1 ∉ rest.map Prod.fst := hnodup.1
        have hkept : ∀ m : OrderedMap κ β, (m.setAll rest).get? entry.1 = m.get? entry.1 := by
          intro m
          rw [get?_setAll]
          have hnone : rest.reverse.lookup entry.1 = none := by
            rw [List.lookup_eq_none_iff]
            intro other hother
            have hne : entry.1 ≠ other.1 := fun heq =>
              hnew (heq ▸ List.mem_map_of_mem (List.mem_reverse.mp hother))
            simpa using hne
          rw [hnone, Option.none_or]
        rw [hkept, get?_set, if_pos rfl]
      · exact ih hnodup.2 hrest

/-- Every entry was there before or has been written. -/
theorem mem_entries_setAll {m : OrderedMap κ β} {entries : List (κ × β)} {entry : κ × β}
    (hmem : entry ∈ (m.setAll entries).entries) : entry ∈ m.entries ∨ entry ∈ entries := by
  induction entries generalizing m with
  | nil => exact .inl hmem
  | cons first rest ih =>
      rcases ih hmem with hset | hrest
      · rcases mem_setEntries hset with rfl | hold
        · exact .inr List.mem_cons_self
        · exact .inl hold
      · exact .inr (List.mem_cons_of_mem _ hrest)

theorem mem_keys_setAll {m : OrderedMap κ β} {entries : List (κ × β)} {key : κ} :
    key ∈ (m.setAll entries).keys ↔ key ∈ m.keys ∨ key ∈ entries.map Prod.fst := by
  induction entries generalizing m with
  | nil => simp
  | cons entry rest ih =>
      rw [setAll_cons, ih, mem_keys_iff_isSome, get?_set, mem_keys_iff_isSome, List.map_cons,
        List.mem_cons]
      by_cases hkey : key = entry.1
      · simp [hkey]
      · simp [hkey]

/-- What is written from something has a key for each of its names. -/
theorem mem_keys_setAll_map {α : Type w} {items : List α} {nameOf : α → κ} {valueOf : α → β}
    {key : κ} : key ∈ (empty.setAll (items.map fun item => (nameOf item, valueOf item))).keys ↔
      key ∈ items.map nameOf := by
  rw [mem_keys_setAll, List.map_map]
  exact or_iff_right List.not_mem_nil

/-- In a dictionary of the items that have a value the value of each item is found. -/
theorem get?_setAll_filterMap {α : Type w} {items : List α} {keyOf : α → κ}
    (hnodup : (items.map keyOf).Nodup) (valueOf : α → Option β) {item : α} (hitem : item ∈ items) :
    (empty.setAll (items.filterMap fun item =>
      (valueOf item).map fun value => (keyOf item, value))).get? (keyOf item) = valueOf item := by
  cases hvalue : valueOf item with
  | some value =>
      have hmem : (keyOf item, value) ∈ items.filterMap fun item =>
          (valueOf item).map fun value => (keyOf item, value) :=
        List.mem_filterMap.mpr ⟨item, hitem, by rw [hvalue]; rfl⟩
      exact get?_setAll_of_mem (nodup_keys_filterMap hnodup valueOf) hmem
  | none =>
      rw [← not_mem_keys_iff, mem_keys_setAll]
      rintro (hold | hnew)
      · cases hold
      · obtain ⟨entry, hentry, hkey⟩ := List.mem_map.mp hnew
        obtain ⟨other, hother, hfound⟩ := List.mem_filterMap.mp hentry
        obtain ⟨value, hsome, rfl⟩ := Option.map_eq_some_iff.mp hfound
        rw [List.inj_on_of_nodup_map hnodup hother hitem hkey, hvalue] at hsome
        cases hsome

/-- Writing keeps the order of the keys that are there. -/
theorem keys_prefix_set (m : OrderedMap κ β) (key : κ) (value : β) :
    m.keys <+: (m.set key value).keys := by
  have hkeys := keys_setEntries key value m.entries
  show m.entries.map Prod.fst <+: (setEntries key value m.entries).map Prod.fst
  rw [hkeys]
  split
  · exact List.prefix_rfl
  · exact List.prefix_append _ _

theorem keys_prefix_setAll (m : OrderedMap κ β) (entries : List (κ × β)) :
    m.keys <+: (m.setAll entries).keys := by
  induction entries generalizing m with
  | nil => exact List.prefix_rfl
  | cons entry rest ih => exact (keys_prefix_set m entry.1 entry.2).trans (ih _)

/-- Entries under new keys are added at the end as they are. -/
theorem entries_setAll_of_nodup {m : OrderedMap κ β} {entries : List (κ × β)}
    (hnodup : (m.keys ++ entries.map Prod.fst).Nodup) :
    (m.setAll entries).entries = m.entries ++ entries := by
  induction entries generalizing m with
  | nil => simp
  | cons entry rest ih =>
      have hnew : entry.1 ∉ m.keys := by
        intro hkey
        exact (List.nodup_append.mp hnodup).2.2 _ hkey entry.1 (by simp) rfl
      have hkeys : (m.set entry.1 entry.2).keys = m.keys ++ [entry.1] :=
        keys_set_of_not_mem hnew entry.2
      rw [setAll_cons, ih, entries_set_of_not_mem hnew, List.append_assoc]
      · rfl
      · rw [hkeys, List.append_assoc]
        exact hnodup

/-- A dictionary written from entries under different keys has just these. -/
theorem entries_setAll_empty {entries : List (κ × β)} (hnodup : (entries.map Prod.fst).Nodup) :
    (empty.setAll entries).entries = entries :=
  entries_setAll_of_nodup hnodup

/-- Items under different keys are written under these keys, in order. -/
theorem keys_setAll_map_of_nodup {α : Type w} {items : List α} {nameOf : α → κ}
    (hnodup : (items.map nameOf).Nodup) (valueOf : α → β) :
    (empty.setAll (items.map fun item => (nameOf item, valueOf item))).keys =
      items.map nameOf := by
  have hkeys : (items.map fun item => (nameOf item, valueOf item)).map Prod.fst =
      items.map nameOf := by
    rw [List.map_map]
    rfl
  rw [keys, entries_setAll_empty (hkeys ▸ hnodup), hkeys]

end Lookup

section Totals

variable [DecidableEq κ]

/-- A key that is deleted takes its value out of the sum. -/
theorem sum_values_erase {m : OrderedMap κ ℤ} {key : κ} {value : ℤ}
    (hvalue : m.get? key = some value) :
    (m.erase key).values.sum = m.values.sum - value := by
  have hmem := mem_of_get?_eq_some hvalue
  obtain ⟨entries, hnodup⟩ := m
  simp only [erase, filter, values] at hmem ⊢
  clear hvalue
  induction entries with
  | nil => cases hmem
  | cons entry rest ih =>
      simp only [List.map_cons, List.nodup_cons] at hnodup
      by_cases hkey : entry.1 = key
      · have hlater : ∀ other ∈ rest, other.1 ≠ key := by
          rintro other hother rfl
          exact hnodup.1 (hkey ▸ List.mem_map_of_mem hother)
        have hsame : entry.2 = value := by
          rcases List.mem_cons.mp hmem with heq | hrest
          · rw [← heq]
          · exact absurd rfl (hlater _ hrest)
        have hkept : rest.filter (fun other => decide (other.1 ≠ key)) = rest :=
          List.filter_eq_self.mpr fun other hother => decide_eq_true (hlater other hother)
        rw [List.filter_cons_of_neg (by simpa using hkey), hkept, List.map_cons, List.sum_cons,
          hsame]
        omega
      · have hrest : (key, value) ∈ rest := by
          rcases List.mem_cons.mp hmem with heq | hrest
          · exact absurd (congrArg Prod.fst heq).symm hkey
          · exact hrest
        rw [List.filter_cons_of_pos (by simpa using hkey), List.map_cons, List.sum_cons,
          ih hnodup.2 hrest, List.map_cons, List.sum_cons]
        omega

/-- Adding to one value adds to the sum of the values. -/
theorem sum_values_modify_add {m : OrderedMap κ ℤ} {key : κ} (hkey : key ∈ m.keys) (extra : ℤ) :
    (m.modify key (· + extra)).values.sum = m.values.sum + extra := by
  obtain ⟨entries, hnodup⟩ := m
  simp only [modify, values, keys] at hkey ⊢
  induction entries with
  | nil => simp at hkey
  | cons entry rest ih =>
      simp only [List.map_cons, List.nodup_cons] at hnodup
      by_cases hfirst : entry.1 = key
      · have hrest := map_modify_eq_self (· + extra) (hfirst ▸ hnodup.1)
        simp only [List.map_cons, hfirst, if_true, List.sum_cons]
        rw [hrest]
        omega
      · have hlater : key ∈ rest.map Prod.fst := by
          rcases List.mem_cons.mp hkey with heq | hlater
          · exact absurd heq.symm hfirst
          · exact hlater
        simp only [List.map_cons, hfirst, if_false, List.sum_cons, ih hnodup.2 hlater]
        omega

/-- Writing a value puts what it counts for in the place of what the old one counted for. -/
theorem sum_map_values_set (size : β → ℕ) (m : OrderedMap κ β) (key : κ) (value : β) :
    ((m.set key value).values.map size).sum + ((m.get? key).map size).getD 0 =
      (m.values.map size).sum + size value := by
  obtain ⟨entries, hnodup⟩ := m
  simp only [set, values, get?]
  clear hnodup
  induction entries with
  | nil => simp [setEntries]
  | cons entry rest ih =>
      by_cases hkey : entry.1 = key
      · rw [List.find?_cons_of_pos (by simpa using hkey)]
        simp only [setEntries, hkey, if_true, List.map_cons, List.sum_cons,
          Option.map_some, Option.getD_some]
        omega
      · rw [List.find?_cons_of_neg (by simpa using hkey)]
        simp only [setEntries, hkey, if_false, List.map_cons, List.sum_cons]
        omega

variable {α : Type v}

/-- Writing a list under a key puts its elements in the place of those that were there. -/
theorem length_flatten_values_set (m : OrderedMap κ (List α)) (key : κ) (items : List α) :
    (m.set key items).values.flatten.length + ((m.get? key).getD []).length =
      m.values.flatten.length + items.length := by
  have hsum := sum_map_values_set List.length m key items
  have hold : ((m.get? key).map List.length).getD 0 = ((m.get? key).getD []).length := by
    cases m.get? key <;> rfl
  rw [List.length_flatten, List.length_flatten, ← hold]
  exact hsum

theorem length_flatten_values_set_le (m : OrderedMap κ (List α)) (key : κ) (items : List α) :
    (m.set key items).values.flatten.length ≤ m.values.flatten.length + items.length :=
  Nat.le_of_add_right_le (length_flatten_values_set m key items).le

theorem length_flatten_values_setAll_le (m : OrderedMap κ (List α))
    (entries : List (κ × List α)) :
    (m.setAll entries).values.flatten.length ≤
      m.values.flatten.length + (entries.map fun entry => entry.2.length).sum := by
  induction entries generalizing m with
  | nil => simp
  | cons entry rest ih =>
      have hset := length_flatten_values_set_le m entry.1 entry.2
      have hrest := ih (m.set entry.1 entry.2)
      rw [setAll_cons, List.map_cons, List.sum_cons]
      omega

/-- Lists that are not empty and are written under keys that repeat lose elements. -/
theorem length_flatten_values_setAll_lt {m : OrderedMap κ (List α)}
    {entries : List (κ × List α)} (hold : ∀ entry ∈ m.entries, entry.2 ≠ [])
    (hentries : ∀ entry ∈ entries, entry.2 ≠ [])
    (hrepeats : ¬ (m.keys ++ entries.map Prod.fst).Nodup) :
    (m.setAll entries).values.flatten.length <
      m.values.flatten.length + (entries.map fun entry => entry.2.length).sum := by
  induction entries generalizing m with
  | nil =>
      rw [List.map_nil, List.append_nil] at hrepeats
      exact absurd m.nodup hrepeats
  | cons entry rest ih =>
      obtain ⟨hfirst, hrest⟩ := List.forall_mem_cons.mp hentries
      have hset := length_flatten_values_set m entry.1 entry.2
      rw [setAll_cons, List.map_cons, List.sum_cons]
      by_cases hkey : entry.1 ∈ m.keys
      · obtain ⟨value, hvalue⟩ := exists_get?_of_mem_keys hkey
        have hlost : 0 < value.length :=
          List.length_pos_iff.mpr (hold _ (mem_of_get?_eq_some hvalue))
        have hafter := length_flatten_values_setAll_le (m.set entry.1 entry.2) rest
        rw [hvalue, Option.getD_some] at hset
        omega
      · have hkept : ∀ other ∈ (m.set entry.1 entry.2).entries, other.2 ≠ [] := by
          intro other hother
          rcases mem_setEntries hother with rfl | hmem
          · exact hfirst
          · exact hold other hmem
        have hafter := ih hkept hrest (by
          rw [keys_set_of_not_mem hkey, List.append_assoc]
          exact hrepeats)
        omega

/-- Lists that are not empty are all kept exactly when they are written under different keys. -/
theorem flatten_values_setAll_perm_iff {entries : List (κ × List α)}
    (hentries : ∀ entry ∈ entries, entry.2 ≠ []) :
    (empty.setAll entries).values.flatten.Perm (entries.map Prod.snd).flatten ↔
      (entries.map Prod.fst).Nodup := by
  constructor
  · intro hperm
    by_contra hrepeats
    have hlost := length_flatten_values_setAll_lt (m := empty) nofun hentries hrepeats
    rw [hperm.length_eq, List.length_flatten, List.map_map] at hlost
    have hnone : (empty : OrderedMap κ (List α)).values.flatten.length = 0 := rfl
    rw [hnone, zero_add] at hlost
    exact lt_irrefl _ hlost
  · intro hnodup
    show (((empty.setAll entries).entries).map Prod.snd).flatten.Perm _
    rw [entries_setAll_empty hnodup]

end Totals

section Buckets

variable {α : Type v} [DecidableEq κ]

/-- Add one element at the end of the list stored under a key. -/
def push (m : OrderedMap κ (List α)) (key : κ) (a : α) : OrderedMap κ (List α) :=
  m.modify key (· ++ [a])

@[simp]
theorem keys_push (m : OrderedMap κ (List α)) (key : κ) (a : α) :
    (m.push key a).keys = m.keys :=
  keys_modify m key _

/-- The list stored under a key; a key that is missing counts as empty. -/
def bucket (m : OrderedMap κ (List α)) (key : κ) : List α := (m.get? key).getD []

/-- Reading every key gives the values. -/
theorem map_bucket_keys (m : OrderedMap κ (List α)) : m.keys.map m.bucket = m.values :=
  map_getD_keys m []

theorem bucket_push_self {m : OrderedMap κ (List α)} {key : κ} (hkey : key ∈ m.keys) (a : α) :
    (m.push key a).bucket key = m.bucket key ++ [a] := by
  obtain ⟨value, hvalue⟩ := exists_get?_of_mem_keys hkey
  simp [bucket, push, get?_modify, hvalue]

theorem bucket_push_of_ne (m : OrderedMap κ (List α)) {key other : κ} (hne : other ≠ key)
    (a : α) : (m.push key a).bucket other = m.bucket other := by
  simp [bucket, push, get?_modify, hne]

/-- Over all keys, a pushed element is one more element and the rest is kept. -/
theorem flatten_values_push_perm {m : OrderedMap κ (List α)} {key : κ} (a : α)
    (hkey : key ∈ m.keys) : (m.push key a).values.flatten.Perm (a :: m.values.flatten) := by
  obtain ⟨entries, hnodup⟩ := m
  simp only [push, modify, values, keys] at hkey ⊢
  induction entries with
  | nil => simp at hkey
  | cons entry rest ih =>
      simp only [List.map_cons, List.nodup_cons] at hnodup
      by_cases hfirst : entry.1 = key
      · have hrest := map_modify_eq_self (· ++ [a]) (hfirst ▸ hnodup.1)
        simp only [List.map_cons, hfirst, if_true, List.flatten_cons]
        rw [hrest]
        simp only [List.append_assoc, List.singleton_append]
        exact List.perm_middle
      · have hlater : key ∈ rest.map Prod.fst := by
          rcases List.mem_cons.mp hkey with heq | hlater
          · exact absurd heq.symm hfirst
          · exact hlater
        simp only [List.map_cons, hfirst, if_false, List.flatten_cons]
        exact ((ih hnodup.2 hlater).append_left entry.2).trans List.perm_middle

/-- Pushing under any key adds no more than the pushed element. -/
theorem mem_flatten_values_push {m : OrderedMap κ (List α)} {key : κ} {a b : α}
    (hmem : b ∈ (m.push key a).values.flatten) : b = a ∨ b ∈ m.values.flatten := by
  by_cases hkey : key ∈ m.keys
  · exact List.mem_cons.mp ((flatten_values_push_perm a hkey).subset hmem)
  · have hsame : (m.push key a).values = m.values :=
      congrArg (List.map Prod.snd) (map_modify_eq_self (· ++ [a]) hkey)
    exact .inr (hsame ▸ hmem)

/-- What is in the list under a key is in the values. -/
theorem mem_flatten_values_of_mem_bucket {m : OrderedMap κ (List α)} {key : κ} {a : α}
    (hmem : a ∈ m.bucket key) : a ∈ m.values.flatten := by
  unfold bucket at hmem
  cases hget : m.get? key with
  | none =>
      rw [hget] at hmem
      cases hmem
  | some value =>
      rw [hget, Option.getD_some] at hmem
      exact List.mem_flatten.mpr
        ⟨value, List.mem_map_of_mem (mem_of_get?_eq_some hget), hmem⟩

/-- Adding an element to the list under a key, which may be new, adds it over all keys. -/
theorem flatten_values_set_bucket_perm (m : OrderedMap κ (List α)) (key : κ) (a : α) :
    (m.set key (m.bucket key ++ [a])).values.flatten.Perm (a :: m.values.flatten) := by
  obtain ⟨entries, hnodup⟩ := m
  simp only [set, values, bucket, get?]
  clear hnodup
  induction entries with
  | nil => simp [setEntries]
  | cons entry rest ih =>
      by_cases hkey : entry.1 = key
      · simp only [setEntries, hkey, if_true, List.map_cons, List.flatten_cons,
          List.find?_cons_of_pos, decide_true, Option.map_some, Option.getD_some,
          List.append_assoc, List.singleton_append]
        exact List.perm_middle
      · rw [List.find?_cons_of_neg (by simpa using hkey)]
        simp only [setEntries, hkey, if_false, List.map_cons, List.flatten_cons]
        exact (ih.append_left entry.2).trans List.perm_middle

/-- The elements of a list gathered under their keys, in order. -/
def gather (keyOf : α → κ) (items : List α) : OrderedMap κ (List α) :=
  items.foldl (fun groups a => groups.set (keyOf a) (groups.bucket (keyOf a) ++ [a])) empty

/-- Gathering loses no element and adds none. -/
theorem flatten_values_gather_perm (keyOf : α → κ) (items : List α) :
    (gather keyOf items).values.flatten.Perm items := by
  have hgroups : ∀ groups : OrderedMap κ (List α),
      (items.foldl (fun groups a => groups.set (keyOf a) (groups.bucket (keyOf a) ++ [a]))
        groups).values.flatten.Perm (items ++ groups.values.flatten) := by
    induction items with
    | nil =>
        intro groups
        rfl
    | cons a rest ih =>
        intro groups
        rw [List.foldl_cons]
        apply (ih _).trans
        apply ((flatten_values_set_bucket_perm _ _ _).append_left rest).trans
        exact List.perm_middle
  have hempty := hgroups empty
  have hnone : (empty : OrderedMap κ (List α)).values.flatten = [] := rfl
  rwa [hnone, List.append_nil] at hempty

/-- Under a key are the elements with this key. -/
theorem bucket_gather (keyOf : α → κ) (items : List α) (key : κ) :
    (gather keyOf items).bucket key = items.filter fun a => keyOf a = key := by
  have hgroups : ∀ groups : OrderedMap κ (List α),
      (items.foldl (fun groups a => groups.set (keyOf a) (groups.bucket (keyOf a) ++ [a]))
        groups).bucket key = groups.bucket key ++ items.filter fun a => keyOf a = key := by
    induction items with
    | nil => simp
    | cons a rest ih =>
        intro groups
        rw [List.foldl_cons, ih]
        by_cases hkey : keyOf a = key
        · simp [bucket, get?_set, hkey]
        · have hne : ¬key = keyOf a := fun h => hkey h.symm
          simp [bucket, get?_set, hkey, hne]
  exact hgroups empty

/-- No key has an empty list. -/
theorem bucket_gather_ne_nil (keyOf : α → κ) (items : List α) {key : κ}
    (hkey : key ∈ (gather keyOf items).keys) : (gather keyOf items).bucket key ≠ [] := by
  have hgroups : ∀ groups : OrderedMap κ (List α),
      (∀ name ∈ groups.keys, groups.bucket name ≠ []) →
        ∀ name ∈ (items.foldl (fun groups a =>
          groups.set (keyOf a) (groups.bucket (keyOf a) ++ [a])) groups).keys,
          (items.foldl (fun groups a =>
            groups.set (keyOf a) (groups.bucket (keyOf a) ++ [a])) groups).bucket name ≠ [] := by
    clear hkey
    induction items with
    | nil => exact fun groups hold => hold
    | cons a rest ih =>
        intro groups hold
        apply ih
        intro name hname
        unfold bucket
        rw [get?_set]
        by_cases hsame : name = keyOf a
        · simp [hsame]
        · rw [if_neg hsame]
          apply hold name
          rw [mem_keys_iff_isSome, get?_set, if_neg hsame] at hname
          exact mem_keys_iff_isSome.mpr hname
  exact hgroups empty (fun name hname => absurd hname List.not_mem_nil) key hkey

/-- The entries of a gathered list: the keys of its elements, with the elements under each. -/
theorem mem_entries_gather {keyOf : α → κ} {items : List α} {entry : κ × List α} :
    entry ∈ (gather keyOf items).entries ↔
      entry.2 ≠ [] ∧ entry.2 = items.filter fun a => keyOf a = entry.1 := by
  have hbucket := bucket_gather keyOf items entry.1
  constructor
  · intro hentry
    have hne := bucket_gather_ne_nil keyOf items (List.mem_map_of_mem hentry)
    unfold bucket at hbucket hne
    rw [get?_eq_some_of_mem hentry, Option.getD_some] at hbucket hne
    exact ⟨hne, hbucket⟩
  · rintro ⟨hne, hitems⟩
    unfold bucket at hbucket
    rw [← hitems] at hbucket
    cases hget : (gather keyOf items).get? entry.1 with
    | none =>
        rw [hget] at hbucket
        exact absurd hbucket.symm hne
    | some value =>
        rw [hget, Option.getD_some] at hbucket
        have hmem := mem_of_get?_eq_some hget
        rwa [hbucket] at hmem

/-- Every list gathered is under a key, has an element, and has only elements of the list. -/
theorem of_mem_values_gather {keyOf : α → κ} {items group : List α}
    (hgroup : group ∈ (gather keyOf items).values) : group ≠ [] ∧ group ⊆ items := by
  constructor
  · obtain ⟨entry, hentry, rfl⟩ := List.mem_map.mp hgroup
    have hbucket := bucket_gather_ne_nil keyOf items (List.mem_map_of_mem hentry)
    unfold bucket at hbucket
    rwa [get?_eq_some_of_mem hentry] at hbucket
  · intro a ha
    apply (flatten_values_gather_perm keyOf items).subset
    exact List.mem_flatten.mpr ⟨group, hgroup, ha⟩

end Buckets

end OrderedMap

end Goveling.Math
