/-
# A log and the places of its open entries

Entries are appended to a log and stay there for good. A map keeps for a key the place of
the entry that was opened last, and closing a key changes the entry at that place and takes
the key out of the map. An entry that is opened while one with its key is still open takes
its place in the map: the old one stays open in the log, and nothing ever closes it. So
log and map agree at the end of a run exactly when they agreed at its start and no
open key has been opened again.
-/

import Mathlib.Algebra.Order.Group.Nat
import Goveling.Math.OrderedMap
import Goveling.Math.Runs

namespace Goveling.Math

universe u v

/-- How entries of a log are read: their key, and whether they are open. -/
structure EntryKind (κ : Type u) (ρ : Type v) where
  keyOf : ρ → κ
  isOpen : ρ → Bool

/-- A log with the places of the entries that were opened last. -/
structure OpenLog (κ : Type u) (ρ : Type v) where
  places : OrderedMap κ ℕ
  log : List ρ

/-- What can happen to a log: an entry is appended, or the entry of a key is changed. -/
inductive LogEvent (κ : Type u) (ρ : Type v)
  | opens (entry : ρ)
  | closes (key : κ) (change : ρ → ρ)

/-- An entry is open when it is appended, and closing it changes nothing about its key. -/
def LogEvent.Lawful {κ : Type u} {ρ : Type v} (kind : EntryKind κ ρ) : LogEvent κ ρ → Prop
  | .opens entry => kind.isOpen entry = true
  | .closes _ change => ∀ entry,
      kind.isOpen (change entry) = false ∧ kind.keyOf (change entry) = kind.keyOf entry

/-- The key that an event is about. -/
def LogEvent.key {κ : Type u} {ρ : Type v} (kind : EntryKind κ ρ) : LogEvent κ ρ → κ
  | .opens entry => kind.keyOf entry
  | .closes key _ => key

namespace OpenLog

variable {κ : Type u} {ρ : Type v} [DecidableEq κ]

/-- The log without entries. -/
def empty : OpenLog κ ρ := ⟨.empty, []⟩

/-- An entry is appended, and its place is kept. -/
def opens (kind : EntryKind κ ρ) (state : OpenLog κ ρ) (entry : ρ) : OpenLog κ ρ where
  places := state.places.set (kind.keyOf entry) state.log.length
  log := state.log ++ [entry]

/-- The entry at the place of a key is changed, and the place is forgotten. -/
def closes (state : OpenLog κ ρ) (key : κ) (change : ρ → ρ) : OpenLog κ ρ :=
  match state.places.get? key with
  | some place =>
      { places := state.places.erase key
        log := state.log.modify place change }
  | none => state

/-- What an event does. -/
def step (kind : EntryKind κ ρ) (state : OpenLog κ ρ) : LogEvent κ ρ → OpenLog κ ρ
  | .opens entry => state.opens kind entry
  | .closes key change => state.closes key change

/-- The open entries of a key. -/
def openCount (kind : EntryKind κ ρ) (state : OpenLog κ ρ) (key : κ) : ℕ :=
  state.log.countP fun entry => kind.isOpen entry && decide (kind.keyOf entry = key)

/-- Log and map agree: the map has the places of the open entries, one for each of its keys. -/
structure Agrees (kind : EntryKind κ ρ) (state : OpenLog κ ρ) : Prop where
  places : ∀ place, place ∈ state.places.values ↔
    ∃ entry, state.log[place]? = some entry ∧ kind.isOpen entry = true
  held : ∀ key ∈ state.places.keys, openCount kind state key = 1
  released : ∀ key, key ∉ state.places.keys → openCount kind state key = 0

/-- The map leads to open entries of its keys. -/
def Leads (kind : EntryKind κ ρ) (state : OpenLog κ ρ) : Prop :=
  ∀ key place, state.places.get? key = some place →
    ∃ entry, state.log[place]? = some entry ∧ kind.keyOf entry = key ∧ kind.isOpen entry = true

/-- An event opens a key that is open. -/
def Reopens (kind : EntryKind κ ρ) : OpenLog κ ρ × LogEvent κ ρ → Prop
  | (state, .opens entry) => kind.keyOf entry ∈ state.places.keys
  | (_, .closes _ _) => False

variable {kind : EntryKind κ ρ} {state : OpenLog κ ρ}

/-! ## The map leads to open entries -/

theorem leads_empty : Leads kind (empty : OpenLog κ ρ) := fun _ _ hplace => nomatch hplace

theorem Leads.opens (hleads : Leads kind state) {entry : ρ} (hopen : kind.isOpen entry = true) :
    Leads kind (state.opens kind entry) := by
  intro key place hplace
  have hget := OrderedMap.get?_set state.places (kind.keyOf entry) state.log.length key
  rw [show (state.opens kind entry).places.get? key = _ from hget] at hplace
  by_cases hkey : key = kind.keyOf entry
  · rw [if_pos hkey] at hplace
    obtain rfl := Option.some.inj hplace
    refine ⟨entry, ?_, hkey.symm, hopen⟩
    exact List.getElem?_concat_length
  · rw [if_neg hkey] at hplace
    obtain ⟨old, hold, hrest⟩ := hleads key place hplace
    refine ⟨old, ?_, hrest⟩
    show (state.log ++ [entry])[place]? = some old
    rw [List.getElem?_append_left (List.getElem?_eq_some_iff.mp hold).1, hold]

theorem Leads.closes (hleads : Leads kind state) (key : κ) (change : ρ → ρ) :
    Leads kind (state.closes key change) := by
  unfold OpenLog.closes
  cases hclosed : state.places.get? key with
  | none => exact hleads
  | some closed =>
      intro other place hplace
      have hget := OrderedMap.get?_erase state.places key other
      rw [show (state.places.erase key).get? other = _ from hget] at hplace
      by_cases hother : other = key
      · rw [if_pos hother] at hplace
        cases hplace
      · rw [if_neg hother] at hplace
        obtain ⟨entry, hentry, hkey, hopen⟩ := hleads other place hplace
        obtain ⟨changed, hchanged, hchangedKey, -⟩ := hleads key closed hclosed
        have hne : closed ≠ place := by
          rintro rfl
          rw [hentry] at hchanged
          cases hchanged
          exact hother (hkey.symm.trans hchangedKey)
        refine ⟨entry, ?_, hkey, hopen⟩
        show (state.log.modify closed change)[place]? = some entry
        rw [List.getElem?_modify_ne change state.log hne, hentry]

theorem Leads.step (hleads : Leads kind state) {event : LogEvent κ ρ}
    (hlawful : event.Lawful kind) : Leads kind (state.step kind event) := by
  cases event with
  | opens entry => exact hleads.opens hlawful
  | closes key change => exact hleads.closes key change

/-! ## Counting open entries -/

/-- A key of the map has an open entry. -/
theorem Leads.one_le_openCount (hleads : Leads kind state) {key : κ}
    (hkey : key ∈ state.places.keys) : 1 ≤ openCount kind state key := by
  obtain ⟨place, hplace⟩ := OrderedMap.exists_get?_of_mem_keys hkey
  obtain ⟨entry, hentry, hentryKey, hopen⟩ := hleads key place hplace
  apply List.countP_pos_iff.mpr
  refine ⟨entry, List.mem_of_getElem? hentry, ?_⟩
  simp [hentryKey, hopen]

theorem openCount_opens {entry : ρ} (hopen : kind.isOpen entry = true) (key : κ) :
    openCount kind (state.opens kind entry) key =
      openCount kind state key + if kind.keyOf entry = key then 1 else 0 := by
  show (state.log ++ [entry]).countP _ = _
  rw [List.countP_append, List.countP_singleton, hopen]
  simp only [Bool.true_and, decide_eq_true_eq]
  rfl

/-- Changing one element of a list changes the count by what it counted for. -/
theorem countP_modify_add (counts : ρ → Bool) {log : List ρ} {place : ℕ} {entry : ρ}
    (hentry : log[place]? = some entry) (change : ρ → ρ) :
    (log.modify place change).countP counts + (if counts entry then 1 else 0) =
      log.countP counts + if counts (change entry) then 1 else 0 := by
  induction log generalizing place with
  | nil => cases hentry
  | cons first rest ih =>
      cases place with
      | zero =>
          cases hentry
          rw [List.modify_zero_cons, List.countP_cons, List.countP_cons]
          omega
      | succ place =>
          have hrest := ih hentry
          rw [List.modify_succ_cons, List.countP_cons, List.countP_cons]
          omega

theorem openCount_closes (hleads : Leads kind state) {closed : κ} {change : ρ → ρ}
    (hlawful : (LogEvent.closes closed change).Lawful kind) (key : κ) :
    openCount kind (state.closes closed change) key +
        (if key = closed ∧ closed ∈ state.places.keys then 1 else 0) =
      openCount kind state key := by
  unfold OpenLog.closes
  cases hclosed : state.places.get? closed with
  | none =>
      have hmissing : closed ∉ state.places.keys := OrderedMap.not_mem_keys_iff.mpr hclosed
      rw [if_neg fun hboth => hmissing hboth.2]
      rfl
  | some place =>
      have hmem : closed ∈ state.places.keys := OrderedMap.mem_keys_of_get?_eq_some hclosed
      obtain ⟨entry, hentry, hkey, hopen⟩ := hleads closed place hclosed
      have hcount := countP_modify_add
        (fun entry => kind.isOpen entry && decide (kind.keyOf entry = key))
        hentry change
      rw [(hlawful entry).1, hopen, hkey] at hcount
      simp only [Bool.true_and, Bool.false_and, decide_eq_true_eq, Bool.false_eq_true, if_false,
        add_zero] at hcount
      rw [← show _ = openCount kind state key from hcount]
      simp only [hmem, and_true, eq_comm (a := key)]
      rfl

theorem mem_keys_opens_iff (entry : ρ) (key : κ) :
    key ∈ (state.opens kind entry).places.keys ↔
      kind.keyOf entry = key ∨ key ∈ state.places.keys := by
  rw [OrderedMap.mem_keys_iff_isSome, OrderedMap.mem_keys_iff_isSome]
  show ((state.places.set (kind.keyOf entry) state.log.length).get? key).isSome ↔ _
  rw [OrderedMap.get?_set]
  by_cases hkey : key = kind.keyOf entry
  · simp [hkey]
  · have hne : ¬kind.keyOf entry = key := fun h => hkey h.symm
    simp [hkey, hne]

theorem mem_keys_closes_iff (closed : κ) (change : ρ → ρ) (key : κ) :
    key ∈ (state.closes closed change).places.keys ↔ key ≠ closed ∧ key ∈ state.places.keys := by
  unfold OpenLog.closes
  cases hclosed : state.places.get? closed with
  | none =>
      have hmissing : closed ∉ state.places.keys := OrderedMap.not_mem_keys_iff.mpr hclosed
      exact ⟨fun hkey => ⟨fun h => hmissing (h ▸ hkey), hkey⟩, And.right⟩
  | some place =>
      rw [OrderedMap.mem_keys_iff_isSome, OrderedMap.mem_keys_iff_isSome]
      show ((state.places.erase closed).get? key).isSome ↔ _
      rw [OrderedMap.get?_erase]
      by_cases hkey : key = closed <;> simp [hkey]

/-! ## Agreement -/

/-- Two places of a list that count make a count of two. -/
theorem two_le_countP {counts : ρ → Bool} {log : List ρ} {i j : ℕ} (hij : i < j) {first second : ρ}
    (hfirst : log[i]? = some first) (hsecond : log[j]? = some second)
    (hcounts : counts first = true) (hcounts' : counts second = true) :
    2 ≤ log.countP counts := by
  have hsplit : log = log.take j ++ log.drop j := (List.take_append_drop j log).symm
  have hbefore : first ∈ log.take j := by
    apply List.mem_of_getElem? (i := i)
    rw [List.getElem?_take_of_lt hij, hfirst]
  have hafter : second ∈ log.drop j := by
    apply List.mem_of_getElem? (i := 0)
    rw [List.getElem?_drop, add_zero, hsecond]
  have hone : 0 < (log.take j).countP counts := List.countP_pos_iff.mpr ⟨first, hbefore, hcounts⟩
  have htwo : 0 < (log.drop j).countP counts := List.countP_pos_iff.mpr ⟨second, hafter, hcounts'⟩
  rw [hsplit, List.countP_append]
  omega

/-- Two open entries of a key that is counted once stand at one place. -/
theorem place_unique {i j : ℕ} {first second : ρ} (hfirst : state.log[i]? = some first)
    (hsecond : state.log[j]? = some second) (hkey : kind.keyOf first = kind.keyOf second)
    (hopen : kind.isOpen first = true) (hopen' : kind.isOpen second = true)
    (hcount : openCount kind state (kind.keyOf second) = 1) : i = j := by
  have hcounted : (fun other => kind.isOpen other &&
      decide (kind.keyOf other = kind.keyOf second)) first = true := by
    simp [hopen, hkey]
  have hcounted' : (fun other => kind.isOpen other &&
      decide (kind.keyOf other = kind.keyOf second)) second = true := by
    simp [hopen']
  rcases lt_trichotomy i j with hlt | heq | hgt
  · have htwo : 2 ≤ openCount kind state (kind.keyOf second) :=
      two_le_countP hlt hfirst hsecond hcounted hcounted'
    omega
  · exact heq
  · have htwo : 2 ≤ openCount kind state (kind.keyOf second) :=
      two_le_countP hgt hsecond hfirst hcounted' hcounted
    omega

/-- Log and map agree exactly when the open entries are one for each key of the map. -/
theorem agrees_iff (hleads : Leads kind state) :
    Agrees kind state ↔
      ∀ key, openCount kind state key = if key ∈ state.places.keys then 1 else 0 := by
  constructor
  · intro hagrees key
    by_cases hkey : key ∈ state.places.keys
    · rw [if_pos hkey, hagrees.held key hkey]
    · rw [if_neg hkey, hagrees.released key hkey]
  · intro hcounts
    refine ⟨fun place => ⟨fun hplace => ?_, fun hopen => ?_⟩, fun key hkey => ?_,
      fun key hkey => ?_⟩
    · obtain ⟨entry, hentry, rfl⟩ := List.mem_map.mp hplace
      obtain ⟨found, hfound, -, hopen⟩ := hleads _ _ (OrderedMap.get?_eq_some_of_mem hentry)
      exact ⟨found, hfound, hopen⟩
    · obtain ⟨entry, hentry, hopen⟩ := hopen
      have hpos : 1 ≤ openCount kind state (kind.keyOf entry) :=
        List.countP_pos_iff.mpr ⟨entry, List.mem_of_getElem? hentry, by simp [hopen]⟩
      have hcount := hcounts (kind.keyOf entry)
      have hkey : kind.keyOf entry ∈ state.places.keys := by
        by_contra hmissing
        rw [if_neg hmissing] at hcount
        omega
      rw [if_pos hkey] at hcount
      -- The map leads to an open entry of the key, which is the only one.
      obtain ⟨held, hheld⟩ := OrderedMap.exists_get?_of_mem_keys hkey
      obtain ⟨last, hlast, hlastKey, hlastOpen⟩ := hleads _ held hheld
      rw [← place_unique hlast hentry hlastKey hlastOpen hopen hcount]
      exact List.mem_map.mpr ⟨_, OrderedMap.mem_of_get?_eq_some hheld, rfl⟩
    · rw [hcounts, if_pos hkey]
    · rw [hcounts, if_neg hkey]

theorem agrees_empty : Agrees kind (empty : OpenLog κ ρ) := by
  rw [agrees_iff leads_empty]
  intro key
  rfl

/-- Opening a key keeps log and map in agreement exactly when the key is not open. -/
theorem agrees_opens_iff (hleads : Leads kind state) {entry : ρ}
    (hopen : kind.isOpen entry = true) :
    Agrees kind (state.opens kind entry) ↔
      Agrees kind state ∧ kind.keyOf entry ∉ state.places.keys := by
  rw [agrees_iff (hleads.opens hopen), agrees_iff hleads]
  simp only [openCount_opens hopen, mem_keys_opens_iff]
  constructor
  · intro hcounts
    have hkey := hcounts (kind.keyOf entry)
    simp only [true_or, if_true] at hkey
    have hmissing : kind.keyOf entry ∉ state.places.keys := by
      intro hmem
      have hpos := hleads.one_le_openCount hmem
      omega
    refine ⟨fun key => ?_, hmissing⟩
    by_cases hsame : kind.keyOf entry = key
    · subst hsame
      rw [if_neg hmissing]
      omega
    · have hother := hcounts key
      simpa only [hsame, false_or, if_false, add_zero] using hother
  · rintro ⟨hcounts, hmissing⟩ key
    by_cases hsame : kind.keyOf entry = key
    · subst hsame
      rw [hcounts, if_neg hmissing]
      simp
    · simpa only [hsame, false_or, if_false, add_zero] using hcounts key

/-- Closing a key changes nothing about the agreement. -/
theorem agrees_closes_iff (hleads : Leads kind state) {closed : κ} {change : ρ → ρ}
    (hlawful : (LogEvent.closes closed change).Lawful kind) :
    Agrees kind (state.closes closed change) ↔ Agrees kind state := by
  rw [agrees_iff (hleads.closes closed change), agrees_iff hleads]
  simp only [mem_keys_closes_iff]
  apply forall_congr'
  intro key
  have hcount := openCount_closes hleads hlawful key
  by_cases hkey : key = closed
  · subst hkey
    by_cases hmem : key ∈ state.places.keys
    · simp only [hmem, and_self, if_true] at hcount
      simp only [ne_eq, not_true_eq_false, false_and, if_false, hmem, if_true]
      omega
    · simp only [hmem, and_false, if_false, add_zero] at hcount
      simp only [ne_eq, not_true_eq_false, false_and, if_false, hmem]
      rw [hcount]
  · simp only [hkey, false_and, if_false, add_zero] at hcount
    simp only [ne_eq, hkey, not_false_eq_true, true_and]
    rw [hcount]

/-- An event keeps log and map in agreement exactly when it opens no open key. -/
theorem agrees_step_iff (hleads : Leads kind state) {event : LogEvent κ ρ}
    (hlawful : event.Lawful kind) :
    Agrees kind (state.step kind event) ↔ Agrees kind state ∧ ¬ Reopens kind (state, event) := by
  cases event with
  | opens entry => exact agrees_opens_iff hleads hlawful
  | closes closed change =>
      exact (agrees_closes_iff hleads hlawful).trans (and_iff_left id).symm

/-- Log and map agree at the end of a run exactly when they agreed at its start and no open
key has been opened again. -/
theorem agrees_runEnd_iff (hleads : Leads kind state) {events : List (LogEvent κ ρ)}
    (hlawful : ∀ event ∈ events, event.Lawful kind) :
    Agrees kind (runEnd (step kind) state events) ↔
      Agrees kind state ∧ ∀ moment ∈ moments (step kind) state events, ¬ Reopens kind moment := by
  refine holds_runEnd_iff (Leads kind) ?_ ?_ hleads
  · intro state event hevent hleads
    exact hleads.step (hlawful event hevent)
  · intro state event hevent hleads
    exact agrees_step_iff hleads (hlawful event hevent)

/-- A run keeps what the map leads to. -/
theorem leads_runEnd (hleads : Leads kind state) {events : List (LogEvent κ ρ)}
    (hlawful : ∀ event ∈ events, event.Lawful kind) :
    Leads kind (runEnd (step kind) state events) := by
  induction events generalizing state with
  | nil => exact hleads
  | cons event rest ih =>
      obtain ⟨hfirst, hrest⟩ := List.forall_mem_cons.mp hlawful
      exact ih (hleads.step hfirst) hrest

/-- An event does not change which other keys are open. -/
theorem mem_keys_step_iff_of_ne {event : LogEvent κ ρ} {key : κ} (hne : key ≠ event.key kind) :
    key ∈ (state.step kind event).places.keys ↔ key ∈ state.places.keys := by
  cases event with
  | opens entry =>
      have hother : ¬kind.keyOf entry = key := fun h => hne h.symm
      exact (mem_keys_opens_iff entry key).trans (or_iff_right hother)
  | closes closed change => exact (mem_keys_closes_iff closed change key).trans (and_iff_right hne)

/-- Events about different keys do not reopen a key exactly when none of them does at
their start. -/
theorem not_reopens_moments_iff {events : List (LogEvent κ ρ)}
    (hnodup : (events.map (LogEvent.key kind)).Nodup) :
    (∀ moment ∈ moments (step kind) state events, ¬ Reopens kind moment) ↔
      ∀ event ∈ events, ¬ Reopens kind (state, event) := by
  induction events generalizing state with
  | nil => simp
  | cons event rest ih =>
      obtain ⟨hfresh, hrest⟩ := List.nodup_cons.mp hnodup
      rw [moments_cons, List.forall_mem_cons, ih hrest, List.forall_mem_cons]
      apply and_congr_right
      intro _
      apply forall₂_congr
      intro other hother
      have hne : other.key kind ≠ event.key kind :=
        fun hsame => hfresh (hsame ▸ List.mem_map_of_mem hother)
      apply not_congr
      cases other with
      | opens entry => exact mem_keys_step_iff_of_ne hne
      | closes key change => rfl

end OpenLog

end Goveling.Math
