/-
# Blocks of days laid end to end

A block takes a number of days and writes something on some of them. Blocks laid
end to end start where the one before ended, also when a number of days is
negative; then a block starts on days that are already taken. When no number is
negative the days written are all different, every block keeps its own days, and
they lie between the first day and the last.
-/

import Mathlib.Algebra.Order.BigOperators.Group.List
import Mathlib.Data.List.Nodup
import Mathlib.Data.List.Range
import Mathlib.Tactic.Linarith
import Goveling.Math.OrderedMap

namespace Goveling.Math

universe u

/-- A number of days and what is written on each of them, counted from zero. -/
structure Block (B : Type u) where
  length : ℤ
  day : ℕ → Option B

namespace Block

variable {B : Type u}

/-- The entries a block writes when it starts on a day. -/
def days (block : Block B) (start : ℤ) : List (ℤ × B) :=
  (List.range block.length.toNat).filterMap fun offset =>
    (block.day offset).map fun content => (start + offset, content)

theorem mem_days {block : Block B} {start : ℤ} {entry : ℤ × B} :
    entry ∈ block.days start ↔ ∃ offset : ℕ, (offset : ℤ) < block.length ∧
      block.day offset = some entry.2 ∧ entry.1 = start + offset := by
  simp only [days, List.mem_filterMap, List.mem_range, Option.map_eq_some_iff]
  constructor
  · rintro ⟨offset, hoffset, content, hcontent, rfl⟩
    exact ⟨offset, by omega, hcontent, rfl⟩
  · rintro ⟨offset, hoffset, hcontent, hday⟩
    exact ⟨offset, by omega, entry.2, hcontent, by rw [← hday]⟩

/-- A block stays within its days. -/
theorem bounds_of_mem_days {block : Block B} {start : ℤ} {entry : ℤ × B}
    (hmem : entry ∈ block.days start) : start ≤ entry.1 ∧ entry.1 < start + block.length := by
  obtain ⟨offset, hoffset, -, hday⟩ := mem_days.mp hmem
  omega

/-- A block writes on no day twice. -/
theorem nodup_days (block : Block B) (start : ℤ) : ((block.days start).map Prod.fst).Nodup := by
  unfold days
  rw [List.map_filterMap]
  apply List.nodup_range.filterMap
  intro i j day hi hj
  simp only [Option.mem_def, Option.map_eq_some_iff] at hi hj
  obtain ⟨-, ⟨_, -, rfl⟩, rfl⟩ := hi
  obtain ⟨-, ⟨_, -, rfl⟩, hsame⟩ := hj
  have hsame' : start + (j : ℤ) = start + (i : ℤ) := hsame
  omega

/-- What a block writes, in the order of its days. -/
def contents (block : Block B) : List B :=
  (List.range block.length.toNat).filterMap block.day

@[simp]
theorem map_snd_days (block : Block B) (start : ℤ) :
    (block.days start).map Prod.snd = block.contents := by
  unfold days contents
  rw [List.map_filterMap]
  apply congrArg (List.filterMap · _)
  funext offset
  cases block.day offset <;> rfl

/-- A block without days writes nothing. -/
theorem days_of_nonpos {block : Block B} (hlength : block.length ≤ 0) (start : ℤ) :
    block.days start = [] := by
  simp [days, Int.toNat_of_nonpos hlength]

end Block

variable {B : Type u}

/-- The days all blocks take together. -/
def totalDays (blocks : List (Block B)) : ℤ := (blocks.map Block.length).sum

@[simp]
theorem totalDays_nil : totalDays ([] : List (Block B)) = 0 := rfl

@[simp]
theorem totalDays_cons (block : Block B) (rest : List (Block B)) :
    totalDays (block :: rest) = block.length + totalDays rest := by
  simp [totalDays]

theorem totalDays_nonneg {blocks : List (Block B)} (hlength : ∀ block ∈ blocks, 0 ≤ block.length) :
    0 ≤ totalDays blocks := by
  apply List.sum_nonneg
  intro length hmem
  obtain ⟨block, hblock, rfl⟩ := List.mem_map.mp hmem
  exact hlength block hblock

/-- The entries of blocks laid end to end from a day on. -/
def laidOut : ℤ → List (Block B) → List (ℤ × B)
  | _, [] => []
  | start, block :: rest => block.days start ++ laidOut (start + block.length) rest

@[simp]
theorem laidOut_nil (start : ℤ) : laidOut start ([] : List (Block B)) = [] := rfl

@[simp]
theorem laidOut_cons (start : ℤ) (block : Block B) (rest : List (Block B)) :
    laidOut start (block :: rest) = block.days start ++ laidOut (start + block.length) rest :=
  rfl

theorem laidOut_append (start : ℤ) (first second : List (Block B)) :
    laidOut start (first ++ second) =
      laidOut start first ++ laidOut (start + totalDays first) second := by
  induction first generalizing start with
  | nil => simp
  | cons block rest ih =>
      rw [List.cons_append, laidOut_cons, laidOut_cons, ih, totalDays_cons, List.append_assoc,
        add_assoc]

/-- Laying the blocks out later moves every entry. -/
theorem laidOut_add (start shift : ℤ) (blocks : List (Block B)) :
    laidOut (start + shift) blocks =
      (laidOut start blocks).map fun entry => (entry.1 + shift, entry.2) := by
  induction blocks generalizing start with
  | nil => rfl
  | cons block rest ih =>
      have hdays : block.days (start + shift) =
          (block.days start).map fun entry => (entry.1 + shift, entry.2) := by
        unfold Block.days
        rw [List.map_filterMap]
        apply congrArg (List.filterMap · _)
        funext offset
        cases block.day offset with
        | none => rfl
        | some content => simp [add_right_comm]
      have hrest := ih (start + block.length)
      rw [add_right_comm] at hrest
      rw [laidOut_cons, laidOut_cons, List.map_append, hdays, hrest]

/-- What blocks laid end to end write. -/
theorem map_snd_laidOut (start : ℤ) (blocks : List (Block B)) :
    (laidOut start blocks).map Prod.snd = blocks.flatMap Block.contents := by
  induction blocks generalizing start with
  | nil => rfl
  | cons block rest ih =>
      rw [laidOut_cons, List.map_append, Block.map_snd_days, ih, List.flatMap_cons]

section Bounds

variable {blocks : List (Block B)} {start : ℤ}

theorem bounds_of_mem_laidOut (hlength : ∀ block ∈ blocks, 0 ≤ block.length) {entry : ℤ × B}
    (hmem : entry ∈ laidOut start blocks) :
    start ≤ entry.1 ∧ entry.1 < start + totalDays blocks := by
  induction blocks generalizing start with
  | nil => cases hmem
  | cons block rest ih =>
      have hblock := hlength block List.mem_cons_self
      have hrest : ∀ other ∈ rest, 0 ≤ other.length :=
        fun other hother => hlength other (List.mem_cons_of_mem _ hother)
      have htotal := totalDays_nonneg hrest
      rw [totalDays_cons]
      rcases List.mem_append.mp hmem with hfirst | hlater
      · have hbounds := Block.bounds_of_mem_days hfirst
        omega
      · have hbounds := ih hrest hlater
        omega

/-- Blocks laid end to end write on no day twice. -/
theorem nodup_laidOut (hlength : ∀ block ∈ blocks, 0 ≤ block.length) :
    ((laidOut start blocks).map Prod.fst).Nodup := by
  induction blocks generalizing start with
  | nil => exact List.nodup_nil
  | cons block rest ih =>
      have hrest : ∀ other ∈ rest, 0 ≤ other.length :=
        fun other hother => hlength other (List.mem_cons_of_mem _ hother)
      rw [laidOut_cons, List.map_append]
      apply List.nodup_append.mpr
      refine ⟨Block.nodup_days block start, ih hrest, ?_⟩
      intro early hearly late hlate heq
      obtain ⟨first, hfirst, rfl⟩ := List.mem_map.mp hearly
      obtain ⟨second, hsecond, rfl⟩ := List.mem_map.mp hlate
      have hbefore := (Block.bounds_of_mem_days hfirst).2
      have hafter := (bounds_of_mem_laidOut hrest hsecond).1
      omega

/-- A schedule of blocks laid end to end has their entries in order. -/
theorem entries_setAll_laidOut (hlength : ∀ block ∈ blocks, 0 ≤ block.length) :
    (OrderedMap.empty.setAll (laidOut start blocks)).entries = laidOut start blocks := by
  have hnodup : ((OrderedMap.empty : OrderedMap ℤ B).keys ++
      (laidOut start blocks).map Prod.fst).Nodup := nodup_laidOut hlength
  exact OrderedMap.entries_setAll_of_nodup hnodup

theorem values_setAll_laidOut (hlength : ∀ block ∈ blocks, 0 ≤ block.length) :
    (OrderedMap.empty.setAll (laidOut start blocks)).values = blocks.flatMap Block.contents := by
  rw [← map_snd_laidOut start]
  exact congrArg (List.map Prod.snd) (entries_setAll_laidOut hlength)

theorem keys_setAll_laidOut (hlength : ∀ block ∈ blocks, 0 ≤ block.length) :
    (OrderedMap.empty.setAll (laidOut start blocks)).keys = (laidOut start blocks).map Prod.fst :=
  congrArg (List.map Prod.fst) (entries_setAll_laidOut hlength)

/-- Blocks that write on all their days fill the days they take. -/
theorem mem_map_fst_laidOut (hlength : ∀ block ∈ blocks, 0 ≤ block.length)
    (hfull : ∀ block ∈ blocks, ∀ offset, (block.day offset).isSome) (day : ℤ) :
    day ∈ (laidOut start blocks).map Prod.fst ↔ start ≤ day ∧ day < start + totalDays blocks := by
  constructor
  · intro hmem
    obtain ⟨entry, hentry, rfl⟩ := List.mem_map.mp hmem
    exact bounds_of_mem_laidOut hlength hentry
  · induction blocks generalizing start with
    | nil =>
        intro hday
        simp only [totalDays_nil] at hday
        omega
    | cons block rest ih =>
        intro hday
        rw [totalDays_cons] at hday
        rw [laidOut_cons, List.map_append, List.mem_append]
        by_cases hearly : day < start + block.length
        · obtain ⟨content, hcontent⟩ :=
            Option.isSome_iff_exists.mp (hfull block List.mem_cons_self (day - start).toNat)
          refine .inl (List.mem_map.mpr ⟨(day, content), Block.mem_days.mpr ?_, rfl⟩)
          exact ⟨(day - start).toNat, by omega, hcontent, by omega⟩
        · apply Or.inr
          apply ih (fun other hother => hlength other (List.mem_cons_of_mem _ hother))
            (fun other hother => hfull other (List.mem_cons_of_mem _ hother))
          omega

end Bounds

/-- On its own days a schedule shows what a block writes there. -/
theorem get?_setAll_laidOut {before after : List (Block B)} {block : Block B} {start : ℤ}
    (hlength : ∀ other ∈ before ++ block :: after, 0 ≤ other.length) {offset : ℕ}
    (hoffset : (offset : ℤ) < block.length) :
    (OrderedMap.empty.setAll (laidOut start (before ++ block :: after))).get?
      (start + totalDays before + offset) = block.day offset := by
  have hentries := @entries_setAll_laidOut _ _ start hlength
  cases hday : block.day offset with
  | some content =>
      have hmem : (start + totalDays before + offset, content) ∈
          laidOut start (before ++ block :: after) := by
        rw [laidOut_append, laidOut_cons]
        apply List.mem_append_right
        apply List.mem_append_left
        exact Block.mem_days.mpr ⟨offset, hoffset, hday, rfl⟩
      rw [← hentries] at hmem
      exact OrderedMap.get?_eq_some_of_mem hmem
  | none =>
      apply Option.eq_none_iff_forall_ne_some.mpr
      intro content hfound
      have hmem := OrderedMap.mem_of_get?_eq_some hfound
      rw [hentries, laidOut_append, laidOut_cons, List.mem_append, List.mem_append] at hmem
      have hbefore : ∀ other ∈ before, 0 ≤ other.length :=
        fun other hother => hlength other (List.mem_append_left _ hother)
      have hafter : ∀ other ∈ after, 0 ≤ other.length :=
        fun other hother => hlength other (by simp [hother])
      rcases hmem with hearly | hown | hlate
      · have hbounds := bounds_of_mem_laidOut hbefore hearly
        simp only at hbounds
        omega
      · obtain ⟨other, -, hother, hsame⟩ := Block.mem_days.mp hown
        simp only at hsame
        obtain rfl : other = offset := by omega
        rw [hday] at hother
        cases hother
      · have hbounds := bounds_of_mem_laidOut hafter hlate
        simp only at hbounds
        omega

/-- The last block that has a day keeps its days, whatever the blocks before it take. -/
theorem get?_setAll_laidOut_last {before after : List (Block B)} {block : Block B} {start : ℤ}
    (hafter : ∀ other ∈ after, other.length ≤ 0) {offset : ℕ} {content : B}
    (hoffset : (offset : ℤ) < block.length) (hcontent : block.day offset = some content) :
    (OrderedMap.empty.setAll (laidOut start (before ++ block :: after))).get?
      (start + totalDays before + offset) = some content := by
  have hnone : ∀ day, laidOut day after = [] := by
    induction after with
    | nil => exact fun day => rfl
    | cons other rest ih =>
        intro day
        rw [laidOut_cons, Block.days_of_nonpos (hafter other List.mem_cons_self),
          ih fun later hlater => hafter later (List.mem_cons_of_mem _ hlater)]
        rfl
  rw [laidOut_append, laidOut_cons, hnone, List.append_nil, OrderedMap.setAll_append]
  have hmem : (start + totalDays before + offset, content) ∈
      block.days (start + totalDays before) :=
    Block.mem_days.mpr ⟨offset, hoffset, hcontent, rfl⟩
  exact OrderedMap.get?_setAll_of_mem (Block.nodup_days block _) hmem

end Goveling.Math
