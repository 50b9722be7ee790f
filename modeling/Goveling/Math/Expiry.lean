/-
# Entries that expire

A cache whose entries are good until a time of their own is only read for those that are. Two
caches that agree on these are the same to whoever asks from then on. So an upkeep that removes
what has expired is not noticed: a run of events in the order of their times answers the same
with it and without it, and the same as one over a table from which nothing is ever removed.
-/

import Goveling.Math.OrderedMap

namespace Goveling.Math

universe u v w x y

/-! ## Runs with hidden events -/

section Hidden

variable {S : Type u} {S' : Type y} {E : Type v} {O : Type w} {τ : Type x}

/-- What a run of events answers. Events that are not visible answer nothing. -/
def repliesOf (step : S → E → S) (reply : S → E → O) (visible : E → Bool) : S → List E → List O
  | _, [] => []
  | state, event :: rest =>
      let later := repliesOf step reply visible (step state event) rest
      if visible event then reply state event :: later else later

variable (timeOf : E → Option τ)

/-- The event has this time, or none. -/
def HappensAt (event : E) (now : τ) : Prop := ∀ time ∈ timeOf event, time = now

/-- The times of the events are in order, from one on. -/
def InOrder [LE τ] : τ → List E → Prop
  | _, [] => True
  | now, event :: rest =>
      (∀ time ∈ timeOf event, now ≤ time) ∧ InOrder ((timeOf event).getD now) rest

/-- A relation between the states of two systems in which visible events are answered alike, which
hidden events of the first keep and which time does not end, for the events of a kind. -/
structure Hides (proper : E → Prop) (step : S → E → S) (reply : S → E → O)
    (otherStep : S' → E → S') (otherReply : S' → E → O) (visible : E → Bool) [LE τ]
    (Alike : τ → S → S' → Prop) : Prop where
  later : ∀ {now after state other}, now ≤ after → Alike now state other →
    Alike after state other
  answers : ∀ {now state other event}, proper event → visible event = true →
    HappensAt timeOf event now → Alike now state other →
      reply state event = otherReply other event
  keeps : ∀ {now state other event}, proper event → visible event = true →
    HappensAt timeOf event now → Alike now state other →
      Alike now (step state event) (otherStep other event)
  ignores : ∀ {now state other event}, proper event → visible event = false →
    HappensAt timeOf event now → Alike now state other → Alike now (step state event) other

theorem le_clock [Preorder τ] {now : τ} {event : E} (htime : ∀ time ∈ timeOf event, now ≤ time) :
    now ≤ (timeOf event).getD now := by
  cases hat : timeOf event with
  | none => exact le_refl now
  | some time => exact htime time hat

theorem InOrder.le_last [Preorder τ] {now : τ} {events : List E} {last : E}
    (horder : InOrder timeOf now (events ++ [last])) : ∀ time ∈ timeOf last, now ≤ time := by
  induction events generalizing now with
  | nil => exact horder.1
  | cons event rest ih =>
      intro time hlast
      exact (le_clock timeOf horder.1).trans (ih horder.2 time hlast)

variable {timeOf} {proper : E → Prop} {step : S → E → S} {reply : S → E → O}
  {otherStep : S' → E → S'} {otherReply : S' → E → O} {visible : E → Bool} [Preorder τ]
  {Alike : τ → S → S' → Prop}

/-- A run answers as the other system does without the hidden events. -/
theorem repliesOf_filter
    (hhides : Hides timeOf proper step reply otherStep otherReply visible Alike) {now : τ}
    {state : S} {other : S'} {events : List E} (hproper : ∀ event ∈ events, proper event)
    (horder : InOrder timeOf now events) (halike : Alike now state other) :
    repliesOf step reply visible state events =
      repliesOf otherStep otherReply visible other (events.filter visible) := by
  induction events generalizing now state other with
  | nil => rfl
  | cons event rest ih =>
      obtain ⟨hevent, hothers⟩ := List.forall_mem_cons.mp hproper
      obtain ⟨htime, hrest⟩ := horder
      have hhappens : HappensAt timeOf event ((timeOf event).getD now) := by
        intro time hat
        rw [Option.mem_def.mp hat]
        rfl
      have hnow := hhides.later (le_clock timeOf htime) halike
      rw [List.filter_cons]
      cases hvisible : visible event with
      | true =>
          rw [if_pos rfl]
          simp only [repliesOf, hvisible, if_true]
          rw [hhides.answers hevent hvisible hhappens hnow,
            ih hothers hrest (hhides.keeps hevent hvisible hhappens hnow)]
      | false =>
          rw [if_neg Bool.false_ne_true]
          simp only [repliesOf, hvisible, Bool.false_eq_true, if_false]
          exact ih hothers hrest (hhides.ignores hevent hvisible hhappens hnow)

end Hidden

/-! ## Good entries -/

section Good

variable {κ : Type u} {β : Type v} {τ : Type w} [DecidableEq κ] (good : τ → β → Bool)

/-- The value under a key, if it is good. -/
def OrderedMap.good? (m : OrderedMap κ β) (key : κ) (now : τ) : Option β :=
  (m.get? key).filter (good now)

/-- What is good in one map is good in the other. -/
def GoodAlike (now : τ) (m m' : OrderedMap κ β) : Prop :=
  ∀ key, m.good? good key now = m'.good? good key now

/-- What is no longer good does not become good again. -/
def Expires [LE τ] : Prop :=
  ∀ ⦃now after : τ⦄ ⦃value : β⦄, now ≤ after → good after value = true → good now value = true

variable {good} {now : τ} {m m' : OrderedMap κ β}

theorem GoodAlike.refl (m : OrderedMap κ β) : GoodAlike good now m m := fun _ => rfl

theorem GoodAlike.trans {m'' : OrderedMap κ β} (hfirst : GoodAlike good now m m')
    (hsecond : GoodAlike good now m' m'') : GoodAlike good now m m'' :=
  fun key => (hfirst key).trans (hsecond key)

theorem GoodAlike.symm (halike : GoodAlike good now m m') : GoodAlike good now m' m :=
  fun key => (halike key).symm

/-- What is good later is among what is good now. -/
theorem Expires.filter_later [LE τ] (hexpires : Expires good) {after : τ} (hle : now ≤ after)
    (value : Option β) : value.filter (good after) =
      (value.filter (good now)).filter (good after) := by
  rw [Option.filter_filter]
  congr 1
  funext found
  cases hgood : good after found with
  | false => rw [Bool.and_false]
  | true => rw [hexpires hle hgood, Bool.and_true]

theorem GoodAlike.later [LE τ] (hexpires : Expires good) {after : τ} (hle : now ≤ after)
    (halike : GoodAlike good now m m') : GoodAlike good after m m' := by
  intro key
  unfold OrderedMap.good?
  rw [hexpires.filter_later hle, hexpires.filter_later hle (m'.get? key)]
  exact congrArg _ (halike key)

theorem OrderedMap.good?_set (m : OrderedMap κ β) (key : κ) (value : β) (other : κ) :
    (m.set key value).good? good other now =
      if other = key then (some value).filter (good now) else m.good? good other now := by
  unfold OrderedMap.good?
  rw [OrderedMap.get?_set]
  split <;> rfl

theorem GoodAlike.set (halike : GoodAlike good now m m') (key : κ) (value : β) :
    GoodAlike good now (m.set key value) (m'.set key value) := by
  intro other
  rw [OrderedMap.good?_set, OrderedMap.good?_set, halike other]

theorem OrderedMap.good?_filter (m : OrderedMap κ β) (keep : κ × β → Bool) (key : κ) :
    (m.filter keep).good? good key now =
      (m.good? good key now).filter fun value => keep (key, value) := by
  unfold OrderedMap.good?
  rw [OrderedMap.get?_filter, Option.filter_filter, Option.filter_filter]
  congr 1
  funext value
  exact Bool.and_comm _ _

/-- Removing the same from both. -/
theorem GoodAlike.filter (halike : GoodAlike good now m m') (keep : κ × β → Bool) :
    GoodAlike good now (m.filter keep) (m'.filter keep) := by
  intro key
  rw [OrderedMap.good?_filter, OrderedMap.good?_filter, halike key]

/-- Removing nothing that is good. -/
theorem goodAlike_filter {keep : κ × β → Bool}
    (hkeep : ∀ key value, good now value = true → keep (key, value) = true) :
    GoodAlike good now (m.filter keep) m := by
  intro key
  rw [OrderedMap.good?_filter]
  cases hgood : m.good? good key now with
  | none => rfl
  | some value => exact if_pos (hkeep key value (Option.filter_eq_some_iff.mp hgood).2)

/-- Removing a key that has nothing good. -/
theorem goodAlike_erase {key : κ} (hnone : m.good? good key now = none) :
    GoodAlike good now (m.erase key) m := by
  intro other
  by_cases hother : other = key
  · subst hother
    rw [hnone, OrderedMap.good?, OrderedMap.get?_erase, if_pos rfl]
    rfl
  · unfold OrderedMap.good?
    rw [OrderedMap.get?_erase, if_neg hother]

theorem OrderedMap.good?_eq_some_iff {entry : κ × β} :
    m.good? good entry.1 now = some entry.2 ↔ entry ∈ m.entries ∧ good now entry.2 = true := by
  rw [OrderedMap.good?, Option.filter_eq_some_iff]
  refine and_congr_left fun _ => ⟨?_, OrderedMap.get?_eq_some_of_mem⟩
  exact OrderedMap.mem_of_get?_eq_some

/-- The entries that are good when they are looked at are the same, in some order. -/
theorem GoodAlike.perm [LE τ] (hexpires : Expires good) (halike : GoodAlike good now m m')
    {clock : κ → τ} (hclock : ∀ key, now ≤ clock key) :
    (m.entries.filter fun entry => good (clock entry.1) entry.2).Perm
      (m'.entries.filter fun entry => good (clock entry.1) entry.2) := by
  have hnodup : ∀ some : OrderedMap κ β,
      (some.entries.filter fun entry => good (clock entry.1) entry.2).Nodup :=
    fun some => some.nodup.of_map.filter _
  refine (List.perm_ext_iff_of_nodup (hnodup m) (hnodup m')).mpr fun entry => ?_
  rw [List.mem_filter, List.mem_filter, ← OrderedMap.good?_eq_some_iff,
    ← OrderedMap.good?_eq_some_iff, halike.later hexpires (hclock entry.1) entry.1]

end Good

end Goveling.Math
