/-
# Caches that know where their answers come from

A cache keeps answers under keys that say less than the queries. Here every
answer also remembers the query it was computed for, which no lookup reads. Along
a run whose steps drop answers, or store answers that are right for their own
queries, every stored answer stays right for the query that it was computed for.
Whether it is right for another query is then a question about the two queries.
-/

import Goveling.Math.OrderedMap
import Goveling.Math.Runs

namespace Goveling.Math

universe u v w x y

/-- An answer with the query it was computed for and the time it is kept by. -/
structure Traced (Q : Type u) (V : Type v) (τ : Type w) where
  origin : Q
  answer : V
  stamp : τ

/-- A cache of traced answers. -/
abbrev TracedMap (K : Type x) (Q : Type u) (V : Type v) (τ : Type w) :=
  OrderedMap K (Traced Q V τ)

namespace TracedMap

variable {K : Type x} {Q : Type u} {V : Type v} {τ : Type w} {right : Q → V → Prop}

/-- Every answer is right for the query it was computed for. -/
def Sound (right : Q → V → Prop) (cache : TracedMap K Q V τ) : Prop :=
  ∀ entry ∈ cache.entries, right entry.2.origin entry.2.answer

theorem sound_empty : Sound right (OrderedMap.empty : TracedMap K Q V τ) := by
  intro entry hentry
  cases hentry

section Served

variable {served : Option (Traced Q V τ)} {promise : Prop} {agrees : Traced Q V τ → Prop}

/-- What a query is promised depends on the entry that it is served from. -/
theorem iff_of_served {entry : Traced Q V τ} (hserved : served = some entry)
    (hiff : promise ↔ agrees entry) :
    promise ↔ ∀ other, served = some other → agrees other := by
  rw [hserved, hiff]
  constructor
  · intro hagrees other hother
    cases hother
    exact hagrees
  · intro hall
    apply hall
    rfl

/-- A promise that is kept without the cache says nothing about its entries. -/
theorem iff_of_not_served (hserved : served = none) (hkept : promise) :
    promise ↔ ∀ other, served = some other → agrees other := by
  apply iff_of_true hkept
  intro other hother
  rw [hserved] at hother
  cases hother

end Served

section Adding

variable {good : K × Traced Q V τ → Prop}

/-- A step may drop entries, and the ones it adds are good. -/
def Adds (good : K × Traced Q V τ → Prop) (before after : TracedMap K Q V τ) : Prop :=
  ∀ entry ∈ after.entries, entry ∈ before.entries ∨ good entry

theorem Adds.refl (cache : TracedMap K Q V τ) : Adds good cache cache :=
  fun _ hentry => .inl hentry

theorem Adds.trans {before between after : TracedMap K Q V τ} (hfirst : Adds good before between)
    (hsecond : Adds good between after) : Adds good before after := by
  intro entry hentry
  rcases hsecond entry hentry with hold | hnew
  · exact hfirst entry hold
  · exact .inr hnew

/-- Along a run of steps that add good entries all entries are good. -/
theorem good_moments {S : Type u} {E : Type y} {step : S → E → S}
    (cacheOf : S → TracedMap K Q V τ) {events : List E} {start : S}
    (hstep : ∀ state, ∀ event ∈ events, Adds good (cacheOf state) (cacheOf (step state event)))
    (hstart : ∀ entry ∈ (cacheOf start).entries, good entry) :
    ∀ moment ∈ moments step start events,
      (∀ entry ∈ (cacheOf moment.1).entries, good entry) ∧ moment.2 ∈ events := by
  induction events generalizing start with
  | nil => simp
  | cons event rest ih =>
      refine List.forall_mem_cons.mpr ⟨⟨hstart, List.mem_cons_self⟩, fun moment hmoment => ?_⟩
      have hnext : ∀ entry ∈ (cacheOf (step start event)).entries, good entry := by
        intro entry hentry
        rcases hstep start event List.mem_cons_self entry hentry with hold | hnew
        · exact hstart entry hold
        · exact hnew
      obtain ⟨hgood, hmem⟩ :=
        ih (fun state other hother => hstep state other (List.mem_cons_of_mem _ hother)) hnext
          moment hmoment
      exact ⟨hgood, List.mem_cons_of_mem _ hmem⟩

end Adding

variable [DecidableEq K] {cache : TracedMap K Q V τ}

theorem adds_erase {good : K × Traced Q V τ → Prop} (cache : TracedMap K Q V τ) (key : K) :
    Adds good cache (OrderedMap.erase cache key) :=
  fun _ hentry => .inl (List.mem_of_mem_filter hentry)

theorem adds_set {good : K × Traced Q V τ → Prop} (cache : TracedMap K Q V τ) {key : K}
    {traced : Traced Q V τ} (hgood : good (key, traced)) :
    Adds good cache (OrderedMap.set cache key traced) := by
  intro entry hentry
  rcases OrderedMap.mem_setEntries hentry with rfl | hold
  · exact .inr hgood
  · exact .inl hold

theorem Sound.set (hsound : Sound right cache) {traced : Traced Q V τ}
    (hright : right traced.origin traced.answer) (key : K) :
    Sound right (OrderedMap.set cache key traced) := by
  have hadds : Adds (fun entry => right entry.2.origin entry.2.answer) cache
      (OrderedMap.set cache key traced) := adds_set cache hright
  intro entry hentry
  rcases hadds entry hentry with hold | hnew
  · exact hsound entry hold
  · exact hnew

/-- What is found is right for the query it was computed for. -/
theorem Sound.right_of_get? (hsound : Sound right cache) {key : K} {traced : Traced Q V τ}
    (hfound : OrderedMap.get? cache key = some traced) : right traced.origin traced.answer :=
  hsound _ (OrderedMap.mem_of_get?_eq_some hfound)

/-- A step leaves the cache alone or stores an answer that is right for its query. -/
def Stores (right : Q → V → Prop) (before after : TracedMap K Q V τ) : Prop :=
  after = before ∨
    ∃ key traced, right traced.origin traced.answer ∧ after = OrderedMap.set before key traced

theorem Sound.of_stores (hsound : Sound right cache) {after : TracedMap K Q V τ}
    (hstores : Stores right cache after) : Sound right after := by
  rcases hstores with rfl | ⟨key, traced, hright, rfl⟩
  · exact hsound
  · exact hsound.set hright key

section Runs

variable {S : Type u} {E : Type y} {step : S → E → S} (cacheOf : S → TracedMap K Q V τ)
  {events : List E} {start : S}

/-- Along a run of steps that keep an invariant and store right answers under it, every
cache is sound. -/
theorem sound_moments_of_invariant {Inv : S → Prop}
    (hstep : ∀ state, Inv state → ∀ event ∈ events,
      Inv (step state event) ∧ Stores right (cacheOf state) (cacheOf (step state event)))
    (hinv : Inv start) (hstart : Sound right (cacheOf start)) :
    ∀ moment ∈ moments step start events,
      Inv moment.1 ∧ Sound right (cacheOf moment.1) ∧ moment.2 ∈ events := by
  induction events generalizing start with
  | nil => simp
  | cons event rest ih =>
      obtain ⟨hnext, hstores⟩ := hstep start hinv event List.mem_cons_self
      refine List.forall_mem_cons.mpr ⟨⟨hinv, hstart, List.mem_cons_self⟩, fun moment hmoment => ?_⟩
      have hrest : ∀ state, Inv state → ∀ event ∈ rest,
          Inv (step state event) ∧ Stores right (cacheOf state) (cacheOf (step state event)) :=
        fun state hstate event hevent => hstep state hstate event (List.mem_cons_of_mem _ hevent)
      obtain ⟨hkept, hsound, hmem⟩ := ih hrest hnext (hstart.of_stores hstores) moment hmoment
      exact ⟨hkept, hsound, List.mem_cons_of_mem _ hmem⟩

/-- Along a run of steps that store right answers every cache is sound. -/
theorem sound_moments
    (hstep : ∀ state, ∀ event ∈ events, Stores right (cacheOf state) (cacheOf (step state event)))
    (hstart : Sound right (cacheOf start)) :
    ∀ moment ∈ moments step start events, Sound right (cacheOf moment.1) ∧ moment.2 ∈ events := by
  have htrue : ∀ state, True → ∀ event ∈ events,
      True ∧ Stores right (cacheOf state) (cacheOf (step state event)) :=
    fun state _ event hevent => ⟨trivial, hstep state event hevent⟩
  intro moment hmoment
  exact (sound_moments_of_invariant cacheOf htrue trivial hstart moment hmoment).2

end Runs

end TracedMap

end Goveling.Math
