/-
# Tasks that share an allowance

Something is counted of what the tasks of a group share, and each task may still add some of it.
If nothing that a task does adds more than it has given up of that, then what is counted and what
may still be added never grow together. So a body only has to keep its promises as long as what
is counted stays within a bound that the group cannot exceed.
-/

import Goveling.Math.Tasks

namespace Goveling.Math

universe u v w x y

variable {S : Type x} {J : Type w} {L : Type u} {E : Type y} {R : Type v}

namespace TaskBody

variable (body : TaskBody S J L E R) (level : S → ℕ) (ahead : J → L → ℕ)

/-- The tasks only do what keeps the level within a bound. -/
def within (bound : ℕ) : TaskBody S J L E R where
  fresh := body.fresh
  act job shared memory event :=
    (body.act job shared memory event).filter fun next => level next.1 ≤ bound

/-- What a task may still add. -/
def outstanding (task : Task J L R) : ℕ :=
  match task.state with
  | .waiting => ahead task.job (body.fresh task.job)
  | .running memory => ahead task.job memory
  | .done _ => 0

/-- The level and what all tasks may still add to it. -/
def total (group : TaskGroup S J L R) : ℕ :=
  level group.shared + (group.tasks.map (body.outstanding ahead)).sum

variable {body level ahead} {permits : ℕ} {group next : TaskGroup S J L R} {turn : Turn E}

theorem total_ofJobs (shared : S) (jobs : List J) :
    body.total level ahead (.ofJobs shared jobs) =
      level shared + (jobs.map fun job => ahead job (body.fresh job)).sum := by
  simp [total, TaskGroup.ofJobs, outstanding, Function.comp_def]

theorem level_le_total (group : TaskGroup S J L R) :
    level group.shared ≤ body.total level ahead group :=
  Nat.le_add_right _ _

/-- A turn that keeps the level within a bound is one of the tasks that do. -/
theorem Takes.within {bound : ℕ} (htakes : Takes body permits group turn next)
    (hbound : level next.shared ≤ bound) :
    Takes (body.within level bound) permits group turn next := by
  cases htakes with
  | start before after job htasks hbusy => exact .start before after job htasks hbusy
  | act before after job memory event shared outcome htasks hact =>
      refine .act before after job memory event shared outcome htasks ?_
      exact Option.filter_eq_some_iff.mpr ⟨hact, decide_eq_true hbound⟩

end TaskBody

namespace TaskSpec

variable (spec : TaskSpec S J L E R) (body : TaskBody S J L E R) (level : S → ℕ)
  (ahead : J → L → ℕ)

/-- As long as the promises are kept, what a task does adds at most what it gives up. -/
def Adds : Prop :=
  ∀ {job : J} {shared : S} {memory : L} {event : E} {shared' : S} {outcome : L ⊕ R},
    spec.memory job memory → body.act job shared memory event = some (shared', outcome) →
      level shared' + body.outstanding ahead ⟨job, .after outcome⟩ ≤
        level shared + ahead job memory

variable {spec body level ahead} {permits : ℕ} {group next : TaskGroup S J L R}

/-- A turn does not add to the total. -/
theorem Adds.takes {turn : Turn E} (hadds : spec.Adds body level ahead)
    (hholds : spec.Holds permits group)
    (htakes : TaskBody.Takes body permits group turn next) :
    body.total level ahead next ≤ body.total level ahead group := by
  cases htakes with
  | start before after job htasks hbusy => simp [TaskBody.total, TaskBody.outstanding, htasks]
  | act before after job memory event shared outcome htasks hact =>
      have hmemory : spec.memory job memory :=
        hholds.tasks ⟨job, .running memory⟩ (by simp [htasks])
      have hstep := hadds hmemory hact
      have hrunning : body.outstanding ahead ⟨job, .running memory⟩ = ahead job memory := rfl
      simp only [TaskBody.total, htasks, List.map_append, List.map_cons, List.sum_append,
        List.sum_cons, hrunning]
      omega

/-- Promises that are kept within a bound are kept in every order of the turns, if all that the
group may come to is within the bound. -/
theorem Holds.run?_within {bound : ℕ} {turns : List (Turn E)}
    (hbody : spec.KeptBy (body.within level bound)) (hadds : spec.Adds body level ahead)
    (hholds : spec.Holds permits group) (htotal : body.total level ahead group ≤ bound)
    (hallows : ∀ turn ∈ turns, spec.Allows group.jobs turn)
    (hrun : body.run? permits group turns = some next) :
    spec.Holds permits next ∧ body.total level ahead next ≤ body.total level ahead group := by
  have hkept : next.jobs = group.jobs ∧ spec.Holds permits next ∧
      body.total level ahead next ≤ body.total level ahead group := by
    refine TaskBody.run?_invariant (fun other => other.jobs = group.jobs ∧
      spec.Holds permits other ∧ body.total level ahead other ≤ body.total level ahead group)
      ?_ ⟨rfl, hholds, le_rfl⟩ hrun
    rintro other after turn hturn ⟨hjobs, hother, hless⟩ htakes
    have hafter := (hadds.takes hother htakes).trans hless
    have hbound : level after.shared ≤ bound :=
      (TaskBody.level_le_total after).trans (hafter.trans htotal)
    refine ⟨htakes.jobs_eq.trans hjobs, hother.takes hbody ?_ (htakes.within hbound), hafter⟩
    rw [hjobs]
    exact hallows turn hturn
  exact hkept.2

end TaskSpec

end Goveling.Math
