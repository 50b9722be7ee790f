/-
# Tasks that take turns

The tasks of a group share a state and a number of permits. A task waits for a
permit, runs with what it remembers of its job, and is done with a result. It keeps
to itself between two things that happen to it, and there any other task may come in
between. What a task does at each of its turns is enough to say what holds in every
order of the turns, how many there are, and that no order gets stuck.
-/

import Mathlib.Algebra.BigOperators.Group.List.Basic
import Mathlib.Algebra.Order.BigOperators.Group.List
import Mathlib.Algebra.Order.Ring.Nat
import Mathlib.Data.List.Forall2

namespace Goveling.Math

universe u v w x y

/-- A task waits, runs with what it remembers, or is done. -/
inductive TaskState (L : Type u) (R : Type v)
  | waiting
  | running (memory : L)
  | done (result : R)

namespace TaskState

variable {L : Type u} {R : Type v}

/-- A task goes on or ends. -/
def after : L ⊕ R → TaskState L R
  | .inl memory => running memory
  | .inr result => done result

/-- The task has a permit. -/
def isRunning : TaskState L R → Bool
  | running _ => true
  | _ => false

/-- The result of a task that is done. -/
def result? : TaskState L R → Option R
  | done result => some result
  | _ => none

end TaskState

/-- A job and how far it is. -/
structure Task (J : Type w) (L : Type u) (R : Type v) where
  job : J
  state : TaskState L R

/-- Tasks and what they share. -/
structure TaskGroup (S : Type x) (J : Type w) (L : Type u) (R : Type v) where
  shared : S
  tasks : List (Task J L R)

/-- What the tasks of a group do: what a task starts with, and what becomes of the shared state
and of the task when something happens that the task waits for. -/
structure TaskBody (S : Type x) (J : Type w) (L : Type u) (E : Type y) (R : Type v) where
  fresh : J → L
  act : J → S → L → E → Option (S × (L ⊕ R))

/-- A turn of a task: it gets a permit, or something happens to it. -/
inductive Turn (E : Type y)
  | start (task : ℕ)
  | act (task : ℕ) (event : E)

/-- The task whose turn it is. -/
def Turn.task {E : Type y} : Turn E → ℕ
  | start task => task
  | act task _ => task

section Lists

variable {A : Type u} {B : Type v} {items before after : List A} {item new : A} {index : ℕ}

/-- A place in a list divides it. -/
private theorem exists_append_of_getElem? (hitem : items[index]? = some item) :
    ∃ before after, items = before ++ item :: after ∧ before.length = index ∧
      ∀ other, items.set index other = before ++ other :: after := by
  obtain ⟨hindex, rfl⟩ := List.getElem?_eq_some_iff.mp hitem
  refine ⟨items.take index, items.drop (index + 1), ?_, List.length_take_of_le hindex.le, ?_⟩
  · rw [List.getElem_cons_drop, List.take_append_drop]
  · intro other
    rw [List.set_eq_take_append_cons_drop, if_pos hindex]

/-- What holds of all items still does when one is replaced by an item that it holds of. -/
private theorem forall_mem_replaced {P : A → Prop} (hitems : ∀ a ∈ before ++ item :: after, P a)
    (hnew : P new) : ∀ a ∈ before ++ new :: after, P a := by
  rw [List.forall_mem_append, List.forall_mem_cons] at hitems ⊢
  exact ⟨hitems.1, hnew, hitems.2.2⟩

/-- The other places of a list stay as they are. -/
private theorem getElem?_replaced (hindex : before.length ≠ index) :
    (before ++ new :: after)[index]? = (before ++ item :: after)[index]? := by
  rcases Nat.lt_or_gt_of_ne hindex with hbehind | hahead
  · rw [List.getElem?_append_right hbehind.le, List.getElem?_append_right hbehind.le]
    obtain ⟨k, hk⟩ := Nat.exists_eq_succ_of_ne_zero (Nat.sub_ne_zero_of_lt hbehind)
    rw [hk]
    rfl
  · rw [List.getElem?_append_left hahead, List.getElem?_append_left hahead]

/-- If not all items have a value, one of them has none. -/
private theorem exists_eq_none_of_mapM {f : A → Option B} (hnone : items.mapM f = none) :
    ∃ item ∈ items, f item = none := by
  induction items with
  | nil => cases hnone
  | cons first rest ih =>
      cases hfirst : f first with
      | none => exact ⟨first, List.mem_cons_self, hfirst⟩
      | some value =>
          cases hrest : rest.mapM f with
          | none =>
              obtain ⟨item, hitem, hvalue⟩ := ih hrest
              exact ⟨item, List.mem_cons_of_mem _ hitem, hvalue⟩
          | some values => simp [List.mapM_cons, hfirst, hrest] at hnone

/-- The values of all items are those of the items in their order. -/
private theorem forall₂_of_mapM_eq_some {f : A → Option B} {values : List B}
    (hvalues : items.mapM f = some values) :
    List.Forall₂ (fun item value => f item = some value) items values := by
  induction items generalizing values with
  | nil =>
      cases hvalues
      exact .nil
  | cons first rest ih =>
      rw [List.mapM_cons] at hvalues
      obtain ⟨value, hvalue, hrest⟩ := Option.bind_eq_some_iff.mp hvalues
      obtain ⟨others, hothers, hsome⟩ := Option.bind_eq_some_iff.mp hrest
      cases hsome
      exact .cons hvalue (ih hothers)

end Lists

variable {S : Type x} {J : Type w} {L : Type u} {E : Type y} {R : Type v}

namespace TaskGroup

/-- A group before its first turn. -/
def ofJobs (shared : S) (jobs : List J) : TaskGroup S J L R where
  shared := shared
  tasks := jobs.map fun job => ⟨job, .waiting⟩

/-- The jobs of a group. -/
def jobs (group : TaskGroup S J L R) : List J := group.tasks.map Task.job

/-- The number of permits that are taken. -/
def busy (group : TaskGroup S J L R) : ℕ := group.tasks.countP fun task => task.state.isRunning

/-- The results in the order of the tasks, once all of them are done. -/
def results? (group : TaskGroup S J L R) : Option (List R) :=
  group.tasks.mapM fun task => task.state.result?

/-- Tasks that have their results are done. -/
theorem exists_done_of_results? {group : TaskGroup S J L R} {results : List R}
    (hresults : group.results? = some results) {task : Task J L R} (htask : task ∈ group.tasks) :
    ∃ result, task.state = .done result := by
  obtain ⟨result, hresult⟩ : ∃ result, task.state.result? = some result := by
    obtain ⟨index, hindex, rfl⟩ := List.getElem_of_mem htask
    have hdone := forall₂_of_mapM_eq_some hresults
    exact ⟨_, hdone.get hindex (hdone.length_eq ▸ hindex)⟩
  revert hresult
  cases task.state with
  | running memory => exact nofun
  | waiting => exact nofun
  | done found => exact fun _ => ⟨found, rfl⟩

@[simp]
theorem jobs_ofJobs (shared : S) (jobs : List J) :
    (ofJobs shared jobs : TaskGroup S J L R).jobs = jobs := by
  simp [TaskGroup.jobs, ofJobs, Function.comp_def]

end TaskGroup

namespace TaskBody

variable (body : TaskBody S J L E R) (permits : ℕ)

/-- The group after a turn, if it is one. -/
def turn? (group : TaskGroup S J L R) : Turn E → Option (TaskGroup S J L R)
  | .start index =>
      match group.tasks[index]? with
      | some ⟨job, .waiting⟩ =>
          if group.busy < permits then
            some { group with tasks := group.tasks.set index ⟨job, .running (body.fresh job)⟩ }
          else none
      | _ => none
  | .act index event =>
      match group.tasks[index]? with
      | some ⟨job, .running memory⟩ =>
          (body.act job group.shared memory event).map fun next =>
            ⟨next.1, group.tasks.set index ⟨job, .after next.2⟩⟩
      | _ => none

/-- The group after turns in some order, if all of them are turns. -/
def run? (group : TaskGroup S J L R) (turns : List (Turn E)) : Option (TaskGroup S J L R) :=
  turns.foldlM (body.turn? permits) group

theorem run?_append (group : TaskGroup S J L R) (first second : List (Turn E)) :
    body.run? permits group (first ++ second) =
      (body.run? permits group first).bind fun next => body.run? permits next second :=
  List.foldlM_append

/-- A turn changes one task: it starts one for which there is a permit, or one that runs acts. -/
inductive Takes (group : TaskGroup S J L R) : Turn E → TaskGroup S J L R → Prop
  | start (before after : List (Task J L R)) (job : J)
      (htasks : group.tasks = before ++ ⟨job, .waiting⟩ :: after) (hbusy : group.busy < permits) :
      Takes group (.start before.length)
        ⟨group.shared, before ++ ⟨job, .running (body.fresh job)⟩ :: after⟩
  | act (before after : List (Task J L R)) (job : J) (memory : L) (event : E) (shared : S)
      (outcome : L ⊕ R) (htasks : group.tasks = before ++ ⟨job, .running memory⟩ :: after)
      (hact : body.act job group.shared memory event = some (shared, outcome)) :
      Takes group (.act before.length event) ⟨shared, before ++ ⟨job, .after outcome⟩ :: after⟩

variable {body permits}

theorem takes_of_turn?_eq_some {group next : TaskGroup S J L R} {turn : Turn E}
    (hturn : body.turn? permits group turn = some next) : Takes body permits group turn next := by
  cases turn with
  | start index =>
      simp only [turn?] at hturn
      split at hturn
      · rename_i job hwaiting
        obtain ⟨before, after, htasks, rfl, hset⟩ := exists_append_of_getElem? hwaiting
        split at hturn
        · rename_i hbusy
          cases hturn
          rw [hset]
          exact .start before after job htasks hbusy
        · cases hturn
      · cases hturn
  | act index event =>
      simp only [turn?] at hturn
      split at hturn
      · rename_i job memory hrunning
        obtain ⟨before, after, htasks, rfl, hset⟩ := exists_append_of_getElem? hrunning
        obtain ⟨⟨shared, outcome⟩, hact, rfl⟩ := Option.map_eq_some_iff.mp hturn
        rw [hset]
        exact .act before after job memory event shared outcome htasks hact
      · cases hturn

/-- What every turn keeps is true after all of them. -/
theorem run?_invariant (Inv : TaskGroup S J L R → Prop) {turns : List (Turn E)}
    (hturn : ∀ group next, ∀ turn ∈ turns, Inv group → Takes body permits group turn next →
      Inv next)
    {group next : TaskGroup S J L R} (hgroup : Inv group)
    (hrun : body.run? permits group turns = some next) : Inv next := by
  induction turns generalizing group with
  | nil =>
      cases hrun
      exact hgroup
  | cons turn rest ih =>
      obtain ⟨between, hfirst, hrest⟩ := Option.bind_eq_some_iff.mp hrun
      have hbetween : Inv between :=
        hturn group between turn List.mem_cons_self hgroup (takes_of_turn?_eq_some hfirst)
      exact ih (fun group next turn hmem => hturn group next turn (List.mem_cons_of_mem _ hmem))
        hbetween hrest

theorem Takes.jobs_eq {group next : TaskGroup S J L R} {turn : Turn E}
    (htakes : Takes body permits group turn next) : next.jobs = group.jobs := by
  cases htakes <;> rename_i htasks _ <;> simp [TaskGroup.jobs, htasks]

/-- Jobs do not change. -/
theorem jobs_run? {group next : TaskGroup S J L R} {turns : List (Turn E)}
    (hrun : body.run? permits group turns = some next) : next.jobs = group.jobs :=
  run?_invariant (fun other => other.jobs = group.jobs)
    (fun _ _ _ _ hjobs htakes => htakes.jobs_eq.trans hjobs) rfl hrun

end TaskBody

/-! ## What holds in every order of the turns -/

/-- What is promised of the shared state, of what a task remembers and of its result, if nothing
happens to a task that may not happen. -/
structure TaskSpec (S : Type x) (J : Type w) (L : Type u) (E : Type y) (R : Type v) where
  event : J → E → Prop
  shared : S → Prop
  memory : J → L → Prop
  result : J → R → Prop

namespace TaskSpec

variable (spec : TaskSpec S J L E R)

/-- What is promised of a task. -/
def Admits (job : J) : TaskState L R → Prop
  | .waiting => True
  | .running memory => spec.memory job memory
  | .done result => spec.result job result

/-- A turn is one that may happen to its task. -/
def Allows (jobs : List J) : Turn E → Prop
  | .start _ => True
  | .act task event => ∀ job ∈ jobs[task]?, spec.event job event

/-- What is promised of a group. -/
structure Holds (permits : ℕ) (group : TaskGroup S J L R) : Prop where
  shared : spec.shared group.shared
  tasks : ∀ task ∈ group.tasks, spec.Admits task.job task.state
  busy : group.busy ≤ permits

/-- A body keeps its promises whatever the other tasks do in between. -/
structure KeptBy (body : TaskBody S J L E R) : Prop where
  fresh : ∀ job, spec.memory job (body.fresh job)
  act : ∀ {job : J} {shared : S} {memory : L} {event : E} {shared' : S} {outcome : L ⊕ R},
    spec.event job event → spec.shared shared → spec.memory job memory →
      body.act job shared memory event = some (shared', outcome) →
        spec.shared shared' ∧ spec.Admits job (.after outcome)

variable {spec} {body : TaskBody S J L E R} {permits : ℕ}

theorem holds_ofJobs {shared : S} (hshared : spec.shared shared) (jobs : List J) :
    spec.Holds permits (TaskGroup.ofJobs shared jobs) where
  shared := hshared
  tasks := by
    intro task htask
    obtain ⟨job, -, rfl⟩ := List.mem_map.mp htask
    trivial
  busy := by
    have hbusy : (TaskGroup.ofJobs shared jobs : TaskGroup S J L R).busy = 0 :=
      List.countP_eq_zero.mpr (by simp [TaskGroup.ofJobs, TaskState.isRunning])
    rw [hbusy]
    exact Nat.zero_le _

/-- A turn that may happen keeps the promises. -/
theorem Holds.takes {group next : TaskGroup S J L R} {turn : Turn E} (hbody : spec.KeptBy body)
    (hholds : spec.Holds permits group) (hallows : spec.Allows group.jobs turn)
    (htakes : TaskBody.Takes body permits group turn next) : spec.Holds permits next := by
  obtain ⟨hshared, htasks, hpermits⟩ := hholds
  cases htakes with
  | start before after job hsplit hbusy =>
      refine ⟨hshared, ?_, ?_⟩
      · rw [hsplit] at htasks
        exact forall_mem_replaced htasks (hbody.fresh job)
      · have hmore : (⟨group.shared, before ++ ⟨job, .running (body.fresh job)⟩ :: after⟩ :
            TaskGroup S J L R).busy = group.busy + 1 := by
          simp [TaskGroup.busy, hsplit, TaskState.isRunning]
          omega
        omega
  | act before after job memory event shared outcome hsplit hact =>
      have hjob : spec.event job event := hallows job (by simp [TaskGroup.jobs, hsplit])
      have hmemory : spec.memory job memory := htasks ⟨job, .running memory⟩ (by simp [hsplit])
      obtain ⟨hnext, hadmits⟩ := hbody.act hjob hshared hmemory hact
      refine ⟨hnext, ?_, ?_⟩
      · rw [hsplit] at htasks
        exact forall_mem_replaced htasks hadmits
      · have hless : (⟨shared, before ++ ⟨job, .after outcome⟩ :: after⟩ :
            TaskGroup S J L R).busy ≤ group.busy := by
          cases outcome <;> simp [TaskGroup.busy, hsplit, TaskState.isRunning, TaskState.after]
        exact hless.trans hpermits

/-- The promises hold after turns in any order. -/
theorem Holds.run? {group next : TaskGroup S J L R} {turns : List (Turn E)}
    (hbody : spec.KeptBy body) (hholds : spec.Holds permits group)
    (hallows : ∀ turn ∈ turns, spec.Allows group.jobs turn)
    (hrun : body.run? permits group turns = some next) : spec.Holds permits next := by
  have hkept : next.jobs = group.jobs ∧ spec.Holds permits next := by
    refine TaskBody.run?_invariant
      (fun other => other.jobs = group.jobs ∧ spec.Holds permits other) ?_ ⟨rfl, hholds⟩ hrun
    rintro other after turn hturn ⟨hjobs, hother⟩ htakes
    refine ⟨htakes.jobs_eq.trans hjobs, hother.takes hbody ?_ htakes⟩
    rw [hjobs]
    exact hallows turn hturn
  exact hkept.2

/-- The results are those of the jobs, in their order. -/
theorem Holds.forall₂_results {group : TaskGroup S J L R} (hholds : spec.Holds permits group)
    {results : List R} (hresults : group.results? = some results) :
    List.Forall₂ spec.result group.jobs results := by
  have hdone := forall₂_of_mapM_eq_some hresults
  have hall : List.Forall₂ (fun task result => spec.result (Task.job task) result) group.tasks
      results := by
    refine (List.forall₂_and_left _ _).mpr ⟨fun task htask => hholds.tasks task htask, hdone⟩
      |>.imp ?_
    rintro ⟨job, state⟩ result ⟨hadmits, hstate⟩
    cases state with
    | waiting => cases hstate
    | running memory => cases hstate
    | done found =>
        cases hstate
        exact hadmits
  exact List.forall₂_map_left_iff.mpr hall

/-- As long as a task is not done there is another turn, unless there are no permits. -/
theorem Holds.exists_turn {group : TaskGroup S J L R} (hpermits : 0 < permits)
    (hacts : ∀ {job shared memory}, spec.shared shared → spec.memory job memory →
      ∃ event, spec.event job event ∧ (body.act job shared memory event).isSome = true)
    (hholds : spec.Holds permits group) (hunfinished : group.results? = none) :
    ∃ turn, spec.Allows group.jobs turn ∧ (body.turn? permits group turn).isSome = true := by
  obtain ⟨hshared, htasks, -⟩ := hholds
  by_cases hrunning : ∃ task ∈ group.tasks, task.state.isRunning = true
  · obtain ⟨⟨job, state⟩, htask, hstate⟩ := hrunning
    cases state with
    | waiting => cases hstate
    | done result => cases hstate
    | running memory =>
        obtain ⟨event, hevent, hsome⟩ := hacts hshared (htasks _ htask)
        obtain ⟨index, hindex⟩ := List.getElem?_of_mem htask
        refine ⟨.act index event, ?_, ?_⟩
        · intro other hother
          rw [TaskGroup.jobs, List.getElem?_map, hindex] at hother
          cases hother
          exact hevent
        · simp [TaskBody.turn?, hindex, hsome]
  · have hidle : group.busy = 0 := by
      refine List.countP_eq_zero.mpr fun task htask hstate => ?_
      exact hrunning ⟨task, htask, hstate⟩
    obtain ⟨⟨job, state⟩, htask, hstate⟩ := exists_eq_none_of_mapM hunfinished
    cases state with
    | done result => cases hstate
    | running memory => exact absurd ⟨_, htask, rfl⟩ hrunning
    | waiting =>
        obtain ⟨index, hindex⟩ := List.getElem?_of_mem htask
        refine ⟨.start index, trivial, ?_⟩
        simp [TaskBody.turn?, hindex, hidle, hpermits]

end TaskSpec

/-- Nothing is promised. -/
def TaskSpec.free : TaskSpec S J L E R where
  event _ _ := True
  shared _ := True
  memory _ _ := True
  result _ _ := True

theorem TaskSpec.keptBy_free (body : TaskBody S J L E R) : TaskSpec.free.KeptBy body where
  fresh _ := trivial
  act := by
    intro job shared memory event shared' outcome _ _ _ _
    refine ⟨trivial, ?_⟩
    cases outcome <;> trivial

/-- Whatever tasks do, there are never more of them at a time than permits. -/
theorem TaskSpec.holds_free {body : TaskBody S J L E R} {permits : ℕ} {shared : S}
    {jobs : List J} {turns : List (Turn E)} {group : TaskGroup S J L R}
    (hrun : body.run? permits (.ofJobs shared jobs) turns = some group) :
    (TaskSpec.free : TaskSpec S J L E R).Holds permits group := by
  have hstart : (TaskSpec.free : TaskSpec S J L E R).Holds permits
      (TaskGroup.ofJobs shared jobs) := TaskSpec.holds_ofJobs trivial jobs
  refine hstart.run? (TaskSpec.keptBy_free body) (fun turn _ => ?_) hrun
  cases turn with
  | start task => trivial
  | act task event => exact fun _ _ => trivial

/-! ## A task on its own -/

namespace TaskBody

variable (body : TaskBody S J L E R) (job : J)

/-- What becomes of the shared state, and the result, when nobody comes in between. -/
def finish? : S → L → List E → Option (S × R)
  | _, _, [] => none
  | shared, memory, event :: rest =>
      match body.act job shared memory event with
      | none => none
      | some (shared, .inl memory) => finish? shared memory rest
      | some (shared, .inr result) => if rest.isEmpty then some (shared, result) else none

variable {body job}

/-- A task on its own keeps the promises. -/
theorem finish?_keeps {spec : TaskSpec S J L E R} (hbody : spec.KeptBy body) {events : List E}
    (hevents : ∀ event ∈ events, spec.event job event) {shared shared' : S} {memory : L}
    {result : R} (hshared : spec.shared shared) (hmemory : spec.memory job memory)
    (hfinish : body.finish? job shared memory events = some (shared', result)) :
    spec.shared shared' ∧ spec.result job result := by
  induction events generalizing shared memory with
  | nil => cases hfinish
  | cons event rest ih =>
      obtain ⟨hevent, hrest⟩ := List.forall_mem_cons.mp hevents
      unfold finish? at hfinish
      split at hfinish
      · cases hfinish
      · rename_i next memory' hact
        obtain ⟨hnext, hadmits⟩ := hbody.act hevent hshared hmemory hact
        exact ih hrest hnext hadmits hfinish
      · rename_i next found hact
        split at hfinish
        · cases hfinish
          exact hbody.act hevent hshared hmemory hact
        · cases hfinish

end TaskBody

/-! ## How many turns there are -/

namespace Turn

variable (startPrice : ℕ) (price : E → ℕ)

/-- What a turn costs. -/
def cost : Turn E → ℕ
  | start _ => startPrice
  | act _ event => price event

/-- What the turns of a task cost. -/
def spentBy (task : ℕ) (turns : List (Turn E)) : ℕ :=
  ((turns.filter fun turn => turn.task = task).map (cost startPrice price)).sum

end Turn

namespace TaskBody

variable (body : TaskBody S J L E R) (startPrice : ℕ) (price : E → ℕ) (budget : L → ℕ)

/-- What a task does is paid from what it has left. -/
structure Affords : Prop where
  more : ∀ {job : J} {shared : S} {memory : L} {event : E} {shared' : S} {memory' : L},
    body.act job shared memory event = some (shared', .inl memory') →
      price event + budget memory' ≤ budget memory
  last : ∀ {job : J} {shared : S} {memory : L} {event : E} {shared' : S} {result : R},
    body.act job shared memory event = some (shared', .inr result) → price event ≤ budget memory

/-- What a task has left. -/
def funds (task : Task J L R) : ℕ :=
  match task.state with
  | .waiting => startPrice + budget (body.fresh task.job)
  | .running memory => budget memory
  | .done _ => 0

/-- What the task at some place has left. -/
def fundsAt (group : TaskGroup S J L R) (index : ℕ) : ℕ :=
  (group.tasks[index]?.map (body.funds startPrice budget)).getD 0

variable {body startPrice price budget} {permits : ℕ}

/-- A turn is paid by its task. -/
theorem Takes.cost_le (startPrice : ℕ) {group next : TaskGroup S J L R} {turn : Turn E}
    (haffords : body.Affords price budget) (htakes : Takes body permits group turn next) :
    ∃ before old new after, group.tasks = before ++ old :: after ∧
      next.tasks = before ++ new :: after ∧ before.length = turn.task ∧
      turn.cost startPrice price + body.funds startPrice budget new ≤
        body.funds startPrice budget old := by
  cases htakes with
  | start before after job htasks hbusy =>
      exact ⟨before, _, _, after, htasks, rfl, rfl, le_rfl⟩
  | act before after job memory event shared outcome htasks hact =>
      refine ⟨before, _, _, after, htasks, rfl, rfl, ?_⟩
      cases outcome with
      | inl memory' => exact haffords.more hact
      | inr result => exact haffords.last hact

/-- The turns of a task cost at most what it had at first. -/
theorem spentBy_le (startPrice : ℕ) (haffords : body.Affords price budget)
    {group next : TaskGroup S J L R} {turns : List (Turn E)}
    (hrun : body.run? permits group turns = some next) (index : ℕ) :
    Turn.spentBy startPrice price index turns + body.fundsAt startPrice budget next index ≤
      body.fundsAt startPrice budget group index := by
  induction turns generalizing group with
  | nil =>
      cases hrun
      simp [Turn.spentBy]
  | cons turn rest ih =>
      obtain ⟨between, hfirst, hrest⟩ := Option.bind_eq_some_iff.mp hrun
      have hlater := ih hrest
      obtain ⟨before, old, new, after, hold, hnew, htask, hcost⟩ :=
        (takes_of_turn?_eq_some hfirst).cost_le startPrice haffords
      by_cases hindex : turn.task = index
      · have hspent : Turn.spentBy startPrice price index (turn :: rest) =
            turn.cost startPrice price + Turn.spentBy startPrice price index rest := by
          simp [Turn.spentBy, hindex]
        have hfunds : body.fundsAt startPrice budget group index =
            body.funds startPrice budget old := by
          simp [fundsAt, hold, ← hindex, ← htask]
        have hleft : body.fundsAt startPrice budget between index =
            body.funds startPrice budget new := by
          simp [fundsAt, hnew, ← hindex, ← htask]
        omega
      · have hspent : Turn.spentBy startPrice price index (turn :: rest) =
            Turn.spentBy startPrice price index rest := by
          simp [Turn.spentBy, hindex]
        have hother : between.tasks[index]? = group.tasks[index]? := by
          rw [hold, hnew]
          exact getElem?_replaced (htask ▸ hindex)
        have hsame : body.fundsAt startPrice budget between index =
            body.fundsAt startPrice budget group index := by
          rw [fundsAt, hother, fundsAt]
        omega

/-- All turns cost at most what the tasks had at first. -/
theorem sum_cost_le (startPrice : ℕ) (haffords : body.Affords price budget)
    {group next : TaskGroup S J L R} {turns : List (Turn E)}
    (hrun : body.run? permits group turns = some next) :
    (turns.map (Turn.cost startPrice price)).sum +
        (next.tasks.map (body.funds startPrice budget)).sum ≤
      (group.tasks.map (body.funds startPrice budget)).sum := by
  induction turns generalizing group with
  | nil =>
      cases hrun
      simp
  | cons turn rest ih =>
      obtain ⟨between, hfirst, hrest⟩ := Option.bind_eq_some_iff.mp hrun
      have hlater := ih hrest
      obtain ⟨before, old, new, after, hold, hnew, -, hcost⟩ :=
        (takes_of_turn?_eq_some hfirst).cost_le startPrice haffords
      rw [hnew] at hlater
      rw [hold]
      simp only [List.map_append, List.map_cons, List.sum_append, List.sum_cons] at hlater ⊢
      omega

/-- A group of tasks with equal budgets has not more turns than these allow. -/
theorem length_turns_le (haffords : body.Affords (fun _ => 1) budget) (most : ℕ)
    (hmost : ∀ job, budget (body.fresh job) ≤ most) {shared : S} {jobs : List J}
    {next : TaskGroup S J L R} {turns : List (Turn E)}
    (hrun : body.run? permits (.ofJobs shared jobs) turns = some next) :
    turns.length ≤ jobs.length * (most + 1) := by
  have hsum := sum_cost_le 1 haffords hrun
  have hcosts : (turns.map (Turn.cost 1 fun _ => 1)).sum = turns.length := by
    have hone : turns.map (Turn.cost 1 fun _ => 1) = turns.map fun _ => 1 :=
      List.map_congr_left fun turn _ => by cases turn <;> rfl
    rw [hone]
    simp
  have hfunds : ((TaskGroup.ofJobs shared jobs : TaskGroup S J L R).tasks.map
      (body.funds 1 budget)).sum ≤ jobs.length * (most + 1) := by
    have heach : ∀ funds ∈ (TaskGroup.ofJobs shared jobs : TaskGroup S J L R).tasks.map
        (body.funds 1 budget), funds ≤ most + 1 := by
      intro funds hfunds
      obtain ⟨task, htask, rfl⟩ := List.mem_map.mp hfunds
      obtain ⟨job, -, rfl⟩ := List.mem_map.mp htask
      have hjob := hmost job
      show 1 + budget (body.fresh job) ≤ most + 1
      omega
    have hbound := List.sum_le_card_nsmul _ (most + 1) heach
    simpa [TaskGroup.ofJobs] using hbound
  omega

/-- Whatever the tasks have done, they can all be brought to their results. -/
theorem exists_results {spec : TaskSpec S J L E R} (hbody : spec.KeptBy body)
    (haffords : body.Affords (fun _ => 1) budget) (hpermits : 0 < permits)
    (hacts : ∀ {job shared memory}, spec.shared shared → spec.memory job memory →
      ∃ event, spec.event job event ∧ (body.act job shared memory event).isSome = true)
    {group : TaskGroup S J L R} (hholds : spec.Holds permits group) :
    ∃ turns next results, (∀ turn ∈ turns, spec.Allows group.jobs turn) ∧
      body.run? permits group turns = some next ∧ next.results? = some results := by
  induction hleft : (group.tasks.map (body.funds 1 budget)).sum using Nat.strong_induction_on
    generalizing group with
  | h left ih =>
      cases hresults : group.results? with
      | some results => exact ⟨[], group, results, nofun, rfl, hresults⟩
      | none =>
          obtain ⟨turn, hallows, hsome⟩ := hholds.exists_turn hpermits hacts hresults
          obtain ⟨between, hfirst⟩ := Option.isSome_iff_exists.mp hsome
          have htakes := takes_of_turn?_eq_some hfirst
          have hfirstRun : body.run? permits group [turn] = some between := by
            simp [run?, hfirst]
          have hless : (between.tasks.map (body.funds 1 budget)).sum < left := by
            have hcost := sum_cost_le 1 haffords hfirstRun
            cases turn <;> simp [Turn.cost] at hcost <;> omega
          obtain ⟨turns, next, results, hrest, hrun, hdone⟩ :=
            ih _ hless (hholds.takes hbody hallows htakes) rfl
          rw [htakes.jobs_eq] at hrest
          refine ⟨turn :: turns, next, results, List.forall_mem_cons.mpr ⟨hallows, hrest⟩, ?_,
            hdone⟩
          show (body.turn? permits group turn).bind _ = some next
          rw [hfirst]
          exact hrun

end TaskBody

end Goveling.Math
