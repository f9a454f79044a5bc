import Ndk.Test.Basic
import Mathlib.Data.List.Perm.Basic

/-!
# `ShardingWorkQueue`: a task queue per device group, one result queue

`ShardingWorkQueue.__init__` makes, for each device group, a task queue and a `WorkQueue`
whose workers are bound to the devices of the group; all of them put their values on one
result queue. `ndk.workqueue` is not part of the sources, and its workers are modelled from
the spec: each is bound for its lifetime to one device and to the task queue it was given;
when idle it takes the next task of that queue, and for each task it puts exactly one value
on the result queue, the task's return value or a `TaskError`.

A run is any list of actions: `add_task` calls, worker steps (with what the device
answered) and `get_result` calls, interleaved in any order; an action that would block is
not taken. Besides the queues, a state records what happened: every task submitted with its
group, every execution with its device, what `get_result` returned and the `TaskError`s it
raised.

* `Shard.inv_run`: `Shard.Inv` holds after every run from the constructor.
* `shardingWorkQueue_run`: a task only runs on a device of its group; `num_tasks` counts the
  tasks queued, running or waiting on the result queue and the `TaskError`s raised; an
  `add_task` on an unknown group raises `KeyError` and changes nothing; with no `TaskError`
  raised, `finished()` holds exactly when every task's result was returned once.
-/

namespace Ndk

/-- A `Task`: the arguments of one `add_task` call, numbered in call order. -/
structure Task (α : Type) where
  id : ℕ
  arg : α
  deriving DecidableEq

/-- What a worker puts on the result queue for a task. -/
inductive Value (α β : Type)
  | result (task : Task α) (value : β)
  | taskError (task : Task α)

/-- The task a value is for. -/
def Value.task {α β : Type} : Value α β → Task α
  | result t _ | taskError t => t

/-- A worker of a `WorkQueue`: its device (`worker.data[0]`), the task queue it takes from
and the task it is running. -/
structure Worker (D α : Type) where
  device : D
  queue : ℕ
  busy : Option (Task α)

/-- A `ShardingWorkQueue` and the record of what happened to its tasks (`submitted`,
`executed`, `returned`, `raised`), which no step reads. -/
structure Shard (D α β : Type) where
  taskQueues : Dict (DeviceGroup D) ℕ
  queues : List (List (Task α))
  workers : List (Worker D α)
  resultQueue : List (Value α β)
  numTasks : ℤ
  submitted : List (Task α × DeviceGroup D)
  executed : List (Task α × D)
  returned : List (Task α × β)
  raised : List (Task α)

/-- What a worker action can be: a device's answer is part of the finishing step. -/
inductive Action (D α Ω : Type)
  | addTask (group : DeviceGroup D) (arg : α)
  | take (worker : ℕ)
  | finish (worker : ℕ) (outcome : Ω)
  | getResult

variable {D α β Ω : Type} [DecidableEq D]

/-- One group of `ShardingWorkQueue.__init__`: a new task queue, stored under the group, and
a `WorkQueue` of `procs_per_device` workers per device of the group, taking from it. -/
def addGroup (procsPerDevice : ℕ)
    (s : Dict (DeviceGroup D) ℕ × List (List (Task α)) × List (Worker D α))
    (group : DeviceGroup D) : Dict (DeviceGroup D) ℕ × List (List (Task α)) × List (Worker D α) :=
  let (taskQueues, queues, workers) := s
  let q := queues.length
  (taskQueues.setItem group q, queues ++ [[]],
    workers ++ group.devices.flatMap fun device => List.replicate procsPerDevice ⟨device, q, none⟩)

/-- `ShardingWorkQueue(device_groups, procs_per_device)`. -/
def ShardingWorkQueue.init (deviceGroups : List (DeviceGroup D)) (procsPerDevice : ℕ) :
    Shard D α β :=
  let (taskQueues, queues, workers) := deviceGroups.foldl (addGroup procsPerDevice) (.empty, [], [])
  ⟨taskQueues, queues, workers, [], 0, [], [], [], []⟩

namespace Shard

/-- `add_task(group, func, *args)`: `KeyError` for a group the constructor was not given. -/
def addTask (s : Shard D α β) (group : DeviceGroup D) (arg : α) : Except PyError (Shard D α β) := do
  let q ← s.taskQueues.getItem group
  let task : Task α := ⟨s.submitted.length, arg⟩
  pure { s with queues := s.queues.modify (· ++ [task]) q, numTasks := s.numTasks + 1,
                submitted := s.submitted ++ [(task, group)] }

/-- `get_result()`: the next value of the result queue, a `TaskError` being raised; `none`
while the queue is empty, where the call blocks. -/
def getResult (s : Shard D α β) : Option (Except PyError β × Shard D α β) :=
  match s.resultQueue with
  | [] => none
  | .taskError t :: rest => some (.error .taskError, { s with resultQueue := rest, raised := s.raised ++ [t] })
  | .result t v :: rest => some (.ok v, { s with resultQueue := rest, numTasks := s.numTasks - 1,
                                                  returned := s.returned ++ [(t, v)] })

/-- `finished()`. -/
def finished (s : Shard D α β) : Bool := s.numTasks = 0

/-- Worker `i`, when idle, takes the next task of its queue; `none` when it is busy or its
queue is empty. -/
def take (s : Shard D α β) (i : ℕ) : Option (Shard D α β) :=
  match s.workers[i]? with
  | some w =>
    match w.busy, (s.queues[w.queue]?).getD [] with
    | none, task :: _ =>
      some { s with queues := s.queues.modify List.tail w.queue,
                    workers := s.workers.modify (fun w => { w with busy := some task }) i,
                    executed := s.executed ++ [(task, w.device)] }
    | _, _ => none
  | none => none

/-- Worker `i` finishes its task and puts one value on the result queue: `perform` is what the
task's function returns on the worker's device given the device's answer, `none` when it
raises. -/
def finish (perform : D → α → Ω → Option β) (s : Shard D α β) (i : ℕ) (o : Ω) :
    Option (Shard D α β) :=
  match s.workers[i]? with
  | some ⟨device, _, some task⟩ =>
    some { s with workers := s.workers.modify (fun w => { w with busy := none }) i,
                  resultQueue := s.resultQueue ++ [match perform device task.arg o with
                    | some v => .result task v
                    | none => .taskError task] }
  | _ => none

/-- One action; an `add_task` that raises and an action that would block change nothing. -/
def step (perform : D → α → Ω → Option β) (s : Shard D α β) : Action D α Ω → Shard D α β
  | .addTask g a => match s.addTask g a with
    | .ok s' => s'
    | .error _ => s
  | .take i => (s.take i).getD s
  | .finish i o => (s.finish perform i o).getD s
  | .getResult => match s.getResult with
    | some (_, s') => s'
    | none => s

/-- A run: the actions in order. -/
def run (perform : D → α → Ω → Option β) (s : Shard D α β) (acts : List (Action D α Ω)) :
    Shard D α β :=
  acts.foldl (step perform) s

/-- The tasks on the task queues. -/
def queued (s : Shard D α β) : List (Task α) := s.queues.flatMap id

/-- The tasks the workers are running. -/
def running (s : Shard D α β) : List (Task α) := s.workers.flatMap fun w => w.busy.toList

/-- The tasks whose value waits on the result queue. -/
def waiting (s : Shard D α β) : List (Task α) := s.resultQueue.map Value.task

/-- What holds in every state of a run: the task queues stored in the dict exist, a worker
only serves groups its device belongs to, each queued task sits in its group's queue, each
execution was on a device of the task's group, every submitted task is in exactly one place,
every task taken by a worker was taken once, and `num_tasks` is the number of tasks
submitted and not returned. -/
structure Inv (s : Shard D α β) : Prop where
  queue_lt : ∀ g q, (g, q) ∈ s.taskQueues.items → q < s.queues.length
  bound : ∀ w ∈ s.workers, ∀ g, (g, w.queue) ∈ s.taskQueues.items → w.device ∈ g.devices
  queued_group : ∀ q, ∀ task ∈ (s.queues[q]?).getD [],
    ∃ g, (task, g) ∈ s.submitted ∧ (g, q) ∈ s.taskQueues.items
  executed_on : ∀ task d, (task, d) ∈ s.executed → ∃ g, (task, g) ∈ s.submitted ∧ d ∈ g.devices
  conserve : (s.submitted.map Prod.fst).Perm
    (s.queued ++ s.running ++ s.waiting ++ s.returned.map Prod.fst ++ s.raised)
  taken : (s.executed.map Prod.fst).Perm
    (s.running ++ s.waiting ++ s.returned.map Prod.fst ++ s.raised)
  count : s.numTasks = s.submitted.length - s.returned.length

end Shard

/-! ### Lists changed at one place -/

section Modify

variable {γ δ : Type}

/-- An element of `l.modify f i` is one of `l`, or `f` of the element at `i`. -/
theorem mem_modify_at {f : γ → γ} : ∀ {l : List γ} {i : ℕ} {x : γ},
    x ∈ l.modify f i → x ∈ l ∨ ∃ a, l[i]? = some a ∧ x = f a
  | [], _, _, h => by simp at h
  | a :: l, 0, x, h => by
    rcases List.mem_cons.1 (by simpa using h) with rfl | h
    · exact .inr ⟨a, by simp, rfl⟩
    · exact .inl (List.mem_cons_of_mem _ h)
  | a :: l, i + 1, x, h => by
    rcases List.mem_cons.1 (by simpa using h) with rfl | h
    · exact .inl (List.mem_cons_self _ _)
    · rcases mem_modify_at h with h | ⟨b, hb, rfl⟩
      · exact .inl (List.mem_cons_of_mem _ h)
      · exact .inr ⟨b, by simpa using hb, rfl⟩

theorem mem_modify {f : γ → γ} : ∀ {l : List γ} {i : ℕ} {x : γ},
    x ∈ l.modify f i → x ∈ l ∨ ∃ a ∈ l, x = f a :=
  fun h => (mem_modify_at h).imp_right fun ⟨a, ha, hx⟩ => ⟨a, List.getElem?_mem ha, hx⟩

/-- Changing the element at `i` from `a` to `f a` changes the concatenation by as much. -/
theorem flatMap_modify_perm {f : γ → γ} {g : γ → List δ} : ∀ {l : List γ} {i : ℕ} {a : γ},
    l[i]? = some a → ((l.modify f i).flatMap g ++ g a).Perm (l.flatMap g ++ g (f a))
  | [], _, _, h => by simp at h
  | b :: l, 0, a, h => by
    obtain rfl : b = a := by simpa using h
    classical
    simp only [List.modify_zero_cons, List.flatMap_cons]
    exact List.perm_iff_count.2 fun x => by simp only [List.count_append]; omega
  | b :: l, i + 1, a, h => by
    simpa using (flatMap_modify_perm (by simpa using h)).append_left (g b)

end Modify

namespace Shard

variable {perform : D → α → Ω → Option β} {s s' : Shard D α β}

/-! ### One lemma per action: what it does, then that it keeps `Inv` -/

theorem addTask_eq_ok {g : DeviceGroup D} {a : α} (h : s.addTask g a = .ok s') :
    ∃ q, (g, q) ∈ s.taskQueues.items ∧
      s' = { s with queues := s.queues.modify (· ++ [⟨s.submitted.length, a⟩]) q,
                    numTasks := s.numTasks + 1,
                    submitted := s.submitted ++ [(⟨s.submitted.length, a⟩, g)] } := by
  unfold addTask at h
  cases hq : s.taskQueues.getItem g with
  | error e => simp [hq] at h
  | ok q => simp [hq] at h; exact ⟨q, Dict.getItem_eq_ok.1 hq, h.symm⟩

omit [DecidableEq D] in
theorem take_eq_some {i : ℕ} (h : s.take i = some s') :
    ∃ w task rest, s.workers[i]? = some w ∧ w.busy = none ∧ s.queues[w.queue]? = some (task :: rest) ∧
      s' = { s with queues := s.queues.modify List.tail w.queue,
                    workers := s.workers.modify (fun w => { w with busy := some task }) i,
                    executed := s.executed ++ [(task, w.device)] } := by
  unfold take at h
  split at h
  · next w hw =>
    split at h
    · next task rest hb hq =>
      refine ⟨w, task, rest, hw, hb, ?_, (Option.some.inj h).symm⟩
      cases hq' : s.queues[w.queue]? <;> simp_all
    · cases h
  · cases h

omit [DecidableEq D] in
theorem finish_eq_some {i : ℕ} {o : Ω} (h : s.finish perform i o = some s') :
    ∃ w task, s.workers[i]? = some w ∧ w.busy = some task ∧
      s' = { s with workers := s.workers.modify (fun w => { w with busy := none }) i,
                    resultQueue := s.resultQueue ++ [match perform w.device task.arg o with
                      | some v => .result task v
                      | none => .taskError task] } := by
  unfold finish at h
  split at h
  · next device q task hw => exact ⟨_, task, hw, rfl, (Option.some.inj h).symm⟩
  · cases h

omit [DecidableEq D] in
theorem getResult_eq_some {r : Except PyError β} (h : s.getResult = some (r, s')) :
    (∃ t rest, s.resultQueue = .taskError t :: rest ∧ r = .error .taskError ∧
      s' = { s with resultQueue := rest, raised := s.raised ++ [t] }) ∨
    (∃ t v rest, s.resultQueue = .result t v :: rest ∧ r = .ok v ∧
      s' = { s with resultQueue := rest, numTasks := s.numTasks - 1,
                    returned := s.returned ++ [(t, v)] }) := by
  unfold getResult at h
  split at h
  · cases h
  · next t rest hq => cases h; exact .inl ⟨t, rest, hq, rfl, rfl⟩
  · next t v rest hq => cases h; exact .inr ⟨t, v, rest, hq, rfl, rfl⟩

theorem Inv.addTask (hi : s.Inv) {g : DeviceGroup D} {a : α} (h : s.addTask g a = .ok s') :
    s'.Inv := by
  classical
  obtain ⟨q, hq, rfl⟩ := addTask_eq_ok h
  obtain ⟨Q, hQ⟩ : ∃ Q, s.queues[q]? = some Q :=
    ⟨_, List.getElem?_eq_getElem (hi.queue_lt _ _ hq)⟩
  have hperm : ((s.queues.modify (· ++ [⟨s.submitted.length, a⟩]) q).flatMap id ++ id Q).Perm
      (s.queues.flatMap id ++ id (Q ++ [⟨s.submitted.length, a⟩])) := flatMap_modify_perm hQ
  refine ⟨by simpa using hi.queue_lt, hi.bound, fun q' task ht => ?_,
    fun task d hd => ?_, ?_, hi.taken, ?_⟩
  · rw [List.getElem?_modify] at ht
    by_cases hqq : q = q'
    · subst hqq
      rw [hQ] at ht
      have ht' : task ∈ Q ∨ task = ⟨s.submitted.length, a⟩ := by simpa using ht
      rcases ht' with ht | rfl
      · obtain ⟨g', hg', hq'⟩ := hi.queued_group q task (by simpa [hQ] using ht)
        exact ⟨g', List.mem_append_left _ hg', hq'⟩
      · exact ⟨g, by simp, hq⟩
    · obtain ⟨g', hg', hq'⟩ := hi.queued_group q' task (by
        cases hq'' : s.queues[q']? <;> simp_all)
      exact ⟨g', List.mem_append_left _ hg', hq'⟩
  · obtain ⟨g', hg', hd'⟩ := hi.executed_on task d hd
    exact ⟨g', List.mem_append_left _ hg', hd'⟩
  · refine List.perm_iff_count.2 fun x => ?_
    have h0 := List.perm_iff_count.1 hi.conserve x
    have h1 := List.perm_iff_count.1 hperm x
    simp only [queued, running, waiting, List.map_append, List.count_append, id] at h0 h1 ⊢
    simp only [List.map_cons, List.map_nil]
    omega
  · have := hi.count
    simp only [List.length_append, List.length_singleton] at this ⊢
    push_cast; omega

omit [DecidableEq D] in
/-- Setting a worker's `busy` keeps its device and queue. -/
theorem mem_modify_busy {ws : List (Worker D α)} {i : ℕ} {b : Option (Task α)} {w' : Worker D α}
    (h : w' ∈ ws.modify (fun w => { w with busy := b }) i) :
    ∃ w ∈ ws, w'.device = w.device ∧ w'.queue = w.queue := by
  rcases mem_modify h with h | ⟨w, hw, rfl⟩
  · exact ⟨w', h, rfl, rfl⟩
  · exact ⟨w, hw, rfl, rfl⟩

omit [DecidableEq D] in
theorem Inv.take (hi : s.Inv) {i : ℕ} (h : s.take i = some s') : s'.Inv := by
  classical
  obtain ⟨w, task, rest, hw, hb, hq, rfl⟩ := take_eq_some h
  have hpq : ((s.queues.modify List.tail w.queue).flatMap id ++ id (task :: rest)).Perm
      (s.queues.flatMap id ++ id rest) := flatMap_modify_perm hq
  have hpw : ((s.workers.modify (fun w => { w with busy := some task }) i).flatMap
      (fun w => w.busy.toList) ++ w.busy.toList).Perm
      (s.workers.flatMap (fun w => w.busy.toList) ++ [task]) := flatMap_modify_perm hw
  have hmem : w ∈ s.workers := List.getElem?_mem hw
  refine ⟨by simpa using hi.queue_lt, fun w' hw' g hg => ?_, fun q' t ht => ?_,
    fun t d hd => ?_, List.perm_iff_count.2 fun x => ?_, List.perm_iff_count.2 fun x => ?_,
    hi.count⟩
  · obtain ⟨w₀, hw₀, hd, hq'⟩ := mem_modify_busy hw'
    rw [hd]; exact hi.bound w₀ hw₀ g (hq' ▸ hg)
  · rw [List.getElem?_modify] at ht
    apply hi.queued_group q' t
    by_cases hqq : w.queue = q'
    · subst hqq; rw [hq] at ht ⊢; exact List.mem_cons_of_mem _ (by simpa using ht)
    · cases hq'' : s.queues[q']? <;> simp_all
  · rcases List.mem_append.1 hd with hd | hd
    · exact hi.executed_on t d hd
    · obtain ⟨rfl, rfl⟩ := Prod.mk.inj (List.mem_singleton.1 hd)
      obtain ⟨g, hg, hgq⟩ := hi.queued_group w.queue t (by simp [hq])
      exact ⟨g, hg, hi.bound w hmem g hgq⟩
  -- per task, the head of the worker's queue moves from `queued` to `running`
  all_goals
    have h0 := List.perm_iff_count.1 hi.conserve x
    have h1 := List.perm_iff_count.1 hi.taken x
    have h2 := List.perm_iff_count.1 hpq x
    have h3 := List.perm_iff_count.1 hpw x
    simp only [queued, running, waiting, List.count_append, id, hb, Option.toList, List.map_append,
      List.map_cons, List.map_nil, List.count_nil, List.count_cons] at h0 h1 h2 h3 ⊢
    omega

/-- The task of the value a worker puts on the result queue. -/
theorem task_value (r : Option β) (task : Task α) :
    Value.task (match r with
      | some v => Value.result task v
      | none => Value.taskError task) = task := by
  cases r <;> rfl

omit [DecidableEq D] in
theorem Inv.finish (hi : s.Inv) {i : ℕ} {o : Ω} (h : s.finish perform i o = some s') :
    s'.Inv := by
  classical
  obtain ⟨w, task, hw, hb, rfl⟩ := finish_eq_some h
  have hpw : ((s.workers.modify (fun w => { w with busy := none }) i).flatMap
      (fun w => w.busy.toList) ++ w.busy.toList).Perm
      (s.workers.flatMap (fun w => w.busy.toList) ++ []) := flatMap_modify_perm hw
  refine ⟨hi.queue_lt, fun w' hw' g hg => ?_, hi.queued_group, hi.executed_on,
    List.perm_iff_count.2 fun x => ?_, List.perm_iff_count.2 fun x => ?_, hi.count⟩
  · obtain ⟨w₀, hw₀, hd, hq'⟩ := mem_modify_busy hw'
    rw [hd]; exact hi.bound w₀ hw₀ g (hq' ▸ hg)
  -- per task, the worker's task moves from `running` to `waiting`
  all_goals
    have h0 := List.perm_iff_count.1 hi.conserve x
    have h1 := List.perm_iff_count.1 hi.taken x
    have h2 := List.perm_iff_count.1 hpw x
    simp only [queued, running, waiting, List.count_append, hb, Option.toList, List.map_append,
      List.map_cons, List.map_nil, task_value, List.count_nil, List.count_cons] at h0 h1 h2 ⊢
    omega

omit [DecidableEq D] in
theorem Inv.getResult (hi : s.Inv) {r : Except PyError β} (h : s.getResult = some (r, s')) :
    s'.Inv := by
  classical
  rcases getResult_eq_some h with ⟨t, rest, hq, -, rfl⟩ | ⟨t, v, rest, hq, -, rfl⟩ <;>
  refine ⟨hi.queue_lt, hi.bound, hi.queued_group, hi.executed_on,
    List.perm_iff_count.2 fun x => ?_, List.perm_iff_count.2 fun x => ?_, ?_⟩
  -- per task, the value taken off the result queue moves to `raised` or to `returned`
  all_goals try
    have h0 := List.perm_iff_count.1 hi.conserve x
    have h1 := List.perm_iff_count.1 hi.taken x
    simp only [queued, running, waiting, hq, List.count_append, List.map_cons, List.map_append,
      List.map_nil, Value.task, List.count_nil, List.count_cons] at h0 h1 ⊢
    omega
  · exact hi.count
  · have := hi.count
    simp only [List.length_append, List.length_singleton] at this ⊢
    push_cast; omega

/-- What one action does: nothing, or one of the four operations. -/
theorem step_cases (a : Action D α Ω) :
    s.step perform a = s ∨ (∃ g x, s.addTask g x = .ok (s.step perform a)) ∨
      (∃ i, s.take i = some (s.step perform a)) ∨
      (∃ i o, s.finish perform i o = some (s.step perform a)) ∨
      ∃ r, s.getResult = some (r, s.step perform a) := by
  cases a with
  | addTask g x =>
    cases h : s.addTask g x with
    | error e => exact .inl (by simp [Shard.step, h])
    | ok s' => exact .inr (.inl ⟨g, x, by simp [Shard.step, h]⟩)
  | take i =>
    cases h : s.take i with
    | none => exact .inl (by simp [Shard.step, h])
    | some s' => exact .inr (.inr (.inl ⟨i, by simp [Shard.step, h]⟩))
  | finish i o =>
    cases h : s.finish perform i o with
    | none => exact .inl (by simp [Shard.step, h])
    | some s' => exact .inr (.inr (.inr (.inl ⟨i, o, by simp [Shard.step, h]⟩)))
  | getResult =>
    rcases h : s.getResult with _ | ⟨r, s'⟩
    · exact .inl (by simp [Shard.step, h])
    · exact .inr (.inr (.inr (.inr ⟨r, by simp [Shard.step, h]⟩)))

/-- **Every action keeps the invariant.** -/
theorem Inv.step (hi : s.Inv) (a : Action D α Ω) : (s.step perform a).Inv := by
  rcases step_cases a with h | ⟨g, x, h⟩ | ⟨i, h⟩ | ⟨i, o, h⟩ | ⟨r, h⟩
  · rw [h]; exact hi
  · exact hi.addTask h
  · exact hi.take h
  · exact hi.finish h
  · exact hi.getResult h

theorem Inv.run (hi : s.Inv) (acts : List (Action D α Ω)) : (s.run perform acts).Inv := by
  induction acts generalizing s with
  | nil => exact hi
  | cons a acts ih => exact ih (hi.step a)

/-- No action changes the dict of task queues. -/
theorem step_taskQueues (a : Action D α Ω) : (s.step perform a).taskQueues = s.taskQueues := by
  rcases step_cases a with h | ⟨g, x, h⟩ | ⟨i, h⟩ | ⟨i, o, h⟩ | ⟨r, h⟩
  · rw [h]
  · obtain ⟨q, -, h⟩ := addTask_eq_ok h; rw [h]
  · obtain ⟨_, _, _, -, -, -, h⟩ := take_eq_some h; rw [h]
  · obtain ⟨_, _, -, -, h⟩ := finish_eq_some h; rw [h]
  · rcases getResult_eq_some h with ⟨_, _, -, -, h⟩ | ⟨_, _, _, -, -, h⟩ <;> rw [h]

theorem run_taskQueues (acts : List (Action D α Ω)) :
    (s.run perform acts).taskQueues = s.taskQueues := by
  induction acts generalizing s with
  | nil => rfl
  | cons a acts ih => exact ih.trans (step_taskQueues a)

end Shard

namespace Shard

variable {perform : D → α → Ω → Option β} {s s' : Shard D α β}

/-- The values put on the result queue so far satisfy `R` and none is a `TaskError`. -/
structure Sound (R : α → β → Prop) (s : Shard D α β) : Prop where
  waiting_ok : ∀ v ∈ s.resultQueue, ∃ t r, v = .result t r ∧ R t.arg r
  returned_ok : ∀ p ∈ s.returned, R p.1.arg p.2
  raised_nil : s.raised = []

/-- When a task's function always returns a value that satisfies `R`, every action keeps
`Sound R`. -/
theorem Sound.step {R : α → β → Prop} (hperf : ∀ d a o, ∃ r, perform d a o = some r ∧ R a r)
    (hs : s.Sound R) (a : Action D α Ω) : (s.step perform a).Sound R := by
  rcases step_cases a with h | ⟨g, x, h⟩ | ⟨i, h⟩ | ⟨i, o, h⟩ | ⟨r, h⟩
  · rw [h]; exact hs
  · obtain ⟨q, -, h⟩ := addTask_eq_ok h; rw [h]; exact ⟨hs.waiting_ok, hs.returned_ok, hs.raised_nil⟩
  · obtain ⟨_, _, _, -, -, -, h⟩ := take_eq_some h; rw [h]; exact ⟨hs.waiting_ok, hs.returned_ok, hs.raised_nil⟩
  · obtain ⟨w, task, -, -, h⟩ := finish_eq_some h
    obtain ⟨r, hr, hR⟩ := hperf w.device task.arg o
    rw [h]
    refine ⟨fun v hv => ?_, hs.returned_ok, hs.raised_nil⟩
    rcases List.mem_append.1 hv with hv | hv
    · exact hs.waiting_ok v hv
    · rw [List.mem_singleton.1 hv, hr]; exact ⟨task, r, rfl, hR⟩
  · rcases getResult_eq_some h with ⟨t, rest, hq, -, h⟩ | ⟨t, v, rest, hq, -, h⟩ <;> rw [h]
    · obtain ⟨_, _, he, -⟩ := hs.waiting_ok _ (hq ▸ List.mem_cons_self _ _)
      cases he
    · obtain ⟨t', r', he, hR⟩ := hs.waiting_ok _ (hq ▸ List.mem_cons_self _ _)
      cases he
      refine ⟨fun v hv => hs.waiting_ok v (hq ▸ List.mem_cons_of_mem _ hv), fun p hp => ?_, hs.raised_nil⟩
      rcases List.mem_append.1 hp with hp | hp
      · exact hs.returned_ok p hp
      · rw [List.mem_singleton.1 hp]; exact hR

theorem Sound.run {R : α → β → Prop} (hperf : ∀ d a o, ∃ r, perform d a o = some r ∧ R a r)
    (hs : s.Sound R) (acts : List (Action D α Ω)) : (s.run perform acts).Sound R := by
  induction acts generalizing s with
  | nil => exact hs
  | cons a acts ih => exact ih (hs.step hperf a)

end Shard

/-! ### The constructor -/

/-- What `__init__` keeps true from group to group: every stored queue exists and is stored
under a constructor group, every worker is idle on an existing queue and serves only groups
its device belongs to, and every queue is empty. -/
def InitOk (deviceGroups : List (DeviceGroup D))
    (t : Dict (DeviceGroup D) ℕ × List (List (Task α)) × List (Worker D α)) : Prop :=
  (∀ g q, (g, q) ∈ t.1.items → q < t.2.1.length ∧ g ∈ deviceGroups) ∧
  (∀ w ∈ t.2.2, w.queue < t.2.1.length ∧ w.busy = none ∧
    ∀ g, (g, w.queue) ∈ t.1.items → w.device ∈ g.devices) ∧
  ∀ Q ∈ t.2.1, Q = []

theorem initOk_addGroup {deviceGroups : List (DeviceGroup D)} {procsPerDevice : ℕ}
    {t : Dict (DeviceGroup D) ℕ × List (List (Task α)) × List (Worker D α)} {group : DeviceGroup D}
    (hg : group ∈ deviceGroups) (h : InitOk deviceGroups t) :
    InitOk deviceGroups (addGroup procsPerDevice t group) := by
  obtain ⟨tq, qs, ws⟩ := t
  obtain ⟨hd, hw, hq⟩ := h
  dsimp only [InitOk, addGroup] at hd hw hq ⊢
  refine ⟨fun g q hgq => ?_, fun w hw' => ?_, fun Q hQ => ?_⟩
  · rcases Dict.mem_setItem.1 hgq with ⟨rfl, rfl⟩ | ⟨-, hgq⟩
    · exact ⟨by simp, hg⟩
    · have := hd g q hgq; exact ⟨by simp; omega, this.2⟩
  · rcases List.mem_append.1 hw' with hw' | hw'
    · obtain ⟨hlt, hb, hbound⟩ := hw w hw'
      refine ⟨by simp; omega, hb, fun g hgq => ?_⟩
      rcases Dict.mem_setItem.1 hgq with ⟨-, he⟩ | ⟨-, hgq⟩
      · exact absurd he (by omega)
      · exact hbound g hgq
    · obtain ⟨d, hd', hw'⟩ := List.mem_flatMap.1 hw'
      obtain rfl := (List.mem_replicate.1 hw').2
      refine ⟨by simp, rfl, fun g hgq => ?_⟩
      rcases Dict.mem_setItem.1 hgq with ⟨rfl, -⟩ | ⟨-, hgq⟩
      · exact hd'
      · exact absurd (hd g _ hgq).1 (lt_irrefl _)
  · rcases List.mem_append.1 hQ with hQ | hQ
    · exact hq Q hQ
    · exact List.mem_singleton.1 hQ

theorem initOk_init (deviceGroups : List (DeviceGroup D)) (procsPerDevice : ℕ) :
    InitOk deviceGroups (deviceGroups.foldl (addGroup procsPerDevice)
      ((.empty, [], []) : Dict (DeviceGroup D) ℕ × List (List (Task α)) × List (Worker D α))) :=
  foldl_of_step (InitOk deviceGroups) (fun _ _ hg h => initOk_addGroup hg h)
    ⟨fun _ _ h => by simp [Dict.empty] at h, by simp, by simp⟩

/-- The constructor's state satisfies the invariant, and its dict holds only constructor
groups. -/
theorem init_inv (deviceGroups : List (DeviceGroup D)) (procsPerDevice : ℕ) :
    (ShardingWorkQueue.init deviceGroups procsPerDevice : Shard D α β).Inv ∧
    ∀ g q, (g, q) ∈ (ShardingWorkQueue.init deviceGroups procsPerDevice : Shard D α β).taskQueues.items →
      g ∈ deviceGroups := by
  set t := deviceGroups.foldl (addGroup procsPerDevice)
    ((.empty, [], []) : Dict (DeviceGroup D) ℕ × List (List (Task α)) × List (Worker D α))
  have h : InitOk deviceGroups t := initOk_init deviceGroups procsPerDevice
  obtain ⟨hd, hw, hq⟩ := h
  have he : (ShardingWorkQueue.init deviceGroups procsPerDevice : Shard D α β) =
      ⟨t.1, t.2.1, t.2.2, [], 0, [], [], [], []⟩ := rfl
  have hnil : ∀ q : ℕ, (t.2.1[q]?).getD [] = [] := fun q => by
    cases hq' : t.2.1[q]? with
    | none => rfl
    | some Q => exact hq Q (List.getElem?_mem hq')
  have hq0 : Shard.queued (⟨t.1, t.2.1, t.2.2, [], 0, [], [], [], []⟩ : Shard D α β) = [] :=
    List.flatMap_eq_nil_iff.2 fun Q hQ => hq Q hQ
  have hr0 : Shard.running (⟨t.1, t.2.1, t.2.2, [], 0, [], [], [], []⟩ : Shard D α β) = [] :=
    List.flatMap_eq_nil_iff.2 fun w hw' => by simp [(hw w hw').2.1]
  rw [he]
  refine ⟨⟨fun g q hgq => (hd g q hgq).1, fun w hw' g => (hw w hw').2.2 g,
    fun q task ht => by simp [hnil q] at ht, fun _ _ h => by simp at h, ?_, ?_, by simp⟩,
    fun g q hgq => (hd g q hgq).2⟩
  · simp [hq0, hr0, Shard.waiting]
  · simp [hr0, Shard.waiting]

/-- Nothing waits on the result queue of the constructor's state, and nothing was returned
or raised. -/
theorem init_sound (R : α → β → Prop) (deviceGroups : List (DeviceGroup D)) (procsPerDevice : ℕ) :
    (ShardingWorkQueue.init deviceGroups procsPerDevice : Shard D α β).Sound R :=
  ⟨fun _ h => (by cases h), fun _ h => (by cases h), rfl⟩

/-! ### Every run -/

omit [DecidableEq D] in
/-- `num_tasks` is the number of tasks queued, running or waiting on the result queue, plus
the `TaskError`s raised. -/
theorem Shard.Inv.numTasks_eq {s : Shard D α β} (hi : s.Inv) :
    s.numTasks = s.queued.length + s.running.length + s.waiting.length + s.raised.length := by
  have hl := hi.conserve.length_eq
  simp only [List.length_map, List.length_append] at hl
  rw [hi.count]; omega

omit [DecidableEq D] in
/-- A finished queue with no `TaskError` raised has nothing queued, running or waiting. -/
theorem Shard.Inv.finished_nil {s : Shard D α β} (hi : s.Inv) (hr : s.raised = [])
    (hf : s.finished) : s.queued = [] ∧ s.running = [] ∧ s.waiting = [] := by
  have hn := hi.numTasks_eq
  simp only [Shard.finished, decide_eq_true_eq] at hf
  rw [hr, hf] at hn
  exact ⟨List.eq_nil_of_length_eq_zero (by simp at hn; omega),
    List.eq_nil_of_length_eq_zero (by simp at hn; omega),
    List.eq_nil_of_length_eq_zero (by simp at hn; omega)⟩

omit [DecidableEq D] in
/-- With no `TaskError` raised, `finished()` holds exactly when `get_result` has returned the
result of every submitted task once. -/
theorem Shard.Inv.finished_iff {s : Shard D α β} (hi : s.Inv) (hr : s.raised = []) :
    s.finished ↔ (s.returned.map Prod.fst).Perm (s.submitted.map Prod.fst) := by
  constructor
  · intro hf
    obtain ⟨hq, hru, hw⟩ := hi.finished_nil hr hf
    simpa [hq, hru, hw, hr] using hi.conserve.symm
  · intro hp
    have := hp.length_eq
    simp only [List.length_map] at this
    simp only [Shard.finished, decide_eq_true_eq]
    rw [hi.count]; omega

omit [DecidableEq D] in
/-- A finished queue with no `TaskError` raised has returned one result per execution. -/
theorem Shard.Inv.executed_perm {s : Shard D α β} (hi : s.Inv) (hr : s.raised = [])
    (hf : s.finished) : (s.executed.map Prod.fst).Perm (s.returned.map Prod.fst) := by
  obtain ⟨-, hru, hw⟩ := hi.finished_nil hr hf
  simpa [hru, hw, hr] using hi.taken

/-- **The sharding work queue keeps each task on its group and counts it.** In every run from
`ShardingWorkQueue(device_groups, procs_per_device)`, whatever the groups, the interleaving
and the devices' answers: every execution of a task was on a device of the group it was
submitted to; `num_tasks` is the number of tasks queued, running or waiting on the result
queue plus the `TaskError`s raised; `add_task` on a group the constructor was not given
raises `KeyError` and changes nothing; and if no `TaskError` was raised, `finished()` holds
exactly when `get_result` has returned every submitted task's result once. -/
theorem shardingWorkQueue_run (perform : D → α → Ω → Option β)
    (deviceGroups : List (DeviceGroup D)) (procsPerDevice : ℕ) (acts : List (Action D α Ω)) :
    let s := (ShardingWorkQueue.init deviceGroups procsPerDevice : Shard D α β).run perform acts
    (∀ task d, (task, d) ∈ s.executed → ∃ g, (task, g) ∈ s.submitted ∧ d ∈ g.devices) ∧
    s.numTasks = s.queued.length + s.running.length + s.waiting.length + s.raised.length ∧
    (∀ g x, g ∉ deviceGroups →
      s.addTask g x = .error .keyError ∧ s.step perform (.addTask g x) = s) ∧
    (s.raised = [] → (s.finished ↔ (s.returned.map Prod.fst).Perm (s.submitted.map Prod.fst))) := by
  intro s
  obtain ⟨hi0, hkeys⟩ : (ShardingWorkQueue.init deviceGroups procsPerDevice : Shard D α β).Inv ∧ _ :=
    init_inv deviceGroups procsPerDevice
  have hi : s.Inv := hi0.run acts
  refine ⟨hi.executed_on, hi.numTasks_eq, fun g x hg => ?_, hi.finished_iff⟩
  have hk : g ∉ s.taskQueues.keys := fun hm => by
    obtain ⟨q, hq⟩ := Dict.mem_keys.1 hm
    rw [Shard.run_taskQueues] at hq
    exact hg (hkeys g q hq)
  have he : s.addTask g x = .error .keyError := by
    simp [Shard.addTask, Dict.getItem_of_not_mem hk]
  exact ⟨he, by simp [Shard.step, he]⟩

example :
    let s := (ShardingWorkQueue.init [⟨[0]⟩, ⟨[1]⟩] 1 : Shard ℕ String (ℕ × String)).run
      (fun d a (_ : Unit) => some (d, a))
      [.addTask ⟨[0]⟩ "a", .addTask ⟨[1]⟩ "b", .take 1, .take 0, .finish 1 (), .getResult,
        .finish 0 (), .getResult]
    s.finished ∧ s.returned.map Prod.snd = [(1, "b"), (0, "a")] := by
  decide

end Ndk
