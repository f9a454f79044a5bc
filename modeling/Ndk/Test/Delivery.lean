import Ndk.Test.Sharding

/-!
# What `get_result` hands back: each task once, computed on its group

`shardingWorkQueue_run` counts the tasks of a `ShardingWorkQueue`; this module says which
values come back. `add_task` numbers the tasks in call order (`Shard.Ids`), so the submitted
tasks are distinct, and `Shard.Inv.conserve` keeps each of them in one place: a worker takes
a task off its queue once, and `get_result` hands back each task's outcome once
(`Shard.Inv.nodup`). A worker that finishes a task puts on the result queue what the task's
function did on the worker's device, the device it took the task on (`Shard.Computed`).

* `shardingWorkQueue_at_most_once`: **in every run from the constructor, no task is executed
  twice, no task's outcome reaches `get_result` twice, a task still queued has not run, and a
  finished run with no `TaskError` executed every submitted task exactly once.**
* `shardingWorkQueue_returned_computed`: **every value `get_result` returned is what the task's
  function returned on a device of the task's group, and every `TaskError` it raised is for a
  task whose function raised on such a device.**
-/

namespace Ndk.Shard

variable {D α β Ω : Type} {perform : D → α → Ω → Option β} {s s' : Shard D α β}

/-! ### Tasks are numbered in call order -/

/-- `add_task` numbers the tasks in call order. -/
def Ids (s : Shard D α β) : Prop := s.submitted.map (·.1.id) = List.range s.submitted.length

theorem Ids.nodup (h : s.Ids) : (s.submitted.map Prod.fst).Nodup :=
  List.Nodup.of_map Task.id (by rw [List.map_map]; exact h ▸ List.nodup_range _)

/-- With distinct tasks submitted, no task is executed twice, no task's outcome is handed back
twice, and a task still queued has not been executed. -/
theorem Inv.nodup (hi : s.Inv) (hid : s.Ids) :
    (s.executed.map Prod.fst).Nodup ∧ (s.returned.map Prod.fst ++ s.raised).Nodup ∧
      ∀ t ∈ s.queued, t ∉ s.executed.map Prod.fst := by
  classical
  have hsub := List.nodup_iff_count_le_one.1 hid.nodup
  refine ⟨List.nodup_iff_count_le_one.2 fun x => ?_, List.nodup_iff_count_le_one.2 fun x => ?_,
    fun x hq he => ?_⟩
  all_goals
    have h0 := List.perm_iff_count.1 hi.conserve x
    have h1 := List.perm_iff_count.1 hi.taken x
    have h2 := hsub x
    simp only [List.count_append] at h0 h1 ⊢
  · omega
  · omega
  · have := List.count_pos_iff.2 hq
    have := List.count_pos_iff.2 he
    omega

/-! ### What a worker puts on the result queue -/

/-- Some execution of `t` in `executed` ended with `r`: on the device it ran on, with some
answer of the device, the task's function returned `r` (`none`: it raised). -/
def Produced (perform : D → α → Ω → Option β) (executed : List (Task α × D)) (t : Task α)
    (r : Option β) : Prop :=
  ∃ d o, (t, d) ∈ executed ∧ perform d t.arg o = r

theorem Produced.append {executed : List (Task α × D)} {t : Task α} {r : Option β}
    (h : Produced perform executed t r) (more : List (Task α × D)) :
    Produced perform (executed ++ more) t r :=
  let ⟨d, o, hd, ho⟩ := h
  ⟨d, o, List.mem_append_left _ hd, ho⟩

/-- Every running task was taken by its worker on the worker's device, and every value on the
result queue, returned by `get_result` or raised as a `TaskError` is what an execution of its
task produced. -/
structure Computed (perform : D → α → Ω → Option β) (s : Shard D α β) : Prop where
  running : ∀ w ∈ s.workers, ∀ t, w.busy = some t → (t, w.device) ∈ s.executed
  result : ∀ t r, .result t r ∈ s.resultQueue → Produced perform s.executed t (some r)
  taskError : ∀ t, .taskError t ∈ s.resultQueue → Produced perform s.executed t none
  returned : ∀ p ∈ s.returned, Produced perform s.executed p.1 (some p.2)
  raised : ∀ t ∈ s.raised, Produced perform s.executed t none

theorem Computed.take (hc : s.Computed perform) {i : ℕ} (h : s.take i = some s') :
    s'.Computed perform := by
  obtain ⟨w, task, rest, hw, -, -, rfl⟩ := take_eq_some h
  refine ⟨fun w' hw' t ht => ?_, fun t r hr => (hc.result t r hr).append _,
    fun t hr => (hc.taskError t hr).append _, fun p hp => (hc.returned p hp).append _,
    fun t hr => (hc.raised t hr).append _⟩
  rcases mem_modify_at hw' with hw' | ⟨w₀, hw₀, rfl⟩
  · exact List.mem_append_left _ (hc.running w' hw' t ht)
  · obtain rfl : task = t := Option.some.inj ht
    obtain rfl : w₀ = w := Option.some.inj (hw₀.symm.trans hw)
    exact List.mem_append_right _ (List.mem_singleton_self _)

theorem Computed.finish (hc : s.Computed perform) {i : ℕ} {o : Ω}
    (h : s.finish perform i o = some s') : s'.Computed perform := by
  obtain ⟨w, task, hw, hb, rfl⟩ := finish_eq_some h
  have hex : (task, w.device) ∈ s.executed := hc.running w (List.getElem?_mem hw) task hb
  refine ⟨fun w' hw' t ht => ?_, fun t r hr => ?_, fun t hr => ?_, hc.returned, hc.raised⟩
  · rcases mem_modify_at hw' with hw' | ⟨w₀, -, rfl⟩
    · exact hc.running w' hw' t ht
    · cases ht
  all_goals
    rcases List.mem_append.1 hr with hr | hr
    · first | exact hc.result t r hr | exact hc.taskError t hr
    cases hp : perform w.device task.arg o <;> rw [hp] at hr <;> cases List.mem_singleton.1 hr
  · exact ⟨w.device, o, hex, hp⟩
  · exact ⟨w.device, o, hex, hp⟩

theorem Computed.getResult (hc : s.Computed perform) {r : Except PyError β}
    (h : s.getResult = some (r, s')) : s'.Computed perform := by
  rcases getResult_eq_some h with ⟨t, rest, hq, -, rfl⟩ | ⟨t, v, rest, hq, -, rfl⟩
  · refine ⟨hc.running, fun t' r' hr => hc.result t' r' (hq ▸ List.mem_cons_of_mem _ hr),
      fun t' hr => hc.taskError t' (hq ▸ List.mem_cons_of_mem _ hr), hc.returned, fun t' ht => ?_⟩
    rcases List.mem_append.1 ht with ht | ht
    · exact hc.raised t' ht
    · rw [List.mem_singleton.1 ht]; exact hc.taskError t (hq ▸ List.mem_cons_self _ _)
  · refine ⟨hc.running, fun t' r' hr => hc.result t' r' (hq ▸ List.mem_cons_of_mem _ hr),
      fun t' hr => hc.taskError t' (hq ▸ List.mem_cons_of_mem _ hr), fun p hp => ?_, hc.raised⟩
    rcases List.mem_append.1 hp with hp | hp
    · exact hc.returned p hp
    · rw [List.mem_singleton.1 hp]; exact hc.result t v (hq ▸ List.mem_cons_self _ _)

/-! ### Per action and per run -/

variable [DecidableEq D]

/-- One action submits nothing, or one task numbered by the count of tasks before it. -/
theorem step_submitted (a : Action D α Ω) :
    (s.step perform a).submitted = s.submitted ∨
      ∃ x g, (s.step perform a).submitted = s.submitted ++ [(⟨s.submitted.length, x⟩, g)] := by
  rcases step_cases a with h | ⟨g, x, h⟩ | ⟨i, h⟩ | ⟨i, o, h⟩ | ⟨r, h⟩
  · rw [h]; exact .inl rfl
  · obtain ⟨q, -, h⟩ := addTask_eq_ok h; rw [h]; exact .inr ⟨x, g, rfl⟩
  · obtain ⟨_, _, _, -, -, -, h⟩ := take_eq_some h; rw [h]; exact .inl rfl
  · obtain ⟨_, _, -, -, h⟩ := finish_eq_some h; rw [h]; exact .inl rfl
  · rcases getResult_eq_some h with ⟨_, _, -, -, h⟩ | ⟨_, _, _, -, -, h⟩ <;> rw [h] <;> exact .inl rfl

theorem Ids.step (h : s.Ids) (a : Action D α Ω) : (s.step perform a).Ids := by
  unfold Ids at h ⊢
  rcases step_submitted a with he | ⟨x, g, he⟩ <;> rw [he]
  · exact h
  · simp [List.range_succ, h]

theorem Ids.run (h : s.Ids) (acts : List (Action D α Ω)) : (s.run perform acts).Ids := by
  induction acts generalizing s with
  | nil => exact h
  | cons a acts ih => exact ih (h.step a)

/-- **Every action keeps `Computed`.** -/
theorem Computed.step (hc : s.Computed perform) (a : Action D α Ω) :
    (s.step perform a).Computed perform := by
  rcases step_cases a with h | ⟨g, x, h⟩ | ⟨i, h⟩ | ⟨i, o, h⟩ | ⟨r, h⟩
  · rw [h]; exact hc
  · obtain ⟨q, -, h⟩ := addTask_eq_ok h
    rw [h]; exact ⟨hc.running, hc.result, hc.taskError, hc.returned, hc.raised⟩
  · exact hc.take h
  · exact hc.finish h
  · exact hc.getResult h

theorem Computed.run (hc : s.Computed perform) (acts : List (Action D α Ω)) :
    (s.run perform acts).Computed perform := by
  induction acts generalizing s with
  | nil => exact hc
  | cons a acts ih => exact ih (hc.step a)

end Shard

/-! ### Every run from the constructor -/

section Runs

variable {D α β Ω : Type} [DecidableEq D]

/-- The constructor's workers are idle and nothing was executed, returned or raised. -/
theorem init_computed (perform : D → α → Ω → Option β) (deviceGroups : List (DeviceGroup D))
    (procsPerDevice : ℕ) :
    (ShardingWorkQueue.init deviceGroups procsPerDevice : Shard D α β).Computed perform := by
  obtain ⟨-, hw, -⟩ := initOk_init (α := α) deviceGroups procsPerDevice
  refine ⟨fun w hw' t ht => ?_, fun _ _ h => (by cases h), fun _ h => (by cases h),
    fun _ h => (by cases h), fun _ h => (by cases h)⟩
  rw [(hw w hw').2.1] at ht
  cases ht

/-- **`ShardingWorkQueue` runs each task at most once and hands back its outcome at most
once.** In every run from `ShardingWorkQueue(device_groups, procs_per_device)`, whatever the
groups, the interleaving and the devices' answers: the tasks are numbered in call order; no
task is executed twice; no task's result is returned, or its `TaskError` raised, twice; a task
still on its queue has not run; and when the queue is finished with no `TaskError` raised,
every submitted task was executed exactly once. -/
theorem shardingWorkQueue_at_most_once (perform : D → α → Ω → Option β)
    (deviceGroups : List (DeviceGroup D)) (procsPerDevice : ℕ) (acts : List (Action D α Ω)) :
    let s := (ShardingWorkQueue.init deviceGroups procsPerDevice : Shard D α β).run perform acts
    s.submitted.map (·.1.id) = List.range s.submitted.length ∧
    (s.executed.map Prod.fst).Nodup ∧ (s.returned.map Prod.fst ++ s.raised).Nodup ∧
    (∀ t ∈ s.queued, t ∉ s.executed.map Prod.fst) ∧
    (s.raised = [] → s.finished → (s.executed.map Prod.fst).Perm (s.submitted.map Prod.fst)) := by
  intro s
  have hi : s.Inv := (init_inv deviceGroups procsPerDevice).1.run acts
  have h0 : (ShardingWorkQueue.init deviceGroups procsPerDevice : Shard D α β).Ids := rfl
  have hid : s.Ids := h0.run acts
  obtain ⟨he, hr, hq⟩ := hi.nodup hid
  exact ⟨hid, he, hr, hq, fun h0 hf => (hi.executed_perm h0 hf).trans ((hi.finished_iff h0).1 hf)⟩

/-- **What `get_result` hands back was computed on the task's group.** In every run from the
constructor, whatever the interleaving and the devices' answers: every value `get_result`
returned for a task is what the task's function returned on a device of the group the task
was submitted to, in an execution of the task on that device; and every `TaskError` it raised
is for a task whose function raised in such an execution. -/
theorem shardingWorkQueue_returned_computed (perform : D → α → Ω → Option β)
    (deviceGroups : List (DeviceGroup D)) (procsPerDevice : ℕ) (acts : List (Action D α Ω)) :
    let s := (ShardingWorkQueue.init deviceGroups procsPerDevice : Shard D α β).run perform acts
    (∀ t r, (t, r) ∈ s.returned → ∃ g d o, (t, g) ∈ s.submitted ∧ d ∈ g.devices ∧
      (t, d) ∈ s.executed ∧ perform d t.arg o = some r) ∧
    (∀ t ∈ s.raised, ∃ g d o, (t, g) ∈ s.submitted ∧ d ∈ g.devices ∧
      (t, d) ∈ s.executed ∧ perform d t.arg o = none) := by
  intro s
  have hi : s.Inv := (init_inv deviceGroups procsPerDevice).1.run acts
  have hc : s.Computed perform := (init_computed perform deviceGroups procsPerDevice).run acts
  have hgroup : ∀ {t r}, Shard.Produced perform s.executed t r →
      ∃ g d o, (t, g) ∈ s.submitted ∧ d ∈ g.devices ∧ (t, d) ∈ s.executed ∧ perform d t.arg o = r :=
    fun ⟨d, o, hd, ho⟩ =>
      let ⟨g, hg, hdg⟩ := hi.executed_on _ d hd
      ⟨g, d, o, hg, hdg, hd, ho⟩
  exact ⟨fun t r h => hgroup (hc.returned (t, r) h), fun t h => hgroup (hc.raised t h)⟩

end Runs

end Ndk
