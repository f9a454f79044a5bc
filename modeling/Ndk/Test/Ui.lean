import Ndk.Test.Sharding
import Ndk.Host

/-!
# The progress UI of the run phase

`wait_for_results` draws a `TestProgressUi` after every result it takes. `get_ui_lines` reads
the sharding work queue and changes nothing: a status line per worker, the number of tasks
not returned yet (`num_tasks`), and a line per device group with the number of tasks waiting
in the group's task queue. `get_test_progress_ui` shows the workers only on a smart console,
and the groups unless the console is a plain Windows one. `ndk.test.devices` and
`ndk.workqueue` are not part of the sources: a device's `version`, a group's `abis`, the
order `sorted` puts groups in and a worker's `status` are parameters.

* `getUiLines_eq_ok`, `getUiLines_eq_error`: the lines `get_ui_lines` draws, and that it
  raises `IndexError` exactly when it shows a group with no device.
* `groupQueues_perm`: in every run from the constructor, the task queues of the groups
  hold together exactly the tasks no worker has taken.
* `progressUi_run`: **in every run from the constructor, the UI shows each group the queue
  was given exactly once, with the number of tasks waiting in its queue; these queues hold
  together exactly the tasks no worker has taken, and `tests remaining` adds to them the
  running and waiting tasks and the `TaskError`s raised.**
-/

namespace Ndk

/-- `get_test_progress_ui(console, workqueue)`: `(show_worker_status, show_device_groups)`,
from `console.smart_console` and `os.name`. -/
def getTestProgressUi (smartConsole : Bool) (host : Host) : Bool × Bool :=
  if smartConsole then (true, true)
  else match host with
    | .nt => (false, false)
    | .posix => (false, true)

/-- `TestProgressUi.NUM_TESTS_DIGITS`. -/
def numTestsDigits : ℕ := 6

/-- `'{: >{width}} {}'.format(n, text)` with `width=NUM_TESTS_DIGITS`. -/
def countLine (n : ℤ) (text : String) : String :=
  Str.rjust numTestsDigits (toString n) ++ " " ++ text

/-- What `get_ui_lines` reads of `ndk.test.devices`: `device.version` and `group.abis`. -/
structure GroupInfo (D : Type) where
  version : D → ℤ
  abis : DeviceGroup D → List String

/-- The `group_id` of a group whose first device is `device`:
`'{} devices android-{} {}'.format(len(group.devices), group.devices[0].version,
', '.join(group.abis))`. -/
def groupId {D : Type} (info : GroupInfo D) (group : DeviceGroup D) (device : D) : String :=
  toString group.devices.length ++ " devices android-" ++ toString (info.version device) ++ " " ++
    Str.join ", " (info.abis group)

variable {D α β : Type} [DecidableEq D]

/-- The tasks waiting in `self.task_queues[group]`. -/
def Shard.groupQueue (s : Shard D α β) (group : DeviceGroup D) : List (Task α) :=
  match s.taskQueues.getItem group with
  | .ok q => (s.queues[q]?).getD []
  | .error _ => []

namespace TestProgressUi

/-- The line `get_ui_lines` draws for a group: `group_id` first, then the size of its queue. -/
def groupLine (info : GroupInfo D) (s : Shard D α β) (group : DeviceGroup D) :
    Except PyError String := do
  let device ← getItem group.devices 0
  let q ← s.taskQueues.getItem group
  pure (countLine ((s.queues[q]?).getD []).length (groupId info group device))

/-- `TestProgressUi.get_ui_lines()`, with `sorted` the order `sorted(...)` puts groups in and
`status` a worker's `status`. -/
def getUiLines (showWorkerStatus showDeviceGroups : Bool) (status : Worker D α → String)
    (info : GroupInfo D) (sorted : List (DeviceGroup D) → List (DeviceGroup D))
    (s : Shard D α β) : Except PyError (List String) := do
  let lines := if showWorkerStatus then s.workers.map status else []
  let lines := lines ++ [countLine s.numTasks "tests remaining"]
  if showDeviceGroups then
    let groupLines ← (sorted s.taskQueues.keys).mapM (groupLine info s)
    pure (lines ++ groupLines)
  else pure lines

end TestProgressUi

/-! ### One call -/

section MapM

variable {γ δ ε : Type} {f : γ → Except ε δ}

/-- A `mapM` in `Except` whose every call succeeds returns one value per element. -/
theorem mapM_ok_forall₂ {R : γ → δ → Prop} :
    ∀ {l : List γ}, (∀ x ∈ l, ∃ y, f x = .ok y ∧ R x y) → ∃ ys, l.mapM f = .ok ys ∧ l.Forall₂ R ys
  | [], _ => ⟨[], rfl, .nil⟩
  | x :: l, h => by
    obtain ⟨y, hy, hR⟩ := h x (List.mem_cons_self _ _)
    obtain ⟨ys, hys, hR'⟩ := mapM_ok_forall₂ fun x' hx' => h x' (List.mem_cons_of_mem _ hx')
    exact ⟨y :: ys, by rw [List.mapM_cons, hy, hys]; rfl, .cons hR hR'⟩

/-- A `mapM` in `Except` raises what one of its calls raises. -/
theorem mapM_error_mem : ∀ {l : List γ} {e : ε}, l.mapM f = .error e → ∃ x ∈ l, f x = .error e
  | [], _, h => nomatch h
  | x :: l, e, h => by
    rw [List.mapM_cons] at h
    cases hx : f x with
    | error e' =>
      rw [hx] at h
      obtain rfl : e' = e := Except.error.inj h
      exact ⟨x, List.mem_cons_self _ _, hx⟩
    | ok y =>
      cases hl : l.mapM f with
      | error e' =>
        rw [hx, hl] at h
        obtain rfl : e' = e := Except.error.inj h
        obtain ⟨x', hx', he⟩ := mapM_error_mem hl
        exact ⟨x', List.mem_cons_of_mem _ hx', he⟩
      | ok ys => rw [hx, hl] at h; nomatch h

/-- A `mapM` in `Except` raises when one of its calls does. -/
theorem mapM_error_of_mem : ∀ {l : List γ} {x : γ} {e : ε}, x ∈ l → f x = .error e →
    ∃ e', l.mapM f = .error e'
  | x' :: l, x, e, hx, he => by
    rw [List.mapM_cons]
    cases hx' : f x' with
    | error e' => exact ⟨e', rfl⟩
    | ok y =>
      rcases List.mem_cons.1 hx with rfl | hx
      · rw [he] at hx'; nomatch hx'
      · obtain ⟨e', hl⟩ := mapM_error_of_mem hx he
        exact ⟨e', by rw [hl]; rfl⟩

end MapM

namespace TestProgressUi

variable (info : GroupInfo D) (s : Shard D α β)

theorem groupLine_eq_ok {group : DeviceGroup D} {d : D} {ds : List D}
    (hk : group ∈ s.taskQueues.keys) (hd : group.devices = d :: ds) :
    groupLine info s group = .ok (countLine (s.groupQueue group).length (groupId info group d)) := by
  obtain ⟨q, hq⟩ := Dict.mem_keys.1 hk
  simp [groupLine, getItem, hd, Dict.getItem_eq_ok.2 hq, Shard.groupQueue]

theorem groupLine_eq_error {group : DeviceGroup D} (hd : group.devices = []) :
    groupLine info s group = .error .indexError := by
  simp [groupLine, getItem, hd]

/-- A group of the dict raises only `IndexError`. -/
theorem groupLine_error {group : DeviceGroup D} {e : PyError} (hk : group ∈ s.taskQueues.keys)
    (h : groupLine info s group = .error e) : e = .indexError := by
  cases hd : group.devices with
  | nil => rw [groupLine_eq_error info s hd] at h; exact (Except.error.inj h).symm
  | cons d ds => rw [groupLine_eq_ok info s hk hd] at h; cases h

variable (showWorkerStatus showDeviceGroups : Bool) (status : Worker D α → String)
  {sorted : List (DeviceGroup D) → List (DeviceGroup D)}

/-- The lines `get_ui_lines` draws when every group it shows has a device: the workers'
statuses, the tasks remaining, and for each group in order its queue's size. -/
theorem getUiLines_eq_ok (hsorted : ∀ l, (sorted l).Perm l)
    (hdev : ∀ g ∈ sorted s.taskQueues.keys, g.devices ≠ []) :
    ∃ groupLines, getUiLines showWorkerStatus showDeviceGroups status info sorted s =
      .ok ((if showWorkerStatus then s.workers.map status else []) ++
        [countLine s.numTasks "tests remaining"] ++ groupLines) ∧
      if showDeviceGroups then (sorted s.taskQueues.keys).Forall₂ (fun g line =>
          ∃ d ds, g.devices = d :: ds ∧ line = countLine (s.groupQueue g).length (groupId info g d))
          groupLines
      else groupLines = [] := by
  cases showDeviceGroups with
  | false => exact ⟨[], by simp [getUiLines], rfl⟩
  | true =>
    obtain ⟨ys, hys, hR⟩ := mapM_ok_forall₂ (f := groupLine info s)
        (R := fun g line => ∃ d ds, g.devices = d :: ds ∧
          line = countLine (s.groupQueue g).length (groupId info g d)) fun g hg => by
      obtain ⟨d, ds, hd⟩ := List.exists_cons_of_ne_nil (hdev g hg)
      exact ⟨_, groupLine_eq_ok info s ((hsorted _).subset hg) hd, d, ds, hd, rfl⟩
    exact ⟨ys, by simp only [getUiLines, if_true, hys]; rfl, hR⟩

/-- `get_ui_lines` raises exactly when it shows a group with no device, and then raises
`IndexError`. -/
theorem getUiLines_eq_error (hsorted : ∀ l, (sorted l).Perm l) {e : PyError} :
    getUiLines showWorkerStatus showDeviceGroups status info sorted s = .error e ↔
      showDeviceGroups ∧ e = .indexError ∧ ∃ g ∈ sorted s.taskQueues.keys, g.devices = [] := by
  have hkey : ∀ g ∈ sorted s.taskQueues.keys, g ∈ s.taskQueues.keys := fun g hg =>
    (hsorted _).subset hg
  cases showDeviceGroups with
  | false => simp only [getUiLines, Bool.false_eq_true, if_false, false_and, iff_false]; exact fun h => nomatch h
  | true =>
    simp only [getUiLines, if_true, true_and]
    cases hm : (sorted s.taskQueues.keys).mapM (groupLine info s) with
    | error e' =>
      obtain ⟨g, hg, hge⟩ := mapM_error_mem hm
      have he' := groupLine_error info s (hkey g hg) hge
      have hnil : g.devices = [] := by
        cases hd : g.devices with
        | nil => rfl
        | cons d ds => rw [groupLine_eq_ok info s (hkey g hg) hd] at hge; nomatch hge
      exact ⟨fun h => ⟨(Except.error.inj h).symm.trans he', g, hg, hnil⟩,
        fun ⟨he, _⟩ => by rw [he, ← he']; rfl⟩
    | ok ys =>
      refine ⟨(fun h => nomatch h), fun ⟨_, g, hg, hnil⟩ => ?_⟩
      obtain ⟨e', hm'⟩ := mapM_error_of_mem hg (groupLine_eq_error info s hnil)
      rw [hm] at hm'; nomatch hm'

/-- A queue built for a group with no device: showing the groups raises `IndexError`. -/
theorem getUiLines_eq_error_empty_group :
    getUiLines false true (fun _ => "") ⟨fun _ => 21, fun _ => []⟩ id
        (ShardingWorkQueue.init [⟨[]⟩] 1 : Shard ℕ String ℕ) = .error .indexError ↔
      true ∧ PyError.indexError = .indexError ∧
        ∃ g ∈ id (ShardingWorkQueue.init [⟨[]⟩] 1 : Shard ℕ String ℕ).taskQueues.keys,
          g.devices = [] :=
  getUiLines_eq_error _ _ false true _ (fun l => List.Perm.refl l)

end TestProgressUi

/-! ### Every run -/

/-- The task queues of a dict: each stored queue is one of the first `n`, and no two groups
share one. -/
structure QueuesApart (taskQueues : Dict (DeviceGroup D) ℕ) (n : ℕ) : Prop where
  lt : ∀ g q, (g, q) ∈ taskQueues.items → q < n
  inj : ∀ g g' q, (g, q) ∈ taskQueues.items → (g', q) ∈ taskQueues.items → g = g'

section Init

variable (procsPerDevice : ℕ)

/-- One group of the constructor stores a new queue, apart from the others. -/
theorem QueuesApart.addGroup {t : Dict (DeviceGroup D) ℕ × List (List (Task α)) × List (Worker D α)}
    (group : DeviceGroup D) (h : QueuesApart t.1 t.2.1.length) :
    QueuesApart (addGroup procsPerDevice t group).1 (addGroup procsPerDevice t group).2.1.length := by
  obtain ⟨tq, qs, ws⟩ := t
  obtain ⟨hlt, hinj⟩ := h
  dsimp only [Ndk.addGroup] at hlt hinj ⊢
  refine ⟨fun g q hq => ?_, fun g g' q hg hg' => ?_⟩
  · rcases Dict.mem_setItem.1 hq with ⟨-, rfl⟩ | ⟨-, hq⟩
    · simp
    · simp only [List.length_append, List.length_singleton]; have := hlt g q hq; omega
  · rcases Dict.mem_setItem.1 hg with ⟨rfl, rfl⟩ | ⟨-, hold⟩ <;>
      rcases Dict.mem_setItem.1 hg' with ⟨rfl, he⟩ | ⟨-, hold'⟩
    · rfl
    · exact absurd (hlt g' _ hold') (lt_irrefl _)
    · exact absurd (hlt g _ (he ▸ hold)) (lt_irrefl _)
    · exact hinj g g' q hold hold'

/-- The constructor's loop stores a queue under each group it is given. -/
theorem keys_foldl_addGroup {g : DeviceGroup D} : ∀ (groups : List (DeviceGroup D))
    (t : Dict (DeviceGroup D) ℕ × List (List (Task α)) × List (Worker D α)),
    g ∈ (groups.foldl (addGroup procsPerDevice) t).1.keys ↔ g ∈ t.1.keys ∨ g ∈ groups
  | [], _ => by simp
  | group :: groups, ⟨tq, qs, ws⟩ => by
    rw [List.foldl_cons, keys_foldl_addGroup groups]
    show g ∈ (tq.setItem group qs.length).keys ∨ g ∈ groups ↔ _
    rw [Dict.mem_keys_setItem, List.mem_cons]
    tauto

/-- The constructor stores a queue of its own under each group it is given, and nothing
else. -/
theorem init_queuesApart (deviceGroups : List (DeviceGroup D)) :
    let s := (ShardingWorkQueue.init deviceGroups procsPerDevice : Shard D α β)
    QueuesApart s.taskQueues s.queues.length ∧ ∀ g, g ∈ s.taskQueues.keys ↔ g ∈ deviceGroups := by
  refine ⟨foldl_of_step
    (fun t : Dict (DeviceGroup D) ℕ × List (List (Task α)) × List (Worker D α) =>
      QueuesApart t.1 t.2.1.length)
    (fun t group _ h => h.addGroup procsPerDevice group) ⟨fun _ _ h => (nomatch h), fun _ _ _ h => nomatch h⟩,
    fun g => ?_⟩
  show g ∈ (deviceGroups.foldl (addGroup procsPerDevice) (.empty, [], [])).1.keys ↔ _
  rw [keys_foldl_addGroup]
  simp [Dict.empty, Dict.keys]

end Init

/-- A list of lists, concatenated, is its elements in index order. -/
theorem flatten_eq_range {γ : Type} : ∀ l : List (List γ),
    l.flatten = (List.range l.length).flatMap fun i => (l[i]?).getD []
  | [] => rfl
  | x :: l => by
    simp [List.range_succ_eq_map, List.flatMap_map, flatten_eq_range l]

/-- **The group queues hold the queued tasks.** When no two groups share a queue, the task
queues of the groups hold together exactly the tasks no worker has taken. -/
theorem Shard.Inv.groupQueues_perm {s : Shard D α β} (hi : s.Inv)
    (hinj : ∀ g g' q, (g, q) ∈ s.taskQueues.items → (g', q) ∈ s.taskQueues.items → g = g') :
    (s.taskQueues.keys.flatMap s.groupQueue).Perm s.queued := by
  set F : ℕ → List (Task α) := fun q => (s.queues[q]?).getD []
  set idx := s.taskQueues.items.map Prod.snd
  set rest := (List.range s.queues.length).filter fun q => !decide (q ∈ idx)
  have hkeys : (s.taskQueues.keys.flatMap s.groupQueue).Perm (idx.flatMap F) := by
    rw [Dict.keys, List.flatMap_map, List.flatMap_map]
    exact List.Perm.flatMap_left _ fun p hp => by
      rw [Shard.groupQueue, Dict.getItem_eq_ok.2 hp]
  have hnd : idx.Nodup :=
    List.Nodup.map_on (fun x hx y hy he => Prod.ext (hinj _ _ _ hx (he ▸ hy)) he)
      (List.Nodup.of_map Prod.fst s.taskQueues.nodup_keys)
  have hidx : ((List.range s.queues.length).filter fun q => decide (q ∈ idx)).Perm idx :=
    (List.perm_ext_iff_of_nodup ((List.nodup_range _).filter _) hnd).2 fun q => by
      simp only [List.mem_filter, List.mem_range, decide_eq_true_eq, and_iff_right_iff_imp]
      intro hq
      obtain ⟨⟨g, q'⟩, hp, rfl⟩ := List.mem_map.1 hq
      exact hi.queue_lt g _ hp
  have hrest : rest.flatMap F = [] := List.flatMap_eq_nil_iff.2 fun q hq =>
    List.eq_nil_iff_forall_not_mem.2 fun task ht => by
      obtain ⟨g, -, hg⟩ := hi.queued_group q task ht
      simp only [rest, List.mem_filter, Bool.not_eq_true', decide_eq_false_iff_not] at hq
      exact hq.2 (List.mem_map.2 ⟨(g, q), hg, rfl⟩)
  calc (s.taskQueues.keys.flatMap s.groupQueue).Perm (idx.flatMap F) := hkeys
    _ = idx.flatMap F ++ rest.flatMap F := by rw [hrest, List.append_nil]
    _ = (idx ++ rest).flatMap F := (List.flatMap_append _ _ _).symm
    List.Perm _ ((List.range s.queues.length).flatMap F) :=
      ((hidx.symm.append_right rest).trans (List.filter_append_perm _ _)).flatMap_right F
    _ = s.queued := by rw [Shard.queued, List.flatMap_id, flatten_eq_range]

/-- **What the progress UI shows during a run.** In every run from
`ShardingWorkQueue(device_groups, procs_per_device)` whose groups all have a device, whatever
the interleaving, the devices' answers and the order `sorted` puts groups in: `get_ui_lines`
returns; it shows each group the queue was given exactly once, with the size of the group's
task queue; these queues hold together exactly the tasks no worker has taken; and the
`tests remaining` count is their number plus the running and waiting tasks and the
`TaskError`s raised. -/
theorem progressUi_run {Ω : Type} (perform : D → α → Ω → Option β)
    (deviceGroups : List (DeviceGroup D)) (procsPerDevice : ℕ) (acts : List (Action D α Ω))
    (showWorkerStatus showDeviceGroups : Bool) (status : Worker D α → String) (info : GroupInfo D)
    {sorted : List (DeviceGroup D) → List (DeviceGroup D)} (hsorted : ∀ l, (sorted l).Perm l)
    (hdev : ∀ g ∈ deviceGroups, g.devices ≠ []) :
    let s := (ShardingWorkQueue.init deviceGroups procsPerDevice : Shard D α β).run perform acts
    let shown := sorted s.taskQueues.keys
    shown.Nodup ∧ (∀ g, g ∈ shown ↔ g ∈ deviceGroups) ∧
    (shown.flatMap s.groupQueue).Perm s.queued ∧
    s.numTasks = s.queued.length + s.running.length + s.waiting.length + s.raised.length ∧
    ∃ groupLines, TestProgressUi.getUiLines showWorkerStatus showDeviceGroups status info sorted s =
      .ok ((if showWorkerStatus then s.workers.map status else []) ++
        [countLine s.numTasks "tests remaining"] ++ groupLines) ∧
      if showDeviceGroups then shown.Forall₂ (fun g line =>
          ∃ d ds, g.devices = d :: ds ∧ line = countLine (s.groupQueue g).length (groupId info g d))
          groupLines
      else groupLines = [] := by
  intro s shown
  have hi : s.Inv := (init_inv deviceGroups procsPerDevice).1.run acts
  obtain ⟨happ, hkeys⟩ := init_queuesApart (α := α) (β := β) procsPerDevice deviceGroups
  have htq : s.taskQueues = (ShardingWorkQueue.init deviceGroups procsPerDevice : Shard D α β).taskQueues :=
    Shard.run_taskQueues acts
  have hmem : ∀ g, g ∈ shown ↔ g ∈ deviceGroups := fun g =>
    (hsorted _).mem_iff.trans (htq ▸ hkeys g)
  refine ⟨(hsorted _).nodup_iff.2 s.taskQueues.nodup_keys, hmem,
    ((hsorted _).flatMap_right _).trans (hi.groupQueues_perm (htq ▸ happ.inj)), hi.numTasks_eq,
    TestProgressUi.getUiLines_eq_ok info s showWorkerStatus showDeviceGroups status hsorted
      fun g hg => hdev g ((hmem g).1 hg)⟩

/-- Two groups, one task each; a worker of the second group has taken its task. -/
theorem progressUi_run_two_groups :
    let s := (ShardingWorkQueue.init [⟨[0]⟩, ⟨[1, 2]⟩] 1 : Shard ℕ String ℕ).run
      (fun d _ (_ : Unit) => some d) [.addTask ⟨[0]⟩ "a", .addTask ⟨[1, 2]⟩ "b", .take 1]
    let info : GroupInfo ℕ := ⟨fun _ => 21, fun _ => ["arm64-v8a"]⟩
    let shown := id s.taskQueues.keys
    shown.Nodup ∧ (∀ g, g ∈ shown ↔ g ∈ [⟨[0]⟩, ⟨[1, 2]⟩]) ∧
    (shown.flatMap s.groupQueue).Perm s.queued ∧
    s.numTasks = s.queued.length + s.running.length + s.waiting.length + s.raised.length ∧
    ∃ groupLines, TestProgressUi.getUiLines true true (fun _ => "") info id s =
      .ok ((if true then s.workers.map fun _ => "" else []) ++
        [countLine s.numTasks "tests remaining"] ++ groupLines) ∧
      if true then shown.Forall₂ (fun g line =>
          ∃ d ds, g.devices = d :: ds ∧ line = countLine (s.groupQueue g).length (groupId info g d))
          groupLines
      else groupLines = [] :=
  progressUi_run _ [⟨[0]⟩, ⟨[1, 2]⟩] 1 _ true true _ _ (fun l => List.Perm.refl l) (by decide)

end Ndk
