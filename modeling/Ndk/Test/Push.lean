import Ndk.Test.Driver
import Ndk.Test.Device

/-!
# Clearing the devices and pushing the tests

Between matching and the run phase `run_tests` prepares the devices. With `--clean-device`,
`clear_test_directories` adds a task per device of each of the fleet's groups, removing
`DEVICE_TEST_BASE_DIR` on it. `push_tests_to_devices` then adds a task per configuration,
group matched to it and device of the group, each making `DEVICE_TEST_BASE_DIR` on the device
and pushing the configuration's directory of built tests into it, and waits for all of them.
So a device whose group is matched to several configurations gets one push task for each,
not one in all. `find_configs_with_no_device` names the configurations matched to no group,
for a warning.

* `pushTestsToDevices_covers_runs`: **every execution of a test run happened on a device that
  was given a task pushing the directory of the test's configuration**, for every pairing,
  shuffle, completion order and outcome of the executions.
* `findConfigsWithNoDevice_iff`: **the configurations `find_configs_with_no_device` warns
  about are exactly those no push task is for, and none of their tests is paired with a
  group.**
-/

namespace Ndk

/-- A command the clear and push tasks send a device: `shell_nocheck(cmd)`,
`push(src, dest, sync)`, and `shell(cmd)`, which raises when the command fails. -/
inductive DeviceCommand
  | shellNocheck (cmd : List String)
  | push (src dest : String) (sync : Bool)
  | shell (cmd : List String)
  deriving DecidableEq

/-- `clear_test_directory(_worker, device)`: the command it sends the device. -/
def clearTestDirectory : List DeviceCommand := [.shellNocheck ["rm", "-r", deviceTestBaseDir]]

variable {C D : Type}

/-- `clear_test_directories(workqueue, fleet)`: the devices it adds a `clear_test_directory`
task for, in order, one per device of each of `fleet.get_unique_device_groups()`. -/
def clearTestDirectories (groups : List (DeviceGroup D)) : List D := groups.flatMap (·.devices)

/-- The arguments of a `push_tests_to_device` task. -/
structure PushTask (C D : Type) where
  srcDir : String
  destDir : String
  config : C
  device : D
  useSync : Bool
  deriving DecidableEq

/-- `push_tests_to_device(worker, src_dir, dest_dir, config, device, use_sync)`: the commands it
sends the device, in order, the `chmod` only when `sys.platform` is `win32`. -/
def pushTestsToDevice (win32 : Bool) (t : PushTask C D) : List DeviceCommand :=
  [.shellNocheck ["mkdir", t.destDir], .push t.srcDir t.destDir t.useSync] ++
    if win32 then [.shell ["chmod", "-R", "777", t.destDir]] else []

/-- `push_tests_to_devices(workqueue, test_dir, groups_for_config, use_sync)`: the tasks it adds,
in order, before it waits for all of them; `str(config)` is `strConfig`. -/
def pushTestsToDevices (host : Host) (strConfig : C → String) (testDir : String)
    (groupsForConfig : Dict C (List (DeviceGroup D))) (useSync : Bool) : List (PushTask C D) :=
  let destDir := deviceTestBaseDir
  groupsForConfig.items.flatMap fun (config, groups) =>
    let srcDir := host.join testDir (strConfig config)
    groups.flatMap fun group => group.devices.map fun device =>
      ⟨srcDir, destDir, config, device, useSync⟩

/-- `find_configs_with_no_device(groups_for_config)`. -/
def findConfigsWithNoDevice (groupsForConfig : Dict C (List (DeviceGroup D))) : List C :=
  (groupsForConfig.items.filter fun (_, gs) => gs.isEmpty).map Prod.fst

section Tasks

variable {host : Host} {strConfig : C → String} {testDir : String}
  {groupsForConfig : Dict C (List (DeviceGroup D))} {useSync : Bool}

/-- The push tasks: for each configuration's groups, one per device of a group, pushing the
configuration's directory. -/
theorem mem_pushTestsToDevices {t : PushTask C D} :
    t ∈ pushTestsToDevices host strConfig testDir groupsForConfig useSync ↔
      ∃ gs, (t.config, gs) ∈ groupsForConfig.items ∧ (∃ g ∈ gs, t.device ∈ g.devices) ∧
        t = ⟨host.join testDir (strConfig t.config), deviceTestBaseDir, t.config, t.device, useSync⟩ := by
  simp only [pushTestsToDevices, List.mem_flatMap, List.mem_map, Prod.exists]
  constructor
  · rintro ⟨c, gs, hc, g, hg, d, hd, rfl⟩
    exact ⟨gs, hc, ⟨g, hg, hd⟩, rfl⟩
  · rintro ⟨gs, hc, ⟨g, hg, hd⟩, ht⟩
    exact ⟨t.config, gs, hc, g, hg, t.device, hd, ht.symm⟩

/-- A key of a `dict` has one value. -/
theorem Dict.val_eq_of_mem [DecidableEq C] {d : Dict C (List (DeviceGroup D))} {c : C}
    {gs gs' : List (DeviceGroup D)} (h : (c, gs) ∈ d.items) (h' : (c, gs') ∈ d.items) : gs = gs' := by
  have := (Dict.getItem_eq_ok.2 h).symm.trans (Dict.getItem_eq_ok.2 h')
  exact Except.ok.inj this

end Tasks

/-! ### What pairing pairs -/

section Pairs

variable [DecidableEq C] {testGroups : Dict C (List (TestCase C))}
  {groupsForConfig : Dict C (List (DeviceGroup D))} {testRuns : List (TestRun C D)}

/-- **Pairing pairs a test case only with a group matched to its configuration.** -/
theorem pairTestRuns_mem (h : pairTestRuns testGroups groupsForConfig = .ok testRuns)
    {r : TestRun C D} (hr : r ∈ testRuns) :
    ∃ c tcs gs, (c, tcs) ∈ testGroups.items ∧ r.testCase ∈ tcs ∧ (c, gs) ∈ groupsForConfig.items ∧
      r.deviceGroup ∈ gs := by
  refine foldlM_ok_of_step (fun runs : List (TestRun C D) => ∀ r ∈ runs, ∃ c tcs gs,
      (c, tcs) ∈ testGroups.items ∧ r.testCase ∈ tcs ∧ (c, gs) ∈ groupsForConfig.items ∧
        r.deviceGroup ∈ gs) (fun runs item hitem runs' hruns hstep => ?_) (fun _ h => by cases h)
    h r hr
  obtain ⟨c, tcs⟩ := item
  by_cases ht : tcs.isEmpty = true
  · simp only [pairConfig, ht, if_true, except_pure, Except.ok.injEq] at hstep
    exact hstep ▸ hruns
  cases hg : groupsForConfig.getItem c with
  | error e => simp [pairConfig, ht, hg] at hstep
  | ok gs =>
    simp only [pairConfig, ht, Bool.false_eq_true, if_false, hg, except_ok_bind, except_pure,
      foldl_append_eq, Except.ok.injEq] at hstep
    subst hstep
    intro r hr
    rcases List.mem_append.1 hr with hr | hr
    · exact hruns r hr
    obtain ⟨g, hg', hr⟩ := List.mem_flatMap.1 hr
    obtain ⟨tc, htc, rfl⟩ := List.mem_map.1 hr
    exact ⟨c, tcs, gs, hitem, htc, Dict.getItem_eq_ok.1 hg, hg'⟩

end Pairs

/-! ### Each task on the group of its test run -/

namespace Shard

variable {α β : Type} [DecidableEq D] {s s' : Shard D α β}

/-- Every task was submitted on the group `grp` gives its argument. -/
def GroupedBy (grp : α → DeviceGroup D) (s : Shard D α β) : Prop :=
  ∀ p ∈ s.submitted, p.2 = grp p.1.arg

/-- `add_task` over a list, each argument on the group `grp` gives it, keeps `GroupedBy grp`. -/
theorem GroupedBy.addTasks {γ : Type} {group : γ → DeviceGroup D} {arg : γ → α}
    {grp : α → DeviceGroup D} (hg : ∀ x, group x = grp (arg x)) {xs : List γ}
    (h : xs.foldlM (fun s x => s.addTask (group x) (arg x)) s = .ok s') (hs : s.GroupedBy grp) :
    s'.GroupedBy grp := by
  refine foldlM_ok_of_step (GroupedBy grp) (fun s x _ s' hs hx => ?_) hs h
  obtain ⟨q, -, rfl⟩ := addTask_eq_ok hx
  intro p hp
  rcases List.mem_append.1 hp with hp | hp
  · exact hs p hp
  · rw [List.mem_singleton.1 hp]; exact hg x

end Shard

section Phase

variable [DecidableEq D] {deviceGroups : List (DeviceGroup D)} {testRuns : List (TestRun C D)}
  {sched₁ sched₂ : List (List (WorkerStep Execution))} {report : Report (TestRunRef C D)}
  {s : RunQueue C D}

/-- A run phase that returns leaves a queue whose invariant holds, on which every task was
submitted on the group of its test run. -/
theorem runPhase_grouped (h : runPhase deviceGroups testRuns sched₁ sched₂ = some (report, s)) :
    s.Inv ∧ s.GroupedBy fun a => a.2.deviceGroup := by
  obtain ⟨s₁, report₁, s₂, report₂, s₃, h₁, h₂, h₃, h₄⟩ := runPhase_eq_some h
  obtain ⟨hi₀, -⟩ : (ShardingWorkQueue.init deviceGroups 4 : RunQueue C D).Inv ∧ _ :=
    init_inv deviceGroups 4
  obtain ⟨hrun₁, -, -⟩ := Shard.addTasks_eq_ok runTest h₁
  have hi₁ : s₁.Inv := hrun₁ ▸ hi₀.run _
  have hs₁ : s₁.Sound fun a r => r.test = a := hrun₁ ▸ (init_sound _ _ _).run runTest_ok _
  have hg₁ : s₁.GroupedBy fun a => a.2.deviceGroup :=
    Shard.GroupedBy.addTasks (fun _ => rfl) h₁ fun _ hp => by cases hp
  obtain ⟨hi₂, hs₂, -, hsub₂, -⟩ := waitForResults_eq_some sched₁ hi₁ hs₁ h₂
  obtain ⟨-, hrun₃, -, -⟩ := restartFlakyTests_eq_ok h₃
  obtain ⟨s₃', hfold, hpure⟩ := except_bind_eq_ok.1 h₃
  cases hpure
  have hg₃ : s₃.GroupedBy fun a => a.2.deviceGroup :=
    Shard.GroupedBy.addTasks (fun _ => rfl) hfold fun p hp => hg₁ p (hsub₂ ▸ hp)
  obtain ⟨hi₄, -, -, hsub₄, -⟩ :=
    waitForResults_eq_some sched₂ (hrun₃ ▸ hi₂.run _) (hrun₃ ▸ hs₂.run runTest_ok _) h₄
  exact ⟨hi₄, fun p hp => hg₃ p (hsub₄ ▸ hp)⟩

/-- Every execution of the run phase was of one of its test runs. -/
theorem runPhase_executed_mem (h : runPhase deviceGroups testRuns sched₁ sched₂ = some (report, s))
    {e : Task (TestRunRef C D) × D} (he : e ∈ s.executed) : e.1.arg ∈ testRuns.enum := by
  obtain ⟨L₁, L₂, h₁, h₂, -, -, hexe⟩ := runPhase_rounds h
  have hmem := hexe.subset (List.mem_map_of_mem (·.1.arg) he)
  rw [List.map_append, List.mem_append] at hmem
  rcases hmem with hmem | hmem
  · exact h₁.subset hmem
  · obtain ⟨r, hr, hrt⟩ := List.mem_map.1 (h₂.subset hmem)
    exact hrt ▸ h₁.subset (List.mem_map_of_mem _ (List.mem_filter.1 hr).1)

/-- **Every test run executed on a device was pushed to it.** For every pairing of keyed test
groups with the groups matched to their configurations, every shuffle of the test runs, and
every completion order and outcome of the executions: when the run phase returns, every
execution happened on a device to which `push_tests_to_devices` gave a task pushing the
directory of the test's configuration into `DEVICE_TEST_BASE_DIR`. -/
theorem pushTestsToDevices_covers_runs [DecidableEq C] (host : Host) (strConfig : C → String)
    (testDir : String) (useSync : Bool) {testGroups : Dict C (List (TestCase C))}
    {groupsForConfig : Dict C (List (DeviceGroup D))} {shuffled : List (TestRun C D)}
    (hp : pairTestRuns testGroups groupsForConfig = .ok testRuns) (hk : Keyed testGroups)
    (hshuffle : shuffled.Perm testRuns)
    (hr : runPhase deviceGroups shuffled sched₁ sched₂ = some (report, s)) :
    ∀ e ∈ s.executed,
      ⟨host.join testDir (strConfig e.1.arg.2.testCase.config), deviceTestBaseDir,
        e.1.arg.2.testCase.config, e.2, useSync⟩ ∈
          pushTestsToDevices host strConfig testDir groupsForConfig useSync := by
  intro e he
  have hrun : e.1.arg.2 ∈ testRuns :=
    hshuffle.subset (List.snd_mem_of_mem_enum (runPhase_executed_mem hr he))
  obtain ⟨c, tcs, gs, htcs, htc, hgs, hg⟩ := pairTestRuns_mem hp hrun
  obtain ⟨hi, hgrp⟩ := runPhase_grouped hr
  obtain ⟨g, hsub, hd⟩ := hi.executed_on e.1 e.2 he
  have hgd : g = e.1.arg.2.deviceGroup := hgrp _ hsub
  rw [hgd] at hd
  rw [hk c tcs htcs _ htc]
  exact mem_pushTestsToDevices.2 ⟨gs, hgs, ⟨_, hg, hd⟩, rfl⟩

/-- A libc++ thread test run twice on one device, whose configuration's directory was pushed to it. -/
theorem pushTestsToDevices_covers_runs_retry :
    let tr : TestRun Unit ℕ := ⟨⟨"libc++.std/thread/a", (), "libc++"⟩, ⟨[0]⟩⟩
    let testGroups : Dict Unit (List (TestCase Unit)) := ⟨[((), [tr.testCase])], by decide⟩
    let groupsForConfig : Dict Unit (List (DeviceGroup ℕ)) := ⟨[((), [⟨[0]⟩])], by decide⟩
    let fail : Execution := ⟨none, none, 1, "", "emulator"⟩
    let pass : Execution := ⟨none, none, 0, "", "emulator"⟩
    ∃ report s, pairTestRuns testGroups groupsForConfig = .ok [tr] ∧ Keyed testGroups ∧
      runPhase [⟨[0]⟩] [tr] [[.take 0, .finish 0 fail]] [[.take 0, .finish 0 pass]] =
        some (report, s) ∧
      ∀ e ∈ s.executed, ⟨Posix.join "dist" "x86", deviceTestBaseDir, (), e.2, true⟩ ∈
        pushTestsToDevices .posix (fun _ => "x86") "dist" groupsForConfig true := by
  intro tr testGroups groupsForConfig fail pass
  have hp : pairTestRuns testGroups groupsForConfig = .ok [tr] := rfl
  have hk : Keyed testGroups := fun _ _ _ _ _ => rfl
  rcases h : runPhase [⟨[0]⟩] [tr] [[.take 0, .finish 0 fail]] [[.take 0, .finish 0 pass]] with
    _ | ⟨report, s⟩
  · have hs : (runPhase [⟨[0]⟩] [tr] [[.take 0, .finish 0 fail]] [[.take 0, .finish 0 pass]]).isSome := by
      decide
    rw [h] at hs; cases hs
  · exact ⟨report, s, hp, hk, rfl,
      pushTestsToDevices_covers_runs .posix (fun _ => "x86") "dist" true hp hk (List.Perm.refl _) h⟩

end Phase

/-! ### Configurations with no device -/

theorem mem_findConfigsWithNoDevice {groupsForConfig : Dict C (List (DeviceGroup D))} {c : C} :
    c ∈ findConfigsWithNoDevice groupsForConfig ↔ (c, []) ∈ groupsForConfig.items := by
  simp [findConfigsWithNoDevice]

section NoDevice

variable [DecidableEq C] {host : Host} {strConfig : C → String} {testDir : String} {useSync : Bool}
  {groupsForConfig : Dict C (List (DeviceGroup D))}

/-- **The configurations `find_configs_with_no_device` warns about are exactly those whose tests
go to no device.** When every group matched to a configuration has a device: a configuration
is reported exactly when it is matched and no push task is for it; and for keyed test groups,
pairing pairs none of its test cases. -/
theorem findConfigsWithNoDevice_iff {testGroups : Dict C (List (TestCase C))}
    {testRuns : List (TestRun C D)}
    (hne : ∀ c gs, (c, gs) ∈ groupsForConfig.items → ∀ g ∈ gs, g.devices ≠ [])
    (hp : pairTestRuns testGroups groupsForConfig = .ok testRuns) (hk : Keyed testGroups) (c : C) :
    (c ∈ findConfigsWithNoDevice groupsForConfig ↔ c ∈ groupsForConfig.keys ∧
      ∀ t ∈ pushTestsToDevices host strConfig testDir groupsForConfig useSync, t.config ≠ c) ∧
    (c ∈ findConfigsWithNoDevice groupsForConfig → ∀ r ∈ testRuns, r.testCase.config ≠ c) := by
  rw [mem_findConfigsWithNoDevice]
  refine ⟨⟨fun h => ⟨List.mem_map_of_mem Prod.fst h, fun t ht htc => ?_⟩, fun ⟨hc, hno⟩ => ?_⟩,
    fun h r hr hrc => ?_⟩
  · obtain ⟨gs, hgs, ⟨g, hg, -⟩, -⟩ := mem_pushTestsToDevices.1 ht
    rw [htc] at hgs
    rw [Dict.val_eq_of_mem hgs h] at hg
    exact List.not_mem_nil g hg
  · obtain ⟨⟨c', gs⟩, hgs, rfl⟩ := List.mem_map.1 hc
    cases gs with
    | nil => exact hgs
    | cons g gs =>
      obtain ⟨d, hd⟩ := List.exists_mem_of_ne_nil _ (hne c' _ hgs g (List.mem_cons_self g gs))
      exact absurd rfl (hno _ (mem_pushTestsToDevices.2 ⟨g :: gs, hgs, ⟨g, List.mem_cons_self g gs, hd⟩,
        (rfl : (⟨host.join testDir (strConfig c'), deviceTestBaseDir, c', d, useSync⟩ : PushTask C D) = _)⟩))
  · obtain ⟨c', tcs, gs, htcs, htc, hgs, hg⟩ := pairTestRuns_mem hp hr
    obtain rfl : c' = c := (hk c' tcs htcs _ htc).symm.trans hrc
    rw [Dict.val_eq_of_mem hgs h] at hg
    exact List.not_mem_nil _ hg

/-- An API 28 configuration matched to no group: warned about, pushed nowhere, and paired with nothing. -/
theorem findConfigsWithNoDevice_iff_api28 :
    let testGroups : Dict ℕ (List (TestCase ℕ)) :=
      ⟨[(24, [⟨"a", 24, "cmake"⟩]), (28, [⟨"b", 28, "ndk-build"⟩])], by decide⟩
    let groupsForConfig : Dict ℕ (List (DeviceGroup ℕ)) := ⟨[(24, [⟨[24]⟩]), (28, [])], by decide⟩
    let testRuns : List (TestRun ℕ ℕ) := [⟨⟨"a", 24, "cmake"⟩, ⟨[24]⟩⟩]
    (∀ c gs, (c, gs) ∈ groupsForConfig.items → ∀ g ∈ gs, g.devices ≠ []) ∧
      pairTestRuns testGroups groupsForConfig = .ok testRuns ∧ Keyed testGroups ∧
      (28 ∈ findConfigsWithNoDevice groupsForConfig ↔ 28 ∈ groupsForConfig.keys ∧
        ∀ t ∈ pushTestsToDevices .posix toString "dist" groupsForConfig false, t.config ≠ 28) ∧
      (28 ∈ findConfigsWithNoDevice groupsForConfig → ∀ r ∈ testRuns, r.testCase.config ≠ 28) := by
  intro testGroups groupsForConfig testRuns
  have hne : ∀ c gs, (c, gs) ∈ groupsForConfig.items → ∀ g ∈ gs, g.devices ≠ [] := by
    intro c gs h g hg
    simp only [groupsForConfig, List.mem_cons, Prod.mk.injEq, List.not_mem_nil, or_false] at h
    rcases h with ⟨-, rfl⟩ | ⟨-, rfl⟩ <;> simp at hg
    subst hg; simp
  have hp : pairTestRuns testGroups groupsForConfig = .ok testRuns := rfl
  have hk : Keyed testGroups := by
    intro c tcs h tc htc
    simp only [testGroups, List.mem_cons, Prod.mk.injEq, List.not_mem_nil, or_false] at h
    rcases h with ⟨rfl, rfl⟩ | ⟨rfl, rfl⟩ <;> simp at htc <;> subst htc <;> rfl
  exact ⟨hne, hp, hk, findConfigsWithNoDevice_iff hne hp hk 28⟩

end NoDevice

end Ndk
