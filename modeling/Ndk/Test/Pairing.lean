import Ndk.Test.Basic
import Mathlib.Data.List.Perm.Basic

/-!
# Matching configurations to device groups, and pairing tests with groups

`match_configs_to_device_groups` keeps, for each configuration, the groups whose first
device can run it; `pair_test_runs` pairs every test case of a configuration with each of
those groups.

* `matchConfigsToDeviceGroups_getItem`: on non-empty groups the matching raises nothing and
  maps each configuration to the groups whose first device can run it.
* `pairTestRuns_perm`: on a fleet of non-empty groups whose devices agree, the pairing raises
  nothing and yields each test case once with each group all of whose devices can run it.
-/

namespace Ndk

variable {C D : Type} [DecidableEq C] (canRunBuildConfig : D → C → Bool)

/-- The body of the loop over groups in `match_configs_to_device_groups`. -/
def matchGroup (config : C) (groupsForConfig : Dict C (List (DeviceGroup D)))
    (group : DeviceGroup D) : Except PyError (Dict C (List (DeviceGroup D))) := do
  -- All devices in the group are identical.
  let device ← getItem group.devices 0
  if !canRunBuildConfig device config then return groupsForConfig
  let gs ← groupsForConfig.getItem config
  return groupsForConfig.setItem config (gs ++ [group])

/-- `match_configs_to_device_groups(fleet, configs)`, over the list
`fleet.get_unique_device_groups()` returns (the same list at every call). -/
def matchConfigsToDeviceGroups (groups : List (DeviceGroup D)) (configs : List C) :
    Except PyError (Dict C (List (DeviceGroup D))) :=
  configs.foldlM (fun groupsForConfig config =>
      groups.foldlM (matchGroup canRunBuildConfig config) groupsForConfig)
    (Dict.fromKeys configs [])

/-- The body of the loop over `test_groups.items()` in `pair_test_runs`. -/
def pairConfig (groupsForConfig : Dict C (List (DeviceGroup D))) (testRuns : List (TestRun C D))
    (item : C × List (TestCase C)) : Except PyError (List (TestRun C D)) := do
  let (config, testCases) := item
  if testCases.isEmpty then return testRuns
  let groups ← groupsForConfig.getItem config
  return groups.foldl (fun testRuns group => testRuns ++ testCases.map (TestRun.mk · group)) testRuns

/-- `pair_test_runs(test_groups, groups_for_config)`. -/
def pairTestRuns (testGroups : Dict C (List (TestCase C)))
    (groupsForConfig : Dict C (List (DeviceGroup D))) : Except PyError (List (TestRun C D)) :=
  testGroups.items.foldlM (pairConfig groupsForConfig) []

/-- Every device of the group can run the configuration. -/
def canRunAll (config : C) (group : DeviceGroup D) : Bool :=
  group.devices.all (canRunBuildConfig · config)

/-- What the fleet promises of its groups: none is empty, and the devices of a group agree on
what they can run. -/
structure Uniform (groups : List (DeviceGroup D)) : Prop where
  ne_nil : ∀ g ∈ groups, g.devices ≠ []
  agree : ∀ g ∈ groups, ∀ d ∈ g.devices, ∀ d' ∈ g.devices, ∀ c,
    canRunBuildConfig d c = canRunBuildConfig d' c

variable {canRunBuildConfig} {groups : List (DeviceGroup D)}

omit [DecidableEq C] in
/-- The first device of a group of a uniform fleet stands for the whole group. -/
theorem Uniform.getItem_zero (hu : Uniform canRunBuildConfig groups) {g : DeviceGroup D}
    (hg : g ∈ groups) (c : C) :
    ∃ d, getItem g.devices 0 = .ok d ∧ canRunBuildConfig d c = canRunAll canRunBuildConfig c g := by
  obtain ⟨d, l, hl⟩ := List.exists_cons_of_ne_nil (hu.ne_nil g hg)
  have hd : d ∈ g.devices := by simp [hl]
  refine ⟨d, by simp [getItem, hl], ?_⟩
  by_cases hc : canRunBuildConfig d c = true
  · have : canRunAll canRunBuildConfig c g = true := List.all_eq_true.2
      fun d' hd' => (hu.agree g hg d' hd' d hd c).trans hc
    rw [hc, this]
  · have : canRunAll canRunBuildConfig c g = false := List.all_eq_false.2 ⟨d, hd, hc⟩
    rw [Bool.eq_false_iff.2 hc, this]

/-- One step of the inner loop appends the group to the configuration's list when the group
can run it, and touches no other key. -/
theorem matchGroup_eq (hu : Uniform canRunBuildConfig groups) {g : DeviceGroup D} (hg : g ∈ groups)
    {c : C} {d : Dict C (List (DeviceGroup D))} {xs : List (DeviceGroup D)}
    (hxs : d.getItem c = .ok xs) : ∃ d', matchGroup canRunBuildConfig c d g = .ok d' ∧
      ∀ k, d'.getItem k = if k = c then .ok (xs ++ [g].filter (canRunAll canRunBuildConfig c))
        else d.getItem k := by
  obtain ⟨dev, hdev, hrun⟩ := hu.getItem_zero hg c
  by_cases hc : canRunAll canRunBuildConfig c g
  · refine ⟨d.setItem c (xs ++ [g]), ?_, fun k => ?_⟩
    · simp [matchGroup, hdev, hrun, hc, hxs]
    · simp [Dict.getItem_setItem, hc]
  · refine ⟨d, ?_, fun k => ?_⟩
    · simp [matchGroup, hdev, hrun, hc]
    · by_cases hk : k = c <;> simp [hk, hc, hxs]

/-- The loop over groups for one configuration. -/
theorem foldlM_matchGroup (hu : Uniform canRunBuildConfig groups) (c : C) :
    ∀ {gs : List (DeviceGroup D)}, gs ⊆ groups → ∀ {d : Dict C (List (DeviceGroup D))} {xs},
      d.getItem c = .ok xs → ∃ d', gs.foldlM (matchGroup canRunBuildConfig c) d = .ok d' ∧
        ∀ k, d'.getItem k =
          if k = c then .ok (xs ++ gs.filter (canRunAll canRunBuildConfig c)) else d.getItem k
  | [], _, d, xs, hxs => ⟨d, rfl, fun k => by by_cases hk : k = c <;> simp [hk, hxs]⟩
  | g :: gs, hsub, d, xs, hxs => by
    obtain ⟨d₁, h₁, hd₁⟩ := matchGroup_eq hu (hsub (List.mem_cons_self g gs)) hxs
    have hc₁ : d₁.getItem c = .ok (xs ++ [g].filter (canRunAll canRunBuildConfig c)) := by
      simp [hd₁]
    obtain ⟨d', h', hd'⟩ := foldlM_matchGroup hu c (fun x hx => hsub (List.mem_cons_of_mem g hx)) hc₁
    refine ⟨d', by simp [h₁, h'], fun k => ?_⟩
    rw [hd', hd₁]
    by_cases hk : k = c
    · by_cases hg : canRunAll canRunBuildConfig c g <;> simp [hk, hg, List.filter_cons]
    · simp [hk]

/-- The loop over distinct configurations, each still mapped to `[]`. -/
theorem foldlM_configs (hu : Uniform canRunBuildConfig groups) :
    ∀ {cs : List C}, cs.Nodup → ∀ {d : Dict C (List (DeviceGroup D))}, (∀ c ∈ cs, d.getItem c = .ok []) →
      ∃ d', cs.foldlM (fun d c => groups.foldlM (matchGroup canRunBuildConfig c) d) d = .ok d' ∧
        ∀ k, d'.getItem k =
          if k ∈ cs then .ok (groups.filter (canRunAll canRunBuildConfig k)) else d.getItem k
  | [], _, d, _ => ⟨d, rfl, fun k => by simp⟩
  | c :: cs, hnd, d, hd => by
    obtain ⟨d₁, h₁, hd₁⟩ := foldlM_matchGroup hu c (fun _ h => h) (hd c (List.mem_cons_self c cs))
    have hnd' := List.nodup_cons.1 hnd
    have hcs : ∀ c' ∈ cs, d₁.getItem c' = .ok [] := fun c' hc' => by
      rw [hd₁, if_neg (by rintro rfl; exact hnd'.1 hc')]; exact hd c' (List.mem_cons_of_mem c hc')
    obtain ⟨d', h', hd'⟩ := foldlM_configs hu hnd'.2 hcs
    refine ⟨d', by simp [h₁, h'], fun k => ?_⟩
    rw [hd', hd₁]
    by_cases hk : k = c
    · subst hk; simp [hnd'.1]
    · simp [hk]

/-- **Matching raises nothing**, and maps each of distinct configurations to the groups all of
whose devices can run it, in fleet order. -/
theorem matchConfigsToDeviceGroups_getItem (hu : Uniform canRunBuildConfig groups)
    {configs : List C} (hnd : configs.Nodup) :
    ∃ d, matchConfigsToDeviceGroups canRunBuildConfig groups configs = .ok d ∧
      ∀ c ∈ configs, d.getItem c = .ok (groups.filter (canRunAll canRunBuildConfig c)) := by
  obtain ⟨d, h, hd⟩ := foldlM_configs hu hnd (d := Dict.fromKeys configs [])
    (fun c hc => by simp [Dict.getItem_fromKeys, hc])
  exact ⟨d, h, fun c hc => by simp [hd, hc]⟩

theorem foldl_append_eq {α β : Type*} (f : α → List β) :
    ∀ (l : List α) (acc : List β), l.foldl (fun acc x => acc ++ f x) acc = acc ++ l.flatMap f
  | [], acc => by simp
  | x :: l, acc => by simp [foldl_append_eq f l, List.append_assoc]

/-- Pairing raises nothing when every configuration with tests has a list of groups, and lists
the groups of each configuration in turn, each with all of its tests. -/
theorem pairTestRuns_eq (G : C → List (DeviceGroup D)) (groupsForConfig : Dict C (List (DeviceGroup D))) :
    ∀ (items : List (C × List (TestCase C))) (acc : List (TestRun C D)),
      (∀ p ∈ items, p.2 ≠ [] → groupsForConfig.getItem p.1 = .ok (G p.1)) →
      items.foldlM (pairConfig groupsForConfig) acc = .ok (acc ++ items.flatMap fun p => (G p.1).flatMap fun g => p.2.map (TestRun.mk · g))
  | [], acc, _ => by simp
  | (c, tcs) :: items, acc, h => by
    have ih := pairTestRuns_eq G groupsForConfig items
    rw [List.foldlM_cons]
    by_cases ht : tcs = []
    · subst ht
      have hnil : ((G c).flatMap fun _ => ([] : List (TestRun C D))) = [] :=
        List.flatMap_eq_nil_iff.2 fun _ _ => rfl
      simpa [pairConfig, hnil] using ih acc (fun p hp => h p (List.mem_cons_of_mem _ hp))
    · have hg := h (c, tcs) (List.mem_cons_self _ _) ht
      simp only at hg
      simp only [pairConfig, List.isEmpty_iff, ht, if_false, hg, except_ok_bind, except_pure,
        foldl_append_eq, ih _ (fun p hp => h p (List.mem_cons_of_mem _ hp))]
      simp

theorem flatMap_map_perm {α β γ : Type*} (f : α → β → γ) :
    ∀ (gs : List β) (tcs : List α),
      (gs.flatMap fun g => tcs.map (f · g)).Perm (tcs.flatMap fun tc => gs.map (f tc))
  | [], tcs => by simp
  | g :: gs, tcs => by
    rw [List.flatMap_cons]
    refine ((flatMap_map_perm f gs tcs).append_left _).trans ?_
    simpa [List.map_eq_flatMap] using List.flatMap_append_perm tcs (fun tc => [f tc g])
      (fun tc => gs.map (f tc))

omit [DecidableEq C] in
/-- What `enumerate_tests` promises of the test groups: each test case is listed under its own
configuration. -/
def Keyed (testGroups : Dict C (List (TestCase C))) : Prop :=
  ∀ c tcs, (c, tcs) ∈ testGroups.items → ∀ tc ∈ tcs, tc.config = c

/-- **Matching and pairing raise nothing** on a fleet of non-empty groups whose devices agree:
they list, configuration by configuration, each group all of whose devices can run it, with all
of the configuration's tests. -/
theorem matchPairTestRuns_eq (hu : Uniform canRunBuildConfig groups) (testGroups : Dict C (List (TestCase C))) :
    (matchConfigsToDeviceGroups canRunBuildConfig groups testGroups.keys >>= pairTestRuns testGroups) =
      .ok (testGroups.items.flatMap fun p =>
        (groups.filter (canRunAll canRunBuildConfig p.1)).flatMap fun g => p.2.map (TestRun.mk · g)) := by
  obtain ⟨d, hd, hget⟩ := matchConfigsToDeviceGroups_getItem hu
    (show testGroups.keys.Nodup from testGroups.nodup_keys)
  have hpair := pairTestRuns_eq (fun c => groups.filter (canRunAll canRunBuildConfig c)) d
    testGroups.items [] (fun p hp _ => hget p.1 (List.mem_map.2 ⟨p, hp, rfl⟩))
  rw [hd, except_ok_bind, pairTestRuns, hpair, List.nil_append]

omit [DecidableEq C] in
/-- Over keyed test groups, the runs listed configuration by configuration are each test case
once with each group all of whose devices can run its configuration. -/
theorem pairedRuns_perm_of_keyed (testGroups : Dict C (List (TestCase C))) (hcfg : Keyed testGroups) :
    (testGroups.items.flatMap fun p =>
        (groups.filter (canRunAll canRunBuildConfig p.1)).flatMap fun g => p.2.map (TestRun.mk · g)).Perm
      ((testGroups.items.flatMap Prod.snd).flatMap fun tc =>
        (groups.filter (canRunAll canRunBuildConfig tc.config)).map (TestRun.mk tc)) := by
  rw [List.flatMap_assoc]
  refine List.Perm.flatMap_left _ fun p hp => (flatMap_map_perm _ _ _).trans
    (List.Perm.of_eq (List.flatMap_congr fun tc htc => ?_))
  rw [hcfg p.1 p.2 hp tc htc]

omit [DecidableEq C] in
/-- A test case paired with a group that can run its configuration runs only on devices that
can. -/
theorem canRun_of_mem_runs {tcs : List (TestCase C)} {r : TestRun C D}
    (hr : r ∈ tcs.flatMap fun tc => (groups.filter (canRunAll canRunBuildConfig tc.config)).map (TestRun.mk tc)) :
    ∀ d ∈ r.deviceGroup.devices, canRunBuildConfig d r.testCase.config = true := fun dev hdev => by
  obtain ⟨tc, -, hr⟩ := List.mem_flatMap.1 hr
  obtain ⟨g, hg, rfl⟩ := List.mem_map.1 hr
  exact List.all_eq_true.1 (List.mem_filter.1 hg).2 dev hdev

/-- **Pairing on a uniform fleet.** On a fleet of non-empty groups whose devices agree, and
test groups whose cases are listed under their own configuration, matching and pairing raise
nothing, yield each test case once with each group all of whose devices can run its
configuration, and bind no test to a device that cannot run it. -/
theorem pairTestRuns_perm (hu : Uniform canRunBuildConfig groups)
    (testGroups : Dict C (List (TestCase C)))
    (hcfg : ∀ c tcs, (c, tcs) ∈ testGroups.items → ∀ tc ∈ tcs, tc.config = c) :
    ∃ runs, (matchConfigsToDeviceGroups canRunBuildConfig groups testGroups.keys >>=
        pairTestRuns testGroups) = .ok runs ∧
      runs.Perm ((testGroups.items.flatMap Prod.snd).flatMap fun tc =>
        (groups.filter (canRunAll canRunBuildConfig tc.config)).map (TestRun.mk tc)) ∧
      ∀ r ∈ runs, ∀ d ∈ r.deviceGroup.devices, canRunBuildConfig d r.testCase.config = true :=
  have hperm := pairedRuns_perm_of_keyed testGroups hcfg
  ⟨_, matchPairTestRuns_eq hu testGroups, hperm, fun _ hr => canRun_of_mem_runs (hperm.subset hr)⟩

/-- The spec's fleet: two android-24 devices in one group and an android-30 device in another;
tests built for API 24 and API 28. -/
theorem pairTestRuns_perm_spec_fleet :
    let canRun : ℕ → ℕ → Bool := fun device config => decide (config ≤ device)
    let groups : List (DeviceGroup ℕ) := [⟨[24, 24]⟩, ⟨[30]⟩]
    let testGroups : Dict ℕ (List (TestCase ℕ)) :=
      ⟨[(24, [⟨"a", 24, "cmake"⟩]), (28, [⟨"b", 28, "ndk-build"⟩])], by decide⟩
    Uniform canRun groups ∧ (∀ c tcs, (c, tcs) ∈ testGroups.items → ∀ tc ∈ tcs, tc.config = c) ∧
      ∃ runs, (matchConfigsToDeviceGroups canRun groups testGroups.keys >>=
          pairTestRuns testGroups) = .ok runs ∧
        runs.Perm ((testGroups.items.flatMap Prod.snd).flatMap fun tc =>
          (groups.filter (canRunAll canRun tc.config)).map (TestRun.mk tc)) ∧
        ∀ r ∈ runs, ∀ d ∈ r.deviceGroup.devices, canRun d r.testCase.config = true :=
  have hu : Uniform (fun device config => decide (config ≤ device)) [⟨[24, 24]⟩, ⟨[30]⟩] :=
    ⟨by decide, fun g hg d hd d' hd' c => by
      simp only [List.mem_cons, List.mem_singleton, List.not_mem_nil, or_false] at hg
      rcases hg with rfl | rfl <;> simp at hd hd' <;> simp [hd, hd']⟩
  have hcfg : ∀ c tcs, (c, tcs) ∈ [(24, [⟨"a", 24, "cmake"⟩]), (28, [⟨"b", 28, "ndk-build"⟩])] →
      ∀ tc ∈ tcs, TestCase.config tc = c := by
    intro c tcs h tc htc
    simp only [List.mem_cons, Prod.mk.injEq, List.mem_singleton, List.not_mem_nil, or_false] at h
    rcases h with ⟨rfl, rfl⟩ | ⟨rfl, rfl⟩ <;> simp at htc <;> subst htc <;> rfl
  ⟨hu, hcfg, pairTestRuns_perm hu _ hcfg⟩

end Ndk
