import Ndk.Test.Libcxx
import Ndk.Test.Pairing

/-!
# Discovering the tests to run

`enumerate_tests` lists the configuration directories of the test directory, keeps those the
configuration filter accepts, and extends each configuration's list with what the scanners of
`test_subdir_class_map` find for it: `enumerate_basic_tests` for `cmake` and `ndk-build`,
`enumerate_libcxx_tests` for `libcxx`. The file system is given as what `os.listdir` and
`os.walk` return; `BuildConfiguration.from_string`, the configuration filter and the test
filter are parameters, since `ndk.test.spec` and `ndk.test.filters` are not part of the sources.

* `enumerateBasicTests_eq`: a basic test for each file of each test that is neither a library
  nor a script and whose name `suite.file` the test filter accepts, in listing order.
* `enumerateTests_keyed`: every discovered test case is listed under its own configuration,
  and only configurations the filter accepts are listed.
* `enumerateTests_pairTestRuns`: so the discovered tests pair, on a fleet of non-empty groups
  whose devices agree, each with every group that can run it and with no other.
-/

namespace Ndk

variable {C : Type}

/-- `BasicTestCase(suite, executable, ...)`, with the fields the modelled code reads. -/
def BasicTestCase.init (suite executable : String) (config : C) (buildSystem : String) :
    TestCase C :=
  ⟨Str.join "." [suite, executable], config, buildSystem⟩

/-- A `LibcxxTestCase` of a configuration as the `TestCase` it is: its build system is
`'libc++'`. -/
def LibcxxTestCase.toTestCase (t : LibcxxTestCase) (config : C) : TestCase C :=
  ⟨t.name, config, "libc++"⟩

/-- The body of `enumerate_basic_tests`'s loop over the files of one test. -/
def basicFile (testFilter : String → Bool) (buildCfg : C) (buildSystem testSubdir : String)
    (tests : List (TestCase C)) (testFile : String) : List (TestCase C) :=
  if Str.endswith testFile ".so" then tests
  else if Str.endswith testFile ".sh" then tests
  else if !testFilter (Str.join "." [testSubdir, testFile]) then tests
  else tests ++ [BasicTestCase.init testSubdir testFile buildCfg buildSystem]

/-- `enumerate_basic_tests(out_dir_base, test_src_dir, build_cfg, build_system, test_filter)`
over what the tests directory holds: nothing when it does not exist, else each test's
directory with the files of its ABI's directory. -/
def enumerateBasicTests (testFilter : String → Bool) (buildCfg : C) (buildSystem : String) :
    Option (List (String × List String)) → List (TestCase C)
  | none => []
  | some testSubdirs => testSubdirs.foldl
      (fun tests dir => dir.2.foldl (basicFile testFilter buildCfg buildSystem dir.1) tests) []

/-- What the scanners read below the test directory: the names `os.listdir` gives for it;
for a configuration and a test type, the tests of the basic layout (none when that directory
does not exist) and the walk of the libc++ layout, as suite names with their files. -/
structure TestDir (C : Type) where
  configs : List String
  basic : C → String → Option (List (String × List String))
  walk : C → String → List (String × List String)

/-- The scanners `test_subdir_class_map` names. -/
inductive Scanner
  | basic
  | libcxx

/-- `test_subdir_class_map.items()`, in the order of the literal: Python 2 iterates a dict
in the order of its hashes, which changes only the order of each configuration's tests. -/
def testSubdirClassMap : List (String × Scanner) :=
  [("cmake", .basic), ("libcxx", .libcxx), ("ndk-build", .basic)]

/-- `scan_for_tests(test_dir, test_src_dir, build_cfg, test_type, test_filter)`. -/
def Scanner.scan (host : Host) (testFilter : String → Bool) (dir : TestDir C) (buildCfg : C)
    (testType : String) : Scanner → Except PyError (List (TestCase C))
  | basic => .ok (enumerateBasicTests testFilter buildCfg testType (dir.basic buildCfg testType))
  | libcxx => (·.map (LibcxxTestCase.toTestCase · buildCfg)) <$>
      enumerateLibcxxTests host testFilter (dir.walk buildCfg testType)

section Enumerate

variable [DecidableEq C] (host : Host) (fromString : String → Except PyError C)
  (configFilter : C → Bool) (testFilter : String → Bool) (dir : TestDir C)

/-- The body of `enumerate_tests`'s loop over the test types of one configuration:
`tests[build_cfg].extend(scan_for_tests(...))`. -/
def scanType (buildCfg : C) (tests : Dict C (List (TestCase C))) (entry : String × Scanner) :
    Except PyError (Dict C (List (TestCase C))) := do
  let current ← tests.getItem buildCfg
  let found ← entry.2.scan host testFilter dir buildCfg entry.1
  pure (tests.setItem buildCfg (current ++ found))

/-- The body of `enumerate_tests`'s loop over the configuration directories. -/
def scanConfig (tests : Dict C (List (TestCase C))) (buildCfgStr : String) :
    Except PyError (Dict C (List (TestCase C))) := do
  let buildCfg ← fromString buildCfgStr
  if !configFilter buildCfg then return tests
  let tests := if buildCfg ∈ tests.keys then tests else tests.setItem buildCfg []
  testSubdirClassMap.foldlM (scanType host testFilter dir buildCfg) tests

/-- `enumerate_tests(test_dir, test_src_dir, test_filter, config_filter)`. -/
def enumerateTests : Except PyError (Dict C (List (TestCase C))) :=
  dir.configs.foldlM (scanConfig host fromString configFilter testFilter dir) .empty

end Enumerate

/-! ### The basic layout -/

section Basic

variable (testFilter : String → Bool) (buildCfg : C) (buildSystem : String)

/-- What `enumerate_basic_tests` makes of a file of a test: a test when the file is neither a
library nor a script and the test filter accepts `suite.file`. -/
def basicAccepts (testSubdir testFile : String) : Bool :=
  !Str.endswith testFile ".so" && !Str.endswith testFile ".sh" &&
    testFilter (Str.join "." [testSubdir, testFile])

theorem basicFile_eq (testSubdir : String) :
    basicFile testFilter buildCfg buildSystem testSubdir = fun tests testFile =>
      tests ++ if basicAccepts testFilter testSubdir testFile
        then [BasicTestCase.init testSubdir testFile buildCfg buildSystem] else [] := by
  funext tests testFile
  unfold basicFile basicAccepts
  by_cases h₁ : Str.endswith testFile ".so" <;> by_cases h₂ : Str.endswith testFile ".sh" <;>
    by_cases h₃ : testFilter (Str.join "." [testSubdir, testFile]) <;> simp [h₁, h₂, h₃]

theorem flatMap_ite_singleton {α β : Type*} (p : α → Bool) (f : α → β) :
    ∀ l : List α, (l.flatMap fun x => if p x then [f x] else []) = (l.filter p).map f
  | [] => rfl
  | x :: l => by by_cases hx : p x <;> simp [hx, List.filter_cons, flatMap_ite_singleton p f l]

/-- **`enumerate_basic_tests`**: for each test of the listing in turn, a test for each of its
files that is neither a library nor a script and whose name the filter accepts. -/
theorem enumerateBasicTests_eq (testSubdirs : List (String × List String)) :
    enumerateBasicTests testFilter buildCfg buildSystem (some testSubdirs) =
      testSubdirs.flatMap fun dir => (dir.2.filter (basicAccepts testFilter dir.1)).map
        (BasicTestCase.init dir.1 · buildCfg buildSystem) := by
  have hdir : ∀ (dir : String × List String) tests,
      dir.2.foldl (basicFile testFilter buildCfg buildSystem dir.1) tests =
        tests ++ (dir.2.filter (basicAccepts testFilter dir.1)).map
          (BasicTestCase.init dir.1 · buildCfg buildSystem) := fun dir tests => by
    rw [basicFile_eq, foldl_append_eq, flatMap_ite_singleton]
  simp only [enumerateBasicTests, hdir, foldl_append_eq, List.nil_append]

/-- Every basic test is named `suite.file` from a file of the listing that is neither a
library nor a script, has the configuration and build system it was found under, and the test
filter accepts its name. -/
theorem mem_enumerateBasicTests {listing : Option (List (String × List String))} {tc : TestCase C}
    (h : tc ∈ enumerateBasicTests testFilter buildCfg buildSystem listing) :
    ∃ dir ∈ listing.getD [], ∃ testFile ∈ dir.2, tc = BasicTestCase.init dir.1 testFile buildCfg buildSystem ∧
      Str.endswith testFile ".so" = false ∧ Str.endswith testFile ".sh" = false ∧
      testFilter tc.name = true := by
  cases listing with
  | none => cases h
  | some testSubdirs =>
    rw [enumerateBasicTests_eq] at h
    obtain ⟨dir, hdir, h⟩ := List.mem_flatMap.1 h
    obtain ⟨testFile, hf, rfl⟩ := List.mem_map.1 h
    obtain ⟨hf, hacc⟩ := List.mem_filter.1 hf
    simp only [basicAccepts, Bool.and_eq_true, Bool.not_eq_true'] at hacc
    exact ⟨dir, hdir, testFile, hf, rfl, hacc.1.1, hacc.1.2, hacc.2⟩

end Basic

/-! ### Test groups keyed by configuration -/

section Keyed

variable [DecidableEq C] {host : Host} {fromString : String → Except PyError C}
  {configFilter : C → Bool} {testFilter : String → Bool} {dir : TestDir C}

omit [DecidableEq C] in
/-- A scanner run for a configuration finds only test cases of that configuration. -/
theorem Scanner.scan_config {buildCfg : C} {testType : String} {sc : Scanner}
    {found : List (TestCase C)} (h : sc.scan host testFilter dir buildCfg testType = .ok found) :
    ∀ tc ∈ found, tc.config = buildCfg := by
  cases sc with
  | basic =>
    cases h
    intro tc htc
    obtain ⟨_, -, _, -, rfl, -⟩ := mem_enumerateBasicTests testFilter buildCfg testType htc
    rfl
  | libcxx =>
    obtain ⟨ts, -, rfl⟩ := map_eq_ok.1 h
    intro tc htc
    obtain ⟨t, -, rfl⟩ := List.mem_map.1 htc
    rfl

/-- What `enumerate_tests` keeps true of its dict: every test case is listed under its own
configuration, and every listed configuration passed the configuration filter. -/
def KeyedBy (configFilter : C → Bool) (tests : Dict C (List (TestCase C))) : Prop :=
  Keyed tests ∧ ∀ c ∈ tests.keys, configFilter c = true

theorem keyedBy_setItem {tests : Dict C (List (TestCase C))} {c : C} {tcs : List (TestCase C)}
    (hk : KeyedBy configFilter tests) (hc : configFilter c = true) (htcs : ∀ tc ∈ tcs, tc.config = c) :
    KeyedBy configFilter (tests.setItem c tcs) := by
  refine ⟨fun c' tcs' h => ?_, fun c' h => ?_⟩
  · rcases Dict.mem_setItem.1 h with ⟨rfl, rfl⟩ | ⟨-, h⟩
    · exact htcs
    · exact hk.1 c' tcs' h
  · obtain ⟨tcs', h⟩ := Dict.mem_keys.1 h
    rcases Dict.mem_setItem.1 h with ⟨rfl, -⟩ | ⟨-, h⟩
    · exact hc
    · exact hk.2 c' (Dict.mem_keys.2 ⟨tcs', h⟩)

theorem keyedBy_scanType {buildCfg : C} {tests tests' : Dict C (List (TestCase C))}
    {entry : String × Scanner} (hk : KeyedBy configFilter tests)
    (h : scanType host testFilter dir buildCfg tests entry = .ok tests') : KeyedBy configFilter tests' := by
  obtain ⟨current, hcur, h⟩ := except_bind_eq_ok.1 h
  obtain ⟨found, hfound, h⟩ := except_bind_eq_ok.1 h
  cases h
  have hmem := Dict.getItem_eq_ok.1 hcur
  refine keyedBy_setItem hk (hk.2 _ (Dict.mem_keys.2 ⟨_, hmem⟩)) fun tc htc => ?_
  rcases List.mem_append.1 htc with htc | htc
  · exact hk.1 _ _ hmem tc htc
  · exact entry.2.scan_config hfound tc htc

theorem keyedBy_scanConfig {tests tests' : Dict C (List (TestCase C))} {buildCfgStr : String}
    (hk : KeyedBy configFilter tests)
    (h : scanConfig host fromString configFilter testFilter dir tests buildCfgStr = .ok tests') :
    KeyedBy configFilter tests' := by
  obtain ⟨buildCfg, -, h⟩ := except_bind_eq_ok.1 h
  by_cases hc : configFilter buildCfg
  · simp only [hc, Bool.not_true, Bool.false_eq_true, if_false] at h
    refine foldlM_ok_of_step (KeyedBy configFilter) (fun _ _ _ _ hk h => keyedBy_scanType hk h) ?_ h
    split
    · exact hk
    · exact keyedBy_setItem hk hc fun _ h => absurd h (List.not_mem_nil _)
  · simp only [hc, Bool.not_false, if_true, except_pure] at h
    cases h; exact hk

/-- **`enumerate_tests` keys its tests by configuration.** Whatever the test directory holds,
when the scan raises nothing every test case is listed under its own configuration, and every
configuration listed passed the configuration filter. -/
theorem enumerateTests_keyed {tests : Dict C (List (TestCase C))}
    (h : enumerateTests host fromString configFilter testFilter dir = .ok tests) :
    KeyedBy configFilter tests :=
  foldlM_ok_of_step (KeyedBy configFilter) (fun _ _ _ _ hk h => keyedBy_scanConfig hk h)
    ⟨fun _ _ h => absurd h (List.not_mem_nil _), fun _ h => absurd h (List.not_mem_nil _)⟩ h

example : (enumerateTests .posix (fun s => .ok s) (fun c => c = "arm64-v8a-21") (fun _ => true)
    ⟨["arm64-v8a-21", "x86-16"], fun _ t => if t = "cmake" then some [("foo", ["foo", "libfoo.so"])]
      else none, fun _ _ => [("libc++", ["a.exe"])]⟩).map Dict.items =
    .ok [("arm64-v8a-21", [⟨"foo.foo", "arm64-v8a-21", "cmake"⟩, ⟨"libc++.a", "arm64-v8a-21", "libc++"⟩])] := by
  decide

end Keyed

/-! ### From discovery to test runs -/

/-- **The discovered tests pair as the fleet allows.** The test groups `enumerate_tests`
discovers list each test case under its own configuration, and only configurations the filter
accepts. On a fleet of non-empty groups whose devices agree, they are matched and paired with
no `KeyError` or `IndexError`: each test case once with each group all of whose devices can run
its configuration, and no test run on a group with a device that cannot run it. -/
theorem enumerateTests_pairTestRuns {D : Type} [DecidableEq C] {canRunBuildConfig : D → C → Bool}
    {groups : List (DeviceGroup D)} (hu : Uniform canRunBuildConfig groups) {host : Host}
    {fromString : String → Except PyError C} {configFilter : C → Bool}
    {testFilter : String → Bool} {dir : TestDir C} {tests : Dict C (List (TestCase C))}
    (h : enumerateTests host fromString configFilter testFilter dir = .ok tests) :
    (∀ c tcs, (c, tcs) ∈ tests.items → ∀ tc ∈ tcs, tc.config = c) ∧ (∀ c ∈ tests.keys, configFilter c = true) ∧
    ∃ runs, (matchConfigsToDeviceGroups canRunBuildConfig groups tests.keys >>=
        pairTestRuns tests) = .ok runs ∧
      runs.Perm ((tests.items.flatMap Prod.snd).flatMap fun tc =>
        (groups.filter (canRunAll canRunBuildConfig tc.config)).map (TestRun.mk tc)) ∧
      ∀ r ∈ runs, ∀ d ∈ r.deviceGroup.devices, canRunBuildConfig d r.testCase.config = true :=
  have hk := enumerateTests_keyed h
  have hperm := pairedRuns_perm_of_keyed tests hk.1
  ⟨hk.1, hk.2, _, matchPairTestRuns_eq hu tests, hperm, fun _ hr => canRun_of_mem_runs (hperm.subset hr)⟩

/-- One configuration with a CMake test and a libc++ test, on a fleet of one group that can
run it. -/
theorem enumerateTests_pairTestRuns_one_group :
    let dir : TestDir String := ⟨["arm64-v8a-21", "x86-16"],
      fun _ t => if t = "cmake" then some [("foo", ["foo", "libfoo.so"])] else none,
      fun _ _ => [("libc++", ["a.exe"])]⟩
    let tests : Dict String (List (TestCase String)) :=
      ⟨[("arm64-v8a-21", [⟨"foo.foo", "arm64-v8a-21", "cmake"⟩, ⟨"libc++.a", "arm64-v8a-21", "libc++"⟩])],
        by decide⟩
    let canRun : ℕ → String → Bool := fun d _ => decide (d = 0)
    Uniform canRun [⟨[0]⟩] ∧
    enumerateTests .posix (fun s => .ok s) (fun c => c = "arm64-v8a-21") (fun _ => true) dir = .ok tests ∧
    (∀ c tcs, (c, tcs) ∈ tests.items → ∀ tc ∈ tcs, tc.config = c) ∧
    (∀ c ∈ tests.keys, decide (c = "arm64-v8a-21") = true) ∧
    ∃ runs, (matchConfigsToDeviceGroups canRun [⟨[0]⟩] tests.keys >>= pairTestRuns tests) = .ok runs ∧
      runs.Perm ((tests.items.flatMap Prod.snd).flatMap fun tc =>
        ([⟨[0]⟩].filter (canRunAll canRun tc.config)).map (TestRun.mk tc)) ∧
      ∀ r ∈ runs, ∀ d ∈ r.deviceGroup.devices, canRun d r.testCase.config = true := by
  intro dir tests canRun
  have hu : Uniform canRun [⟨[0]⟩] :=
    ⟨by decide, fun g hg d hd d' hd' c => by
      rw [List.mem_singleton.1 hg] at hd hd'
      rw [List.mem_singleton.1 hd, List.mem_singleton.1 hd']⟩
  have h : enumerateTests .posix (fun s => .ok s) (fun c => c = "arm64-v8a-21") (fun _ => true) dir =
      .ok tests := rfl
  exact ⟨hu, h, enumerateTests_pairTestRuns hu h⟩

end Ndk
