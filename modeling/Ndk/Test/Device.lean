import Ndk.Test.Run
import Ndk.Test.Discovery
import Ndk.Test.ConfigLookup

/-!
# Running a test case on a device

The run phase of `Ndk.Test.Run` abstracts a device to what one execution of a test on it
answers, an `Execution`. This module models the code below that abstraction: the `run`,
`check_unsupported` and `check_broken` methods of `BasicTestCase` and `LibcxxTestCase`,
`shell_nocheck_wrap_errors`, and `TestRun.run` calling them with the device. `ndk.test.devices`
and `ndk.test.config` are not part of the sources: a device is what it answers (`str()`, its
version and what `shell_nocheck` returns for each command, a `RuntimeError` carrying its
message), and a test configuration is what `from_test_dir` reads for a directory.

`TestRun.run` asks `check_unsupported` before it calls the test case's `run`, and
`BasicTestCase.run` asks it again: both ask the same configuration the same question, so the
`Skipped` that `BasicTestCase.run` would return, which `make_result` could not unpack, is never
returned to it.

* `TestRun.runOn_eq`: **on every device, `TestRun.run` of every basic or libc++ test case
  returns what the execution-level `TestRun.run` returns for the execution the device
  answers.**
* `runPhaseOn_simulates`: **every run phase whose workers run the tests on devices is a run
  phase of `Ndk.Test.Run` under some schedule of executions**, so what is proved there of every
  schedule holds of it.
-/

namespace Ndk

/-- `DEVICE_TEST_BASE_DIR`. -/
def deviceTestBaseDir : String := "/data/local/tmp/tests"

/-- A device as the modelled code asks it: `str(device)`, `device.version`, and
`device.shell_nocheck(cmd)`: the exit status, output and error output, or the message of the
`RuntimeError` it raises. -/
structure Device (V : Type) where
  str : String
  version : V
  shellNocheck : List String → Except String (ℤ × String × String)

/-- A test configuration as `from_test_dir` reads it: `run_unsupported(abi, device_version,
name)` and `run_broken(abi, device_version, name)`, a configuration and a bug when broken. -/
structure TestConfig (V : Type) where
  runUnsupported : String → V → String → Option String
  runBroken : String → V → String → Option (String × String)

/-- What the device-side code reads from modules that are not part of the sources: the host's
`os.path`, a build configuration's `abi` and `str()`, `traceback.format_exc` for a
`RuntimeError`, and `DeviceTestConfig.from_test_dir` and `LibcxxTestConfig.from_test_dir`. -/
structure DeviceEnv (C V : Type) where
  host : Host
  abi : C → String
  strConfig : C → String
  formatExc : String → String
  deviceConfig : String → TestConfig V
  libcxxConfig : String → TestConfig V

variable {C V : Type} (env : DeviceEnv C V)

/-- `shell_nocheck_wrap_errors(device, cmd)`: a `RuntimeError` becomes a failed command. -/
def shellNocheckWrapErrors (device : Device V) (cmd : List String) : ℤ × String × String :=
  match device.shellNocheck cmd with
  | .ok r => r
  | .error message => (1, env.formatExc message, "")

/-- `'cd {} && LD_LIBRARY_PATH={} ./{} 2>&1'.format(device_dir, lib_dir, executable)`. -/
def shellCmd (deviceDir libDir executable : String) : String :=
  "cd " ++ deviceDir ++ " && LD_LIBRARY_PATH=" ++ libDir ++ " ./" ++ executable ++ " 2>&1"

/-- A test case found in the dist directory: a `BasicTestCase(suite, executable, test_src_dir,
config, build_system, device_dir)` or a `LibcxxTestCase(suite, executable, test_src_dir, config,
device_dir)`. -/
inductive DeviceTestCase (C : Type)
  | basic (suite executable testSrcDir : String) (config : C) (buildSystem deviceDir : String)
  | libcxx (t : LibcxxTestCase) (testSrcDir : String) (config : C) (deviceDir : String)

namespace DeviceTestCase

/-- `self.config`. -/
def config : DeviceTestCase C → C
  | basic _ _ _ config _ _ | libcxx _ _ config _ => config

/-- The `TestCase` it is: its name, configuration and build system. -/
def toTestCase : DeviceTestCase C → TestCase C
  | basic suite executable _ config buildSystem _ =>
    BasicTestCase.init suite executable config buildSystem
  | libcxx t _ config _ => t.toTestCase config

/-- `get_test_config()`: the `DeviceTestConfig` of `test_src_dir/device/suite` for a basic
test, the `LibcxxTestConfig` of `test_src_dir/libc++/test/test_subdir` for a libc++ test. -/
def testConfig : DeviceTestCase C → TestConfig V
  | basic suite _ testSrcDir _ _ _ =>
    env.deviceConfig (env.host.join (env.host.join testSrcDir "device") suite)
  | libcxx t testSrcDir _ _ =>
    env.libcxxConfig (env.host.join (env.host.join testSrcDir "libc++/test") t.testSubdir)

/-- The name `check_unsupported` and `check_broken` look up: the executable of a basic test,
`foo.pass` for the libc++ executable `foo.pass.cpp.exe`. -/
def configName : DeviceTestCase C → String
  | basic _ executable _ _ _ _ => executable
  | libcxx t _ _ _ => t.configName env.host

/-- `check_unsupported(device)`. -/
def checkUnsupported (tc : DeviceTestCase C) (device : Device V) : Option String :=
  (tc.testConfig env).runUnsupported (env.abi tc.config) device.version (tc.configName env)

/-- `check_broken(device)`. -/
def checkBroken (tc : DeviceTestCase C) (device : Device V) : Option (String × String) :=
  (tc.testConfig env).runBroken (env.abi tc.config) device.version (tc.configName env)

/-- The command `run(device)` sends: a basic test finds its libraries in its own device
directory, a libc++ test in `DEVICE_TEST_BASE_DIR/<config>/libcxx/libc++`. -/
def command : DeviceTestCase C → String
  | basic _ executable _ _ _ deviceDir => shellCmd deviceDir deviceDir executable
  | libcxx t _ config deviceDir =>
    shellCmd deviceDir
      (Posix.join (Posix.join deviceTestBaseDir (env.strConfig config)) "libcxx/libc++") t.executable

/-- `run(device)`: a `Skipped` result (only `BasicTestCase.run` returns one), or the exit
status, output and error output of the test's command. -/
def run (tc : DeviceTestCase C) (device : Device V) :
    Result (DeviceTestCase C) ⊕ (ℤ × String × String) :=
  match tc with
  | basic .. =>
    match tc.checkUnsupported env device with
    | some config => .inl (.skipped tc ("test unsupported for " ++ config))
    | none => .inr (shellNocheckWrapErrors env device [tc.command env])
  | libcxx .. => .inr (shellNocheckWrapErrors env device [tc.command env])

/-- The execution a device answers for the test case: what the test's configuration says of
the device, and the exit status and output of the test's command. -/
def execution (tc : DeviceTestCase C) (device : Device V) : Execution :=
  let r := shellNocheckWrapErrors env device [tc.command env]
  ⟨tc.checkUnsupported env device, tc.checkBroken env device, r.1, r.2.1, device.str⟩

end DeviceTestCase

namespace TestRun

variable {τ : Type}

/-- `TestRun.make_result(adb_result_tuple, device)` on what the test case's `run` returned:
`none` for a result object, which `status, out, _ = adb_result_tuple` cannot unpack. -/
def makeResultOn (self : τ) (tc : DeviceTestCase C) (device : Device V)
    (r : Result (DeviceTestCase C) ⊕ (ℤ × String × String)) : Option (Except PyError (Result τ)) :=
  match r with
  | .inl _ => none
  | .inr (status, out, _) =>
    let result := if status = 0 then .success self else .failure self ("\n".intercalate [device.str, out])
    some (fixupXfail self result (tc.checkBroken env device))

/-- `TestRun.run(device)` for the test run `self` of the test case `tc`. -/
def runOn (self : τ) (tc : DeviceTestCase C) (device : Device V) : Option (Except PyError (Result τ)) :=
  match tc.checkUnsupported env device with
  | some config => some (.ok (.skipped self ("test unsupported for " ++ config)))
  | none => makeResultOn env self tc device (tc.run env device)

/-- A test case the configuration supports runs its command. -/
theorem run_of_supported {tc : DeviceTestCase C} {device : Device V}
    (h : tc.checkUnsupported env device = none) :
    tc.run env device = .inr (shellNocheckWrapErrors env device [tc.command env]) := by
  cases tc <;> simp only [DeviceTestCase.run, h]

/-- **`TestRun.run` on a device is the execution-level `TestRun.run` on what the device
answers.** For every basic or libc++ test case, every device and every test configuration,
`TestRun.run(device)` returns normally (the `Skipped` of `BasicTestCase.run`, which
`make_result` cannot unpack, never reaches it), with the result `Ndk.TestRun.run` gives for
the execution the device answers. -/
theorem runOn_eq (self : τ) (tc : DeviceTestCase C) (device : Device V) :
    runOn env self tc device = some (TestRun.run self (tc.execution env device)) := by
  unfold runOn
  cases h : tc.checkUnsupported env device with
  | some config => simp [TestRun.run, DeviceTestCase.execution, h]
  | none =>
    rw [run_of_supported env h]
    simp [makeResultOn, TestRun.run, makeResult, DeviceTestCase.execution, h]

end TestRun

/-! ### The run phase on devices -/

section Phase

variable {D : Type} [DecidableEq D] (caseOf : TestRunRef C D → DeviceTestCase C)

/-- `run_test(worker, test)` with the worker's device as it behaves for this execution, for a
test run whose test case is `caseOf test`: a result, or `none` when the task raises. -/
def runTestOn (_device : D) (test : TestRunRef C D) (device : Device V) :
    Option (Result (TestRunRef C D)) :=
  (TestRun.runOn env test (caseOf test) device).bind Except.toOption

/-- `wait_for_results(report, workqueue, printer)` with workers that run the tests on devices:
`Ndk.waitForResults` with each finishing step given the device instead of the execution. -/
def waitForResultsOn : List (List (WorkerStep (Device V))) →
    Report (TestRunRef C D) × RunQueue C D → Option (Report (TestRunRef C D) × RunQueue C D)
  | sched, (report, s) =>
    if s.finished then some (report, s)
    else match sched with
      | [] => none
      | steps :: sched =>
        match (s.run (runTestOn env caseOf) (steps.map WorkerStep.toAction)).getResult with
        | some (.ok result, s') =>
          waitForResultsOn sched (report.addResult result.test.2.buildSystem result, s')
        | _ => none

/-- The run phase of `run_tests` with workers that run the tests on devices. -/
def runPhaseOn (deviceGroups : List (DeviceGroup D)) (testRuns : List (TestRun C D))
    (sched₁ sched₂ : List (List (WorkerStep (Device V)))) :
    Option (Report (TestRunRef C D) × RunQueue C D) := do
  let s ← (testRuns.enum.foldlM (fun (s : RunQueue C D) testRun =>
    s.addTask testRun.2.deviceGroup testRun) (ShardingWorkQueue.init deviceGroups 4)).toOption
  let (report, s) ← waitForResultsOn env caseOf sched₁ (⟨[]⟩, s)
  let (report, s) ← (restartFlakyTests report s).toOption
  waitForResultsOn env caseOf sched₂ (report, s)

omit [DecidableEq D] in
/-- A device-level `run_test` is the execution-level one on the execution the device answers. -/
theorem runTestOn_eq (d : D) (test : TestRunRef C D) (device : Device V) :
    runTestOn env caseOf d test device = runTest d test ((caseOf test).execution env device) := by
  simp [runTestOn, runTest, TestRun.runOn_eq]

end Phase

/-! ### Simulation -/

namespace Shard

variable {D α β Ω Ω' : Type} [DecidableEq D] [Inhabited Ω] {perform : D → α → Ω → Option β}
  {perform' : D → α → Ω' → Option β} (f : α → Ω' → Ω)
  (hf : ∀ d a o', perform' d a o' = perform d a (f a o'))
include hf

/-- A worker step whose outcome is given at one level is a worker step at the other: the
finishing worker's task translates the outcome. -/
theorem step_simulate (s : Shard D α β) (st : WorkerStep Ω') :
    ∃ st' : WorkerStep Ω, s.step perform' st.toAction = s.step perform st'.toAction := by
  cases st with
  | take i => exact ⟨.take i, rfl⟩
  | finish i o' =>
    rcases hw : s.workers[i]? with _ | ⟨d, q, _ | task⟩
    · exact ⟨.finish i default, by simp [WorkerStep.toAction, step, finish, hw]⟩
    · exact ⟨.finish i default, by simp [WorkerStep.toAction, step, finish, hw]⟩
    · exact ⟨.finish i (f task.arg o'), by simp [WorkerStep.toAction, step, finish, hw, hf]⟩

theorem run_simulate : ∀ (s : Shard D α β) (steps : List (WorkerStep Ω')),
    ∃ steps' : List (WorkerStep Ω),
      s.run perform' (steps.map WorkerStep.toAction) = s.run perform (steps'.map WorkerStep.toAction)
  | _, [] => ⟨[], rfl⟩
  | s, st :: steps => by
    obtain ⟨st', h⟩ := step_simulate f hf s st
    obtain ⟨steps', h'⟩ := run_simulate (s.step perform' st.toAction) steps
    refine ⟨st' :: steps', ?_⟩
    simp only [List.map_cons, run, List.foldl_cons] at h' ⊢
    rw [h', h]

end Shard

section Simulation

variable {D : Type} [DecidableEq D] (caseOf : TestRunRef C D → DeviceTestCase C)

instance : Inhabited Execution := ⟨⟨none, none, 0, "", ""⟩⟩

theorem waitForResultsOn_simulates : ∀ (sched : List (List (WorkerStep (Device V))))
    (p : Report (TestRunRef C D) × RunQueue C D),
    ∃ sched' : List (List (WorkerStep Execution)),
      waitForResultsOn env caseOf sched p = waitForResults sched' p
  | [], (report, s) => ⟨[], by simp only [waitForResultsOn, waitForResults]⟩
  | steps :: sched, (report, s) => by
    obtain ⟨steps', h⟩ := Shard.run_simulate (fun t device => (caseOf t).execution env device)
      (runTestOn_eq env caseOf) s steps
    unfold waitForResultsOn
    dsimp only
    rw [h]
    split
    · exact ⟨[], by unfold waitForResults; rw [if_pos ‹_›]⟩
    · split
      · next result s' hg =>
        obtain ⟨sched', h'⟩ := waitForResultsOn_simulates sched
          (report.addResult result.test.2.buildSystem result, s')
        refine ⟨steps' :: sched', ?_⟩
        unfold waitForResults
        rw [if_neg ‹_›]
        simp only [hg, h']
      · next _ hg =>
        refine ⟨[steps'], ?_⟩
        unfold waitForResults
        rw [if_neg ‹_›]
        dsimp only
        split
        · next result s' hg' => exact absurd hg' (hg result s')
        · rfl

/-- **Every run phase on devices is a run phase of the execution-level model.** For every
fleet, every list of test runs, every test case behind them and every schedule of worker steps
with the devices' behaviour, there are schedules of executions under which `Ndk.runPhase`
returns what the run phase on devices returns. -/
theorem runPhaseOn_simulates (deviceGroups : List (DeviceGroup D)) (testRuns : List (TestRun C D))
    (sched₁ sched₂ : List (List (WorkerStep (Device V)))) :
    ∃ sched₁' sched₂' : List (List (WorkerStep Execution)),
      runPhaseOn env caseOf deviceGroups testRuns sched₁ sched₂ =
        runPhase deviceGroups testRuns sched₁' sched₂' := by
  unfold runPhaseOn runPhase
  cases h0 : (testRuns.enum.foldlM (fun (s : RunQueue C D) testRun =>
      s.addTask testRun.2.deviceGroup testRun) (ShardingWorkQueue.init deviceGroups 4)).toOption with
  | none => exact ⟨[], [], rfl⟩
  | some s =>
    obtain ⟨sched₁', h1⟩ := waitForResultsOn_simulates env caseOf sched₁ (⟨[]⟩, s)
    simp only [Option.bind_eq_bind, Option.some_bind, h1]
    cases h2 : waitForResults sched₁' (⟨[]⟩, s) with
    | none => exact ⟨sched₁', [], by simp [h2]⟩
    | some p =>
      cases h3 : (restartFlakyTests p.1 p.2).toOption with
      | none => exact ⟨sched₁', [], by simp [h2, h3]⟩
      | some q =>
        obtain ⟨sched₂', h4⟩ := waitForResultsOn_simulates env caseOf sched₂ q
        exact ⟨sched₁', sched₂', by simp [h2, h3, h4]⟩

end Simulation

end Ndk
