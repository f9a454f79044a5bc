import Ndk.Test.Discovery
import Ndk.Test.Run

/-!
# `run_tests`: from the discovered tests to the verdict

In its run mode `run_tests` discovers the tests, gives up when there are none or when a
requested device is missing and `--require-all-devices` is set, matches the configurations
to the fleet's groups, pairs the tests with the groups, shuffles the test runs and runs them
on the sharding work queue with one round of flaky retries. The verdict is the report's
`successful`. The build itself, the pushes and the device discovery are outside the model: the
build is given as its report, and the fleet as what `find_devices` returns.

* `runTests_report`: when tests were found, every requested device is there or none is
  required, and the run returns, the verdict is the `successful` of the report the run phase
  returned, and that report holds one result for each discovered test case on each group all
  of whose devices can run it, under its build system.
* `runTestsWithBuild_passed`: with the build step in front, a passing `run_tests` built what it
  built without a failure, and unless it only built, either found nothing to run after
  `--rebuild` or ran every discovered test where it can run, with no failure in the report its
  run phase returned.
-/

namespace Ndk

/-- `Results`, with the fields the modelled code sets. -/
structure Results where
  success : Option Bool
  failureMessage : Option String
  deriving DecidableEq

namespace Results

/-- `Results()`. -/
def init : Results := ⟨none, none⟩

/-- `results.passed()`: `ValueError` once a verdict was given. -/
def passed (r : Results) : Except PyError Results :=
  if r.success.isSome then throw (.valueError "") else pure { r with success := some true }

/-- `results.failed(message)`: `ValueError` once a verdict was given. -/
def failed (r : Results) (message : Option String) : Except PyError Results :=
  if r.success.isSome then throw (.valueError "")
  else pure { r with success := some false, failureMessage := message }

end Results

/-- `report.successful`, modelled from the spec: no result is a failure or an unexpected
success. -/
def Report.successful {τ : Type} (report : Report τ) : Bool := report.entries.all fun e => !e.2.failed

/-- `verify_have_all_requested_devices(fleet)`, over `fleet.get_missing()`. -/
def verifyHaveAllRequestedDevices (missing : List String) : Bool := missing.length == 0

/-- The flags the run mode reads: `--rebuild`, `--require-all-devices`, and `args.filter` as
`format` prints it. -/
structure Args where
  rebuild : Bool
  requireAllDevices : Bool
  filter : String

/-- What `find_devices` returns, as the run mode reads it: `fleet.get_missing()` and
`fleet.get_unique_device_groups()`, the same list at every call. -/
structure Fleet (D : Type) where
  missing : List String
  groups : List (DeviceGroup D)

variable {C D : Type} [DecidableEq C] [DecidableEq D]

/-- The run mode of `run_tests(args)`, from the discovery of the tests to the verdict, with
`random.shuffle` as `shuffle`. `none` when the run phase does not return normally. -/
def runTests (args : Args) (testDistDir : String) (host : Host)
    (fromString : String → Except PyError C) (configFilter : C → Bool) (testFilter : String → Bool)
    (dir : TestDir C) (canRunBuildConfig : D → C → Bool) (fleet : Fleet D)
    (shuffle : List (TestRun C D) → List (TestRun C D))
    (sched₁ sched₂ : List (List (WorkerStep Execution))) : Option (Except PyError Results) :=
  match enumerateTests host fromString configFilter testFilter dir with
  | .error e => some (.error e)
  | .ok testGroups =>
    if ((testGroups.items.map fun p => p.2.length).foldl (· + ·) 0) = 0 then
      some (if args.rebuild then Results.init.passed
        else Results.init.failed (some ("Found no tests in " ++ testDistDir ++ " for filter " ++
          args.filter ++ ".")))
    else if args.requireAllDevices && !verifyHaveAllRequestedDevices fleet.missing then
      some (Results.init.failed (some "Some requested devices were not available."))
    else
      match matchConfigsToDeviceGroups canRunBuildConfig fleet.groups testGroups.keys >>=
          pairTestRuns testGroups with
      | .error e => some (.error e)
      | .ok testRuns =>
        (fun p => if p.1.successful then Results.init.passed else Results.init.failed none) <$>
          runPhase fleet.groups (shuffle testRuns) sched₁ sched₂

/-- The verdict `run_tests` gives at the end of a run. -/
theorem verdict_eq {τ : Type} (report : Report τ) :
    (if report.successful then Results.init.passed else Results.init.failed none) =
      .ok ⟨some report.successful, none⟩ := by
  cases report.successful <;> rfl

section Run

variable {args : Args} {testDistDir : String} {host : Host}
  {fromString : String → Except PyError C} {configFilter : C → Bool} {testFilter : String → Bool}
  {dir : TestDir C} {canRunBuildConfig : D → C → Bool} {fleet : Fleet D}
  {shuffle : List (TestRun C D) → List (TestRun C D)}
  {sched₁ sched₂ : List (List (WorkerStep Execution))} {testGroups : Dict C (List (TestCase C))}
  {results : Results}

/-- Once discovery found tests and the devices are as required, the run mode returns the
verdict of the report its run phase returned on the shuffled pairing. -/
theorem runTests_eq_ok
    (htests : enumerateTests host fromString configFilter testFilter dir = .ok testGroups)
    (hfound : ((testGroups.items.map fun p => p.2.length).foldl (· + ·) 0) ≠ 0)
    (hgo : (args.requireAllDevices && !verifyHaveAllRequestedDevices fleet.missing) = false)
    (h : runTests args testDistDir host fromString configFilter testFilter dir canRunBuildConfig
      fleet shuffle sched₁ sched₂ = some (.ok results)) :
    ∃ runs report s, (matchConfigsToDeviceGroups canRunBuildConfig fleet.groups testGroups.keys >>=
        pairTestRuns testGroups) = .ok runs ∧
      runPhase fleet.groups (shuffle runs) sched₁ sched₂ = some (report, s) ∧
      results = ⟨some report.successful, none⟩ := by
  simp only [runTests, htests, hfound, if_false, hgo, Bool.false_eq_true] at h
  cases hp : (matchConfigsToDeviceGroups canRunBuildConfig fleet.groups testGroups.keys >>=
      pairTestRuns testGroups) with
  | error e => rw [hp] at h; cases h
  | ok runs =>
    rw [hp] at h
    obtain ⟨⟨report, s⟩, hrun, hres⟩ := Option.map_eq_some'.1 h
    rw [verdict_eq] at hres
    exact ⟨runs, report, s, rfl, hrun, (Except.ok.inj hres).symm⟩

/-- The report the run phase returns on the shuffled pairing of the discovered tests holds one
result for each test case on each group all of whose devices can run it, under its build
system. -/
theorem report_of_runPhase (hu : Uniform canRunBuildConfig fleet.groups)
    (hshuffle : ∀ l, (shuffle l).Perm l)
    (htests : enumerateTests host fromString configFilter testFilter dir = .ok testGroups)
    {runs : List (TestRun C D)} {report : Report (TestRunRef C D)} {s : RunQueue C D}
    (hp : (matchConfigsToDeviceGroups canRunBuildConfig fleet.groups testGroups.keys >>=
      pairTestRuns testGroups) = .ok runs)
    (hrun : runPhase fleet.groups (shuffle runs) sched₁ sched₂ = some (report, s)) :
    (report.entries.map (·.2.test.2)).Perm ((testGroups.items.flatMap Prod.snd).flatMap fun tc =>
        (fleet.groups.filter (canRunAll canRunBuildConfig tc.config)).map (TestRun.mk tc)) ∧
      ∀ e ∈ report.entries, e.1 = e.2.test.2.buildSystem := by
  rw [matchPairTestRuns_eq hu testGroups] at hp
  cases hp
  obtain ⟨L₁, L₂, h₁, h₂, hrep, -, -⟩ := runPhase_rounds hrun
  refine ⟨?_, fun e he => ?_⟩
  · have hmap := (rounds_perm failingFlaky h₁ h₂).map Prod.snd
    rw [List.enum_map_snd, List.map_map] at hmap
    rw [hrep, List.map_map]
    exact hmap.trans ((hshuffle _).trans
      (pairedRuns_perm_of_keyed testGroups (enumerateTests_keyed htests).1))
  · rw [hrep] at he
    obtain ⟨r, -, rfl⟩ := List.mem_map.1 he
    rfl

end Run

/-- **What a run of `run_tests` reports.** On a fleet of non-empty groups whose devices agree,
for every content of the test directory, every shuffle and every completion order and outcome
of the executions: when tests were found, every requested device is there or none is
required, and the run returns, its verdict is the `successful` of the report its run phase
returned on the shuffled pairing, and that report holds one result for each discovered test
case on each group all of whose devices can run its configuration, filed under its build
system. -/
theorem runTests_report {args : Args} {testDistDir : String} {host : Host}
    {fromString : String → Except PyError C} {configFilter : C → Bool} {testFilter : String → Bool}
    {dir : TestDir C} {canRunBuildConfig : D → C → Bool} {fleet : Fleet D}
    {shuffle : List (TestRun C D) → List (TestRun C D)}
    {sched₁ sched₂ : List (List (WorkerStep Execution))} {testGroups : Dict C (List (TestCase C))}
    {results : Results} (hu : Uniform canRunBuildConfig fleet.groups)
    (hshuffle : ∀ l, (shuffle l).Perm l)
    (htests : enumerateTests host fromString configFilter testFilter dir = .ok testGroups)
    (hfound : ((testGroups.items.map fun p => p.2.length).foldl (· + ·) 0) ≠ 0)
    (hdevices : args.requireAllDevices = false ∨ fleet.missing = [])
    (h : runTests args testDistDir host fromString configFilter testFilter dir canRunBuildConfig
      fleet shuffle sched₁ sched₂ = some (.ok results)) :
    ∃ runs report s, (matchConfigsToDeviceGroups canRunBuildConfig fleet.groups testGroups.keys >>=
        pairTestRuns testGroups) = .ok runs ∧
      runPhase fleet.groups (shuffle runs) sched₁ sched₂ = some (report, s) ∧
      results = ⟨some report.successful, none⟩ ∧
      (report.entries.map (·.2.test.2)).Perm ((testGroups.items.flatMap Prod.snd).flatMap fun tc =>
        (fleet.groups.filter (canRunAll canRunBuildConfig tc.config)).map (TestRun.mk tc)) ∧
      ∀ e ∈ report.entries, e.1 = e.2.test.2.buildSystem := by
  have hgo : (args.requireAllDevices && !verifyHaveAllRequestedDevices fleet.missing) = false := by
    rcases hdevices with hd | hd <;> simp [hd, verifyHaveAllRequestedDevices]
  obtain ⟨runs, report, s, hp, hrun, hres⟩ := runTests_eq_ok htests hfound hgo h
  exact ⟨runs, report, s, hp, hrun, hres, report_of_runPhase hu hshuffle htests hp hrun⟩

/-- A CMake test and a libc++ test of one configuration, run on a fleet of one device that
passes both. -/
theorem runTests_report_one_device :
    let dir : TestDir String := ⟨["arm64-v8a-21", "x86-16"],
      fun _ t => if t = "cmake" then some [("foo", ["foo", "libfoo.so"])] else none,
      fun _ _ => [("libc++", ["a.exe"])]⟩
    let testGroups : Dict String (List (TestCase String)) :=
      ⟨[("arm64-v8a-21", [⟨"foo.foo", "arm64-v8a-21", "cmake"⟩, ⟨"libc++.a", "arm64-v8a-21", "libc++"⟩])],
        by decide⟩
    let canRun : ℕ → String → Bool := fun d _ => decide (d = 0)
    let fleet : Fleet ℕ := ⟨[], [⟨[0]⟩]⟩
    let pass : Execution := ⟨none, none, 0, "", "emulator"⟩
    let sched₁ : List (List (WorkerStep Execution)) := [[.take 0, .finish 0 pass], [.take 0, .finish 0 pass]]
    Uniform canRun fleet.groups ∧ (∀ l : List (TestRun String ℕ), (id l).Perm l) ∧
    enumerateTests .posix (fun s => .ok s) (fun c => c = "arm64-v8a-21") (fun _ => true) dir =
      .ok testGroups ∧
    ((testGroups.items.map fun p => p.2.length).foldl (· + ·) 0) ≠ 0 ∧
    (true = false ∨ fleet.missing = []) ∧
    runTests ⟨false, true, "None"⟩ "tests/dist" .posix (fun s => .ok s) (fun c => c = "arm64-v8a-21")
      (fun _ => true) dir canRun fleet id sched₁ [] = some (.ok ⟨some true, none⟩) ∧
    ∃ runs report s, (matchConfigsToDeviceGroups canRun fleet.groups testGroups.keys >>=
        pairTestRuns testGroups) = .ok runs ∧
      runPhase fleet.groups (id runs) sched₁ [] = some (report, s) ∧
      (⟨some true, none⟩ : Results) = ⟨some report.successful, none⟩ ∧
      (report.entries.map (·.2.test.2)).Perm ((testGroups.items.flatMap Prod.snd).flatMap fun tc =>
        (fleet.groups.filter (canRunAll canRun tc.config)).map (TestRun.mk tc)) ∧
      ∀ e ∈ report.entries, e.1 = e.2.test.2.buildSystem := by
  intro dir testGroups canRun fleet pass sched₁
  have hu : Uniform canRun fleet.groups :=
    ⟨by decide, fun g hg d hd d' hd' c => by
      rw [List.mem_singleton.1 hg] at hd hd'
      rw [List.mem_singleton.1 hd, List.mem_singleton.1 hd']⟩
  have htests : enumerateTests .posix (fun s => .ok s) (fun c => c = "arm64-v8a-21") (fun _ => true)
      dir = .ok testGroups := rfl
  have hrun : runTests ⟨false, true, "None"⟩ "tests/dist" .posix (fun s => .ok s)
      (fun c => c = "arm64-v8a-21") (fun _ => true) dir canRun fleet id sched₁ [] =
      some (.ok ⟨some true, none⟩) := by decide
  exact ⟨hu, fun l => List.Perm.refl l, htests, by decide, .inr rfl, hrun,
    runTests_report hu (fun l => List.Perm.refl l) htests (by decide) (.inr rfl) hrun⟩

/-! ### The build step and the verdict -/

/-- What `build_tests` reports, as `run_tests` reads it: `report.num_tests` and
`report.successful`. The build itself is outside the model. -/
structure BuildReport where
  numTests : ℕ
  successful : Bool

/-- `run_tests(args)` from its build step on: with `--build-only` or `--rebuild` the tests are
built first, and a build that found no test or failed gives the verdict; `--build-only` then
passes, and otherwise the run mode follows. -/
def runTestsWithBuild (buildOnly : Bool) (build : BuildReport) (args : Args)
    (testDistDir : String) (host : Host) (fromString : String → Except PyError C)
    (configFilter : C → Bool) (testFilter : String → Bool) (dir : TestDir C)
    (canRunBuildConfig : D → C → Bool) (fleet : Fleet D)
    (shuffle : List (TestRun C D) → List (TestRun C D))
    (sched₁ sched₂ : List (List (WorkerStep Execution))) : Option (Except PyError Results) :=
  let afterBuild :=
    if buildOnly then some Results.init.passed
    else runTests args testDistDir host fromString configFilter testFilter dir canRunBuildConfig
      fleet shuffle sched₁ sched₂
  if buildOnly || args.rebuild then
    if build.numTests = 0 then
      some (Results.init.failed (some ("Found no tests for filter " ++ args.filter ++ ".")))
    else if !build.successful then some (Results.init.failed none)
    else afterBuild
  else afterBuild

section Verdict

variable {args : Args} {testDistDir : String} {host : Host} {fromString : String → Except PyError C}
  {configFilter : C → Bool} {testFilter : String → Bool} {dir : TestDir C}
  {canRunBuildConfig : D → C → Bool} {fleet : Fleet D}
  {shuffle : List (TestRun C D) → List (TestRun C D)}
  {sched₁ sched₂ : List (List (WorkerStep Execution))} {res : Results}

/-- A verdict given by `failed` is not a pass. -/
theorem success_of_failed {m : Option String} (h : Results.init.failed m = .ok res) :
    res.success = some false := by
  cases h; rfl

/-- What a passing run mode certifies: discovery found tests, and either there were none and
`--rebuild` built some, or the report its run phase returned covers the discovered tests and
holds no failure. -/
theorem runTests_passed (hu : Uniform canRunBuildConfig fleet.groups)
    (hshuffle : ∀ l, (shuffle l).Perm l)
    (h : runTests args testDistDir host fromString configFilter testFilter dir canRunBuildConfig
      fleet shuffle sched₁ sched₂ = some (.ok res)) (hpass : res.success = some true) :
    ∃ testGroups, enumerateTests host fromString configFilter testFilter dir = .ok testGroups ∧
      (((testGroups.items.map fun p => p.2.length).foldl (· + ·) 0) = 0 ∧ args.rebuild = true ∨
        ∃ runs report s, (matchConfigsToDeviceGroups canRunBuildConfig fleet.groups
            testGroups.keys >>= pairTestRuns testGroups) = .ok runs ∧
          runPhase fleet.groups (shuffle runs) sched₁ sched₂ = some (report, s) ∧
          (report.entries.map (·.2.test.2)).Perm ((testGroups.items.flatMap Prod.snd).flatMap
            fun tc => (fleet.groups.filter (canRunAll canRunBuildConfig tc.config)).map
              (TestRun.mk tc)) ∧
          ∀ e ∈ report.entries, e.2.failed = false) := by
  cases ht : enumerateTests host fromString configFilter testFilter dir with
  | error e => simp [runTests, ht] at h
  | ok testGroups =>
  refine ⟨testGroups, rfl, ?_⟩
  by_cases hfound : ((testGroups.items.map fun p => p.2.length).foldl (· + ·) 0) = 0
  · -- nothing to run: a pass only after a rebuild
    simp only [runTests, ht, hfound, if_true, Option.some.injEq] at h
    cases hr : args.rebuild
    · rw [hr, if_neg Bool.false_ne_true] at h
      cases (success_of_failed h).symm.trans hpass
    · exact .inl ⟨hfound, rfl⟩
  by_cases hgo : (args.requireAllDevices && !verifyHaveAllRequestedDevices fleet.missing) = false
  · -- the run phase ran: the verdict is its report's
    obtain ⟨runs, report, s, hp, hrun, rfl⟩ := runTests_eq_ok ht hfound hgo h
    refine .inr ⟨runs, report, s, hp, hrun, (report_of_runPhase hu hshuffle ht hp hrun).1,
      fun e he => ?_⟩
    simpa using List.all_eq_true.1 (Option.some.inj hpass) e he
  · -- a requested device is missing
    rw [Bool.not_eq_false] at hgo
    simp only [runTests, ht, hfound, if_false, hgo, if_true, Option.some.injEq] at h
    cases (success_of_failed h).symm.trans hpass

/-- **A passing verdict certifies the tests.** On a fleet of non-empty groups whose devices
agree, whatever the flags, the build's report, the test directory, the shuffle and the course
of the run: when `run_tests` passes, a build it made found tests and built them all; and
unless `--build-only` was given, discovery found no test after `--rebuild` built some, or the
run phase returned a report with one result for each discovered test case on each group all of
whose devices can run it, none of them a failure or an unexpected success. -/
theorem runTestsWithBuild_passed {buildOnly : Bool} {build : BuildReport}
    (hu : Uniform canRunBuildConfig fleet.groups) (hshuffle : ∀ l, (shuffle l).Perm l)
    (h : runTestsWithBuild buildOnly build args testDistDir host fromString configFilter testFilter
      dir canRunBuildConfig fleet shuffle sched₁ sched₂ = some (.ok res))
    (hpass : res.success = some true) :
    ((buildOnly || args.rebuild) = true → build.numTests ≠ 0 ∧ build.successful = true) ∧
    (buildOnly = false →
      ∃ testGroups, enumerateTests host fromString configFilter testFilter dir = .ok testGroups ∧
        (((testGroups.items.map fun p => p.2.length).foldl (· + ·) 0) = 0 ∧ args.rebuild = true ∨
          ∃ runs report s, (matchConfigsToDeviceGroups canRunBuildConfig fleet.groups
              testGroups.keys >>= pairTestRuns testGroups) = .ok runs ∧
            runPhase fleet.groups (shuffle runs) sched₁ sched₂ = some (report, s) ∧
            (report.entries.map (·.2.test.2)).Perm ((testGroups.items.flatMap Prod.snd).flatMap
              fun tc => (fleet.groups.filter (canRunAll canRunBuildConfig tc.config)).map
                (TestRun.mk tc)) ∧
            ∀ e ∈ report.entries, e.2.failed = false)) := by
  simp only [runTestsWithBuild] at h
  have hrun : buildOnly = false → runTests args testDistDir host fromString configFilter testFilter
      dir canRunBuildConfig fleet shuffle sched₁ sched₂ = some (.ok res) → _ :=
    fun _ hr => runTests_passed hu hshuffle hr hpass
  by_cases hb : (buildOnly || args.rebuild) = true
  · rw [if_pos hb] at h
    by_cases hn : build.numTests = 0
    · rw [if_pos hn, Option.some.injEq] at h
      cases (success_of_failed h).symm.trans hpass
    by_cases hs : build.successful = true
    · rw [if_neg hn, if_neg (by simp [hs])] at h
      exact ⟨fun _ => ⟨hn, hs⟩, fun hbo => hrun hbo (by rwa [if_neg (by simp [hbo])] at h)⟩
    · rw [if_neg hn, if_pos (by simpa using hs), Option.some.injEq] at h
      cases (success_of_failed h).symm.trans hpass
  · rw [if_neg hb] at h
    exact ⟨fun h' => absurd h' hb, fun hbo => hrun hbo (by rwa [if_neg (by simp [hbo])] at h)⟩

end Verdict

/-- `run_tests --rebuild` after a build of two tests that passed, with the CMake and libc++
tests of one configuration run on a fleet of one device that passes both. -/
theorem runTestsWithBuild_passed_rebuild :
    let dir : TestDir String := ⟨["arm64-v8a-21", "x86-16"],
      fun _ t => if t = "cmake" then some [("foo", ["foo", "libfoo.so"])] else none,
      fun _ _ => [("libc++", ["a.exe"])]⟩
    let canRun : ℕ → String → Bool := fun d _ => decide (d = 0)
    let fleet : Fleet ℕ := ⟨[], [⟨[0]⟩]⟩
    let pass : Execution := ⟨none, none, 0, "", "emulator"⟩
    let sched₁ : List (List (WorkerStep Execution)) := [[.take 0, .finish 0 pass], [.take 0, .finish 0 pass]]
    let args : Args := ⟨true, true, "None"⟩
    Uniform canRun fleet.groups ∧ (∀ l : List (TestRun String ℕ), (id l).Perm l) ∧
    runTestsWithBuild false ⟨2, true⟩ args "tests/dist" .posix (fun s => .ok s)
      (fun c => c = "arm64-v8a-21") (fun _ => true) dir canRun fleet id sched₁ [] =
      some (.ok ⟨some true, none⟩) ∧
    (⟨some true, none⟩ : Results).success = some true ∧
    (((false || args.rebuild) = true → (⟨2, true⟩ : BuildReport).numTests ≠ 0 ∧
        (⟨2, true⟩ : BuildReport).successful = true) ∧
      (false = false → ∃ testGroups, enumerateTests .posix (fun s => .ok s)
          (fun c => c = "arm64-v8a-21") (fun _ => true) dir = .ok testGroups ∧
        (((testGroups.items.map fun p => p.2.length).foldl (· + ·) 0) = 0 ∧ args.rebuild = true ∨
          ∃ runs report s, (matchConfigsToDeviceGroups canRun fleet.groups
              testGroups.keys >>= pairTestRuns testGroups) = .ok runs ∧
            runPhase fleet.groups (id runs) sched₁ [] = some (report, s) ∧
            (report.entries.map (·.2.test.2)).Perm ((testGroups.items.flatMap Prod.snd).flatMap
              fun tc => (fleet.groups.filter (canRunAll canRun tc.config)).map (TestRun.mk tc)) ∧
            ∀ e ∈ report.entries, e.2.failed = false))) := by
  intro dir canRun fleet pass sched₁ args
  have hu : Uniform canRun fleet.groups :=
    ⟨by decide, fun g hg d hd d' hd' c => by
      rw [List.mem_singleton.1 hg] at hd hd'
      rw [List.mem_singleton.1 hd, List.mem_singleton.1 hd']⟩
  have h : runTestsWithBuild false ⟨2, true⟩ args "tests/dist" .posix (fun s => .ok s)
      (fun c => c = "arm64-v8a-21") (fun _ => true) dir canRun fleet id sched₁ [] =
      some (.ok ⟨some true, none⟩) := by decide
  exact ⟨hu, fun l => List.Perm.refl l, h, rfl,
    runTestsWithBuild_passed hu (fun l => List.Perm.refl l) h rfl⟩

end Ndk
