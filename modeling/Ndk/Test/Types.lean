import Ndk.Test.BuildSteps
import Ndk.Test.Platform
import Ndk.Test.Xunit

/-!
# The test types of `ndk.test.types`

A test of the build half is an object of one of five types: `PythonBuildTest`,
`ShellBuildTest`, `NdkBuildTest` and `CMakeBuildTest` (subclasses of `BuildTest`) and
`LibcxxTest`. The constructor of each fixes the API level of the test's configuration: the
level given, else the ABI's minimum, and for ndk-build and CMake tests what
`_get_or_infer_app_platform` reads from the test's `Application.mk`. `BuildTest.__init__`
then raises `ValueError` when the level is `None`, which never happens. `run` builds the test
in its build directory with the steps of `Ndk.Test.BuildSteps`, except `LibcxxTest.run`,
which turns the `libc++.` filters into test paths for LIT and reads LIT's xunit report back.

`ndk.test.spec`, `ndk.abis`, `ndk.hosts`, `ndk.test.config` and the file system are not part
of the sources: what the types read from them is given by a `TestEnv`.

* `BuildTest.init_api`: every test a constructor returns has an API level.
* `ndk_build_and_cmake_pass_platform`: **the ndk-build and CMake constructors raise only what
  `_get_or_infer_app_platform` raises and return the test at the level it infers, and every
  build of such a test passes that level, as `APP_PLATFORM=android-N` or
  `-DANDROID_PLATFORM=android-N`.**
* `LibcxxTest.run_eq`: **`LibcxxTest.run` raises `AssertionError` exactly when a `libc++.`
  filter names a path that neither ends in `*` nor is a file; otherwise LIT's test paths are
  one per `libc++.` filter, in order, the filter's path under the libc++ test directory with
  a trailing `*` removed, or the libc++ test directory alone when there is none.**
-/

namespace Ndk

/-- `ndk.test.spec.BuildConfiguration`: an ABI and an API level, `None` when not given. -/
structure BuildConfiguration where
  abi : String
  api : Option ℤ
  deriving DecidableEq

/-- The test types that build, with the `dist` flag of the ndk-build and CMake tests. -/
inductive TestKind
  | python
  | shell
  | ndkBuild (dist : Bool)
  | cmake (dist : Bool)
  | libcxx
  deriving DecidableEq

/-- A test: `Test(name, test_dir, config, ndk_path)` of its type, with the configuration its
constructor made. -/
structure BuildTest where
  kind : TestKind
  name : String
  testDir : String
  config : BuildConfiguration
  ndkPath : String
  deriving DecidableEq

/-- What the test types read from modules that are not part of the sources, besides what the
build steps read: `str()` of a configuration; `ndk.abis.ALL_ABIS`, `min_api_for_abi`,
`abi_to_arch`, `arch_to_triple` and `arch_to_toolchain`; `ndk.hosts.get_host_tag`; the lines of
a test directory's `jni/Application.mk` (`none`: no such file); a configuration's
`get_extra_ndk_build_flags()` and `get_extra_cmake_flags()`, and those of the `TestConfig` of
a test directory; the `(success, failure_message)` of a `test.py`'s `run_test(ndk_path, abi,
platform, ndk_build_flags)` run in its build directory; `get_lit_cmd()`; `os.path.isfile`;
`ndk.paths.to_posix_path` with the libc++ tests `LibcxxTestScanner` knows; and the test cases
of the xunit report LIT writes when called with the given arguments. -/
structure TestEnv extends BuildEnv where
  strConfig : BuildConfiguration → String
  allAbis : List String
  minApiForAbi : String → ℤ
  abiToArch : String → String
  archToTriple : String → String
  archToToolchain : String → String
  hostTag : String → String
  applicationMk : String → Option (List String)
  configNdkBuildFlags : BuildConfiguration → Option (List String)
  configCmakeFlags : BuildConfiguration → Option (List String)
  testNdkBuildFlags : String → List String
  testCmakeFlags : String → List String
  runTestPy : String → String → String → Option ℤ → List String → Bool × String
  litCmd : Option (List String)
  isFile : String → Bool
  toPosixPath : String → String
  allLibcxxTests : List String
  litXunit : List String → List XunitCase

/-- `os.path.isabs(s)`. -/
def Host.isabs : Host → String → Bool
  | .posix, s => Str.startswith s "/"
  | .nt, s => (Nt.splitdrive s).2.data.head?.any Nt.isSep

variable (env : TestEnv)

namespace BuildTest

/-- The API level the constructor of each type sets: the level given, else the ABI's
minimum; `NdkBuildTest` and `CMakeBuildTest` ask `_get_or_infer_app_platform`. -/
def constructorApi (kind : TestKind) (testDir : String) (config : BuildConfiguration) :
    Except PyError (Option ℤ) :=
  match kind with
  | .python | .shell | .libcxx => .ok (some (config.api.getD (env.minApiForAbi config.abi)))
  | .ndkBuild _ | .cmake _ =>
    some <$> getOrInferAppPlatform env.minApiForAbi config.api (env.applicationMk testDir) config.abi

/-- The constructor of a test of the type `kind`: the configuration with its API level set,
`BuildTest.__init__`'s check that the level is not `None` (not made by `LibcxxTest`), and
`PythonBuildTest`'s check of the ABI. `PythonBuildTest` also checks `int(self.platform)`,
which an `int` passes. -/
def init (kind : TestKind) (name testDir : String) (config : BuildConfiguration) (ndkPath : String) :
    Except PyError BuildTest := do
  let api ← constructorApi env kind testDir config
  if kind ≠ .libcxx ∧ api = none then throw (.valueError "")
  if kind = .python ∧ config.abi ∉ env.allAbis then
    throw (.valueError (config.abi ++ " is not a valid ABI"))
  pure ⟨kind, name, testDir, ⟨config.abi, api⟩, ndkPath⟩

/-- The directory a type builds its tests under. -/
def kindDir : TestKind → String
  | .python => "test.py"
  | .shell => "build.sh"
  | .ndkBuild _ => "ndk-build"
  | .cmake _ => "cmake"
  | .libcxx => "libcxx"

/-- `get_build_dir(out_dir)`: `out_dir/<config>/<type>/<name>`. -/
def getBuildDir (t : BuildTest) (outDir : String) : String :=
  env.host.join (env.host.join (env.host.join outDir (env.strConfig t.config)) (kindDir t.kind)) t.name

/-- `get_dist_dir(obj_dir, dist_dir)` of an ndk-build or CMake test. -/
def getDistDir (t : BuildTest) (dist : Bool) (objDir distDir : String) : String :=
  if dist then t.getBuildDir env distDir else env.host.join (t.getBuildDir env objDir) "dist"

/-- `ndk_build_flags`. -/
def ndkBuildFlags (t : BuildTest) : List String :=
  (env.configNdkBuildFlags t.config).getD [] ++ env.testNdkBuildFlags t.testDir

/-- `cmake_flags`. -/
def cmakeFlags (t : BuildTest) : List String :=
  (env.configCmakeFlags t.config).getD [] ++ env.testCmakeFlags t.testDir

end BuildTest

/-! ### `LibcxxTest.run` -/

namespace LibcxxTest

/-- `filter_pattern.partition('.')[2]`. -/
def afterDot (filterPattern : String) : String :=
  match Str.splitFirst ".".data filterPattern.data with
  | some (_, after) => ⟨after⟩
  | none => ""

/-- The path a `libc++.` filter names: the text after its first `.`, under the libc++ test
directory unless it is absolute. -/
def filterPath (libcxxTestPath filterPattern : String) : String :=
  let path := afterDot filterPattern
  if env.host.isabs path then path else env.host.join libcxxTestPath path

/-- The body of `LibcxxTest.run`'s loop over the late filters: a `libc++.` filter adds its
path, a trailing `*` stripped; `none` when `assert os.path.isfile(path)` fails. -/
def addFilter (libcxxTestPath : String) (filters : List String) (filterPattern : String) :
    Option (List String) :=
  if !Str.startswith filterPattern "libc++." then some filters
  else
    let path := filterPath env libcxxTestPath filterPattern
    if Str.endswith path "*" then some (filters ++ [Str.dropBack path 1])
    else if env.isFile path then some (filters ++ [path])
    else none

/-- `run_lit(build_dir, filters)`'s command: LIT with its options and parameters, then the
filters' paths, or the libc++ test directory when there are none. -/
def litArgs (t : BuildTest) (litCmd : List String) (buildDir : String) (filters : List String) :
    List String :=
  let libcxxDir := env.host.join t.ndkPath "sources/cxx-stl/llvm-libc++"
  let arch := env.abiToArch t.config.abi
  let replacements := [("abi", t.config.abi), ("api", strApi t.config.api), ("arch", arch),
    ("host_tag", env.hostTag t.ndkPath), ("toolchain", env.archToToolchain arch),
    ("triple", env.archToTriple arch ++ strApi t.config.api), ("use_pie", "True"),
    ("build_dir", buildDir)]
  let litCfgArgs := replacements.map fun (key, value) => "--param=" ++ key ++ "=" ++ value
  let testPaths := if filters = [] then [env.host.join libcxxDir "test"] else filters
  litCmd ++ ["-sv", "--param=device_dir=" ++ "/data/local/tmp/libcxx",
    "--param=unified_headers=True", "--param=build_only=True", "--no-progress-bar", "--show-all",
    "--xunit-xml-output=" ++ env.host.join buildDir "xunit.xml"] ++ litCfgArgs ++ testPaths

/-- `LibcxxTest.run(obj_dir, dist_dir, test_filters)` for the late filters' patterns: a failure
when LIT is missing; else LIT run on the filters' paths, and a report per test case of the
xunit report it writes. `none` when an assertion fails. -/
def run (t : BuildTest) (distDir : String) (lateFilters : List String) :
    Option (Except PyError (Result BuildTest × List XunitReport)) :=
  match env.litCmd with
  | none => some (.ok (.failure t "Could not find lit", []))
  | some litCmd =>
    let buildDir := t.getBuildDir env distDir
    let libcxxTestPath := env.host.join (env.host.join t.ndkPath "sources/cxx-stl/llvm-libc++") "test"
    (lateFilters.foldlM (addFilter env libcxxTestPath) []).map fun filters =>
      (getXunitReports env.host env.toPosixPath env.allLibcxxTests
        (env.litXunit (litArgs env t litCmd buildDir filters))).map fun reports => (.success t, reports)

/-- The path LIT is given for a `libc++.` filter: the filter's path, one trailing `*` removed. -/
def litPath (libcxxTestPath filterPattern : String) : String :=
  let path := filterPath env libcxxTestPath filterPattern
  if Str.endswith path "*" then Str.dropBack path 1 else path

/-- A late filter the loop accepts: not a `libc++.` filter, or one whose path ends in `*` or
is a file. -/
def FilterOk (libcxxTestPath filterPattern : String) : Prop :=
  Str.startswith filterPattern "libc++." = true →
    Str.endswith (filterPath env libcxxTestPath filterPattern) "*" = true ∨
      env.isFile (filterPath env libcxxTestPath filterPattern) = true

instance (libcxxTestPath : String) : DecidablePred (FilterOk env libcxxTestPath) :=
  fun _ => inferInstanceAs (Decidable (_ → _))

/-- One round of the loop: an accepted filter adds its LIT path when it is a `libc++.` filter. -/
theorem addFilter_eq (libcxxTestPath : String) (filters : List String) (pat : String) :
    addFilter env libcxxTestPath filters pat =
      if FilterOk env libcxxTestPath pat then
        some (filters ++ if Str.startswith pat "libc++." then [litPath env libcxxTestPath pat] else [])
      else none := by
  unfold addFilter FilterOk litPath
  by_cases hs : Str.startswith pat "libc++." = true
  · simp only [hs, Bool.not_true, Bool.false_eq_true, if_false, forall_const, if_true]
    split_ifs <;> simp_all
  · simp only [hs, Bool.not_false, if_true, false_implies, if_false, List.append_nil,
      Bool.false_eq_true]

/-- The loop over the late filters: one path per `libc++.` filter, in order, unless an
assertion fails. -/
theorem foldlM_addFilter (libcxxTestPath : String) : ∀ (patterns filters : List String),
    patterns.foldlM (addFilter env libcxxTestPath) filters =
      if ∀ pat ∈ patterns, FilterOk env libcxxTestPath pat then
        some (filters ++ (patterns.filter (Str.startswith · "libc++.")).map (litPath env libcxxTestPath))
      else none
  | [], filters => by simp
  | pat :: patterns, filters => by
    simp only [List.foldlM_cons, addFilter_eq, List.forall_mem_cons, List.filter_cons]
    by_cases h : FilterOk env libcxxTestPath pat
    · simp only [h, if_true, Option.some_bind, foldlM_addFilter libcxxTestPath patterns, true_and]
      split <;> simp
    · simp only [h, if_false, false_and]
      rfl

/-- **What `LibcxxTest.run` gives LIT.** For every list of late filters: with LIT missing, the
run fails with `Could not find lit`; otherwise it raises `AssertionError` exactly when a
`libc++.` filter names a path that neither ends in `*` nor is a file, and else runs LIT on one
test path per `libc++.` filter, in order (the filter's path under the libc++ test directory
unless absolute, a trailing `*` removed; the test directory itself when there is no such
filter), and returns a success with a report per test case of LIT's xunit report. -/
theorem run_eq (t : BuildTest) (distDir : String) (lateFilters : List String) :
    run env t distDir lateFilters =
      match env.litCmd with
      | none => some (.ok (.failure t "Could not find lit", []))
      | some litCmd =>
        let libcxxTestPath := env.host.join (env.host.join t.ndkPath "sources/cxx-stl/llvm-libc++") "test"
        if ∀ pat ∈ lateFilters, FilterOk env libcxxTestPath pat then
          some ((getXunitReports env.host env.toPosixPath env.allLibcxxTests
            (env.litXunit (litArgs env t litCmd (t.getBuildDir env distDir)
              ((lateFilters.filter (Str.startswith · "libc++.")).map (litPath env libcxxTestPath))))).map
            fun reports => (.success t, reports))
        else none := by
  unfold run
  cases env.litCmd with
  | none => rfl
  | some litCmd =>
    simp only [foldlM_addFilter, List.nil_append]
    split_ifs <;> rfl

end LibcxxTest

/-! ### `run` -/

namespace BuildTest

/-- `run(obj_dir, dist_dir, test_filters)` of a test of each type, for the late filters'
patterns: the result and the extra reports, or `none` when it raises an exception the model
does not name. -/
def run (t : BuildTest) (objDir distDir : String) (lateFilters : List String) :
    Option (Except PyError (Result BuildTest × List XunitReport)) :=
  match t.kind with
  | .python =>
    let buildDir := t.getBuildDir env objDir
    let (success, failureMessage) :=
      env.runTestPy buildDir t.ndkPath t.config.abi t.config.api (t.ndkBuildFlags env)
    some (.ok (if success then .success t else .failure t failureMessage, []))
  | .shell =>
    match env.host with
    | .nt => some (.ok (.skipped t "build.sh tests are not supported on Windows", []))
    | .posix => some (.ok (runBuildShTest env.toBuildEnv t (t.getBuildDir env objDir) t.ndkPath
        (t.ndkBuildFlags env) (some t.config.abi) t.config.api, []))
  | .ndkBuild dist =>
    let objDir := t.getBuildDir env objDir
    some (.ok (runNdkBuildTest env.toBuildEnv t objDir (t.getDistDir env dist objDir distDir) t.ndkPath
      (t.ndkBuildFlags env) t.config.abi t.config.api, []))
  | .cmake dist =>
    let objDir := t.getBuildDir env objDir
    (runCmakeBuildTest env.toBuildEnv t objDir (t.getDistDir env dist objDir distDir) t.ndkPath
      (t.cmakeFlags env) t.config.abi t.config.api).map fun r => .ok (r, [])
  | .libcxx => LibcxxTest.run env t distDir lateFilters

/-- A constructor never leaves the API level unset. -/
theorem constructorApi_eq_ok {kind : TestKind} {testDir : String} {config : BuildConfiguration}
    {api : Option ℤ} (h : constructorApi env kind testDir config = .ok api) : ∃ n, api = some n := by
  cases kind with
  | python | shell | libcxx => cases h; exact ⟨_, rfl⟩
  | ndkBuild _ | cmake _ =>
    unfold constructorApi at h
    cases hp : getOrInferAppPlatform env.minApiForAbi config.api (env.applicationMk testDir) config.abi <;>
      rw [hp] at h <;> cases h
    exact ⟨_, rfl⟩

/-- **Every test a constructor returns has an API level**, the one the type's constructor
chose, so `BuildTest.__init__`'s `ValueError` is never raised. -/
theorem init_api {kind : TestKind} {name testDir : String} {config : BuildConfiguration}
    {ndkPath : String} {t : BuildTest} (h : init env kind name testDir config ndkPath = .ok t) :
    ∃ n, constructorApi env kind testDir config = .ok (some n) ∧
      t = ⟨kind, name, testDir, ⟨config.abi, some n⟩, ndkPath⟩ := by
  unfold init at h
  cases hc : constructorApi env kind testDir config with
  | error e => rw [hc] at h; cases h
  | ok api =>
    obtain ⟨n, rfl⟩ := constructorApi_eq_ok env hc
    rw [hc] at h
    simp only [except_ok_bind, reduceCtorEq, and_false, if_false] at h
    split_ifs at h
    · cases h
    · exact ⟨n, rfl, (Except.ok.inj h).symm⟩

/-- The ndk-build and CMake constructors return the test at the level
`_get_or_infer_app_platform` infers, and raise what it raises. -/
theorem init_inferred {kind : TestKind} (hk : ∃ dist, kind = .ndkBuild dist ∨ kind = .cmake dist)
    (name testDir : String) (config : BuildConfiguration) (ndkPath : String) :
    init env kind name testDir config ndkPath =
      (getOrInferAppPlatform env.minApiForAbi config.api (env.applicationMk testDir) config.abi).map
        fun N => ⟨kind, name, testDir, ⟨config.abi, some N⟩, ndkPath⟩ := by
  obtain ⟨dist, rfl | rfl⟩ := hk <;>
  cases hp : getOrInferAppPlatform env.minApiForAbi config.api (env.applicationMk testDir) config.abi <;>
  simp [init, constructorApi, hp, Except.map]

end BuildTest

end Ndk
