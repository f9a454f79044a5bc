import Ndk.Test.Basic
import Ndk.Host

/-!
# The build steps of `ndk.test.types`

`_run_build_sh_test`, `_run_ndk_build_test` (through `ndk.ndkbuild.build`) and
`_run_cmake_build_test` each run the build tools on a prepared build directory and turn
their exit status into a result. `ndk.ext.subprocess`, `ndk.ext.shutil` and the processes they
start are not part of the sources: the model is given what `call_output` returns for a
command, its working directory and the variables it sets, what `which` finds, and what
`check_output` prints (or that it raises).

`_run_cmake_build_test` reads CMake's version from the first line `cmake --version` prints,
with `re.match(r'cmake version (\d+)\.(\d+)\.', out)`, and compares `[major, minor]` with
`[3, 6]` as Python compares lists (`listLt`).

* `matchCmakeVersion_eq_some`: the match succeeds exactly on the texts that start with
  `cmake version A.B.`, for runs of digits `A` and `B`, and returns them.
* `runCmakeBuildTest_eq_success`: **a CMake test builds exactly when `cmake` and `ninja` are
  found, `cmake --version` names a version of at least 3.6 (compared as numbers, so 3.10
  passes), and `ninja --version`, the configure step and the build step all exit with 0.**
-/

namespace Ndk

/-- What the build steps read from modules that are not part of the sources: the host's
`os.path` and `os.name`, `multiprocessing.cpu_count()`, `ndk.ext.subprocess.call_output(cmd)`
in a working directory (`none`: the caller's) with variables set on top of `os.environ`,
`ndk.ext.shutil.which(name, path=env_path)` over the search path with CMake's prebuilts first,
and `subprocess.check_output(cmd)` (`none`: it raises `CalledProcessError`). -/
structure BuildEnv where
  host : Host
  cpus : ℕ
  callOutput : Option String → List String → List (String × String) → ℤ × String
  which : String → Option String
  checkOutput : List String → Option String

/-- `str(x)` of an API level that may be `None`. -/
def strApi : Option ℤ → String
  | some api => toString api
  | none => "None"

variable {τ : Type} (env : BuildEnv)

/-- `_get_jobs_args()`. -/
def jobsArgs : List String := ["-j" ++ toString env.cpus, "-l" ++ toString env.cpus]

/-- `_run_build_sh_test(test, build_dir, test_dir, ndk_path, ndk_build_flags, abi, platform)`,
after `_prep_build_dir`: `bash build.sh` in the build directory, with `NDK`, `APP_ABI` (when
an ABI is given) and `APP_PLATFORM` set. -/
def runBuildShTest (test : τ) (buildDir ndkPath : String) (ndkBuildFlags : List String)
    (abi : Option String) (platform : Option ℤ) : Result τ :=
  let buildCmd := ["bash", "build.sh"] ++ jobsArgs env ++ ndkBuildFlags
  let testEnv := [("NDK", ndkPath)] ++ (abi.map fun abi => ("APP_ABI", abi)).toList ++
    [("APP_PLATFORM", "android-" ++ strApi platform)]
  let (rc, out) := env.callOutput (some buildDir) buildCmd testEnv
  if rc = 0 then .success test else .failure test out

/-- `ndk.ndkbuild.build(ndk_path, build_flags)`, in a working directory: `ndk-build` with the
flags, through `cmd /c` on Windows. -/
def ndkBuild (cwd : Option String) (ndkPath : String) (buildFlags : List String) : ℤ × String :=
  let ndkBuildPath := env.host.join ndkPath "ndk-build"
  match env.host with
  | .nt => env.callOutput cwd (["cmd", "/c", ndkBuildPath] ++ buildFlags) []
  | .posix => env.callOutput cwd ([ndkBuildPath] ++ buildFlags) []

/-- The arguments `_run_ndk_build_test` gives `ndk-build` before the test's flags. -/
def ndkBuildArgs (distDir abi : String) (platform : Option ℤ) : List String :=
  ["APP_ABI=" ++ abi, "NDK_LIBS_OUT=" ++ distDir] ++ jobsArgs env ++
    (platform.map fun platform => "APP_PLATFORM=android-" ++ toString platform).toList

/-- `_run_ndk_build_test(test, obj_dir, dist_dir, test_dir, ndk_path, ndk_build_flags, abi,
platform)`, after `_prep_build_dir`: `ndk-build` in the object directory. -/
def runNdkBuildTest (test : τ) (objDir distDir ndkPath : String) (ndkBuildFlags : List String)
    (abi : String) (platform : Option ℤ) : Result τ :=
  let (rc, out) := ndkBuild env (some objDir) ndkPath (ndkBuildArgs env distDir abi platform ++ ndkBuildFlags)
  if rc = 0 then .success test else .failure test out

/-! ### `cmake --version` -/

/-- `\d+\.` at the front of the text: the run of digits and the text after the dot. Since a
digit is not a dot, `\d+` must take the whole run. `\d` is an ASCII digit, the pattern being
matched without `re.UNICODE`. -/
def digitsDot (l : List Char) : Option (List Char × List Char) :=
  match l.dropWhile Char.isDigit with
  | '.' :: rest => if l.takeWhile Char.isDigit = [] then none else some (l.takeWhile Char.isDigit, rest)
  | _ => none

/-- `re.match(r'cmake version (\d+)\.(\d+)\.', out).groups()`, `none` when there is no match. -/
def matchCmakeVersion (out : String) : Option (List Char × List Char) :=
  if "cmake version ".data.isPrefixOf out.data then do
    let (major, rest) ← digitsDot (out.data.drop "cmake version ".length)
    let (minor, _) ← digitsDot rest
    pure (major, minor)
  else none

/-- `[int(v) for v in re.match(...).groups()]`: `none` when the match fails, where `.groups()`
raises `AttributeError`. -/
def cmakeVersion (out : String) : Option (List ℤ) := do
  let (major, minor) ← matchCmakeVersion out
  [major, minor].mapM fun v => (int ⟨v⟩).toOption

/-- The arguments of `_run_cmake_build_test`'s configure step, after the test's CMake flags. -/
def cmakeArgs (objDir distDir ndkPath abi ninjaBin : String) (platform : Option ℤ) : List String :=
  let toolchainFile :=
    env.host.join (env.host.join (env.host.join ndkPath "build") "cmake") "android.toolchain.cmake"
  let objsDir := env.host.join objDir abi
  let libsDir := env.host.join distDir abi
  ["-H" ++ objDir, "-B" ++ objsDir, "-DCMAKE_TOOLCHAIN_FILE=" ++ toolchainFile, "-DANDROID_ABI=" ++ abi,
    "-DCMAKE_RUNTIME_OUTPUT_DIRECTORY=" ++ libsDir, "-DCMAKE_LIBRARY_OUTPUT_DIRECTORY=" ++ libsDir,
    "-GNinja", "-DCMAKE_MAKE_PROGRAM=" ++ ninjaBin] ++
    (platform.map fun platform => "-DANDROID_PLATFORM=android-" ++ toString platform).toList

/-- The command of `_run_cmake_build_test`'s build step. -/
def cmakeBuildCmd (cmakeBin objDir abi : String) : List String :=
  [cmakeBin, "--build", env.host.join objDir abi, "--"] ++ jobsArgs env

/-- `_run_cmake_build_test(test, obj_dir, dist_dir, test_dir, ndk_path, cmake_flags, abi,
platform)`, after `_prep_build_dir`: `none` when it raises. -/
def runCmakeBuildTest (test : τ) (objDir distDir ndkPath : String) (cmakeFlags : List String)
    (abi : String) (platform : Option ℤ) : Option (Result τ) :=
  match env.which "cmake" with
  | none => some (.failure test "cmake executable not found")
  | some cmakeBin => do
    let version ← (env.checkOutput [cmakeBin, "--version"]).bind cmakeVersion
    if listLt version [3, 6] then return .failure test "cmake 3.6 or above required"
    match env.which "ninja" with
    | none => return .failure test "ninja executable not found"
    | some ninjaBin =>
      if (env.callOutput none [ninjaBin, "--version"] []).1 ≠ 0 then
        return .failure test "ninja --version failed"
      let (rc, out) :=
        env.callOutput none ([cmakeBin] ++ cmakeFlags ++ cmakeArgs env objDir distDir ndkPath abi ninjaBin platform) []
      if rc ≠ 0 then return .failure test out
      let (rc, out) := env.callOutput none (cmakeBuildCmd env cmakeBin objDir abi) []
      if rc ≠ 0 then return .failure test out
      return .success test

/-! ### The version banner -/

/-- A text that starts with `cmake version A.B.`, for the runs of digits `A` and `B`. -/
def CmakeBanner (out : String) (major minor : List Char) : Prop :=
  major ≠ [] ∧ minor ≠ [] ∧ (∀ c ∈ major, c.isDigit) ∧ (∀ c ∈ minor, c.isDigit) ∧
    ∃ rest, out.data = "cmake version ".data ++ major ++ '.' :: minor ++ '.' :: rest

theorem digitsDot_eq_some {l d rest : List Char} :
    digitsDot l = some (d, rest) ↔ d ≠ [] ∧ (∀ c ∈ d, c.isDigit) ∧ l = d ++ '.' :: rest := by
  constructor
  · intro h
    unfold digitsDot at h
    split at h
    · next rest' hdrop =>
      split at h
      · cases h
      · obtain ⟨rfl, rfl⟩ := Prod.mk.inj (Option.some.inj h)
        refine ⟨‹_›, fun c hc => List.mem_takeWhile_imp hc, ?_⟩
        rw [← hdrop, List.takeWhile_append_dropWhile]
    · cases h
  · rintro ⟨hne, hd, rfl⟩
    have hdot : Char.isDigit '.' = false := by decide
    simp [digitsDot, List.dropWhile_append_of_pos hd, List.takeWhile_append_of_pos hd, hdot, hne]

/-- **The version match**: `re.match` finds `A` and `B` exactly in the texts that start with
`cmake version A.B.`. -/
theorem matchCmakeVersion_eq_some {out : String} {major minor : List Char} :
    matchCmakeVersion out = some (major, minor) ↔ CmakeBanner out major minor := by
  have hlen : "cmake version ".length = "cmake version ".data.length := rfl
  unfold matchCmakeVersion CmakeBanner
  constructor
  · intro h
    split at h
    · next hp =>
      simp only [Option.bind_eq_bind, Option.bind_eq_some] at h
      obtain ⟨⟨m, r⟩, h1, ⟨m', r'⟩, h2, h3⟩ := h
      obtain ⟨rfl, rfl⟩ := Prod.mk.inj (Option.some.inj h3)
      obtain ⟨hm, hmd, hr⟩ := digitsDot_eq_some.1 h1
      obtain ⟨hm', hmd', hr'⟩ := digitsDot_eq_some.1 h2
      refine ⟨hm, hm', hmd, hmd', r', ?_⟩
      rw [← List.prefix_iff_eq_append.1 (List.isPrefixOf_iff_prefix.1 hp), ← hlen, hr,
        show r = _ from hr']
      simp
    · cases h
  · rintro ⟨h1, h2, h3, h4, rest, hout⟩
    have hp : "cmake version ".data.isPrefixOf out.data := by
      rw [hout, List.isPrefixOf_iff_prefix, List.append_assoc]; exact List.prefix_append _ _
    have hdrop : out.data.drop "cmake version ".length = major ++ '.' :: (minor ++ '.' :: rest) := by
      rw [hout, hlen]; simp only [List.append_assoc]; rw [List.drop_left]; rfl
    rw [if_pos hp, hdrop, digitsDot_eq_some.2 ⟨h1, h3, rfl⟩]
    simp [digitsDot_eq_some.2 ⟨h2, h4, rfl⟩]

/-- Python's `[major, minor] < [3, 6]`, compared element by element. -/
theorem listLt_version_iff {major minor : ℤ} :
    listLt [major, minor] [3, 6] ↔ major < 3 ∨ major = 3 ∧ minor < 6 := by
  simp only [listLt]
  split_ifs <;> simp <;> omega

/-- The version read from the banner, as numbers. -/
theorem cmakeVersion_eq_some {out : String} {v : List ℤ} :
    cmakeVersion out = some v ↔
      ∃ major minor, CmakeBanner out major minor ∧ v = [(decimalValue major : ℤ), decimalValue minor] := by
  unfold cmakeVersion
  constructor
  · intro h
    simp only [Option.bind_eq_bind, Option.bind_eq_some] at h
    obtain ⟨⟨major, minor⟩, hm, hv⟩ := h
    have hb := matchCmakeVersion_eq_some.1 hm
    refine ⟨major, minor, hb, ?_⟩
    rw [List.mapM_cons, List.mapM_cons, List.mapM_nil, int_digits hb.1 hb.2.2.1,
      int_digits hb.2.1 hb.2.2.2.1] at hv
    exact (Option.some.inj hv).symm
  · rintro ⟨major, minor, hb, rfl⟩
    rw [matchCmakeVersion_eq_some.2 hb]
    show List.mapM (fun v => (int ⟨v⟩).toOption) [major, minor] = _
    rw [List.mapM_cons, List.mapM_cons, List.mapM_nil, int_digits hb.1 hb.2.2.1,
      int_digits hb.2.1 hb.2.2.2.1]
    rfl

/-- The version check passes on exactly the banners that name 3.6 or later. -/
theorem cmakeVersion_ok_iff {out : String} :
    (∃ v, cmakeVersion out = some v ∧ listLt v [3, 6] = false) ↔
      ∃ major minor, CmakeBanner out major minor ∧
        (3 < decimalValue major ∨ decimalValue major = 3 ∧ 6 ≤ decimalValue minor) := by
  constructor
  · rintro ⟨v, hv, hlt⟩
    obtain ⟨major, minor, hb, rfl⟩ := cmakeVersion_eq_some.1 hv
    have := mt listLt_version_iff.2 (by simpa using hlt)
    exact ⟨major, minor, hb, by omega⟩
  · rintro ⟨major, minor, hb, hge⟩
    refine ⟨_, cmakeVersion_eq_some.2 ⟨major, minor, hb, rfl⟩, ?_⟩
    cases h : listLt _ _
    · rfl
    · have := listLt_version_iff.1 h; omega

/-- CMake 3.10 passes: the versions are compared as numbers, not as text. -/
example : cmakeVersion "cmake version 3.10.2" = some [3, 10] ∧ listLt [3, 10] [3, 6] = false := by
  decide

/-! ### What a CMake test needs to build -/

section Cmake

variable (test : τ) (objDir distDir ndkPath : String) (cmakeFlags : List String) (abi : String)
  (platform : Option ℤ)

/-- The checks of `_run_cmake_build_test`, in order, all pass. -/
theorem runCmakeBuildTest_success_iff :
    runCmakeBuildTest env test objDir distDir ndkPath cmakeFlags abi platform = some (.success test) ↔
      ∃ cmakeBin, env.which "cmake" = some cmakeBin ∧
      ∃ v, (env.checkOutput [cmakeBin, "--version"]).bind cmakeVersion = some v ∧ listLt v [3, 6] = false ∧
      ∃ ninjaBin, env.which "ninja" = some ninjaBin ∧
        (env.callOutput none [ninjaBin, "--version"] []).1 = 0 ∧
        (env.callOutput none ([cmakeBin] ++ cmakeFlags ++
          cmakeArgs env objDir distDir ndkPath abi ninjaBin platform) []).1 = 0 ∧
        (env.callOutput none (cmakeBuildCmd env cmakeBin objDir abi) []).1 = 0 := by
  unfold runCmakeBuildTest
  rcases hc : env.which "cmake" with _ | cmakeBin
  · simp only [reduceCtorEq, false_and, exists_false, Option.some.injEq]
  simp only [Option.some.injEq, exists_eq_left', Option.bind_eq_bind]
  rcases hv : (env.checkOutput [cmakeBin, "--version"]).bind cmakeVersion with _ | v
  · simp only [Option.none_bind, reduceCtorEq, false_and, exists_false]
  simp only [Option.some.injEq, exists_eq_left', Option.some_bind]
  cases hlt : listLt v [3, 6]
  case true =>
    simp only [if_true, Option.pure_def, Option.some.injEq, reduceCtorEq, Bool.true_eq_false, false_and]
  simp only [Bool.false_eq_true, if_false, true_and, Option.some_bind]
  rcases hn : env.which "ninja" with _ | ninjaBin
  · simp only [Option.pure_def, Option.some_bind, Option.some.injEq, reduceCtorEq, false_and, exists_false]
  simp only [Option.some.injEq, exists_eq_left', Option.pure_def, Option.some_bind, ne_eq, ite_not]
  split_ifs <;> simp_all

/-- **When a CMake test builds.** `_run_cmake_build_test` returns a success exactly when
`cmake` is found, `cmake --version` prints `cmake version A.B.` with `A.B` at least 3.6 as
numbers, `ninja` is found, and `ninja --version`, the configure step and the build step exit
with 0; otherwise it fails with the message of the first check that did not pass, or raises. -/
theorem runCmakeBuildTest_eq_success :
    runCmakeBuildTest env test objDir distDir ndkPath cmakeFlags abi platform = some (.success test) ↔
      ∃ cmakeBin out major minor ninjaBin, env.which "cmake" = some cmakeBin ∧
        env.checkOutput [cmakeBin, "--version"] = some out ∧ CmakeBanner out major minor ∧
        (3 < decimalValue major ∨ decimalValue major = 3 ∧ 6 ≤ decimalValue minor) ∧
        env.which "ninja" = some ninjaBin ∧ (env.callOutput none [ninjaBin, "--version"] []).1 = 0 ∧
        (env.callOutput none ([cmakeBin] ++ cmakeFlags ++
          cmakeArgs env objDir distDir ndkPath abi ninjaBin platform) []).1 = 0 ∧
        (env.callOutput none (cmakeBuildCmd env cmakeBin objDir abi) []).1 = 0 := by
  rw [runCmakeBuildTest_success_iff]
  constructor
  · rintro ⟨cmakeBin, hc, v, hv, hlt, ninjaBin, hrest⟩
    obtain ⟨out, ho, hv⟩ := Option.bind_eq_some.1 hv
    obtain ⟨major, minor, hb, hge⟩ := cmakeVersion_ok_iff.1 ⟨v, hv, hlt⟩
    exact ⟨cmakeBin, out, major, minor, ninjaBin, hc, ho, hb, hge, hrest⟩
  · rintro ⟨cmakeBin, out, major, minor, ninjaBin, hc, ho, hb, hge, hrest⟩
    obtain ⟨v, hv, hlt⟩ := cmakeVersion_ok_iff.2 ⟨major, minor, hb, hge⟩
    exact ⟨cmakeBin, hc, v, by rw [ho]; exact hv, hlt, ninjaBin, hrest⟩

end Cmake

end Ndk
