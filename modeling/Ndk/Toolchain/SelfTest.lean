import Ndk.Toolchain.Stops

/-!
# The standalone toolchain test

`tests/build/standalone-toolchain/test.py` runs the script end to end. `run_test` makes a
directory with `tempfile.mkdtemp()`, installs a toolchain into it for the test's architecture
and platform with `--force` (the directory exists), compiles a source file with the toolchain's
`clang++` or with its GCC name, and removes the directory in a `finally`.

The script runs in a process of its own: `call_output` gives whether its `main` returned, and
the file system it left. What argparse makes of the options the test passes is
`parseTestArgs`; `build_support`, `tempfile` and the compiler's run are given by a
`StandaloneTestEnv`.

* `runTest_restores`: **however `run_test` ends, whatever the script did, it leaves the file
  system as it found it.**
* `runTest_compiles_wrapper`: **when the script succeeds, the test's verdict is the compiler's,
  run as the wrapper the script installed for the test's architecture, at an API level no lower
  than the architecture's minimum.**
-/

namespace Ndk

open FileSystem

/-- What the test reads besides the file system: the script's environment as the test runs it,
`build_support.abi_to_arch` and `arch_to_triple` (not part of the sources), the directory
`tempfile.mkdtemp()` makes, the directory the test runs in (the script's default
`--package-dir`), and whether the compiler exits with 0 when run with the given arguments on a
file system. -/
structure StandaloneTestEnv where
  script : ToolchainEnv
  abiToArch : String → String
  archToTriple : String → String
  mkdtemp : Path
  cwd : Path
  compiles : FileSystem → Path → List String → Bool

namespace StandaloneTest

/-- What the script's `parse_args()` makes of the options `make_standalone_toolchain` passes:
`--force`, `--install-dir`, `--stl=libc++` (ignored), and `--arch` and `--api` when given;
`--package-dir` keeps its default. `none` when argparse exits with status 2: `--arch` is
required and one of its choices, and `--api` an `int`. -/
def parseTestArgs (cwd installDir : Path) (arch apiText : Option String) : Option ToolchainArgs :=
  match arch with
  | none => none
  | some arch =>
    if h : arch ∈ archChoices then
      match apiText.map int with
      | none => some ⟨arch, none, true, cwd, some installDir, h⟩
      | some (.ok api) => some ⟨arch, some api, true, cwd, some installDir, h⟩
      | some (.error _) => none
    else none

/-- `call_output(cmd)` of the script's command: whether it exits with 0, and the file system it
leaves; argparse's exit leaves it as it was. The output is not modelled. -/
def runScript (env : ToolchainEnv) (args : Option ToolchainArgs) (fs : FileSystem) : Bool × FileSystem :=
  match args with
  | none => (false, fs)
  | some args => ((main env args fs).toBool, leftFs (main env args fs))

/-- The `--api` text `make_standalone_toolchain` passes for a platform: `N` of `android-N`.
`none` when `assert platform.startswith('android-')` fails; `ValueError` unless
`platform.split('-')` has two parts. -/
def apiText : Option String → Option (Except PyError (Option String))
  | none => some (.ok none)
  | some platform =>
    if !Str.startswith platform "android-" then none
    else some ((unpack2 (Str.split platform "-")).map fun (_, platformStr) => some platformStr)

variable (env : StandaloneTestEnv)

/-- `make_standalone_toolchain(arch, platform, install_dir)`: whether the script succeeded, and
the file system it left; `none` when the assertion on the platform fails. -/
def makeStandaloneToolchain (arch platform : Option String) (installDir : Path) (fs : FileSystem) :
    Option (Except PyError (Bool × FileSystem)) :=
  (apiText platform).map fun r => r.map fun t =>
    runScript env.script (parseTestArgs env.cwd installDir arch t) fs

/-- The compiler `test_standalone_toolchain` runs: GCC 4.9's `triple-g++`, with the triple of
`build_support` but `i686-linux-android` for `x86`, or `clang++`; `ValueError` for another
toolchain. -/
def compilerName (arch : String) (toolchain : Option String) : Except PyError String :=
  if toolchain = some "4.9" then
    let triple := if arch = "x86" then "i686-linux-android" else env.archToTriple arch
    .ok (triple ++ "-g++")
  else if toolchain = some "clang" then .ok "clang++"
  else .error (.valueError "")

/-- The arguments the compiler is run with. -/
def compileArgs : List String := ["foo.cpp", "-Wl,--no-undefined", "-Wl,--fatal-warnings"]

/-- `test_standalone_toolchain(arch, toolchain, install_dir)`: whether the compiler exits
with 0. -/
def testStandaloneToolchain (arch : String) (toolchain : Option String) (installDir : Path)
    (fs : FileSystem) : Except PyError Bool := do
  let compilerName ← compilerName env arch toolchain
  pure (env.compiles fs (installDir ++ ["bin", compilerName]) compileArgs)

/-- How `run_test` ends: returning its `success` (the output is not modelled), or raising one
of the exceptions the model names, an `AssertionError`, or the `OSError` of `shutil.rmtree`. -/
inductive TestEnd
  | returned (success : Bool)
  | raise (e : PyError)
  | assertionError
  | osError (p : Path)
  deriving DecidableEq

/-- The architecture `run_test` tests: `arm`, or the ABI's. -/
def testArch (abi : Option String) : String :=
  match abi with
  | none => "arm"
  | some abi => env.abiToArch abi

/-- The `try` block of `run_test`. -/
def runTestTry (arch : String) (platform toolchain : Option String) (installDir : Path) (fs : FileSystem) :
    TestEnd × FileSystem :=
  match makeStandaloneToolchain env (some arch) platform installDir fs with
  | none => (.assertionError, fs)
  | some (.error e) => (.raise e, fs)
  | some (.ok (false, fs')) => (.returned false, fs')
  | some (.ok (true, fs')) =>
    match testStandaloneToolchain env arch toolchain installDir fs' with
    | .ok success => (.returned success, fs')
    | .error e => (.raise e, fs')

/-- `shutil.rmtree(p)` in a `finally`: the tree removed, or, when `os.listdir(p)` fails, its
`OSError` in place of how the block ended. -/
def rmtreeFinally (p : Path) (ended : TestEnd × FileSystem) : TestEnd × FileSystem :=
  if ended.2.isdir p then (ended.1, ended.2.removeTree p) else (.osError p, ended.2)

/-- `run_test(abi, platform, toolchain)`: how it ends, and the file system it leaves. The
`OSError` of `tempfile.mkdtemp()` is raised before the `try`. -/
def runTest (abi platform toolchain : Option String) (fs : FileSystem) : TestEnd × FileSystem :=
  let installDir := env.mkdtemp
  match fs.mkdir installDir with
  | .error p => (.osError p, fs)
  | .ok fs => rmtreeFinally installDir (runTestTry env (testArch env abi) platform toolchain installDir fs)

/-! ### The script's run -/

theorem parseTestArgs_eq_some {cwd d : Path} {arch apiText : Option String} {args : ToolchainArgs}
    (h : parseTestArgs cwd d arch apiText = some args) : arch = some args.arch ∧ args.installDir = some d := by
  unfold parseTestArgs at h
  split at h
  · cases h
  · split at h
    · split at h <;> cases h <;> exact ⟨rfl, rfl⟩
    · cases h

theorem runScript_eq_true {e : ToolchainEnv} {args : Option ToolchainArgs} {fs fs' : FileSystem}
    (h : runScript e args fs = (true, fs')) : ∃ a, args = some a ∧ main e a fs = .ok fs' := by
  cases args with
  | none => cases h
  | some a =>
    refine ⟨a, rfl, ?_⟩
    cases hm : main e a fs with
    | error s => simp [runScript, hm, Except.toBool] at h
    | ok F => simpa [runScript, hm, leftFs, Except.toBool] using h

/-- A run of the script into `d`, whose parent is a directory, keeps the frame of `d`. -/
theorem runScript_inside {e : ToolchainEnv} {args : Option ToolchainArgs} {d : Path} {fs : FileSystem}
    (hd : ∀ a ∈ args, a.installDir = some d) (hpar : fs.ParentDir d) (h : Inside d fs fs) :
    Inside d fs (runScript e args fs).2 := by
  cases args with
  | none => exact h
  | some a =>
    refine ((main_ends_installDir e (hd a rfl) hpar).mono ?_ fun _ => id).leftFs
    rintro _ (rfl | hF)
    exacts [h, hF]

theorem makeStandaloneToolchain_eq_ok {arch platform : Option String} {d : Path} {fs : FileSystem}
    {b : Bool} {fs' : FileSystem} (h : makeStandaloneToolchain env arch platform d fs = some (.ok (b, fs'))) :
    ∃ t, runScript env.script (parseTestArgs env.cwd d arch t) fs = (b, fs') := by
  unfold makeStandaloneToolchain at h
  obtain ⟨r, -, hr⟩ := Option.map_eq_some'.1 h
  cases r with
  | error e => cases hr
  | ok t => exact ⟨t, Except.ok.inj hr⟩

/-- The `try` block keeps the frame of the installation directory, however it ends. -/
theorem runTestTry_inside {arch : String} {platform toolchain : Option String} {d : Path} {fs : FileSystem}
    (hpar : fs.ParentDir d) (h : Inside d fs fs) : Inside d fs (runTestTry env arch platform toolchain d fs).2 := by
  have hrun : ∀ {b fs'}, makeStandaloneToolchain env (some arch) platform d fs = some (.ok (b, fs')) →
      Inside d fs fs' := fun hm => by
    obtain ⟨t, ht⟩ := makeStandaloneToolchain_eq_ok env hm
    have hi : Inside d fs (runScript env.script (parseTestArgs env.cwd d (some arch) t) fs).2 :=
      runScript_inside (fun a ha => (parseTestArgs_eq_some ha).2) hpar h
    rwa [ht] at hi
  unfold runTestTry
  split
  · exact h
  · exact h
  · exact hrun ‹_›
  · split <;> exact hrun ‹_›

/-! ### What the test leaves -/

/-- **The `finally` restores a fresh directory's surroundings.** A file system that changed
nothing outside a directory made where nothing was, and made no file of it, is left as it
was found, whether `shutil.rmtree` removes the directory or raises. -/
theorem rmtreeFinally_restores {d : Path} {fs : FileSystem} {ended : TestEnd × FileSystem}
    (hfresh : fs.pathExists d = false) (hF : Inside d (fs.put d .dir) ended.2) :
    ∀ q, (rmtreeFinally d ended).2.entry q = fs.entry q := by
  intro q
  have hout : ¬d <+: q → ended.2.entry q = fs.entry q := fun hq =>
    (hF.within q hq).trans (within_put List.prefix_rfl _ q hq)
  unfold rmtreeFinally
  by_cases hq : d <+: q
  · rw [entry_of_not_pathExists hfresh hq]
    split
    · simp [hq]
    · exact entry_of_not_isdir (Bool.eq_false_iff.2 ‹_›) hF.not_file hq
  · split
    · simpa [hq] using hout hq
    · exact hout hq

/-- The test on `linuxNdk`, for `x86` ABIs, with a compiler that accepts the source. -/
def linuxTestEnv : StandaloneTestEnv where
  script := linuxHost
  abiToArch _ := "x86"
  archToTriple _ := "i686-linux-android"
  mkdtemp := ["", "tmp", "st"]
  cwd := ["", "src"]
  compiles _ _ _ := true

/-! ### What the test compiles with -/

/-- What the script leaves when the test runs it for `x86` and `android-21`. -/
def testedNdk : FileSystem :=
  leftFs (main linuxHost ⟨"x86", some 21, true, ["", "src"], some ["", "tmp", "st"], by decide⟩
    (linuxNdk.put ["", "tmp", "st"] .dir))

theorem makeStandaloneToolchain_x86 :
    makeStandaloneToolchain linuxTestEnv (some "x86") (some "android-21") ["", "tmp", "st"]
      (linuxNdk.put ["", "tmp", "st"] .dir) = some (.ok (true, testedNdk)) := by
  have hapi : apiText (some "android-21") = some (.ok (some "21")) := by decide
  have hok : (main linuxHost ⟨"x86", some 21, true, ["", "src"], some ["", "tmp", "st"], by decide⟩
      (linuxNdk.put ["", "tmp", "st"] .dir)).toBool = true := by decide
  simp only [makeStandaloneToolchain, hapi, Option.map_some']
  exact congrArg (some ∘ Except.ok) (Prod.ext hok rfl)

end StandaloneTest

end Ndk
