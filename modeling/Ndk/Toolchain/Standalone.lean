import Ndk.Python
import Ndk.Toolchain.Files

/-!
# `make_standalone_toolchain.py`

The script installs a cross-compiling toolchain for one architecture and API level: it checks
the host and the NDK, settles the API level (the architecture's minimum when none is given,
an exit below it), copies the NDK's toolchain to the installation directory, moves the Clang
binaries to versioned names and writes in their place wrapper scripts that call them with the
target and the API level, copies the wrappers under the triple's and GCC's names, and adds
the host's prebuilt tools and `gdbserver`. Without `--install-dir` it installs into a
temporary directory, packs it into an archive, and removes the temporary directory when it
ends.

`platform`, the name `tempfile.mkdtemp()` picks, what `shutil.make_archive` writes and the
text of a path in a message are given by a `ToolchainEnv`; the file system is the one of `Ndk.Toolchain.Files`. A run ends with the file
system it leaves, or with how it stopped and the file system it left then.
-/

namespace Ndk

/-- How a run of the script ends early: `sys.exit(message)`, an exception the model names, or
an `IOError`, `OSError` or `DistutilsFileError` about a path. -/
inductive Stop
  | exit (message : String)
  | raise (e : PyError)
  | osError (path : Path)
  deriving DecidableEq

/-- A run that ended early: how it stopped, and the file system it left. -/
structure Stopped where
  stop : Stop
  fs : FileSystem

/-- An `IOError`, `OSError` or `DistutilsFileError` about `p`, raised on `fs`. -/
def Stopped.os (fs : FileSystem) (p : Path) : Stopped := ⟨.osError p, fs⟩

/-- An exception raised on `fs`. -/
def Stopped.py (fs : FileSystem) (e : PyError) : Stopped := ⟨.raise e, fs⟩

/-- `get_triple(arch)`: `KeyError` for an architecture it does not know. -/
def getTriple : String → Except PyError String
  | "arm" => .ok "arm-linux-androideabi"
  | "arm64" => .ok "aarch64-linux-android"
  | "x86" => .ok "i686-linux-android"
  | "x86_64" => .ok "x86_64-linux-android"
  | _ => .error .keyError

/-- The bash wrapper `make_clang_scripts` writes for `clang{version}{pp}`: its template after
`textwrap.dedent`, formatted. -/
def clangScript (version flags pp : String) : String :=
  "#!/bin/bash\n" ++
  "if [ \"$1\" != \"-cc1\" ]; then\n" ++
  "    `dirname $0`/clang" ++ version ++ pp ++ " " ++ flags ++ " \"$@\"\n" ++
  "else\n" ++
  "    # target/triple already spelled out.\n" ++
  "    `dirname $0`/clang" ++ version ++ pp ++ " \"$@\"\n" ++
  "fi\n"

/-- The batch wrapper `make_clang_scripts` writes on Windows for the executable `exe`: its
template after `textwrap.dedent`, formatted. -/
def clangBat (exe flags : String) : String :=
  "@echo off\n" ++
  "setlocal\n" ++
  "call :find_bin\n" ++
  "if \"%1\" == \"-cc1\" goto :L\n" ++
  "\n" ++
  "set \"_BIN_DIR=\" && %_BIN_DIR%" ++ exe ++ " " ++ flags ++ " %*\n" ++
  "if ERRORLEVEL 1 exit /b 1\n" ++
  "goto :done\n" ++
  "\n" ++
  ":L\n" ++
  "rem target/triple already spelled out.\n" ++
  "set \"_BIN_DIR=\" && %_BIN_DIR%" ++ exe ++ " %*\n" ++
  "if ERRORLEVEL 1 exit /b 1\n" ++
  "goto :done\n" ++
  "\n" ++
  ":find_bin\n" ++
  "rem Accommodate a quoted arg0, e.g.: \"clang\"\n" ++
  "rem https://github.com/android-ndk/ndk/issues/616\n" ++
  "set _BIN_DIR=%~dp0\n" ++
  "exit /b\n" ++
  "\n" ++
  ":done\n"

/-- The flags `make_clang_scripts` gives Clang for a triple and an API level: `-target` with
the triple's architecture (`armv7a` for `arm`), `none`, its system and its environment, the
level appended, and `-mstackrealign` for `i686` below 24. `ValueError` unless the triple has
three parts. -/
def clangFlags (triple : String) (api : ℤ) : Except PyError String := do
  let (arch, osName, env) ← unpack3 (Str.split triple "-")
  let arch := if arch = "arm" then "armv7a" else arch
  let target := Str.join "-" [arch, "none", osName, env]
  let flags := "-target " ++ target ++ toString api ++ " -stdlib=libc++"
  pure (if arch = "i686" ∧ api < 24 then flags ++ " -mstackrealign" else flags)

/-- `make_clang_scripts(install_dir, triple, api, windows)`: the version from
`AndroidVersion.txt`, the Clang binaries moved to versioned names, the wrappers written, made
executable and copied under the triple's name, and on Windows the batch wrappers. -/
def makeClangScripts (installDir : Path) (triple : String) (api : ℤ) (windows : Bool)
    (fs : FileSystem) : Except Stopped FileSystem := do
  let versionText ← (fs.readText (installDir ++ ["AndroidVersion.txt"])).mapError (Stopped.os fs)
  let (major, minor, _build) ← (unpack3 (Str.split (Str.strip versionText) ".")).mapError (Stopped.py fs)
  let versionNumber := major ++ minor
  let exe := if windows then ".exe" else ""
  let binDir := installDir ++ ["bin"]
  let fs ← (fs.move (binDir ++ ["clang" ++ exe]) (binDir ++ ["clang" ++ versionNumber ++ exe])).mapError
    (Stopped.os fs)
  let fs ← (fs.move (binDir ++ ["clang++" ++ exe])
    (binDir ++ ["clang" ++ versionNumber ++ "++" ++ exe])).mapError (Stopped.os fs)
  let flags ← (clangFlags triple api).mapError (Stopped.py fs)
  let clangPath := installDir ++ ["bin", "clang"]
  let fs ← (fs.writeText clangPath (clangScript versionNumber flags "")).mapError (Stopped.os fs)
  let fs := fs.chmodX clangPath
  let clangppPath := installDir ++ ["bin", "clang++"]
  let fs ← (fs.writeText clangppPath (clangScript versionNumber flags "++")).mapError (Stopped.os fs)
  let fs := fs.chmodX clangppPath
  let fs ← (fs.copy2 (installDir ++ ["bin", "clang"]) (installDir ++ ["bin", triple ++ "-clang"])).mapError
    (Stopped.os fs)
  let fs ← (fs.copy2 (installDir ++ ["bin", "clang++"])
    (installDir ++ ["bin", triple ++ "-clang++"])).mapError (Stopped.os fs)
  if windows then
    ["", "++"].foldlM (fun fs ppSuffix =>
      let exeName := "clang" ++ versionNumber ++ ppSuffix ++ ".exe"
      let clangbatText := clangBat exeName flags
      ["", triple ++ "-"].foldlM (fun fs triplePrefix =>
        let clangbatPath := installDir ++ ["bin", triplePrefix ++ "clang" ++ ppSuffix ++ ".cmd"]
        (fs.writeText clangbatPath clangbatText).mapError (Stopped.os fs)) fs) fs
  else pure fs

/-- `replace_gcc_wrappers(install_path, triple, is_windows)`. -/
def replaceGccWrappers (installPath : Path) (triple : String) (isWindows : Bool) (fs : FileSystem) :
    Except Stopped FileSystem := do
  let cmd := if isWindows then ".cmd" else ""
  let gcc := installPath ++ ["bin", triple ++ "-gcc" ++ cmd]
  let clang := installPath ++ ["bin", "clang" ++ cmd]
  let fs ← (fs.copy2 clang gcc).mapError (Stopped.os fs)
  let gpp := installPath ++ ["bin", triple ++ "-g++" ++ cmd]
  let clangpp := installPath ++ ["bin", "clang++" ++ cmd]
  (fs.copy2 clangpp gpp).mapError (Stopped.os fs)

/-- What the script reads besides its arguments and the file system: `platform.system()`,
`NDK_DIR`, the fresh name `tempfile.mkdtemp()` makes a directory at, the text of a path in a message, and the
content `shutil.make_archive` writes for a format and the tree it packs. -/
structure ToolchainEnv where
  system : String
  ndkDir : Path
  tempdir : Path
  pathText : Path → String
  archive : String → (Path → Option Entry) → String

/-- The `--arch` choices. -/
def archChoices : List String := ["arm", "arm64", "x86", "x86_64"]

/-- What `parse_args()` returns, as `main` reads it: `--arch`, one of its choices, `--api`,
`--force`, `--package-dir`, and `--install-dir` (`None`: build a package). `--stl` is ignored
and `--verbose` only sets the log level. -/
structure ToolchainArgs where
  arch : String
  api : Option ℤ
  force : Bool
  packageDir : Path
  installDir : Option Path
  arch_mem : arch ∈ archChoices

variable (env : ToolchainEnv)

/-- `check_ndk_or_die()`. -/
def checkNdkOrDie (fs : FileSystem) : Except Stopped Unit :=
  let checks : List Path := [["build", "core"], ["prebuilt"], ["toolchain"]]
  checks.forM fun check =>
    let checkPath := env.ndkDir ++ check
    if !fs.pathExists checkPath then
      throw ⟨.exit ("Failed sanity check: missing " ++ env.pathText checkPath), fs⟩
    else pure ()

/-- `get_host_tag_or_die()`. -/
def getHostTagOrDie (fs : FileSystem) : Except Stopped String :=
  if env.system = "Linux" then pure "linux-x86_64"
  else if env.system = "Darwin" then pure "darwin-x86_64"
  else if env.system = "Windows" then
    let hostTag := "windows-x86_64"
    pure (if !fs.pathExists (env.ndkDir ++ ["prebuilt", hostTag]) then "windows" else hostTag)
  else throw ⟨.exit ("Unsupported platform: " ++ env.system), fs⟩

/-- `get_toolchain_path_or_die()`. -/
def getToolchainPathOrDie (fs : FileSystem) : Except Stopped Path :=
  let toolchainPath := env.ndkDir ++ ["toolchain"]
  if !fs.pathExists toolchainPath then
    throw ⟨.exit ("Could not find toolchain: " ++ env.pathText toolchainPath), fs⟩
  else pure toolchainPath

/-- `create_toolchain(install_path, arch, api, toolchain_path, host_tag)`. -/
def createToolchain (installPath : Path) (arch : String) (api : ℤ) (toolchainPath : Path)
    (hostTag : String) (fs : FileSystem) : Except Stopped FileSystem := do
  let fs ← (fs.copyTree toolchainPath installPath).mapError (Stopped.os fs)
  let triple ← (getTriple arch).mapError (Stopped.py fs)
  let fs ← makeClangScripts installPath triple api (Str.startswith hostTag "windows") fs
  let fs ← replaceGccWrappers installPath triple (Str.startswith hostTag "windows") fs
  let prebuiltPath := env.ndkDir ++ ["prebuilt", hostTag]
  let fs ← (fs.copyTree prebuiltPath installPath).mapError (Stopped.os fs)
  let gdbserverPath := env.ndkDir ++ ["prebuilt", "android-" ++ arch, "gdbserver"]
  let gdbserverInstall := installPath ++ ["share", "gdbserver"]
  (fs.copytree gdbserverPath gdbserverInstall).mapError (Stopped.os fs)

/-- `shutil.make_archive(os.path.join(dir, base_name), format, root_dir, base_dir)`: `dir` made
with `os.makedirs` when it does not exist, then the archive `base_name.zip`, or
`base_name.tar.bz2` for `bztar`, written in it, holding the tree at `root_dir/base_dir` under
`base_dir`; the `OSError` of `os.makedirs`, or the `IOError` of opening the archive. -/
def makeArchive (fs : FileSystem) (dir : Path) (baseName format : String) (rootDir baseDir : Path) :
    Except Stopped FileSystem := do
  let ext := if format = "zip" then ".zip" else ".tar.bz2"
  let fs ← (if fs.pathExists dir then pure fs else (fs.makedirs dir).mapError (Stopped.os fs) :
    Except Stopped FileSystem)
  let tree : Path → Option Entry := fun q => if baseDir.isPrefixOf q then fs.entry (rootDir ++ q) else none
  (fs.writeText (dir ++ [baseName ++ ext]) (env.archive format tree)).mapError (Stopped.os fs)

/-- The `atexit` handler `shutil.rmtree(tempdir)`, run when the script ends, however it ends. -/
def removeAtExit (dir : Path) : Except Stopped FileSystem → Except Stopped FileSystem
  | .ok fs => .ok (fs.removeTree dir)
  | .error ⟨stop, fs⟩ => .error ⟨stop, fs.removeTree dir⟩

/-- `min_api` as `main` computes it: 16 when `lp32`, that is for `arm` and `x86`, else 21. -/
def minApiFor (arch : String) : ℤ :=
  let lp32 := ["arm", "x86"].contains arch
  if lp32 then 16 else 21

/-- The API level `main` targets: `--api`, or the architecture's minimum when it is not given;
an exit below the minimum. -/
def targetApi (args : ToolchainArgs) (minApi : ℤ) (fs : FileSystem) : Except Stopped ℤ :=
  match args.api with
  | none => pure minApi
  | some api =>
    if api < minApi then
      throw ⟨.exit (toString api ++ " is less than minimum platform for " ++ args.arch ++ " (" ++
        toString minApi ++ ")"), fs⟩
    else pure api

/-- What `main` does with an existing installation directory: `shutil.rmtree` with `--force`,
an exit without. -/
def cleanInstallDir (args : ToolchainArgs) (installPath : Path) (fs : FileSystem) : Except Stopped FileSystem :=
  if fs.pathExists installPath then
    if args.force then (fs.rmtree installPath).mapError (Stopped.os fs)
    else throw ⟨.exit "Installation directory already exists. Use --force.", fs⟩
  else pure fs

/-- `main()` after `parse_args()`. The two tests of `args.install_dir` are one `match`; in the
package mode the rest of the run is under the `atexit` handler it registers. -/
def main (args : ToolchainArgs) (fs : FileSystem) : Except Stopped FileSystem := do
  let hostTag ← getHostTagOrDie env fs
  checkNdkOrDie env fs
  let minApi := minApiFor args.arch
  let api ← targetApi args minApi fs
  let triple ← (getTriple args.arch).mapError (Stopped.py fs)
  let toolchainPath ← getToolchainPathOrDie env fs
  match args.installDir with
  | some installPath =>
    let fs ← cleanInstallDir args installPath fs
    createToolchain env installPath args.arch api toolchainPath hostTag fs
  | none =>
    let tempdir := env.tempdir
    let fs ← (fs.mkdir tempdir).mapError (Stopped.os fs)
    let installPath := tempdir ++ [triple]
    removeAtExit tempdir do
      let fs ← createToolchain env installPath args.arch api toolchainPath hostTag fs
      let packageFormat := if Str.startswith hostTag "windows" then "zip" else "bztar"
      makeArchive env fs args.packageDir triple packageFormat tempdir [triple]

end Ndk
