import Ndk.Toolchain.Standalone

/-!
# When the toolchain script exits

`make_standalone_toolchain.py` ends with `sys.exit(message)` for four reasons, checked in
order: the host is not Linux, Darwin or Windows; a part of the NDK is missing; the API level
is below the architecture's minimum; the installation directory exists and `--force` was not
given. `get_toolchain_path_or_die` would exit too, but the toolchain is one of the parts
`check_ndk_or_die` checked on the same file system, so it never does. Every exit comes before
the first change to the file system; the failures of the installation itself are exceptions.

* `main_exit_iff`: **a run exits with `m` exactly when `exitReason` gives `m`, and then it has
  changed nothing.**
* `main_force`: **installing with `--force` over an existing directory is installing into the
  place once the directory is removed.**
-/

namespace Ndk

/-! ### Parts of the script that never exit -/

/-- A part of the script that never ends with `sys.exit`. -/
def NoExit {α : Type} (r : Except Stopped α) : Prop := ∀ m fs, r ≠ .error ⟨.exit m, fs⟩

section NoExit

variable {α β : Type}

theorem NoExit.bind {x : Except Stopped α} {f : α → Except Stopped β} (hx : NoExit x)
    (hf : ∀ a, NoExit (f a)) : NoExit (x >>= f) := by
  intro m fs h
  cases x with
  | error e => exact hx m fs (by cases h; rfl)
  | ok a => exact hf a m fs h

theorem noExit_os (x : Except Path α) (fs : FileSystem) : NoExit (x.mapError (Stopped.os fs)) := by
  intro m fs' h
  cases x <;> simp [Except.mapError, Stopped.os] at h

theorem noExit_py (x : Except PyError α) (fs : FileSystem) : NoExit (x.mapError (Stopped.py fs)) := by
  intro m fs' h
  cases x <;> simp [Except.mapError, Stopped.py] at h

theorem noExit_pure (a : α) : NoExit (pure a : Except Stopped α) := fun _ _ h => nomatch h

theorem noExit_foldlM {f : β → α → Except Stopped β} (hf : ∀ b a, NoExit (f b a)) :
    ∀ (l : List α) (b : β), NoExit (l.foldlM f b)
  | [], b => noExit_pure b
  | a :: l, b => (hf b a).bind fun b' => noExit_foldlM hf l b'

end NoExit

theorem makeClangScripts_noExit (installDir : Path) (triple : String) (api : ℤ) (windows : Bool)
    (fs : FileSystem) : NoExit (makeClangScripts installDir triple api windows fs) := by
  unfold makeClangScripts
  refine (noExit_os _ _).bind fun _ => (noExit_py _ _).bind fun ⟨_, _, _⟩ => ?_
  refine (noExit_os _ _).bind fun _ => (noExit_os _ _).bind fun _ => (noExit_py _ _).bind fun _ => ?_
  refine (noExit_os _ _).bind fun _ => (noExit_os _ _).bind fun _ => ?_
  refine (noExit_os _ _).bind fun _ => (noExit_os _ _).bind fun _ => ?_
  split
  · exact noExit_foldlM (fun _ _ => noExit_foldlM (fun _ _ => noExit_os _ _) _ _) _ _
  · exact noExit_pure _

theorem createToolchain_noExit (env : ToolchainEnv) (installPath : Path) (arch : String) (api : ℤ)
    (toolchainPath : Path) (hostTag : String) (fs : FileSystem) :
    NoExit (createToolchain env installPath arch api toolchainPath hostTag fs) := by
  unfold createToolchain replaceGccWrappers
  refine (noExit_os _ _).bind fun _ => (noExit_py _ _).bind fun _ => ?_
  refine (makeClangScripts_noExit _ _ _ _ _).bind fun _ => ?_
  refine ((noExit_os _ _).bind fun _ => noExit_os _ _).bind fun _ => ?_
  exact (noExit_os _ _).bind fun _ => noExit_os _ _

theorem makeArchive_noExit (env : ToolchainEnv) (fs : FileSystem) (dir : Path) (baseName format : String)
    (rootDir baseDir : Path) : NoExit (makeArchive env fs dir baseName format rootDir baseDir) := by
  unfold makeArchive
  refine NoExit.bind ?_ fun _ => noExit_os _ _
  split
  exacts [noExit_pure _, noExit_os _ _]

theorem removeAtExit_noExit (dir : Path) {r : Except Stopped FileSystem} (hr : NoExit r) :
    NoExit (removeAtExit dir r) := by
  intro m fs h
  rcases r with ⟨stop, fs'⟩ | fs'
  · cases h; exact hr m fs' rfl
  · cases h

/-! ### The checks -/

variable (env : ToolchainEnv)

/-- The first part of the NDK, of those `check_ndk_or_die` looks for, that is missing. -/
def missingPart (fs : FileSystem) : Option Path :=
  ([["build", "core"], ["prebuilt"], ["toolchain"]] : List Path).find? fun c =>
    !fs.pathExists (env.ndkDir ++ c)

/-- The exit an API level below the architecture's minimum causes. -/
def apiReason (args : ToolchainArgs) : Option String :=
  match args.api with
  | some api => if api < minApiFor args.arch then
      some (toString api ++ " is less than minimum platform for " ++ args.arch ++ " (" ++
        toString (minApiFor args.arch) ++ ")")
    else none
  | none => none

/-- The exit an existing installation directory causes without `--force`. -/
def installDirReason (args : ToolchainArgs) (fs : FileSystem) : Option String :=
  match args.installDir with
  | some p => if fs.pathExists p && !args.force then
      some "Installation directory already exists. Use --force." else none
  | none => none

/-- Why a run of the script exits, from its arguments and the file system it starts on: the
first of an unsupported host, a missing part of the NDK, an API level below the minimum, and
an installation directory that exists without `--force`. -/
def exitReason (args : ToolchainArgs) (fs : FileSystem) : Option String :=
  if env.system ∉ ["Linux", "Darwin", "Windows"] then some ("Unsupported platform: " ++ env.system)
  else ((missingPart env fs).map fun c => "Failed sanity check: missing " ++ env.pathText (env.ndkDir ++ c))
    <|> apiReason args <|> installDirReason args fs

theorem checkNdkOrDie_eq (fs : FileSystem) :
    checkNdkOrDie env fs = match missingPart env fs with
      | some c => .error ⟨.exit ("Failed sanity check: missing " ++ env.pathText (env.ndkDir ++ c)), fs⟩
      | none => .ok () := by
  unfold checkNdkOrDie missingPart
  cases h₁ : fs.pathExists (env.ndkDir ++ ["build", "core"]) <;>
    cases h₂ : fs.pathExists (env.ndkDir ++ ["prebuilt"]) <;>
    cases h₃ : fs.pathExists (env.ndkDir ++ ["toolchain"]) <;> simp [h₁, h₂, h₃] <;> rfl

theorem getTriple_ok {arch : String} (h : arch ∈ archChoices) : ∃ t, getTriple arch = .ok t := by
  simp only [archChoices, List.mem_cons, List.mem_singleton, List.not_mem_nil, or_false] at h
  rcases h with rfl | rfl | rfl | rfl <;> exact ⟨_, rfl⟩

/-- The toolchain is one of the parts of the NDK checked first. -/
theorem getToolchainPathOrDie_of_missingPart {fs : FileSystem} (h : missingPart env fs = none) :
    getToolchainPathOrDie env fs = .ok (env.ndkDir ++ ["toolchain"]) := by
  have ht : fs.pathExists (env.ndkDir ++ ["toolchain"]) = true := by
    have := List.find?_eq_none.1 h ["toolchain"] (by simp)
    simpa using this
  simp [getToolchainPathOrDie, ht]

theorem getHostTagOrDie_eq (fs : FileSystem) :
    (env.system ∉ ["Linux", "Darwin", "Windows"] ∧
        getHostTagOrDie env fs = .error ⟨.exit ("Unsupported platform: " ++ env.system), fs⟩) ∨
      (env.system ∈ ["Linux", "Darwin", "Windows"] ∧ ∃ tag, getHostTagOrDie env fs = .ok tag) := by
  unfold getHostTagOrDie
  by_cases h₁ : env.system = "Linux"
  · exact .inr ⟨by simp [h₁], _, by simp [h₁]; rfl⟩
  by_cases h₂ : env.system = "Darwin"
  · exact .inr ⟨by simp [h₂], _, by simp [h₂]; rfl⟩
  by_cases h₃ : env.system = "Windows"
  · exact .inr ⟨by simp [h₃], _, by simp [h₃]; rfl⟩
  · exact .inl ⟨by simp [h₁, h₂, h₃], by simp [h₁, h₂, h₃]; rfl⟩

theorem targetApi_eq (args : ToolchainArgs) (fs : FileSystem) :
    targetApi args (minApiFor args.arch) fs = match apiReason args with
      | some m => .error ⟨.exit m, fs⟩
      | none => .ok (args.api.getD (minApiFor args.arch)) := by
  unfold targetApi apiReason
  cases args.api with
  | none => rfl
  | some a => by_cases ha : a < minApiFor args.arch <;> simp [ha]; rfl

theorem cleanInstallDir_eq (args : ToolchainArgs) {p : Path} (hp : args.installDir = some p) (fs : FileSystem) :
    cleanInstallDir args p fs = match installDirReason args fs with
      | some m => .error ⟨.exit m, fs⟩
      | none => (if fs.pathExists p then fs.rmtree p else .ok fs).mapError (Stopped.os fs) := by
  unfold cleanInstallDir installDirReason
  rw [hp]
  cases h : fs.pathExists p <;> cases args.force <;>
    simp [h, throw, throwThe, MonadExceptOf.throw, Except.mapError]

/-- A run with a reason to exit exits with it, before it changes anything. -/
theorem main_of_exitReason_some {args : ToolchainArgs} {fs : FileSystem} {m : String}
    (h : exitReason env args fs = some m) : main env args fs = .error ⟨.exit m, fs⟩ := by
  rcases getHostTagOrDie_eq env fs with ⟨hs, hh⟩ | ⟨hs, tag, hh⟩
  · simp only [exitReason, hs, not_false_eq_true, if_true, Option.some.injEq] at h
    simp only [main, hh, except_error_bind, h]
  simp only [exitReason, hs, not_true_eq_false, if_false] at h
  simp only [main, hh, except_ok_bind, checkNdkOrDie_eq]
  cases hm : missingPart env fs with
  | some c => simp_all
  | none =>
    simp only [hm, Option.map_none', Option.none_orElse] at h
    simp only [except_ok_bind, targetApi_eq]
    cases hapi : apiReason args with
    | some msg => simp_all
    | none =>
      obtain ⟨t, ht⟩ := getTriple_ok args.arch_mem
      simp only [hapi, Option.none_orElse, installDirReason] at h
      simp only [except_ok_bind, ht, Except.mapError, getToolchainPathOrDie_of_missingPart env hm]
      split at h
      · next p hd => simp only [hd, cleanInstallDir_eq args hd, installDirReason, h, except_error_bind]
      · cases h

/-- **A run that passes the checks installs.** It installs into the installation directory,
removed first when it exists, or into a temporary directory it makes and packs, at the API level
`--api` gives or the architecture's minimum. -/
theorem main_of_exitReason_none {args : ToolchainArgs} {fs : FileSystem} (h : exitReason env args fs = none) :
    ∃ hostTag triple, getHostTagOrDie env fs = .ok hostTag ∧ getTriple args.arch = .ok triple ∧
      main env args fs = match args.installDir with
        | some p => (if fs.pathExists p then fs.rmtree p else .ok fs).mapError (Stopped.os fs) >>=
            createToolchain env p args.arch (args.api.getD (minApiFor args.arch)) (env.ndkDir ++ ["toolchain"])
              hostTag
        | none => (fs.mkdir env.tempdir).mapError (Stopped.os fs) >>= fun fs => removeAtExit env.tempdir (do
            let fs ← createToolchain env (env.tempdir ++ [triple]) args.arch
              (args.api.getD (minApiFor args.arch)) (env.ndkDir ++ ["toolchain"]) hostTag fs
            makeArchive env fs args.packageDir triple
              (if Str.startswith hostTag "windows" then "zip" else "bztar") env.tempdir [triple]) := by
  unfold exitReason at h
  split_ifs at h with hs
  simp only [Option.orElse_eq_none, Option.map_eq_none'] at h
  obtain ⟨hm, hapi, hi⟩ := h
  obtain ⟨tag, hh⟩ := ((getHostTagOrDie_eq env fs).resolve_left fun h => h.1 hs).2
  obtain ⟨t, ht⟩ := getTriple_ok args.arch_mem
  refine ⟨tag, t, hh, ht, ?_⟩
  simp only [main, hh, except_ok_bind, checkNdkOrDie_eq, hm, targetApi_eq, hapi, ht, Except.mapError,
    getToolchainPathOrDie_of_missingPart env hm]
  cases hd : args.installDir with
  | none => rfl
  | some p =>
    simp only [cleanInstallDir_eq args hd, hi]
    rfl

/-- **The script exits exactly for the reasons it checks, and before it changes anything.**
For every host, NDK, arguments and file system: a run ends with `sys.exit(m)` exactly when
`exitReason` gives `m`, and the file system it leaves then is the one it started on. -/
theorem main_exit_iff (args : ToolchainArgs) (fs fs' : FileSystem) (m : String) :
    main env args fs = .error ⟨.exit m, fs'⟩ ↔ exitReason env args fs = some m ∧ fs' = fs := by
  cases hr : exitReason env args fs with
  | some msg =>
    rw [main_of_exitReason_some env hr]
    simp only [Except.error.injEq, Stopped.mk.injEq, Stop.exit.injEq, Option.some.injEq]
    exact ⟨fun ⟨h₁, h₂⟩ => ⟨h₁, h₂.symm⟩, fun ⟨h₁, h₂⟩ => ⟨h₁, h₂.symm⟩⟩
  | none =>
    obtain ⟨tag, t, -, -, hmain⟩ := main_of_exitReason_none env hr
    simp only [hmain, reduceCtorEq, false_and, iff_false]
    split
    · exact ((noExit_os _ _).bind fun _ => createToolchain_noExit env _ _ _ _ _ _) _ _
    · exact ((noExit_os _ _).bind fun _ => removeAtExit_noExit _
        ((createToolchain_noExit env _ _ _ _ _ _).bind fun _ => makeArchive_noExit _ _ _ _ _ _ _)) _ _

/-- The checks read the file system only at the NDK. -/
theorem getHostTagOrDie_toOption {fs₁ fs₂ : FileSystem}
    (h : ∀ c, fs₁.pathExists (env.ndkDir ++ c) = fs₂.pathExists (env.ndkDir ++ c)) :
    (getHostTagOrDie env fs₁).toOption = (getHostTagOrDie env fs₂).toOption := by
  unfold getHostTagOrDie
  split_ifs <;> simp [h, Except.toOption, throw, throwThe, MonadExceptOf.throw]

theorem exitReason_congr {args₁ args₂ : ToolchainArgs} {fs₁ fs₂ : FileSystem}
    (h : ∀ c, fs₁.pathExists (env.ndkDir ++ c) = fs₂.pathExists (env.ndkDir ++ c))
    (ha : apiReason args₁ = apiReason args₂)
    (hi : installDirReason args₁ fs₁ = installDirReason args₂ fs₂) :
    exitReason env args₁ fs₁ = exitReason env args₂ fs₂ := by
  simp only [exitReason, missingPart, h, ha, hi]

/-- **`--force` installs as into a fresh directory.** For an installation directory that is a
directory (`shutil.rmtree` raises on a file), when neither it nor the NDK lies inside the
other: a run with `--force` exits for the
same reasons as a run without it on the file system with the directory removed, and when it
does not exit it is that run. -/
theorem main_force (args : ToolchainArgs) {p : Path} (hp : args.installDir = some p)
    (hforce : args.force = true) {fs : FileSystem} (hdir : fs.isdir p = true)
    (hndk : ¬p <+: env.ndkDir) (hin : ¬env.ndkDir <+: p) :
    exitReason env { args with force := false } (fs.removeTree p) = exitReason env args fs ∧
      (exitReason env args fs = none →
        main env args fs = main env { args with force := false } (fs.removeTree p)) := by
  have hagree : ∀ c, (fs.removeTree p).pathExists (env.ndkDir ++ c) = fs.pathExists (env.ndkDir ++ c) :=
    fun c => FileSystem.pathExists_removeTree (FileSystem.not_prefix_append_of_apart hndk hin c)
      (fun h => hin ((List.prefix_append _ _).trans h))
  have hreason : exitReason env { args with force := false } (fs.removeTree p) = exitReason env args fs :=
    exitReason_congr env hagree rfl (by
      simp [installDirReason, hp, hforce, FileSystem.pathExists_removeTree_self])
  refine ⟨hreason, fun h => ?_⟩
  obtain ⟨tag, t, hh, ht, hmain⟩ := main_of_exitReason_none env h
  obtain ⟨tag', t', hh', -, hmain'⟩ := main_of_exitReason_none env (hreason.trans h)
  have htag : tag' = tag := by
    simpa [hh, hh', Except.toOption] using getHostTagOrDie_toOption env hagree
  rw [hmain, hmain', htag]
  simp [hp, FileSystem.pathExists_of_isdir hdir, FileSystem.rmtree, hdir,
    FileSystem.pathExists_removeTree_self, Except.mapError]

/-- A Linux host with an NDK at `/ndk` that has the parts `check_ndk_or_die` looks for: a
toolchain with Clang 8.0.2, the host's prebuilt `make`, and the `gdbserver` of `x86`; the
directories `/tmp`, `/opt` and `/out` exist, and `tempfile.mkdtemp()` picks `/tmp/t`. Messages
print a path's components joined by `/`. -/
def linuxHost : ToolchainEnv := ⟨"Linux", ["", "ndk"], ["", "tmp", "t"], Str.join "/", fun _ _ => "archive"⟩

/-- The NDK of `linuxHost`. -/
def linuxNdk : FileSystem := FileSystem.ofList
  [(["", "tmp"], .dir), (["", "opt"], .dir), (["", "out"], .dir),
   (["", "ndk", "build", "core"], .dir),
   (["", "ndk", "prebuilt", "linux-x86_64", "bin", "make"], .file ⟨"make", true⟩),
   (["", "ndk", "toolchain", "AndroidVersion.txt"], .file ⟨"8.0.2\n", false⟩),
   (["", "ndk", "toolchain", "bin", "clang"], .file ⟨"clang", true⟩),
   (["", "ndk", "toolchain", "bin", "clang++"], .file ⟨"clang++", true⟩),
   (["", "ndk", "prebuilt", "android-x86", "gdbserver", "gdbserver"], .file ⟨"gdbserver", true⟩)]

/-- `--arch x86 --install-dir /opt/tc --force`. -/
def reinstallArgs : ToolchainArgs := ⟨"x86", none, true, ["", "tmp"], some ["", "opt", "tc"], by decide⟩

/-- The NDK of `linuxHost` and an earlier installation at `/opt/tc`. -/
def staleInstall : FileSystem := linuxNdk.put ["", "opt", "tc", "old"] (.file ⟨"old", false⟩)

theorem main_force_reinstall :
    reinstallArgs.installDir = some ["", "opt", "tc"] ∧ reinstallArgs.force = true ∧
      staleInstall.isdir ["", "opt", "tc"] = true ∧
      ¬["", "opt", "tc"] <+: linuxHost.ndkDir ∧ ¬linuxHost.ndkDir <+: ["", "opt", "tc"] ∧
      (exitReason linuxHost { reinstallArgs with force := false } (staleInstall.removeTree ["", "opt", "tc"]) =
          exitReason linuxHost reinstallArgs staleInstall ∧
        (exitReason linuxHost reinstallArgs staleInstall = none →
          main linuxHost reinstallArgs staleInstall =
            main linuxHost { reinstallArgs with force := false } (staleInstall.removeTree ["", "opt", "tc"]))) :=
  ⟨rfl, rfl, by decide, by decide, by decide,
    main_force linuxHost reinstallArgs rfl rfl (by decide) (by decide) (by decide)⟩

end Ndk
