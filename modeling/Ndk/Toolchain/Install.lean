import Ndk.Toolchain.Bin

/-!
# What a run of `make_standalone_toolchain.py` installs

A run that ends without error passed every check, so it installed the toolchain with
`create_toolchain` (`main_of_exitReason_none`). With `--install-dir` it installed into that
directory, removed first when it existed; without, it installed into a fresh temporary
directory, packed it, and removed it at exit.

* `main_within_installDir`: **an installation into a directory whose parent is a directory
  changes nothing outside it.**
* `main_installs`: **an installation holds every wrapper, with the target and the API level
  the wrappers pass (never below the architecture's minimum), and the NDK's compilers under the
  names the wrappers call.**
* `main_package`: **a package run into an existing package directory changes nothing but the
  archive, and the archive holds that toolchain.**
-/

namespace Ndk

open FileSystem

variable (env : ToolchainEnv)

/-- A run that ends without error had no reason to exit. -/
theorem exitReason_eq_none_of_ok {args : ToolchainArgs} {fs fs' : FileSystem}
    (h : main env args fs = .ok fs') : exitReason env args fs = none := by
  cases hr : exitReason env args fs with
  | none => rfl
  | some m =>
    rw [main_of_exitReason_some env hr] at h
    cases h

/-- A run that passes the checks targets at least the architecture's minimum. -/
theorem minApiFor_le_of_exitReason_none {args : ToolchainArgs} {fs : FileSystem}
    (h : exitReason env args fs = none) : minApiFor args.arch ≤ args.api.getD (minApiFor args.arch) := by
  unfold exitReason at h
  split_ifs at h
  simp only [Option.orElse_eq_none, Option.map_eq_none'] at h
  have hapi := h.2.1
  unfold apiReason at hapi
  cases ha : args.api with
  | none => simp
  | some a => simpa [ha] using hapi

/-- The host is Windows exactly when its tag says so. -/
theorem getHostTagOrDie_windows {fs : FileSystem} {tag : String} (h : getHostTagOrDie env fs = .ok tag) :
    Str.startswith tag "windows" = (env.system == "Windows") := by
  unfold getHostTagOrDie at h
  split_ifs at h with h₁ h₂ h₃
  · cases h
    rw [h₁]
    rfl
  · cases h
    rw [h₂]
    rfl
  · cases h
    rw [h₃]
    split <;> rfl

theorem removeAtExit_eq_ok {d : Path} {r : Except Stopped FileSystem} {fs' : FileSystem}
    (h : removeAtExit d r = .ok fs') : ∃ fs, r = .ok fs ∧ fs' = fs.removeTree d := by
  rcases r with ⟨_, _⟩ | fs
  · cases h
  · exact ⟨fs, rfl, (Except.ok.inj h).symm⟩

/-- No host's prebuilt `bin` of `linuxNdk` names a compiler or a wrapper. -/
theorem linuxNdk_prebuiltApart (triple : String) (ht : triple ∈ ["arm-linux-androideabi",
    "aarch64-linux-android", "i686-linux-android", "x86_64-linux-android"]) :
    PrebuiltApart linuxHost linuxNdk triple := by
  intro tag n hn
  simp [linuxNdk, linuxHost, FileSystem.ofList, FileSystem.empty] at hn
  obtain ⟨-, rfl⟩ := hn
  simp only [List.mem_cons, List.not_mem_nil, or_false] at ht
  rcases ht with rfl | rfl | rfl | rfl <;> decide

/-! ### Installing into a directory -/

/-- `--arch x86 --install-dir /opt/tc`. -/
def installArgs : ToolchainArgs := ⟨"x86", none, false, ["", "tmp"], some ["", "opt", "tc"], by decide⟩

/-- What `installArgs` leaves on `linuxNdk`. -/
def installedNdk : FileSystem := (main linuxHost installArgs linuxNdk).toOption.getD linuxNdk

theorem main_installArgs : main linuxHost installArgs linuxNdk = .ok installedNdk :=
  eq_ok_toOption_getD (by decide) _

section Install

variable {args : ToolchainArgs} {p : Path} {fs fs' : FileSystem}

/-- The file system `main` installs on: the one it started on, with the installation directory
removed when it existed. -/
theorem cleaned_eq_ok {C : FileSystem} (h : (if fs.pathExists p then fs.rmtree p else .ok fs) = .ok C) :
    Within p fs C ∧ ∀ q, p <+: q → C.entry q = none := by
  split at h
  · obtain ⟨-, rfl⟩ := rmtree_eq_ok.1 h
    exact ⟨within_removeTree List.prefix_rfl, fun q hq => by simp [hq]⟩
  · cases h
    exact ⟨Within.refl _ _, fun q hq => entry_of_not_pathExists (Bool.eq_false_iff.2 ‹_›) hq⟩

/-- A run with `--install-dir` that ends without error installed on the cleaned directory. -/
theorem installDir_of_main_ok (hp : args.installDir = some p) (h : main env args fs = .ok fs') :
    ∃ hostTag C, getHostTagOrDie env fs = .ok hostTag ∧ Within p fs C ∧ (∀ q, p <+: q → C.entry q = none) ∧
      createToolchain env p args.arch (args.api.getD (minApiFor args.arch)) (env.ndkDir ++ ["toolchain"])
        hostTag C = .ok fs' := by
  obtain ⟨tag, t, hh, -, hmain⟩ := main_of_exitReason_none env (exitReason_eq_none_of_ok env h)
  simp only [hmain, hp] at h
  obtain ⟨C, hC, h⟩ := except_bind_eq_ok.1 h
  obtain ⟨hw, hfresh⟩ := cleaned_eq_ok (mapError_eq_ok.1 hC)
  exact ⟨tag, C, hh, hw, hfresh, h⟩

/-- **An installation into a directory whose parent is a directory changes nothing outside
it.** -/
theorem main_within_installDir (hp : args.installDir = some p) (hpar : fs.entry p.dropLast = some .dir)
    (h : main env args fs = .ok fs') : ∀ q, ¬p <+: q → fs'.entry q = fs.entry q := by
  rcases eq_or_ne p [] with rfl | hne
  · exact fun q hq => absurd List.nil_prefix hq
  obtain ⟨tag, C, -, hw, -, h⟩ := installDir_of_main_ok env hp h
  exact hw.trans (createToolchain_within env (hw.parentDir (parentDir_of_dir hne hpar)) h)

theorem main_within_installDir_x86 :
    installArgs.installDir = some ["", "opt", "tc"] ∧ linuxNdk.entry (["", "opt", "tc"].dropLast) = some .dir ∧
      main linuxHost installArgs linuxNdk = .ok installedNdk ∧
      ∀ q, ¬["", "opt", "tc"] <+: q → installedNdk.entry q = linuxNdk.entry q :=
  ⟨rfl, by decide, main_installArgs, main_within_installDir linuxHost rfl (by decide) main_installArgs⟩

/-- What a successful installation leaves: the API level it targets, and `bin`. -/
theorem installed_of_main_ok {triple : String} (hp : args.installDir = some p)
    (ht : getTriple args.arch = .ok triple) (hndk : ¬p <+: env.ndkDir) (hin : ¬env.ndkDir <+: p)
    (hpre : PrebuiltApart env fs triple) (h : main env args fs = .ok fs') :
    minApiFor args.arch ≤ args.api.getD (minApiFor args.arch) ∧
      ∃ text major minor build,
        fs.readText (env.ndkDir ++ ["toolchain", "AndroidVersion.txt"]) = .ok text ∧
        Str.split (Str.strip text) "." = [major, minor, build] ∧
        BinInstalled triple (major ++ minor)
          (toolchainFlags args.arch (args.api.getD (minApiFor args.arch)))
          fs.entry fs'.entry (env.ndkDir ++ ["toolchain"]) p (env.system == "Windows") := by
  have hr := exitReason_eq_none_of_ok env h
  obtain ⟨tag, C, hh, h₀, hfresh, h⟩ := installDir_of_main_ok env hp h
  have hout : ∀ x, ¬p <+: env.ndkDir ++ x := not_prefix_append_of_apart hndk hin
  obtain ⟨text, major, minor, build, flags, htext, hsplit, hflags, hbin⟩ :=
    createToolchain_bin env ht hfresh hndk hin
      (fun tag n hn => hpre tag n (by rwa [h₀ _ (hout _)] at hn)) h
  rw [clangFlags_getTriple ht, Except.ok.injEq] at hflags
  subst hflags
  refine ⟨minApiFor_le_of_exitReason_none env hr, text, major, minor, build,
    (readText_of_entry (h₀ _ (hout _))).symm.trans htext, hsplit, ?_⟩
  rw [← getHostTagOrDie_windows env hh]
  exact hbin.congr (fun n => by rw [List.append_assoc, h₀ _ (hout _)]) fun _ => rfl

/-- **An installation installs the toolchain.** For an installation directory apart from the
NDK, whose host prebuilts name nothing that starts with `clang` or the triple: the API level is
at least the architecture's minimum, and `bin` holds every wrapper, with the flags for the
architecture and that level, and the NDK's compilers under the names the wrappers call, for the
Clang version in the toolchain's `AndroidVersion.txt`. -/
theorem main_installs {triple : String} (hp : args.installDir = some p)
    (ht : getTriple args.arch = .ok triple) (hndk : ¬p <+: env.ndkDir) (hin : ¬env.ndkDir <+: p)
    (hpre : PrebuiltApart env fs triple) (h : main env args fs = .ok fs') :
    minApiFor args.arch ≤ args.api.getD (minApiFor args.arch) ∧
      ∃ text major minor build,
        fs.readText (env.ndkDir ++ ["toolchain", "AndroidVersion.txt"]) = .ok text ∧
        Str.split (Str.strip text) "." = [major, minor, build] ∧
        BinInstalled triple (major ++ minor)
          (toolchainFlags args.arch (args.api.getD (minApiFor args.arch)))
          fs.entry fs'.entry (env.ndkDir ++ ["toolchain"]) p (env.system == "Windows") :=
  installed_of_main_ok env hp ht hndk hin hpre h

theorem main_installs_x86 :
    installArgs.installDir = some ["", "opt", "tc"] ∧ getTriple installArgs.arch = .ok "i686-linux-android" ∧
      ¬["", "opt", "tc"] <+: linuxHost.ndkDir ∧ ¬linuxHost.ndkDir <+: ["", "opt", "tc"] ∧
      PrebuiltApart linuxHost linuxNdk "i686-linux-android" ∧
      main linuxHost installArgs linuxNdk = .ok installedNdk ∧
      (minApiFor installArgs.arch ≤ installArgs.api.getD (minApiFor installArgs.arch) ∧
        ∃ text major minor build,
          linuxNdk.readText (linuxHost.ndkDir ++ ["toolchain", "AndroidVersion.txt"]) = .ok text ∧
          Str.split (Str.strip text) "." = [major, minor, build] ∧
          BinInstalled "i686-linux-android" (major ++ minor)
            (toolchainFlags installArgs.arch (installArgs.api.getD (minApiFor installArgs.arch)))
            linuxNdk.entry installedNdk.entry (linuxHost.ndkDir ++ ["toolchain"]) ["", "opt", "tc"]
            (linuxHost.system == "Windows")) :=
  have hpre := linuxNdk_prebuiltApart "i686-linux-android" (by decide)
  ⟨rfl, rfl, by decide, by decide, hpre, main_installArgs,
    main_installs linuxHost rfl rfl (by decide) (by decide) hpre main_installArgs⟩

end Install

/-! ### Packing a toolchain -/

/-- A package run that ends without error made the temporary directory, installed into it,
packed it, and removed it. -/
theorem package_of_main_ok {args : ToolchainArgs} {fs fs' : FileSystem} (hd : args.installDir = none)
    (h : main env args fs = .ok fs') :
    ∃ hostTag triple fsi fsa, getHostTagOrDie env fs = .ok hostTag ∧ getTriple args.arch = .ok triple ∧
      fs.pathExists env.tempdir = false ∧ fs.isdir env.tempdir.dropLast = true ∧
      createToolchain env (env.tempdir ++ [triple]) args.arch (args.api.getD (minApiFor args.arch))
        (env.ndkDir ++ ["toolchain"]) hostTag (fs.put env.tempdir .dir) = .ok fsi ∧
      makeArchive env fsi args.packageDir triple (if Str.startswith hostTag "windows" then "zip" else "bztar")
        env.tempdir [triple] = .ok fsa ∧
      fs' = fsa.removeTree env.tempdir := by
  obtain ⟨tag, t, hh, ht, hmain⟩ := main_of_exitReason_none env (exitReason_eq_none_of_ok env h)
  simp only [hmain, hd] at h
  obtain ⟨fsm, hmk, h⟩ := except_bind_eq_ok.1 h
  obtain ⟨htmp, hpar, rfl⟩ := mkdir_eq_ok.1 (mapError_eq_ok.1 hmk)
  obtain ⟨fsa, hfsa, rfl⟩ := removeAtExit_eq_ok h
  obtain ⟨fsi, hci, harch⟩ := except_bind_eq_ok.1 hfsa
  exact ⟨tag, t, fsi, fsa, hh, ht, htmp, hpar, hci, harch, rfl⟩

/-- `make_archive` into an existing directory writes the archive and nothing else. -/
theorem makeArchive_of_pathExists {fs fs' : FileSystem} {dir : Path} {baseName format : String}
    {rootDir baseDir : Path} (hdir : fs.pathExists dir = true)
    (h : makeArchive env fs dir baseName format rootDir baseDir = .ok fs') :
    ∃ x, fs' = fs.put (dir ++ [baseName ++ if format = "zip" then ".zip" else ".tar.bz2"])
      (.file ⟨env.archive format fun q => if baseDir.isPrefixOf q then fs.entry (rootDir ++ q) else none, x⟩) := by
  simp only [makeArchive, hdir, if_true, pure_bind, mapError_eq_ok] at h
  exact writeText_eq_ok h

/-- **A package run changes nothing but the archive, which holds the toolchain.** For a
temporary directory apart from the NDK and from the package directory, a package directory that
exists, and host prebuilts that name nothing that starts with `clang` or the triple: the
archive `triple.zip` on Windows, `triple.tar.bz2` elsewhere, is in the package directory, every
other path keeps its entry, and the tree packed holds, below the directory named by the triple,
the `bin` an installation holds. -/
theorem main_package {args : ToolchainArgs} {triple : String} {fs fs' : FileSystem}
    (hd : args.installDir = none) (ht : getTriple args.arch = .ok triple)
    (hndk : ¬env.tempdir <+: env.ndkDir) (hin : ¬env.ndkDir <+: env.tempdir) (hpkg : ¬env.tempdir <+: args.packageDir)
    (hpkg' : ¬args.packageDir <+: env.tempdir) (hdir : fs.pathExists args.packageDir = true)
    (hpre : PrebuiltApart env fs triple) (h : main env args fs = .ok fs') :
    (∀ q, q ≠ args.packageDir ++ [triple ++ if env.system = "Windows" then ".zip" else ".tar.bz2"] →
      fs'.entry q = fs.entry q) ∧
    ∃ tree x text major minor build,
      fs'.entry (args.packageDir ++ [triple ++ if env.system = "Windows" then ".zip" else ".tar.bz2"]) =
        some (.file ⟨env.archive (if env.system = "Windows" then "zip" else "bztar") tree, x⟩) ∧
      fs.readText (env.ndkDir ++ ["toolchain", "AndroidVersion.txt"]) = .ok text ∧
      Str.split (Str.strip text) "." = [major, minor, build] ∧
      BinInstalled triple (major ++ minor)
        (toolchainFlags args.arch (args.api.getD (minApiFor args.arch)))
        fs.entry tree (env.ndkDir ++ ["toolchain"]) [triple] (env.system == "Windows") := by
  obtain ⟨tag, t, fsi, fsa, hh, ht', htmp, -, hci, harch, rfl⟩ := package_of_main_ok env hd h
  obtain rfl : t = triple := Except.ok.inj (ht'.symm.trans ht)
  have h₀ : ∀ q, q ≠ env.tempdir → (fs.put env.tempdir .dir).entry q = fs.entry q := fun q hq => by
    rw [entry_put, if_neg hq]
  have hout : ∀ x, env.ndkDir ++ x ≠ env.tempdir := fun x hx => hin (hx ▸ List.prefix_append _ _)
  have hfresh : ∀ q, env.tempdir ++ [t] <+: q → (fs.put env.tempdir .dir).entry q = none := fun q hq => by
    rw [h₀ _ fun h => by
      have := hq.length_le
      simp only [h, List.length_append, List.length_singleton] at this
      omega]
    exact entry_of_not_pathExists htmp ((List.prefix_append _ _).trans hq)
  obtain ⟨text, major, minor, build, flags, htext, hsplit, hflags, hbin⟩ :=
    createToolchain_bin env ht hfresh (fun h => hndk ((List.prefix_append _ _).trans h))
      (fun h => (List.prefix_or_prefix_of_prefix h (List.prefix_append _ _)).elim hin hndk)
      (fun tag n hn => hpre tag n (by rwa [h₀ _ (hout _)] at hn)) hci
  rw [clangFlags_getTriple ht, Except.ok.injEq] at hflags
  subst hflags
  have hwi : Within (env.tempdir ++ [t]) (fs.put env.tempdir .dir) fsi :=
    createToolchain_within env (parentDir_of_dir (by simp) (by simp)) hci
  have hpkgi : fsi.pathExists args.packageDir = true := by
    rw [hwi.apart.pathExists (fun h => hpkg ((List.prefix_append _ _).trans h))
      (not_prefix_append_of_apart hpkg' hpkg _), (within_put List.prefix_rfl _).apart.pathExists hpkg hpkg', hdir]
  obtain ⟨x, rfl⟩ := makeArchive_of_pathExists env hpkgi harch
  have hwin := getHostTagOrDie_windows env hh
  have hfmt : (if Str.startswith tag "windows" = true then "zip" else "bztar") =
      if env.system = "Windows" then "zip" else "bztar" := by
    simp [hwin]
  have hext : (if (if env.system = "Windows" then "zip" else "bztar") = "zip" then ".zip" else ".tar.bz2") =
      if env.system = "Windows" then ".zip" else ".tar.bz2" := by
    split <;> simp
  have harch : ¬env.tempdir <+: args.packageDir ++ [t ++ if env.system = "Windows" then ".zip" else ".tar.bz2"] :=
    not_prefix_append_of_apart hpkg hpkg' _
  simp only [hfmt, hext]
  refine ⟨fun q hq => ?_, fun q => if [t].isPrefixOf q then fsi.entry (env.tempdir ++ q) else none, x,
    text, major, minor, build, by simp [harch], ?_, hsplit, ?_⟩
  · by_cases hq' : env.tempdir <+: q
    · simp [hq', entry_of_not_pathExists htmp hq']
    · rw [entry_removeTree, if_neg hq', entry_put, if_neg hq,
        hwi _ fun h => hq' ((List.prefix_append _ _).trans h), h₀ _ fun h => hq' (h ▸ List.prefix_rfl)]
  · rwa [← readText_of_entry (h₀ _ (hout _))]
  · rw [← hwin]
    exact hbin.congr (fun n => by rw [List.append_assoc, h₀ _ (hout _)])
      fun n => by simp [List.append_assoc]

/-- `--arch x86 --package-dir /out`. -/
def packageArgs : ToolchainArgs := ⟨"x86", none, false, ["", "out"], none, by decide⟩

/-- What `packageArgs` leaves on `linuxNdk`. -/
def packedNdk : FileSystem := (main linuxHost packageArgs linuxNdk).toOption.getD linuxNdk

theorem main_package_x86 :
    packageArgs.installDir = none ∧ getTriple packageArgs.arch = .ok "i686-linux-android" ∧
      ¬linuxHost.tempdir <+: linuxHost.ndkDir ∧ ¬linuxHost.ndkDir <+: linuxHost.tempdir ∧
      ¬linuxHost.tempdir <+: packageArgs.packageDir ∧ ¬packageArgs.packageDir <+: linuxHost.tempdir ∧
      linuxNdk.pathExists packageArgs.packageDir = true ∧
      PrebuiltApart linuxHost linuxNdk "i686-linux-android" ∧
      main linuxHost packageArgs linuxNdk = .ok packedNdk ∧
      ((∀ q, q ≠ packageArgs.packageDir ++
          ["i686-linux-android" ++ if linuxHost.system = "Windows" then ".zip" else ".tar.bz2"] →
          packedNdk.entry q = linuxNdk.entry q) ∧
        ∃ tree x text major minor build,
          packedNdk.entry (packageArgs.packageDir ++
            ["i686-linux-android" ++ if linuxHost.system = "Windows" then ".zip" else ".tar.bz2"]) =
            some (.file ⟨linuxHost.archive
              (if linuxHost.system = "Windows" then "zip" else "bztar") tree, x⟩) ∧
          linuxNdk.readText (linuxHost.ndkDir ++ ["toolchain", "AndroidVersion.txt"]) = .ok text ∧
          Str.split (Str.strip text) "." = [major, minor, build] ∧
          BinInstalled "i686-linux-android" (major ++ minor)
            (toolchainFlags packageArgs.arch (packageArgs.api.getD (minApiFor packageArgs.arch)))
            linuxNdk.entry tree (linuxHost.ndkDir ++ ["toolchain"]) ["i686-linux-android"]
            (linuxHost.system == "Windows")) :=
  have hpre := linuxNdk_prebuiltApart "i686-linux-android" (by decide)
  have h : main linuxHost packageArgs linuxNdk = .ok packedNdk := eq_ok_toOption_getD (by decide) _
  ⟨rfl, rfl, by decide, by decide, by decide, by decide, by decide, hpre, h,
    main_package linuxHost rfl rfl (by decide) (by decide) (by decide) (by decide) (by decide) hpre h⟩

end Ndk
