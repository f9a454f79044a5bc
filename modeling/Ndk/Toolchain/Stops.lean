import Ndk.Toolchain.Install

/-!
# What a run of the toolchain script leaves when it stops

A run that raises in the middle of `create_toolchain` has already copied part of the toolchain.
`Ends P Q r` says how `r` may end: with a value of which `Q` holds, or stopped on a file system
of which `P` holds. It composes along `>>=` (`Ends.bind`), so each step of the script is
checked once, for both of its outcomes.

`Inside d fs fs'` is the frame a step into the installation directory `d` keeps: nothing outside
`d` changed, and `d` is not a file. Every step of `create_toolchain` keeps it, however it ends
(`createToolchain_ends`).

* `main_stops_within_installDir`: **a run with `--install-dir`, into a directory whose parent is
  a directory, that stops after any step has changed nothing outside the installation
  directory.**
* `main_package_stops_restores`: **a package run that stops, after any step, leaves the file
  system as it found it: `tempfile.mkdtemp()` and `make_archive` fail before they change
  anything, and the `atexit` handler removes the temporary directory.**
-/

namespace Ndk

open FileSystem

/-- The file system a run of the script leaves, however it ends. -/
def leftFs : Except Stopped FileSystem → FileSystem
  | .ok fs => fs
  | .error s => s.fs

/-- `r` ends with a value of which `Q` holds, or stops leaving a file system of which `P`
holds. -/
def Ends {α : Type} (P : FileSystem → Prop) (Q : α → Prop) : Except Stopped α → Prop
  | .ok a => Q a
  | .error s => P s.fs

namespace Ends

variable {α β : Type} {P P' : FileSystem → Prop} {Q Q' : α → Prop} {R : β → Prop}

theorem bind {x : Except Stopped α} {f : α → Except Stopped β} (hx : Ends P Q x)
    (hf : ∀ a, Q a → Ends P R (f a)) : Ends P R (x >>= f) := by
  cases x with
  | error s => exact hx
  | ok a => exact hf a hx

theorem mono {r : Except Stopped α} (h : Ends P Q r) (hP : ∀ fs, P fs → P' fs) (hQ : ∀ a, Q a → Q' a) :
    Ends P' Q' r := by
  cases r with
  | error s => exact hP _ h
  | ok a => exact hQ _ h

/-- A step that fails with an `OSError` on `fs`. -/
theorem os {y : Except Path α} {fs : FileSystem} (hP : P fs) (hQ : ∀ a, y = .ok a → Q a) :
    Ends P Q (y.mapError (Stopped.os fs)) := by
  cases y with
  | error p => exact hP
  | ok a => exact hQ a rfl

/-- A step that raises on `fs`. -/
theorem py {y : Except PyError α} {fs : FileSystem} (hP : P fs) (hQ : ∀ a, y = .ok a → Q a) :
    Ends P Q (y.mapError (Stopped.py fs)) := by
  cases y with
  | error e => exact hP
  | ok a => exact hQ a rfl

theorem foldlM {f : FileSystem → β → Except Stopped FileSystem} (hf : ∀ fs b, P fs → Ends P P (f fs b)) :
    ∀ (l : List β) (fs : FileSystem), P fs → Ends P P (l.foldlM f fs)
  | [], _, h => h
  | b :: l, fs, h => (hf fs b h).bind fun fs' h' => foldlM hf l fs' h'

theorem leftFs {r : Except Stopped FileSystem} (h : Ends P P r) : P (leftFs r) := by
  cases r <;> exact h

theorem of_eq_error {r : Except Stopped α} {s : Stopped} (hr : Ends P Q r) (h : r = .error s) : P s.fs := by
  subst h
  exact hr

end Ends

/-! ### The frame of an installation -/

/-- `fs'` differs from `fs` only inside `d`, and does not make `d` a file. -/
structure Inside (d : Path) (fs fs' : FileSystem) : Prop where
  within : Within d fs fs'
  not_file : ∀ f, fs'.entry d ≠ some (.file f)

namespace Inside

variable {d : Path} {fs₀ fs₁ fs₂ : FileSystem}

/-- A step below a child of `d` keeps the frame. -/
theorem child {x : Path} (h : Inside d fs₀ fs₁) (hw : Within (d ++ x) fs₁ fs₂) (hx : x ≠ []) :
    Inside d fs₀ fs₂ where
  within := h.within.trans (hw.mono (List.prefix_append _ _))
  not_file f := by
    have hd : ¬d ++ x <+: d := fun hp => hx <| List.length_eq_zero.1 <| by
      have := hp.length_le
      rw [List.length_append] at this
      omega
    rw [hw d hd]
    exact h.not_file f

/-- `copy_tree` into `d`, below a directory, makes `d` a directory when it was not one, and
leaves it alone otherwise. -/
theorem copyTree {src : Path} (h : Inside d fs₀ fs₁) (hpar : fs₁.ParentDir d)
    (hc : fs₁.copyTree src d = .ok fs₂) : Inside d fs₀ fs₂ where
  within := h.within.trans (within_copyTree List.prefix_rfl hpar hc)
  not_file f := by
    obtain ⟨-, fs', hm, rfl⟩ := copyTree_eq_ok.1 hc
    rw [entry_graft, if_neg fun h => h.2 rfl, entry_mkpath hm]
    split
    · simp
    · exact h.not_file f

/-- `shutil.copytree` into `d ++ x`, below a directory, makes `d` a directory when nothing was
there, and leaves it alone otherwise. -/
theorem copytree {src x : Path} (h : Inside d fs₀ fs₁) (hpar : fs₁.ParentDir d) (hx : x ≠ [])
    (hc : fs₁.copytree src (d ++ x) = .ok fs₂) : Inside d fs₀ fs₂ where
  within := h.within.trans (within_copytree (List.prefix_append _ _) hpar hc)
  not_file f := by
    obtain ⟨fs', hm, rfl⟩ := copytree_eq_ok hc
    rw [entry_graft, if_neg fun h => hx <| List.length_eq_zero.1 <| by
        have := h.1.length_le
        rw [List.length_append] at this
        omega, entry_makedirs hm]
    split
    · simp
    · exact h.not_file f

end Inside

/-- The installation directory as `main` finds it: removed when it existed. -/
theorem inside_cleaned {p : Path} {fs C : FileSystem}
    (h : (if fs.pathExists p then fs.rmtree p else .ok fs) = .ok C) : Inside p fs C where
  within := (cleaned_eq_ok h).1
  not_file f := by simp [(cleaned_eq_ok h).2 p List.prefix_rfl]

/-! ### Each step, however it ends -/

section Steps

variable (triple : String) {d : Path} {api : ℤ} {windows : Bool} {fs₀ fs : FileSystem}

theorem makeClangScripts_ends (h : Within (d ++ ["bin"]) fs₀ fs) :
    Ends (Within (d ++ ["bin"]) fs₀) (Within (d ++ ["bin"]) fs₀) (makeClangScripts d triple api windows fs) := by
  have hb : ∀ n, d ++ ["bin"] <+: d ++ ["bin"] ++ [n] := fun n => List.prefix_append _ _
  have hbn : ∀ n, d ++ ["bin"] <+: d ++ ["bin", n] := fun n => ⟨[n], by simp⟩
  unfold makeClangScripts
  refine (Ends.os h fun _ _ => trivial).bind fun _ _ => ?_
  refine (Ends.py h fun _ _ => trivial).bind fun ⟨major, minor, _⟩ _ => ?_
  refine (Ends.os h fun _ ha => h.trans (within_move (hb _) (hb _) ha)).bind fun fsa ha => ?_
  refine (Ends.os ha fun _ hm => ha.trans (within_move (hb _) (hb _) hm)).bind fun fsm hm => ?_
  refine (Ends.py hm fun _ _ => trivial).bind fun flags _ => ?_
  refine (Ends.os hm fun _ h₁ => hm.trans (within_writeText (hbn _) h₁)).bind fun fs₁ h₁ => ?_
  have h₁' := h₁.trans (within_chmodX (hbn "clang"))
  refine (Ends.os h₁' fun _ h₂ => h₁'.trans (within_writeText (hbn _) h₂)).bind fun fs₂ h₂ => ?_
  have h₂' := h₂.trans (within_chmodX (hbn "clang++"))
  refine (Ends.os h₂' fun _ h₃ => h₂'.trans (within_copy2 (hbn _) h₃)).bind fun fs₃ h₃ => ?_
  refine (Ends.os h₃ fun _ h₄ => h₃.trans (within_copy2 (hbn _) h₄)).bind fun fs₄ h₄ => ?_
  split
  · exact Ends.foldlM (fun fs _ hfs => Ends.foldlM (fun fs _ hfs =>
      Ends.os hfs fun _ hw => hfs.trans (within_writeText (hbn _) hw)) _ _ hfs) _ _ h₄
  · exact h₄

theorem replaceGccWrappers_ends (h : Within (d ++ ["bin"]) fs₀ fs) :
    Ends (Within (d ++ ["bin"]) fs₀) (Within (d ++ ["bin"]) fs₀) (replaceGccWrappers d triple windows fs) := by
  have hbn : ∀ n, d ++ ["bin"] <+: d ++ ["bin", n] := fun n => ⟨[n], by simp⟩
  unfold replaceGccWrappers
  exact (Ends.os h fun _ h₁ => h.trans (within_copy2 (hbn _) h₁)).bind fun _ h₁ =>
    Ends.os h₁ fun _ h₂ => h₁.trans (within_copy2 (hbn _) h₂)

end Steps

variable (env : ToolchainEnv)

/-- **Every step of `create_toolchain` keeps the frame of the installation directory, however
it ends.** -/
theorem createToolchain_ends {p tc : Path} {arch hostTag : String} {api : ℤ} {fs₀ fs : FileSystem}
    (hpar : fs₀.ParentDir p) (h : Inside p fs₀ fs) :
    Ends (Inside p fs₀) (Inside p fs₀) (createToolchain env p arch api tc hostTag fs) := by
  have hbin : ∀ {fs₁ fs₂}, Inside p fs₀ fs₁ → Within (p ++ ["bin"]) fs₁ fs₂ → Inside p fs₀ fs₂ :=
    fun h₁ h₂ => h₁.child h₂ (List.cons_ne_nil _ _)
  unfold createToolchain
  refine (Ends.os h fun _ h₁ => h.copyTree (h.within.parentDir hpar) h₁).bind fun fs₁ h₁ => ?_
  refine (Ends.py h₁ fun _ _ => trivial).bind fun triple _ => ?_
  refine ((makeClangScripts_ends triple (Within.refl _ fs₁)).mono (fun _ => hbin h₁) fun _ => hbin h₁).bind
    fun fs₂ h₂ => ?_
  refine ((replaceGccWrappers_ends triple (Within.refl _ fs₂)).mono (fun _ => hbin h₂) fun _ => hbin h₂).bind
    fun fs₃ h₃ => ?_
  refine (Ends.os h₃ fun _ h₄ => h₃.copyTree (h₃.within.parentDir hpar) h₄).bind fun fs₄ h₄ => ?_
  exact Ends.os h₄ fun _ h₅ => h₄.copytree (h₄.within.parentDir hpar) (List.cons_ne_nil _ _) h₅

/-- A run with `--install-dir`, into a directory whose parent is a directory, stops on the file
system it started on, or keeps the frame of the installation directory; when it returns, it kept
the frame. -/
theorem main_ends_installDir {args : ToolchainArgs} {p : Path} {fs : FileSystem} (hp : args.installDir = some p)
    (hpar : fs.ParentDir p) : Ends (fun F => F = fs ∨ Inside p fs F) (Inside p fs) (main env args fs) := by
  cases hr : exitReason env args fs with
  | some m =>
    rw [main_of_exitReason_some env hr]
    exact .inl rfl
  | none =>
    obtain ⟨tag, t, -, -, hmain⟩ := main_of_exitReason_none env hr
    rw [hmain, hp]
    refine (Ends.os (.inl rfl) fun _ hC => inside_cleaned hC).bind fun C hC => ?_
    exact (createToolchain_ends env hpar hC).mono (fun _ => .inr) fun _ => id

/-- **A run with `--install-dir` that stops has changed nothing outside the installation
directory.** For an installation directory whose parent is a directory: however the run stops,
an exit before any change, or an exception or an `OSError` in the middle of the copying, every
path outside the directory keeps its entry. -/
theorem main_stops_within_installDir {args : ToolchainArgs} {p : Path} {fs : FileSystem} {s : Stopped}
    (hp : args.installDir = some p) (hpar : fs.entry p.dropLast = some .dir) (h : main env args fs = .error s) :
    ∀ q, ¬p <+: q → s.fs.entry q = fs.entry q := by
  rcases eq_or_ne p [] with rfl | hne
  · exact fun q hq => absurd List.nil_prefix hq
  have hend : Ends _ _ (main env args fs) := main_ends_installDir env hp (parentDir_of_dir hne hpar)
  rw [h] at hend
  rcases hend with hs | hs
  · exact fun q _ => by rw [hs]
  · exact hs.within

theorem removeAtExit_eq_error {d : Path} {r : Except Stopped FileSystem} {s : Stopped}
    (h : removeAtExit d r = .error s) : ∃ s', r = .error s' ∧ s = ⟨s'.stop, s'.fs.removeTree d⟩ := by
  rcases r with s' | fs
  · exact ⟨s', rfl, (Except.error.inj h).symm⟩
  · cases h

/-- A failing `make_archive` fails before it changes anything: `os.makedirs` fails before it
makes a directory, and an archive opened in a directory `os.makedirs` has just made opens. -/
theorem makeArchive_eq_error {fs : FileSystem} {dir : Path} {baseName format : String} {rootDir baseDir : Path}
    {s : Stopped} (h : makeArchive env fs dir baseName format rootDir baseDir = .error s) : s.fs = fs := by
  unfold makeArchive at h
  by_cases hd : fs.pathExists dir
  · simp only [hd, if_true, pure_bind, Except.mapError] at h
    split at h
    · cases h
      rfl
    · cases h
  · simp only [hd, Bool.false_eq_true, if_false] at h
    cases hm : fs.makedirs dir with
    | error p =>
      simp only [hm, Except.mapError, except_error_bind] at h
      cases h
      rfl
    | ok fs₁ =>
      have hnone : ∀ q, dir ++ [baseName ++ if format = "zip" then ".zip" else ".tar.bz2"] <+: q →
          fs₁.entry q = none := fun q hq => by
        have hdq := (List.prefix_append _ _).trans hq
        rw [entry_makedirs hm, if_neg, entry_of_not_pathExists (Bool.eq_false_iff.2 hd) hdq]
        rintro (rfl | ⟨-, hq', -⟩)
        · exact absurd hq.length_le (by simp)
        · exact absurd ((hq.trans hq').trans (List.dropLast_prefix _)).length_le (by simp)
      have hdir : fs₁.isdir (dir ++ [baseName ++ if format = "zip" then ".zip" else ".tar.bz2"]).dropLast = true := by
        rw [List.dropLast_concat]
        exact isdir_of_dir (by simp [entry_makedirs hm])
      simp [hm, Except.mapError, writeText_fresh _ hnone hdir] at h

/-- A step that ends with `make_archive` stops on the file system `make_archive` started on. -/
theorem ends_makeArchive {P : FileSystem → Prop} {fs : FileSystem} (hP : P fs) (dir : Path)
    (baseName format : String) (rootDir baseDir : Path) :
    Ends P (fun _ => True) (makeArchive env fs dir baseName format rootDir baseDir) := by
  cases h : makeArchive env fs dir baseName format rootDir baseDir with
  | error s =>
    show P s.fs
    rw [makeArchive_eq_error env h]
    exact hP
  | ok _ => trivial

/-- **A package run that stops leaves no trace.** However a run without `--install-dir` stops,
before the temporary directory is made, when `tempfile.mkdtemp()` fails, in the middle of the
copying into the directory, or when `make_archive` fails, the `atexit` handler has removed the
directory and no archive was written, so every path has its entry from before. -/
theorem main_package_stops_restores {args : ToolchainArgs} {fs : FileSystem} {s : Stopped}
    (hd : args.installDir = none) (h : main env args fs = .error s) : ∀ q, s.fs.entry q = fs.entry q := by
  cases hr : exitReason env args fs with
  | some m =>
    rw [main_of_exitReason_some env hr] at h
    cases h
    exact fun _ => rfl
  | none =>
    obtain ⟨tag, t, -, -, hmain⟩ := main_of_exitReason_none env hr
    rw [hmain, hd] at h
    cases hmk : fs.mkdir env.tempdir with
    | error p =>
      simp only [hmk, Except.mapError, except_error_bind, Except.error.injEq] at h
      rw [← h]
      exact fun _ => rfl
    | ok fsm =>
      simp only [hmk, Except.mapError, except_ok_bind] at h
      obtain ⟨htmp, -, rfl⟩ := mkdir_eq_ok.1 hmk
      obtain ⟨s', hs', rfl⟩ := removeAtExit_eq_error h
      have hin : Inside (env.tempdir ++ [t]) (fs.put env.tempdir .dir) (fs.put env.tempdir .dir) :=
        ⟨Within.refl _ _, fun f => by simp [entry_of_not_pathExists htmp (List.prefix_append _ _)]⟩
      have hF : Inside (env.tempdir ++ [t]) (fs.put env.tempdir .dir) s'.fs :=
        ((createToolchain_ends env (parentDir_of_dir (by simp) (by simp)) hin).bind
          fun _ hi => ends_makeArchive env hi _ _ _ _ _).of_eq_error hs'
      intro q
      by_cases hq : env.tempdir <+: q
      · simp [hq, entry_of_not_pathExists htmp hq]
      · rw [entry_removeTree, if_neg hq, hF.within q fun h => hq ((List.prefix_append _ _).trans h), entry_put,
          if_neg fun (h : q = env.tempdir) => hq (h ▸ List.prefix_rfl)]

/-- How a run stopped; an exit without a message for a run that returned. -/
def stopOf (r : Except Stopped FileSystem) : Stopped :=
  match r with
  | .error s => s
  | .ok fs => ⟨.exit "", fs⟩

theorem eq_error_stopOf {r : Except Stopped FileSystem} (h : r.toBool = false) : r = .error (stopOf r) := by
  cases r with
  | error s => rfl
  | ok fs => cases h

/-- `linuxNdk` without its `clang`. -/
def brokenNdk : FileSystem := linuxNdk.removeTree ["", "ndk", "toolchain", "bin", "clang"]

/-- How `installArgs` stops on `brokenNdk`. -/
def brokenStop : Stopped := stopOf (main linuxHost installArgs brokenNdk)

theorem main_brokenNdk : main linuxHost installArgs brokenNdk = .error brokenStop :=
  eq_error_stopOf (by decide)

/-- The run stops on the `OSError` of moving `clang`, after the toolchain was copied. -/
theorem main_stops_within_installDir_broken :
    installArgs.installDir = some ["", "opt", "tc"] ∧ brokenNdk.entry (["", "opt", "tc"].dropLast) = some .dir ∧
      main linuxHost installArgs brokenNdk = .error brokenStop ∧
      brokenStop.stop = .osError ["", "opt", "tc", "bin", "clang"] ∧
      brokenStop.fs.entry ["", "opt", "tc", "AndroidVersion.txt"] = some (.file ⟨"8.0.2\n", false⟩) ∧
      ∀ q, ¬["", "opt", "tc"] <+: q → brokenStop.fs.entry q = brokenNdk.entry q :=
  ⟨rfl, by decide, main_brokenNdk, by decide, by decide,
    main_stops_within_installDir linuxHost rfl (by decide) main_brokenNdk⟩

/-- The package run stops on the `OSError` of moving `clang` in the temporary directory. -/
theorem main_package_stops_restores_broken :
    packageArgs.installDir = none ∧
      main linuxHost packageArgs brokenNdk = .error (stopOf (main linuxHost packageArgs brokenNdk)) ∧
      (stopOf (main linuxHost packageArgs brokenNdk)).stop =
        .osError ["", "tmp", "t", "i686-linux-android", "bin", "clang"] ∧
      ∀ q, (stopOf (main linuxHost packageArgs brokenNdk)).fs.entry q = brokenNdk.entry q :=
  have h := eq_error_stopOf (r := main linuxHost packageArgs brokenNdk) (by decide)
  ⟨rfl, h, by decide, main_package_stops_restores linuxHost rfl h⟩

end Ndk
