import Ndk.Toolchain.Exit

/-!
# What `create_toolchain` leaves in `bin`

`make_clang_scripts` moves the NDK's Clang binaries to names with the Clang version in them,
writes wrapper scripts in their place that call them with the target and the API level, and
copies the wrappers under the triple's name; `replace_gcc_wrappers` copies them under GCC's
names; the host's prebuilt tools and `gdbserver` are copied in last. Each step is inverted
once (`makeClangScripts_eq_ok`, `replaceGccWrappers_eq_ok`, `createToolchain_eq_ok`), and the
result is stated as `BinInstalled`:

* `createToolchain_within`: **`create_toolchain` into a directory whose parent is a directory
  changes nothing outside it**; it may make the missing directories above it otherwise
  (`createToolchain_apart`).
* `createToolchain_bin`: **into a fresh directory, `create_toolchain` installs every wrapper
  with its text, and the NDK's compilers under the versioned names the wrappers call.**

Two names in `bin` are told apart by their last characters, or, for a versioned compiler, by
their first ones (`Str.eq_iff_reverse`, `compilerNames_apart`).
-/

namespace Ndk

open FileSystem

/-! ### Names in `bin` -/

/-- Two strings are equal when their characters are, read from the end. -/
theorem Str.eq_iff_reverse {a b : String} : a = b ↔ a.data.reverse = b.data.reverse := by
  rw [String.ext_iff, List.reverse_inj]

theorem Str.startswith_append (s t : String) : Str.startswith (s ++ t) s = true := by
  simp [Str.startswith, List.isPrefixOf_iff_prefix]

theorem getTriple_mem {arch triple : String} (ht : getTriple arch = .ok triple) :
    triple ∈ ["arm-linux-androideabi", "aarch64-linux-android", "i686-linux-android",
      "x86_64-linux-android"] := by
  unfold getTriple at ht
  split at ht <;> cases ht <;> simp

section Wrappers

variable (triple version flags : String)

/-- The bash wrappers `make_clang_scripts` leaves in `bin`, with their texts: `clang` and
`clang++`, and their copies under the triple's name. -/
def clangWrappers : List (String × String) :=
  [("clang", clangScript version flags ""), ("clang++", clangScript version flags "++"),
    (triple ++ "-clang", clangScript version flags ""),
    (triple ++ "-clang++", clangScript version flags "++")]

/-- The batch wrappers `make_clang_scripts` leaves in `bin` on Windows, with their texts. -/
def clangBats : List (String × String) :=
  [("clang.cmd", clangBat ("clang" ++ version ++ ".exe") flags),
    (triple ++ "-clang.cmd", clangBat ("clang" ++ version ++ ".exe") flags),
    ("clang++.cmd", clangBat ("clang" ++ version ++ "++" ++ ".exe") flags),
    (triple ++ "-clang++.cmd", clangBat ("clang" ++ version ++ "++" ++ ".exe") flags)]

/-- The names `make_clang_scripts` writes in `bin` after it has moved the compilers. -/
def clangWrapperNames (windows : Bool) : List String :=
  ["clang", "clang++", triple ++ "-clang", triple ++ "-clang++"] ++
    if windows then ["clang.cmd", triple ++ "-clang.cmd", "clang++.cmd", triple ++ "-clang++.cmd"]
    else []

/-- The bash wrappers an installed toolchain's `bin` holds, with their texts: those of
`make_clang_scripts`, and off Windows their copies under GCC's names. -/
def toolchainScripts (windows : Bool) : List (String × String) :=
  clangWrappers triple version flags ++
    if windows then []
    else [(triple ++ "-gcc", clangScript version flags ""),
      (triple ++ "-g++", clangScript version flags "++")]

/-- The batch wrappers a Windows toolchain's `bin` holds, with their texts: those of
`make_clang_scripts` and their copies under GCC's names. -/
def toolchainBats (windows : Bool) : List (String × String) :=
  if windows then
    clangBats triple version flags ++
      [(triple ++ "-gcc.cmd", clangBat ("clang" ++ version ++ ".exe") flags),
        (triple ++ "-g++.cmd", clangBat ("clang" ++ version ++ "++" ++ ".exe") flags)]
  else []

/-- The `bin` directory of a toolchain installed at `d`, as `dst` names it: every wrapper with
its text, the bash ones executable; and, for a Clang version neither empty nor `++`, the
NDK's Clang binaries, which `src` names at `tc`, under the versioned names the wrappers call. -/
structure BinInstalled (src dst : Path → Option Entry) (tc d : Path) (windows : Bool) : Prop where
  scripts : ∀ w ∈ toolchainScripts triple version flags windows,
    dst (d ++ ["bin", w.1]) = some (.file ⟨w.2, true⟩)
  bats : ∀ w ∈ toolchainBats triple version flags windows,
    ∃ x, dst (d ++ ["bin", w.1]) = some (.file ⟨w.2, x⟩)
  compilers : version ≠ "" → version ≠ "++" → ∀ f₁ f₂,
    src (tc ++ ["bin", "clang" ++ if windows then ".exe" else ""]) = some (.file f₁) →
    src (tc ++ ["bin", "clang++" ++ if windows then ".exe" else ""]) = some (.file f₂) →
    dst (d ++ ["bin", "clang" ++ version ++ if windows then ".exe" else ""]) = some (.file f₁) ∧
    dst (d ++ ["bin", "clang" ++ version ++ "++" ++ if windows then ".exe" else ""]) =
      some (.file f₂)

variable {triple version flags}

/-- What `bin` holds depends only on the entries of the two trees there. -/
theorem BinInstalled.congr {src src' dst dst' : Path → Option Entry} {tc d d' : Path}
    {windows : Bool} (hs : ∀ n, src' (tc ++ ["bin", n]) = src (tc ++ ["bin", n]))
    (hd : ∀ n, dst' (d' ++ ["bin", n]) = dst (d ++ ["bin", n]))
    (h : BinInstalled triple version flags src dst tc d windows) :
    BinInstalled triple version flags src' dst' tc d' windows where
  scripts w hw := (hd _).trans (h.scripts w hw)
  bats w hw := (hd _) ▸ h.bats w hw
  compilers hv hv' f₁ f₂ h₁ h₂ := by
    rw [hd, hd]
    exact h.compilers hv hv' f₁ f₂ ((hs _).symm.trans h₁) ((hs _).symm.trans h₂)

theorem toolchainScripts_name {windows : Bool} {w : String × String}
    (hw : w ∈ toolchainScripts triple version flags windows) :
    Str.startswith w.1 "clang" ∨ Str.startswith w.1 triple := by
  unfold toolchainScripts clangWrappers at hw
  split at hw <;> simp only [List.cons_append, List.nil_append, List.append_nil, List.mem_cons,
    List.not_mem_nil, or_false] at hw <;> repeat' rcases hw with rfl | hw
  all_goals first | exact .inl rfl | exact .inr (Str.startswith_append _ _)

theorem toolchainBats_name {windows : Bool} {w : String × String}
    (hw : w ∈ toolchainBats triple version flags windows) :
    Str.startswith w.1 "clang" ∨ Str.startswith w.1 triple := by
  unfold toolchainBats clangBats at hw
  split at hw <;> simp only [List.cons_append, List.nil_append, List.mem_cons, List.not_mem_nil,
    or_false] at hw
  repeat' rcases hw with rfl | hw
  all_goals first | exact .inl rfl | exact .inr (Str.startswith_append _ _)

end Wrappers

/-- The versioned compilers' names differ from every name written in `bin` after the moves, for
a version that is neither empty nor `++`: off Windows by their first characters (no triple
starts with `c`), on Windows by their last. -/
theorem compilerNames_apart {triple : String}
    (ht : triple ∈ ["arm-linux-androideabi", "aarch64-linux-android", "i686-linux-android",
      "x86_64-linux-android"]) (windows : Bool) {v : String} (hv : v ≠ "") (hv' : v ≠ "++") :
    ∀ n ∈ [triple ++ "-gcc" ++ (if windows then ".cmd" else ""),
        triple ++ "-g++" ++ (if windows then ".cmd" else "")] ++ clangWrapperNames triple windows,
      "clang" ++ v ++ (if windows then ".exe" else "") ≠ n ∧
        "clang" ++ v ++ "++" ++ (if windows then ".exe" else "") ≠ n := by
  have hv₀ : v.data ≠ [] := fun h => hv (String.ext h)
  have hv₁ : v.data ≠ ['+', '+'] := fun h => hv' (String.ext h)
  obtain ⟨c, r, hc, hcc⟩ : ∃ c r, triple.data = c :: r ∧ 'c' ≠ c := by
    simp only [List.mem_cons, List.not_mem_nil, or_false] at ht
    rcases ht with rfl | rfl | rfl | rfl <;> exact ⟨_, _, rfl, by decide⟩
  cases windows <;>
    simp only [clangWrapperNames, Bool.false_eq_true, if_false, if_true, List.cons_append,
      List.nil_append, List.append_nil, List.mem_cons, List.not_mem_nil, or_false,
      forall_eq_or_imp, forall_eq]
  · simp [String.ext_iff, hv₀, hv₁, hc, hcc]
  · simp [Str.eq_iff_reverse, -List.reverse_inj]

/-! ### The flags -/

/-- The target Clang gets for an architecture. -/
def clangTarget : String → String
  | "arm" => "armv7a-none-linux-androideabi"
  | "arm64" => "aarch64-none-linux-android"
  | "x86" => "i686-none-linux-android"
  | _ => "x86_64-none-linux-android"

/-- The flags a standalone toolchain's wrappers give Clang: the target with the API level
appended, libc++, and `-mstackrealign` for `x86` below API 24. -/
def toolchainFlags (arch : String) (api : ℤ) : String :=
  "-target " ++ clangTarget arch ++ toString api ++ " -stdlib=libc++" ++
    if arch = "x86" ∧ api < 24 then " -mstackrealign" else ""

theorem clangFlags_getTriple {arch triple : String} (ht : getTriple arch = .ok triple) (api : ℤ) :
    clangFlags triple api = .ok (toolchainFlags arch api) := by
  unfold getTriple at ht
  split at ht <;> cases ht
  all_goals
    by_cases h : api < 24 <;>
      simp [clangFlags, Str.split, Str.splitAux, Str.splitFirst, unpack3, toolchainFlags, clangTarget,
        h] <;>
      rfl

/-! ### The steps -/

section Steps

variable (triple : String)

theorem makeClangScripts_eq_ok {d : Path} {api : ℤ} {windows : Bool} {fs fs' : FileSystem}
    (h : makeClangScripts d triple api windows fs = .ok fs') :
    ∃ text major minor build fsa fsm flags,
      fs.readText (d ++ ["AndroidVersion.txt"]) = .ok text ∧
      Str.split (Str.strip text) "." = [major, minor, build] ∧
      fs.move (d ++ ["bin"] ++ ["clang" ++ if windows then ".exe" else ""])
        (d ++ ["bin"] ++ ["clang" ++ (major ++ minor) ++ if windows then ".exe" else ""]) = .ok fsa ∧
      fsa.move (d ++ ["bin"] ++ ["clang++" ++ if windows then ".exe" else ""])
        (d ++ ["bin"] ++ ["clang" ++ (major ++ minor) ++ "++" ++ if windows then ".exe" else ""]) = .ok fsm ∧
      clangFlags triple api = .ok flags ∧
      (∀ w ∈ clangWrappers triple (major ++ minor) flags,
        fs'.entry (d ++ ["bin", w.1]) = some (.file ⟨w.2, true⟩)) ∧
      (windows → ∀ w ∈ clangBats triple (major ++ minor) flags,
        ∃ x, fs'.entry (d ++ ["bin", w.1]) = some (.file ⟨w.2, x⟩)) ∧
      ∀ q, q ∉ (clangWrapperNames triple windows).map (fun n => d ++ ["bin", n]) →
        fs'.entry q = fsm.entry q := by
  unfold makeClangScripts at h
  obtain ⟨text, htext, h⟩ := except_bind_eq_ok.1 h
  obtain ⟨⟨major, minor, build⟩, hsplit, h⟩ := except_bind_eq_ok.1 h
  obtain ⟨fsa, hma, h⟩ := except_bind_eq_ok.1 h
  obtain ⟨fsm, hmm, h⟩ := except_bind_eq_ok.1 h
  obtain ⟨flags, hflags, h⟩ := except_bind_eq_ok.1 h
  obtain ⟨fs₁, hw₁, h⟩ := except_bind_eq_ok.1 h
  obtain ⟨fs₂, hw₂, h⟩ := except_bind_eq_ok.1 h
  obtain ⟨fs₃, hc₁, h⟩ := except_bind_eq_ok.1 h
  obtain ⟨fs₄, hc₂, h⟩ := except_bind_eq_ok.1 h
  rw [mapError_eq_ok] at htext hsplit hma hmm hflags hw₁ hw₂ hc₁ hc₂
  obtain ⟨x₁, rfl⟩ := writeText_eq_ok hw₁
  obtain ⟨x₂, rfl⟩ := writeText_eq_ok hw₂
  obtain ⟨f₁, hf₁, rfl⟩ := copy2_eq_ok hc₁
  obtain ⟨f₂, hf₂, rfl⟩ := copy2_eq_ok hc₂
  refine ⟨text, major, minor, build, fsa, fsm, flags, htext, unpack3_eq_ok.1 hsplit, hma, hmm, hflags, ?_⟩
  have hf₁' : f₁ = ⟨clangScript (major ++ minor) flags "", true⟩ := by
    simpa [eq_comm] using hf₁
  have hf₂' : f₂ = ⟨clangScript (major ++ minor) flags "++", true⟩ := by
    simpa [eq_comm, Str.eq_iff_reverse] using hf₂
  subst hf₁' hf₂'
  split at h
  · simp only [List.foldlM_cons, List.foldlM_nil, except_bind_eq_ok, mapError_eq_ok] at h
    obtain ⟨_, ⟨_, hb₁, _, hb₂, ⟨⟩⟩, _, ⟨_, hb₃, _, hb₄, ⟨⟩⟩, ⟨⟩⟩ := h
    obtain ⟨y₁, rfl⟩ := writeText_eq_ok hb₁
    obtain ⟨y₂, rfl⟩ := writeText_eq_ok hb₂
    obtain ⟨y₃, rfl⟩ := writeText_eq_ok hb₃
    obtain ⟨y₄, rfl⟩ := writeText_eq_ok hb₄
    refine ⟨fun w hw => ?_, fun _ w hw => ?_, fun q hq => ?_⟩
    · simp only [clangWrappers, List.mem_cons, List.mem_singleton, List.not_mem_nil, or_false] at hw
      rcases hw with rfl | rfl | rfl | rfl <;> simp [Str.eq_iff_reverse]
    · simp only [clangBats, List.mem_cons, List.mem_singleton, List.not_mem_nil, or_false] at hw
      rcases hw with rfl | rfl | rfl | rfl <;> simp [Str.eq_iff_reverse]
    · simp only [clangWrapperNames, if_true, *, List.map_append, List.map_cons, List.map_nil,
        List.mem_append, List.mem_cons, List.not_mem_nil, or_false, not_or] at hq
      simp [hq, String.append_assoc]
  · cases h
    refine ⟨fun w hw => ?_, fun h => absurd h ‹_›, fun q hq => ?_⟩
    · simp only [clangWrappers, List.mem_cons, List.mem_singleton, List.not_mem_nil, or_false] at hw
      rcases hw with rfl | rfl | rfl | rfl <;> simp [Str.eq_iff_reverse]
    · simp only [clangWrapperNames, ‹¬windows = true›, Bool.false_eq_true, if_false, List.map_append, List.map_cons,
        List.map_nil, List.append_nil, List.mem_cons, List.not_mem_nil, or_false, not_or] at hq
      simp [hq]

theorem makeClangScripts_within {d : Path} {api : ℤ} {windows : Bool} {fs fs' : FileSystem}
    (h : makeClangScripts d triple api windows fs = .ok fs') : Within d fs fs' := by
  obtain ⟨_, _, _, _, _, _, _, -, -, hma, hmm, -, -, -, hrest⟩ := makeClangScripts_eq_ok triple h
  have hd : ∀ n, d <+: d ++ ["bin"] ++ [n] := fun n => by simp
  refine ((within_move (hd _) (hd _) hma).trans (within_move (hd _) (hd _) hmm)).trans fun q hq => hrest q ?_
  intro hm
  obtain ⟨n, -, rfl⟩ := List.mem_map.1 hm
  exact hq (List.prefix_append _ _)


/-- The two moves of `make_clang_scripts` put Clang's binaries at their versioned names, for a
version other than `++`. -/
theorem moves_compilers {fs fsa fsm : FileSystem} {d : Path} {v e : String} {f₁ f₂ : File}
    (hv : v ≠ "++")
    (hf₁ : fs.entry (d ++ ["bin", "clang" ++ e]) = some (.file f₁))
    (hf₂ : fs.entry (d ++ ["bin", "clang++" ++ e]) = some (.file f₂))
    (hma : fs.move (d ++ ["bin"] ++ ["clang" ++ e]) (d ++ ["bin"] ++ ["clang" ++ v ++ e]) = .ok fsa)
    (hmm : fsa.move (d ++ ["bin"] ++ ["clang++" ++ e]) (d ++ ["bin"] ++ ["clang" ++ v ++ "++" ++ e]) =
      .ok fsm) :
    fsm.entry (d ++ ["bin", "clang" ++ v ++ e]) = some (.file f₁) ∧
      fsm.entry (d ++ ["bin", "clang" ++ v ++ "++" ++ e]) = some (.file f₂) := by
  have h₁₂ : "clang" ++ e ≠ "clang++" ++ e := fun h => by
    simpa using congrArg (fun s => s.data.length) h
  have h₁₃ : "clang" ++ v ++ e ≠ "clang" ++ v ++ "++" ++ e := fun h => by
    have := congrArg (fun s => s.data.length) h
    simp at this
    omega
  have h₂₁ : "clang++" ++ e ≠ "clang" ++ v ++ e := fun h => hv <| by
    rw [String.ext_iff] at h ⊢
    simp only [String.data_append] at h
    simpa [eq_comm] using List.append_cancel_right h
  simp only [List.append_assoc, List.singleton_append] at hma hmm
  rw [move_of_file hf₁, Except.ok.injEq] at hma
  subst hma
  have hsrc : ((fs.removeTree (d ++ ["bin", "clang" ++ e])).put (d ++ ["bin", "clang" ++ v ++ e])
      (.file f₁)).entry (d ++ ["bin", "clang++" ++ e]) = some (.file f₂) := by
    simp [h₁₂, h₂₁, hf₂]
  rw [move_of_file hsrc, Except.ok.injEq] at hmm
  subst hmm
  simp [h₁₃, h₂₁, h₂₁.symm]

theorem replaceGccWrappers_eq_ok {d : Path} {windows : Bool} {fs fs' : FileSystem}
    (h : replaceGccWrappers d triple windows fs = .ok fs') :
    ∃ f₁ f₂, fs.entry (d ++ ["bin", "clang" ++ if windows then ".cmd" else ""]) = some (.file f₁) ∧
      (fs.put (d ++ ["bin", triple ++ "-gcc" ++ if windows then ".cmd" else ""]) (.file f₁)).entry
        (d ++ ["bin", "clang++" ++ if windows then ".cmd" else ""]) = some (.file f₂) ∧
      fs' = (fs.put (d ++ ["bin", triple ++ "-gcc" ++ if windows then ".cmd" else ""]) (.file f₁)).put
        (d ++ ["bin", triple ++ "-g++" ++ if windows then ".cmd" else ""]) (.file f₂) := by
  unfold replaceGccWrappers at h
  obtain ⟨fs₁, h₁, h₂⟩ := except_bind_eq_ok.1 h
  obtain ⟨f₁, hf₁, rfl⟩ := copy2_eq_ok (mapError_eq_ok.1 h₁)
  obtain ⟨f₂, hf₂, rfl⟩ := copy2_eq_ok (mapError_eq_ok.1 h₂)
  exact ⟨f₁, f₂, hf₁, hf₂, rfl⟩

theorem replaceGccWrappers_bin {version flags : String} {p : Path} {windows : Bool} {fs fs' : FileSystem}
    (hs : ∀ w ∈ clangWrappers triple version flags,
      fs.entry (p ++ ["bin", w.1]) = some (.file ⟨w.2, true⟩))
    (hb : windows → ∀ w ∈ clangBats triple version flags,
      ∃ x, fs.entry (p ++ ["bin", w.1]) = some (.file ⟨w.2, x⟩))
    (h : replaceGccWrappers p triple windows fs = .ok fs') :
    (∀ w ∈ toolchainScripts triple version flags windows,
      fs'.entry (p ++ ["bin", w.1]) = some (.file ⟨w.2, true⟩)) ∧
    (∀ w ∈ toolchainBats triple version flags windows,
      ∃ x, fs'.entry (p ++ ["bin", w.1]) = some (.file ⟨w.2, x⟩)) := by
  obtain ⟨f₁, f₂, hf₁, hf₂, rfl⟩ := replaceGccWrappers_eq_ok triple h
  simp only [clangWrappers, clangBats, List.mem_cons, List.not_mem_nil, or_false, forall_eq_or_imp,
    forall_eq] at hs hb
  obtain ⟨hs₁, hs₂, hs₃, hs₄⟩ := hs
  cases windows
  · simp only [Bool.false_eq_true, if_false, String.append_empty, hs₁, Option.some.injEq, Entry.file.injEq] at hf₁
    subst hf₁
    simp [Str.eq_iff_reverse, -List.reverse_inj, hs₂] at hf₂
    subst hf₂
    refine ⟨fun w hw => ?_, fun w hw => by simp [toolchainBats] at hw⟩
    simp only [toolchainScripts, clangWrappers, Bool.false_eq_true, if_false, List.cons_append, List.nil_append,
      List.mem_cons, List.mem_singleton, List.not_mem_nil, or_false] at hw
    rcases hw with rfl | rfl | rfl | rfl | rfl | rfl <;>
      simp [Str.eq_iff_reverse, -List.reverse_inj, hs₁, hs₂, hs₃, hs₄]
  · obtain ⟨⟨x₁, hb₁⟩, ⟨x₂, hb₂⟩, ⟨x₃, hb₃⟩, ⟨x₄, hb₄⟩⟩ := hb rfl
    simp [hb₁] at hf₁
    subst hf₁
    simp [Str.eq_iff_reverse, -List.reverse_inj, hb₃] at hf₂
    subst hf₂
    refine ⟨fun w hw => ?_, fun w hw => ?_⟩
    · simp only [toolchainScripts, clangWrappers, if_true, List.append_nil, List.mem_cons,
        List.mem_singleton, List.not_mem_nil, or_false] at hw
      rcases hw with rfl | rfl | rfl | rfl <;> simp [Str.eq_iff_reverse, -List.reverse_inj, hs₁, hs₂, hs₃, hs₄]
    · simp only [toolchainBats, clangBats, if_true, List.cons_append, List.nil_append, List.mem_cons,
        List.mem_singleton, List.not_mem_nil, or_false] at hw
      rcases hw with rfl | rfl | rfl | rfl | rfl | rfl <;> simp [Str.eq_iff_reverse, -List.reverse_inj, hb₁, hb₂, hb₃, hb₄]

end Steps

variable (env : ToolchainEnv)

theorem createToolchain_eq_ok {p tc : Path} {arch hostTag : String} {api : ℤ} {fs fs' : FileSystem}
    (h : createToolchain env p arch api tc hostTag fs = .ok fs') :
    ∃ triple fs₁ fs₂ fs₃ fs₄, getTriple arch = .ok triple ∧ fs.copyTree tc p = .ok fs₁ ∧
      makeClangScripts p triple api (Str.startswith hostTag "windows") fs₁ = .ok fs₂ ∧
      replaceGccWrappers p triple (Str.startswith hostTag "windows") fs₂ = .ok fs₃ ∧
      fs₃.copyTree (env.ndkDir ++ ["prebuilt", hostTag]) p = .ok fs₄ ∧
      fs₄.copytree (env.ndkDir ++ ["prebuilt", "android-" ++ arch, "gdbserver"]) (p ++ ["share", "gdbserver"]) =
        .ok fs' := by
  unfold createToolchain at h
  obtain ⟨fs₁, h₁, h⟩ := except_bind_eq_ok.1 h
  obtain ⟨triple, ht, h⟩ := except_bind_eq_ok.1 h
  obtain ⟨fs₂, h₂, h⟩ := except_bind_eq_ok.1 h
  obtain ⟨fs₃, h₃, h⟩ := except_bind_eq_ok.1 h
  obtain ⟨fs₄, h₄, h⟩ := except_bind_eq_ok.1 h
  rw [mapError_eq_ok] at h₁ ht h₄ h
  exact ⟨triple, fs₁, fs₂, fs₃, fs₄, ht, h₁, h₂, h₃, h₄, h⟩

/-- The middle of `create_toolchain` works in `bin`. -/
theorem binSteps_within {p : Path} {triple : String} {api : ℤ} {windows : Bool} {fs₁ fs₂ fs₃ : FileSystem}
    (h₂ : makeClangScripts p triple api windows fs₁ = .ok fs₂) (h₃ : replaceGccWrappers p triple windows fs₂ = .ok fs₃) :
    Within p fs₁ fs₃ := by
  obtain ⟨f₁, f₂, -, -, rfl⟩ := replaceGccWrappers_eq_ok triple h₃
  exact (makeClangScripts_within _ h₂).trans <|
    (within_put (List.prefix_append _ _) _).trans (within_put (List.prefix_append _ _) _)

/-- `create_toolchain` changes nothing but the installation directory and the directories above
it that `mkpath` makes. -/
theorem createToolchain_apart {p tc : Path} {arch hostTag : String} {api : ℤ} {fs fs' : FileSystem}
    (h : createToolchain env p arch api tc hostTag fs = .ok fs') : Apart p fs fs' := by
  obtain ⟨triple, fs₁, fs₂, fs₃, fs₄, -, h₁, h₂, h₃, h₄, h₅⟩ := createToolchain_eq_ok env h
  exact (apart_copyTree List.prefix_rfl h₁).trans <| (binSteps_within h₂ h₃).apart.trans <|
    (apart_copyTree List.prefix_rfl h₄).trans (apart_copytree (List.prefix_append _ _) h₅)

/-- After its first copy, below a directory, `create_toolchain` changes nothing outside the
installation directory. -/
theorem afterCopy_within {p pre gdb : Path} {triple : String} {api : ℤ} {windows : Bool}
    {fs₁ fs₂ fs₃ fs₄ fs' : FileSystem} (hpar : fs₁.ParentDir p)
    (h₂ : makeClangScripts p triple api windows fs₁ = .ok fs₂) (h₃ : replaceGccWrappers p triple windows fs₂ = .ok fs₃)
    (h₄ : fs₃.copyTree pre p = .ok fs₄) (h₅ : fs₄.copytree gdb (p ++ ["share", "gdbserver"]) = .ok fs') :
    Within p fs₁ fs' := by
  have w₃ := binSteps_within h₂ h₃
  have w₄ := w₃.trans (within_copyTree List.prefix_rfl (w₃.parentDir hpar) h₄)
  exact w₄.trans (within_copytree (List.prefix_append _ _) (w₄.parentDir hpar) h₅)

/-- **`create_toolchain` into a directory whose parent is a directory changes nothing outside
it.** -/
theorem createToolchain_within {p tc : Path} {arch hostTag : String} {api : ℤ} {fs fs' : FileSystem}
    (hpar : fs.ParentDir p) (h : createToolchain env p arch api tc hostTag fs = .ok fs') : Within p fs fs' := by
  obtain ⟨triple, fs₁, fs₂, fs₃, fs₄, -, h₁, h₂, h₃, h₄, h₅⟩ := createToolchain_eq_ok env h
  have w₁ := within_copyTree List.prefix_rfl hpar h₁
  exact w₁.trans (afterCopy_within (w₁.parentDir hpar) h₂ h₃ h₄ h₅)

/-- The host's prebuilt tools and `gdbserver` leave `bin/n` alone when no prebuilt tool has that
name. -/
theorem entry_bin_of_prebuilt {fs₃ fs₄ fs' : FileSystem} {p pre gdb : Path} {n : String}
    (h₄ : fs₃.copyTree pre p = .ok fs₄) (h₅ : fs₄.copytree gdb (p ++ ["share", "gdbserver"]) = .ok fs')
    (hn : fs₃.entry (pre ++ ["bin", n]) = none) :
    fs'.entry (p ++ ["bin", n]) = fs₃.entry (p ++ ["bin", n]) := by
  have hshare : ¬p ++ ["share"] <+: p ++ ["bin", n] := by
    rw [List.prefix_append_right_inj]
    simp
  have hshare' : ¬p ++ ["bin", n] <+: p ++ ["share"] := fun h => by simpa using h.length_le
  have hd : p ++ ["share"] <+: p ++ ["share", "gdbserver"] :=
    (List.prefix_append_right_inj p).2 ⟨["gdbserver"], rfl⟩
  rw [apart_copytree hd h₅ _ hshare hshare']
  obtain ⟨-, fs₁, h₁, rfl⟩ := copyTree_eq_ok.1 h₄
  rw [entry_graft, if_pos ⟨List.prefix_append _ _, by simp⟩, List.drop_left, hn, Option.none_or,
    entry_mkpath h₁, if_neg fun h => absurd h.2.1.length_le (by simp)]

/-- No host's prebuilt `bin` names anything that starts with `clang` or with the triple, so the
prebuilt tools overwrite neither the compilers nor the wrappers. -/
def PrebuiltApart (fs : FileSystem) (triple : String) : Prop :=
  ∀ tag n, (fs.entry (env.ndkDir ++ ["prebuilt", tag, "bin", n])).isSome →
    Str.startswith n "clang" = false ∧ Str.startswith n triple = false

/-- **`create_toolchain` into a fresh directory installs the toolchain's `bin`.** -/
theorem createToolchain_bin {p : Path} {arch triple hostTag : String} {api : ℤ} {fs fs' : FileSystem}
    (ht : getTriple arch = .ok triple) (hfresh : ∀ q, p <+: q → fs.entry q = none)
    (hndk : ¬p <+: env.ndkDir) (hin : ¬env.ndkDir <+: p) (hpre : PrebuiltApart env fs triple)
    (h : createToolchain env p arch api (env.ndkDir ++ ["toolchain"]) hostTag fs = .ok fs') :
    ∃ text major minor build flags,
      fs.readText (env.ndkDir ++ ["toolchain", "AndroidVersion.txt"]) = .ok text ∧
      Str.split (Str.strip text) "." = [major, minor, build] ∧
      clangFlags triple api = .ok flags ∧
      BinInstalled triple (major ++ minor) flags fs.entry fs'.entry (env.ndkDir ++ ["toolchain"]) p
        (Str.startswith hostTag "windows") := by
  obtain ⟨t, fs₁, fs₂, fs₃, fs₄, ht', h₁, h₂, h₃, h₄, h₅⟩ := createToolchain_eq_ok env h
  obtain rfl : t = triple := Except.ok.inj (ht'.symm.trans ht)
  obtain ⟨text, major, minor, build, fsa, fsm, flags, htext, hsplit, hma, hmm, hflags, hs, hb, hrest⟩ :=
    makeClangScripts_eq_ok t h₂
  obtain ⟨hs', hb'⟩ := replaceGccWrappers_bin t hs hb h₃
  have hapart : Apart p fs fs₃ := (apart_copyTree List.prefix_rfl h₁).trans (binSteps_within h₂ h₃).apart
  have hpre' : ∀ n, Str.startswith n "clang" ∨ Str.startswith n t →
      fs₃.entry (env.ndkDir ++ ["prebuilt", hostTag] ++ ["bin", n]) = none := by
    intro n hn
    rw [List.append_assoc, hapart _ (not_prefix_append_of_apart hndk hin _)
      fun h => hin ((List.prefix_append _ _).trans h)]
    by_contra hne
    obtain ⟨hc, htr⟩ := hpre hostTag n (Option.ne_none_iff_isSome.1 hne)
    rcases hn with hn | hn
    · rw [hc] at hn; cases hn
    · rw [htr] at hn; cases hn
  refine ⟨text, major, minor, build, flags, ?_, hsplit, hflags, fun w hw => ?_, fun w hw => ?_,
    fun hv hv' f₁ f₂ hf₁ hf₂ => ?_⟩
  · rw [readText_eq_ok] at htext ⊢
    rwa [entry_copy_fresh hfresh h₁ (List.cons_ne_nil _ _), List.append_assoc] at htext
  · rw [entry_bin_of_prebuilt h₄ h₅ (hpre' _ (toolchainScripts_name hw)), hs' w hw]
  · obtain ⟨x, hx⟩ := hb' w hw
    exact ⟨x, by rw [entry_bin_of_prebuilt h₄ h₅ (hpre' _ (toolchainBats_name hw)), hx]⟩
  · have hsrc : ∀ n, fs₁.entry (p ++ ["bin", n]) = fs.entry (env.ndkDir ++ ["toolchain"] ++ ["bin", n]) :=
      fun n => entry_copy_fresh hfresh h₁ (List.cons_ne_nil _ _)
    obtain ⟨hc₁, hc₂⟩ := moves_compilers hv' ((hsrc _).trans hf₁) ((hsrc _).trans hf₂) hma hmm
    obtain ⟨g₁, g₂, -, -, rfl⟩ := replaceGccWrappers_eq_ok t h₃
    have hn := compilerNames_apart (getTriple_mem ht) (Str.startswith hostTag "windows") hv hv'
    simp only [List.cons_append, List.nil_append, List.mem_cons, forall_eq_or_imp] at hn
    obtain ⟨⟨hg₁, hg₁'⟩, ⟨hg₂, hg₂'⟩, hw⟩ := hn
    have hnot : ∀ m, (∀ n ∈ clangWrapperNames t (Str.startswith hostTag "windows"), m ≠ n) →
        p ++ ["bin", m] ∉ (clangWrapperNames t (Str.startswith hostTag "windows")).map
          (fun n => p ++ ["bin", n]) := fun m hm h => by
      obtain ⟨n, hmem, heq⟩ := List.mem_map.1 h
      exact hm n hmem (by simpa using heq.symm)
    have hclang : ∀ s, Str.startswith ("clang" ++ (major ++ minor) ++ s) "clang" = true := fun s => by
      rw [String.append_assoc]
      exact Str.startswith_append _ _
    constructor
    · rw [entry_bin_of_prebuilt h₄ h₅ (hpre' _ (.inl (hclang _))), entry_put, entry_put,
        if_neg (by simpa using hg₂), if_neg (by simpa using hg₁),
        hrest _ (hnot _ fun n hn => (hw n hn).1), hc₁]
    · rw [entry_bin_of_prebuilt h₄ h₅ (hpre' _ (.inl (by rw [String.append_assoc]; exact hclang _))),
        entry_put, entry_put, if_neg (by simpa using hg₂'), if_neg (by simpa using hg₁'),
        hrest _ (hnot _ fun n hn => (hw n hn).2), hc₂]

end Ndk
