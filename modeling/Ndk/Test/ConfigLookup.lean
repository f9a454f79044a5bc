import Ndk.Test.Libcxx
import Ndk.Test.Xunit

/-!
# Where a libc++ test's configuration is looked up

A libc++ test is reported twice: when it runs on a device, through the `LibcxxTestCase` that
`enumerate_libcxx_tests` made for its executable, and when it is built, through the
`XunitResult` that `get_xunit_reports` made from LIT's report. Both look the test up in the
test configuration of a directory, under a test name. `LibcxxTestCase` takes the directory
from its suite and strips two extensions from the executable (`foo.pass.cpp.exe` gives
`foo.pass`); `XunitResult` takes the directory from the report's name and strips one
extension from its base name.

* `XunitReport.testDir_eq`: the directory of every report `get_xunit_reports` makes.
* `libcxx_lookup_agrees`: **for a test `R/f` below the top of the tree, on either host, both
  look up the same name in the same directory `R`.**
* `libcxx_lookup_root`: for a test `g.e` at the top of the tree both take the top directory,
  but the run looks up `g` and the build looks up `libc++.g`.
-/

namespace Ndk

/-- `os.path.splitext(os.path.splitext(self.executable)[0])[0]`, the name
`LibcxxTestCase.check_unsupported` and `LibcxxTestCase.check_broken` look up. -/
def LibcxxTestCase.configName (host : Host) (t : LibcxxTestCase) : String :=
  (host.splitext (host.splitext t.executable).1).1

/-- The `test_subdir` of `LibcxxTestCase.get_test_config`: what follows the first `/` of the
suite, by `self.suite.partition('/')`. -/
def LibcxxTestCase.testSubdir (t : LibcxxTestCase) : String :=
  match Str.splitFirst "/".data t.suite.data with
  | some (_, after) => ⟨after⟩
  | none => ""

/-- The test's name. -/
def XunitReport.name : XunitReport → String
  | success name _ | failure name _ _ => name

/-- The test's directory. -/
def XunitReport.testDir : XunitReport → String
  | success _ testDir | failure _ testDir _ => testDir

/-- `os.path.splitext(os.path.basename(self.name))[0]`, the name `XunitResult.check_broken`
looks up. -/
def XunitReport.configName (host : Host) (r : XunitReport) : String :=
  (host.splitext (host.basename r.name)).1

/-- The `test_dir` `get_xunit_reports` gives a report: `os.path.dirname(name)[len('libc++.'):]`. -/
def xunitTestDir (host : Host) (name : String) : String :=
  Str.dropFront (host.dirname name) "libc++.".length

/-- Every report `get_xunit_reports` makes has the directory of its name. -/
theorem XunitReport.testDir_eq {host : Host} {toPosixPath : String → String}
    {allTests : List String} {c : XunitCase} {r : XunitReport}
    (h : xunitReport host toPosixPath allTests c = .ok r) : r.testDir = xunitTestDir host r.name := by
  obtain ⟨ms, -, h⟩ := except_bind_eq_ok.1 h
  match ms, h with
  | [name], h =>
    dsimp only at h
    split at h
    · cases h; rfl
    · cases h; rfl
    · cases h

/-! ### Paths below `libc++.` -/

/-- A path that starts with `libc++.` has no drive on Windows. -/
theorem splitdrive_libcxx (s : String) : Nt.splitdrive ("libc++." ++ s) = ("", "libc++." ++ s) := by
  have hd : ("libc++." ++ s).data = 'l' :: 'i' :: ("bc++.".data ++ s.data) := rfl
  have hlen : 1 < ("libc++." ++ s).length := by
    show 1 < ("libc++." ++ s).data.length
    rw [hd]; simp
  simp only [Nt.splitdrive, hlen, if_true, hd, List.map_cons]
  simp

/-- Dropping the separators at the end of `a ++ [s]` gives `a`, when `a` ends in none. -/
theorem rstrip_append_sep {sep : Char → Bool} {a : List Char} {s : Char} (hs : sep s)
    (ha : ∀ c ∈ a.getLast?, sep c = false) : ((a ++ [s]).reverse.dropWhile sep).reverse = a := by
  rw [List.reverse_append, List.reverse_singleton, List.singleton_append,
    List.dropWhile_cons_of_pos hs, Str.dropWhile_eq_self (by rwa [List.head?_reverse]),
    List.reverse_reverse]

section Paths

variable (host : Host) {R f : String}

/-- The base name of a path below `libc++.` is its last component. -/
theorem basename_libcxx (P : String) (hf : ∀ c ∈ f.data, host.isSep c = false) :
    host.basename ("libc++." ++ P ++ "/" ++ f) = f := by
  have hdata : ("libc++." ++ (P ++ ("/" ++ f))).data = ("libc++." ++ P).data ++ '/' :: f.data := by
    simp
  cases host with
  | posix =>
    simp only [Host.basename, String.append_assoc, hdata,
      (take_drop_lastSepEnd (fun x => decide (x = '/')) (c := '/') (by decide) hf).2]
  | nt =>
    simp only [Host.basename, String.append_assoc, Nt.split, splitdrive_libcxx, hdata,
      (take_drop_lastSepEnd Nt.isSep (c := '/') (by decide) hf).2]

/-- The directory of a path below `libc++.`, when its directory part ends in no separator. -/
theorem dirname_libcxx (hR : ∀ c ∈ R.data.getLast?, host.isSep c = false)
    (hf : ∀ c ∈ f.data, host.isSep c = false) :
    host.dirname ("libc++." ++ R ++ "/" ++ f) = "libc++." ++ R := by
  have hdata : ("libc++." ++ (R ++ ("/" ++ f))).data = ("libc++." ++ R).data ++ '/' :: f.data := by
    simp
  have hlast : ∀ c ∈ ("libc++." ++ R).data.getLast?, host.isSep c = false := by
    rw [String.data_append, List.getLast?_append]
    cases hR' : R.data.getLast? with
    | some d => rw [hR'] at hR; exact hR
    | none => rintro c ⟨⟩; cases host <;> rfl
  have hne : ("libc++." ++ R).data ≠ [] := by simp
  cases host with
  | posix =>
    have hall : (("libc++." ++ R).data ++ ['/']).all (· = '/') = false := by simp
    simp only [Host.dirname, Posix.dirname, String.append_assoc, hdata,
      (take_drop_lastSepEnd (fun x => decide (x = '/')) (c := '/') (by decide) hf).1]
    have hlast' : ∀ c ∈ ("libc++." ++ R).data.getLast?, decide (c = '/') = false := hlast
    rw [if_pos ⟨by simp, by simp [hall]⟩, rstrip_append_sep (s := '/') (by decide) hlast']
  | nt =>
    simp only [Host.dirname, Nt.split, String.append_assoc, splitdrive_libcxx, hdata,
      (take_drop_lastSepEnd Nt.isSep (c := '/') (by decide) hf).1,
      rstrip_append_sep (by decide : Nt.isSep '/' = true) hlast, if_neg hne]
    rfl

/-- `libc++.` holds no separator. -/
theorem libcxx_noSep (hf : ∀ c ∈ f.data, host.isSep c = false) :
    ∀ c ∈ ("libc++." ++ f).data, host.isSep c = false := by
  intro c hc
  rw [String.data_append, List.mem_append] at hc
  rcases hc with hc | hc
  · cases host <;> revert c <;> decide
  · exact hf c hc

/-- The base name of a path with no separator is the path. -/
theorem basename_noSep (hf : ∀ c ∈ ("libc++." ++ f).data, host.isSep c = false) :
    host.basename ("libc++." ++ f) = "libc++." ++ f := by
  have h0 : lastSepEnd host.isSep ("libc++." ++ f).data = 0 := lastSepEnd_eq_zero hf
  cases host with
  | posix =>
    simp only [Host.isSep] at h0
    simp only [Host.basename, h0, List.drop_zero]
  | nt =>
    simp only [Host.isSep] at h0
    simp only [Host.basename, Nt.split, splitdrive_libcxx, h0, List.drop_zero]

/-- A test at the top of the tree has no directory. -/
theorem dirname_libcxx_root (hf : ∀ c ∈ f.data, host.isSep c = false) :
    host.dirname ("libc++." ++ f) = "" := by
  have h0 : lastSepEnd host.isSep ("libc++." ++ f).data = 0 :=
    lastSepEnd_eq_zero (libcxx_noSep host hf)
  cases host with
  | posix =>
    simp only [Host.isSep] at h0
    simp only [Host.dirname, Posix.dirname, h0, List.take_zero]
    rfl
  | nt =>
    simp only [Host.isSep] at h0
    simp only [Host.dirname, Nt.split, splitdrive_libcxx, h0, List.take_zero]
    rfl

/-- The part of a file name before its last `.`. -/
theorem splitext_fst_append {e : String} (hf : ∀ c ∈ f.data, host.isSep c = false)
    (hf' : ∃ c ∈ f.data, c ≠ '.') (he : ∀ c ∈ e.data, host.isSep c = false ∧ c ≠ '.') :
    (host.splitext (f ++ "." ++ e)).1 = f := by
  have hdot : host.isSep '.' = false := by cases host <;> decide
  have hdata : (f ++ "." ++ e).data = f.data ++ '.' :: e.data := by simp
  rw [Host.splitext, hdata, splitextWith_append_ext hdot hf hf' he]
  rfl

/-- An executable `f.exe` loses `.exe`. -/
theorem splitext_exe (hf : ∀ c ∈ f.data, host.isSep c = false) (hf' : ∃ c ∈ f.data, c ≠ '.') :
    (host.splitext (f ++ ".exe")).1 = f := by
  have he : ∀ c ∈ "exe".data, host.isSep c = false ∧ c ≠ '.' := by cases host <;> decide
  rw [show f ++ ".exe" = f ++ "." ++ "exe" by rw [String.append_assoc]; rfl]
  exact splitext_fst_append host hf hf' he

end Paths

section Lookup

variable (host : Host) {toPosixPath : String → String} {allTests : List String} {c : XunitCase}
  {r : XunitReport}

/-- **The run and the build look a libc++ test below the top of the tree up under one name in
one directory.** For a test `f` in the directory `R` of the libc++ tests, whose executable
`f.exe` `enumerate_libcxx_tests` finds in the suite `libc++/R` and whose report
`get_xunit_reports` names `libc++.R/f`: on either host, when `f` holds no separator and some
character other than `.`, and `R` ends in no separator, `LibcxxTestCase.get_test_config` and
`XunitResult.get_test_config` take the directory `R`, and both look up `f` without its
extension. -/
theorem libcxx_lookup_agrees {R f : String} (hR : ∀ c ∈ R.data.getLast?, host.isSep c = false)
    (hf : ∀ c ∈ f.data, host.isSep c = false) (hf' : ∃ c ∈ f.data, c ≠ '.')
    (hr : xunitReport host toPosixPath allTests c = .ok r)
    (hname : r.name = "libc++." ++ R ++ "/" ++ f) :
    let t := LibcxxTestCase.init host ("libc++/" ++ R) (f ++ ".exe")
    t.testSubdir = R ∧ r.testDir = R ∧ t.configName host = (host.splitext f).1 ∧
      r.configName host = (host.splitext f).1 := by
  have hsub : Str.splitFirst "/".data ("libc++/" ++ R).data = some ("libc++".data, R.data) := by
    simpa using Str.splitFirst_append (by decide : "/".data ≠ []) R.data (a := "libc++".data)
      (by decide)
  refine ⟨?_, ?_, ?_, ?_⟩
  · simp only [LibcxxTestCase.testSubdir, LibcxxTestCase.init, hsub]
  · rw [XunitReport.testDir_eq hr, hname, xunitTestDir, dirname_libcxx host hR hf]
    exact String.ext (by rfl)
  · rw [LibcxxTestCase.configName, LibcxxTestCase.init, splitext_exe host hf hf']
  · rw [XunitReport.configName, hname, basename_libcxx host R hf]

/-- The test `std/foo.pass.cpp` on a POSIX host. -/
theorem libcxx_lookup_agrees_std :
    let t := LibcxxTestCase.init .posix ("libc++/" ++ "std") ("foo.pass.cpp" ++ ".exe")
    let r : XunitReport := .success "libc++.std/foo.pass.cpp" "std"
    t.testSubdir = "std" ∧ r.testDir = "std" ∧
      t.configName .posix = (Host.posix.splitext "foo.pass.cpp").1 ∧
      r.configName .posix = (Host.posix.splitext "foo.pass.cpp").1 :=
  libcxx_lookup_agrees .posix (by decide) (by decide) (by decide)
    (by decide : xunitReport .posix id ["std/foo.pass.cpp"] ⟨"libc++.std", "foo_pass_cpp", []⟩ =
      .ok (.success "libc++.std/foo.pass.cpp" "std")) rfl

/-- **At the top of the tree the run and the build look a test up under different names.**
For a test `g.e` at the top of the libc++ tests, whose executable `g.e.exe`
`enumerate_libcxx_tests` finds in the suite `libc++` and whose report `get_xunit_reports`
names `libc++.g.e`: both take the top directory, but `LibcxxTestCase` looks up `g` where
`XunitResult` looks up `libc++.g`, since the name keeps its `libc++.` prefix when it has no
directory part. -/
theorem libcxx_lookup_root {g e : String} (hg : ∀ c ∈ g.data, host.isSep c = false)
    (hg' : ∃ c ∈ g.data, c ≠ '.') (he : ∀ c ∈ e.data, host.isSep c = false ∧ c ≠ '.')
    (hr : xunitReport host toPosixPath allTests c = .ok r)
    (hname : r.name = "libc++." ++ g ++ "." ++ e) :
    let t := LibcxxTestCase.init host "libc++" (g ++ "." ++ e ++ ".exe")
    t.testSubdir = "" ∧ r.testDir = "" ∧ t.configName host = g ∧
      r.configName host = "libc++." ++ g := by
  have hge : ∀ c ∈ (g ++ "." ++ e).data, host.isSep c = false := by
    simp only [String.data_append, List.mem_append]
    rintro c ((hc | hc) | hc)
    · exact hg c hc
    · obtain rfl : c = '.' := List.mem_singleton.1 hc
      cases host <;> rfl
    · exact (he c hc).1
  have hge' : ∃ c ∈ (g ++ "." ++ e).data, c ≠ '.' := by
    obtain ⟨c, hc, hc'⟩ := hg'
    exact ⟨c, by simp [hc], hc'⟩
  have hlg : ∀ c ∈ ("libc++." ++ g).data, host.isSep c = false := libcxx_noSep host hg
  have hassoc : "libc++." ++ g ++ "." ++ e = "libc++." ++ (g ++ "." ++ e) := by
    simp only [String.append_assoc]
  refine ⟨rfl, ?_, ?_, ?_⟩
  · rw [XunitReport.testDir_eq hr, hname, xunitTestDir, hassoc, dirname_libcxx_root host hge]
    rfl
  · rw [LibcxxTestCase.configName, LibcxxTestCase.init, splitext_exe host hge hge',
      splitext_fst_append host hg hg' he]
  · rw [XunitReport.configName, hname, hassoc, basename_noSep host (libcxx_noSep host hge),
      ← hassoc]
    exact splitext_fst_append host hlg ⟨'l', by simp, by decide⟩ he

/-- The test `nothing_to_do.pass.cpp` at the top of the tree on a POSIX host, which LIT
reports as `libc++.libc++/nothing_to_do_pass_cpp`: the run looks up `nothing_to_do.pass`, the
build `libc++.nothing_to_do.pass`. -/
theorem libcxx_lookup_root_nothing_to_do :
    let t := LibcxxTestCase.init .posix "libc++" ("nothing_to_do.pass" ++ "." ++ "cpp" ++ ".exe")
    let r : XunitReport := .success "libc++.nothing_to_do.pass.cpp" ""
    t.testSubdir = "" ∧ r.testDir = "" ∧ t.configName .posix = "nothing_to_do.pass" ∧
      r.configName .posix = "libc++." ++ "nothing_to_do.pass" :=
  libcxx_lookup_root .posix (by decide) (by decide) (by decide)
    (by decide : xunitReport .posix id ["nothing_to_do.pass.cpp"]
      ⟨"libc++.libc++", "nothing_to_do_pass_cpp", []⟩ =
      .ok (.success "libc++.nothing_to_do.pass.cpp" "")) rfl

end Lookup

end Ndk
