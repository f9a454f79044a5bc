import Ndk.Host

/-!
# Discovering the libc++ tests

`enumerate_libcxx_tests` walks the built tests and keeps those whose *filter name* the test
filter accepts; `LibcxxTestCase` then names each test from its suite and executable with
`os.path.join`. The filter name is built with `'/'.join`, the test's name with the host's
join, so the two agree where the host's separator is `/`.

* `libcxxFilterName_top`: at the top of the tree the two names agree on every host.
* `libcxxFilterName_posix`: on a POSIX host they agree in every suite below it.
* `libcxxFilterName_eq_name`: so on a POSIX host the test's name is its filter name in every
  suite the loop accepts, and `enumerateLibcxxTests_posix_filter`: the filter accepts the name
  of every test found. The walk's top directory `.` needs no hypothesis.
* `libcxx_names_nt`: on Windows, `ntpath.join` puts a `\` where the filter name has `/`.
-/

namespace Ndk

/-- A `LibcxxTestCase`, with the fields set from its arguments that the modelled code reads. -/
structure LibcxxTestCase where
  name : String
  suite : String
  executable : String
  deriving DecidableEq

/-- `LibcxxTestCase.__init__(suite, executable, ...)` on a host. -/
def LibcxxTestCase.init (host : Host) (suite executable : String) : LibcxxTestCase :=
  let filterName :=
    if suite = "libc++" then executable
    else host.join (Str.dropFront suite "libc++/".length) executable
  ⟨Str.join "." ["libc++", Str.dropBack filterName 4], suite, executable⟩

/-- The name `enumerate_libcxx_tests` matches against the test filter, for a file of a suite. -/
def libcxxFilterName (suiteName testFile : String) : Except PyError String := do
  let testName := Str.dropBack testFile 4
  let testName ←
    if suiteName ≠ "libc++" then
      if !Str.startswith suiteName "libc++/" then throw (.valueError suiteName)
      else pure (Str.join "/" [Str.dropFront suiteName "libc++/".length, testName])
    else pure testName
  return Str.join "." ["libc++", testName]

/-- The body of `enumerate_libcxx_tests`'s loop over the files of one directory. -/
def libcxxFile (host : Host) (testFilter : String → Bool) (suiteName : String)
    (tests : List LibcxxTestCase) (testFile : String) : Except PyError (List LibcxxTestCase) :=
  if !Str.endswith testFile ".exe" then pure tests
  else do
    let filterName ← libcxxFilterName suiteName testFile
    if !testFilter filterName then pure tests
    else pure (tests ++ [LibcxxTestCase.init host suiteName testFile])

/-- `enumerate_libcxx_tests(...)`, over what `os.walk` yields below the tests directory: the
suite name of each directory (its path from the tests directory, in POSIX form) and its
files. -/
def enumerateLibcxxTests (host : Host) (testFilter : String → Bool)
    (walk : List (String × List String)) : Except PyError (List LibcxxTestCase) :=
  walk.foldlM (fun tests dir => dir.2.foldlM (libcxxFile host testFilter dir.1) tests) []

theorem libcxxFilterName_top (host : Host) (testFile : String) :
    libcxxFilterName "libc++" testFile = .ok (LibcxxTestCase.init host "libc++" testFile).name := by
  simp [libcxxFilterName, LibcxxTestCase.init]

/-- `s[:-4]` of a text that ends in four known characters keeps everything before them. -/
theorem dropBack_append {a b : String} (hb : 4 ≤ b.length) :
    Str.dropBack (a ++ b) 4 = a ++ Str.dropBack b 4 := by
  simp only [Str.dropBack, String.data_append, String.ext_iff, List.length_append,
    List.take_append_eq_append_take]
  have hb' : 4 ≤ b.data.length := hb
  rw [List.take_of_length_le (by omega)]
  congr 2; omega

/-- **The two names agree on a POSIX host**, in every suite below the top of the tree. -/
theorem libcxxFilterName_posix {R f : String} (hR : R ≠ "") (hR' : Str.endswith R "/" = false)
    (hf : Str.endswith f ".exe") (hf' : Str.startswith f "/" = false) :
    libcxxFilterName ("libc++/" ++ R) f = .ok (LibcxxTestCase.init .posix ("libc++/" ++ R) f).name := by
  have hne : "libc++/" ++ R ≠ "libc++" := fun h => by
    have h7 := congrArg String.length h
    rw [String.length_append, show ("libc++/" : String).length = 7 from rfl,
      show ("libc++" : String).length = 6 from rfl] at h7
    omega
  have hdrop : Str.dropFront ("libc++/" ++ R) "libc++/".length = R := by
    simp [Str.dropFront, String.ext_iff, String.length]
  have hstart : Str.startswith ("libc++/" ++ R) "libc++/" = true := by
    simp [Str.startswith, List.isPrefixOf_iff_prefix]
  have hlen : 4 ≤ f.length := by
    obtain ⟨t, ht⟩ := List.isSuffixOf_iff_suffix.1 hf
    have := congrArg List.length ht
    rw [List.length_append] at this
    exact show 4 ≤ f.data.length by rw [← this]; exact Nat.le_add_left _ _
  have hd : Str.dropBack (R ++ ("/" ++ f)) 4 = R ++ ("/" ++ Str.dropBack f 4) := by
    rw [← String.append_assoc, dropBack_append hlen, String.append_assoc]
  simp [libcxxFilterName, LibcxxTestCase.init, hne, hdrop, hstart, Host.join,
    Posix.join_relative hR hR' hf', hd, Str.join_pair, String.append_assoc]

/-- **The names differ on Windows.** For `a.exe` in the suite `libc++/std` the filter name is
`libc++.std/a`, and `ntpath.join` makes the test's name `libc++.std\a`. -/
theorem libcxx_names_nt :
    libcxxFilterName "libc++/std" "a.exe" = .ok "libc++.std/a" ∧
      (LibcxxTestCase.init .nt "libc++/std" "a.exe").name = "libc++.std\\a" := by
  decide

/-- One file either leaves the tests as they are or appends the test it names, after the
filter accepted its filter name. -/
theorem libcxxFile_eq_ok {host : Host} {testFilter : String → Bool} {s f : String}
    {ts ts' : List LibcxxTestCase} (h : libcxxFile host testFilter s ts f = .ok ts') :
    ts' = ts ∨ Str.endswith f ".exe" ∧ ∃ n, libcxxFilterName s f = .ok n ∧ testFilter n ∧
      ts' = ts ++ [LibcxxTestCase.init host s f] := by
  unfold libcxxFile at h
  split at h
  · exact .inl (by cases h; rfl)
  · next he =>
    cases hn : libcxxFilterName s f with
    | error e => simp [hn] at h
    | ok n =>
      by_cases hf : testFilter n <;> simp [hn, hf] at h
      · exact .inr ⟨by simpa using he, n, rfl, hf, h.symm⟩
      · exact .inl h.symm

/-- What a directory's suite name needs for its tests to be named as the filter names them:
below `libc++/` it names a non-empty path with no trailing `/`. Any other name passes, as the
walk's top directory `.` does; its tests, if it had any, would make the loop raise. -/
def LibcxxSuite (suiteName : String) : Prop :=
  Str.startswith suiteName "libc++/" →
    Str.dropFront suiteName "libc++/".length ≠ "" ∧
      Str.endswith (Str.dropFront suiteName "libc++/".length) "/" = false

instance : DecidablePred LibcxxSuite := fun _ => inferInstanceAs (Decidable (_ → _))

theorem startswith_eq_append {s p : String} (h : Str.startswith s p) :
    s = p ++ Str.dropFront s p.length := by
  simp only [Str.startswith, List.isPrefixOf_iff_prefix] at h
  apply String.ext
  rw [String.data_append]
  exact (List.prefix_iff_eq_append.1 h).symm

/-- **The two names agree on a POSIX host** for a test the loop names: in every suite the
filter name was built for, the test's name is the filter name. -/
theorem libcxxFilterName_eq_name {s f n : String} (hs : LibcxxSuite s)
    (hf : Str.endswith f ".exe") (hf' : Str.startswith f "/" = false)
    (hn : libcxxFilterName s f = .ok n) : n = (LibcxxTestCase.init .posix s f).name := by
  by_cases htop : s = "libc++"
  · subst htop
    exact Except.ok.inj (hn.symm.trans (libcxxFilterName_top .posix f))
  have hstart : Str.startswith s "libc++/" = true := by
    by_contra hc
    simp [libcxxFilterName, htop, hc] at hn
    cases hn
  obtain ⟨hR, hR'⟩ := hs hstart
  rw [startswith_eq_append hstart] at hn ⊢
  exact Except.ok.inj (hn.symm.trans (libcxxFilterName_posix hR hR' hf hf'))

/-- **Every test found passes the filter** on a POSIX host, when every suite name of the walk
below `libc++/` names a path and no file name in it starts with `/`. -/
theorem enumerateLibcxxTests_posix_filter {testFilter : String → Bool}
    {walk : List (String × List String)} {tests : List LibcxxTestCase}
    (hwalk : ∀ dir ∈ walk, LibcxxSuite dir.1 ∧ ∀ f ∈ dir.2, Str.startswith f "/" = false)
    (h : enumerateLibcxxTests .posix testFilter walk = .ok tests) :
    ∀ t ∈ tests, testFilter t.name := by
  refine foldlM_ok_of_step (fun ts => ∀ t ∈ ts, testFilter t.name)
    (fun ts dir hdir ts' hts hdir' => foldlM_ok_of_step (fun ts => ∀ t ∈ ts, testFilter t.name)
      (fun ts f hf ts' hts hstep => ?_) hts hdir') (by simp) h
  rcases libcxxFile_eq_ok hstep with rfl | ⟨hexe, n, hn, hfn, rfl⟩
  · exact hts
  have hname := libcxxFilterName_eq_name (hwalk dir hdir).1 hexe ((hwalk dir hdir).2 f hf) hn
  intro t ht
  rcases List.mem_append.1 ht with ht | ht
  · exact hts t ht
  · rw [List.mem_singleton.1 ht, ← hname]; exact hfn

/-- The walk's top directory, then the suite `libc++/std` with two tests and a data file,
under a filter for one test. -/
theorem enumerateLibcxxTests_posix_filter_std :
    (∀ dir ∈ [(".", []), ("libc++/std", ["a.exe", "b.exe", "a.dat"])],
      LibcxxSuite dir.1 ∧ ∀ f ∈ dir.2, Str.startswith f "/" = false) ∧
    enumerateLibcxxTests .posix (fun n => decide (n = "libc++.std/a"))
        [(".", []), ("libc++/std", ["a.exe", "b.exe", "a.dat"])] =
      .ok [LibcxxTestCase.init .posix "libc++/std" "a.exe"] ∧
    ∀ t ∈ [LibcxxTestCase.init .posix "libc++/std" "a.exe"], decide (t.name = "libc++.std/a") = true :=
  have hwalk : ∀ dir ∈ [(".", []), ("libc++/std", ["a.exe", "b.exe", "a.dat"])],
      LibcxxSuite dir.1 ∧ ∀ f ∈ dir.2, Str.startswith f "/" = false := by decide
  have h : enumerateLibcxxTests .posix (fun n => decide (n = "libc++.std/a"))
      [(".", []), ("libc++/std", ["a.exe", "b.exe", "a.dat"])] =
      .ok [LibcxxTestCase.init .posix "libc++/std" "a.exe"] := by decide
  ⟨hwalk, h, enumerateLibcxxTests_posix_filter hwalk h⟩

end Ndk
