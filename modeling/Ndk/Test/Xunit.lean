import Ndk.Fnmatch

/-!
# Finding the libc++ test an xunit report names

LIT writes its xunit report with every `.` of a test's path replaced by `_`.
`get_xunit_reports` turns each test case back into a test: it joins the case's class name
and name, and `find_original_libcxx_test` replaces each `_` by the `fnmatch` wildcard `?`
and looks the pattern up among all libc++ tests. A wildcard matches any character, not only
`.` and `_`, so more than one test can answer a name.

* `findOriginalLibcxxTest_xunitName`: for the name of a test `t`, the lookup returns every
  test of `t`'s length that agrees with `t` wherever `t` has no `.` or `_`, and `t` is one.
* `xunitReport_multiple_matches`: `x.pass.cpp` and `x-pass.cpp` answer the same name, and
  `get_xunit_reports` raises.
-/

namespace Ndk

/-- `find_original_libcxx_test(name, ndk_path)`. `to_posix_path`, from `ndk.paths`, and the
scanner's `ALL_TESTS` are not part of the sources and are parameters. -/
def findOriginalLibcxxTest (host : Host) (toPosixPath : String → String)
    (allTests : List String) (name : String) : Except PyError (List String) := do
  let name := toPosixPath name
  let name :=
    if Str.startswith name "libc++.libc++/" then
      "libc++." ++ Str.dropFront name "libc++.libc++/".length
    else name
  let testPrefix := "libc++."
  if !Str.startswith name testPrefix then
    throw (.valueError "libc++ test name must begin with \"libc++.\"")
  let name := Str.dropFront name testPrefix.length
  let testPattern := Str.replace name '_' '?'
  let matched ← Fnmatch.filter host allTests testPattern
  return matched.map (testPrefix ++ ·)

/-- A `testcase` element of LIT's xunit file: its `classname` and `name` attributes and the
texts of its `failure` children. -/
structure XunitCase where
  classname : String
  name : String
  failures : List (Option String)

/-- `XunitSuccess` and `XunitFailure`, with the fields computed from the test case. -/
inductive XunitReport
  | success (name testDir : String)
  | failure (name testDir : String) (text : Option String)
  deriving DecidableEq

section Reports

variable (host : Host) (toPosixPath : String → String) (allTests : List String)

/-- The body of `get_xunit_reports`'s loop, for one test case. -/
def xunitReport (c : XunitCase) : Except PyError XunitReport := do
  let mangledPath := Str.join "/" [c.classname, c.name]
  let testMatches ← findOriginalLibcxxTest host toPosixPath allTests mangledPath
  match testMatches with
  | [] => throw (.runtimeError ("Found no matches for test " ++ mangledPath))
  | [name] =>
    let testDir := Str.dropFront (host.dirname name) "libc++.".length
    match c.failures with
    | [] => pure (.success name testDir)
    | [text] => pure (.failure name testDir text)
    | _ => throw (.runtimeError ("Could not parse XUnit output: test case does not have a " ++
        "unique failure node: " ++ name))
  | _ => throw (.runtimeError
      ("Found multiple matches for test " ++ mangledPath ++ ": " ++ reprList testMatches))

/-- `get_xunit_reports(xunit_file, ...)`, over the test cases of the parsed file. -/
def getXunitReports (cases : List XunitCase) : Except PyError (List XunitReport) :=
  cases.mapM (xunitReport host toPosixPath allTests)

end Reports

/-! ### The name of a test in LIT's report -/

/-- LIT's xunit mangling of a test path, `t.replace('.', '_')`. -/
def mangle (t : String) : String := Str.replace t '.' '_'

/-- The name `get_xunit_reports` builds for the test `t` from LIT's report: `libc++.` and the
mangled path, or `libc++.libc++/` and the mangled path for a test at the root of the test
directory. -/
def xunitName (root : Bool) (t : String) : String :=
  (if root then "libc++.libc++/" else "libc++.") ++ mangle t

/-- `t'` answers the lookup for `t`: the two have one length, and the same character after
`normcase` wherever `t` has no `.` or `_`. -/
def Answers (host : Host) (t t' : String) : Prop :=
  List.Forall₂ (fun c c' => c = '.' ∨ c = '_' ∨ host.normChar c' = host.normChar c) t.data t'.data

instance (host : Host) (t t' : String) : Decidable (Answers host t t') :=
  inferInstanceAs (Decidable (List.Forall₂ _ _ _))

/-- A character of the pattern `find_original_libcxx_test` builds from a test's xunit name. -/
def wild (c : Char) : Char := if c = '.' ∨ c = '_' then '?' else c

theorem mangle_pattern (t : String) : (Str.replace (mangle t) '_' '?').data = t.data.map wild := by
  simp only [mangle, Str.replace, List.map_map]
  congr 1; funext c
  by_cases h₁ : c = '.' <;> by_cases h₂ : c = '_' <;> simp [wild, h₁, h₂]

/-- Mangling keeps every prefix made of characters other than `.` and `_`. -/
theorem isPrefixOf_mangle : ∀ {k l : List Char}, '.' ∉ k → '_' ∉ k →
    k.isPrefixOf (l.map fun c => if c = '.' then '_' else c) = k.isPrefixOf l
  | [], _, _, _ => by simp [List.isPrefixOf]
  | _ :: _, [], _, _ => rfl
  | a :: k, b :: l, h₁, h₂ => by
    have ha₁ : a ≠ '.' := fun e => h₁ (e ▸ List.mem_cons_self _ _)
    have ha₂ : a ≠ '_' := fun e => h₂ (e ▸ List.mem_cons_self _ _)
    simp only [List.map_cons, List.isPrefixOf, isPrefixOf_mangle (List.not_mem_of_not_mem_cons h₁)
      (List.not_mem_of_not_mem_cons h₂)]
    congr 1
    by_cases hb : b = '.' <;> simp [hb, ha₁, ha₂, Ne.symm ha₂]

/-- The lookup's name is `libc++.` and the mangled path, whether or not the test is at the
root. -/
theorem xunitName_strip (root : Bool) {t : String}
    (hroot : root = false → Str.startswith t "libc++/" = false) :
    (if Str.startswith (xunitName root t) "libc++.libc++/" then
      "libc++." ++ Str.dropFront (xunitName root t) "libc++.libc++/".length
    else xunitName root t) = "libc++." ++ mangle t := by
  cases root with
  | true =>
    have : Str.startswith (xunitName true t) "libc++.libc++/" = true := by
      simp [xunitName, Str.startswith, List.isPrefixOf_iff_prefix]
    rw [if_pos this]
    simp [xunitName, Str.dropFront, String.ext_iff, String.length]
  | false =>
    have hm : Str.startswith (mangle t) "libc++/" = false := by
      rw [← hroot rfl]; exact isPrefixOf_mangle (by decide) (by decide)
    have : Str.startswith (xunitName false t) "libc++.libc++/" = false := by
      simp only [Str.startswith, Bool.eq_false_iff, ne_eq, List.isPrefixOf_iff_prefix] at hm ⊢
      simpa [xunitName, show "libc++.libc++/".data = "libc++.".data ++ "libc++/".data from rfl]
        using hm
    rw [if_neg (by rw [this]; decide)]
    simp [xunitName]

theorem agrees_wild_iff (host : Host) : ∀ {l l' : List Char}, (∀ c ∈ l, c ≠ '?') →
    (List.Forall₂ Fnmatch.Agrees ((l.map wild).map host.normChar) (l'.map host.normChar) ↔
      List.Forall₂ (fun c c' => c = '.' ∨ c = '_' ∨ host.normChar c' = host.normChar c) l l')
  | [], l', _ => by cases l' <;> simp
  | c :: l, [], _ => by simp
  | c :: l, c' :: l', h => by
    simp only [List.map_cons, List.forall₂_cons,
      agrees_wild_iff host fun d hd => h d (List.mem_cons_of_mem _ hd)]
    refine and_congr_left' ?_
    have hq : ∀ d, host.normChar d = '?' ↔ d = '?' := fun _ =>
      host.normChar_eq_iff (by decide) (by decide) (by decide) (by decide)
    by_cases hc : c = '.' ∨ c = '_'
    · simp only [wild, if_pos hc, (hq '?').2 rfl, Fnmatch.Agrees, true_or, true_iff]
      exact or_assoc.1 (.inl hc)
    · rw [not_or] at hc
      simp [wild, hc, Fnmatch.Agrees, hq, h c (List.mem_cons_self _ _)]

/-- `normcase` makes no `*` or `[` out of the characters of the pattern. -/
theorem not_mem_normcase_pattern (host : Host) {t : String} {m : Char} (hm : m = '*' ∨ m = '[')
    (hmeta : ∀ c ∈ t.data, c ≠ '*' ∧ c ≠ '?' ∧ c ≠ '[') :
    m ∉ (host.normcase (Str.replace (mangle t) '_' '?')).data := by
  have hn : ∀ c, host.normChar c = m ↔ c = m := fun c => by
    rcases hm with rfl | rfl <;> exact host.normChar_eq_iff (by decide) (by decide) (by decide) (by decide)
  rw [Host.normcase_data, mangle_pattern, List.map_map]
  intro hmem
  obtain ⟨c, hc, he⟩ := List.mem_map.1 hmem
  have hw : wild c = m := (hn _).1 he
  unfold wild at hw
  split at hw
  · rcases hm with rfl | rfl <;> cases hw
  · rcases hm with rfl | rfl
    · exact (hmeta c hc).1 hw
    · exact (hmeta c hc).2.2 hw

/-- **What the lookup returns for the xunit name of a test `t`**: every test, in order, that
answers for `t`, and `t` answers for itself. This holds when `t` holds no `fnmatch`
metacharacter, a test outside the root does not start with `libc++/`, and `to_posix_path`
leaves the name as it is. -/
theorem findOriginalLibcxxTest_xunitName (host : Host) (toPosixPath : String → String)
    (allTests : List String) (root : Bool) {t : String}
    (hmeta : ∀ c ∈ t.data, c ≠ '*' ∧ c ≠ '?' ∧ c ≠ '[')
    (hroot : root = false → Str.startswith t "libc++/" = false)
    (htp : toPosixPath (xunitName root t) = xunitName root t) :
    findOriginalLibcxxTest host toPosixPath allTests (xunitName root t) =
      .ok ((allTests.filter fun t' => decide (Answers host t t')).map ("libc++." ++ ·)) ∧
    Answers host t t := by
  refine ⟨?_, List.forall₂_same.2 fun _ _ => .inr (.inr rfl)⟩
  have hpre : Str.startswith ("libc++." ++ mangle t) "libc++." = true := by
    simp [Str.startswith, List.isPrefixOf_iff_prefix]
  have hdrop : Str.dropFront ("libc++." ++ mangle t) "libc++.".length = mangle t := by
    simp [Str.dropFront, String.ext_iff, String.length]
  have hfilter : Fnmatch.filter host allTests (Str.replace (mangle t) '_' '?') =
      .ok (allTests.filter fun t' => decide (Answers host t t')) := by
    rw [Fnmatch.filter_plain host allTests _ (not_mem_normcase_pattern host (.inl rfl) hmeta)
      (not_mem_normcase_pattern host (.inr rfl) hmeta)]
    congr 1
    refine List.filter_congr fun t' _ => ?_
    refine decide_eq_decide.2 ?_
    rw [Host.normcase_data, Host.normcase_data, mangle_pattern,
      agrees_wild_iff host fun c hc => (hmeta c hc).2.1]
    rfl
  simp [findOriginalLibcxxTest, htp, xunitName_strip root hroot, hpre, hdrop, hfilter]

theorem findOriginalLibcxxTest_xunitName_root :
    findOriginalLibcxxTest .posix id ["x.pass.cpp", "x-pass.cpp"] (xunitName true "x.pass.cpp") =
      .ok ((["x.pass.cpp", "x-pass.cpp"].filter fun t' =>
        decide (Answers .posix "x.pass.cpp" t')).map ("libc++." ++ ·)) ∧
    Answers .posix "x.pass.cpp" "x.pass.cpp" :=
  findOriginalLibcxxTest_xunitName .posix id _ true (by decide) (by decide) rfl

/-- **Two tests answer one name.** `x.pass.cpp` and `x-pass.cpp` mangle to different names,
yet both answer the name of the first, and `get_xunit_reports` raises. -/
theorem xunitReport_multiple_matches :
    mangle "x.pass.cpp" ≠ mangle "x-pass.cpp" ∧
    findOriginalLibcxxTest .posix id ["x.pass.cpp", "x-pass.cpp"] (xunitName true "x.pass.cpp") =
      .ok ["libc++.x.pass.cpp", "libc++.x-pass.cpp"] ∧
    xunitReport .posix id ["x.pass.cpp", "x-pass.cpp"] ⟨"libc++.libc++", "x_pass_cpp", []⟩ =
      .error (.runtimeError ("Found multiple matches for test libc++.libc++/x_pass_cpp: " ++
        "['libc++.x.pass.cpp', 'libc++.x-pass.cpp']")) := by
  decide

end Ndk
