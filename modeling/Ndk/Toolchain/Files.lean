import Mathlib.Data.List.Infix

/-!
# The file system the toolchain script sees

`make_standalone_toolchain.py` reads and writes files through `os`, `shutil` and
`distutils.dir_util`, none of which is part of the sources. This module gives the file system
as the script uses it: what each path names (a directory or a file with its content and
whether it is executable), with the list of named paths carried along so that
`os.path.exists` can be computed. A path is the list of its components: `os.path.join(a, 'b',
'c/d')` is `a ++ ["b", "c", "d"]`. A directory exists when it is named or holds something.

Each operation the script calls is one function here, failing with the path of the `IOError`,
`OSError` or `DistutilsFileError` it raises. Directories are made only by `os.mkdir`, which
fails on a path that exists or whose parent is not a directory: `os.makedirs`, `mkpath` and
`tempfile.mkdtemp` make theirs with it, the first two every missing one from the top.

Left out: a destination that is an existing directory, which `shutil.move` and `shutil.copy2`
would enter, and in `copy_tree` a source file where the destination has a directory or the
reverse. The script moves and copies files onto `bin/clang<version>`, `bin/clang<version>++`
and the triple's and GCC's names in `bin`, and copies the host's prebuilt tools over the
installed toolchain; the model assumes that none of these names a directory of the NDK's
toolchain and that the two trees agree on which of their paths are directories. `shutil.move`
and `shutil.copy2` put a file next to its source, so their parent directory exists.

* `entry_put`, `entry_removeTree`, `entry_graft`, `entry_mkpath`, `entry_makedirs`: what each
  change leaves at every path.
* `pathExists_iff`, `isdir_iff`: `os.path.exists` and `os.path.isdir` read the entries at and
  below a path.
* `Within d`, `Apart d`: the frames of a change inside `d`, and of one that also makes the
  directories above `d`.
-/

namespace Ndk

/-- A path, as the list of its components. -/
abbrev Path := List String

/-- A regular file: its content, and whether its mode has the execute bits. -/
structure File where
  content : String
  exec : Bool
  deriving DecidableEq

/-- What a path names. -/
inductive Entry
  | dir
  | file (f : File)
  deriving DecidableEq

/-- A file system: what each path names, and the list of the named paths. -/
structure FileSystem where
  entry : Path → Option Entry
  paths : List Path
  mem_paths : ∀ p, p ∈ paths ↔ (entry p).isSome

namespace FileSystem

variable (fs : FileSystem)

/-- `os.path.exists(p)`: `p` is named, or holds something. -/
def pathExists (p : Path) : Bool := fs.paths.any p.isPrefixOf

/-- `os.path.isdir(p)`: `p` names a directory, or holds something. -/
def isdir (p : Path) : Bool :=
  fs.paths.any fun q => p.isPrefixOf q && (q != p || fs.entry q == some .dir)

/-- `e` at `p`, in place of what was there. -/
def put (p : Path) (e : Entry) : FileSystem where
  entry q := if q = p then some e else fs.entry q
  paths := p :: fs.paths
  mem_paths q := by by_cases h : q = p <;> simp [h, fs.mem_paths]

/-- `shutil.rmtree(p)`, or `os.unlink(p)` of a file: nothing at or below `p`. -/
def removeTree (p : Path) : FileSystem where
  entry q := if p.isPrefixOf q then none else fs.entry q
  paths := fs.paths.filter fun q => !p.isPrefixOf q
  mem_paths q := by by_cases h : p.isPrefixOf q <;> simp [h, fs.mem_paths]

/-- What a named path `q` below `src` becomes below `dst`. -/
def relocate (src dst q : Path) : Path := dst ++ q.drop src.length

/-- The entries of `srcFs` strictly below `src`, put below `dst`: every named path
`src ++ rel` of `srcFs` with `rel ≠ []` gives its entry to `dst ++ rel`; the rest of `fs` is
kept. -/
def graft (srcFs : FileSystem) (src dst : Path) : FileSystem where
  entry q := if dst.isPrefixOf q && q != dst then (srcFs.entry (src ++ q.drop dst.length)).or (fs.entry q)
    else fs.entry q
  paths := fs.paths ++ (srcFs.paths.filter fun q => src.isPrefixOf q && q != src).map (relocate src dst)
  mem_paths q := by
    dsimp only
    rw [List.mem_append, fs.mem_paths, List.mem_map]
    constructor
    · rintro (h | ⟨r, hr, rfl⟩)
      · split <;> simp [h]
      · obtain ⟨hm, hr⟩ := List.mem_filter.1 hr
        simp only [Bool.and_eq_true, List.isPrefixOf_iff_prefix, bne_iff_ne, ne_eq] at hr
        obtain ⟨⟨rel, rfl⟩, hne⟩ := hr
        have hrel : rel ≠ [] := by rintro rfl; simp at hne
        rw [srcFs.mem_paths] at hm
        simp [relocate, hrel, hm]
    · intro h
      split at h
      · rename_i hq
        simp only [Bool.and_eq_true, List.isPrefixOf_iff_prefix, bne_iff_ne, ne_eq] at hq
        obtain ⟨⟨rel, rfl⟩, hne⟩ := hq
        cases hs : srcFs.entry (src ++ rel) with
        | none => simp [hs] at h; exact .inl h
        | some e =>
          refine .inr ⟨src ++ rel, List.mem_filter.2 ⟨(srcFs.mem_paths _).2 (by simp [hs]), ?_⟩,
            by simp [relocate]⟩
          simpa using hne
      · exact .inl h

/-- `os.mkdir(p)`, with which `tempfile.mkdtemp()` also makes its fresh directory: `OSError`
when `p` exists or its parent is not a directory. -/
def mkdir (p : Path) : Except Path FileSystem :=
  if fs.pathExists p || !fs.isdir p.dropLast then .error p else .ok (fs.put p .dir)

/-- `os.mkdir` of each path of `qs` in turn, up to the first that fails. -/
def mkdirs (qs : List Path) : Except Path FileSystem := qs.foldlM (fun fs q => fs.mkdir q) fs

/-- `os.makedirs(p)`: `os.mkdir` of each parent of `p` that does not exist, from the top, then
of `p`. -/
def makedirs (p : Path) : Except Path FileSystem :=
  fs.mkdirs ((p.dropLast.inits.tail.filter fun q => !fs.pathExists q) ++ [p])

/-- `distutils.dir_util.mkpath(p)`: `os.mkdir` of each nonempty prefix of `p` that is not a
directory, from the top. -/
def mkpath (p : Path) : Except Path FileSystem :=
  fs.mkdirs (p.inits.tail.filter fun q => !fs.isdir q)

/-- `shutil.rmtree(p)`: the `OSError` of `os.listdir` unless `p` is a directory. -/
def rmtree (p : Path) : Except Path FileSystem :=
  if fs.isdir p then .ok (fs.removeTree p) else .error p

/-- `open(p).read()`: `IOError` unless `p` names a file. -/
def readText (p : Path) : Except Path String :=
  match fs.entry p with
  | some (.file f) => .ok f.content
  | _ => .error p

/-- `open(p, 'w').write(text)`: a new file is not executable, an existing one keeps its mode;
`IOError` on a directory, and for a new file whose parent is not a directory. -/
def writeText (p : Path) (text : String) : Except Path FileSystem :=
  match fs.entry p with
  | some .dir => .error p
  | some (.file f) => .ok (fs.put p (.file ⟨text, f.exec⟩))
  | none => if fs.isdir p || !fs.isdir p.dropLast then .error p else .ok (fs.put p (.file ⟨text, false⟩))

/-- `os.chmod(p, os.stat(p).st_mode | stat.S_IXUSR | stat.S_IXGRP | stat.S_IXOTH)` on a file. -/
def chmodX (p : Path) : FileSystem :=
  match fs.entry p with
  | some (.file f) => fs.put p (.file { f with exec := true })
  | _ => fs

/-- `shutil.move(src, dst)`, by `os.rename`: a file goes to `dst`, a directory's entries below
`dst`; `IOError` when `src` does not exist. -/
def move (src dst : Path) : Except Path FileSystem :=
  match fs.entry src with
  | some (.file f) => .ok ((fs.removeTree src).put dst (.file f))
  | _ => if fs.isdir src then .ok (((fs.put dst .dir).graft fs src dst).removeTree src) else .error src

/-- `shutil.copy2(src, dst)`: the file with its mode; `IOError` unless `src` names a file. -/
def copy2 (src dst : Path) : Except Path FileSystem :=
  match fs.entry src with
  | some (.file f) => .ok (fs.put dst (.file f))
  | _ => .error src

/-- `distutils.dir_util.copy_tree(src, dst)`: `dst` made with `mkpath`, then every entry below
`src` to the same place below `dst`, over what is there; `DistutilsFileError` unless `src` is a
directory, or from `mkpath`. -/
def copyTree (src dst : Path) : Except Path FileSystem :=
  if fs.isdir src then (fs.mkpath dst).map fun fs' => fs'.graft fs src dst else .error src

/-- `shutil.copytree(src, dst)`: `OSError` unless `src` is a directory (`os.listdir`), then `dst`
made with `os.makedirs` and every entry below `src` copied below it. -/
def copytree (src dst : Path) : Except Path FileSystem :=
  if !fs.isdir src then .error src else (fs.makedirs dst).map fun fs' => fs'.graft fs src dst

/-- The file system with nothing in it. -/
def empty : FileSystem := ⟨fun _ => none, [], by simp⟩

/-- The file system naming the given paths, each with its entry, the last one given winning. -/
def ofList (l : List (Path × Entry)) : FileSystem := l.foldl (fun fs (p, e) => fs.put p e) empty

/-! ### What each change leaves at every path -/

variable {fs}

@[simp] theorem entry_put (p : Path) (e : Entry) (q : Path) :
    (fs.put p e).entry q = if q = p then some e else fs.entry q := rfl

@[simp] theorem entry_removeTree (p q : Path) :
    (fs.removeTree p).entry q = if p <+: q then none else fs.entry q := by
  simp [removeTree]

@[simp] theorem entry_graft (srcFs : FileSystem) (src dst q : Path) :
    (fs.graft srcFs src dst).entry q =
      if dst <+: q ∧ q ≠ dst then (srcFs.entry (src ++ q.drop dst.length)).or (fs.entry q)
      else fs.entry q := by
  simp [graft]

theorem pathExists_iff (p : Path) : fs.pathExists p ↔ ∃ q, p <+: q ∧ (fs.entry q).isSome := by
  simp [pathExists, fs.mem_paths, and_comm]

theorem isdir_iff (p : Path) :
    fs.isdir p ↔ ∃ q, p <+: q ∧ (fs.entry q).isSome ∧ (q ≠ p ∨ fs.entry q = some .dir) := by
  simp [isdir, fs.mem_paths, List.isPrefixOf_iff_prefix, and_assoc, and_left_comm]

/-- `os.path.exists` reads only the entries at and below the path. -/
theorem pathExists_congr {fs' : FileSystem} {p : Path} (h : ∀ q, p <+: q → fs'.entry q = fs.entry q) :
    fs'.pathExists p = fs.pathExists p := by
  rw [Bool.eq_iff_iff, pathExists_iff, pathExists_iff]
  exact exists_congr fun q => and_congr_right fun hq => by rw [h q hq]

/-- `os.path.isdir` reads only the entries at and below the path. -/
theorem isdir_congr {fs' : FileSystem} {p : Path} (h : ∀ q, p <+: q → fs'.entry q = fs.entry q) :
    fs'.isdir p = fs.isdir p := by
  rw [Bool.eq_iff_iff, isdir_iff, isdir_iff]
  exact exists_congr fun q => and_congr_right fun hq => by rw [h q hq]

/-- Nothing named at or below `p` but what `put` names. -/
theorem entry_of_not_pathExists {p : Path} (h : fs.pathExists p = false) {q : Path} (hq : p <+: q) :
    fs.entry q = none := by
  cases he : fs.entry q with
  | none => rfl
  | some e =>
    have hx : fs.pathExists p := (pathExists_iff p).2 ⟨q, hq, by rw [he]; rfl⟩
    simp [h] at hx

theorem pathExists_eq_false {p : Path} (h : ∀ q, p <+: q → fs.entry q = none) : fs.pathExists p = false := by
  rw [Bool.eq_false_iff, ne_eq, pathExists_iff]
  rintro ⟨q, hq, he⟩
  simp [h q hq] at he

theorem isdir_eq_false {p : Path} (h : ∀ q, p <+: q → fs.entry q = none) : fs.isdir p = false := by
  rw [Bool.eq_false_iff, ne_eq, isdir_iff]
  rintro ⟨q, hq, he, -⟩
  simp [h q hq] at he

theorem pathExists_of_isdir {p : Path} (h : fs.isdir p = true) : fs.pathExists p = true :=
  let ⟨q, hq, he, _⟩ := (isdir_iff p).1 h
  (pathExists_iff p).2 ⟨q, hq, he⟩

/-- Everything above a directory is a directory. -/
theorem isdir_of_below {p q : Path} (hqp : q <+: p) (h : fs.isdir p = true) : fs.isdir q = true := by
  obtain ⟨x, hpx, hx, hd⟩ := (isdir_iff p).1 h
  refine (isdir_iff q).2 ⟨x, hqp.trans hpx, hx, ?_⟩
  by_cases hxq : x = q
  · obtain rfl : p = x := hpx.eq_of_length (le_antisymm hpx.length_le (hxq ▸ hqp.length_le))
    exact .inr (hd.resolve_left (not_not.2 rfl))
  · exact .inl hxq

theorem isdir_of_dir {p : Path} (h : fs.entry p = some .dir) : fs.isdir p = true :=
  (isdir_iff p).2 ⟨p, List.prefix_rfl, by simp [h], .inr h⟩

/-- Something named below `p` makes `p` a directory. -/
theorem isdir_of_entry {p x : Path} (hx : x ≠ []) {e : Entry} (h : fs.entry (p ++ x) = some e) :
    fs.isdir p = true :=
  (isdir_iff p).2 ⟨p ++ x, List.prefix_append _ _, by simp [h], .inl (by simpa using hx)⟩

/-- `os.path.isdir` is false of `p` only when nothing is named below it, so that, unless `p` is
a file, nothing is at or below it. -/
theorem entry_of_not_isdir {p : Path} (h : fs.isdir p = false) (hf : ∀ f, fs.entry p ≠ some (.file f))
    {q : Path} (hq : p <+: q) : fs.entry q = none := by
  cases he : fs.entry q with
  | none => rfl
  | some e =>
    have hd : fs.isdir p = true := by
      refine (isdir_iff p).2 ⟨q, hq, by simp [he], ?_⟩
      by_cases hqp : q = p
      · subst hqp
        cases e with
        | dir => exact .inr he
        | file f => exact absurd he (hf f)
      · exact .inl hqp
    simp [h] at hd

theorem prefix_dropLast_of_ne {p q : Path} (hq : q <+: p) (hne : q ≠ p) : q <+: p.dropLast :=
  List.prefix_of_prefix_length_le hq (List.dropLast_prefix p) <| by
    have := hq.length_le
    have : q.length ≠ p.length := fun h => hne (hq.eq_of_length h)
    rw [List.length_dropLast]
    omega

theorem not_prefix_dropLast {d : Path} (hne : d ≠ []) : ¬d <+: d.dropLast := fun hd => by
  have := hd.length_le
  have : d.length ≠ 0 := by simpa using hne
  rw [List.length_dropLast] at *
  omega

theorem dropLast_ne {d : Path} (hne : d ≠ []) : d.dropLast ≠ d := fun h =>
  not_prefix_dropLast hne (by rw [h])

variable (fs) in
/-- The parent of `d` is a directory by an entry outside `d`: it is named a directory, or holds
something beside `d`. Changes inside `d` keep it so (`Within.parentDir`). -/
def ParentDir (d : Path) : Prop :=
  ∃ x, ¬d <+: x ∧ d.dropLast <+: x ∧ (fs.entry x).isSome ∧ (x ≠ d.dropLast ∨ fs.entry x = some .dir)

/-- Below a directory, every path above `d` is a directory. -/
theorem ParentDir.isdir {d : Path} (h : fs.ParentDir d) : ∀ q, q <+: d → q ≠ d → fs.isdir q = true :=
  fun _ hq hne =>
    let ⟨x, _, hx, he, hd⟩ := h
    isdir_of_below (prefix_dropLast_of_ne hq hne) ((isdir_iff _).2 ⟨x, hx, he, hd⟩)

theorem parentDir_of_dir {d : Path} (hne : d ≠ []) (h : fs.entry d.dropLast = some .dir) : fs.ParentDir d :=
  ⟨d.dropLast, not_prefix_dropLast hne, List.prefix_rfl, by simp [h], .inr h⟩

/-- A directory that holds nothing at `d` is the parent of `d` by an entry outside `d`. -/
theorem parentDir_of_fresh {d : Path} (hfresh : ∀ q, d <+: q → fs.entry q = none)
    (h : fs.isdir d.dropLast = true) : fs.ParentDir d :=
  let ⟨x, hx, he, hd⟩ := (isdir_iff _).1 h
  ⟨x, fun hdx => by simp [hfresh x hdx] at he, hx, he, hd⟩

/-- Removing a tree leaves `os.path.exists` alone on the paths neither above nor below it. -/
theorem pathExists_removeTree {p q : Path} (hpq : ¬p <+: q) (hqp : ¬q <+: p) :
    (fs.removeTree p).pathExists q = fs.pathExists q :=
  pathExists_congr fun r hr => by
    rw [entry_removeTree, if_neg fun hpr => (List.prefix_or_prefix_of_prefix hpr hr).elim hpq hqp]

theorem pathExists_removeTree_self (p : Path) : (fs.removeTree p).pathExists p = false :=
  pathExists_eq_false fun q hq => by simp [hq]

/-- A path that neither lies in `d` nor holds it lies in nothing below `d`. -/
theorem not_prefix_append_of_apart {p d : Path} (hpd : ¬p <+: d) (hdp : ¬d <+: p) (x : Path) :
    ¬p <+: d ++ x := fun h =>
  (List.prefix_or_prefix_of_prefix h (List.prefix_append _ _)).elim hpd hdp

/-! ### Making directories -/

theorem mem_inits_tail {p q : Path} : q ∈ p.inits.tail ↔ q ≠ [] ∧ q <+: p := by
  cases p with
  | nil => simp
  | cons a l =>
    simp only [List.inits, List.tail_cons, List.mem_map, List.mem_inits]
    constructor
    · rintro ⟨t, ht, rfl⟩
      exact ⟨List.cons_ne_nil _ _, List.cons_prefix_cons.2 ⟨rfl, ht⟩⟩
    · rintro ⟨hq, hp⟩
      obtain ⟨b, t, rfl⟩ := List.exists_cons_of_ne_nil hq
      obtain ⟨rfl, ht⟩ := List.cons_prefix_cons.1 hp
      exact ⟨t, ht, rfl⟩

theorem inits_tail_of_ne_nil {p : Path} (hne : p ≠ []) : p.inits.tail = p.dropLast.inits.tail ++ [p] := by
  conv_lhs => rw [← List.dropLast_append_getLast hne]
  rw [List.inits_append, List.tail_append_of_ne_nil (by cases p.dropLast <;> simp)]
  simp [List.dropLast_append_getLast hne]

theorem mkdir_eq_ok {p : Path} {fs' : FileSystem} :
    fs.mkdir p = .ok fs' ↔ fs.pathExists p = false ∧ fs.isdir p.dropLast = true ∧ fs' = fs.put p .dir := by
  unfold mkdir
  constructor
  · intro h
    split at h
    · cases h
    · rename_i hc
      simp only [Bool.or_eq_true, Bool.not_eq_true', not_or, Bool.not_eq_false, Bool.not_eq_true] at hc
      exact ⟨hc.1, hc.2, (Except.ok.inj h).symm⟩
  · rintro ⟨h₁, h₂, rfl⟩
    simp [h₁, h₂]

/-- `os.mkdir` of each of `qs` names each of them a directory, and nothing else. -/
theorem entry_mkdirs {qs : List Path} {fs' : FileSystem} (h : fs.mkdirs qs = .ok fs') (r : Path) :
    fs'.entry r = if r ∈ qs then some .dir else fs.entry r := by
  induction qs generalizing fs with
  | nil => cases h; simp
  | cons q qs ih =>
    simp only [mkdirs, List.foldlM_cons] at h
    cases hq : fs.mkdir q with
    | error e => rw [hq] at h; cases h
    | ok fs₁ =>
      rw [hq] at h
      obtain ⟨-, -, rfl⟩ := mkdir_eq_ok.1 hq
      have h' : (fs.put q .dir).mkdirs qs = .ok fs' := h
      rw [ih h']
      by_cases hr : r = q <;> simp [hr]

/-- `mkpath p` names a directory each nonempty prefix of `p` that was not one. -/
theorem entry_mkpath {p : Path} {fs' : FileSystem} (h : fs.mkpath p = .ok fs') (r : Path) :
    fs'.entry r = if r ≠ [] ∧ r <+: p ∧ fs.isdir r = false then some .dir else fs.entry r := by
  rw [entry_mkdirs h]
  simp [List.mem_filter, mem_inits_tail, and_assoc]

/-- `os.makedirs(p)` names a directory `p` and each parent of `p` that did not exist. -/
theorem entry_makedirs {p : Path} {fs' : FileSystem} (h : fs.makedirs p = .ok fs') (r : Path) :
    fs'.entry r = if r = p ∨ r ≠ [] ∧ r <+: p.dropLast ∧ fs.pathExists r = false then some .dir
      else fs.entry r := by
  rw [entry_mkdirs h]
  simp [List.mem_filter, mem_inits_tail, and_assoc, or_comm]

/-- `mkpath` below a directory makes only the last component. -/
theorem mkpath_of_parent {p : Path} (hne : p ≠ []) (hpar : fs.isdir p.dropLast = true)
    (hp : fs.pathExists p = false) : fs.mkpath p = .ok (fs.put p .dir) := by
  have hp' : fs.isdir p = false := Bool.eq_false_iff.2 fun h => by simp [pathExists_of_isdir h] at hp
  have hfilter : (p.inits.tail.filter fun q => !fs.isdir q) = [p] := by
    rw [inits_tail_of_ne_nil hne, List.filter_append, List.filter_eq_nil_iff.2 fun q hq => by
      simp [isdir_of_below (mem_inits_tail.1 hq).2 hpar]]
    simp [hp']
  simp [mkpath, hfilter, mkdirs, mkdir, hp, hpar]

/-- After `mkpath p` where nothing was, below the root, the parent of `p` is a directory by an
entry outside `p`: it was one, or `mkpath` made it. -/
theorem parentDir_mkpath {p : Path} {fs' : FileSystem} (hne : p ≠ []) (hfresh : ∀ q, p <+: q → fs.entry q = none)
    (hroot : fs.isdir [] = true) (h : fs.mkpath p = .ok fs') : fs'.ParentDir p := by
  cases hd : fs.isdir p.dropLast with
  | true =>
    obtain ⟨x, hpx, hx, he, hdir⟩ := parentDir_of_fresh hfresh hd
    have hx' : fs'.entry x = some .dir ∨ fs'.entry x = fs.entry x := by
      rw [entry_mkpath h]
      split
      exacts [.inl rfl, .inr rfl]
    rcases hx' with hx' | hx'
    · exact ⟨x, hpx, hx, by simp [hx'], .inr hx'⟩
    · exact ⟨x, hpx, hx, by rwa [hx'], by rwa [hx']⟩
  | false =>
    have hd' : p.dropLast ≠ [] := fun h' => by simp [h', hroot] at hd
    exact parentDir_of_dir hne (by rw [entry_mkpath h, if_pos ⟨hd', List.dropLast_prefix p, hd⟩])

theorem rmtree_eq_ok {p : Path} {fs' : FileSystem} :
    fs.rmtree p = .ok fs' ↔ fs.isdir p = true ∧ fs' = fs.removeTree p := by
  unfold rmtree
  split
  · exact ⟨fun h => ⟨‹_›, (Except.ok.inj h).symm⟩, fun h => by rw [h.2]⟩
  · exact ⟨(fun h => nomatch h), fun h => absurd h.1 ‹_›⟩

/-! ### What a successful operation did -/

theorem readText_eq_ok {p : Path} {text : String} :
    fs.readText p = .ok text ↔ ∃ f, fs.entry p = some (.file f) ∧ f.content = text := by
  unfold readText
  split <;> simp_all

theorem readText_of_entry {fs' : FileSystem} {p : Path} (h : fs.entry p = fs'.entry p) :
    fs.readText p = fs'.readText p := by
  simp [readText, h]

theorem writeText_eq_ok {p : Path} {text : String} {fs' : FileSystem} (h : fs.writeText p text = .ok fs') :
    ∃ x, fs' = fs.put p (.file ⟨text, x⟩) := by
  unfold writeText at h
  split at h
  · cases h
  · exact ⟨_, (Except.ok.inj h).symm⟩
  · split at h
    · cases h
    · exact ⟨_, (Except.ok.inj h).symm⟩

/-- Writing where nothing is, in a directory, makes a new file. -/
theorem writeText_fresh {p : Path} (text : String) (hnone : ∀ q, p <+: q → fs.entry q = none)
    (hpar : fs.isdir p.dropLast = true) : fs.writeText p text = .ok (fs.put p (.file ⟨text, false⟩)) := by
  simp [writeText, hnone p List.prefix_rfl, isdir_eq_false hnone, hpar]

theorem chmodX_of_file {p : Path} {f : File} (h : fs.entry p = some (.file f)) :
    fs.chmodX p = fs.put p (.file { f with exec := true }) := by
  simp [chmodX, h]

@[simp] theorem chmodX_put (p : Path) (f : File) :
    (fs.put p (.file f)).chmodX p = (fs.put p (.file f)).put p (.file { f with exec := true }) :=
  chmodX_of_file (by simp)

theorem copy2_eq_ok {src dst : Path} {fs' : FileSystem} (h : fs.copy2 src dst = .ok fs') :
    ∃ f, fs.entry src = some (.file f) ∧ fs' = fs.put dst (.file f) := by
  unfold copy2 at h
  split at h
  · exact ⟨_, ‹_›, (Except.ok.inj h).symm⟩
  · cases h

theorem move_eq_ok {src dst : Path} {fs' : FileSystem} (h : fs.move src dst = .ok fs') :
    (∃ f, fs.entry src = some (.file f) ∧ fs' = (fs.removeTree src).put dst (.file f)) ∨
      fs' = ((fs.put dst .dir).graft fs src dst).removeTree src := by
  unfold move at h
  split at h
  · exact .inl ⟨_, ‹_›, (Except.ok.inj h).symm⟩
  · split at h
    · exact .inr (Except.ok.inj h).symm
    · cases h

theorem move_of_file {src : Path} {f : File} (h : fs.entry src = some (.file f)) (dst : Path) :
    fs.move src dst = .ok ((fs.removeTree src).put dst (.file f)) := by
  simp [move, h]

theorem copyTree_eq_ok {src dst : Path} {fs' : FileSystem} :
    fs.copyTree src dst = .ok fs' ↔
      fs.isdir src = true ∧ ∃ fs₁, fs.mkpath dst = .ok fs₁ ∧ fs' = fs₁.graft fs src dst := by
  unfold copyTree
  split
  · cases fs.mkpath dst with
    | error e => simp [Except.map]
    | ok fs₁ => simpa [Except.map, ‹fs.isdir src = true›] using eq_comm
  · simp_all

theorem copytree_eq_ok {src dst : Path} {fs' : FileSystem} (h : fs.copytree src dst = .ok fs') :
    ∃ fs₁, fs.makedirs dst = .ok fs₁ ∧ fs' = fs₁.graft fs src dst := by
  unfold copytree at h
  split at h
  · cases h
  · cases hm : fs.makedirs dst <;> simp_all [Except.map]

/-- `shutil.copytree` leaves a directory at its destination. -/
theorem entry_copytree_dst {src dst : Path} {fs' : FileSystem} (h : fs.copytree src dst = .ok fs') :
    fs'.entry dst = some .dir := by
  obtain ⟨fs₁, h₁, rfl⟩ := copytree_eq_ok h
  rw [entry_graft, if_neg fun h => h.2 rfl, entry_makedirs h₁, if_pos (.inl rfl)]

/-- A tree copied into a directory where nothing was: below it, exactly the source's entries. -/
theorem entry_copy_fresh {p src : Path} {fs' : FileSystem} (hfresh : ∀ q, p <+: q → fs.entry q = none)
    (h : fs.copyTree src p = .ok fs') {r : Path} (hr : r ≠ []) : fs'.entry (p ++ r) = fs.entry (src ++ r) := by
  obtain ⟨-, fs₁, h₁, rfl⟩ := copyTree_eq_ok.1 h
  have hnot : ¬p ++ r <+: p := fun h => hr <| List.length_eq_zero.1 <| by
    have := h.length_le; rw [List.length_append] at this; omega
  rw [entry_graft, if_pos ⟨List.prefix_append _ _, by simpa using hr⟩, entry_mkpath h₁,
    if_neg fun h => hnot h.2.1, hfresh _ (List.prefix_append _ _), Option.or_none, List.drop_left]

/-! ### Changes inside a directory -/

/-- `fs'` keeps the entry of `fs` at every path outside `d`. -/
def Within (d : Path) (fs fs' : FileSystem) : Prop := ∀ q, ¬d <+: q → fs'.entry q = fs.entry q

/-- `fs'` keeps the entry of `fs` at every path that neither lies in `d` nor holds it: a change
inside `d` that may also make the directories above it. -/
def Apart (d : Path) (fs fs' : FileSystem) : Prop := ∀ q, ¬d <+: q → ¬q <+: d → fs'.entry q = fs.entry q

namespace Within

variable {d : Path} {fs₁ fs₂ fs₃ : FileSystem}

theorem refl (d : Path) (fs : FileSystem) : Within d fs fs := fun _ _ => rfl

theorem trans (h₁ : Within d fs₁ fs₂) (h₂ : Within d fs₂ fs₃) : Within d fs₁ fs₃ :=
  fun q hq => (h₂ q hq).trans (h₁ q hq)

theorem mono {e : Path} (hde : d <+: e) (h : Within e fs₁ fs₂) : Within d fs₁ fs₂ :=
  fun q hq => h q fun he => hq (hde.trans he)

theorem apart (h : Within d fs₁ fs₂) : Apart d fs₁ fs₂ := fun q hq _ => h q hq

/-- A change inside `d` keeps the parent of `d` a directory. -/
theorem parentDir (h : Within d fs₁ fs₂) (hp : fs₁.ParentDir d) : fs₂.ParentDir d :=
  let ⟨x, hdx, hx, he, hd⟩ := hp
  ⟨x, hdx, hx, by rwa [h x hdx], by rwa [h x hdx]⟩

end Within

namespace Apart

variable {d r : Path} {fs₁ fs₂ fs₃ : FileSystem}

theorem trans (h₁ : Apart d fs₁ fs₂) (h₂ : Apart d fs₂ fs₃) : Apart d fs₁ fs₃ :=
  fun q hq hq' => (h₂ q hq hq').trans (h₁ q hq hq')

/-- What lies at or below a path apart from `d` is apart from `d`. -/
theorem entry_below (h : Apart d fs₁ fs₂) (hdr : ¬d <+: r) (hrd : ¬r <+: d) :
    ∀ q, r <+: q → fs₂.entry q = fs₁.entry q := fun q hq =>
  h q (fun hd => (List.prefix_or_prefix_of_prefix hd hq).elim hdr hrd) fun hqd => hrd (hq.trans hqd)

theorem pathExists (h : Apart d fs₁ fs₂) (hdr : ¬d <+: r) (hrd : ¬r <+: d) :
    fs₂.pathExists r = fs₁.pathExists r :=
  pathExists_congr (h.entry_below hdr hrd)

theorem isdir (h : Apart d fs₁ fs₂) (hdr : ¬d <+: r) (hrd : ¬r <+: d) : fs₂.isdir r = fs₁.isdir r :=
  isdir_congr (h.entry_below hdr hrd)

end Apart

variable {d : Path}

theorem within_put {p : Path} (hd : d <+: p) (e : Entry) : Within d fs (fs.put p e) := fun q hq => by
  rw [entry_put, if_neg]
  rintro rfl
  exact hq hd

theorem within_removeTree {p : Path} (hd : d <+: p) : Within d fs (fs.removeTree p) := fun q hq => by
  rw [entry_removeTree, if_neg fun h => hq (hd.trans h)]

theorem within_graft {dst : Path} (hd : d <+: dst) (srcFs : FileSystem) (src : Path) :
    Within d fs (fs.graft srcFs src dst) := fun q hq => by
  rw [entry_graft, if_neg fun h => hq (hd.trans h.1)]

theorem within_mkdir {p : Path} {fs' : FileSystem} (hd : d <+: p) (h : fs.mkdir p = .ok fs') :
    Within d fs fs' := by
  rw [(mkdir_eq_ok.1 h).2.2]
  exact within_put hd _

/-- `mkpath` into `d`, below directories, makes nothing outside `d`. -/
theorem within_mkpath {p : Path} {fs' : FileSystem} (hd : d <+: p)
    (hpar : fs.ParentDir d) (h : fs.mkpath p = .ok fs') : Within d fs fs' :=
  fun q hq => by
    rw [entry_mkpath h, if_neg]
    rintro ⟨-, hqp, hdir⟩
    have hqd := (List.prefix_or_prefix_of_prefix hqp hd).resolve_right hq
    simp [hpar.isdir q hqd fun h => hq (h ▸ List.prefix_rfl)] at hdir

/-- `os.makedirs` into `d`, below existing directories, makes nothing outside `d`. -/
theorem within_makedirs {p : Path} {fs' : FileSystem} (hd : d <+: p)
    (hpar : fs.ParentDir d) (h : fs.makedirs p = .ok fs') : Within d fs fs' :=
  fun q hq => by
    rw [entry_makedirs h, if_neg]
    rintro (rfl | ⟨-, hqp, hex⟩)
    · exact hq hd
    · have hqd := (List.prefix_or_prefix_of_prefix (hqp.trans (List.dropLast_prefix p)) hd).resolve_right hq
      simp [pathExists_of_isdir (hpar.isdir q hqd fun h => hq (h ▸ List.prefix_rfl))] at hex

theorem apart_mkpath {p : Path} {fs' : FileSystem} (h : fs.mkpath p = .ok fs') : Apart p fs fs' :=
  fun q _ hq => by rw [entry_mkpath h, if_neg fun h => hq h.2.1]

theorem apart_makedirs {p : Path} {fs' : FileSystem} (h : fs.makedirs p = .ok fs') : Apart p fs fs' :=
  fun q hq hq' => by
    rw [entry_makedirs h, if_neg]
    rintro (rfl | ⟨-, hqp, -⟩)
    exacts [hq List.prefix_rfl, hq' (hqp.trans (List.dropLast_prefix p))]

theorem within_chmodX {p : Path} (hd : d <+: p) : Within d fs (fs.chmodX p) := by
  unfold chmodX
  split
  exacts [within_put hd _, Within.refl _ _]

theorem within_writeText {p : Path} {text : String} {fs' : FileSystem} (hd : d <+: p)
    (h : fs.writeText p text = .ok fs') : Within d fs fs' := by
  obtain ⟨x, rfl⟩ := writeText_eq_ok h
  exact within_put hd _

theorem within_copy2 {src dst : Path} {fs' : FileSystem} (hd : d <+: dst)
    (h : fs.copy2 src dst = .ok fs') : Within d fs fs' := by
  obtain ⟨f, -, rfl⟩ := copy2_eq_ok h
  exact within_put hd _

theorem within_move {src dst : Path} {fs' : FileSystem} (hs : d <+: src) (hd : d <+: dst)
    (h : fs.move src dst = .ok fs') : Within d fs fs' := by
  rcases move_eq_ok h with ⟨f, -, rfl⟩ | rfl
  · exact (within_removeTree hs).trans (within_put hd _)
  · exact ((within_put hd _).trans (within_graft hd _ _)).trans (within_removeTree hs)

theorem within_copyTree {src dst : Path} {fs' : FileSystem} (hd : d <+: dst)
    (hpar : fs.ParentDir d) (h : fs.copyTree src dst = .ok fs') :
    Within d fs fs' := by
  obtain ⟨-, fs₁, h₁, rfl⟩ := copyTree_eq_ok.1 h
  exact (within_mkpath hd hpar h₁).trans (within_graft hd _ _)

theorem within_copytree {src dst : Path} {fs' : FileSystem} (hd : d <+: dst)
    (hpar : fs.ParentDir d) (h : fs.copytree src dst = .ok fs') :
    Within d fs fs' := by
  obtain ⟨fs₁, h₁, rfl⟩ := copytree_eq_ok h
  exact (within_makedirs hd hpar h₁).trans (within_graft hd _ _)

/-- Copying a tree into `dst` changes nothing apart from any `d` above `dst`. -/
theorem apart_copyTree {src dst : Path} {fs' : FileSystem} (hd : d <+: dst) (h : fs.copyTree src dst = .ok fs') :
    Apart d fs fs' := by
  obtain ⟨-, fs₁, h₁, rfl⟩ := copyTree_eq_ok.1 h
  refine fun q hq hq' => ((within_graft hd _ _).apart q hq hq').trans (apart_mkpath h₁ q ?_ ?_)
  · exact fun h => hq (hd.trans h)
  · exact fun h => (List.prefix_or_prefix_of_prefix h hd).elim hq' hq

theorem apart_copytree {src dst : Path} {fs' : FileSystem} (hd : d <+: dst) (h : fs.copytree src dst = .ok fs') :
    Apart d fs fs' := by
  obtain ⟨fs₁, h₁, rfl⟩ := copytree_eq_ok h
  refine fun q hq hq' => ((within_graft hd _ _).apart q hq hq').trans (apart_makedirs h₁ q ?_ ?_)
  · exact fun h => hq (hd.trans h)
  · exact fun h => (List.prefix_or_prefix_of_prefix h hd).elim hq' hq

end FileSystem

end Ndk
