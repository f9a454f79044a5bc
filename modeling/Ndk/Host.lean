import Ndk.Python

/-!
# `os.path` on the two hosts

The test runner runs on POSIX hosts and on Windows, where `os.path` is `ntpath`. The
functions the modelled code calls, as Python 2.7 computes them: `join` of two components,
`dirname` and `normcase`.

* `Posix.join_relative`: `posixpath.join(a, b)` puts one `/` between a relative `b` and an
  `a` that does not end in one.
* `Host.normcase_data`: `normcase` maps each character on its own, and on POSIX hosts it
  changes nothing.
-/

namespace Ndk

/-- The host's `os.path`: `posixpath` or `ntpath`. -/
inductive Host
  | posix
  | nt
  deriving DecidableEq, Repr

/-- The number of characters up to and including the last one that `sep` accepts. -/
def lastSepEnd (sep : Char → Bool) (p : List Char) : ℕ :=
  p.length - (p.reverse.takeWhile fun c => !sep c).length

theorem lastSepEnd_eq_zero {sep : Char → Bool} {p : List Char} (h : ∀ c ∈ p, sep c = false) :
    lastSepEnd sep p = 0 := by
  have : (p.reverse.takeWhile fun c => !sep c) = p.reverse :=
    List.takeWhile_eq_self_iff.2 fun c hc => by simp [h c (List.mem_reverse.1 hc)]
  simp [lastSepEnd, this]

/-- The last separator of `a ++ c :: b` is `c` when `b` has none. -/
theorem lastSepEnd_append_sep (sep : Char → Bool) {a b : List Char} {c : Char} (hc : sep c)
    (hb : ∀ x ∈ b, sep x = false) : lastSepEnd sep (a ++ c :: b) = a.length + 1 := by
  have : ((a ++ c :: b).reverse.takeWhile fun x => !sep x) = b.reverse := by
    rw [List.reverse_append, List.reverse_cons, List.append_assoc,
      List.takeWhile_append_of_pos fun x hx => by simp [hb x (List.mem_reverse.1 hx)]]
    simp [hc]
  simp only [lastSepEnd, this, List.length_append, List.length_cons, List.length_reverse]
  omega

/-- Cut at the last separator: the text up to it, and the text after it. -/
theorem take_drop_lastSepEnd (sep : Char → Bool) {a b : List Char} {c : Char} (hc : sep c)
    (hb : ∀ x ∈ b, sep x = false) :
    (a ++ c :: b).take (lastSepEnd sep (a ++ c :: b)) = a ++ [c] ∧
      (a ++ c :: b).drop (lastSepEnd sep (a ++ c :: b)) = b := by
  have hlen : (a ++ [c]).length = a.length + 1 := by simp
  rw [lastSepEnd_append_sep sep hc hb, List.append_cons]
  exact ⟨List.take_left' hlen, List.drop_left' hlen⟩

/-- `genericpath._splitext(p, sep, altsep, '.')`, `isSep` accepting `sep` and `altsep`: the
extension starts at the last `.` after the last separator, unless only dots come before that
`.` in the file name. -/
def splitextWith (isSep : Char → Bool) (p : List Char) : List Char × List Char :=
  let sepEnd := lastSepEnd isSep p
  let dotEnd := lastSepEnd (· = '.') p
  if sepEnd < dotEnd ∧ ((p.take (dotEnd - 1)).drop sepEnd).any (· ≠ '.') then
    (p.take (dotEnd - 1), p.drop (dotEnd - 1))
  else (p, [])

/-- The extension of a file name with no separator and some character other than `.` is
what follows its last `.`. -/
theorem splitextWith_append_ext {isSep : Char → Bool} {f e : List Char}
    (hdot : isSep '.' = false) (hf : ∀ c ∈ f, isSep c = false) (hf' : ∃ c ∈ f, c ≠ '.')
    (he : ∀ c ∈ e, isSep c = false ∧ c ≠ '.') :
    splitextWith isSep (f ++ '.' :: e) = (f, '.' :: e) := by
  have hsep : lastSepEnd isSep (f ++ '.' :: e) = 0 := lastSepEnd_eq_zero fun c hc => by
    rcases List.mem_append.1 hc with hc | hc
    · exact hf c hc
    · rcases List.mem_cons.1 hc with rfl | hc
      · exact hdot
      · exact (he c hc).1
  have hdotEnd : lastSepEnd (· = '.') (f ++ '.' :: e) = f.length + 1 :=
    lastSepEnd_append_sep _ (by simp) fun c hc => by simp [(he c hc).2]
  simpa [splitextWith, hsep, hdotEnd, List.take_left', List.drop_left'] using hf'

namespace Posix

/-- `posixpath.join(a, b)`. -/
def join (a b : String) : String :=
  if Str.startswith b "/" then b
  else if a = "" ∨ Str.endswith a "/" then a ++ b
  else a ++ "/" ++ b

/-- `posixpath.dirname(p)`. -/
def dirname (p : String) : String :=
  let head := p.data.take (lastSepEnd (· = '/') p.data)
  if head ≠ [] ∧ ¬head.all (· = '/') then ⟨(head.reverse.dropWhile (· = '/')).reverse⟩
  else ⟨head⟩

theorem join_relative {a b : String} (ha : a ≠ "") (ha' : Str.endswith a "/" = false)
    (hb : Str.startswith b "/" = false) : join a b = a ++ "/" ++ b := by
  simp [join, ha, ha', hb]

end Posix

namespace Nt

/-- The separators of `ntpath`. -/
def isSep (c : Char) : Bool := c = '\\' || c = '/'

/-- `ntpath.splitdrive(p)`: a drive letter and colon, or the `\\machine\mountpoint` of a
UNC path, and the rest. -/
def splitdrive (p : String) : String × String :=
  let normp := p.data.map fun c => if c = '/' then '\\' else c
  let whole : String × String := ("", p)
  let cut (i : ℕ) : String × String := (⟨p.data.take i⟩, ⟨p.data.drop i⟩)
  if 1 < p.length then
    if normp.take 2 = ['\\', '\\'] ∧ normp.get? 2 ≠ some '\\' then
      match (normp.drop 2).indexOf? '\\' with
      | none => whole
      | some i =>
        match (normp.drop (i + 3)).indexOf? '\\' with
        | some 0 => whole
        | some j => cut (i + 3 + j)
        | none => cut p.length
    else if normp.get? 1 = some ':' then cut 2
    else whole
  else whole

/-- `ntpath.join(path, p)`. -/
def join (path p : String) : String :=
  let (rd, rp) := splitdrive path
  let (pd, pp) := splitdrive p
  let (rd, rp) : String × String :=
    if pp.data.head?.any isSep then (if pd ≠ "" ∨ rd = "" then pd else rd, pp)
    else if pd ≠ "" ∧ pd ≠ rd ∧ Str.lower pd ≠ Str.lower rd then (pd, pp)
    else
      let rd := if pd ≠ "" ∧ pd ≠ rd then pd else rd
      let rp := if rp ≠ "" ∧ !rp.data.getLast?.any isSep then rp ++ "\\" else rp
      (rd, rp ++ pp)
  if rp ≠ "" ∧ !rp.data.head?.any isSep ∧ rd ≠ "" ∧ rd.data.getLast? ≠ some ':' then
    rd ++ "\\" ++ rp
  else rd ++ rp

/-- `ntpath.split(p)`. -/
def split (p : String) : String × String :=
  let (d, p) := splitdrive p
  let i := lastSepEnd isSep p.data
  let head := p.data.take i
  let head2 := (head.reverse.dropWhile isSep).reverse
  (d ++ ⟨if head2 = [] then head else head2⟩, ⟨p.data.drop i⟩)

/-- `ntpath.normcase(s)`. -/
def normcase (s : String) : String := Str.lower (Str.replace s '/' '\\')

end Nt

namespace Host

/-- `os.path.join(a, b)`. -/
def join : Host → String → String → String
  | posix => Posix.join
  | nt => Nt.join

/-- `os.path.dirname(p)`. -/
def dirname : Host → String → String
  | posix => Posix.dirname
  | nt => fun p => (Nt.split p).1

/-- `os.path.normcase(s)`. -/
def normcase : Host → String → String
  | posix => id
  | nt => Nt.normcase

/-- The separators of the host's `os.path`. -/
def isSep : Host → Char → Bool
  | posix => (· = '/')
  | nt => Nt.isSep

/-- `os.path.splitext(p)`. -/
def splitext (host : Host) (p : String) : String × String :=
  Prod.map String.mk String.mk (splitextWith host.isSep p.data)

/-- `os.path.basename(p)`. -/
def basename : Host → String → String
  | posix => fun p => ⟨p.data.drop (lastSepEnd (· = '/') p.data)⟩
  | nt => fun p => (Nt.split p).2

/-- What `normcase` does to each character. -/
def normChar : Host → Char → Char
  | posix => id
  | nt => fun c => Char.toLower (if c = '/' then '\\' else c)

theorem toLower_eq_iff {c m : Char} (hl : ∀ k < 26, Char.ofNat (97 + k) ≠ m)
    (hu : ¬(65 ≤ m.toNat ∧ m.toNat ≤ 90)) : Char.toLower c = m ↔ c = m := by
  simp only [Char.toLower]
  split
  · next h =>
    refine ⟨fun e => absurd e ?_, fun e => absurd (e ▸ h) hu⟩
    have := hl (c.toNat - 65) (by omega)
    rwa [show 97 + (c.toNat - 65) = c.toNat + 32 by omega] at this
  · exact Iff.rfl

/-- `normcase` moves no character onto a non-letter other than a separator, and leaves such a
character alone. -/
theorem normChar_eq_iff (host : Host) {c m : Char} (hl : ∀ k < 26, Char.ofNat (97 + k) ≠ m)
    (hu : ¬(65 ≤ m.toNat ∧ m.toNat ≤ 90)) (hb : m ≠ '\\') (hs : m ≠ '/') :
    host.normChar c = m ↔ c = m := by
  cases host with
  | posix => exact Iff.rfl
  | nt =>
    by_cases hc : c = '/'
    · subst hc
      have : Char.toLower '\\' = '\\' := by decide
      simp only [normChar, if_pos rfl, this]
      exact ⟨fun e => absurd e.symm hb, fun e => absurd e.symm hs⟩
    · simp only [normChar, if_neg hc]; exact toLower_eq_iff hl hu

theorem normcase_data (host : Host) (s : String) : (host.normcase s).data = s.data.map host.normChar := by
  cases host
  · simp [normcase, normChar]
  · simp [normcase, normChar, Nt.normcase, Str.lower, Str.replace, Function.comp_def]

end Host

example : Host.join .nt "std" "a.exe" = "std\\a.exe" := by decide
example : Host.join .nt "C:\\x" "D:y" = "D:y" := by decide
example : Host.dirname .nt "libc++.std/a.pass.cpp" = "libc++.std" := by decide

end Ndk
