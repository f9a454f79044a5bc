import Ndk.Toolchain.Install

/-!
# Installing twice

The file system of `Ndk.Toolchain.Files` carries the list of its named paths besides what each
path names. The script reads it only through the entries: on two file systems that name the same
entries (`Same`), every operation, and so `create_toolchain`, ends the same way (`Agree`, with
the same error or results that name the same entries). A second run with `--force` into the
same directory then starts from what the first left, which agrees with where the first started
everywhere but in that directory and in the directories above it that the first made; it removes
the directory before anything is read from it, and its first copy leaves what the first run's
did.

* `createToolchain_agree`: **`create_toolchain` reads the file system only through its
  entries.**
* `main_force_idempotent`: **running an installation with `--force` a second time leaves the
  file system as the first run left it.**
-/

namespace Ndk

namespace FileSystem

/-- `fs` and `fs'` name the same entries; their lists of named paths may differ. -/
def Same (fs fs' : FileSystem) : Prop := ∀ q, fs.entry q = fs'.entry q

namespace Same

variable {fs fs' src src' : FileSystem}

theorem refl (fs : FileSystem) : Same fs fs := fun _ => rfl

theorem pathExists (h : Same fs fs') (p : Path) : fs.pathExists p = fs'.pathExists p :=
  pathExists_congr fun q _ => h q

theorem isdir (h : Same fs fs') (p : Path) : fs.isdir p = fs'.isdir p :=
  isdir_congr fun q _ => h q

theorem put (h : Same fs fs') (p : Path) (e : Entry) : Same (fs.put p e) (fs'.put p e) := fun q => by
  rw [entry_put, entry_put, h q]

theorem removeTree (h : Same fs fs') (p : Path) : Same (fs.removeTree p) (fs'.removeTree p) := fun q => by
  rw [entry_removeTree, entry_removeTree, h q]

/-- A graft reads of its source only the tree it copies. -/
theorem graft {s : Path} (h : Same fs fs') (hs : ∀ r, src.entry (s ++ r) = src'.entry (s ++ r)) (d : Path) :
    Same (fs.graft src s d) (fs'.graft src' s d) := fun q => by
  rw [entry_graft, entry_graft, h q, hs]

theorem chmodX (h : Same fs fs') (p : Path) : Same (fs.chmodX p) (fs'.chmodX p) := by
  unfold FileSystem.chmodX
  rw [h p]
  split
  exacts [h.put _ _, h]

end Same

end FileSystem

open FileSystem

/-- Two outcomes agree: both errors related by `E`, or both values related by `R`. -/
def Agree {ε α : Type} (E : ε → ε → Prop) (R : α → α → Prop) : Except ε α → Except ε α → Prop
  | .ok a, .ok b => R a b
  | .error e, .error e' => E e e'
  | _, _ => False

namespace Agree

variable {ε ε' α β : Type} {E : ε → ε → Prop} {E' : ε' → ε' → Prop} {R : α → α → Prop} {S : β → β → Prop}

theorem bind {x y : Except ε α} {f g : α → Except ε β} (h : Agree E R x y)
    (hf : ∀ a b, R a b → Agree E S (f a) (g b)) : Agree E S (x >>= f) (y >>= g) := by
  cases x <;> cases y
  all_goals first | exact h | exact hf _ _ h | exact absurd h id

theorem map {x y : Except ε α} {f g : α → β} (h : Agree E R x y) (hf : ∀ a b, R a b → S (f a) (g b)) :
    Agree E S (x.map f) (y.map g) := by
  cases x <;> cases y
  all_goals first | exact h | exact hf _ _ h

theorem of_eq {x : Except ε α} (hE : ∀ e, E e e) (hR : ∀ a, R a a) : Agree E R x x := by
  cases x
  exacts [hE _, hR _]

theorem mapError {x y : Except ε α} {k₁ k₂ : ε → ε'} (h : Agree (· = ·) R x y) (hk : ∀ e, E' (k₁ e) (k₂ e)) :
    Agree E' R (x.mapError k₁) (y.mapError k₂) := by
  cases x <;> cases y
  · obtain rfl : _ = _ := h
    exact hk _
  · exact absurd h id
  · exact absurd h id
  · exact h

theorem foldlM {f : α → β → Except ε α} (hf : ∀ a b x, R a b → Agree E R (f a x) (f b x)) :
    ∀ (l : List β) {a b : α}, R a b → Agree E R (l.foldlM f a) (l.foldlM f b)
  | [], _, _, h => h
  | x :: l, _, _, h => (hf _ _ x h).bind fun _ _ h' => foldlM hf l h'

theorem eq_ok {x y : Except ε α} {a : α} (h : Agree E R x y) (hx : x = .ok a) : ∃ b, y = .ok b ∧ R a b := by
  subst hx
  cases y
  exacts [absurd h id, ⟨_, rfl, h⟩]

end Agree

/-- Two stops agree: the same stop, on file systems that name the same entries. -/
def StopSame (s s' : Stopped) : Prop := s.stop = s'.stop ∧ Same s.fs s'.fs

/-! ### Each operation reads only entries -/

namespace FileSystem

variable {fs fs' : FileSystem} (h : Same fs fs')
include h

theorem Same.readText (p : Path) : Agree (· = ·) (· = ·) (fs.readText p) (fs'.readText p) := by
  rw [readText_of_entry (h p)]
  exact Agree.of_eq (fun _ => rfl) fun _ => rfl

theorem Same.writeText (p : Path) (text : String) :
    Agree (· = ·) Same (fs.writeText p text) (fs'.writeText p text) := by
  unfold FileSystem.writeText
  rw [h p, h.isdir, h.isdir]
  split
  · rfl
  · exact h.put _ _
  · split
    · rfl
    · exact h.put _ _

theorem Same.copy2 (src dst : Path) : Agree (· = ·) Same (fs.copy2 src dst) (fs'.copy2 src dst) := by
  unfold FileSystem.copy2
  rw [h src]
  split
  · exact h.put _ _
  · rfl

theorem Same.move (src dst : Path) : Agree (· = ·) Same (fs.move src dst) (fs'.move src dst) := by
  unfold FileSystem.move
  rw [h src, h.isdir]
  split
  · exact (h.removeTree _).put _ _
  · split
    · exact ((h.put _ _).graft (fun r => h (src ++ r)) _).removeTree _
    · rfl

theorem Same.mkdir (p : Path) : Agree (· = ·) Same (fs.mkdir p) (fs'.mkdir p) := by
  unfold FileSystem.mkdir
  rw [h.pathExists, h.isdir]
  split
  · rfl
  · exact h.put _ _

theorem Same.mkdirs (qs : List Path) : Agree (· = ·) Same (fs.mkdirs qs) (fs'.mkdirs qs) :=
  Agree.foldlM (fun _ _ q hs => hs.mkdir q) qs h

theorem Same.mkpath (p : Path) : Agree (· = ·) Same (fs.mkpath p) (fs'.mkpath p) := by
  unfold FileSystem.mkpath
  rw [show (fun q => !fs.isdir q) = (fun q => !fs'.isdir q) from funext fun q => by rw [h.isdir]]
  exact h.mkdirs _

theorem Same.makedirs (p : Path) : Agree (· = ·) Same (fs.makedirs p) (fs'.makedirs p) := by
  unfold FileSystem.makedirs
  rw [show (fun q => !fs.pathExists q) = (fun q => !fs'.pathExists q) from funext fun q => by rw [h.pathExists]]
  exact h.mkdirs _

theorem Same.copyTree (src dst : Path) : Agree (· = ·) Same (fs.copyTree src dst) (fs'.copyTree src dst) := by
  unfold FileSystem.copyTree
  rw [h.isdir]
  split
  · exact (h.mkpath dst).map fun _ _ h₁ => h₁.graft (fun r => h (src ++ r)) _
  · rfl

theorem Same.copytree (src dst : Path) : Agree (· = ·) Same (fs.copytree src dst) (fs'.copytree src dst) := by
  unfold FileSystem.copytree
  rw [h.isdir]
  split
  · rfl
  · exact (h.makedirs dst).map fun _ _ h₁ => h₁.graft (fun r => h (src ++ r)) _

end FileSystem

/-! ### The steps of the installation -/

/-- A step that fails with an `OSError` on file systems that name the same entries. -/
theorem Agree.os {α : Type} {R : α → α → Prop} {x y : Except Path α} {fs fs' : FileSystem}
    (h : Agree (· = ·) R x y) (hfs : Same fs fs') :
    Agree StopSame R (x.mapError (Stopped.os fs)) (y.mapError (Stopped.os fs')) :=
  h.mapError fun _ => ⟨rfl, hfs⟩

/-- A step that reads nothing of the file system and raises on file systems that name the same
entries. -/
theorem Agree.py {α : Type} {x : Except PyError α} {fs fs' : FileSystem} (hfs : Same fs fs') :
    Agree StopSame (· = ·) (x.mapError (Stopped.py fs)) (x.mapError (Stopped.py fs')) :=
  (Agree.of_eq (fun _ => rfl) fun _ => rfl).mapError fun _ => ⟨rfl, hfs⟩

section Steps

variable (triple : String) {d : Path} {api : ℤ} {windows : Bool} {fs fs' : FileSystem}

theorem makeClangScripts_agree (h : Same fs fs') :
    Agree StopSame Same (makeClangScripts d triple api windows fs) (makeClangScripts d triple api windows fs') := by
  unfold makeClangScripts
  refine (Agree.os (h.readText _) h).bind fun text _ htext => ?_
  subst htext
  refine (Agree.py h).bind fun ⟨major, minor, _⟩ _ hv => ?_
  subst hv
  refine (Agree.os (h.move _ _) h).bind fun fsa fsa' ha => ?_
  refine (Agree.os (ha.move _ _) ha).bind fun fsm fsm' hm => ?_
  refine (Agree.py hm).bind fun flags _ hf => ?_
  subst hf
  refine (Agree.os (hm.writeText _ _) hm).bind fun fs₁ fs₁' h₁ => ?_
  refine (Agree.os ((h₁.chmodX _).writeText _ _) (h₁.chmodX _)).bind fun fs₂ fs₂' h₂ => ?_
  refine (Agree.os ((h₂.chmodX _).copy2 _ _) (h₂.chmodX _)).bind fun fs₃ fs₃' h₃ => ?_
  refine (Agree.os (h₃.copy2 _ _) h₃).bind fun fs₄ fs₄' h₄ => ?_
  split
  · refine Agree.foldlM (fun _ _ _ hfs => ?_) _ h₄
    refine Agree.foldlM (fun _ _ _ hfs => ?_) _ hfs
    exact Agree.os (hfs.writeText _ _) hfs
  · exact h₄

theorem replaceGccWrappers_agree (h : Same fs fs') :
    Agree StopSame Same (replaceGccWrappers d triple windows fs) (replaceGccWrappers d triple windows fs') := by
  unfold replaceGccWrappers
  exact (Agree.os (h.copy2 _ _) h).bind fun _ _ h₁ => Agree.os (h₁.copy2 _ _) h₁

end Steps

variable (env : ToolchainEnv)

/-- **`create_toolchain` reads the file system only through its entries.** When its first copy
ends the same way on two file systems, with results that name the same entries, the whole of it
does: it stops the same way, or returns file systems that name the same entries. -/
theorem createToolchain_agree {p tc : Path} {arch hostTag : String} {api : ℤ} {fs fs' : FileSystem}
    (h₁ : Agree StopSame Same ((fs.copyTree tc p).mapError (Stopped.os fs))
      ((fs'.copyTree tc p).mapError (Stopped.os fs'))) :
    Agree StopSame Same (createToolchain env p arch api tc hostTag fs) (createToolchain env p arch api tc hostTag fs') := by
  unfold createToolchain
  refine h₁.bind fun fs₁ fs₁' h₁ => ?_
  refine (Agree.py h₁).bind fun triple _ ht => ?_
  subst ht
  refine (makeClangScripts_agree triple h₁).bind fun fs₂ fs₂' h₂ => ?_
  refine (replaceGccWrappers_agree triple h₂).bind fun fs₃ fs₃' h₃ => ?_
  refine (Agree.os (h₃.copyTree _ _) h₃).bind fun fs₄ fs₄' h₄ => ?_
  exact Agree.os (h₄.copytree _ _) h₄

/-! ### A second run -/

/-- **Installing again with `--force` changes nothing.** For an installation directory apart
from the NDK: after a run with `--force` that installs, the same run on what it left installs
too, and leaves every path with the entry the first run left. The first run may have made the
missing directories above the installation directory; the second finds them, removes the
installation, and copies the toolchain back to where the first had copied it. -/
theorem main_force_idempotent {args : ToolchainArgs} {p : Path} {fs fs' : FileSystem}
    (hp : args.installDir = some p) (hforce : args.force = true) (hndk : ¬p <+: env.ndkDir)
    (hin : ¬env.ndkDir <+: p) (h : main env args fs = .ok fs') :
    ∃ fs'', main env args fs' = .ok fs'' ∧ ∀ q, fs''.entry q = fs'.entry q := by
  have hne : p ≠ [] := by
    rintro rfl
    exact hndk List.nil_prefix
  have hout : ∀ c, ¬p <+: env.ndkDir ++ c := not_prefix_append_of_apart hndk hin
  have hout' : ∀ c, ¬env.ndkDir ++ c <+: p := fun c hc => hin ((List.prefix_append _ _).trans hc)
  have hr := exitReason_eq_none_of_ok env h
  obtain ⟨tag, C₁, hh, hw, hfresh, h⟩ := installDir_of_main_ok env hp h
  have ha : Apart p C₁ fs' := createToolchain_apart env h
  -- the second run passes the checks
  have hagree : ∀ c, fs'.pathExists (env.ndkDir ++ c) = fs.pathExists (env.ndkDir ++ c) := fun c => by
    rw [ha.pathExists (hout c) (hout' c), hw.apart.pathExists (hout c) (hout' c)]
  have hr' : exitReason env args fs' = none :=
    (exitReason_congr env hagree rfl (by simp [installDirReason, hp, hforce])).trans hr
  obtain ⟨tag', t', hh', -, hmain'⟩ := main_of_exitReason_none env hr'
  have htag : tag' = tag := by
    simpa [hh, hh', Except.toOption] using getHostTagOrDie_toOption env hagree
  -- the first run, after its first `mkpath`, changed nothing outside the installation
  obtain ⟨triple, G₁, fs₂, fs₃, fs₄, -, h₁, h₂, h₃, h₄, h₅⟩ := createToolchain_eq_ok env h
  obtain ⟨htc, M₁, hM₁, rfl⟩ := copyTree_eq_ok.1 h₁
  have hpM : M₁.ParentDir p := parentDir_mkpath hne hfresh (isdir_of_below List.nil_prefix htc) hM₁
  have hwM : Within p M₁ fs' := (within_graft List.prefix_rfl C₁ _).trans
    (afterCopy_within ((within_graft List.prefix_rfl C₁ _).parentDir hpM) h₂ h₃ h₄ h₅)
  -- the second run removes the installation and copies the toolchain as the first did
  have hdir : fs'.isdir p = true := isdir_of_entry (List.cons_ne_nil _ _) (entry_copytree_dst h₅)
  have haC : Apart p C₁ (fs'.removeTree p) := ha.trans (within_removeTree List.prefix_rfl).apart
  have hpC : (fs'.removeTree p).ParentDir p := (within_removeTree List.prefix_rfl).parentDir (hwM.parentDir hpM)
  have hM₂ : (fs'.removeTree p).mkpath p = .ok ((fs'.removeTree p).put p .dir) :=
    mkpath_of_parent hne (hpC.isdir _ (List.dropLast_prefix p) (dropLast_ne hne))
      (pathExists_removeTree_self p)
  have hM : Same M₁ ((fs'.removeTree p).put p .dir) := fun q => by
    by_cases hpq : p <+: q
    · by_cases hq : q = p
      · rw [hq, entry_mkpath hM₁, if_pos ⟨hne, List.prefix_rfl, isdir_eq_false hfresh⟩, entry_put, if_pos rfl]
      · have hqp : ¬q <+: p := fun h => hq (h.eq_of_length (le_antisymm h.length_le hpq.length_le))
        rw [entry_mkpath hM₁, if_neg fun h => hqp h.2.1, hfresh q hpq, entry_put, if_neg hq, entry_removeTree,
          if_pos hpq]
    · rw [entry_put, if_neg fun (h : q = p) => hpq (h ▸ List.prefix_rfl), entry_removeTree, if_neg hpq, hwM q hpq]
  have hG₂ : (fs'.removeTree p).copyTree (env.ndkDir ++ ["toolchain"]) p =
      .ok (((fs'.removeTree p).put p .dir).graft (fs'.removeTree p) (env.ndkDir ++ ["toolchain"]) p) :=
    copyTree_eq_ok.2 ⟨by rw [haC.isdir (hout _) (hout' _), htc], _, hM₂, rfl⟩
  have hfirst : Agree StopSame Same ((C₁.copyTree (env.ndkDir ++ ["toolchain"]) p).mapError (Stopped.os C₁))
      (((fs'.removeTree p).copyTree (env.ndkDir ++ ["toolchain"]) p).mapError (Stopped.os (fs'.removeTree p))) := by
    rw [h₁, hG₂]
    exact hM.graft (fun r => by rw [List.append_assoc, haC _ (hout _) (hout' _)]) p
  have hclean : (if fs'.pathExists p then fs'.rmtree p else .ok fs').mapError (Stopped.os fs') =
      .ok (fs'.removeTree p) := by
    rw [if_pos (pathExists_of_isdir hdir), rmtree_eq_ok.2 ⟨hdir, rfl⟩]
    rfl
  rw [hmain', hp, htag]
  simp only [hclean, except_ok_bind]
  obtain ⟨fs'', h'', hs⟩ := (createToolchain_agree env hfirst).eq_ok h
  exact ⟨fs'', h'', fun q => (hs q).symm⟩

/-- What `reinstallArgs` leaves on `linuxNdk`. -/
def reinstalledNdk : FileSystem := (main linuxHost reinstallArgs linuxNdk).toOption.getD linuxNdk

theorem main_force_idempotent_x86 :
    reinstallArgs.installDir = some ["", "opt", "tc"] ∧ reinstallArgs.force = true ∧
      ¬["", "opt", "tc"] <+: linuxHost.ndkDir ∧ ¬linuxHost.ndkDir <+: ["", "opt", "tc"] ∧
      main linuxHost reinstallArgs linuxNdk = .ok reinstalledNdk ∧
      ∃ fs'', main linuxHost reinstallArgs reinstalledNdk = .ok fs'' ∧
        ∀ q, fs''.entry q = reinstalledNdk.entry q :=
  have h : main linuxHost reinstallArgs linuxNdk = .ok reinstalledNdk := eq_ok_toOption_getD (by decide) _
  ⟨rfl, rfl, by decide, by decide, h, main_force_idempotent linuxHost rfl rfl (by decide) (by decide) h⟩

end Ndk
