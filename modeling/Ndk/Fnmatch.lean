import Ndk.Host

/-!
# `fnmatch`, as Python 2.7 computes it

`fnmatch.filter(names, pat)` compiles `translate(pat)` with `re` and keeps the names the
expression matches whole, after `os.path.normcase` on the pattern and on each name.
`translate` writes four forms: `.*` for `*`, `.` for `?`, a class for a closed `[...]`
(negated by a leading `!`) and an escaped literal for any other character, an unclosed `[`
included. `compile` reads a pattern into those forms, with `re`'s error for a reversed
range, and `matchTokens` gives them their meaning by backtracking, as `re` does.

* `compile_plain`: a pattern with no `*` and no `[` compiles to literals and wildcards.
* `matchTokens_plain`: it then matches exactly the names of its length that agree with it
  wherever it has no `?`.
* `filter_plain`: `fnmatch.filter` with such a pattern, on either host.
-/

namespace Ndk.Fnmatch

/-- One item of a character class: a character or a range. -/
inductive ClassItem
  | char (c : Char)
  | range (lo hi : Char)
  deriving DecidableEq, Repr

/-- The parts of the expression `translate` writes. -/
inductive Token
  | star
  | any
  | lit (c : Char)
  | set (negate : Bool) (items : List ClassItem)
  deriving DecidableEq, Repr

/-- The characters a class item stands for. -/
def ClassItem.accepts (c : Char) : ClassItem → Bool
  | char d => c = d
  | range lo hi => lo ≤ c && c ≤ hi

/-- The characters a token that is not `.*` matches. -/
def Token.accepts : Token → Char → Bool
  | star, _ => true
  | any, _ => true
  | lit d, c => c = d
  | set negate items, c => items.any (ClassItem.accepts c) != negate

/-- The items of a class, as `sre_parse` reads the text `translate` copies between the
brackets: `a-b` is a range, and an error when `b < a`; a `-` before the closing bracket is
a character. -/
def classItems : List Char → Except PyError (List ClassItem)
  | [] => .ok []
  | [c, '-'] => .ok [.char c, .char '-']
  | c :: '-' :: d :: rest =>
    if d < c then .error (.reError "bad character range")
    else (ClassItem.range c d :: ·) <$> classItems rest
  | c :: rest => (ClassItem.char c :: ·) <$> classItems rest

/-- Where `translate` closes a class opened by `[`: after a leading `!` and then a leading
`]`, at the next `]`. The text between the brackets and the rest of the pattern. -/
def classEnd (rest : List Char) : Option (List Char × List Char) :=
  let (pre, r) : List Char × List Char :=
    match rest with
    | '!' :: ']' :: r => (['!', ']'], r)
    | '!' :: r => (['!'], r)
    | ']' :: r => ([']'], r)
    | r => ([], r)
  match r.span (· ≠ ']') with
  | (body, _ :: after) => some (pre ++ body, after)
  | (_, []) => none

/-- `re.compile(fnmatch.translate(pat))`, read as tokens; every step consumes a character,
so `fuel` above the pattern's length is enough. -/
def compileAux : ℕ → List Char → Except PyError (List Token)
  | 0, _ => .ok []
  | _ + 1, [] => .ok []
  | n + 1, '*' :: rest => (Token.star :: ·) <$> compileAux n rest
  | n + 1, '?' :: rest => (Token.any :: ·) <$> compileAux n rest
  | n + 1, '[' :: rest =>
    match classEnd rest with
    | none => (Token.lit '[' :: ·) <$> compileAux n rest
    | some (stuff, after) => do
      let (negate, body) : Bool × List Char :=
        match stuff with
        | '!' :: b => (true, b)
        | b => (false, b)
      let items ← classItems body
      (Token.set negate items :: ·) <$> compileAux n after
  | n + 1, c :: rest => (Token.lit c :: ·) <$> compileAux n rest

/-- `re.compile(fnmatch.translate(pat))`. -/
def compile (pat : List Char) : Except PyError (List Token) := compileAux (pat.length + 1) pat

/-- Whether the expression matches the whole of `s`: `.*` tries every split. -/
def matchTokens : List Token → List Char → Bool
  | [], s => s.isEmpty
  | .star :: ts, s => s.tails.any (matchTokens ts ·)
  | _ :: _, [] => false
  | t :: ts, c :: s => t.accepts c && matchTokens ts s

/-- `fnmatch.filter(names, pat)` on a host. -/
def filter (host : Host) (names : List String) (pat : String) : Except PyError (List String) := do
  let toks ← compile (host.normcase pat).data
  pure (names.filter fun name => matchTokens toks (host.normcase name).data)

example : filter .posix ["a.c", "b.c", "a.h"] "[!b]*.c" = .ok ["a.c"] := by decide
example : filter .posix ["a"] "[z-a]" = .error (.reError "bad character range") := by decide
example : filter .nt ["Std/A.cpp"] "std\\a?cpp" = .ok ["Std/A.cpp"] := by decide

/-! ### Patterns with no `*` and no `[` -/

/-- The token of a character of a pattern with no `*` and no `[`. -/
def plainToken (c : Char) : Token := if c = '?' then .any else .lit c

theorem compileAux_plain : ∀ {n : ℕ} {p : List Char}, p.length < n → '*' ∉ p → '[' ∉ p →
    compileAux n p = .ok (p.map plainToken)
  | 0, _, h, _, _ => absurd h (Nat.not_lt_zero _)
  | n + 1, [], _, _, _ => rfl
  | n + 1, c :: p, h, hs, hb => by
    have ih : compileAux n p = .ok (p.map plainToken) := compileAux_plain (by simp at h; omega)
      (fun hm => hs (List.mem_cons_of_mem _ hm)) (fun hm => hb (List.mem_cons_of_mem _ hm))
    have hcs : c ≠ '*' := fun e => hs (e ▸ List.mem_cons_self _ _)
    have hcb : c ≠ '[' := fun e => hb (e ▸ List.mem_cons_self _ _)
    by_cases hq : c = '?'
    · subst hq; simp [compileAux, ih, plainToken]
    · rw [compileAux.eq_def]
      split <;> simp_all [plainToken]

theorem compile_plain {p : List Char} (hs : '*' ∉ p) (hb : '[' ∉ p) :
    compile p = .ok (p.map plainToken) :=
  compileAux_plain (Nat.lt_succ_self _) hs hb

/-- A pattern character and a name character agree: a `?` takes any character. -/
def Agrees (pc sc : Char) : Prop := pc = '?' ∨ sc = pc

instance : DecidableRel Agrees := fun _ _ => inferInstanceAs (Decidable (_ ∨ _))

theorem plainToken_accepts (c d : Char) : (plainToken c).accepts d = decide (Agrees c d) := by
  by_cases hc : c = '?' <;> simp [plainToken, Token.accepts, Agrees, hc]

/-- A plain token is never `.*`: it takes one character. -/
theorem matchTokens_plainToken (c : Char) (ts : List Token) :
    matchTokens (plainToken c :: ts) [] = false ∧
      ∀ d s, matchTokens (plainToken c :: ts) (d :: s) = ((plainToken c).accepts d && matchTokens ts s) := by
  unfold plainToken; split <;> exact ⟨rfl, fun _ _ => rfl⟩

theorem matchTokens_plain :
    ∀ {p s : List Char}, matchTokens (p.map plainToken) s ↔ List.Forall₂ Agrees p s
  | [], s => by cases s <;> simp [matchTokens]
  | c :: p, [] => by simp [(matchTokens_plainToken c _).1]
  | c :: p, d :: s => by
    rw [List.map_cons, (matchTokens_plainToken c _).2, List.forall₂_cons, ← matchTokens_plain,
      plainToken_accepts]
    simp

/-- **`fnmatch.filter` with a pattern with no `*` and no `[`** keeps the names that agree with
the pattern, character by character after `normcase`, when `normcase` adds no `*` or `[`. -/
theorem filter_plain (host : Host) (names : List String) (pat : String)
    (hs : '*' ∉ (host.normcase pat).data) (hb : '[' ∉ (host.normcase pat).data) :
    filter host names pat = .ok (names.filter fun name =>
      decide (List.Forall₂ Agrees (host.normcase pat).data (host.normcase name).data)) := by
  simp only [filter, compile_plain hs hb, except_ok_bind, except_pure, Except.ok.injEq]
  congr; funext name
  rw [Bool.eq_iff_iff, decide_eq_true_iff]; exact matchTokens_plain

end Ndk.Fnmatch
