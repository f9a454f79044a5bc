import Mathlib.Data.List.Nodup

/-!
# The Python built-ins the modelled code calls

Exceptions are the error side of `Except`. A `dict` keeps its items in insertion order and
carries the distinctness of its keys as a field, so a `Dict` with a repeated key cannot be
built.
-/

namespace Ndk

section Except

universe u v

variable {ε : Type u} {α β : Type v}

@[simp] theorem except_pure (a : α) : (pure a : Except ε α) = .ok a := rfl

@[simp] theorem except_ok_bind (a : α) (f : α → Except ε β) : (Except.ok a >>= f) = f a := rfl

@[simp] theorem except_error_bind (e : ε) (f : α → Except ε β) :
    (Except.error e >>= f) = .error e := rfl

theorem except_bind_eq_ok {x : Except ε α} {f : α → Except ε β} {b : β} :
    x >>= f = .ok b ↔ ∃ a, x = .ok a ∧ f a = .ok b := by
  cases x <;> simp

theorem toOption_eq_some {x : Except ε α} {a : α} : x.toOption = some a ↔ x = .ok a := by
  cases x <;> simp [Except.toOption]

/-- A computation that succeeds gives its value. -/
theorem eq_ok_toOption_getD {x : Except ε α} (h : x.toBool = true) (d : α) : x = .ok (x.toOption.getD d) := by
  cases x <;> simp_all [Except.toBool, Except.toOption]

instance exceptDecidableEq [DecidableEq ε] [DecidableEq α] : DecidableEq (Except ε α)
  | .ok a, .ok b => decidable_of_iff (a = b) (by simp)
  | .error a, .error b => decidable_of_iff (a = b) (by simp)
  | .ok _, .error _ => isFalse (by simp)
  | .error _, .ok _ => isFalse (by simp)

end Except

section Fold

variable {α β ε : Type*} {f : β → α → Except ε β}

theorem map_eq_ok {x : Except ε α} {h : α → β} {b : β} :
    x.map h = .ok b ↔ ∃ a, x = .ok a ∧ h a = b := by
  cases x <;> simp [Except.map]

theorem map_eq_error {x : Except ε α} {h : α → β} {e : ε} : x.map h = .error e ↔ x = .error e := by
  cases x <;> simp [Except.map]

@[simp] theorem mapError_eq_ok {ε' : Type*} {x : Except ε α} {g : ε → ε'} {a : α} :
    x.mapError g = .ok a ↔ x = .ok a := by
  cases x <;> simp [Except.mapError]

/-- A fold in `Except` that succeeds keeps every property its successful steps keep, and
ends in a state where `Q x` holds of each element, when the step at `x` establishes `Q x`
and later steps keep it. -/
theorem foldlM_ok_forall (P : β → Prop) (Q : α → β → Prop)
    (step : ∀ b x b', P b → f b x = .ok b' → P b' ∧ Q x b')
    (keep : ∀ b x b' y, P b → Q y b → f b x = .ok b' → Q y b') :
    ∀ {l : List α} {b b' : β}, P b → l.foldlM f b = .ok b' → P b' ∧ ∀ x ∈ l, Q x b'
  | [], b, b', hb, h => by cases h; exact ⟨hb, by simp⟩
  | x :: l, b, b', hb, h => by
    cases hx : f b x with
    | error e => simp [hx] at h
    | ok c =>
      simp only [List.foldlM_cons, hx] at h
      have hc := step b x c hb hx
      have ih : P b' ∧ ∀ y ∈ l, Q y b' := foldlM_ok_forall P Q step keep hc.1 h
      refine ⟨ih.1, fun y hy => ?_⟩
      rcases List.mem_cons.1 hy with rfl | hy
      · exact (foldlM_ok_forall (fun b => P b ∧ Q y b) Q
          (fun b z b' hb hz => ⟨⟨(step b z b' hb.1 hz).1, keep b z b' y hb.1 hb.2 hz⟩,
            (step b z b' hb.1 hz).2⟩)
          (fun b z b' w hb hw hz => keep b z b' w hb.1 hw hz) hc h).1.2
      · exact ih.2 y hy

/-- A fold keeps every property its steps keep. -/
theorem foldl_of_step {g : β → α → β} (P : β → Prop) :
    ∀ {l : List α} {b : β}, (∀ b, ∀ x ∈ l, P b → P (g b x)) → P b → P (l.foldl g b)
  | [], _, _, hb => hb
  | x :: l, b, step, hb => by
    rw [List.foldl_cons]
    exact foldl_of_step P (fun b y hy => step b y (List.mem_cons_of_mem _ hy))
      (step b x (List.mem_cons_self _ _) hb)

/-- A fold in `Except` that succeeds keeps every property its successful steps keep. -/
theorem foldlM_ok_of_step (P : β → Prop) :
    ∀ {l : List α} {b b' : β}, (∀ b, ∀ x ∈ l, ∀ b', P b → f b x = .ok b' → P b') → P b →
      l.foldlM f b = .ok b' → P b'
  | [], b, b', _, hb, h => by cases h; exact hb
  | x :: l, b, b', step, hb, h => by
    cases hx : f b x with
    | error e => simp [hx] at h
    | ok c =>
      simp only [List.foldlM_cons, hx] at h
      exact foldlM_ok_of_step P (fun b y hy => step b y (List.mem_cons_of_mem _ hy))
        (step b x (List.mem_cons_self _ _) c hb hx) h

/-- Two folds in `Except` agree when the first does not raise `e₀` and each of its steps that
does not raise `e₀` gives the same as the second's. -/
theorem foldlM_eq_of_ne_error {f' : β → α → Except ε β} {e₀ : ε}
    (hf : ∀ b x, f b x ≠ .error e₀ → f' b x = f b x) :
    ∀ {l : List α} {b : β}, l.foldlM f b ≠ .error e₀ → l.foldlM f' b = l.foldlM f b
  | [], _, _ => rfl
  | x :: l, b, h => by
    simp only [List.foldlM_cons] at h ⊢
    cases hx : f b x with
    | error e =>
      have he : f b x ≠ .error e₀ := by rw [hx] at h ⊢; exact h
      rw [hf b x he, hx]
      rfl
    | ok c =>
      rw [hx] at h
      rw [hf b x (by rw [hx]; exact fun h => nomatch h), hx]
      exact foldlM_eq_of_ne_error hf h

/-- A fold in `Except` that fails, fails at some step, from a state reached by the
successful steps before it. -/
theorem foldlM_error_of_step (P : β → Prop) (step : ∀ b x b', P b → f b x = .ok b' → P b') :
    ∀ {l : List α} {b : β} {e : ε}, P b → l.foldlM f b = .error e →
      ∃ b' x, x ∈ l ∧ P b' ∧ f b' x = .error e
  | [], b, e, hb, h => by cases h
  | x :: l, b, e, hb, h => by
    cases hx : f b x with
    | error e' => simp [hx] at h; cases h; exact ⟨b, x, by simp, hb, hx⟩
    | ok c =>
      simp only [List.foldlM_cons, hx] at h
      obtain ⟨b', y, hy, hb', hf⟩ := foldlM_error_of_step P step (step b x c hb hx) h
      exact ⟨b', y, List.mem_cons_of_mem x hy, hb', hf⟩

end Fold

/-- The exceptions the modelled code raises, with their messages. -/
inductive PyError
  | keyError
  | indexError
  | valueError (message : String)
  | runtimeError (message : String)
  | reError (message : String)
  | taskError
  deriving DecidableEq, Repr

/-- `l[i]`: `IndexError` past the end. -/
def getItem {α : Type*} (l : List α) (i : ℕ) : Except PyError α :=
  match l.get? i with
  | some a => .ok a
  | none => .error .indexError

/-- `a, b = l`: the unpacking of a two-element sequence. -/
def unpack2 {α : Type*} : List α → Except PyError (α × α)
  | [a, b] => .ok (a, b)
  | [] => .error (.valueError "need more than 0 values to unpack")
  | [_] => .error (.valueError "need more than 1 value to unpack")
  | _ => .error (.valueError "too many values to unpack")

/-- `a, b, c = l`: the unpacking of a three-element sequence. -/
def unpack3 {α : Type*} : List α → Except PyError (α × α × α)
  | [a, b, c] => .ok (a, b, c)
  | [] => .error (.valueError "need more than 0 values to unpack")
  | [_] => .error (.valueError "need more than 1 value to unpack")
  | [_, _] => .error (.valueError "need more than 2 values to unpack")
  | _ => .error (.valueError "too many values to unpack")

theorem unpack3_eq_ok {α : Type*} {l : List α} {a b c : α} : unpack3 l = .ok (a, b, c) ↔ l = [a, b, c] := by
  match l with
  | [] | [_] | [_, _] | _ :: _ :: _ :: _ :: _ => simp [unpack3]
  | [_, _, _] => simp [unpack3]

/-! ### `str` methods, on the characters of a string -/

namespace Str

/-- `s.startswith(pre)`. -/
def startswith (s pre : String) : Bool := pre.data.isPrefixOf s.data

/-- `s.endswith(suf)`. -/
def endswith (s suf : String) : Bool := suf.data.isSuffixOf s.data

/-- `s.lower()` on a byte string: the ASCII letters. -/
def lower (s : String) : String := ⟨s.data.map Char.toLower⟩

/-- The whitespace `str.strip()` removes. -/
def isSpace (c : Char) : Bool :=
  c = ' ' || c = '\t' || c = '\n' || c = '\r' || c = '\x0b' || c = '\x0c'

/-- `s.strip()`. -/
def strip (s : String) : String :=
  ⟨((s.data.dropWhile isSpace).reverse.dropWhile isSpace).reverse⟩

/-- `s[n:]`. -/
def dropFront (s : String) (n : ℕ) : String := ⟨s.data.drop n⟩

/-- `s[:-n]`. -/
def dropBack (s : String) (n : ℕ) : String := ⟨s.data.take (s.data.length - n)⟩

/-- `sep.join(l)`. -/
def join (sep : String) (l : List String) : String := ⟨sep.data.intercalate (l.map String.data)⟩

theorem join_pair (sep a b : String) : join sep [a, b] = a ++ sep ++ b := by
  simp [join, List.intercalate, List.intersperse, String.ext_iff]

/-- `'{: >{width}}'.format(s)`: `s` right-aligned in `width` columns. -/
def rjust (width : ℕ) (s : String) : String := ⟨List.replicate (width - s.length) ' ' ++ s.data⟩

/-- The text before the first occurrence of `sep`, and the text after it. -/
def splitFirst (sep : List Char) : List Char → Option (List Char × List Char)
  | [] => none
  | c :: cs =>
    if sep.isPrefixOf (c :: cs) then some ([], (c :: cs).drop sep.length)
    else (splitFirst sep cs).map fun p => (c :: p.1, p.2)

/-- Split at every occurrence of a non-empty `sep`, left to right; `fuel` bounds the number
of pieces. -/
def splitAux (sep : List Char) : ℕ → List Char → List (List Char)
  | 0, s => [s]
  | fuel + 1, s =>
    match splitFirst sep s with
    | none => [s]
    | some (b, a) => b :: splitAux sep fuel a

/-- `s.split(sep)` for a non-empty separator. -/
def split (s sep : String) : List String :=
  (splitAux sep.data (s.length + 1) s.data).map String.mk

/-- `s.replace(old, new)` for one-character `old` and `new`. -/
def replace (s : String) (old new : Char) : String := ⟨s.data.map fun c => if c = old then new else c⟩

/-! Each method on a string written as the concatenation of its parts. -/

section Parts

variable {sep : List Char}

theorem splitFirst_eq_none (hsep : sep ≠ []) :
    ∀ {l : List Char}, (∀ c ∈ l, sep.head? ≠ some c) → splitFirst sep l = none
  | [], _ => rfl
  | c :: l, h => by
    have ih := splitFirst_eq_none hsep fun c' hc' => h c' (List.mem_cons_of_mem _ hc')
    obtain ⟨s, ss, rfl⟩ := List.exists_cons_of_ne_nil hsep
    have hc : s ≠ c := fun e => h c (List.mem_cons_self _ _) (by simp [e])
    simp [splitFirst, hc, ih]

theorem splitFirst_append (hsep : sep ≠ []) (b : List Char) :
    ∀ {a : List Char}, (∀ c ∈ a, sep.head? ≠ some c) → splitFirst sep (a ++ sep ++ b) = some (a, b)
  | [], _ => by
    obtain ⟨s, ss, rfl⟩ := List.exists_cons_of_ne_nil hsep
    simp [splitFirst]
  | c :: a, h => by
    have ih := splitFirst_append hsep b fun c' hc' => h c' (List.mem_cons_of_mem _ hc')
    obtain ⟨s, ss, rfl⟩ := List.exists_cons_of_ne_nil hsep
    have hc : s ≠ c := fun e => h c (List.mem_cons_self _ _) (by simp [e])
    simp only [List.append_assoc, List.cons_append] at ih ⊢
    simp [splitFirst, hc, ih]

theorem splitAux_of_none {n : ℕ} {l : List Char} (h : splitFirst sep l = none) :
    splitAux sep n l = [l] := by
  cases n <;> simp [splitAux, h]

/-- One occurrence of the separator splits the string in two. -/
theorem split_eq_pair {a b : List Char} (hsep : sep ≠ []) (ha : ∀ c ∈ a, sep.head? ≠ some c)
    (hb : ∀ c ∈ b, sep.head? ≠ some c) : split ⟨a ++ sep ++ b⟩ ⟨sep⟩ = [⟨a⟩, ⟨b⟩] := by
  have hlen : (a ++ sep ++ b).length = (a ++ sep ++ b).length - 1 + 1 := by
    have := List.length_pos.2 hsep
    simp only [List.length_append]; omega
  rw [split, String.length_mk, hlen, splitAux, splitFirst_append hsep b ha]
  simp [splitAux_of_none (splitFirst_eq_none hsep hb)]

end Parts

theorem dropWhile_eq_self {p : Char → Bool} {l : List Char} (h : ∀ c ∈ l.head?, p c = false) :
    l.dropWhile p = l := by
  cases l with
  | nil => rfl
  | cons c l => exact List.dropWhile_cons_of_neg (by simpa using h)

/-- `strip` removes surrounding whitespace down to a text that starts and ends with none. -/
theorem strip_eq {pre s post : List Char} (hpre : ∀ c ∈ pre, isSpace c)
    (hpost : ∀ c ∈ post, isSpace c) (hs : s ≠ []) (hh : ∀ c ∈ s.head?, isSpace c = false)
    (hl : ∀ c ∈ s.getLast?, isSpace c = false) : strip ⟨pre ++ s ++ post⟩ = ⟨s⟩ := by
  obtain ⟨x, xs, rfl⟩ := List.exists_cons_of_ne_nil hs
  have h₁ : (pre ++ (x :: xs) ++ post).dropWhile isSpace = x :: xs ++ post := by
    rw [List.append_assoc, List.dropWhile_append_of_pos hpre, dropWhile_eq_self (by simpa using hh)]
  have h₂ : (x :: xs ++ post).reverse.dropWhile isSpace = (x :: xs).reverse := by
    rw [List.reverse_append, List.dropWhile_append_of_pos (by simpa using hpost),
      dropWhile_eq_self (by rw [List.head?_reverse]; exact hl)]
  simp only [strip, h₁, h₂, List.reverse_reverse]

theorem isSpace_of_isDigit {c : Char} (h : c.isDigit) : isSpace c = false := by
  simp only [isSpace, Bool.or_eq_false_iff, decide_eq_false_iff_not]
  refine ⟨⟨⟨⟨⟨?_, ?_⟩, ?_⟩, ?_⟩, ?_⟩, ?_⟩ <;> rintro rfl <;> revert h <;> decide

end Str

/-- One byte of a Python 2 `str` as `repr` writes it, quoted with `quote`. -/
def reprByte (quote : Char) (b : ℕ) : List Char :=
  let hex := "0123456789abcdef".data
  if b = quote.toNat ∨ b = '\\'.toNat then ['\\', Char.ofNat b]
  else if b = '\t'.toNat then ['\\', 't']
  else if b = '\n'.toNat then ['\\', 'n']
  else if b = '\r'.toNat then ['\\', 'r']
  else if b < 0x20 ∨ 0x7f ≤ b then ['\\', 'x', hex.getD (b / 16) '0', hex.getD (b % 16) '0']
  else [Char.ofNat b]

/-- `repr(s)` of a Python 2 `str` holding the UTF-8 bytes of `s`: single quotes unless `s`
holds a `'` and no `"`. -/
def reprStr (s : String) : String :=
  let quote := if '\'' ∈ s.data ∧ '"' ∉ s.data then '"' else '\''
  ⟨quote :: (s.data.flatMap String.utf8EncodeChar).flatMap (reprByte quote ·.toNat) ++ [quote]⟩

/-- `str(l)` of a list of `str`. -/
def reprList (l : List String) : String := "[" ++ Str.join ", " (l.map reprStr) ++ "]"

/-- The value of a string of ASCII digits, read in base 10. -/
def decimalValue (l : List Char) : ℕ := l.foldl (fun n c => n * 10 + (c.toNat - '0'.toNat)) 0

/-- The sign `int` reads off the front of its stripped argument, and the text after it. -/
def signDigits : List Char → ℤ × List Char
  | '-' :: d => (-1, d)
  | '+' :: d => (1, d)
  | d => (1, d)

theorem signDigits_of_isDigit {c : Char} (d : List Char) (h : c.isDigit) :
    signDigits (c :: d) = (1, c :: d) := by
  unfold signDigits
  split
  · next h' => cases h'; exact absurd h (by decide)
  · next h' => cases h'; exact absurd h (by decide)
  · rfl

/-- Python's `a < b` on lists of `int`s: the first place where they differ decides, and a
proper prefix is smaller. -/
def listLt : List ℤ → List ℤ → Bool
  | [], [] => false
  | [], _ :: _ => true
  | _ :: _, [] => false
  | a :: as, b :: bs => if a < b then true else if b < a then false else listLt as bs

/-- `int(s)` on a `str`, in base 10: surrounding whitespace, an optional sign, digits. -/
def int (s : String) : Except PyError ℤ :=
  let (sign, digits) := signDigits (Str.strip s).data
  if digits ≠ [] ∧ digits.all Char.isDigit then .ok (sign * decimalValue digits)
  else .error (.valueError ("invalid literal for int() with base 10: '" ++ s ++ "'"))

/-- `int` of a non-empty string of digits is its decimal value. -/
theorem int_digits {N : List Char} (hN : N ≠ []) (hd : ∀ c ∈ N, c.isDigit) :
    int ⟨N⟩ = .ok (decimalValue N) := by
  have hs : Str.strip ⟨N⟩ = ⟨N⟩ := by
    simpa using @Str.strip_eq [] N [] (by simp) (by simp) hN
      (fun c hc => Str.isSpace_of_isDigit (hd c (List.mem_of_mem_head? hc)))
      (fun c hc => Str.isSpace_of_isDigit (hd c (List.mem_of_mem_getLast? hc)))
  obtain ⟨c, d, rfl⟩ := List.exists_cons_of_ne_nil hN
  simp only [int, hs, signDigits_of_isDigit d (hd c (List.mem_cons_self _ _))]
  simp [List.all_eq_true.2 hd]

/-- A Python `dict`: its items in iteration order, the keys pairwise distinct. -/
structure Dict (K V : Type*) where
  items : List (K × V)
  nodup_keys : (items.map Prod.fst).Nodup

namespace Dict

variable {K V : Type*}

/-- `d.keys()`. -/
def keys (d : Dict K V) : List K := d.items.map Prod.fst

/-- `{}`. -/
def empty : Dict K V := ⟨[], List.nodup_nil⟩

theorem mem_keys {d : Dict K V} {k : K} : k ∈ d.keys ↔ ∃ v, (k, v) ∈ d.items := by
  simp [keys]

variable [DecidableEq K]

/-- `d[k]`: `KeyError` for a missing key. -/
def getItem (d : Dict K V) (k : K) : Except PyError V :=
  match d.items.lookup k with
  | some v => .ok v
  | none => .error .keyError

/-- `d[k] = v`: an existing key keeps its place, a new key goes last. -/
def setItem (d : Dict K V) (k : K) (v : V) : Dict K V :=
  if h : k ∈ d.keys then
    ⟨d.items.map fun p => if p.1 = k then (k, v) else p, by
      convert d.nodup_keys using 1
      rw [List.map_map]; congr 1; funext p; by_cases h : p.1 = k <;> simp [h]⟩
  else
    ⟨d.items ++ [(k, v)], by
      rw [List.map_append, List.nodup_append]
      exact ⟨d.nodup_keys, List.nodup_singleton _, by simpa [keys] using h⟩⟩

/-- `{k: v for k in keys}`. -/
def fromKeys (keys : List K) (v : V) : Dict K V := keys.foldl (fun d k => d.setItem k v) empty

theorem lookup_eq_some {k : K} {v : V} :
    ∀ {l : List (K × V)}, (l.map Prod.fst).Nodup → (l.lookup k = some v ↔ (k, v) ∈ l)
  | [], _ => by simp
  | (a, b) :: l, hnd => by
    simp only [List.map_cons, List.nodup_cons, List.mem_map] at hnd
    by_cases h : k = a
    · subst h
      simp only [List.lookup_cons, beq_self_eq_true, Option.some.injEq, List.mem_cons,
        Prod.mk.injEq, true_and]
      exact ⟨fun h => .inl h.symm, fun h => h.elim Eq.symm
        fun h => absurd ⟨(k, v), h, rfl⟩ hnd.1⟩
    · simp [List.lookup_cons, beq_false_of_ne h, lookup_eq_some hnd.2, h]

theorem getItem_eq_ok {d : Dict K V} {k : K} {v : V} : d.getItem k = .ok v ↔ (k, v) ∈ d.items := by
  rw [← lookup_eq_some d.nodup_keys]; unfold getItem
  cases d.items.lookup k <;> simp

theorem getItem_of_not_mem {d : Dict K V} {k : K} (h : k ∉ d.keys) : d.getItem k = .error .keyError := by
  cases hk : d.getItem k with
  | error e => unfold getItem at hk; split at hk <;> simp_all
  | ok v => exact absurd (mem_keys.2 ⟨v, getItem_eq_ok.1 hk⟩) h

theorem mem_setItem_of_ne {d : Dict K V} {k k' : K} {v w : V} (hk : k' ≠ k) :
    (k', w) ∈ (d.setItem k v).items ↔ (k', w) ∈ d.items := by
  unfold setItem
  split_ifs
  · simp only [List.mem_map]
    constructor
    · rintro ⟨p, hp, he⟩
      by_cases hp1 : p.1 = k
      · simp [hp1] at he; exact absurd he.1.symm hk
      · simp [hp1] at he; exact he ▸ hp
    · intro h; exact ⟨(k', w), h, by simp [hk]⟩
  · simp [hk]

theorem keys_setItem_of_mem {d : Dict K V} {k : K} {v : V} (h : k ∈ d.keys) :
    (d.setItem k v).keys = d.keys := by
  rw [setItem, dif_pos h]
  simp only [keys, List.map_map]
  congr 1; funext p; by_cases hp : p.1 = k <;> simp [hp]

theorem getItem_setItem {d : Dict K V} {k k' : K} {v : V} :
    (d.setItem k v).getItem k' = if k' = k then .ok v else d.getItem k' := by
  split_ifs with hk
  · subst hk
    rw [getItem_eq_ok]
    unfold setItem
    split_ifs with h
    · obtain ⟨w, hw⟩ := mem_keys.1 h
      exact List.mem_map.2 ⟨(k', w), hw, by simp⟩
    · simp
  · cases hd : d.getItem k' with
    | ok w => exact getItem_eq_ok.2 ((mem_setItem_of_ne hk).2 (getItem_eq_ok.1 hd))
    | error e =>
      have hn : k' ∉ d.keys := fun hm => by
        obtain ⟨w, hw⟩ := mem_keys.1 hm; rw [getItem_eq_ok.2 hw] at hd; cases hd
      have hn' : k' ∉ (d.setItem k v).keys := fun hm => by
        obtain ⟨w, hw⟩ := mem_keys.1 hm; exact hn (mem_keys.2 ⟨w, (mem_setItem_of_ne hk).1 hw⟩)
      rw [getItem_of_not_mem hn'] at *; rw [getItem_of_not_mem hn] at hd; exact hd

theorem mem_setItem {d : Dict K V} {k k' : K} {v w : V} :
    (k', w) ∈ (d.setItem k v).items ↔ k' = k ∧ w = v ∨ k' ≠ k ∧ (k', w) ∈ d.items := by
  by_cases h : k' = k
  · subst h
    rw [← getItem_eq_ok, getItem_setItem, if_pos rfl]
    simp [eq_comm]
  · simp [h, mem_setItem_of_ne h]

theorem mem_keys_setItem {d : Dict K V} {k k' : K} {v : V} :
    k' ∈ (d.setItem k v).keys ↔ k' = k ∨ k' ∈ d.keys := by
  simp only [mem_keys, mem_setItem]
  by_cases h : k' = k <;> simp [h]

theorem getItem_foldl_setItem (v : V) (k : K) : ∀ (ks : List K) (d : Dict K V),
    (ks.foldl (fun d k => d.setItem k v) d).getItem k = if k ∈ ks then .ok v else d.getItem k
  | [], d => by simp
  | k' :: ks, d => by
    rw [List.foldl_cons, getItem_foldl_setItem v k ks, getItem_setItem]
    by_cases h : k ∈ ks <;> by_cases h' : k = k' <;> simp [h, h']

theorem getItem_fromKeys {ks : List K} {v : V} {k : K} :
    (fromKeys ks v).getItem k = if k ∈ ks then .ok v else .error .keyError := by
  rw [fromKeys, getItem_foldl_setItem]; rfl

end Dict

end Ndk
