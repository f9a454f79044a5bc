import Ndk.Python

/-!
# The API level of an ndk-build test

`_get_or_infer_app_platform` takes the user's level, else `APP_PLATFORM` from
`jni/Application.mk` raised to the ABI's minimum, else the minimum. The file is read by
looking for the first line that *starts with* `APP_PLATFORM`.

* `platformFromApplicationMk_assignment`: an `APP_PLATFORM := android-N` line gives `N`.
* `getOrInferAppPlatform_eq_max`: when that line is the first to start with `APP_PLATFORM`,
  the level is `max N (min_api_for_abi abi)`.
* `getOrInferAppPlatform_ge_min`: whatever the file holds, the level is at least the ABI's
  minimum, and the only error is a `ValueError` raised on a line that starts with
  `APP_PLATFORM`.
* `getOrInferAppPlatform_platforms_line`: a line assigning another variable whose name starts
  with `APP_PLATFORM` is read in its place.
-/

namespace Ndk

/-- `_platform_from_application_mk(test_dir)`, over the lines of `jni/Application.mk`
(`none` when the file does not exist). -/
def platformFromApplicationMk : Option (List String) → Except PyError (Option ℤ)
  | none => .ok none
  | some lines =>
    match lines.find? (Str.startswith · "APP_PLATFORM") with
    | none => .ok none
    | some line => do
      let (_, platformStr) ← unpack2 (Str.split line ":=")
      let platformStr := Str.strip platformStr
      if !Str.startswith platformStr "android-" then throw (.valueError platformStr)
      let (_, apiLevelStr) ← unpack2 (Str.split platformStr "-")
      some <$> int apiLevelStr

/-- `_get_or_infer_app_platform(platform_from_user, test_dir, abi)`; `min_api_for_abi`, from
`ndk.abis` and not part of the sources, is a parameter. -/
def getOrInferAppPlatform (minApiForAbi : String → ℤ) (platformFromUser : Option ℤ)
    (applicationMk : Option (List String)) (abi : String) : Except PyError ℤ :=
  match platformFromUser with
  | some p => .ok p
  | none => do
    let minimumVersion := minApiForAbi abi
    let platformFromApplicationMk ← platformFromApplicationMk applicationMk
    match platformFromApplicationMk with
    | some p => if p ≥ minimumVersion then return p else return minimumVersion
    | none => return minimumVersion

/-- The first line that starts with `APP_PLATFORM` decides what the file says. -/
theorem platformFromApplicationMk_append (pre : List String) (line : String) (post : List String)
    (hpre : ∀ l ∈ pre, Str.startswith l "APP_PLATFORM" = false)
    (hline : Str.startswith line "APP_PLATFORM") :
    platformFromApplicationMk (some (pre ++ line :: post)) =
      platformFromApplicationMk (some [line]) := by
  have hnone : pre.find? (Str.startswith · "APP_PLATFORM") = none :=
    List.find?_eq_none.2 fun l hl => by simp [hpre l hl]
  simp [platformFromApplicationMk, List.find?_append, hnone, List.find?_cons, hline]

theorem unpack2_eq_error {α : Type*} {l : List α} {e : PyError} (h : unpack2 l = .error e) :
    ∃ msg, e = .valueError msg := by
  unfold unpack2 at h
  split at h <;> cases h <;> exact ⟨_, rfl⟩

theorem int_eq_error {s : String} {e : PyError} (h : int s = .error e) : ∃ msg, e = .valueError msg := by
  unfold int at h
  split at h
  split_ifs at h
  cases h
  exact ⟨_, rfl⟩

/-- `_platform_from_application_mk` raises only `ValueError`s, and only on a line that starts
with `APP_PLATFORM`. -/
theorem platformFromApplicationMk_eq_error {mk : Option (List String)} {e : PyError}
    (h : platformFromApplicationMk mk = .error e) :
    (∃ msg, e = .valueError msg) ∧
      ∃ lines ∈ mk, ∃ l ∈ lines, Str.startswith l "APP_PLATFORM" = true := by
  obtain _ | lines := mk
  · cases h
  rw [platformFromApplicationMk] at h
  split at h
  · cases h
  next line hline =>
  have hstart := List.find?_some hline
  refine ⟨?_, lines, rfl, line, List.mem_of_find?_eq_some hline, hstart⟩
  cases h₁ : unpack2 (Str.split line ":=") with
  | error e₁ => simp only [h₁, except_error_bind] at h; cases h; exact unpack2_eq_error h₁
  | ok x =>
    simp only [h₁, except_ok_bind] at h
    split at h
    · cases h; exact ⟨_, rfl⟩
    cases h₂ : unpack2 (Str.split (Str.strip x.2) "-") with
    | error e₂ => simp only [h₂, except_error_bind] at h; cases h; exact unpack2_eq_error h₂
    | ok y =>
      simp only [h₂, except_ok_bind] at h
      cases h₃ : int y.2 with
      | error e₃ => simp only [h₃] at h; cases h; exact int_eq_error h₃
      | ok n => simp [h₃] at h

section Assignment

variable {sp₁ sp₂ N ws : String}

theorem ne_of_isSpace {c d : Char} (h : Str.isSpace c) (hd : Str.isSpace d = false) : c ≠ d :=
  fun e => by subst e; simp_all

theorem ne_of_isDigit {c d : Char} (h : c.isDigit) (hd : d.isDigit = false) : c ≠ d :=
  fun e => by subst e; simp_all

/-- An `APP_PLATFORM := android-N` line, with blanks around `:=` and after `N`, gives `N`. -/
theorem platformFromApplicationMk_assignment (h₁ : ∀ c ∈ sp₁.data, Str.isSpace c)
    (h₂ : ∀ c ∈ sp₂.data, Str.isSpace c) (hN : N.data ≠ []) (hd : ∀ c ∈ N.data, c.isDigit)
    (hws : ∀ c ∈ ws.data, Str.isSpace c) :
    platformFromApplicationMk
      (some ["APP_PLATFORM" ++ sp₁ ++ ":=" ++ sp₂ ++ "android-" ++ N ++ ws]) =
      .ok (some (decimalValue N.data)) := by
  have hline : "APP_PLATFORM" ++ sp₁ ++ ":=" ++ sp₂ ++ "android-" ++ N ++ ws =
      ⟨("APP_PLATFORM".data ++ sp₁.data) ++ [':', '='] ++
        (sp₂.data ++ ("android-".data ++ N.data) ++ ws.data)⟩ := by
    simp only [String.ext_iff, String.data_append, List.append_assoc]
  have hsplit₁ : Str.split ⟨("APP_PLATFORM".data ++ sp₁.data) ++ [':', '='] ++
      (sp₂.data ++ ("android-".data ++ N.data) ++ ws.data)⟩ ":=" =
      [⟨"APP_PLATFORM".data ++ sp₁.data⟩, ⟨sp₂.data ++ ("android-".data ++ N.data) ++ ws.data⟩] := by
    refine Str.split_eq_pair (by simp) ?_ ?_ <;> simp only [List.head?_cons, ne_eq,
      Option.some.injEq, List.mem_append]
    · rintro c (hc | hc)
      · revert c; decide
      · exact (ne_of_isSpace (h₁ c hc) (by decide)).symm
    · rintro c ((hc | hc | hc) | hc)
      · exact (ne_of_isSpace (h₂ c hc) (by decide)).symm
      · revert c; decide
      · exact (ne_of_isDigit (hd c hc) (by decide)).symm
      · exact (ne_of_isSpace (hws c hc) (by decide)).symm
  have hstrip : Str.strip ⟨sp₂.data ++ ("android-".data ++ N.data) ++ ws.data⟩ =
      ⟨"android".data ++ ['-'] ++ N.data⟩ := by
    rw [Str.strip_eq h₂ hws (by simp) (by rintro c ⟨⟩; decide)]
    · rfl
    · intro c hc
      rw [List.getLast?_append, List.getLast?_eq_getLast N.data hN] at hc
      cases hc
      exact Str.isSpace_of_isDigit (hd _ (List.getLast_mem hN))
  have hsplit₂ : Str.split ⟨"android".data ++ ['-'] ++ N.data⟩ "-" = [⟨"android".data⟩, N] :=
    Str.split_eq_pair (by simp) (by decide) fun c hc => by
      simpa using (ne_of_isDigit (hd c hc) (by decide)).symm
  have hint : int N = .ok (decimalValue N.data) := int_digits hN hd
  have hstarts : Str.startswith ⟨"android".data ++ ['-'] ++ N.data⟩ "android-" = true := by
    simp [Str.startswith, List.isPrefixOf_iff_prefix]
  have hfind : ["APP_PLATFORM" ++ sp₁ ++ ":=" ++ sp₂ ++ "android-" ++ N ++ ws].find?
      (Str.startswith · "APP_PLATFORM") = some ("APP_PLATFORM" ++ sp₁ ++ ":=" ++ sp₂ ++ "android-" ++ N ++ ws) := by
    simp [Str.startswith, List.isPrefixOf_iff_prefix]
  simp only [platformFromApplicationMk, hfind]
  rw [hline, hsplit₁]
  simp only [unpack2, except_ok_bind, hstrip, hstarts, hsplit₂, hint]
  rfl

end Assignment

section Infer

variable (minApiForAbi : String → ℤ) (abi : String)

/-- What the file says is raised to the ABI's minimum; no level gives the minimum. -/
theorem getOrInferAppPlatform_of_ok {mk : Option (List String)} {p : Option ℤ}
    (h : platformFromApplicationMk mk = .ok p) :
    getOrInferAppPlatform minApiForAbi none mk abi =
      .ok (p.elim (minApiForAbi abi) (max · (minApiForAbi abi))) := by
  cases p with
  | none => simp [getOrInferAppPlatform, h]
  | some p =>
    by_cases hp : minApiForAbi abi ≤ p
    · simp [getOrInferAppPlatform, h, hp]
    · simp [getOrInferAppPlatform, h, hp, le_of_not_le hp]

/-- **The clamp.** When the first line that starts with `APP_PLATFORM` assigns it
`android-N`, the level is `max N (min_api_for_abi abi)`. -/
theorem getOrInferAppPlatform_eq_max {sp₁ sp₂ N ws : String} (pre post : List String)
    (hpre : ∀ l ∈ pre, Str.startswith l "APP_PLATFORM" = false)
    (h₁ : ∀ c ∈ sp₁.data, Str.isSpace c) (h₂ : ∀ c ∈ sp₂.data, Str.isSpace c)
    (hN : N.data ≠ []) (hd : ∀ c ∈ N.data, c.isDigit) (hws : ∀ c ∈ ws.data, Str.isSpace c) :
    getOrInferAppPlatform minApiForAbi none
      (some (pre ++ ("APP_PLATFORM" ++ sp₁ ++ ":=" ++ sp₂ ++ "android-" ++ N ++ ws) :: post)) abi =
      .ok (max (decimalValue N.data : ℤ) (minApiForAbi abi)) := by
  have hline : Str.startswith ("APP_PLATFORM" ++ sp₁ ++ ":=" ++ sp₂ ++ "android-" ++ N ++ ws)
      "APP_PLATFORM" := by simp [Str.startswith, List.isPrefixOf_iff_prefix]
  exact getOrInferAppPlatform_of_ok minApiForAbi abi <| by
    rw [platformFromApplicationMk_append pre _ post hpre hline,
      platformFromApplicationMk_assignment h₁ h₂ hN hd hws]

/-- `APP_PLATFORM := android-24` between two other lines, for an ABI whose minimum is 21. -/
theorem getOrInferAppPlatform_eq_max_android24 :
    getOrInferAppPlatform (fun _ => 21) none (some (["APP_ABI := all\n"] ++
      ("APP_PLATFORM" ++ " " ++ ":=" ++ " " ++ "android-" ++ "24" ++ "\n") :: ["APP_STL := c++_shared\n"]))
      "arm64-v8a" = .ok (max (decimalValue "24".data : ℤ) 21) :=
  getOrInferAppPlatform_eq_max (fun _ => 21) "arm64-v8a" ["APP_ABI := all\n"] ["APP_STL := c++_shared\n"]
    (by decide) (by decide) (by decide) (by decide) (by decide) (by decide)

/-- **The level is never below the ABI's minimum.** Whatever `jni/Application.mk` holds, or
when it is missing, `_get_or_infer_app_platform(None, test_dir, abi)` returns a level at least
`min_api_for_abi(abi)`, or raises a `ValueError`, and it raises only on a line that starts with
`APP_PLATFORM`. -/
theorem getOrInferAppPlatform_ge_min (mk : Option (List String)) :
    (∀ p, getOrInferAppPlatform minApiForAbi none mk abi = .ok p → minApiForAbi abi ≤ p) ∧
    ∀ e, getOrInferAppPlatform minApiForAbi none mk abi = .error e →
      (∃ msg, e = .valueError msg) ∧
        ∃ lines ∈ mk, ∃ l ∈ lines, Str.startswith l "APP_PLATFORM" = true := by
  cases hmk : platformFromApplicationMk mk with
  | ok o =>
    rw [getOrInferAppPlatform_of_ok minApiForAbi abi hmk]
    refine ⟨fun p hp => ?_, fun e he => nomatch he⟩
    cases Except.ok.inj hp
    cases o <;> simp
  | error e =>
    have h : getOrInferAppPlatform minApiForAbi none mk abi = .error e := by
      simp [getOrInferAppPlatform, hmk]
    rw [h]
    exact ⟨(fun p hp => nomatch hp), fun e' he => by cases he; exact platformFromApplicationMk_eq_error hmk⟩

end Infer

/-- **A line for another variable is read as `APP_PLATFORM`.** `APP_PLATFORMS := foo` comes
first and starts with `APP_PLATFORM`, so its value is checked and rejected, whatever the ABI
and its minimum. -/
theorem getOrInferAppPlatform_platforms_line (minApiForAbi : String → ℤ) (abi : String) :
    getOrInferAppPlatform minApiForAbi none
      (some ["APP_PLATFORMS := foo\n", "APP_PLATFORM := android-21\n"]) abi =
      .error (.valueError "foo") := rfl

end Ndk
