import StaticSite.Proofs.Directive.Substitution

/-!
# The variable stage replaces settings variables and nothing else

The variable stage replaces every variable whose name begins with `this.` by the text of the setting
that the rest of the name leads to. Every other token stands in the result as it is spelled: other
variables, and include directives too, also one whose path begins with `this.`. The texts of the
settings are not read again.

The stage fails where the first of these variables has no text, and only there. A variable may have
none for two reasons: its path leads to no value, or an integer in the value has too many digits to
be shown. The second reason is easily forgotten, and it is not enough for success that every path
leads somewhere.

## Main definitions

* `Token.IsSetting`: a token is the settings variable of a path.
* `Fills`, `Lacks`: what stands in the place of a token, and why nothing does.

## Main results

* `fillVariables_characterized`: when the stage succeeds, with which result, and how it fails.
* `not_filled_of_found`: paths that lead to values are not enough.
-/

namespace StaticSite.Directive

variable {data : Value} {s path piece out : List Char} {tokens : List Token} {token : Token}
  {e : FieldError}

/-! ### The pieces of a result -/

section Outcome

variable {ε : Type} {replace : Token → Except ε (List Char)} {fault : ε}

/-- A substitution succeeds with the pieces that stand for the tokens. -/
theorem substitute_eq_ok_iff : substitute replace tokens = .ok out ↔
    ∃ pieces, List.Forall₂ (fun token piece => replace token = .ok piece) tokens pieces ∧
      pieces.flatten = out := by
  induction tokens generalizing out with
  | nil =>
    constructor
    · intro h
      exact ⟨[], .nil, Except.ok.inj h⟩
    · rintro ⟨pieces, hpieces, rfl⟩
      rw [List.forall₂_nil_left_iff.mp hpieces]
      rfl
  | cons token tokens ih =>
    rw [substitute]
    constructor
    · intro h
      rcases hfirst : replace token with fault | first
      · rw [hfirst] at h
        exact absurd h (by simp [bind, Except.bind])
      · rcases hothers : substitute replace tokens with fault | others
        · rw [hfirst, hothers] at h
          exact absurd h (by simp [bind, Except.bind])
        · rw [hfirst, hothers] at h
          obtain ⟨pieces, hpieces, rfl⟩ := ih.mp hothers
          exact ⟨first :: pieces, .cons hfirst hpieces, Except.ok.inj h⟩
    · rintro ⟨pieces, hpieces, rfl⟩
      obtain ⟨first, others, hfirst, hothers, rfl⟩ := List.forall₂_cons_left_iff.mp hpieces
      rw [hfirst, ih.mpr ⟨others, hothers, rfl⟩]
      rfl

/-- A substitution fails with the fault of the first token that has one. -/
theorem substitute_eq_error_iff : substitute replace tokens = .error fault ↔
    ∃ before token after, tokens = before ++ token :: after ∧ replace token = .error fault ∧
      ∀ earlier ∈ before, ∃ piece, replace earlier = .ok piece := by
  induction tokens with
  | nil =>
    constructor
    · intro h
      exact absurd h (by simp [substitute, pure, Except.pure])
    · rintro ⟨before, token, after, h, -⟩
      exact absurd h.symm (List.append_ne_nil_of_right_ne_nil _ (List.cons_ne_nil _ _))
  | cons token tokens ih =>
    rw [substitute]
    constructor
    · intro h
      rcases hfirst : replace token with other | first
      · rw [hfirst] at h
        exact ⟨[], token, tokens, rfl, hfirst.trans (congrArg _ (Except.error.inj h)), by simp⟩
      · rcases hothers : substitute replace tokens with other | others
        · rw [hfirst, hothers] at h
          obtain ⟨before, found, after, rfl, hfound, hbefore⟩ :=
            ih.mp (hothers.trans (congrArg _ (Except.error.inj h)))
          exact ⟨token :: before, found, after, rfl, hfound,
            List.forall_mem_cons.mpr ⟨⟨first, hfirst⟩, hbefore⟩⟩
        · rw [hfirst, hothers] at h
          exact absurd h (by simp [bind, Except.bind, pure, Except.pure])
    · rintro ⟨before, found, after, heq, hfound, hbefore⟩
      cases before with
      | nil =>
        obtain ⟨rfl, rfl⟩ := List.cons.inj heq
        rw [hfound]
        rfl
      | cons first before =>
        obtain ⟨rfl, rfl⟩ := List.cons.inj heq
        obtain ⟨⟨piece, hfirst⟩, hbefore⟩ := List.forall_mem_cons.mp hbefore
        rw [hfirst, ih.mpr ⟨before, found, after, rfl, hfound, hbefore⟩]
        rfl

/-- A substitution succeeds if and only if every token has a piece. -/
theorem exists_substitute_iff : (∃ out, substitute replace tokens = .ok out) ↔
    ∀ token ∈ tokens, ∃ piece, replace token = .ok piece := by
  constructor
  · rintro ⟨out, h⟩
    obtain ⟨pieces, hpieces, -⟩ := substitute_eq_ok_iff.mp h
    clear h
    induction hpieces with
    | nil => exact nofun
    | cons hfirst _ ih => exact List.forall_mem_cons.mpr ⟨⟨_, hfirst⟩, ih⟩
  · intro h
    rcases hresult : substitute replace tokens with fault | out
    · obtain ⟨before, token, after, htokens, hfail, -⟩ := substitute_eq_error_iff.mp hresult
      obtain ⟨piece, hpiece⟩ := h token (by rw [htokens]; simp)
      exact absurd (hfail.symm.trans hpiece) nofun
    · exact ⟨out, rfl⟩

end Outcome

/-! ### Settings variables -/

/-- A token is the settings variable of a path. -/
def Token.IsSetting (token : Token) (path : List Char) : Prop :=
  token.kind = .variable ∧ token.value = settingsMark ++ path

theorem settingsPath?_eq_some_iff : settingsPath? token = some path ↔ token.IsSetting path := by
  obtain ⟨kind, value, raw⟩ := token
  match kind with
  | .text => exact ⟨nofun, fun h => absurd h.1 nofun⟩
  | .include => exact ⟨nofun, fun h => absurd h.1 nofun⟩
  | .variable =>
    constructor
    · intro h
      exact ⟨rfl, (Text.append_of_stripStart? h).symm⟩
    · rintro ⟨-, rfl⟩
      exact Text.stripStart?_append settingsMark path

/-- The paths of the settings variables among some tokens, in order. -/
def settingsPaths (tokens : List Token) : List (List Char) := tokens.filterMap settingsPath?

theorem mem_settingsPaths (htoken : token ∈ tokens) (h : token.IsSetting path) :
    path ∈ settingsPaths tokens :=
  List.mem_filterMap.mpr ⟨token, htoken, settingsPath?_eq_some_iff.mpr h⟩

/-- A piece stands in the place of a token: the text of the value that a settings variable leads to,
and anything else as it is spelled. -/
def Fills (data : Value) (token : Token) (piece : List Char) : Prop :=
  (∀ path, token.IsSetting path → ∃ v, data.field (String.ofList path) = .ok v ∧
    v.isShowable = true ∧ v.plainChars = piece) ∧
  ((∀ path, ¬ token.IsSetting path) → token.raw = piece)

/-- Why a path has no text: it leads to no value, or to one that cannot be shown. -/
def Lacks (data : Value) (path : List Char) (e : FieldError) : Prop :=
  data.field (String.ofList path) = .error e ∨
    ∃ v, data.field (String.ofList path) = .ok v ∧ v.isShowable = false ∧ .unshown Value.tooLong = e

theorem settingText_of_field {v : Value} (h : data.field (String.ofList path) = .ok v) :
    settingText data path = v.shown.mapError .unshown := by
  rw [settingText, h]
  rcases hshown : v.shown with reason | text <;> simp only [hshown] <;> rfl

theorem settingText_of_error (h : data.field (String.ofList path) = .error e) :
    settingText data path = .error e := by
  rw [settingText, h]

theorem settingText_eq_ok_iff : settingText data path = .ok piece ↔
    ∃ v, data.field (String.ofList path) = .ok v ∧ v.isShowable = true ∧ v.plainChars = piece := by
  simp only [← Value.shown_eq_ok_iff]
  rcases hfield : data.field (String.ofList path) with e | v
  · rw [settingText_of_error hfield]
    simp only [reduceCtorEq, false_and, exists_false]
  · rw [settingText_of_field hfield]
    simp only [Except.ok.injEq, exists_eq_left']
    cases v.shown <;> simp [Except.mapError]

theorem settingText_eq_error_iff : settingText data path = .error e ↔ Lacks data path e := by
  rw [Lacks]
  rcases hfield : data.field (String.ofList path) with e' | v
  · rw [settingText_of_error hfield]
    simp only [Except.error.injEq, reduceCtorEq, false_and, exists_false, or_false]
  · rw [settingText_of_field hfield]
    simp only [Except.ok.injEq, exists_eq_left', reduceCtorEq, false_or]
    rcases hshown : v.shown with reason | text
    · obtain ⟨hshowable, rfl⟩ := Value.shown_eq_error_iff.mp hshown
      simp [Except.mapError, hshowable]
    · simp [Except.mapError, (Value.shown_eq_ok_iff.mp hshown).1]

theorem settingPiece_eq_ok_iff : settingPiece data token = .ok piece ↔ Fills data token piece := by
  rw [settingPiece]
  rcases hpath : settingsPath? token with _ | path
  · have hnot : ∀ path, ¬ token.IsSetting path := by
      intro path h
      rw [settingsPath?_eq_some_iff.mpr h] at hpath
      exact Option.some_ne_none _ hpath
    exact ⟨fun h => ⟨fun path hsetting => absurd hsetting (hnot path), fun _ => Except.ok.inj h⟩,
      fun h => congrArg _ (h.2 hnot)⟩
  · have hsetting : ∀ other, token.IsSetting other ↔ path = other := by
      intro other
      rw [← settingsPath?_eq_some_iff, hpath, Option.some.injEq]
    refine settingText_eq_ok_iff.trans ⟨fun h => ⟨fun other hother => ?_, fun hnot => ?_⟩,
      fun h => h.1 path ((hsetting path).mpr rfl)⟩
    · rwa [← (hsetting other).mp hother]
    · exact absurd ((hsetting path).mpr rfl) (hnot path)

theorem settingPiece_eq_error_iff :
    settingPiece data token = .error e ↔ ∃ path, token.IsSetting path ∧ Lacks data path e := by
  simp only [← settingsPath?_eq_some_iff, ← settingText_eq_error_iff, settingPiece]
  rcases settingsPath? token with _ | path
  · simp only [reduceCtorEq, false_and, exists_false]
  · simp only [Option.some.injEq, exists_eq_left']

/-- A token has a piece unless it is a settings variable without a text. -/
theorem exists_settingPiece_iff : (∃ piece, settingPiece data token = .ok piece) ↔
    ∀ path, token.IsSetting path → ∃ v, data.field (String.ofList path) = .ok v ∧
      v.isShowable = true := by
  simp only [settingPiece_eq_ok_iff]
  constructor
  · rintro ⟨piece, h, -⟩ path hpath
    obtain ⟨v, hv, hshowable, -⟩ := h path hpath
    exact ⟨v, hv, hshowable⟩
  · intro h
    by_cases hsetting : ∃ path, token.IsSetting path
    · obtain ⟨path, hpath⟩ := hsetting
      obtain ⟨v, hv, hshowable⟩ := h path hpath
      refine ⟨v.plainChars, fun other hother => ?_, fun hnot => absurd hpath (hnot path)⟩
      rw [← List.append_cancel_left (hpath.2.symm.trans hother.2)]
      exact ⟨v, hv, hshowable, rfl⟩
    · exact ⟨token.raw, fun path hpath => absurd ⟨path, hpath⟩ hsetting, fun _ => rfl⟩

/-! ### The stage -/

/-- A token is filled by what it is replaced by, and by nothing else. -/
theorem fillVariables_eq_ok_iff : fillVariables data s = .ok out ↔
    ∃ pieces, List.Forall₂ (Fills data) (tokenize s) pieces ∧ pieces.flatten = out := by
  rw [fillVariables, fillTokens_eq_substitute, substitute_eq_ok_iff]
  simp only [settingPiece_eq_ok_iff]

/-- The stage succeeds if and only if every settings variable has a text. -/
theorem exists_fillVariables_iff : (∃ out, fillVariables data s = .ok out) ↔
    ∀ token ∈ tokenize s, ∀ path, token.IsSetting path →
      ∃ v, data.field (String.ofList path) = .ok v ∧ v.isShowable = true := by
  simp only [fillVariables, fillTokens_eq_substitute, exists_substitute_iff, exists_settingPiece_iff]

/-- The stage fails as its first settings variable without a text does. -/
theorem fillVariables_eq_error_iff : fillVariables data s = .error e ↔
    ∃ before token after, tokenize s = before ++ token :: after ∧
      (∃ path, token.IsSetting path ∧ Lacks data path e) ∧
      ∀ earlier ∈ before, ∀ path, earlier.IsSetting path →
        ∃ v, data.field (String.ofList path) = .ok v ∧ v.isShowable = true := by
  rw [fillVariables, fillTokens_eq_substitute, substitute_eq_error_iff]
  simp only [settingPiece_eq_error_iff, exists_settingPiece_iff]

/-- Two collections of settings that show the same for every settings variable give the same. -/
theorem fillVariables_congr {other : Value} (h : ∀ token ∈ tokenize s, ∀ path, token.IsSetting path →
    ∃ v w, data.field (String.ofList path) = .ok v ∧ other.field (String.ofList path) = .ok w ∧
      v.shown = w.shown) :
    fillVariables data s = fillVariables other s := by
  have hpiece : ∀ token ∈ tokenize s, settingPiece data token = settingPiece other token := by
    intro token htoken
    rw [settingPiece, settingPiece]
    rcases hpath : settingsPath? token with _ | path
    · rfl
    · obtain ⟨v, w, hv, hw, hshown⟩ := h token htoken path (settingsPath?_eq_some_iff.mp hpath)
      dsimp only
      rw [settingText_of_field hv, settingText_of_field hw, hshown]
  rw [fillVariables, fillVariables, fillTokens_eq_substitute, fillTokens_eq_substitute]
  generalize tokenize s = tokens at hpiece
  induction tokens with
  | nil => rfl
  | cons token tokens ih =>
    obtain ⟨hfirst, hothers⟩ := List.forall_mem_cons.mp hpiece
    rw [substitute, substitute, hfirst, ih hothers]

/-- **The variable stage replaces the settings variables of a text and nothing else.** It succeeds if
and only if the path of each leads to a value that can be shown. The result is then the text with
each of them replaced by the text of its value, and every other token as it is spelled; else the
stage fails as the first of them does that has no text. So the result depends on the settings only
through the texts of the values that the paths lead to. -/
theorem fillVariables_characterized (s : List Char) (data : Value) :
    ((∃ out, fillVariables data s = .ok out) ↔
      ∀ token ∈ tokenize s, ∀ path, token.IsSetting path →
        ∃ v, data.field (String.ofList path) = .ok v ∧ v.isShowable = true) ∧
    spell (tokenize s) = s ∧
    (∀ out, fillVariables data s = .ok out ↔
      ∃ pieces, List.Forall₂ (Fills data) (tokenize s) pieces ∧ pieces.flatten = out) ∧
    (∀ e, fillVariables data s = .error e ↔
      ∃ before token after, tokenize s = before ++ token :: after ∧
        (∃ path, token.IsSetting path ∧ Lacks data path e) ∧
        ∀ earlier ∈ before, ∀ path, earlier.IsSetting path →
          ∃ v, data.field (String.ofList path) = .ok v ∧ v.isShowable = true) ∧
    ∀ other : Value, (∀ token ∈ tokenize s, ∀ path, token.IsSetting path →
      ∃ v w, data.field (String.ofList path) = .ok v ∧ other.field (String.ofList path) = .ok w ∧
        v.shown = w.shown) → fillVariables data s = fillVariables other s :=
  ⟨exists_fillVariables_iff, (leftmost_tokenize s).spelled, fun _ => fillVariables_eq_ok_iff,
    fun _ => fillVariables_eq_error_iff, fun _ => fillVariables_congr⟩

/-- A text with one settings variable and two directives that look like it. -/
def showsNumber : List Char :=
  "\x7b\x7b this.n \x7d\x7d \x7b\x7b n \x7d\x7d include\x7b\x7b this.n \x7d\x7d".toList

/-- Whether the setting is a number or a text makes no difference. -/
theorem number_filled :
    (∀ token ∈ tokenize showsNumber, ∀ path, token.IsSetting path →
      ∃ v w, (Value.dict [(.text "n", .int 7)]).field (String.ofList path) = .ok v ∧
        (Value.dict [(.text "n", .text "7")]).field (String.ofList path) = .ok w ∧
          v.shown = w.shown) ∧
    fillVariables (.dict [(.text "n", .int 7)]) showsNumber =
      fillVariables (.dict [(.text "n", .text "7")]) showsNumber := by
  have hpaths : settingsPaths (tokenize showsNumber) = [['n']] := by decide +kernel
  have hfound : ∀ token ∈ tokenize showsNumber, ∀ path, token.IsSetting path →
      ∃ v w, (Value.dict [(.text "n", .int 7)]).field (String.ofList path) = .ok v ∧
        (Value.dict [(.text "n", .text "7")]).field (String.ofList path) = .ok w ∧
          v.shown = w.shown := by
    intro token htoken path hsetting
    have hpath := mem_settingsPaths htoken hsetting
    rw [hpaths] at hpath
    rw [List.mem_singleton.mp hpath]
    have hnumber : (Value.int 7).shown = .ok ['7'] :=
      Value.shown_eq_ok_iff.mpr ⟨by decide +kernel, rfl⟩
    have htext : (Value.text "7").shown = .ok ['7'] :=
      Value.shown_eq_ok_iff.mpr ⟨by decide +kernel, rfl⟩
    exact ⟨.int 7, .text "7", rfl, rfl, hnumber.trans htext.symm⟩
  exact ⟨hfound, (fillVariables_characterized showsNumber _).2.2.2.2 _ hfound⟩

/-- A setting with an integer of 4335 digits. -/
def longSetting : Value := .dict [(.text "n", .int (Int.ofNat (Nat.pow 16 3600)))]

/-- A text that shows it. -/
def showsLongSetting : List Char := "\x7b\x7b this.n \x7d\x7d".toList

/-- It is not enough that the path of every settings variable leads to a value: an integer may have
too many digits to be shown. -/
theorem not_filled_of_found : ¬ ∀ (s : List Char) (data : Value),
    (∃ out, fillVariables data s = .ok out) ↔
      ∀ token ∈ tokenize s, ∀ path, token.IsSetting path →
        ∃ v, data.field (String.ofList path) = .ok v := by
  intro h
  have htokens : tokenize showsLongSetting =
      [⟨.variable, settingsMark ++ ['n'], showsLongSetting⟩] := by decide +kernel
  have hpaths : settingsPaths (tokenize showsLongSetting) = [['n']] := by decide +kernel
  have hfield : longSetting.field (String.ofList ['n']) = .ok (.int (Int.ofNat (Nat.pow 16 3600))) := rfl
  have hfilled := (h showsLongSetting longSetting).mpr fun token htoken path hsetting => by
    have hpath := mem_settingsPaths htoken hsetting
    rw [hpaths] at hpath
    rw [List.mem_singleton.mp hpath]
    exact ⟨_, hfield⟩
  obtain ⟨v, hv, hshowable⟩ := exists_fillVariables_iff.mp hfilled
    ⟨.variable, settingsMark ++ ['n'], showsLongSetting⟩ (by rw [htokens]; exact List.mem_cons_self)
    ['n'] ⟨rfl, rfl⟩
  rw [hfield] at hv
  rw [← Except.ok.inj hv] at hshowable
  exact absurd hshowable (by decide +kernel)

end StaticSite.Directive
