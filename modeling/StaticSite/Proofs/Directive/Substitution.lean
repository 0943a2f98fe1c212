import StaticSite.Directive.Expand
import StaticSite.Proofs.Directive.Leftmost

/-!
# Substitution

Both stages that a text goes through are one construction: every token is replaced by a piece of
text, from left to right, and the pieces are put together. The stages differ in what a token is
replaced by, and in what can be asked or go wrong on the way; both leave literal text alone. What
holds of every such substitution is shown here once.

The first consequence is about seams. A text may be cut in two wherever no directive lies across the
cut: then the scan of the whole comes by the cut, the directives are those of the two parts, and the
parts can be substituted one after the other. A candidate that lies across the cut but begins inside
an earlier directive does no harm, since the scan never looks at it.

## Main definitions

* `substitute`: replace every token by a piece of text.
* `Straddled`: some directive among the tokens lies across a position.

## Main results

* `expandTokens_eq_substitute`, `fillTokens_eq_substitute`: the two stages as substitutions.
* `seam_induction`: an induction along a text that is followed by another one.
* `tokenize_seam`: cutting a text in two.
-/

namespace StaticSite.Directive

variable {a b rest : List Char} {tokens : List Token} {token : Token} {c : Char} {n : Nat}

/-! ### Replacing tokens -/

section Substitute

variable {m : Type → Type} [Monad m] {piece : Token → m (List Char)}

/-- Replace every token by a piece of text, from left to right. -/
def substitute (piece : Token → m (List Char)) : List Token → m (List Char)
  | [] => pure []
  | token :: tokens => do
    let first ← piece token
    let others ← substitute piece tokens
    pure (first ++ others)

/-- Literal text is replaced by itself. -/
def LeavesText (piece : Token → m (List Char)) : Prop :=
  ∀ token : Token, token.kind = .text → piece token = pure token.raw

/-- What the include stage puts in the place of a token. -/
def includePiece (ask : List Char → m (List Char)) (token : Token) : m (List Char) :=
  if token.kind = .include then ask token.value else pure token.raw

/-- The include stage is a substitution. -/
theorem expandTokens_eq_substitute (ask : List Char → m (List Char)) (tokens : List Token) :
    expandTokens ask tokens = substitute (includePiece ask) tokens := by
  induction tokens with
  | nil => rfl
  | cons token tokens ih =>
    rw [expandTokens, substitute, ih]
    obtain ⟨kind, value, raw⟩ := token
    cases kind <;> rfl

theorem leavesText_includePiece (ask : List Char → m (List Char)) :
    LeavesText (includePiece ask) := by
  intro token htext
  exact if_neg fun hinclude => absurd (htext.symm.trans hinclude) (by decide)

variable [LawfulMonad m]

/-- One more literal character in front is one more character in front of the result. -/
theorem substitute_consText (h : LeavesText piece) (c : Char) (tokens : List Token) :
    substitute piece (consText c tokens) = (c :: ·) <$> substitute piece tokens := by
  rw [consText.eq_def]
  split
  · next value raw tail =>
    rw [substitute, substitute, h _ rfl, h _ rfl]
    simp only [pure_bind, map_bind, map_pure, List.cons_append]
  · rw [substitute, h _ rfl]
    simp only [pure_bind, List.singleton_append, map_eq_pure_bind]

end Substitute

/-- What the variable stage puts in the place of a token. -/
def settingPiece (data : Value) (token : Token) : Except FieldError (List Char) :=
  match settingsPath? token with
  | none => .ok token.raw
  | some path => settingText data path

/-- The variable stage is a substitution. -/
theorem fillTokens_eq_substitute (data : Value) (tokens : List Token) :
    fillTokens data tokens = substitute (settingPiece data) tokens := by
  induction tokens with
  | nil => rfl
  | cons token tokens ih =>
    rw [fillTokens, substitute, ← ih, settingPiece]
    cases settingsPath? token with
    | none => cases fillTokens data tokens <;> rfl
    | some path =>
      dsimp only
      cases settingText data path with
      | error e => rfl
      | ok text => cases fillTokens data tokens <;> rfl

theorem settingsPath?_of_ne (h : token.kind ≠ .variable) : settingsPath? token = none := by
  obtain ⟨kind, value, raw⟩ := token
  match kind, h with
  | .text, _ => rfl
  | .include, _ => rfl
  | .variable, h => exact absurd rfl h

theorem leavesText_settingPiece (data : Value) : LeavesText (settingPiece data) := by
  intro token htext
  rw [settingPiece, settingsPath?_of_ne (by rw [htext]; decide)]
  rfl

/-! ### Seams -/

/-- The directives among some tokens. -/
def directives (tokens : List Token) : List Token := tokens.filter fun token => token.kind ≠ .text

/-- Some directive among the tokens begins before a position and ends behind it. -/
def Straddled (n : Nat) (tokens : List Token) : Prop :=
  ∃ before token after, tokens = before ++ token :: after ∧ token.kind ≠ .text ∧
    (spell before).length < n ∧ n < (spell before).length + token.raw.length

@[simp] theorem directives_consText (c : Char) (tokens : List Token) :
    directives (consText c tokens) = directives tokens := by
  rw [consText.eq_def]
  split <;> rfl

@[simp] theorem not_straddled_nil (n : Nat) : ¬ Straddled n [] := by
  rintro ⟨before, token, after, heq, -⟩
  exact List.append_ne_nil_of_right_ne_nil before (List.cons_ne_nil _ _) heq.symm

/-- Either the first token is a directive across the position, or a later one is. -/
theorem straddled_cons_iff : Straddled n (token :: tokens) ↔
    (token.kind ≠ .text ∧ 0 < n ∧ n < token.raw.length) ∨
      Straddled (n - token.raw.length) tokens := by
  have hlength : ∀ before : List Token,
      (spell (token :: before)).length = token.raw.length + (spell before).length := by
    intro before
    rw [spell, List.flatMap_cons, List.length_append, spell]
  constructor
  · rintro ⟨before, found, after, heq, hkind, hbegin, hend⟩
    cases before with
    | nil =>
      obtain ⟨rfl, -⟩ := List.cons.inj heq
      rw [spell, List.flatMap_nil, List.length_nil] at hbegin hend
      exact .inl ⟨hkind, hbegin, by omega⟩
    | cons first before =>
      obtain ⟨rfl, rfl⟩ := List.cons.inj heq
      rw [hlength] at hbegin hend
      exact .inr ⟨before, found, after, rfl, hkind, by omega, by omega⟩
  · rintro (⟨hkind, hbegin, hend⟩ | ⟨before, found, after, rfl, hkind, hbegin, hend⟩)
    · exact ⟨[], token, tokens, rfl, hkind, hbegin, by rwa [spell, List.flatMap_nil, List.length_nil,
        Nat.zero_add]⟩
    · refine ⟨token :: before, found, after, rfl, hkind, ?_, ?_⟩ <;> rw [hlength] <;> omega

instance decidableStraddled : (n : Nat) → (tokens : List Token) → Decidable (Straddled n tokens)
  | n, [] => isFalse (not_straddled_nil n)
  | n, token :: tokens =>
    have := decidableStraddled (n - token.raw.length) tokens
    decidable_of_iff _ straddled_cons_iff.symm

/-- One token more in front moves the position behind it. -/
theorem Straddled.cons (h : Straddled n tokens) (token : Token) :
    Straddled (token.raw.length + n) (token :: tokens) :=
  straddled_cons_iff.mpr (.inr (by rwa [Nat.add_sub_cancel_left]))

/-- One literal character more in front moves the position by one. -/
theorem Straddled.consText (h : Straddled n tokens) (c : Char) :
    Straddled (n + 1) (consText c tokens) := by
  rw [consText.eq_def]
  split
  · next value raw tail =>
    -- the literal piece in front, which the character joins, is no directive
    refine straddled_cons_iff.mpr (.inr ?_)
    rcases straddled_cons_iff.mp h with ⟨hkind, -⟩ | h
    · exact absurd rfl hkind
    · rwa [List.length_cons, Nat.add_sub_add_right]
  · rw [Nat.add_comm]
    exact h.cons ⟨.text, [c], [c]⟩

/-- Along a text that another one follows, with no directive across the seam, the scan of the whole
makes the steps of the scan of the part. -/
theorem seam_induction (b : List Char) {motive : List Char → Prop} (nil : motive [])
    (directive : ∀ (token : Token) (rest : List Char), token.IsDirective → motive rest →
      motive (token.raw ++ rest))
    (literal : ∀ c rest, ¬ Begins (c :: rest) → ¬ Begins (c :: (rest ++ b)) → motive rest →
      motive (c :: rest))
    (a : List Char) (h : ¬ Straddled a.length (tokenize (a ++ b))) : motive a := by
  induction a using scan_induction with
  | nil => exact nil
  | directive token rest htoken ih =>
    rw [List.append_assoc, tokenize_append htoken, List.length_append] at h
    exact directive token rest htoken (ih fun hrest => h (hrest.cons token))
  | literal c rest hbegins ih =>
    have hwhole : ¬ Begins (c :: (rest ++ b)) := by
      intro hwhole
      obtain ⟨token, behind, htoken, heq⟩ := begins_iff.mp hwhole
      -- a directive at the front of the whole that is not one of the part ends behind the seam
      have hlong : (c :: rest).length < token.raw.length := by
        by_contra hshort
        have hprefix : token.raw <+: c :: rest :=
          List.prefix_of_prefix_length_le ⟨behind, heq.symm⟩ (List.prefix_append (c :: rest) b)
            (Nat.le_of_not_lt hshort)
        obtain ⟨others, hothers⟩ := hprefix
        exact hbegins (begins_iff.mpr ⟨token, others, htoken, hothers.symm⟩)
      refine h ⟨[], token, tokenize behind, ?_, htoken.kind_ne, Nat.succ_pos _, ?_⟩
      · rw [List.cons_append, heq, tokenize_append htoken, List.nil_append]
      · rw [spell, List.flatMap_nil, List.length_nil, Nat.zero_add]
        exact hlong
    rw [List.cons_append, tokenize_cons hwhole] at h
    exact literal c rest hbegins hwhole (ih fun hrest => h (hrest.consText c))

/-- With no directive across the seam, the directives are those of the two parts. -/
theorem directives_tokenize_append (h : ¬ Straddled a.length (tokenize (a ++ b))) :
    directives (tokenize (a ++ b)) = directives (tokenize a) ++ directives (tokenize b) := by
  refine seam_induction b (motive := fun a => directives (tokenize (a ++ b)) =
    directives (tokenize a) ++ directives (tokenize b)) rfl ?_ ?_ a h
  · intro token rest htoken ih
    have hkeep : ∀ tokens, directives (token :: tokens) = token :: directives tokens :=
      fun tokens => List.filter_cons_of_pos (by simpa using htoken.kind_ne)
    rw [List.append_assoc, tokenize_append htoken, tokenize_append htoken, hkeep, hkeep, ih,
      List.cons_append]
  · intro c rest hpart hwhole ih
    rw [List.cons_append, tokenize_cons hwhole, tokenize_cons hpart, directives_consText,
      directives_consText, ih]

/-- Two texts, the one computed after the other, put together. -/
def oneAfterOther {m : Type → Type} [Monad m] (x y : m (List Char)) : m (List Char) := do
  let first ← x
  let second ← y
  pure (first ++ second)

/-- With no directive across the seam, the two parts can be substituted one after the other. -/
theorem substitute_tokenize_append {m : Type → Type} [Monad m] [LawfulMonad m]
    {piece : Token → m (List Char)} (hpiece : LeavesText piece)
    (h : ¬ Straddled a.length (tokenize (a ++ b))) :
    substitute piece (tokenize (a ++ b)) =
      oneAfterOther (substitute piece (tokenize a)) (substitute piece (tokenize b)) := by
  refine seam_induction b (motive := fun a => substitute piece (tokenize (a ++ b)) =
    oneAfterOther (substitute piece (tokenize a)) (substitute piece (tokenize b))) ?_ ?_ ?_ a h
  · have hnil : substitute piece (tokenize []) = pure [] := rfl
    rw [List.nil_append, oneAfterOther, hnil]
    simp only [pure_bind, List.nil_append, bind_pure]
  · intro token rest htoken ih
    rw [List.append_assoc, tokenize_append htoken, tokenize_append htoken, substitute, substitute, ih,
      oneAfterOther, oneAfterOther]
    simp only [bind_assoc, pure_bind, List.append_assoc]
  · intro c rest hpart hwhole ih
    rw [List.cons_append, tokenize_cons hwhole, tokenize_cons hpart, substitute_consText hpiece,
      substitute_consText hpiece, ih, oneAfterOther, oneAfterOther]
    simp only [map_bind, map_pure, bind_map_left, List.cons_append]

/-- **Cutting a text in two.** If no directive of a text lies across a position, its directives are
those of the part before it followed by those of the part behind it, and each of the two stages may
be carried out on the one part and then on the other: the results are put together, the first
failure is the failure of the whole, and what is asked for the first part is asked before what is
asked for the second. -/
theorem tokenize_seam (a b : List Char) (h : ¬ Straddled a.length (tokenize (a ++ b))) :
    directives (tokenize (a ++ b)) = directives (tokenize a) ++ directives (tokenize b) ∧
    (∀ data : Value, fillVariables data (a ++ b) =
      oneAfterOther (fillVariables data a) (fillVariables data b)) ∧
    ∀ (m : Type → Type) [Monad m] [LawfulMonad m] (ask : List Char → m (List Char)),
      expandIncludes ask (a ++ b) = oneAfterOther (expandIncludes ask a) (expandIncludes ask b) := by
  refine ⟨directives_tokenize_append h, ?_, ?_⟩
  · intro data
    simp only [fillVariables, fillTokens_eq_substitute]
    exact substitute_tokenize_append (leavesText_settingPiece data) h
  · intro m _ _ ask
    simp only [expandIncludes, expandTokens_eq_substitute]
    exact substitute_tokenize_append (leavesText_includePiece ask) h

/-- A text that ends with a brace. -/
def bracesBefore : List Char := "include\x7b\x7b a \x7d\x7d \x7b\x7b b \x7d\x7d \x7b".toList

/-- A text that begins with three braces. -/
def bracesBehind : List Char := "\x7b\x7b\x7b this.c \x7d\x7d include\x7b\x7b d \x7d\x7d".toList

/-- The texts may be put together: the four braces at the seam belong to one variable behind it. -/
theorem braces_seam :
    ¬ Straddled bracesBefore.length (tokenize (bracesBefore ++ bracesBehind)) ∧
    (directives (tokenize (bracesBefore ++ bracesBehind))).map (fun token => String.ofList token.value) =
      ["a", "b", "this.c", "d"] ∧
    (∀ data : Value, fillVariables data (bracesBefore ++ bracesBehind) =
      oneAfterOther (fillVariables data bracesBefore) (fillVariables data bracesBehind)) ∧
    ∀ ask : List Char → StateM (List (List Char)) (List Char),
      expandIncludes ask (bracesBefore ++ bracesBehind) =
        oneAfterOther (expandIncludes ask bracesBefore) (expandIncludes ask bracesBehind) := by
  have hseam : ¬ Straddled bracesBefore.length (tokenize (bracesBefore ++ bracesBehind)) := by
    decide +kernel
  obtain ⟨hdirectives, hfill, hexpand⟩ := tokenize_seam bracesBefore bracesBehind hseam
  refine ⟨hseam, ?_, hfill, fun ask => hexpand _ ask⟩
  rw [hdirectives]
  decide +kernel

end StaticSite.Directive
