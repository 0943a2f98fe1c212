import Mathlib.Data.List.Chain
import StaticSite.Proofs.Directive.Braced

/-!
# The leftmost decomposition of a text

The tokens of a text are one decomposition of it among many: the spelling `include` followed by a
variable is a text too, and so is a directive that was overlooked. Here the decomposition is singled
out by what it is, without a scan: its pieces give the text back, every piece that is no literal
text is spelled as a directive, the literal pieces are as long as they can be, and no directive of
the text begins inside one. There is one such decomposition of every text, and it is the one that is
computed.

The proofs follow the scan, which either finds a directive and goes on behind it or moves one
character on; `Leftmost` is taken apart at its first token to match.

## Main definitions

* `Leftmost`: a list of tokens is the leftmost decomposition of a text.

## Main results

* `leftmost_tokenize`: the tokens of a text are its leftmost decomposition.
* `Leftmost.map_plain`: there is no other.
* `tokenize_characterized`: both, with the literal pieces standing for themselves.
-/

namespace StaticSite.Directive

variable {s rest : List Char} {tokens : List Token} {token : Token} {c : Char}

/-- What a list of tokens spells. -/
def spell (tokens : List Token) : List Char := tokens.flatMap Token.raw

/-- The token with the value of a literal piece forgotten: a literal piece stands for itself. -/
def Token.plain (token : Token) : Token :=
  if token.kind = .text then { token with value := token.raw } else token

/-- The leftmost decomposition of a text. -/
structure Leftmost (s : List Char) (tokens : List Token) : Prop where
  /-- The tokens spell the text. -/
  spelled : spell tokens = s
  /-- No token is empty. -/
  nonempty : ∀ token ∈ tokens, token.raw ≠ []
  /-- No two literal pieces are neighbours. -/
  apart : tokens.IsChain fun a b => ¬ (a.kind = .text ∧ b.kind = .text)
  /-- An include directive is spelled as one. -/
  includeForm : ∀ token ∈ tokens, token.kind = .include → IsInclude token.value token.raw
  /-- A variable is spelled as one. -/
  variableForm : ∀ token ∈ tokens, token.kind = .variable → IsVariable token.value token.raw
  /-- At no position inside a literal piece does a directive of the text begin. -/
  unmissed : ∀ before token after, tokens = before ++ token :: after → token.kind = .text →
    ∀ i < token.raw.length, ¬ Begins (s.drop ((spell before).length + i))

/-! ### The scan -/

/-- Passing over characters is beginning behind them. -/
theorem tokenizeFrom_eq_drop (n : Nat) (s : List Char) : tokenizeFrom n s = tokenize (s.drop n) := by
  induction n generalizing s with
  | zero => rfl
  | succ n ih =>
    cases s with
    | nil => rfl
    | cons c cs => rw [tokenizeFrom, ih, List.drop_succ_cons]

/-- Behind a directive the scan goes on with what follows it. -/
theorem tokenize_append (h : token.IsDirective) (rest : List Char) :
    tokenize (token.raw ++ rest) = token :: tokenize rest := by
  have hfound := directiveAt?_append h rest
  obtain ⟨c, cs, hraw⟩ := List.exists_cons_of_ne_nil h.raw_ne_nil
  rw [hraw, List.cons_append] at hfound ⊢
  rw [tokenize, tokenizeFrom, hfound]
  simp only [hraw, List.length_cons, Nat.add_sub_cancel, tokenizeFrom_eq_drop, List.drop_left]

/-- Where no directive begins, a literal character is read. -/
theorem tokenize_cons (h : ¬ Begins (c :: rest)) :
    tokenize (c :: rest) = consText c (tokenize rest) := by
  rw [tokenize, tokenizeFrom, directiveAt?_eq_none_iff.mpr h]
  rfl

/-- A text is empty, begins with a directive or begins with a literal character: what holds of the
rest holds of the whole. -/
theorem scan_induction {motive : List Char → Prop} (nil : motive [])
    (directive : ∀ (token : Token) (rest : List Char), token.IsDirective → motive rest →
      motive (token.raw ++ rest))
    (literal : ∀ c rest, ¬ Begins (c :: rest) → motive rest → motive (c :: rest))
    (s : List Char) : motive s := by
  induction hlength : s.length using Nat.strongRecOn generalizing s with
  | _ n ih =>
    subst hlength
    cases s with
    | nil => exact nil
    | cons c cs =>
      by_cases hbegins : Begins (c :: cs)
      · obtain ⟨token, rest, htoken, hs⟩ := begins_iff.mp hbegins
        have hpos : 0 < token.raw.length := List.length_pos_iff.mpr htoken.raw_ne_nil
        rw [hs]
        refine directive token rest htoken (ih rest.length ?_ rest rfl)
        rw [hs, List.length_append]
        omega
      · exact literal c cs hbegins (ih cs.length (Nat.lt_succ_self _) cs rfl)

/-! ### The first token of a decomposition -/

/-- What is asked of the first token of a decomposition, with the rest of the text behind it. -/
structure Leads (token : Token) (rest : List Char) (tokens : List Token) : Prop where
  /-- The token is not empty. -/
  nonempty : token.raw ≠ []
  /-- Behind a literal piece stands a directive. -/
  apart : token.kind = .text → ∀ next ∈ tokens.head?, next.kind ≠ .text
  /-- A token that is no literal piece is a directive. -/
  directive : token.kind ≠ .text → token.IsDirective
  /-- No directive begins inside a literal piece. -/
  unmissed : token.kind = .text → ∀ i < token.raw.length, ¬ Begins ((token.raw ++ rest).drop i)

theorem leftmost_nil_iff : Leftmost [] tokens ↔ tokens = [] := by
  constructor
  · intro h
    cases tokens with
    | nil => rfl
    | cons token tokens =>
      have hspelled : token.raw ++ spell tokens = [] := h.spelled
      exact absurd (List.append_eq_nil_iff.mp hspelled).1 (h.nonempty token List.mem_cons_self)
  · rintro rfl
    refine ⟨rfl, nofun, .nil, nofun, nofun, ?_⟩
    intro before token after h
    exact absurd h.symm (List.append_ne_nil_of_right_ne_nil _ (List.cons_ne_nil _ _))

/-- A position behind the first token is one in what follows it. -/
theorem drop_spell_cons (token : Token) (before : List Token) (rest : List Char) (i : Nat) :
    (token.raw ++ rest).drop ((spell (token :: before)).length + i) =
      rest.drop ((spell before).length + i) := by
  rw [spell, List.flatMap_cons, List.length_append, Nat.add_assoc, List.drop_length_add_append, spell]

/-- The first token of a decomposition, and the decomposition of what follows it. -/
theorem Leftmost.uncons (h : Leftmost s (token :: tokens)) :
    ∃ rest, s = token.raw ++ rest ∧ Leads token rest tokens ∧ Leftmost rest tokens := by
  have hs : s = token.raw ++ spell tokens := h.spelled.symm
  have hleads : Leads token (spell tokens) tokens := by
    refine ⟨h.nonempty token List.mem_cons_self, ?_, ?_, ?_⟩
    · intro hkind next hnext hnext'
      exact (List.isChain_cons.mp h.apart).1 next hnext ⟨hkind, hnext'⟩
    · intro hkind
      match hk : token.kind with
      | .text => exact absurd hk hkind
      | .include => exact .inl ⟨hk, h.includeForm token List.mem_cons_self hk⟩
      | .variable => exact .inr ⟨hk, h.variableForm token List.mem_cons_self hk⟩
    · intro hkind i hi
      have := h.unmissed [] token tokens rfl hkind i hi
      rwa [spell, List.flatMap_nil, List.length_nil, Nat.zero_add, hs] at this
  refine ⟨spell tokens, hs, hleads, rfl, fun t ht => h.nonempty t (List.mem_cons_of_mem _ ht), h.apart.tail,
    fun t ht => h.includeForm t (List.mem_cons_of_mem _ ht),
    fun t ht => h.variableForm t (List.mem_cons_of_mem _ ht), ?_⟩
  intro before t after heq hkind i hi
  have := h.unmissed (token :: before) t after (by rw [heq, List.cons_append]) hkind i hi
  rwa [hs, drop_spell_cons] at this

/-- A token in front of a decomposition that it may lead. -/
theorem Leads.cons (hleads : Leads token rest tokens) (h : Leftmost rest tokens) :
    Leftmost (token.raw ++ rest) (token :: tokens) := by
  refine ⟨?_, ?_, ?_, ?_, ?_, ?_⟩
  · rw [spell, List.flatMap_cons]
    exact congrArg (token.raw ++ ·) h.spelled
  · exact List.forall_mem_cons.mpr ⟨hleads.nonempty, h.nonempty⟩
  · exact List.isChain_cons.mpr
      ⟨fun next hnext hboth => hleads.apart hboth.1 next hnext hboth.2, h.apart⟩
  · refine List.forall_mem_cons.mpr ⟨fun hkind => ?_, h.includeForm⟩
    rcases hleads.directive (by rw [hkind]; decide) with ⟨-, h⟩ | ⟨hkind', -⟩
    · exact h
    · exact absurd (hkind.symm.trans hkind') (by decide)
  · refine List.forall_mem_cons.mpr ⟨fun hkind => ?_, h.variableForm⟩
    rcases hleads.directive (by rw [hkind]; decide) with ⟨hkind', -⟩ | ⟨-, h⟩
    · exact absurd (hkind.symm.trans hkind') (by decide)
    · exact h
  · intro before t after heq hkind i hi
    cases before with
    | nil =>
      obtain ⟨rfl, rfl⟩ := List.cons.inj heq
      rw [spell, List.flatMap_nil, List.length_nil, Nat.zero_add]
      exact hleads.unmissed hkind i hi
    | cons first before =>
      obtain ⟨rfl, rfl⟩ := List.cons.inj heq
      rw [drop_spell_cons]
      exact h.unmissed before t after rfl hkind i hi

/-- A decomposition is a first token and a decomposition of what follows it. -/
theorem leftmost_cons_iff :
    Leftmost s (token :: tokens) ↔
      ∃ rest, s = token.raw ++ rest ∧ Leads token rest tokens ∧ Leftmost rest tokens := by
  refine ⟨Leftmost.uncons, ?_⟩
  rintro ⟨rest, rfl, hleads, h⟩
  exact hleads.cons h

/-- A directive leads whatever follows it. -/
theorem Token.IsDirective.leads (h : token.IsDirective) (rest : List Char) (tokens : List Token) :
    Leads token rest tokens :=
  ⟨h.raw_ne_nil, fun hkind => absurd hkind h.kind_ne, fun _ => h,
    fun hkind => absurd hkind h.kind_ne⟩

/-! ### The tokens of a text -/

/-- A literal character in front of a decomposition: it joins the literal piece that stands there,
or is one of its own. -/
theorem Leftmost.consText (h : Leftmost rest tokens) (hbegins : ¬ Begins (c :: rest)) :
    Leftmost (c :: rest) (consText c tokens) := by
  by_cases hhead : ∃ value raw tail, tokens = ⟨.text, value, raw⟩ :: tail
  · obtain ⟨value, raw, tail, rfl⟩ := hhead
    obtain ⟨behind, rfl, hleads, htail⟩ := leftmost_cons_iff.mp h
    refine leftmost_cons_iff.mpr ⟨behind, rfl, ⟨List.cons_ne_nil _ _, hleads.apart,
      fun hkind => absurd rfl hkind, ?_⟩, htail⟩
    rintro - (_ | i) hi
    · exact hbegins
    · exact hleads.unmissed rfl i (Nat.lt_of_succ_lt_succ hi)
  · have hcons : Directive.consText c tokens = ⟨.text, [c], [c]⟩ :: tokens := by
      rw [Directive.consText]
      intro value raw tail heq
      exact hhead ⟨value, raw, tail, heq⟩
    rw [hcons]
    refine leftmost_cons_iff.mpr ⟨rest, rfl, ⟨List.cons_ne_nil _ _, ?_,
      fun hkind => absurd rfl hkind, ?_⟩, h⟩
    · rintro - next hnext hkind
      obtain ⟨tail, rfl⟩ := List.head?_eq_some_iff.mp hnext
      obtain ⟨kind, value, raw⟩ := next
      obtain rfl : kind = .text := hkind
      exact hhead ⟨value, raw, tail, rfl⟩
    · rintro - (_ | i) hi
      · exact hbegins
      · exact absurd hi (by simp)

/-- The tokens of a text are its leftmost decomposition. -/
theorem leftmost_tokenize (s : List Char) : Leftmost s (tokenize s) := by
  induction s using scan_induction with
  | nil => exact leftmost_nil_iff.mpr rfl
  | directive token rest htoken ih =>
    rw [tokenize_append htoken]
    exact leftmost_cons_iff.mpr ⟨rest, rfl, htoken.leads rest _, ih⟩
  | literal c rest hbegins ih =>
    rw [tokenize_cons hbegins]
    exact ih.consText hbegins

/-- The literal pieces among the tokens of a text stand for themselves. -/
theorem value_of_mem_tokenize (s : List Char) :
    ∀ token ∈ tokenize s, token.kind = .text → token.value = token.raw := by
  induction s using scan_induction with
  | nil => exact nofun
  | directive token rest htoken ih =>
    rw [tokenize_append htoken]
    exact List.forall_mem_cons.mpr ⟨fun hkind => absurd hkind htoken.kind_ne, ih⟩
  | literal c rest hbegins ih =>
    rw [tokenize_cons hbegins, consText.eq_def]
    split
    · next value raw tail heq =>
      rw [heq] at ih
      obtain ⟨hfirst, htail⟩ := List.forall_mem_cons.mp ih
      exact List.forall_mem_cons.mpr ⟨fun _ => congrArg (c :: ·) (hfirst rfl), htail⟩
    · exact List.forall_mem_cons.mpr ⟨fun _ => rfl, ih⟩

/-! ### No other decomposition -/

@[simp] theorem Token.plain_of_text (value raw : List Char) :
    Token.plain ⟨.text, value, raw⟩ = ⟨.text, raw, raw⟩ := if_pos rfl

theorem Token.plain_of_ne (h : token.kind ≠ .text) : token.plain = token := if_neg h

/-- The first token of a text at which a directive begins is that directive. -/
theorem Leads.eq_of_isDirective {first : Token} (h : Leads first rest tokens)
    (htoken : token.IsDirective) {behind : List Char} (heq : token.raw ++ behind = first.raw ++ rest) :
    first = token ∧ rest = behind := by
  have hfound := directiveAt?_append htoken behind
  by_cases hkind : first.kind = .text
  · refine absurd (begins_iff.mpr ⟨token, behind, htoken, heq.symm⟩) ?_
    exact h.unmissed hkind 0 (List.length_pos_iff.mpr h.nonempty)
  · rw [heq, directiveAt?_append (h.directive hkind) rest] at hfound
    obtain rfl := Option.some.inj hfound
    exact ⟨rfl, (List.append_cancel_left heq).symm⟩

/-- A decomposition of a text at which no directive begins has a literal piece in front. Without
its first character it is a decomposition of the rest, to which that character is added again. -/
theorem Leftmost.exists_rest (h : Leftmost (c :: rest) tokens) (hbegins : ¬ Begins (c :: rest)) :
    ∃ others, Leftmost rest others ∧
      tokens.map Token.plain = Directive.consText c (others.map Token.plain) := by
  cases tokens with
  | nil => exact absurd h.spelled (List.cons_ne_nil _ _).symm
  | cons first tail =>
    obtain ⟨behind, heq, hleads, htail⟩ := leftmost_cons_iff.mp h
    have hkind : first.kind = .text := by
      by_contra hkind
      exact hbegins (begins_iff.mpr ⟨first, behind, hleads.directive hkind, heq⟩)
    obtain ⟨kind, value, raw⟩ := first
    obtain rfl : kind = .text := hkind
    cases raw with
    | nil => exact absurd rfl hleads.nonempty
    | cons d ds =>
      obtain ⟨rfl, rfl⟩ := List.cons.inj heq
      cases ds with
      | nil =>
        -- the piece was this one character, and what follows it is a directive
        refine ⟨tail, htail, ?_⟩
        rw [List.map_cons, Token.plain_of_text, Directive.consText]
        intro value' raw' tail' hmap
        obtain ⟨next, others, rfl, hnext, -⟩ := List.map_eq_cons_iff.mp hmap
        have hne := hleads.apart rfl next rfl
        rw [Token.plain_of_ne hne] at hnext
        exact hne (congrArg Token.kind hnext)
      | cons e es =>
        refine ⟨⟨.text, e :: es, e :: es⟩ :: tail, leftmost_cons_iff.mpr
          ⟨behind, rfl, ⟨List.cons_ne_nil _ _, hleads.apart, fun hkind => absurd rfl hkind, ?_⟩,
            htail⟩, ?_⟩
        · rintro - i hi
          exact hleads.unmissed rfl (i + 1) (Nat.succ_lt_succ hi)
        · simp only [List.map_cons, Token.plain_of_text, Directive.consText]

/-- There is no other leftmost decomposition. -/
theorem Leftmost.map_plain (h : Leftmost s tokens) : tokens.map Token.plain = tokenize s := by
  induction s using scan_induction generalizing tokens with
  | nil => rw [leftmost_nil_iff.mp h]; rfl
  | directive token rest htoken ih =>
    cases tokens with
    | nil => exact absurd (List.append_eq_nil_iff.mp h.spelled.symm).1 htoken.raw_ne_nil
    | cons first tail =>
      obtain ⟨behind, heq, hleads, htail⟩ := leftmost_cons_iff.mp h
      obtain ⟨rfl, rfl⟩ := hleads.eq_of_isDirective htoken heq
      rw [tokenize_append htoken, List.map_cons, Token.plain_of_ne htoken.kind_ne, ih htail]
  | literal c rest hbegins ih =>
    obtain ⟨others, hothers, heq⟩ := h.exists_rest hbegins
    rw [tokenize_cons hbegins, heq, ih hothers]

/-- An include directive is never read as literal text and a variable behind it. -/
theorem Leftmost.not_includeWord_isSuffix (h : Leftmost s tokens) {before after : List Token}
    {text name : Token} (heq : tokens = before ++ text :: name :: after) (htext : text.kind = .text)
    (hname : name.kind = .variable) : ¬ includeWord <:+ text.raw := by
  rintro ⟨start, hstart⟩
  have hmem : name ∈ tokens := by
    rw [heq]
    exact List.mem_append_right _ (List.mem_cons_of_mem _ List.mem_cons_self)
  obtain ⟨hne, hchars, lead, gap, hlead, hgap, hraw⟩ := h.variableForm name hmem hname
  have hpath : IsInclude name.value (includeWord ++ name.raw) :=
    ⟨name.raw, ⟨hne, fun c hc => isPathChar_of_isNameChar (hchars c hc), lead, gap, hlead, hgap, hraw⟩,
      rfl⟩
  have hs : s = spell before ++ (start ++ (includeWord ++ name.raw ++ spell after)) := by
    rw [← h.spelled, heq]
    simp only [spell, List.flatMap_append, List.flatMap_cons, ← hstart, List.append_assoc]
  refine h.unmissed before text (name :: after) heq htext start.length ?_ ?_
  · rw [← hstart, List.length_append]
    exact Nat.lt_add_of_pos_right (by decide)
  · rw [hs, List.drop_length_add_append, List.drop_left]
    exact ⟨name.value, _, _, rfl, .inl hpath⟩

/-- **The tokens of a text are its leftmost decomposition, and there is no other**: literal pieces
stand for themselves, no include directive is read as text and a variable, and a list of tokens with
the properties of the decomposition is the list of tokens, up to the value that a literal piece is
given. -/
theorem tokenize_characterized (s : List Char) :
    Leftmost s (tokenize s) ∧
    (∀ token ∈ tokenize s, token.kind = .text → token.value = token.raw) ∧
    (∀ before text name after, tokenize s = before ++ text :: name :: after → text.kind = .text →
      name.kind = .variable → ¬ includeWord <:+ text.raw) ∧
    (∀ tokens, Leftmost s tokens → tokens.map Token.plain = tokenize s) ∧
    ∀ tokens, Leftmost s tokens → (∀ token ∈ tokens, token.kind = .text → token.value = token.raw) →
      tokens = tokenize s := by
  refine ⟨leftmost_tokenize s, value_of_mem_tokenize s,
    fun _ _ _ _ => (leftmost_tokenize s).not_includeWord_isSuffix, fun _ h => h.map_plain, ?_⟩
  intro tokens h hvalue
  have hplain : ∀ token ∈ tokens, token.plain = token := by
    intro token htoken
    by_cases hkind : token.kind = .text
    · obtain ⟨kind, value, raw⟩ := token
      obtain rfl : kind = .text := hkind
      obtain rfl : value = raw := hvalue _ htoken rfl
      exact Token.plain_of_text value value
    · exact Token.plain_of_ne hkind
  rw [← h.map_plain, List.map_congr_left hplain, List.map_id']

end StaticSite.Directive
