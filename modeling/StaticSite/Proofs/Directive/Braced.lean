import StaticSite.Directive.Token
import StaticSite.Proofs.Path.Cuts

/-!
# The spelling of a directive

What an include directive and a variable look like, stated on the characters without a word about
how they are found, and that the readers at the beginning of a text find just these. The blanks
around the word are read greedily and so is the word, which is exact because no blank and no brace
is a character of a word.

## Main definitions

* `IsBraced`, `IsInclude`, `IsVariable`: how a directive is spelled.
* `Begins`: a text begins with a directive.

## Main results

* `bracedAt?_eq_some_iff`: the braces at the beginning of a text.
* `directiveAt?_eq_some_iff`: the directive at the beginning of a text.
* `directiveAt?_eq_none_iff`: when there is none.
-/

namespace StaticSite

/-! ### Blanks and braces -/

/-- The code points of the blanks. -/
def Text.blankCodes : List Nat := [
  0x09, 0x0a, 0x0b, 0x0c, 0x0d, 0x1c, 0x1d, 0x1e, 0x1f, 0x20, 0x85, 0xa0, 0x1680, 0x2000, 0x2001,
  0x2002, 0x2003, 0x2004, 0x2005, 0x2006, 0x2007, 0x2008, 0x2009, 0x200a, 0x2028, 0x2029, 0x202f,
  0x205f, 0x3000]

/-- A blank is one of finitely many characters. -/
theorem Text.mem_blankCodes {c : Char} (h : isBlank c = true) : c.toNat ∈ blankCodes := by
  simp only [isBlank, Bool.or_eq_true, Bool.and_eq_true, decide_eq_true_eq, beq_iff_eq] at h
  simp only [blankCodes, List.mem_cons, List.not_mem_nil, or_false]
  omega

namespace Directive

variable {p : Char → Bool} {s word raw : List Char} {c : Char} {n : Nat} {token : Token}

/-- No blank is a character of an included path. -/
theorem isPathChar_of_isBlank (h : Text.isBlank c = true) : isPathChar c = false := by
  have hall : ∀ n ∈ Text.blankCodes, isPathChar (Char.ofNat n) = false := by decide +kernel
  rw [← Char.ofNat_toNat c]
  exact hall _ (Text.mem_blankCodes h)

/-- The characters of a name are characters of a path. -/
theorem isPathChar_of_isNameChar (h : isNameChar c = true) : isPathChar c = true := by
  simp only [isNameChar, Bool.or_eq_true] at h
  simp only [isPathChar, Bool.or_eq_true]
  rcases h with (hdash | hdot) | hword
  · exact .inl (.inl (.inl (.inl hdash)))
  · exact .inl (.inr hdot)
  · exact .inr hword

/-- A class of word characters: neither a blank nor the closing brace belongs to it. -/
structure IsWordClass (p : Char → Bool) : Prop where
  /-- No blank belongs to it. -/
  blank : ∀ c, Text.isBlank c = true → p c = false
  /-- The closing brace does not. -/
  brace : p '}' = false

/-- The characters of paths are such a class. -/
theorem isWordClass_isPathChar : IsWordClass isPathChar :=
  ⟨fun _ => isPathChar_of_isBlank, by decide +kernel⟩

/-- The characters of names are such a class. -/
theorem isWordClass_isNameChar : IsWordClass isNameChar where
  blank c h := by
    have hpath := isPathChar_of_isBlank h
    exact Bool.eq_false_iff.mpr fun hname => by
      rw [isPathChar_of_isNameChar hname] at hpath
      exact Bool.noConfusion hpath
  brace := by decide +kernel

/-! ### What a directive is -/

/-- Two opening braces, blanks, a nonempty word of the class `p`, blanks and two closing braces. -/
def IsBraced (p : Char → Bool) (word raw : List Char) : Prop :=
  word ≠ [] ∧ (∀ c ∈ word, p c = true) ∧ ∃ lead gap : List Char,
    (∀ c ∈ lead, Text.isBlank c = true) ∧ (∀ c ∈ gap, Text.isBlank c = true) ∧
      raw = opening ++ (lead ++ (word ++ (gap ++ closing)))

/-- `raw` spells the include directive for a path. -/
def IsInclude (path raw : List Char) : Prop :=
  ∃ braces, IsBraced isPathChar path braces ∧ raw = includeWord ++ braces

/-- `raw` spells the variable of a name. -/
def IsVariable (name raw : List Char) : Prop := IsBraced isNameChar name raw

/-- A text begins with a directive of either form. -/
def Begins (s : List Char) : Prop :=
  ∃ word raw rest, s = raw ++ rest ∧ (IsInclude word raw ∨ IsVariable word raw)

/-- A token is the directive that its raw form spells. -/
def Token.IsDirective (token : Token) : Prop :=
  (token.kind = .include ∧ IsInclude token.value token.raw) ∨
    (token.kind = .variable ∧ IsVariable token.value token.raw)

theorem IsBraced.ne_nil (h : IsBraced p word raw) : raw ≠ [] := by
  obtain ⟨-, -, lead, gap, -, -, rfl⟩ := h
  exact List.cons_ne_nil _ _

theorem Token.IsDirective.raw_ne_nil (h : token.IsDirective) : token.raw ≠ [] := by
  rcases h with ⟨-, braces, -, heq⟩ | ⟨-, h⟩
  · rw [heq]
    exact List.cons_ne_nil _ _
  · exact h.ne_nil

theorem Token.IsDirective.kind_ne (h : token.IsDirective) : token.kind ≠ .text := by
  rcases h with ⟨hkind, -⟩ | ⟨hkind, -⟩ <;> rw [hkind] <;> decide

/-- A text that begins with a directive begins with a token for it. -/
theorem begins_iff : Begins s ↔ ∃ token rest, Token.IsDirective token ∧ s = token.raw ++ rest := by
  constructor
  · rintro ⟨word, raw, rest, hs, h | h⟩
    · exact ⟨⟨.include, word, raw⟩, rest, .inl ⟨rfl, h⟩, hs⟩
    · exact ⟨⟨.variable, word, raw⟩, rest, .inr ⟨rfl, h⟩, hs⟩
  · rintro ⟨token, rest, ⟨-, h⟩ | ⟨-, h⟩, hs⟩
    · exact ⟨_, _, rest, hs, .inl h⟩
    · exact ⟨_, _, rest, hs, .inr h⟩

/-! ### Reading a directive -/

/-- What is read of a run of a class and what follows it, when the next character is not of the
class. -/
theorem takeWhile_append_cons {run : List Char} (hrun : ∀ c ∈ run, p c = true) (hc : p c = false)
    (rest : List Char) :
    (run ++ c :: rest).takeWhile p = run ∧ (run ++ c :: rest).dropWhile p = c :: rest := by
  have hnot : ¬ p c = true := by rw [hc]; exact Bool.false_ne_true
  rw [List.takeWhile_append_of_pos hrun, List.dropWhile_append_of_pos hrun,
    List.takeWhile_cons_of_neg hnot, List.dropWhile_cons_of_neg hnot, List.append_nil]
  exact ⟨rfl, rfl⟩

/-- Braces at the beginning of a text are found as they are spelled. -/
theorem bracedAt?_append (hp : IsWordClass p) (h : IsBraced p word raw) (rest : List Char) :
    bracedAt? p (raw ++ rest) = some (word, raw.length) := by
  obtain ⟨hword, hall, lead, gap, hlead, hgap, rfl⟩ := h
  obtain ⟨c, cs, rfl⟩ := List.exists_cons_of_ne_nil hword
  have hc : Text.isBlank c = false :=
    Bool.eq_false_iff.mpr fun hblank =>
      Bool.false_ne_true ((hp.blank c hblank).symm.trans (hall c List.mem_cons_self))
  have hinner : opening ++ (lead ++ (c :: cs ++ (gap ++ closing))) ++ rest =
      opening ++ (lead ++ c :: (cs ++ (gap ++ (closing ++ rest)))) := by
    simp only [List.append_assoc, List.cons_append]
  obtain ⟨htake, hdrop⟩ := takeWhile_append_cons hlead hc (cs ++ (gap ++ (closing ++ rest)))
  obtain ⟨htake₃, hdrop₃⟩ := takeWhile_append_cons (p := Text.isBlank) (c := '}') hgap (by decide)
    ('}' :: rest)
  -- the word ends at the first blank behind it, or at the brace when there is none
  obtain ⟨htake₂, hdrop₂⟩ : (c :: (cs ++ (gap ++ (closing ++ rest)))).takeWhile p = c :: cs ∧
      (c :: (cs ++ (gap ++ (closing ++ rest)))).dropWhile p = gap ++ (closing ++ rest) := by
    cases gap with
    | nil => exact takeWhile_append_cons hall hp.brace _
    | cons d ds => exact takeWhile_append_cons hall (hp.blank d (hgap d List.mem_cons_self)) _
  have hclosing : Text.stripStart? closing ('}' :: '}' :: rest) = some rest :=
    Text.stripStart?_append closing rest
  have htail : gap ++ (closing ++ rest) = gap ++ '}' :: '}' :: rest := rfl
  rw [hinner, bracedAt?, Text.stripStart?_append]
  simp only [Option.bind_eq_bind, Option.bind_some, htake, hdrop, htake₂, hdrop₂]
  rw [htail, hdrop₃, htake₃, hclosing, Option.bind_some, List.isEmpty_cons, if_neg Bool.false_ne_true]
  simp only [opening, closing, List.length_append, List.length_cons, List.length_nil]
  congr 2
  omega

/-- What is found at the beginning of a text is spelled there. -/
theorem exists_of_bracedAt? (h : bracedAt? p s = some (word, n)) :
    ∃ raw rest, s = raw ++ rest ∧ IsBraced p word raw ∧ n = raw.length := by
  rw [bracedAt?] at h
  simp only [Option.bind_eq_bind, Option.bind_eq_some_iff] at h
  obtain ⟨inner, hinner, rest, hrest, h⟩ := h
  have hs := Text.append_of_stripStart? hinner
  have hclosing := Text.append_of_stripStart? hrest
  have hinner' : inner.takeWhile Text.isBlank ++ inner.dropWhile Text.isBlank = inner :=
    List.takeWhile_append_dropWhile
  set blanks := inner.takeWhile Text.isBlank
  set tail := inner.dropWhile Text.isBlank
  have htail : tail.takeWhile p ++ tail.dropWhile p = tail := List.takeWhile_append_dropWhile
  have hgap : (tail.dropWhile p).takeWhile Text.isBlank ++ (closing ++ rest) = tail.dropWhile p := by
    rw [hclosing, List.takeWhile_append_dropWhile]
  set gap := (tail.dropWhile p).takeWhile Text.isBlank
  split at h
  · exact absurd h (by simp)
  · next hne =>
    obtain ⟨rfl, rfl⟩ := Prod.mk.inj (Option.some.inj h)
    refine ⟨opening ++ (blanks ++ (tail.takeWhile p ++ (gap ++ closing))), rest, ?_,
      ⟨fun hnil => hne (List.isEmpty_iff.mpr hnil), fun c hc => List.mem_takeWhile_imp hc,
        blanks, gap, fun c hc => List.mem_takeWhile_imp hc, fun c hc => List.mem_takeWhile_imp hc,
        rfl⟩, ?_⟩
    · calc s = opening ++ (blanks ++ (tail.takeWhile p ++ (gap ++ (closing ++ rest)))) := by
            rw [hgap, htail, hinner', hs]
        _ = _ := by simp only [List.append_assoc]
    · simp only [opening, closing, List.length_append, List.length_cons, List.length_nil]
      omega

/-- The braces that are found at the beginning of a text are those that are spelled there. -/
theorem bracedAt?_eq_some_iff (hp : IsWordClass p) :
    bracedAt? p s = some (word, n) ↔
      ∃ raw rest, s = raw ++ rest ∧ IsBraced p word raw ∧ n = raw.length := by
  constructor
  · exact exists_of_bracedAt?
  · rintro ⟨raw, rest, rfl, h, rfl⟩
    exact bracedAt?_append hp h rest

/-- An include directive at the beginning of a text is found. -/
theorem includeAt?_append (h : IsInclude word raw) (rest : List Char) :
    includeAt? (raw ++ rest) = some (word, raw.length) := by
  obtain ⟨braces, hbraces, rfl⟩ := h
  rw [includeAt?, List.append_assoc, Text.stripStart?_append]
  simp only [Option.bind_eq_bind, Option.bind_some,
    bracedAt?_append isWordClass_isPathChar hbraces, List.length_append]

/-- An include directive that is found is spelled at the beginning of the text. -/
theorem exists_of_includeAt? (h : includeAt? s = some (word, n)) :
    ∃ raw rest, s = raw ++ rest ∧ IsInclude word raw ∧ n = raw.length := by
  rw [includeAt?] at h
  simp only [Option.bind_eq_bind, Option.bind_eq_some_iff] at h
  obtain ⟨tail, htail, ⟨path, length⟩, hbraced, h⟩ := h
  obtain ⟨rfl, rfl⟩ := Prod.mk.inj (Option.some.inj h)
  obtain ⟨braces, rest, rfl, hbraces, rfl⟩ := exists_of_bracedAt? hbraced
  refine ⟨includeWord ++ braces, rest, ?_, ⟨braces, hbraces, rfl⟩, (List.length_append ..).symm⟩
  rw [List.append_assoc, Text.append_of_stripStart? htail]

/-- No include directive begins where a variable does. -/
theorem includeAt?_of_isVariable (h : IsVariable word raw) (rest : List Char) :
    includeAt? (raw ++ rest) = none := by
  obtain ⟨-, -, lead, gap, -, -, rfl⟩ := h
  rfl

/-- A directive at the beginning of a text is found. -/
theorem directiveAt?_append (h : token.IsDirective) (rest : List Char) :
    directiveAt? (token.raw ++ rest) = some token := by
  obtain ⟨kind, value, raw⟩ := token
  rcases h with ⟨hkind, h⟩ | ⟨hkind, h⟩
  · obtain rfl : kind = .include := hkind
    rw [directiveAt?, includeAt?_append h]
    simp only [List.take_left]
  · obtain rfl : kind = .variable := hkind
    rw [directiveAt?, includeAt?_of_isVariable h, variableAt?,
      bracedAt?_append isWordClass_isNameChar h]
    simp only [List.take_left]

/-- A directive that is found is spelled at the beginning of the text. -/
theorem exists_of_directiveAt? (h : directiveAt? s = some token) :
    token.IsDirective ∧ ∃ rest, s = token.raw ++ rest := by
  rw [directiveAt?] at h
  split at h
  · next path length hinclude =>
    obtain ⟨raw, rest, rfl, hraw, rfl⟩ := exists_of_includeAt? hinclude
    rw [List.take_left] at h
    obtain rfl := Option.some.inj h
    exact ⟨.inl ⟨rfl, hraw⟩, rest, rfl⟩
  · split at h
    · next name length hvariable =>
      obtain ⟨raw, rest, rfl, hraw, rfl⟩ := exists_of_bracedAt? hvariable
      rw [List.take_left] at h
      obtain rfl := Option.some.inj h
      exact ⟨.inr ⟨rfl, hraw⟩, rest, rfl⟩
    · exact absurd h (by simp)

/-- The directive that is found at the beginning of a text is the one that is spelled there, and it
is spelled in one way. -/
theorem directiveAt?_eq_some_iff :
    directiveAt? s = some token ↔ token.IsDirective ∧ ∃ rest, s = token.raw ++ rest := by
  constructor
  · exact exists_of_directiveAt?
  · rintro ⟨h, rest, rfl⟩
    exact directiveAt?_append h rest

/-- Nothing is found just where no directive begins. -/
theorem directiveAt?_eq_none_iff : directiveAt? s = none ↔ ¬ Begins s := by
  rw [begins_iff, Option.eq_none_iff_forall_ne_some]
  constructor
  · rintro h ⟨token, rest, htoken, rfl⟩
    exact h token (directiveAt?_append htoken rest)
  · intro h token htoken
    obtain ⟨hdirective, rest, hs⟩ := exists_of_directiveAt? htoken
    exact h ⟨token, rest, hdirective, hs⟩

end Directive

end StaticSite
