import StaticSite.Proofs.Directive.Substitution
import StaticSite.Proofs.Site.Compiling

/-!
# The include stage asks once for every directive

The include stage cuts a text at its include directives, asks for the fragment of each from left to
right, and puts the answers where the directives were. What it asks for is settled by the text before
the first question: no answer, whatever it holds and whatever the questions do to the world, adds a
question, drops one or moves one. Only a failure ends the questions early, and then it is the
outcome.

Whoever is asked is any computation with a state of its own that may fail. To see the questions, it
is made to note them down.

## Main definitions

* `cutAtIncludes`, `assemble`: a text cut at its include directives, and put together again.
* `noting`: an ask that notes its questions down.
* `Answered`: how a row of questions is answered.

## Main results

* `expandTokens_eq_mapM`: the questions first, the text from the answers.
* `expandIncludes_in_order`: which questions are asked, and what comes out.
-/

namespace StaticSite.Directive

variable {tokens : List Token} {token : Token}

/-! ### Cutting at the include directives -/

/-- The include directives among some tokens. -/
def includes (tokens : List Token) : List Token := tokens.filter fun token => token.kind = .include

theorem includes_include (h : token.kind = .include) (tokens : List Token) :
    includes (token :: tokens) = token :: includes tokens :=
  List.filter_cons_of_pos (decide_eq_true h)

theorem includes_other (h : token.kind ≠ .include) (tokens : List Token) :
    includes (token :: tokens) = includes tokens :=
  List.filter_cons_of_neg fun hkind => h (of_decide_eq_true hkind)

/-- The text before the first include directive, and each include directive with the text behind
it. -/
def cutAtIncludes : List Token → List Char × List (Token × List Char)
  | [] => ([], [])
  | token :: tokens =>
    let cut := cutAtIncludes tokens
    if token.kind = .include then ([], (token, cut.1) :: cut.2) else (token.raw ++ cut.1, cut.2)

theorem cutAtIncludes_include (h : token.kind = .include) (tokens : List Token) :
    cutAtIncludes (token :: tokens) =
      ([], (token, (cutAtIncludes tokens).1) :: (cutAtIncludes tokens).2) := if_pos h

theorem cutAtIncludes_other (h : token.kind ≠ .include) (tokens : List Token) :
    cutAtIncludes (token :: tokens) =
      (token.raw ++ (cutAtIncludes tokens).1, (cutAtIncludes tokens).2) := if_neg h

/-- The cuts are at the include directives. -/
theorem map_fst_cutAtIncludes (tokens : List Token) :
    (cutAtIncludes tokens).2.map Prod.fst = includes tokens := by
  induction tokens with
  | nil => rfl
  | cons token tokens ih =>
    by_cases h : token.kind = .include
    · rw [cutAtIncludes_include h, includes_include h, List.map_cons, ih]
    · rw [cutAtIncludes_other h, includes_other h, ih]

/-- A cut text with other texts in the places of its include directives. -/
def assemble (cut : List Char × List (Token × List Char)) (pieces : List (List Char)) : List Char :=
  cut.1 ++ (List.zipWith (fun piece (behind : Token × List Char) => piece ++ behind.2) pieces
    cut.2).flatten

/-- The first piece stands in front of the text behind the first directive. -/
theorem assemble_cons (directive : Token) (cut : List Char × List (Token × List Char))
    (piece : List Char) (pieces : List (List Char)) :
    assemble ([], (directive, cut.1) :: cut.2) (piece :: pieces) = piece ++ assemble cut pieces := by
  simp only [assemble, List.zipWith_cons_cons, List.flatten_cons, List.nil_append, List.append_assoc]

/-- Text in front of a cut text stands in front of the result. -/
theorem assemble_append (lead : List Char) (cut : List Char × List (Token × List Char))
    (pieces : List (List Char)) :
    assemble (lead ++ cut.1, cut.2) pieces = lead ++ assemble cut pieces := by
  simp only [assemble, List.append_assoc]

/-- With the directives in their own places the text is what it was. -/
theorem assemble_raw (tokens : List Token) :
    assemble (cutAtIncludes tokens) ((includes tokens).map Token.raw) = spell tokens := by
  induction tokens with
  | nil => rfl
  | cons token tokens ih =>
    rw [spell, List.flatMap_cons, ← spell, ← ih]
    by_cases h : token.kind = .include
    · rw [cutAtIncludes_include h, includes_include h, List.map_cons, assemble_cons]
    · rw [cutAtIncludes_other h, includes_other h, assemble_append]

/-- The include stage asks all its questions and makes the text from the answers. -/
theorem expandTokens_eq_mapM {m : Type → Type} [Monad m] [LawfulMonad m]
    (ask : List Char → m (List Char)) (tokens : List Token) :
    expandTokens ask tokens =
      assemble (cutAtIncludes tokens) <$> ((includes tokens).map Token.value).mapM ask := by
  rw [expandTokens_eq_substitute]
  induction tokens with
  | nil =>
    rw [substitute, includes, List.filter_nil, List.map_nil, List.mapM_nil, map_pure]
    rfl
  | cons token tokens ih =>
    rw [substitute, ih, includePiece]
    by_cases h : token.kind = .include
    · rw [if_pos h, cutAtIncludes_include h, includes_include h, List.map_cons, List.mapM_cons]
      simp only [map_eq_pure_bind, bind_assoc, pure_bind, assemble_cons]
    · rw [if_neg h, cutAtIncludes_other h, includes_other h]
      simp only [map_eq_pure_bind, bind_assoc, pure_bind, assemble_append]

/-! ### Questions and answers -/

section Asking

variable {σ ε : Type} {ask : List Char → ExceptT ε (StateM σ) (List Char)} {path answer : List Char}
  {paths asked unasked answers : List (List Char)} {u v w : σ} {e : ε}

/-- A row of questions is answered, one after the other, from one state to another. -/
inductive Answered (ask : List Char → ExceptT ε (StateM σ) (List Char)) :
    List (List Char) → σ → List (List Char) → σ → Prop
  /-- No question is asked. -/
  | nil (u : σ) : Answered ask [] u [] u
  /-- A question is answered, and then the others. -/
  | cons {path answer : List Char} {paths answers : List (List Char)} {u v w : σ}
      (first : ask path u = (.ok answer, v)) (others : Answered ask paths v answers w) :
      Answered ask (path :: paths) u (answer :: answers) w

/-- Ask, and note the question down. -/
def noting (ask : List Char → ExceptT ε (StateM σ) (List Char)) (path : List Char) :
    ExceptT ε (StateM (σ × List (List Char))) (List Char) := fun (u, noted) =>
  match ask path u with
  | (answer, v) => (answer, (v, noted ++ [path]))

theorem noting_apply {r : Except ε (List Char)} (h : ask path u = (r, v))
    (noted : List (List Char)) : noting ask path (u, noted) = (r, (v, noted ++ [path])) := by
  rw [noting, h]

namespace Answered

/-- There are as many answers as questions. -/
theorem length_eq (h : Answered ask paths u answers v) : answers.length = paths.length := by
  induction h with
  | nil => rfl
  | cons _ _ ih => rw [List.length_cons, List.length_cons, ih]

/-- Questions that are noted down are answered as they would be, and noted in their order. -/
theorem noting (h : Answered ask paths u answers v) (noted : List (List Char)) :
    Answered (noting ask) paths (u, noted) answers (v, noted ++ paths) := by
  induction h generalizing noted with
  | nil u =>
    rw [List.append_nil]
    exact .nil _
  | cons first _ ih =>
    rw [List.append_cons]
    exact .cons (noting_apply first noted) (ih _)

/-- Asking a row of questions that are answered gives the answers. -/
theorem mapM_eq (h : Answered ask paths u answers v) : paths.mapM ask u = (.ok answers, v) := by
  induction h with
  | nil u => rw [List.mapM_nil, pure_apply]
  | cons first _ ih =>
    rw [List.mapM_cons, bind_apply, first]
    dsimp only
    rw [bind_apply, ih]
    rfl

/-- A question that fails behind questions that are answered is the last one. -/
theorem mapM_eq_error (h : Answered ask asked u answers v) (hfail : ask path v = (.error e, w))
    (unasked : List (List Char)) : (asked ++ path :: unasked).mapM ask u = (.error e, w) := by
  induction h with
  | nil u =>
    rw [List.nil_append, List.mapM_cons, bind_apply, hfail]
  | cons first _ ih =>
    rw [List.cons_append, List.mapM_cons, bind_apply, first]
    dsimp only
    rw [bind_apply, ih hfail]

end Answered

/-- Either all questions of a row are answered, or those before the first one that fails. -/
theorem exists_answered (ask : List Char → ExceptT ε (StateM σ) (List Char))
    (paths : List (List Char)) (u : σ) :
    (∃ answers v, Answered ask paths u answers v) ∨
      ∃ asked path unasked answers v e w, paths = asked ++ path :: unasked ∧
        Answered ask asked u answers v ∧ ask path v = (.error e, w) := by
  induction paths generalizing u with
  | nil => exact .inl ⟨[], u, .nil u⟩
  | cons path paths ih =>
    rcases hfirst : ask path u with ⟨e | answer, v⟩
    · exact .inr ⟨[], path, paths, [], u, e, v, rfl, .nil u, hfirst⟩
    · rcases ih v with ⟨answers, w, hall⟩ | ⟨asked, next, unasked, answers, w, e, x, rfl, hsome, hfail⟩
      · exact .inl ⟨answer :: answers, w, .cons hfirst hall⟩
      · exact .inr ⟨path :: asked, next, unasked, answer :: answers, w, e, x, rfl,
          .cons hfirst hsome, hfail⟩

/-- All questions answered: the answers stand in the places of the directives. -/
theorem expandTokens_of_answered (h : Answered ask ((includes tokens).map Token.value) u answers v) :
    expandTokens ask tokens u = (.ok (assemble (cutAtIncludes tokens) answers), v) := by
  rw [expandTokens_eq_mapM, map_eq_pure_bind, bind_apply, h.mapM_eq]
  rfl

/-- A question fails: there is no other outcome, and no other question. -/
theorem expandTokens_of_error (hpaths : (includes tokens).map Token.value = asked ++ path :: unasked)
    (h : Answered ask asked u answers v) (hfail : ask path v = (.error e, w)) :
    expandTokens ask tokens u = (.error e, w) := by
  rw [expandTokens_eq_mapM, map_eq_pure_bind, bind_apply, hpaths, h.mapM_eq_error hfail]

end Asking

/-- **The include stage asks once for every include directive, from left to right.** A text is cut
at its include directives, whatever is asked and answered. If all questions are answered, they are
the paths of the directives in their order, and the result is the text with each directive replaced
by its answer. Otherwise the questions end with the first one that fails, and its failure is the
outcome. -/
theorem expandIncludes_in_order (s : List Char) :
    (cutAtIncludes (tokenize s)).2.map Prod.fst = includes (tokenize s) ∧
    assemble (cutAtIncludes (tokenize s)) ((includes (tokenize s)).map Token.raw) = s ∧
    ∀ (σ ε : Type) (ask : List Char → ExceptT ε (StateM σ) (List Char)) (u : σ),
      (∃ answers v, Answered ask ((includes (tokenize s)).map Token.value) u answers v ∧
        answers.length = (includes (tokenize s)).length ∧
        expandIncludes ask s u = (.ok (assemble (cutAtIncludes (tokenize s)) answers), v) ∧
        expandIncludes (noting ask) s (u, []) =
          (.ok (assemble (cutAtIncludes (tokenize s)) answers),
            (v, (includes (tokenize s)).map Token.value))) ∨
      ∃ asked path unasked answers v e w,
        (includes (tokenize s)).map Token.value = asked ++ path :: unasked ∧
        Answered ask asked u answers v ∧ ask path v = (.error e, w) ∧
        expandIncludes ask s u = (.error e, w) ∧
        expandIncludes (noting ask) s (u, []) = (.error e, (w, asked ++ [path])) := by
  refine ⟨map_fst_cutAtIncludes _, (assemble_raw _).trans (leftmost_tokenize s).spelled,
    fun σ ε ask u => ?_⟩
  rcases exists_answered ask ((includes (tokenize s)).map Token.value) u with
    ⟨answers, v, hall⟩ | ⟨asked, path, unasked, answers, v, e, w, hpaths, hsome, hfail⟩
  · exact .inl ⟨answers, v, hall, hall.length_eq.trans (List.length_map _),
      expandTokens_of_answered hall, expandTokens_of_answered (hall.noting [])⟩
  · exact .inr ⟨asked, path, unasked, answers, v, e, w, hpaths, hsome, hfail,
      expandTokens_of_error hpaths hsome hfail,
      expandTokens_of_error hpaths (hsome.noting []) (noting_apply hfail _)⟩

end StaticSite.Directive
