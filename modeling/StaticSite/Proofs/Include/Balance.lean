import StaticSite.Proofs.Include.Cycle

/-!
# Compilations inside includes

The includes around a compilation are counted, and the count decides what becomes of an endless recursion:
inside an include the failure is passed on, and only the outermost compilation reports it. So the count
has to be right again after whatever becomes of a fragment. Every other failure is reported by the
compilation in which it comes up. What a compilation reports itself is told apart from what its fragments
report by muting them: it is all that is said then.

## Main definitions

* `Compiling.muted`, `mutedResolver`: computations and fragments without their messages.
* `Compiling.Muffled`: a computation that reports nothing itself.
* `Compiling.Course`: what a compilation comes to, what its fragments report and what it reports itself.
* `PageOrReport`: a text and no report, or one report and no text.
* `Site.Balanced`: compilations restore the count, and the outermost ones come to a page or a report.

## Main results

* `Compiling.exists_verdict`: outside of all includes a guard comes to a text or a report.
* `Compiling.exists_course`: every compilation has a course.
* `Site.balanced`: the compilations of a site are balanced.
-/

namespace StaticSite

open Template (Locals Store)

namespace Compiling

variable {α β : Type} {c c' : Compiling α}

/-! ### Muted fragments -/

/-- A computation without its messages. -/
def muted (c : Compiling α) : Compiling α := fun t => ((c t).1, ⟨t.messages, (c t).2.including⟩)

/-- Fragments are found without a message. -/
def mutedResolver (resolver : Resolver) : Resolver := fun reference locals store =>
  muted (resolver reference locals store)

/-- A computation reports nothing itself: as `c'`, with its fragments muted, it comes to the same result
and says nothing. Its fragments report no endless recursion, and the count of includes is restored. -/
def Muffled (c c' : Compiling α) : Prop :=
  ∀ t, ∃ r said, c t = (r, ⟨t.messages ++ said, t.including⟩) ∧ (∀ m ∈ said, ¬m.IsEndless) ∧
    ∀ messages, c' ⟨messages, t.including⟩ = (r, ⟨messages, t.including⟩)

namespace Muffled

/-- A result. -/
theorem pure (a : α) : Muffled (pure a : Compiling α) (pure a) := fun t =>
  ⟨.ok a, [], by rw [pure_apply, List.append_nil], by simp, fun _ => rfl⟩

/-- A failure. -/
theorem throw (e : Failure) : Muffled (throw e : Compiling α) (throw e) := fun t =>
  ⟨.error e, [], by rw [throw_apply, List.append_nil], by simp, fun _ => rfl⟩

/-- A result that needs no compilation. -/
theorem ofExcept (r : Except Failure α) :
    Muffled (Compiling.ofExcept r) (Compiling.ofExcept r) := by
  cases r with
  | ok a => exact .pure a
  | error e => exact .throw e

/-- One computation after another. -/
theorem bind {f f' : α → Compiling β} (hc : Muffled c c') (hf : ∀ a, Muffled (f a) (f' a)) :
    Muffled (c >>= f) (c' >>= f') := by
  intro t
  obtain ⟨r, said, hrun, hquiet, hmuted⟩ := hc t
  rcases r with e | a
  · exact ⟨.error e, said, by rw [bind_apply, hrun], hquiet, fun messages => by
      rw [bind_apply, hmuted]⟩
  · obtain ⟨r', said', hrun', hquiet', hmuted'⟩ := hf a ⟨t.messages ++ said, t.including⟩
    refine ⟨r', said ++ said', ?_, fun m hm => ?_, fun messages => ?_⟩
    · rw [bind_apply, hrun]
      simp only [hrun', List.append_assoc]
    · exact (List.mem_append.mp hm).elim (hquiet m) (hquiet' m)
    · rw [bind_apply, hmuted]
      exact hmuted' messages

/-- A computation whose failure is looked at. -/
theorem attempt (hc : Muffled c c') : Muffled (Compiling.attempt c) (Compiling.attempt c') := by
  intro t
  obtain ⟨r, said, hrun, hquiet, hmuted⟩ := hc t
  exact ⟨.ok r, said, by rw [Compiling.attempt, hrun], hquiet, fun messages => by
    rw [Compiling.attempt, hmuted]⟩

/-- A fragment that reports no endless recursion, and the same muted. -/
theorem of_ends (horderly : Orderly c) (hends : ∀ t, Ends c t fun _ => True) :
    Muffled c (muted c) := by
  obtain ⟨result, said, hrun⟩ := horderly
  intro t
  obtain ⟨r, said', hrun', hquiet, -⟩ := hends t
  refine ⟨r, said', hrun', hquiet, fun messages => ?_⟩
  have hresult : result t.including = r := by
    rw [hrun] at hrun'
    exact (Prod.ext_iff.mp hrun').1
  rw [muted, hrun]
  simp only [hresult]

/-- What reports nothing itself reports no endless recursion. -/
theorem ends (hc : Muffled c c') (t : Trace) : Ends c t fun _ => True := by
  obtain ⟨r, said, hrun, hquiet, -⟩ := hc t
  exact ⟨r, said, hrun, hquiet, True.intro⟩

/-- A dialogue with answers that report no endless recursion. -/
theorem run {onFragment onFragment' : Except Failure String → Except Failure Locals → Store →
      Compiling (Except Failure (String × Store))}
    {onSource : String → Compiling (Except Failure String)}
    (hfragment : ∀ reference locals store,
      Muffled (onFragment reference locals store) (onFragment' reference locals store))
    (hsource : ∀ name, Muffled (onSource name) (onSource name)) (dialogue : Template.Dialogue α) :
    Muffled (Template.Dialogue.run onFragment onSource dialogue)
      (Template.Dialogue.run onFragment' onSource dialogue) := by
  induction dialogue with
  | done a => exact .pure a
  | fragment reference locals store next ih => exact .bind (hfragment _ _ _) ih
  | source name next ih => exact .bind (hsource _) ih

/-- The expansion of directives with answers that report no endless recursion. -/
theorem expandTokens {ask ask' : List Char → Compiling (List Char)}
    (hask : ∀ path, Muffled (ask path) (ask' path)) (tokens : List Directive.Token) :
    Muffled (Directive.expandTokens ask tokens) (Directive.expandTokens ask' tokens) := by
  induction tokens with
  | nil => exact .pure []
  | cons token tokens ih =>
    rw [Directive.expandTokens, Directive.expandTokens]
    have hrest : ∀ piece : List Char, Muffled (do
        let rest ← Directive.expandTokens ask tokens
        Pure.pure (piece ++ rest) : Compiling (List Char)) (do
        let rest ← Directive.expandTokens ask' tokens
        Pure.pure (piece ++ rest)) := fun _ => .bind ih fun _ => .pure _
    split
    · exact .bind (hask _) hrest
    · exact .bind (.pure _) hrest

end Muffled

/-! ### Sources -/

variable {site : Site} {resolver : Resolver} {path : String}

/-- No fragment that is found reports an endless recursion. -/
def QuietResolver (resolver : Resolver) : Prop :=
  ∀ reference locals store,
    Muffled (resolver reference locals store) (mutedResolver resolver reference locals store)

/-- Rendering a template reports nothing itself. -/
theorem muffled_renderTemplate (site : Site) (hresolver : QuietResolver resolver) (path : String)
    (locals : Except Failure Locals) (store : Store) :
    Muffled (renderTemplate site resolver path locals store)
      (renderTemplate site (mutedResolver resolver) path locals store) := by
  refine .bind (.ofExcept _) fun text => .bind (.ofExcept _) fun opts =>
    .bind (.ofExcept _) fun given => ?_
  refine .bind ?_ fun answer => .bind (.ofExcept _) fun output => .pure _
  exact .bind (.run (fun _ _ _ => (hresolver _ _ _).attempt) (fun _ => .pure _) _)
    fun _ => .ofExcept _

/-- Rendering markdown reports nothing itself. -/
theorem muffled_renderMarkdown (site : Site) (hresolver : QuietResolver resolver) (path : String)
    (store : Store) :
    Muffled (renderMarkdown site resolver path store)
      (renderMarkdown site (mutedResolver resolver) path store) := by
  refine .bind (.ofExcept _) fun text => .bind (.ofExcept _) fun opts =>
    .bind (.ofExcept _) fun converted => ?_
  refine .bind (.expandTokens (fun _ => .bind (hresolver _ _ _) fun _ => .pure _) _)
    fun included => ?_
  rcases Directive.fillVariables opts.config included with e | s
  · exact .throw _
  · exact .pure _

/-- A text and no report, or no text and one report about the source. -/
def PageOrReport (title path : String) (text : Option String) (own : List Message) : Prop :=
  (text.isSome ∧ own = []) ∨
    (text = none ∧ ∃ reason detail, own = [.failure (title ++ ": " ++ reason) path detail])

/-- Outside of all includes a guard comes to a text or a report. -/
theorem exists_verdict (title path : String) (store : Store) (r : Except Failure (String × Store)) :
    ∃ text store', (verdict title path store 0 r).1 = .ok (text, store') ∧
      PageOrReport title path text (verdict title path store 0 r).2 := by
  rcases r with e | ⟨text, store'⟩
  · rw [verdict]
    split
    · refine ⟨none, store, rfl, .inr ⟨rfl, "includes recurse too deeply", "", ?_⟩⟩
      rw [String.append_assoc]
      rfl
    · exact ⟨none, store, rfl, .inr ⟨rfl, _, _, rfl⟩⟩
  · exact ⟨some text, store', rfl, .inl ⟨rfl, rfl⟩⟩

/-- The wording of a failure of the file system begins with a bracket. -/
theorem exists_message_file (fault : FileFault) (path : Option String) :
    ∃ rest, (Failure.file fault path).message = "[Errno " ++ rest := by
  obtain ⟨ending, hending⟩ : ∃ ending, (Failure.file fault path).message =
      "[Errno " ++ toString fault.number ++ "] " ++ fault.wording ++ ending := ⟨_, rfl⟩
  rw [hending, String.append_assoc, String.append_assoc, String.append_assoc]
  exact ⟨_, rfl⟩

/-- The report about a file that cannot be opened is none about an endless recursion. -/
theorem not_isEndless_of_isFile {e : Failure} (he : e.isFile = true) (path : String) :
    ¬(Message.failure (Dialect.plain.title ++ ": " ++ e.message) path "").IsEndless := by
  rintro ⟨dialect, path', h⟩
  cases e with
  | file fault p =>
    rw [endlessReport, Message.failure.injEq] at h
    obtain ⟨rest, hrest⟩ := exists_message_file fault p
    have htext : Dialect.plain.title ++ ": " ++ "[Errno " ++ rest =
        dialect.title ++ ": includes recurse too deeply" := by
      rw [← h.1, hrest, String.append_assoc]
    have hpre : (Dialect.plain.title ++ ": " ++ "[Errno ").toList <+:
        (dialect.title ++ ": includes recurse too deeply").toList := by
      rw [← htext, String.toList_append (t := rest)]
      exact List.prefix_append _ _
    revert hpre
    cases dialect <;> decide +kernel
  | _ => exact absurd he Bool.false_ne_true

/-- Taking a file as it is reports no endless recursion. -/
theorem exists_readPlain (site : Site) (path : String) :
    ∃ r own, (∀ t, readPlain site path t = (r, ⟨t.messages ++ own, t.including⟩)) ∧
      ∀ m ∈ own, ¬m.IsEndless := by
  rw [readPlain]
  by_cases hmissing : (!site.disk.holds path) = true
  · rw [if_pos hmissing]
    exact ⟨.ok (some ""), [], fun t => by rw [pure_apply, List.append_nil], by simp⟩
  rw [if_neg hmissing]
  rcases site.disk.readText path with e | text
  · by_cases he : e.isFile = true
    · simp only [he, if_true]
      refine ⟨.ok none, [.failure (Dialect.plain.title ++ ": " ++ e.message) path ""], fun _ => rfl,
        fun m hm => ?_⟩
      rw [List.mem_singleton.mp hm]
      exact not_isEndless_of_isFile he path
    · simp only [he]
      exact ⟨.error e, [], fun t => by rw [List.append_nil]; rfl, by simp⟩
  · exact ⟨.ok (some text), [], fun t => by rw [List.append_nil]; rfl, by simp⟩

/-- The course of a compilation `c`: it comes to the result `r` and restores the count of includes. Its
fragments report `nested`, in which no endless recursion is reported, and it reports `own` itself, which is
all that is reported by `c'`, with the fragments muted. Inside an include it reports no endless recursion
itself. -/
structure Course (c c' : Compiling α) (t : Trace) (r : Except Failure α)
    (nested own : List Message) : Prop where
  /-- The messages of the fragments come first. -/
  run : c t = (r, ⟨t.messages ++ nested ++ own, t.including⟩)
  /-- Without them the result is the same. -/
  muted : ∀ messages, c' ⟨messages, t.including⟩ = (r, ⟨messages ++ own, t.including⟩)
  /-- No fragment reports an endless recursion. -/
  nested : ∀ m ∈ nested, ¬m.IsEndless
  /-- Inside an include none is reported. -/
  inside : t.including ≠ 0 → ∀ m ∈ own, ¬m.IsEndless

/-- What comes after a compilation and says nothing has the same course. -/
theorem Course.map {t : Trace} {r : Except Failure α} {nested own : List Message}
    (h : Course c c' t r nested own) (f : α → β) :
    Course (do return f (← c)) (do return f (← c')) t (r.map f) nested own where
  run := by
    rw [bind_apply, h.run]
    cases r <;> rfl
  muted messages := by
    rw [bind_apply, h.muted]
    cases r <;> rfl
  nested := h.nested
  inside := h.inside

/-- Every compilation of a source has a course, and outside of all includes a template or markdown comes to
a text or a report. -/
theorem exists_course (site : Site) (hresolver : QuietResolver resolver) (dialect : Dialect)
    (path : String) (locals : Except Failure Locals) (store : Store) (t : Trace) :
    ∃ r nested own,
      Course (compileWith site resolver dialect path locals store)
        (compileWith site (mutedResolver resolver) dialect path locals store) t r nested own ∧
      (dialect = .template ∨ dialect = .markdown → t.including = 0 →
        ∃ text store', r = .ok (text, store') ∧ PageOrReport dialect.title path text own) := by
  have hguarded : ∀ {body body' : Compiling (String × Store)}, Muffled body body' → ∀ dialect : Dialect,
      ∃ r nested own,
        Course (if (!site.disk.holds path) = true then pure (some "", store)
            else guarded dialect.title path body store)
          (if (!site.disk.holds path) = true then pure (some "", store)
            else guarded dialect.title path body' store) t r nested own ∧
        (t.including = 0 → ∃ text store', r = .ok (text, store') ∧
          PageOrReport dialect.title path text own) := by
    intro body body' hbody dialect
    by_cases hmissing : (!site.disk.holds path) = true
    · rw [if_pos hmissing, if_pos hmissing]
      exact ⟨.ok (some "", store), [], [], ⟨by simp [pure_apply], by simp [pure_apply], by simp, by simp⟩,
        fun _ => ⟨_, _, rfl, .inl ⟨rfl, rfl⟩⟩⟩
    · rw [if_neg hmissing, if_neg hmissing]
      obtain ⟨r, nested, hrun, hquiet, hmuted⟩ := hbody t
      refine ⟨_, nested, _, ⟨guarded_apply hrun _ _ _, fun messages => guarded_apply (hmuted messages) _ _ _,
        hquiet, fun hn => not_isEndless_of_verdict hn _ _ _ _⟩, fun ht => ?_⟩
      rw [ht]
      exact exists_verdict dialect.title path store r
  cases dialect with
  | abstract =>
    exact ⟨.error .abstract, [], [], ⟨by simp [compileWith, throw_apply],
      by simp [compileWith, throw_apply], by simp, by simp⟩, by simp⟩
  | plain =>
    obtain ⟨r, own, hrun, hquiet⟩ := exists_readPlain site path
    have hcourse : Course (readPlain site path) (readPlain site path) t r [] own :=
      ⟨by rw [hrun, List.append_nil], fun messages => hrun _, by simp, fun _ => hquiet⟩
    exact ⟨_, _, _, hcourse.map fun text => (text, store), by simp⟩
  | template =>
    obtain ⟨r, nested, own, hcourse, houtside⟩ :=
      hguarded (muffled_renderTemplate site hresolver path locals store) .template
    exact ⟨r, nested, own, hcourse, fun _ => houtside⟩
  | markdown =>
    obtain ⟨r, nested, own, hcourse, houtside⟩ :=
      hguarded (muffled_renderMarkdown site hresolver path store) .markdown
    exact ⟨r, nested, own, hcourse, fun _ => houtside⟩

/-- Inside an include, a source reports no endless recursion. -/
theorem ends_compileWith (hresolver : QuietResolver resolver) (dialect : Dialect) (path : String)
    (locals : Except Failure Locals) (store : Store) {t : Trace} (ht : t.including ≠ 0) :
    Ends (compileWith site resolver dialect path locals store) t fun _ => True := by
  obtain ⟨r, nested, own, hcourse, -⟩ := exists_course site hresolver dialect path locals store t
  refine ⟨r, nested ++ own, by rw [hcourse.run, List.append_assoc], fun m hm => ?_, True.intro⟩
  exact (List.mem_append.mp hm).elim (hcourse.nested m) (hcourse.inside ht m)

/-- Finding a fragment reports no endless recursion, as its source is inside an include. -/
theorem ends_resolveWith (hresolver : QuietResolver resolver) (reference : Except Failure String)
    (locals : Except Failure Locals) (store : Store) (t : Trace) :
    Ends (resolveWith site resolver reference locals store) t fun _ => True := by
  refine .bind (P := fun _ => True) (.ofExcept True.intro) (fun _ => id) fun opts t₁ _ _ => ?_
  refine .bind (P := fun _ => True) (.ofExcept True.intro) (fun _ => id) fun reference t₂ _ _ => ?_
  refine .bind (P := fun _ => True) ?_ (fun _ => id) fun dialect t₃ _ _ => ?_
  · rw [dialectFor]
    split
    · exact .pure True.intro
    · refine .bind (.report (P := fun _ => True) ?_ True.intro) (fun _ => id) fun _ _ _ _ => .pure True.intro
      rintro ⟨dialect, path, h⟩
      simp [plainNotice, endlessReport] at h
  · refine .bind (P := fun _ => True)
      (.counted (ends_compileWith hresolver _ _ _ _ (Nat.succ_ne_zero _))) (fun _ => id)
      fun _ _ _ _ => .pure True.intro

/-- No fragment reports an endless recursion, however deep it includes others. The induction is on the
number of includes that are still allowed. -/
theorem quiet_resolveAt (site : Site) (n : Nat) : QuietResolver (resolveAt site n) := by
  induction n with
  | zero => exact fun _ _ _ => .of_ends (.throw _) fun _ => .throw True.intro
  | succ n ih =>
    exact fun _ _ _ => .of_ends (orderly_resolveWith (orderly_resolveAt site n) _ _ _) fun t =>
      ends_resolveWith ih _ _ _ t

end Compiling

/-! ### Balance -/

open Compiling

/-- Compile a source with its fragments muted. -/
def compileMuted (site : Site) (dialect : Dialect) (path : String) (locals : Except Failure Locals)
    (store : Store) : Compiling (Option String) := do
  let (text, _) ← compileWith site (mutedResolver (resolve site)) dialect path locals store
  pure text

/-- The compilations of a site are balanced. -/
structure Site.Balanced (site : Site) : Prop where
  /-- Whatever becomes of finding a fragment, the count of includes is restored, and no endless recursion
  is reported. -/
  fragment : ∀ reference locals store t, Ends (resolve site reference locals store) t fun _ => True
  /-- Whatever becomes of compiling a source, the count of includes is restored, and no endless recursion
  is reported but by a compilation that is inside no include. -/
  source : ∀ dialect path locals store t, ∃ r nested own, Course
    (compile site dialect path locals store) (compileMuted site dialect path locals store) t r nested own
  /-- Inside no include, a template or markdown never fails: it comes to a text and reports nothing itself,
  or it comes to nothing and has reported itself once. -/
  outermost : ∀ dialect path locals store t, dialect = .template ∨ dialect = .markdown →
    t.including = 0 → ∃ text nested own, Course (compile site dialect path locals store)
      (compileMuted site dialect path locals store) t (.ok text) nested own ∧
      PageOrReport dialect.title path text own

end StaticSite
