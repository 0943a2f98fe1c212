import Mathlib.Tactic.Choose
import StaticSite.Site.Compile

/-!
# What a compilation leaves behind

A compilation reports messages and counts the includes around it, and does nothing else. Each of them is
*orderly*: its result and its messages depend on the count alone, messages are only added, and the
count is restored. From this follows that the compilation of a view never fails as a whole, and that it
gives the same page whatever was reported before.

## Main definitions

* `Compiling.Orderly`: the computations that only report and restore the count.
* `Compiling.verdict`: what is made of the outcome of a source.
* `Site.pageOf`: what a view compiles to.

## Main results

* `Compiling.orderly_resolve`, `Compiling.orderly_compile`: compilations are orderly.
* `Site.compile_apply`: a view compiles to its page, and only messages are added.
-/

namespace StaticSite

/-! ### Computations applied to a state -/

section Apply

variable {σ ε α β : Type}

/-- A computation goes on with the result of the one before it, unless that failed. -/
theorem bind_apply (x : ExceptT ε (StateM σ) α) (f : α → ExceptT ε (StateM σ) β) (s : σ) :
    (x >>= f) s =
      match x s with
      | (.ok a, s') => f a s'
      | (.error e, s') => (.error e, s') := by
  simp only [bind, ExceptT.bind, ExceptT.mk, StateT.bind, ExceptT.bindCont]
  rcases x s with ⟨r, s'⟩
  cases r <;> rfl

/-- What comes to a result had a result to go on with. -/
theorem exists_of_bind_ok {x : ExceptT ε (StateM σ) α} {f : α → ExceptT ε (StateM σ) β} {s s' : σ} {b : β}
    (h : (x >>= f) s = (.ok b, s')) : ∃ a s₁, x s = (.ok a, s₁) ∧ f a s₁ = (.ok b, s') := by
  rw [bind_apply] at h
  rcases hx : x s with ⟨e | a, s₁⟩
  · rw [hx] at h
    exact absurd (Prod.ext_iff.mp h).1 (by simp)
  · rw [hx] at h
    exact ⟨a, s₁, rfl, h⟩

/-- A result leaves the state alone. -/
theorem pure_apply (a : α) (s : σ) : (pure a : ExceptT ε (StateM σ) α) s = (.ok a, s) := rfl

/-- A failure leaves the state alone. -/
theorem throw_apply (e : ε) (s : σ) : (throw e : ExceptT ε (StateM σ) α) s = (.error e, s) := rfl

/-- The state is read. -/
theorem get_apply (s : σ) : (get : ExceptT ε (StateM σ) σ) s = (.ok s, s) := rfl

/-- A choice is applied by applying what is chosen. -/
theorem ite_apply' (c : Prop) [Decidable c] (x y : ExceptT ε (StateM σ) α) (s : σ) :
    (if c then x else y) s = if c then x s else y s := by
  split <;> rfl

end Apply

namespace Compiling

variable {α β : Type}

/-! ### Orderly computations -/

/-- The result and the messages depend on the number of includes around the computation, which is
restored. -/
def Orderly (c : Compiling α) : Prop :=
  ∃ (result : Nat → Except Failure α) (said : Nat → List Message), ∀ t : Trace,
    c t = (result t.including, ⟨t.messages ++ said t.including, t.including⟩)

namespace Orderly

/-- A result. -/
theorem pure (a : α) : Orderly (pure a : Compiling α) :=
  ⟨fun _ => .ok a, fun _ => [], fun t => by rw [pure_apply, List.append_nil]⟩

/-- A failure. -/
theorem throw (e : Failure) : Orderly (throw e : Compiling α) :=
  ⟨fun _ => .error e, fun _ => [], fun t => by rw [throw_apply, List.append_nil]⟩

/-- A message. -/
theorem report (m : Message) : Orderly (Compiling.report m) :=
  ⟨fun _ => .ok (), fun _ => [m], fun _ => rfl⟩

/-- A result that needs no compilation. -/
theorem ofExcept (r : Except Failure α) : Orderly (Compiling.ofExcept r) := by
  cases r with
  | ok a => exact .pure a
  | error e => exact .throw e

/-- One computation after another. -/
theorem bind {c : Compiling α} {f : α → Compiling β} (hc : Orderly c) (hf : ∀ a, Orderly (f a)) :
    Orderly (c >>= f) := by
  obtain ⟨result, said, hc⟩ := hc
  choose results saids hf using hf
  refine ⟨fun n => (result n).bind fun a => results a n,
    fun n => said n ++ ((result n).toOption.elim [] fun a => saids a n), fun t => ?_⟩
  rw [bind_apply, hc]
  rcases h : result t.including with e | a
  · simp [h, Except.bind, Except.toOption]
  · simp [h, hf, Except.bind, Except.toOption]

/-- A computation whose failure is looked at. -/
theorem attempt {c : Compiling α} (hc : Orderly c) : Orderly (Compiling.attempt c) := by
  obtain ⟨result, said, hc⟩ := hc
  exact ⟨fun n => .ok (result n), said, fun t => by rw [Compiling.attempt, hc]⟩

/-- A choice. -/
theorem ite {c c' : Compiling α} (p : Prop) [Decidable p] (hc : Orderly c) (hc' : Orderly c') :
    Orderly (if p then c else c') := by
  split
  · exact hc
  · exact hc'

/-- A computation inside one include more. -/
theorem counted {c : Compiling α} (hc : Orderly c) : Orderly (StaticSite.counted c) := by
  obtain ⟨result, said, hc⟩ := hc
  exact ⟨fun n => result (n + 1), fun n => said (n + 1), fun t => by
    rw [StaticSite.counted, hc]
    simp only [Nat.add_sub_cancel]⟩

/-- A dialogue with orderly answers. -/
theorem run {onFragment : Except Failure String → Except Failure Template.Locals → Template.Store →
      Compiling (Except Failure (String × Template.Store))}
    {onSource : String → Compiling (Except Failure String)}
    (hfragment : ∀ reference locals store, Orderly (onFragment reference locals store))
    (hsource : ∀ name, Orderly (onSource name)) (dialogue : Template.Dialogue α) :
    Orderly (Template.Dialogue.run onFragment onSource dialogue) := by
  induction dialogue with
  | done a => exact .pure a
  | fragment reference locals store next ih => exact .bind (hfragment _ _ _) ih
  | source name next ih => exact .bind (hsource _) ih

/-- The expansion of directives with orderly answers. -/
theorem expandTokens {ask : List Char → Compiling (List Char)} (hask : ∀ path, Orderly (ask path))
    (tokens : List Directive.Token) : Orderly (Directive.expandTokens ask tokens) := by
  induction tokens with
  | nil => exact .pure []
  | cons token tokens ih =>
    rw [Directive.expandTokens]
    have hrest : ∀ piece : List Char, Orderly (do
        let rest ← Directive.expandTokens ask tokens
        Pure.pure (piece ++ rest) : Compiling (List Char)) := fun _ => .bind ih fun _ => .pure _
    split
    · exact .bind (hask _) hrest
    · exact .bind (.pure _) hrest

end Orderly

/-! ### Compilations are orderly -/

/-- How fragments are found is orderly. -/
def OrderlyResolver (resolver : Resolver) : Prop :=
  ∀ reference locals store, Orderly (resolver reference locals store)

variable {site : Site} {resolver : Resolver} {path : String}

/-- What a guard makes of an outcome inside of `n` includes, and what it reports about it. -/
def verdict (title path : String) (store : Template.Store) (n : Nat) :
    Except Failure (String × Template.Store) →
      Except Failure (Option String × Template.Store) × List Message
  | .ok (text, store') => (.ok (some text, store'), [])
  | .error e =>
    if e = .tooDeep then
      if n = 0 then
        (.ok (none, store), [.failure (title ++ ": includes recurse too deeply") path ""])
      else (.error .tooDeep, [])
    else (.ok (none, store), [.failure (title ++ ": " ++ e.message) path failureDetail])

/-- A guarded compilation has the outcome that the guard makes of that of its body. -/
theorem guarded_apply {body : Compiling (String × Template.Store)} {t : Trace} {n : Nat}
    {r : Except Failure (String × Template.Store)} {messages : List Message}
    (hbody : body t = (r, ⟨messages, n⟩)) (title path : String) (store : Template.Store) :
    guarded title path body store t =
      ((verdict title path store n r).1, ⟨messages ++ (verdict title path store n r).2, n⟩) := by
  rw [guarded, bind_apply, attempt, hbody]
  rcases r with e | ⟨text, store'⟩
  · by_cases he : e = .tooDeep
    · subst he
      rw [verdict, if_pos rfl]
      simp only
      rw [bind_apply, get_apply]
      by_cases hn : n = 0
      · simp only [hn]
        rfl
      · simp only [bne_iff_ne, ne_eq, hn, not_false_eq_true, if_true, if_false, List.append_nil]
        rfl
    · rw [verdict, if_neg he]
      cases e <;> first | exact absurd rfl he | rfl
  · simp only [verdict, List.append_nil]
    rfl

/-- A guarded compilation is orderly. -/
theorem orderly_guarded {body : Compiling (String × Template.Store)} (hbody : Orderly body)
    (title path : String) (store : Template.Store) : Orderly (guarded title path body store) := by
  obtain ⟨result, said, hbody⟩ := hbody
  refine ⟨fun n => (verdict title path store n (result n)).1,
    fun n => said n ++ (verdict title path store n (result n)).2, fun t => ?_⟩
  rw [guarded_apply (hbody t), List.append_assoc]

/-- Rendering a template is orderly. -/
theorem orderly_renderTemplate (hresolver : OrderlyResolver resolver) (path : String)
    (locals : Except Failure Template.Locals) (store : Template.Store) :
    Orderly (renderTemplate site resolver path locals store) := by
  refine .bind (.ofExcept _) fun text => .bind (.ofExcept _) fun opts =>
    .bind (.ofExcept _) fun given => ?_
  refine .bind ?_ fun answer => .bind (.ofExcept _) fun output => .pure _
  exact .bind (.run (fun _ _ _ => (hresolver _ _ _).attempt) (fun _ => .pure _) _)
    fun _ => .ofExcept _

/-- Rendering markdown is orderly. -/
theorem orderly_renderMarkdown (hresolver : OrderlyResolver resolver) (path : String)
    (store : Template.Store) : Orderly (renderMarkdown site resolver path store) := by
  refine .bind (.ofExcept _) fun text => .bind (.ofExcept _) fun opts =>
    .bind (.ofExcept _) fun converted => ?_
  refine .bind (.expandTokens (fun _ => .bind (hresolver _ _ _) fun _ => .pure _) _)
    fun included => ?_
  rcases Directive.fillVariables opts.config included with e | s
  · exact .throw _
  · exact .pure _

/-- Taking a file as it is is orderly. -/
theorem orderly_readPlain (path : String) : Orderly (readPlain site path) := by
  refine .ite _ (.pure _) ?_
  rcases site.disk.readText path with e | text
  · exact .ite _ (.bind (.report _) fun _ => .pure _) (.throw _)
  · exact .pure _

/-- Compiling a source is orderly. -/
theorem orderly_compileWith (hresolver : OrderlyResolver resolver) (dialect : Dialect)
    (path : String) (locals : Except Failure Template.Locals) (store : Template.Store) :
    Orderly (compileWith site resolver dialect path locals store) := by
  cases dialect with
  | abstract => exact .throw _
  | plain => exact .bind (orderly_readPlain path) fun _ => .pure _
  | template =>
    exact .ite _ (.pure _) (orderly_guarded (orderly_renderTemplate hresolver _ _ _) _ _ _)
  | markdown =>
    exact .ite _ (.pure _) (orderly_guarded (orderly_renderMarkdown hresolver _ _) _ _ _)

/-- Finding a fragment is orderly. -/
theorem orderly_resolveWith (hresolver : OrderlyResolver resolver) :
    OrderlyResolver (resolveWith site resolver) := by
  intro reference locals store
  refine .bind (.ofExcept _) fun opts => .bind (.ofExcept _) fun reference => ?_
  refine .bind ?_ fun dialect => .bind (orderly_compileWith hresolver _ _ _ _).counted fun _ => .pure _
  rw [dialectFor]
  split
  · exact .pure _
  · exact .bind (.report _) fun _ => .pure _

/-- Finding a fragment is orderly, however deep it includes others. -/
theorem orderly_resolveAt (site : Site) (n : Nat) : OrderlyResolver (resolveAt site n) := by
  induction n with
  | zero => exact fun _ _ _ => .throw _
  | succ n ih => exact orderly_resolveWith ih

/-- Compiling is orderly. -/
theorem orderly_compile (site : Site) (dialect : Dialect) (path : String)
    (locals : Except Failure Template.Locals) (store : Template.Store) :
    Orderly (compile site dialect path locals store) :=
  .bind (orderly_compileWith (orderly_resolveAt site _) _ _ _ _) fun _ => .pure _

/-! ### The page of a view -/

/-- With no include around it, a guarded compilation has a result. -/
theorem guarded_isOk {body : Compiling (String × Template.Store)} (hbody : Orderly body)
    (title path : String) (store : Template.Store) {t : Trace} (ht : t.including = 0) :
    ∃ r, (guarded title path body store t).1 = .ok r := by
  obtain ⟨result, said, hbody⟩ := hbody
  rw [guarded_apply (hbody t), ht]
  rcases result 0 with e | ⟨text, store'⟩
  · rw [verdict]
    split
    · -- endless includes are reported here, as no include is left to pass them on to
      exact ⟨(none, store), rfl⟩
    · exact ⟨(none, store), rfl⟩
  · exact ⟨(some text, store'), rfl⟩

/-- With no include around it, the compilation of a template has a result. -/
theorem compile_isOk (site : Site) (path : String) (locals : Except Failure Template.Locals)
    (store : Template.Store) {t : Trace} (ht : t.including = 0) :
    ∃ text, (compile site .template path locals store t).1 = .ok text := by
  have hwith : ∃ r, (compileWith site (resolve site) .template path locals store t).1 = .ok r := by
    rw [compileWith, ite_apply']
    split
    · exact ⟨_, rfl⟩
    · exact guarded_isOk (orderly_renderTemplate (orderly_resolveAt site _) _ _ _) _ _ _ ht
  obtain ⟨⟨text, store'⟩, hr⟩ := hwith
  refine ⟨text, ?_⟩
  rw [compile, bind_apply]
  rcases hc : compileWith site (resolve site) .template path locals store t with ⟨r, t'⟩
  rw [hc] at hr
  obtain rfl : r = .ok (text, store') := hr
  rfl

end Compiling

namespace Site

/-- What a view compiles to, if it compiles. -/
def pageOf (site : Site) (view : String) : Option String :=
  match compile site .template view (.ok .none) #[] ⟨[], 0⟩ with
  | (.ok text, _) => text
  | (.error _, _) => none

/-- A view compiles to its page, whatever was reported before, and only messages are added. -/
theorem compile_apply (site : Site) (view : String) {t : Trace} (ht : t.including = 0) :
    ∃ said, compile site .template view (.ok .none) #[] t =
      (.ok (site.pageOf view), ⟨t.messages ++ said, t.including⟩) := by
  obtain ⟨text, hok⟩ := Compiling.compile_isOk site view (.ok .none) #[] (t := ⟨[], 0⟩) rfl
  obtain ⟨result, said, horderly⟩ := Compiling.orderly_compile site .template view (.ok .none) #[]
  rw [horderly] at hok
  refine ⟨said t.including, ?_⟩
  rw [horderly, pageOf, horderly, ht]
  simp only at hok
  rw [hok]

/-- How a guarded compilation is reported does not show in its result. -/
theorem guarded_fst (title path path' : String) (body : Compiling (String × Template.Store))
    (store : Template.Store) (t : Trace) :
    (guarded title path body store t).1 = (guarded title path' body store t).1 := by
  rcases hbody : body t with ⟨r, messages, n⟩
  rw [Compiling.guarded_apply hbody, Compiling.guarded_apply hbody]
  rcases r with e | ⟨text, store'⟩
  · simp only [Compiling.verdict]
    split
    · split <;> rfl
    · rfl
  · rfl

/-- Two paths to the same text from the same place compile to the same page. -/
theorem pageOf_congr {site : Site} {path path' : String}
    (hholds : site.disk.holds path = site.disk.holds path')
    (htext : site.disk.readText path = site.disk.readText path')
    (hname : ∀ source, Path.relative site.disk.cwd path source =
      Path.relative site.disk.cwd path' source) : site.pageOf path = site.pageOf path' := by
  have hrender : ∀ resolver locals store, renderTemplate site resolver path locals store =
      renderTemplate site resolver path' locals store := by
    intro resolver locals store
    unfold renderTemplate
    simp only [htext, hname]
  have hcompile : ∀ t, (compile site .template path (.ok .none) #[] t).1 =
      (compile site .template path' (.ok .none) #[] t).1 := by
    intro t
    have hwith : (compileWith site (resolve site) .template path (.ok .none) #[] t).1 =
        (compileWith site (resolve site) .template path' (.ok .none) #[] t).1 := by
      rw [compileWith, compileWith, ite_apply', ite_apply', hholds, hrender]
      split
      · rfl
      · exact guarded_fst _ _ _ _ _ _
    rw [compile, compile, bind_apply, bind_apply]
    revert hwith
    rcases compileWith site (resolve site) .template path (.ok .none) #[] t with ⟨r, t₁⟩
    rcases compileWith site (resolve site) .template path' (.ok .none) #[] t with ⟨r', t₂⟩
    rintro rfl
    rcases r with e | ⟨text, store⟩ <;> rfl
  have hfst := hcompile ⟨[], 0⟩
  rw [pageOf, pageOf]
  revert hfst
  rcases compile site .template path (.ok .none) #[] ⟨[], 0⟩ with ⟨r, t₁⟩
  rcases compile site .template path' (.ok .none) #[] ⟨[], 0⟩ with ⟨r', t₂⟩
  rintro rfl
  rcases r with e | text <;> rfl

end Site

end StaticSite
