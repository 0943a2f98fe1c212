import StaticSite.Proofs.Template.Thaw

/-!
# What a template sees

The body of a template starts at a place of its own, with nothing assigned yet. A place *sees* what its
template was given under a name if the template has not assigned to the name. Then the name evaluates to
the datum that was given, and the templates that are included there are given it as well.

## Main definitions

* `startOf`, `runBody`: where the body of a template starts, and what is carried out there.
* `Sees`: a place sees what its template was given under a name.
* `ShowsAs`: a place shows a value behind a name.
* `SeesProject`: a place shows the settings, and behind `include` it has the function of the project.
* `SeesBehind`: a place sees the locals behind the settings.

## Main results

* `render_apply`: rendering a template is carrying out its body where it starts.
* `sees_startOf`: there the template sees what it was given.
* `Sees.showsAs`, `Sees.evaluate_include`: what a place does with what it sees.
-/

namespace StaticSite

open Template (Datum Store)

namespace Template

open Rendering

/-! ### Dialogues as a monad -/

/-- Dialogues go on as a monad has to. -/
instance : LawfulMonad Dialogue := LawfulMonad.mk' _
  (fun x => by
    show x.bind (fun a => .done a) = x
    induction x with
    | done a => rfl
    | fragment reference locals store next ih => rw [Dialogue.bind, funext ih]
    | source name next ih => rw [Dialogue.bind, funext ih])
  (fun _ _ => rfl)
  (fun x f g => by
    show (x.bind f).bind g = x.bind fun a => (f a).bind g
    induction x with
    | done a => rfl
    | fragment reference locals store next ih => simp only [Dialogue.bind, ih]
    | source name next ih => simp only [Dialogue.bind, ih])

/-! ### Where a template starts -/

/-- Where the body of a template starts, and the store there: with a context that has the names that the
template is given, and with a scope. -/
def startOf (t : Parsed) (names : Names) (s : Store) : Frame × Store :=
  let (context, s) := s.alloc (.context ⟨names, [], [], addBlocks [] (blockBodies t), none⟩)
  let (scope, s) := s.alloc (.scope [])
  (⟨t.name, context, [scope], true, true, false, ""⟩, s)

/-- The output of a body, and then that of the template that it extends. -/
def runBody (self : Interpreter) (p : Frame) (body : List Stmt) : Rendering String := do
  let output ← self.execute p body
  let c := (← get).context p.context
  match c.extended with
  | none => pure output
  | some (parent, parentBody) =>
    put p.context (.context { c with extended := none })
    pure (output ++ (← self.root p.context parent parentBody))

variable {p : Frame} {s : Store} {d : Datum} {name source : String} {names : Names} {t : Parsed}

/-- A template that is given names carries out its body where it starts. -/
theorem renderNew_bind_apply {α : Type} (n : Nat) (t : Parsed) (names : Names) (s : Store)
    (f : Ref × String → Rendering α) :
    (renderNew (interpreterAt (n + 1)) t names >>= f) s =
      (runBody (interpreterAt n) (startOf t names s).1 t.body >>= fun output =>
        f ((startOf t names s).1.context, output)) (startOf t names s).2 := by
  have hnew : (renderNew (interpreterAt (n + 1)) t names).run s =
      (runBody (interpreterAt n) (startOf t names s).1 t.body >>= fun output =>
        pure ((startOf t names s).1.context, output) : Rendering (Ref × String)).run
        (startOf t names s).2 := rfl
  calc (renderNew (interpreterAt (n + 1)) t names >>= f).run s
      = (runBody (interpreterAt n) (startOf t names s).1 t.body >>= fun output =>
          pure ((startOf t names s).1.context, output) >>= f).run (startOf t names s).2 := by
        rw [StateT.run_bind, hnew, ← StateT.run_bind, bind_assoc]
    _ = _ := by
        simp only [pure_bind]
        rfl

/-- Rendering a template is carrying out its body where it starts. -/
theorem render_apply (ht : Parsed.ofSource name source = .ok t) (names : Names) (s : Store) :
    render name source names true s =
      runBody (interpreterAt (renderBudget - 1)) (startOf t (names.orElse globalNames) s).1 t.body
        (startOf t (names.orElse globalNames) s).2 := by
  have hbudget : renderBudget = renderBudget - 1 + 1 := rfl
  have hrender : render name source names true =
      renderNew (interpreterAt renderBudget) t (names.orElse globalNames) >>=
        fun result => pure result.2 := by
    rw [render, ht]
    rfl
  rw [hrender, hbudget, renderNew_bind_apply, bind_pure]
  rfl

/-! ### Names in sight -/

/-- A place sees what its template was given under a name: the template has not assigned to the name,
neither in an open scope nor at its top. -/
structure Sees (p : Frame) (s : Store) (name : String) (given : Option Slot) : Prop where
  /-- No open scope has the name. -/
  scopes : inScopes? s name p.scopes = none
  /-- It was not assigned to at the top. -/
  vars : (s.context p.context).vars.lookup name = none
  /-- What the template was given. -/
  names : (s.context p.context).names name = given

/-- Where a template starts it sees what it was given. -/
theorem sees_startOf (t : Parsed) (names : Names) (s : Store) (name : String) :
    Sees (startOf t names s).1 (startOf t names s).2 name (names name) := by
  have hcontext : (startOf t names s).2.cell (startOf t names s).1.context =
      .context ⟨names, [], [], addBlocks [] (blockBodies t), none⟩ :=
    Store.cell_of_prefix_push (Store.prefix_push _ _)
  have hscope : ∃ r, (startOf t names s).1.scopes = [r] ∧ (startOf t names s).2.cell r = .scope [] :=
    ⟨_, rfl, Store.cell_of_prefix_push List.prefix_rfl⟩
  obtain ⟨r, hscopes, hr⟩ := hscope
  refine ⟨?_, ?_, ?_⟩
  · rw [hscopes, inScopes?, Store.vars, hr]
    rfl
  · rw [Store.context, hcontext]
    rfl
  · rw [Store.context, hcontext]

/-- What reads the store goes on with it. -/
theorem get_bind_apply {α : Type} (f : Store → Rendering α) (s : Store) : (get >>= f) s = f s s := rfl

/-- Looking a name up gives what is seen. -/
theorem Sees.lookupName_apply (h : Sees p s name (some (.datum d))) (hname : name ≠ "self") :
    lookupName p name s = (pure (d, s) : ExceptT Failure Dialogue (Datum × Store)) := by
  have hself : ¬(name == "self") = true := fun h => hname (eq_of_beq h)
  rw [lookupName, get_bind_apply, h.scopes]
  dsimp only
  rw [if_neg hself, lookupContext, get_bind_apply]
  dsimp only
  rw [h.vars, h.names]
  rfl

/-- A template that is included with its context is given what is seen. -/
theorem Sees.visibleNames_eq {given : Option Slot} (h : Sees p s name given) :
    visibleNames s p name = given := by
  have hscopes : scopeNames s p.scopes name = none := by rw [scopeNames, h.scopes]; rfl
  have hvars : Names.ofList (s.context p.context).vars name = none := by
    rw [Names.ofList, h.vars]; rfl
  rw [visibleNames, contextNames, Names.orElse, hscopes, Option.none_or, Names.orElse, hvars,
    Option.none_or, h.names]

/-! ### The project in sight -/

/-- A place shows a value behind a name: the name evaluates to a datum that shows the value, and the
templates that are included there are given that datum. -/
def ShowsAs (p : Frame) (s : Store) (name : String) (v : Value) : Prop :=
  ∃ d, s.Shows d v ∧ visibleNames s p name = some (.datum d) ∧
    ∀ n, (interpreterAt (n + 1)).evaluate p (.name name) s =
      (pure (d, s) : ExceptT Failure Dialogue (Datum × Store))

/-- What is seen is shown, but for the name of the blocks. -/
theorem Sees.showsAs {v : Value} (h : Sees p s name (some (.datum d))) (hname : name ≠ "self") (hshows : s.Shows d v) :
    ShowsAs p s name v :=
  ⟨d, hshows, h.visibleNames_eq, fun _ => h.lookupName_apply hname⟩

/-- A place sees the project: `this` is the settings, each of their names is the setting, and calling
`include` asks for a fragment. -/
structure SeesProject (p : Frame) (s : Store) (settings : Value) : Prop where
  /-- The settings as a whole. -/
  whole : ShowsAs p s "this" settings
  /-- The settings by their names. -/
  entries : ∀ name v, name ≠ "include" → name ≠ "this" → name ≠ "self" →
    settings.get? name = some v → ShowsAs p s name v
  /-- Templates that are included there can call the function. -/
  function : visibleNames s p "include" = some (.datum (.builtin .include))
  /-- A call evaluates its arguments and asks for the fragment of the first with the names of the
  second. -/
  fragments : ∀ n positional named rest namedRest,
    (interpreterAt (n + 2)).evaluate p (.call (.name "include") positional named rest namedRest) s =
      (do
        let given ← arguments (interpreterAt (n + 1)) p positional named rest namedRest
        let (reference, locals) ← includeArguments given
        let names ← attempt (localsOf locals)
        pure (.text (← fragment (referenceOf reference) names) false) : Rendering Datum) s

/-- A place sees the locals behind the settings: what they say about the names that the settings leave to
them, and the functions of every template behind that. -/
def SeesBehind (p : Frame) (s : Store) (settings : Value) (locals : Names) : Prop :=
  ∀ name, name ≠ "include" → name ≠ "this" → settings.get? name = none →
    Sees p s name ((locals.orElse globalNames) name)

/-- Where the function for fragments is seen, a call asks for a fragment. -/
theorem Sees.evaluate_include (h : Sees p s "include" (some (.datum (.builtin .include)))) (n : Nat)
    (positional : List Expr) (named : List (String × Expr)) (rest namedRest : Option Expr) :
    (interpreterAt (n + 2)).evaluate p (.call (.name "include") positional named rest namedRest) s =
      (do
        let given ← arguments (interpreterAt (n + 1)) p positional named rest namedRest
        let (reference, locals) ← includeArguments given
        let names ← attempt (localsOf locals)
        pure (.text (← fragment (referenceOf reference) names) false) : Rendering Datum) s := by
  have hcallee : (interpreterAt (n + 1)).evaluate p (.name "include") s =
      (pure (.builtin .include, s) : ExceptT Failure Dialogue (Datum × Store)) :=
    h.lookupName_apply (by decide)
  show ((interpreterAt (n + 1)).evaluate p (.name "include") s >>= _) = _
  rw [hcallee]
  rfl

end Template

end StaticSite
