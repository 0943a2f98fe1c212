import StaticSite.Proofs.Site.Frame
import StaticSite.Proofs.Site.View

/-!
# Views that include nothing

Whether a view evaluates an include can be decided by following its rendering with the answers of the
site: a view that asks for no fragment on the way is compiled alike however fragments are found. In
particular it evaluates no reference that climbs.

## Main definitions

* `Template.Dialogue.Silent`: a dialogue that asks for no fragment.
* `Site.SelfContained`: a view that evaluates no include.

## Main results

* `Site.confined_of_selfContained`: a view that evaluates no include is confined.
-/

namespace StaticSite

/-! ### Dialogues -/

/-- A dialogue asks for no fragment when it is given the sources that it asks for. -/
def Template.Dialogue.Silent {α : Type} (onSource : String → Except Failure String) :
    Template.Dialogue α → Prop
  | .done _ => True
  | .fragment _ _ _ _ => False
  | .source name next => (next (onSource name)).Silent onSource

instance Template.Dialogue.instDecidableSilent {α : Type} (onSource : String → Except Failure String) :
    ∀ dialogue : Template.Dialogue α, Decidable (dialogue.Silent onSource)
  | .done _ => inferInstanceAs (Decidable True)
  | .fragment _ _ _ _ => inferInstanceAs (Decidable False)
  | .source name next => instDecidableSilent onSource (next (onSource name))

/-- A dialogue that asks for no fragment ends alike however fragments are found. -/
theorem Template.Dialogue.run_of_silent {α : Type} {m : Type → Type} [Monad m] [LawfulMonad m]
    {onSource : String → Except Failure String}
    (onFragment onFragment' : Except Failure String → Except Failure Template.Locals →
      Template.Store → m (Except Failure (String × Template.Store)))
    {dialogue : Template.Dialogue α} (h : dialogue.Silent onSource) :
    dialogue.run onFragment (fun name => pure (onSource name)) =
      dialogue.run onFragment' (fun name => pure (onSource name)) := by
  induction dialogue with
  | done a => rfl
  | fragment reference locals store next ih => exact absurd h id
  | source name next ih =>
    rw [run, run, pure_bind, pure_bind]
    exact ih _ h

namespace Site

variable {site : Site} {view : String}

/-- The rendering of a view with the given source and options. -/
def renderingOf (site : Site) (view text : String) (opts : Options) :
    Template.Dialogue (Except Failure (String × Template.Store)) :=
  let (settings, store) := Template.Store.thaw #[] opts.config
  let entries := entriesIn store settings
  (Template.render (Path.relative site.disk.cwd view opts.source) text
    (pageNames settings entries Template.Locals.none.names)
    (Template.Locals.none.regular && textKeys entries) store).run

/-- A view evaluates no include. -/
def SelfContained (site : Site) (view : String) : Prop :=
  ∀ text ∈ (site.disk.readText view).toOption,
    ∀ opts ∈ (options site.disk site.configDir).toOption,
      (site.renderingOf view text opts).Silent (templateSource site.disk opts.source)

instance (site : Site) (view : String) : Decidable (site.SelfContained view) :=
  inferInstanceAs (Decidable (∀ text ∈ (site.disk.readText view).toOption,
    ∀ opts ∈ (options site.disk site.configDir).toOption,
      (site.renderingOf view text opts).Silent (templateSource site.disk opts.source)))

/-- A view that evaluates no include is rendered alike however fragments are found. -/
theorem renderTemplate_of_selfContained (h : site.SelfContained view) (resolver resolver' : Resolver) :
    renderTemplate site resolver view (.ok .none) #[] =
      renderTemplate site resolver' view (.ok .none) #[] := by
  unfold renderTemplate
  refine Alike.ofExcept_bind_congr fun text htext => ?_
  refine Alike.ofExcept_bind_congr fun opts hopts => ?_
  have hsilent := h text (by rw [htext]; rfl) opts (by rw [hopts]; rfl)
  unfold renderingOf at hsilent
  rcases hthaw : Template.Store.thaw #[] opts.config with ⟨settings, store⟩
  rw [hthaw] at hsilent
  simp only at hsilent
  have hrun := Template.Dialogue.run_of_silent (m := Compiling)
    (fun reference locals store => Compiling.attempt (resolver reference locals store))
    (fun reference locals store => Compiling.attempt (resolver' reference locals store)) hsilent
  simp only [Compiling.ofExcept, pure_bind, runRendering]
  rw [hrun]

/-- A view that evaluates no include evaluates no reference that climbs. -/
theorem confined_of_selfContained (h : site.SelfContained view) : site.Confined view := by
  intro elsewhere
  rw [compileWith, compileWith, renderTemplate_of_selfContained h]

/-- Where nothing is beautified, every page is accepted. -/
theorem printable_of_plain {opts : Options} (h : opts.beautifying.isTruthy = false) :
    site.Printable opts view := by
  intro text _
  refine ⟨text, ?_⟩
  rw [beautifyBy, h]
  rfl

end Site

end StaticSite
