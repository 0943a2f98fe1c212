import StaticSite.Site.Options

/-!
# Options that load

The options of a configuration directory load in one way: both settings files are read, the global settings are
laid over their defaults, and every directory is found in them. What options that have loaded are made of is said
here once.

## Main definitions

* `Options.Loaded`: what options that have loaded are made of.

## Main results

* `loaded_of_options`: options load in no other way.
-/

namespace StaticSite

/-- A result after another one needs that one. -/
theorem exceptBind_eq_ok {ε α β : Type} {x : Except ε α} {f : α → Except ε β} {b : β} :
    (x >>= f) = .ok b ↔ ∃ a, x = .ok a ∧ f a = .ok b := by
  cases x with
  | error e =>
    constructor
    · intro h
      cases h
    · rintro ⟨a, h, -⟩
      cases h
  | ok a =>
    constructor
    · exact fun h => ⟨a, rfl, h⟩
    · rintro ⟨a', h, hf⟩
      cases h
      exact hf

/-- What options that have loaded from a configuration directory are made of, with the base directory. -/
structure Options.Loaded (d : Disk) (configDir base : String) (opts : Options) : Prop where
  /-- The global settings are those of their file over the defaults. -/
  settings : ∃ overrides, loadSettings d (Path.join configDir globalFile) = .ok overrides ∧
    opts.settings = globalDefaults.override overrides
  /-- The template settings are those of their file. -/
  config : loadSettings d (Path.join configDir templatesFile) = .ok opts.config
  /-- The base directory is what the global settings say. -/
  based : baseDirectory d opts.settings = .ok base
  /-- The source directory is seen from the base directory. -/
  source : ∃ v, joinValue base v = .ok opts.source
  /-- So is the distribution directory. -/
  dist : ∃ v, joinValue base v = .ok opts.dist
  /-- The views directory is seen from the source directory. -/
  views : ∃ v, joinValue opts.source v = .ok opts.views
  /-- The templates end as they always do. -/
  ext : opts.ext = templateExt
  /-- The globs are those of the template settings, or else the usual ones. -/
  globs : opts.globs = (ifTruthy (opts.setting? "globs")).getD
    (.list ((defaultGlobs configDir opts.source).map .text))

/-- Options load in no other way. -/
theorem loaded_of_options {d : Disk} {configDir : String} {opts : Options} (h : options d configDir = .ok opts) :
    ∃ base, opts.Loaded d configDir base := by
  rw [options] at h
  simp only [exceptBind_eq_ok] at h
  obtain ⟨overrides, hoverrides, config, hconfig, base, hbase, src, -, source, hsource, out, -, dist, hdist,
    entry, -, folder, -, views, hviews, hmade⟩ := h
  obtain rfl := Except.ok.inj hmade
  exact ⟨base, ⟨overrides, hoverrides, rfl⟩, hconfig, hbase, ⟨src, hsource⟩, ⟨out, hdist⟩, ⟨folder, hviews⟩, rfl, rfl⟩

end StaticSite
