import StaticSite.Proofs.Site.Delivery
import StaticSite.Proofs.Site.Pages
import StaticSite.Proofs.Site.SelfContained
import StaticSite.Proofs.Site.Settled
import StaticSite.Proofs.Site.Surroundings

/-!
# A full build

A build of the whole site, with the distribution directory separate from all that the site is made of.
The views compile as they do before anything is written, so that the build comes down to delivering
one page after another: those that the views give on the disk as it is at first.

## Main definitions

* `Buildable`, `FullBuild`: the worlds in which this holds.
* `World.Visits`: the views that a build meets.
* `World.Onward`: what a build leaves of the world that it began with.
* `World.views`, `World.target`, `World.jobs`: the views of a build and their pages.

## Main results

* `FullBuild.destination_view`: where the page of a view goes.
* `FullBuild.buildView_onward`: a view is built as if it were the first.
* `FullBuild.walk_apply`: the walk delivers the pages of all views.
-/

namespace StaticSite

open Path

/-! ### Worlds to build in -/

/-- A world in which a whole site can be built: its options load, nothing is audited, the working
directory is outside of the views, and the distribution directory is separate from all that the site is
made of. -/
structure Buildable (w : World) (opts : Options) : Prop where
  /-- The disk is a tree. -/
  wellFormed : w.disk.WellFormed
  /-- The options load. -/
  options : StaticSite.options w.disk w.project.configDir = .ok opts
  /-- Nothing is audited. -/
  audit : w.project.audit = false
  /-- No compilation is going on. -/
  including : w.including = 0
  /-- The working directory is outside of the views. -/
  outside : Outside w.disk.cwd opts.views
  /-- The distribution directory is separate from the settings. -/
  separateConfig : Separate opts.dist w.project.configDir
  /-- The distribution directory is separate from the sources. -/
  separateSource : Separate opts.dist opts.source
  /-- The distribution directory is separate from the views. -/
  separateViews : Separate opts.dist opts.views

/-- A world to build in where every configured directory is settled: what a `..` in its path leaves is
there from the beginning. Those of the views and of the pages can be named, too. -/
structure FullBuild (w : World) (opts : Options) : Prop extends Buildable w opts where
  /-- The configuration directory begins at the root. -/
  config : isAbsolute w.project.configDir = true
  /-- It is settled. -/
  settledConfig : w.disk.Settled w.project.configDir
  /-- The source directory is settled. -/
  settledSource : w.disk.Settled opts.source
  /-- The views directory is firm. -/
  views : w.disk.Firm opts.views
  /-- The distribution directory is firm. -/
  dist : w.disk.Firm opts.dist

/-- A path that the walk of the views directory meets as a view. -/
def World.Visits (w : World) (opts : Options) (view : String) : Prop :=
  ∃ names, IsView w.disk opts.views names ∧ view = below opts.views names

/-- The views that a build meets, in order. -/
def World.views (w : World) (opts : Options) : List String :=
  viewsBelow w.disk (walkBudget w.disk) opts.views

/-- The page of a view. -/
def World.target (w : World) (opts : Options) (view : String) : String :=
  ((opts.layout.destination w.disk.cwd view).toOption).getD ""

/-- The pages of a build, in order, with what is to be written there. -/
def World.jobs (w : World) (opts : Options) : List (String × Option String) :=
  (w.views opts).map fun view => (w.target opts view, w.site.finished opts view)

/-- What a build leaves of the world that it began with: the disk has grown below the distribution
directory, and the site is otherwise the same. -/
abbrev World.Onward (dist : String) (w w' : World) : Prop :=
  World.After (Disk.GrownBelow dist) w w'

variable {w w' : World} {opts : Options} {view : String} {names : List String}

/-- Nothing has to be done. -/
theorem World.Onward.refl (dist : String) (w : World) : World.Onward dist w w :=
  ⟨.refl _ _ _, rfl, rfl, rfl⟩

/-- A view is met exactly if its names lead to it. -/
theorem World.mem_views (hd : w.disk.WellFormed) (hviews : w.disk.Firm opts.views) :
    view ∈ w.views opts ↔ w.Visits opts view := by
  obtain ⟨found, heq, -, hmem⟩ := viewsBelow_eq hd hviews
    (walkBudget_pos w.disk) (length_lt_walkBudget w.disk _)
  rw [World.views, heq, List.mem_map]
  exact ⟨fun ⟨names, h, heq⟩ => ⟨names, (hmem names).mp h, heq.symm⟩,
    fun ⟨names, h, heq⟩ => ⟨names, (hmem names).mpr h, heq.symm⟩⟩

/-- A views directory that is named like a view is the only view. -/
theorem World.views_of_hasEnding (h : hasEnding opts.views templateExt = true) :
    w.views opts = [opts.views] := by
  obtain ⟨n, hn⟩ := exists_walkBudget w.disk
  rw [World.views, viewsBelow, hn, visits, if_pos h]
  rfl

/-- A views directory that is named like a view has no page if it is a folder. -/
theorem World.jobs_of_isFolder (h : hasEnding opts.views templateExt = true)
    (hfolder : w.disk.isFolder opts.views = true) :
    w.jobs opts = [(w.target opts opts.views, none)] := by
  have hfinished : w.site.finished opts opts.views = none := by
    rw [Site.finished, Site.pageOf_of_isFolder w.site hfolder]
    rfl
  rw [World.jobs, World.views_of_hasEnding h, List.map_singleton, hfinished]

namespace FullBuild

/-! ### Views and their pages -/

/-- The templates of the site end as they always do. -/
theorem ext (hb : FullBuild w opts) : opts.ext = templateExt := ext_of_options hb.options

/-- The source directory begins at the root. -/
theorem source (hb : FullBuild w opts) : isAbsolute opts.source = true :=
  isAbsolute_source_of_options hb.outside.absolute hb.options

/-- A view is met exactly if its names lead to it. -/
theorem mem_views (hb : FullBuild w opts) : view ∈ w.views opts ↔ w.Visits opts view :=
  World.mem_views hb.wellFormed hb.views

/-- The page of a view below the views directory is below the distribution directory. -/
theorem destination_below (hb : FullBuild w opts) (hview : IsView w.disk opts.views names)
    (hne : names ≠ []) :
    opts.layout.destination w.disk.cwd (below opts.views names) =
      .ok (below opts.dist (pagePath names)) := by
  have hmid : place opts.views = place opts.layout.views ++ [] := by
    rw [List.append_nil, Options.layout]
  have hext : opts.layout.ext = templateExt := hb.ext
  have hdestination := hview.destination_eq hb.wellFormed hb.views.absolute hne hext
    hb.outside.absolute hb.views.absolute hb.dist.absolute hmid
  rw [List.nil_append] at hdestination
  exact hdestination

/-- The names of a page are names without null characters. -/
theorem isName_pagePath (hb : FullBuild w opts) (hview : IsView w.disk opts.views names) :
    ∀ c ∈ pagePath names, IsName c ∧ Char.ofNat 0 ∉ c.toList :=
  hview.isName_pagePath hb.wellFormed hb.views.absolute

/-- The last name of the page of a view below the views directory is a name. -/
theorem isName_baseName_page (hb : FullBuild w opts) (hview : IsView w.disk opts.views names)
    (hne : names ≠ []) : IsName (baseName (below opts.dist (pagePath names))) :=
  isName_baseName_below hb.dist.absolute (fun c hc => (hb.isName_pagePath hview c hc).1)
    (hview.pagePath_ne_nil hb.wellFormed hb.views.absolute hne)

/-- Every view has a page, and its path is firm. -/
theorem destination_view (hb : FullBuild w opts) (hview : view ∈ w.views opts) :
    opts.layout.destination w.disk.cwd view = .ok (w.target opts view) ∧
      w.disk.Firm (w.target opts view) := by
  obtain ⟨names, hnames, rfl⟩ := hb.mem_views.mp hview
  have key : ∃ target, opts.layout.destination w.disk.cwd (below opts.views names) = .ok target ∧
      w.disk.Firm target := by
    by_cases hne : names = []
    · subst hne
      have hdestination : opts.layout.destination w.disk.cwd opts.views = _ ∨ _ :=
        Layout.destination_of_place_eq hb.ext hb.outside.absolute hb.views.absolute
          hb.views.absolute rfl hnames.ending
      rcases hdestination with heq | heq
      · exact ⟨_, heq, hb.views.pageName hb.ext hnames.ending⟩
      · exact ⟨_, heq, hb.dist.join (by decide) (by decide) (by decide)⟩
    · exact ⟨_, hb.destination_below hnames hne, hb.dist.below (hb.isName_pagePath hnames)⟩
  obtain ⟨target, heq, hfirm⟩ := key
  have htarget : w.target opts (below opts.views names) = target := by
    rw [World.target, heq]
    rfl
  rw [htarget]
  exact ⟨heq, hfirm⟩

/-- The page of a view is where its destination is. -/
theorem target_below (hb : FullBuild w opts) (hview : IsView w.disk opts.views names)
    (hne : names ≠ []) :
    w.target opts (below opts.views names) = below opts.dist (pagePath names) := by
  rw [World.target, hb.destination_below hview hne]
  rfl

/-- The page of a view below the views directory stands below the distribution directory. -/
theorem place_target (hb : FullBuild w opts) (hview : IsView w.disk opts.views names)
    (hne : names ≠ []) :
    place (w.target opts (below opts.views names)) = place opts.dist ++ pagePath names := by
  rw [hb.target_below hview hne]
  exact place_below _ fun c hc => (hb.isName_pagePath hview c hc).1

/-- A folder above the page of a view is at or above the distribution directory, or below it. -/
theorem above_or_below_of_parent (hb : FullBuild w opts) (hview : IsView w.disk opts.views names)
    (hne : names ≠ []) {q : Place}
    (hq : q <+: place (parent (w.target opts (below opts.views names)))) :
    q <+: place opts.dist ∨ place opts.dist <+: q := by
  rw [hb.target_below hview hne] at hq
  exact Path.above_or_below_of_parent hb.dist.absolute
    (fun c hc => (hb.isName_pagePath hview c hc).1)
    (hview.pagePath_ne_nil hb.wellFormed hb.views.absolute hne) hq

/-! ### What stays during a build -/

variable {w₁ : World}

/-- The options stay. -/
theorem options_onward (hb : FullBuild w opts) (h : w.Onward opts.dist w₁) :
    StaticSite.options w₁.disk w₁.project.configDir = .ok opts := by
  rw [h.project, options_of_grownBelow h.disk hb.wellFormed hb.config
    ((Disk.settled_iff hb.config).mp hb.settledConfig) hb.separateConfig, hb.options]

/-- What names below the views directory lead to stays. -/
theorem find?_onward (hb : FullBuild w opts) (h : w.Onward opts.dist w₁)
    (hnames : ∀ c ∈ names, Disk.EntryName c) :
    w₁.disk.find? (below opts.views names) = w.disk.find? (below opts.views names) :=
  h.disk.find?_below hb.wellFormed hb.views.absolute hb.views.steady hb.separateViews fun c hc => (hnames c hc).toIsName

/-- The site stays alike. -/
theorem alike_onward (hb : FullBuild w opts) (h : w.Onward opts.dist w₁) :
    Site.Alike climbs (fun path => w₁.disk.find? path = w.disk.find? path) w.site w₁.site := by
  have halike := Site.alike_of_grownBelow w.depth h.disk hb.wellFormed hb.options hb.config
    ((Disk.settled_iff hb.config).mp hb.settledConfig) hb.source
    ((Disk.settled_iff hb.source).mp hb.settledSource) hb.separateConfig hb.separateSource
  rw [World.site, World.site, h.project, h.depth]
  exact halike

/-- The page of a view stays, if the view evaluates no reference that climbs. -/
theorem finished_onward (hb : FullBuild w opts) (h : w.Onward opts.dist w₁)
    (hview : IsView w.disk opts.views names) (hconfined : w.site.Confined (below opts.views names)) :
    w₁.site.pageOf (below opts.views names) = w.site.pageOf (below opts.views names) :=
  (hb.alike_onward h).pageOf_eq (hb.find?_onward h (hview.entryName hb.wellFormed)) hconfined

/-- What a walk meets below the views directory stays. -/
theorem undisturbed (hb : FullBuild w opts) :
    Undisturbed w.disk opts opts.views (w.Onward opts.dist) :=
  undisturbed_of_get? hb.wellFormed hb.views (fun _ h => hb.options_onward h)
    (fun _ h => h.disk.later) (fun _ h q => h.disk.get?_eq hb.separateViews q)
    fun _ _ h => ⟨h.disk, h.project, h.including, h.depth⟩

/-! ### Building the views -/

/-- A view is built as if it were the first. -/
theorem buildView_onward (hb : FullBuild w opts) (h : w.Onward opts.dist w₁)
    (hview : view ∈ w.views opts) (hconfined : w.site.Confined view)
    (hprintable : w.site.Printable opts view) :
    ∃ messages, buildView view w₁ =
      (.ok (w₁.disk.deliver (w.target opts view) (w.site.finished opts view)).2,
        { w₁ with
          disk := (w₁.disk.deliver (w.target opts view) (w.site.finished opts view)).1
          messages := messages }) := by
  obtain ⟨htarget, hfirm⟩ := hb.destination_view hview
  obtain ⟨names, hnames, rfl⟩ := hb.mem_views.mp hview
  have hpage := hb.finished_onward h hnames hconfined
  have hfinished : w₁.site.finished opts (below opts.views names) =
      w.site.finished opts (below opts.views names) := by
    rw [Site.finished, hpage, Site.finished]
  have hending := hnames.ending
  rw [← hb.ext] at hending
  rw [← hfinished]
  refine buildView_apply (hb.options_onward h)
    (h.including.trans hb.including) (by rw [h.project]; exact hb.audit) hending
    (by rw [h.disk.cwd]; exact htarget) hfirm.null ?_
  intro text htext
  rw [hpage] at htext
  exact hprintable text htext

/-- A view built alone gives its page. -/
theorem buildView_alone (hb : FullBuild w opts) (hview : view ∈ w.views opts)
    (hprintable : w.site.Printable opts view) :
    ∃ messages, buildView view w =
      (.ok (w.disk.deliver (w.target opts view) (w.site.finished opts view)).2,
        { w with
          disk := (w.disk.deliver (w.target opts view) (w.site.finished opts view)).1
          messages := messages }) := by
  obtain ⟨htarget, hfirm⟩ := hb.destination_view hview
  obtain ⟨names, hnames, rfl⟩ := hb.mem_views.mp hview
  have hending := hnames.ending
  rw [← hb.ext] at hending
  exact buildView_apply hb.options hb.including hb.audit hending htarget hfirm.null hprintable

/-- Delivering the page of a view below the views directory goes on with the build. -/
theorem onward_deliver (hb : FullBuild w opts) (h : w.Onward opts.dist w₁)
    (hview : IsView w.disk opts.views names) (hne : names ≠ []) (page : Option String)
    (messages : List Message) :
    w.Onward opts.dist
      { w₁ with
        disk := (w₁.disk.deliver (w.target opts (below opts.views names)) page).1
        messages := messages } := by
  have hmem : below opts.views names ∈ w.views opts := hb.mem_views.mpr ⟨names, hview, rfl⟩
  obtain ⟨-, hfirm⟩ := hb.destination_view hmem
  have hdelivered := Disk.delivered (h.disk.wellFormed hb.wellFormed) (hfirm.mono h.disk.folder) page
  refine ⟨h.disk.trans (hdelivered.grown.mono (fun q _ hq => ?_) fun q hq => ?_), h.project,
    h.including, h.depth⟩
  · exact hb.above_or_below_of_parent hview hne hq
  · rw [hq.1, hb.place_target hview hne]
    exact List.prefix_append _ _

/-! ### The walk -/

/-- A page that was delivered has a path that is not empty. -/
theorem filter_deliver (hb : FullBuild w opts) (h : w.Onward opts.dist w₁)
    (hview : view ∈ w.views opts) (page : Option String) :
    ((w₁.disk.deliver (w.target opts view) page).2.toList.filter fun p => !p.isEmpty) =
      (w₁.disk.deliver (w.target opts view) page).2.toList := by
  obtain ⟨-, hfirm⟩ := hb.destination_view hview
  have hempty := ne_empty_of_isAbsolute hfirm.absolute
  rcases (Disk.delivered (h.disk.wellFormed hb.wellFormed) (hfirm.mono h.disk.folder) page).outcome with
    hok | hnone
  · rw [hok]
    simp [hempty]
  · rw [hnone]
    rfl

/-- Following a plan of a build delivers the pages of its views. The induction is on the plan. -/
theorem visitAll_onward (hb : FullBuild w opts) (hroot : hasEnding opts.views templateExt = false)
    (hconfined : ∀ view ∈ w.views opts, w.site.Confined view)
    (hprintable : ∀ view ∈ w.views opts, w.site.Printable opts view) {plan : List Visit}
    (hplan : ∀ v ∈ plan, v ∈ visits w.disk (walkBudget w.disk) opts.views)
    (h : w.Onward opts.dist w₁) :
    ∃ messages, visitAll plan w₁ =
      (.ok (w₁.disk.deliverAll ((plan.filterMap Visit.view?).map fun view =>
          (w.target opts view, w.site.finished opts view))).2,
        { w₁ with
          disk := (w₁.disk.deliverAll ((plan.filterMap Visit.view?).map fun view =>
            (w.target opts view, w.site.finished opts view))).1
          messages := messages }) := by
  induction plan generalizing w₁ with
  | nil => exact ⟨w₁.messages, rfl⟩
  | cons v plan ih =>
    have hrest : ∀ v ∈ plan, v ∈ visits w.disk (walkBudget w.disk) opts.views := fun v hv =>
      hplan v (List.mem_cons_of_mem _ hv)
    -- what is no view leaves messages only
    have hquiet : v.view? = none → ∃ messages, visitAll (v :: plan) w₁ =
          (.ok (w₁.disk.deliverAll (((v :: plan).filterMap Visit.view?).map fun view =>
              (w.target opts view, w.site.finished opts view))).2,
            { w₁ with
              disk := (w₁.disk.deliverAll (((v :: plan).filterMap Visit.view?).map fun view =>
                (w.target opts view, w.site.finished opts view))).1
              messages := messages }) := by
      intro hnone
      have hfirm := (visits_firm hb.wellFormed hb.views _ _ (hplan _ List.mem_cons_self)).mono
        h.disk.folder
      obtain ⟨messages₁, hvisit⟩ := visit_of_not_view hnone hfirm
      obtain ⟨messages, hall⟩ := ih hrest (hb.undisturbed.messages w₁ messages₁ h)
      refine ⟨messages, ?_⟩
      rw [visitAll_cons hvisit hall, List.filterMap_cons_none hnone]
      rfl
    cases v with
    | view view =>
      have hmem : view ∈ w.views opts := mem_viewsBelow.mpr (hplan _ List.mem_cons_self)
      obtain ⟨names, hnames, hpath⟩ := hb.mem_views.mp hmem
      have hne : names ≠ [] := by
        rintro rfl
        have := hnames.ending
        rw [below_nil, hroot] at this
        exact absurd this (by simp)
      obtain ⟨messages₁, hbuild⟩ :=
        hb.buildView_onward h hmem (hconfined view hmem) (hprintable view hmem)
      have hgo := hb.onward_deliver h hnames hne (w.site.finished opts view) messages₁
      rw [← hpath] at hgo
      obtain ⟨messages, hall⟩ := ih hrest hgo
      refine ⟨messages, ?_⟩
      rw [visitAll_cons (visit_view hbuild) hall, hb.filter_deliver h hmem]
      rfl
    | skip path => exact hquiet rfl
    | unreadable path => exact hquiet rfl

/-- Views with the same page are the same. -/
theorem place_target_injective (hb : FullBuild w opts) {view' : String} (hview : w.Visits opts view)
    (hview' : w.Visits opts view')
    (heq : place (w.target opts view) = place (w.target opts view')) : view = view' := by
  obtain ⟨names, hnames, rfl⟩ := hview
  obtain ⟨names', hnames', rfl⟩ := hview'
  by_cases hne : names = []
  · subst hne
    rw [(isView_of_hasEnding hnames.ending).mp hnames']
  by_cases hne' : names' = []
  · subst hne'
    rw [(isView_of_hasEnding hnames'.ending).mp hnames]
  rw [hb.place_target hnames hne, hb.place_target hnames' hne'] at heq
  rw [hnames.pagePath_injective hb.wellFormed hb.views.absolute hnames' hne hne'
    (List.append_cancel_left heq)]

/-- Every view is met once. -/
theorem views_nodup (hb : FullBuild w opts) : (w.views opts).Nodup :=
  viewsBelow_nodup hb.wellFormed hb.views (walkBudget_pos w.disk) (length_lt_walkBudget w.disk _)

/-- The pages of a build have different places. -/
theorem jobs_pairwise_ne (hb : FullBuild w opts) :
    (w.jobs opts).Pairwise fun job job' => place job.1 ≠ place job'.1 := by
  have hviews : (w.views opts).Pairwise fun view view' =>
      place (w.target opts view) ≠ place (w.target opts view') := by
    refine List.Pairwise.imp_of_mem (fun hview hview' hne heq => hne ?_) hb.views_nodup
    exact hb.place_target_injective (hb.mem_views.mp hview) (hb.mem_views.mp hview') heq
  rw [World.jobs, List.pairwise_map]
  simp only
  exact hviews

/-- The pages of a build have firm paths. -/
theorem jobs_firm (hb : FullBuild w opts) : ∀ job ∈ w.jobs opts, w.disk.Firm job.1 := by
  intro job hjob
  obtain ⟨view, hview, heq⟩ := List.mem_map.mp hjob
  have hfirm := (hb.destination_view hview).2
  rw [← heq]
  simp only
  exact hfirm

/-- The walk of the views directory delivers the pages of all views. -/
theorem walk_apply (hb : FullBuild w opts)
    (hconfined : ∀ view ∈ w.views opts, w.site.Confined view)
    (hprintable : ∀ view ∈ w.views opts, w.site.Printable opts view) :
    ∃ messages, walk opts.views none w =
      (.ok (w.disk.deliverAll (w.jobs opts)).2,
        { w with disk := (w.disk.deliverAll (w.jobs opts)).1, messages := messages }) := by
  have hentry : entryPath w.disk.cwd opts.views (walkBase opts none) = .ok opts.views :=
    entryPath_within hb.outside.absolute hb.views.absolute hb.views.absolute (List.prefix_refl _)
  have hwalk : walk opts.views none w = walkAt (walkBudget w.disk) opts.views none w := by
    rw [walk, bind_apply, get_apply]
  rw [hwalk]
  by_cases hroot : hasEnding opts.views templateExt = true
  · -- the views directory is taken for a view itself
    have hviews : w.views opts = [opts.views] := World.views_of_hasEnding hroot
    have hmem : opts.views ∈ w.views opts := by
      rw [hviews]
      exact List.mem_singleton_self _
    obtain ⟨messages, hbuild⟩ := hb.buildView_alone hmem (hprintable _ hmem)
    refine ⟨messages, ?_⟩
    obtain ⟨n, hn⟩ := exists_walkBudget w.disk
    rw [hn, walkAt_succ hb.options hentry, hb.ext, if_pos hroot, visit, bind_apply, hbuild]
    simp only
    rw [pure_apply, hb.filter_deliver (.refl _ _) hmem, World.jobs, hviews]
    simp [Disk.deliverAll]
  · have hentry' : entryPath w.disk.cwd opts.views (walkBase opts none) =
        .ok (below opts.views []) := hentry
    have hplan := (walkAt_eq hb.wellFormed hb.views hb.outside (List.prefix_refl _) hb.ext
      hb.undisturbed (walkBudget_pos w.disk) (by simp) (length_lt_walkBudget w.disk _) hentry'
      (.refl _ w) ?_).1
    · obtain ⟨messages, hall⟩ := hb.visitAll_onward (by simpa using hroot) hconfined hprintable
        (fun v (hv : v ∈ visits w.disk (walkBudget w.disk) opts.views) => hv) (.refl _ w)
      refine ⟨messages, ?_⟩
      rw [hplan, below_nil, hall]
      rfl
    · intro view hview w₁ h r w' hbuild
      have hmem : view ∈ w.views opts := mem_viewsBelow.mpr hview
      obtain ⟨names, hnames, hpath⟩ := hb.mem_views.mp hmem
      have hne : names ≠ [] := by
        rintro rfl
        have := hnames.ending
        rw [below_nil] at this
        exact hroot this
      obtain ⟨messages, hbuild'⟩ :=
        hb.buildView_onward h hmem (hconfined view hmem) (hprintable view hmem)
      rw [hbuild'] at hbuild
      have hw' := (Prod.ext_iff.mp hbuild).2
      simp only at hw'
      rw [← hw', hpath]
      exact hb.onward_deliver h hnames hne _ messages

end FullBuild

/-! ### Two worlds -/

/-- A world can be built in if its options load and the rest can be checked of them. -/
theorem Buildable.exists_of_options {P : Options → Prop}
    (h : ∃ opts ∈ (StaticSite.options w.disk w.project.configDir).toOption,
      (w.disk.WellFormed ∧ w.project.audit = false ∧ w.including = 0 ∧
        Outside w.disk.cwd opts.views ∧ Separate opts.dist w.project.configDir ∧
        Separate opts.dist opts.source ∧ Separate opts.dist opts.views) ∧ P opts) :
    ∃ opts, Buildable w opts ∧ P opts := by
  obtain ⟨opts, hopts, ⟨hd, haudit, hincluding, houtside, hconfig, hsource, hviews⟩, hP⟩ :=
    exists_options h
  exact ⟨opts, ⟨hd, hopts, haudit, hincluding, houtside, hconfig, hsource, hviews⟩, hP⟩

/-- A world to build in is one for a full build if its configured directories are settled. -/
theorem FullBuild.exists_of_buildable {P : Options → Prop}
    (h : ∃ opts, Buildable w opts ∧ (isAbsolute w.project.configDir = true ∧
      w.disk.Settled w.project.configDir ∧ w.disk.Settled opts.source ∧ w.disk.Firm opts.views ∧
      w.disk.Firm opts.dist) ∧ P opts) : ∃ opts, FullBuild w opts ∧ P opts :=
  h.imp fun _ ⟨hbuildable, ⟨hconfig, hsettledConfig, hsettledSource, hviews, hdist⟩, hP⟩ =>
    ⟨⟨hbuildable, hconfig, hsettledConfig, hsettledSource, hviews, hdist⟩, hP⟩

/-- What holds of every view in the plan holds of every view that is met. -/
theorem World.forall_visits {P : String → Prop} (hd : w.disk.WellFormed)
    (hviews : w.disk.Firm opts.views) (h : ∀ view ∈ w.views opts, P view) :
    ∀ view, w.Visits opts view → P view :=
  fun view hview => h view ((World.mem_views hd hviews).mpr hview)

namespace World

/-- A world with a view that includes a template, one that does not compile, one whose page is there
already, and one whose page cannot be written. -/
def sample : World where
  disk := ⟨[(["src"], .folder), (["src", "f.j2"], .file (.text "f")), (["src", "views"], .folder),
    (["src", "views", "a.j2"], .file (.text "\x7b% include 'f.j2' %\x7d")),
    (["src", "views", "b.j2"], .file (.text "\x7b\x7b")), (["src", "views", "p"], .folder),
    (["src", "views", "p", "c.j2"], .file (.text "c")), (["src", "views", "q"], .folder),
    (["src", "views", "q", "d.j2"], .file (.text "d")), (["dist"], .folder), (["dist", "p"], .folder),
    (["dist", "p", "c.html"], .file (.text "old")), (["dist", "q"], .file (.text "no folder"))],
    "/", "/"⟩
  project := ⟨"/config", true, false⟩

/-- A world whose source directory is spelled through the distribution directory, which is not there: no
template of the sources is found before the first page is written. -/
def throughDist : World where
  disk := ⟨[(["config"], .folder),
    (["config", "global.yml"], .file (.text "src: dist/../src\nentry: \x7bviews: /s/v\x7d")),
    (["src"], .folder), (["src", "f.j2"], .file (.text "f")), (["s"], .folder), (["s", "v"], .folder),
    (["s", "v", "a.j2"], .file (.text "\x7b% include 'f.j2' ignore missing %\x7d.")),
    (["s", "v", "b.j2"], .file (.text "\x7b% include 'f.j2' ignore missing %\x7d."))], "/", "/"⟩
  project := ⟨"/config", true, false⟩

/-- A world whose distribution directory cannot be named. -/
def nullInDist : World where
  disk := ⟨[(["config"], .folder), (["config", "global.yml"], .file (.text "dist: \"o\\0\"")),
    (["src"], .folder), (["src", "views"], .folder), (["src", "views", "a.j2"], .file (.text "a"))],
    "/", "/"⟩
  project := ⟨"/config", false, false⟩

set_option maxRecDepth 100000

/-- The sample is a site to build, its views are found and evaluate no include, nothing is beautified,
and these are the places of its pages. -/
theorem sample_facts : ∃ opts, FullBuild sample opts ∧
    (∀ view ∈ sample.views opts, sample.disk.holds view = true ∧ sample.site.SelfContained view) ∧
    opts.beautifying.isTruthy = false ∧ hasEnding opts.views templateExt = false ∧
    sample.disk.isFolder opts.views = true ∧
    (sample.views opts).map (fun view => place (sample.target opts view)) =
      [["dist", "q", "d.html"], ["dist", "p", "c.html"], ["dist", "b.html"], ["dist", "a.html"]] :=
  FullBuild.exists_of_buildable (Buildable.exists_of_options (by decide +kernel))

/-- Where the sources are found only once a page is written, a site can be built as well. But its view
`a` gives another page when it is built alone than in the whole build, and its view `b` gives another
page in the second build than in the first one. -/
theorem throughDist_facts : ∃ opts, Buildable throughDist opts ∧
    (throughDist.disk.Firm throughDist.project.configDir ∧ throughDist.disk.Firm opts.views ∧
      throughDist.disk.Firm opts.dist) ∧
    (∀ view ∈ throughDist.views opts, throughDist.site.SelfContained view) ∧
    opts.beautifying.isTruthy = false ∧ opts.views = "/s/v" ∧
    throughDist.views opts = ["/s/v/b.j2", "/s/v/a.j2"] ∧
    (throughDist.views opts).map (fun view => place (throughDist.target opts view)) =
      [["dist", "b.html"], ["dist", "a.html"]] ∧
    (opts.layout.destination "/" "/s/v/a.j2").toOption = some "/dist/a.html" ∧
    (buildView "/s/v/a.j2" throughDist).1.toOption = some (some "/dist/a.html") ∧
    (buildView "/s/v/a.j2" throughDist).2.disk.find? "/dist/a.html" = some (.file (.text ".")) ∧
    (walk "/s/v" none throughDist).1.toOption = some ["/dist/b.html", "/dist/a.html"] ∧
    (walk "/s/v" none throughDist).2.disk.find? "/dist/a.html" = some (.file (.text "f.")) ∧
    (walk "/s/v" none throughDist).2.disk.find? "/dist/b.html" = some (.file (.text ".")) ∧
    (walk "/s/v" none (walk "/s/v" none throughDist).2).2.disk.find? "/dist/b.html" =
      some (.file (.text "f.")) :=
  Buildable.exists_of_options (by decide +kernel)

/-- Where the distribution directory cannot be named, a site can be built as well, and its directories are
settled. But the walk fails at its view. -/
theorem nullInDist_facts : ∃ opts, Buildable nullInDist opts ∧
    (nullInDist.disk.Firm nullInDist.project.configDir ∧ nullInDist.disk.Firm opts.source ∧
      nullInDist.disk.Firm opts.views ∧ nullInDist.disk.Settled opts.dist) ∧
    (∀ view ∈ nullInDist.views opts, nullInDist.site.SelfContained view) ∧
    opts.beautifying.isTruthy = false ∧ opts.views = "/src/views" ∧
    (nullInDist.views opts).map (fun view => place (nullInDist.target opts view)) =
      [["o\x00", "a.html"]] ∧
    (walk "/src/views" none nullInDist).1.toOption = none :=
  Buildable.exists_of_options (by decide +kernel)

end World

end StaticSite
