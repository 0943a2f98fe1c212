import StaticSite.Proofs.Site.FullBuild
import StaticSite.Proofs.Site.Settled

/-!
# What a walk builds

A walk of a directory at or below the views directory builds the views below it, each once and in order,
and says which pages were written. It does so while it writes to the same disk, perhaps into the sources
or next to the settings: a page may be made of what an earlier one left. What must not happen is that
folders made for a page turn up below the directory, or where a settings file was missing.

## Main definitions

* `World.Builds`: views that are built one after another, and the pages that were written.
* `World.Printing`: the beautifier accepts what each of them compiles to when its turn comes.
* `Walkable`, `Coverable`: the worlds in which a directory is walked, and those in which it is covered.
* `World.Underway`: what the views that are built leave of the world.

## Main results

* `Coverable.buildView`: a view is built, and its page is there if that is said.
* `walk_covers`: the walk builds all views below the directory.
* `not_covered`: it need not if a folder comes to be below the directory or where settings are missing.
-/

namespace StaticSite

open Path Running

/-! ### Views one after another -/

/-- Views are built one after another, with reports in between: each in the world that the one before
left. Those whose pages are then on the disk are the ones that were written; for the others no file was
changed. -/
inductive World.Builds (opts : Options) : List String → World → List String → World → Prop
  /-- No view is left. -/
  | done {w : World} (messages : List Message) : Builds opts [] w [] { w with messages := messages }
  /-- The page of a view is written. -/
  | written {view target text : String} {views pages : List String} {w w₁ w₂ : World}
      {messages : List Message} (destination : opts.layout.destination w.disk.cwd view = .ok target)
      (page : w.site.finished opts view = some text)
      (build : buildView view { w with messages := messages } = (.ok (some target), w₁))
      (there : w₁.disk.fileAt? (place target) = some (.text text))
      (rest : Builds opts views w₁ pages w₂) : Builds opts (view :: views) w (target :: pages) w₂
  /-- Nothing is written for a view. -/
  | refused {view : String} {views pages : List String} {w w₁ w₂ : World} {messages : List Message}
      (build : buildView view { w with messages := messages } = (.ok none, w₁))
      (files : ∀ p, w₁.disk.fileAt? p = w.disk.fileAt? p)
      (rest : Builds opts views w₁ pages w₂) : Builds opts (view :: views) w pages w₂

/-- The beautifier accepts what each view compiles to when its turn comes. -/
def World.Printing (w : World) (opts : Options) (views : List String) : Prop :=
  ∀ before view after pages w', views = before ++ view :: after → w.Builds opts before pages w' →
    w'.site.Printable opts view

variable {w w' : World} {opts : Options} {root view : String} {names views pages : List String}

/-- What was reported before does not matter. -/
theorem World.Builds.of_messages {messages : List Message}
    (h : Builds opts views { w with messages := messages } pages w') : w.Builds opts views pages w' := by
  cases h with
  | done => exact .done _
  | written destination page build there rest => exact .written destination page build there rest
  | refused build files rest => exact .refused build files rest

/-- What the beautifier accepts it accepts also after a report. -/
theorem World.Printing.messages (h : w.Printing opts views) (messages : List Message) :
    World.Printing { w with messages := messages } opts views :=
  fun before view after pages w' hviews hbuilds => h before view after pages w' hviews hbuilds.of_messages

/-! ### Worlds to walk in -/

/-- A world in which a directory at or below the views directory is walked: its options load, nothing is
audited, the working directory is outside of the views, and these are separate from the pages. -/
structure Walkable (w : World) (opts : Options) (root : String) : Prop where
  /-- The disk is a tree. -/
  wellFormed : w.disk.WellFormed
  /-- The options load. -/
  options : StaticSite.options w.disk w.project.configDir = .ok opts
  /-- Nothing is audited. -/
  audit : w.project.audit = false
  /-- No compilation is going on. -/
  including : w.including = 0
  /-- The working directory is outside of the views. -/
  outside : Outside w.disk.cwd opts.views
  /-- The distribution directory is separate from the views. -/
  separateViews : Separate opts.dist opts.views
  /-- The directory is there. -/
  folder : w.disk.isFolder root = true
  /-- It is given by its absolute path. -/
  absolute : isAbsolute root = true
  /-- It is at or below the views directory. -/
  within : place opts.views <+: place root
  /-- It is not named like a view. -/
  ending : hasEnding root templateExt = false

/-- A world in which the walk of a directory covers it: no folder that is made for a page turns up below
the directory or where a settings file is missing. -/
structure Coverable (w : World) (opts : Options) (root : String) : Prop extends
    Walkable w opts root where
  /-- The path of the configuration directory leaves no directory that does not exist; in its canonical
  spelling it leaves none. -/
  settled : w.disk.Settled w.project.configDir
  /-- The path of the distribution directory holds no null character. -/
  null : Char.ofNat 0 ∉ opts.dist.toList
  /-- The path of the distribution directory leads through the directory only where something is. -/
  dist : ∀ q, Leads opts.dist q → place root <+: q → (w.disk.get? q).isSome
  /-- The path of no page leads to where a settings file is missing. -/
  settings : ∀ names, IsView w.disk root names → ∀ file ∈ [globalFile, templatesFile],
    w.disk.get? (w.disk.goal (Path.join w.project.configDir file)) = none →
      ¬Leads (w.target opts (below root names)) (w.disk.goal (Path.join w.project.configDir file))

/-- The path of the page of a view below a directory leads to a place. -/
def World.Reaches (w : World) (opts : Options) (root : String) (q : Place) : Prop :=
  ∃ names, IsView w.disk root names ∧ Leads (w.target opts (below root names)) q

/-- The page of a view below a directory is at a place. -/
def World.PageAt (w : World) (opts : Options) (root : String) (q : Place) : Prop :=
  ∃ names, IsView w.disk root names ∧ q = place (w.target opts (below root names))

/-- What the views that are built leave of the world: folders were made where the paths of their pages
lead, and pages were written. -/
abbrev World.Underway (opts : Options) (root : String) (w w' : World) : Prop :=
  World.After (Disk.Grown (w.Reaches opts root) (w.PageAt opts root)) w w'

namespace Walkable

variable (hw : Walkable w opts root)
include hw

/-- The templates of the site end as they always do. -/
theorem ext : opts.ext = templateExt := ext_of_options hw.options

/-- The directory is firm. -/
theorem firm : w.disk.Firm root := by
  have hfolder := hw.folder
  rw [Disk.isFolder, beq_iff_eq] at hfolder
  exact .of_find? hw.absolute hfolder

/-- A folder is in its place. -/
theorem get?_root : w.disk.get? (place root) = some .folder := by
  have hfolder := hw.folder
  rw [Disk.isFolder, beq_iff_eq] at hfolder
  exact Disk.get?_of_find? hw.absolute hfolder

/-- A view below the directory is not the directory. -/
theorem ne_nil (hview : IsView w.disk root names) : names ≠ [] := by
  rintro rfl
  have := hview.ending
  rw [below_nil, hw.ending] at this
  exact absurd this (by simp)

/-- Where the page of a view below the directory goes. -/
theorem destination_eq {mid : List String} (hmid : place root = place opts.views ++ mid)
    (hview : IsView w.disk root names) :
    opts.layout.destination w.disk.cwd (below root names) =
      .ok (below opts.dist (mid ++ pagePath names)) := by
  have hroots := isAbsolute_of_options hw.outside.absolute hw.options
  exact hview.destination_eq hw.wellFormed hw.absolute (hw.ne_nil hview) hw.ext hw.outside.absolute
    hroots.2 hroots.1 hmid

/-- The names of a page below the distribution directory are names without null characters. -/
theorem isName_page {mid : List String} (hmid : place root = place opts.views ++ mid)
    (hview : IsView w.disk root names) :
    ∀ x ∈ mid ++ pagePath names, IsName x ∧ Char.ofNat 0 ∉ x.toList := by
  intro x hx
  rcases List.mem_append.mp hx with hx | hx
  · have hentry := hw.wellFormed.entryName (Option.isSome_iff_exists.mpr ⟨_, hw.get?_root⟩) x
      (hmid ▸ List.mem_append_right _ hx)
    exact ⟨hentry.toIsName, hentry.null⟩
  · exact hview.isName_pagePath hw.wellFormed hw.absolute x hx

/-- The page of a view below the directory is below the distribution directory, and named like a page. -/
theorem exists_target (hview : IsView w.disk root names) :
    ∃ init c, w.target opts (below root names) = below opts.dist (init ++ [pageFile c]) ∧
      opts.layout.destination w.disk.cwd (below root names) =
        .ok (below opts.dist (init ++ [pageFile c])) ∧
      (∀ x ∈ init ++ [pageFile c], IsName x ∧ Char.ofNat 0 ∉ x.toList) ∧
      IsName c ∧ hasEnding c templateExt = true := by
  obtain ⟨mid, hmid⟩ := hw.within
  have hdestination := hw.destination_eq hmid.symm hview
  have hpage := hw.isName_page hmid.symm hview
  obtain ⟨init, c, rfl, hc, hending⟩ := hview.exists_concat hw.wellFormed hw.absolute (hw.ne_nil hview)
  rw [pagePath_concat, ← List.append_assoc] at hdestination hpage
  refine ⟨mid ++ init, c, ?_, hdestination, hpage, hc, hending⟩
  rw [World.target, hdestination]
  rfl

/-- What is below the directory is not below the distribution directory. -/
theorem not_below_dist {q : Place} (hq : place root <+: q) : ¬place opts.dist <+: q := fun hdist =>
  (List.prefix_or_prefix_of_prefix hdist (hw.within.trans hq)).elim hw.separateViews.left
    hw.separateViews.right

/-- What the walk is to build has names below the directory. -/
theorem exists_names (hview : view ∈ viewsBelow w.disk (walkBudget w.disk) root) :
    ∃ names, IsView w.disk root names ∧ view = below root names := by
  obtain ⟨found, hviews, -, hmem⟩ := viewsBelow_eq hw.wellFormed hw.firm (walkBudget_pos w.disk)
    (length_lt_walkBudget w.disk _)
  rw [hviews] at hview
  obtain ⟨names, hnames, rfl⟩ := List.mem_map.mp hview
  exact ⟨names, (hmem names).mp hnames, rfl⟩

/-- Different views have different pages. -/
theorem nodup_targets :
    ((viewsBelow w.disk (walkBudget w.disk) root).map (w.target opts)).Nodup := by
  obtain ⟨mid, hmid⟩ := hw.within
  refine List.Nodup.map_on (fun view hview view' hview' heq => ?_)
    (viewsBelow_nodup hw.wellFormed hw.firm (walkBudget_pos w.disk) (length_lt_walkBudget w.disk _))
  obtain ⟨names, hnames, rfl⟩ := hw.exists_names hview
  obtain ⟨names', hnames', rfl⟩ := hw.exists_names hview'
  rw [World.target, World.target, hw.destination_eq hmid.symm hnames,
    hw.destination_eq hmid.symm hnames'] at heq
  have hplace : place (below opts.dist (mid ++ pagePath names)) =
      place (below opts.dist (mid ++ pagePath names')) := congrArg place heq
  rw [place_below _ fun x hx => (hw.isName_page hmid.symm hnames x hx).1,
    place_below _ fun x hx => (hw.isName_page hmid.symm hnames' x hx).1] at hplace
  rw [hnames.pagePath_injective hw.wellFormed hw.absolute hnames' (hw.ne_nil hnames)
    (hw.ne_nil hnames') (List.append_cancel_left (List.append_cancel_left hplace))]

end Walkable

/-! ### Building the views below a directory -/

namespace Coverable

variable {w₁ w₂ : World} (hc : Coverable w opts root)
include hc

/-- What is below the directory stays. -/
theorem get?_underway (h : w.Underway opts root w₁) (q : Place) :
    w₁.disk.get? (place root ++ q) = w.disk.get? (place root ++ q) := by
  have hpre : place root <+: place root ++ q := List.prefix_append _ _
  have hwritten : ¬w.PageAt opts root (place root ++ q) := by
    rintro ⟨names, hview, heq⟩
    obtain ⟨init, c, htarget, -, hnames, -⟩ := hc.exists_target hview
    rw [htarget, place_below _ fun x hx => (hnames x hx).1] at heq
    exact hc.not_below_dist hpre (heq ▸ List.prefix_append _ _)
  by_cases hsome : (w.disk.get? (place root ++ q)).isSome
  · exact h.disk.get?_of_isSome hsome hwritten
  · refine h.disk.get?_of_not_touched ?_ hwritten
    rintro ⟨names, hview, hleads⟩
    obtain ⟨init, c, htarget, -, hnames, -⟩ := hc.exists_target hview
    rw [htarget] at hleads
    rcases hleads.of_below fun x hx => (hnames x hx).1 with hdist | hdist
    · exact hsome (hc.dist _ hdist hpre)
    · exact hc.not_below_dist hpre hdist

/-- The options stay. -/
theorem options_underway (h : w.Underway opts root w₁) :
    StaticSite.options w₁.disk w₁.project.configDir = .ok opts := by
  have hwritten : ∀ q, w.PageAt opts root q →
      q.getLast? ≠ some globalFile ∧ q.getLast? ≠ some templatesFile := by
    rintro q ⟨names, hview, hq⟩
    obtain ⟨init, c, htarget, -, hnames, hc', hending⟩ := hc.exists_target hview
    rw [hq, htarget, place_below _ fun x hx => (hnames x hx).1, ← List.append_assoc, List.getLast?_concat]
    exact ⟨fun heq => pageFile_ne hc' hending (by decide) (by decide) (Option.some.inj heq),
      fun heq => pageFile_ne hc' hending (by decide) (by decide) (Option.some.inj heq)⟩
  rw [h.project]
  rcases options_of_grown h.disk hc.wellFormed hc.settled hwritten with
    hsame | ⟨-, file, hfile, hnone, names, hview, hleads⟩
  · rw [hsame, hc.options]
  · exact absurd hleads (hc.settings names hview file hfile hnone)

/-- What the walk meets stays. -/
theorem undisturbed : Undisturbed w.disk opts root (w.Underway opts root) :=
  undisturbed_of_get? hc.wellFormed hc.firm (fun _ h => hc.options_underway h)
    (fun _ h => h.disk.later) (fun _ h q => hc.get?_underway h q)
    fun _ _ h => ⟨h.disk, h.project, h.including, h.depth⟩

/-- Whatever comes of building a view, the build goes on. -/
theorem underway_of_buildView (h : w.Underway opts root w₁) (hview : IsView w.disk root names)
    {r : Except Failure (Option String)} (hbuild : buildView (below root names) w₁ = (r, w₂)) :
    w.Underway opts root w₂ := by
  obtain ⟨init, c, htarget, hdestination, -⟩ := hc.exists_target hview
  have habsolute := isAbsolute_below (isAbsolute_of_options hc.outside.absolute hc.options).1
    (init ++ [pageFile c])
  have hending := hview.ending
  rw [← hc.ext] at hending
  rw [← h.disk.cwd] at hdestination
  obtain ⟨r', d, messages, heq, hgrown⟩ := buildView_leaves (h.disk.wellFormed hc.wellFormed)
    (hc.options_underway h) (h.including.trans hc.including) (by rw [h.project]; exact hc.audit) hending
    hdestination habsolute
  rw [heq] at hbuild
  rw [← htarget] at hgrown
  obtain rfl := (Prod.ext_iff.mp hbuild).2
  exact ⟨h.disk.trans (hgrown.mono (fun q _ hq => ⟨names, hview, hq⟩) fun q hq => ⟨names, hview, hq⟩),
    h.project, h.including, h.depth⟩

/-- A view is built, and if its page is said to be written it is there. -/
theorem buildView (h : w.Underway opts root w₁) (hview : IsView w.disk root names)
    (hprintable : w₁.site.Printable opts (below root names)) :
    ∃ w₂, (buildView (below root names) w₁ = (.ok (some (w.target opts (below root names))), w₂) ∧
        ∃ text, w₁.site.finished opts (below root names) = some text ∧
          w₂.disk.fileAt? (place (w.target opts (below root names))) = some (.text text)) ∨
      StaticSite.buildView (below root names) w₁ = (.ok none, w₂) ∧
        ∀ p, w₂.disk.fileAt? p = w₁.disk.fileAt? p := by
  obtain ⟨init, c, htarget, hdestination, hnames, -⟩ := hc.exists_target hview
  have habsolute := isAbsolute_below (isAbsolute_of_options hc.outside.absolute hc.options).1
    (init ++ [pageFile c])
  have hnull := null_notMem_below hc.null fun x hx => (hnames x hx).2
  have hending := hview.ending
  rw [← hc.ext] at hending
  rw [← h.disk.cwd] at hdestination
  rw [← htarget] at hdestination habsolute hnull
  obtain ⟨messages, hbuild⟩ := buildView_apply (hc.options_underway h)
    (h.including.trans hc.including) (by rw [h.project]; exact hc.audit) hending hdestination hnull
    hprintable
  obtain ⟨d, r, hdeliver, hgrown, houtcome⟩ := Disk.deliver_leaves (h.disk.wellFormed hc.wellFormed)
    habsolute (w₁.site.finished opts (below root names))
  rw [hdeliver] at hbuild
  refine ⟨{ w₁ with disk := d, messages := messages }, ?_⟩
  rcases houtcome with rfl | ⟨rfl, text, htext, hthere⟩
  · exact .inr ⟨hbuild, fun p => hgrown.fileAt?_eq (by simp)⟩
  · exact .inl ⟨hbuild, text, htext, Disk.fileAt?_eq_some.mpr hthere⟩

/-- Dealing with what a walk meets builds the views among it. The induction is on the plan. -/
theorem visitAll {plan : List Visit}
    (hplan : ∀ v ∈ plan, v ∈ visits w.disk (walkBudget w.disk) root) (h : w.Underway opts root w₁)
    (hprinting : w₁.Printing opts (plan.filterMap Visit.view?)) :
    ∃ pages w₂, visitAll plan w₁ = (.ok pages, w₂) ∧
      w₁.Builds opts (plan.filterMap Visit.view?) pages w₂ ∧
      pages.Sublist ((plan.filterMap Visit.view?).map (w.target opts)) := by
  induction plan generalizing w₁ with
  | nil => exact ⟨[], w₁, rfl, .done w₁.messages, .slnil⟩
  | cons v plan ih =>
    have hrest : ∀ v ∈ plan, v ∈ visits w.disk (walkBudget w.disk) root := fun v hv =>
      hplan v (List.mem_cons_of_mem _ hv)
    rcases hview? : v.view? with _ | view
    · rw [List.filterMap_cons_none hview?] at hprinting ⊢
      have hfirm := (visits_firm hc.wellFormed hc.firm _ _ (hplan v List.mem_cons_self)).mono
        h.disk.folder
      obtain ⟨messages, hvisit⟩ := visit_of_not_view hview? hfirm
      obtain ⟨pages, w₂, hall, hbuilds, hsub⟩ :=
        ih hrest (hc.undisturbed.messages w₁ messages h) (hprinting.messages messages)
      exact ⟨pages, w₂, visitAll_cons hvisit hall, hbuilds.of_messages, hsub⟩
    · rw [List.filterMap_cons_some hview?] at hprinting ⊢
      obtain rfl : v = .view view := by
        cases v <;> simp_all [Visit.view?]
      obtain ⟨names, hnames, rfl⟩ :=
        hc.exists_names (mem_viewsBelow.mpr (hplan _ List.mem_cons_self))
      obtain ⟨init, c, htarget, hdestination, -⟩ := hc.exists_target hnames
      have hnow := hprinting [] _ _ _ _ rfl (.done w₁.messages)
      obtain ⟨w', ⟨hbuild, text, htext, hthere⟩ | ⟨hbuild, hfiles⟩⟩ := hc.buildView h hnames hnow
      · -- its page is written
        have hstep : ∀ {views pages w₂}, w'.Builds opts views pages w₂ →
            w₁.Builds opts (below root names :: views) (w.target opts (below root names) :: pages) w₂ :=
          World.Builds.written (w := { w₁ with messages := w₁.messages })
            (by rw [h.disk.cwd, htarget]; exact hdestination) htext hbuild hthere
        obtain ⟨pages, w₂, hall, hbuilds, hsub⟩ := ih hrest
          (hc.underway_of_buildView h hnames hbuild)
          fun before v after pages w₂ hviews hbefore => hprinting (_ :: before) v after _ w₂
            (by rw [hviews]; rfl) (hstep hbefore)
        refine ⟨_, w₂, ?_, hstep hbuilds, hsub.cons_cons _⟩
        have hempty : (w.target opts (below root names)).isEmpty = false := by
          rw [htarget]
          exact ne_empty_of_isAbsolute
            (isAbsolute_below (isAbsolute_of_options hc.outside.absolute hc.options).1 _)
        rw [visitAll_cons (visit_view hbuild) hall]
        simp [hempty]
      · -- nothing is written for it
        have hstep : ∀ {views pages w₂}, w'.Builds opts views pages w₂ →
            w₁.Builds opts (below root names :: views) pages w₂ :=
          World.Builds.refused (w := { w₁ with messages := w₁.messages }) hbuild hfiles
        obtain ⟨pages, w₂, hall, hbuilds, hsub⟩ := ih hrest
          (hc.underway_of_buildView h hnames hbuild)
          fun before v after pages w₂ hviews hbefore => hprinting (_ :: before) v after _ w₂
            (by rw [hviews]; rfl) (hstep hbefore)
        exact ⟨pages, w₂, visitAll_cons (visit_view hbuild) hall, hstep hbuilds, hsub.cons _⟩

/-- The walk of the directory follows its plan. -/
theorem walk_eq : walk root none w = StaticSite.visitAll (visits w.disk (walkBudget w.disk) root) w := by
  have hviews := (isAbsolute_of_options hc.outside.absolute hc.options).2
  have hentry : entryPath w.disk.cwd root (walkBase opts none) = .ok (below root []) :=
    entryPath_within hc.outside.absolute hc.absolute hviews hc.within
  rw [walk, bind_apply, get_apply]
  refine (walkAt_eq hc.wellFormed hc.firm hc.outside hc.within hc.ext hc.undisturbed
    (walkBudget_pos w.disk) (by simp) (length_lt_walkBudget w.disk _) hentry
    ⟨.refl _ _ _, rfl, rfl, rfl⟩ fun view hview w₁ h r w₂ hbuild => ?_).1
  obtain ⟨names, hnames, rfl⟩ := hc.exists_names (mem_viewsBelow.mpr hview)
  exact hc.underway_of_buildView h hnames hbuild

end Coverable

/-! ### What a walk covers -/

/-- A walk of a directory covers it: it builds the views below the directory, each once and in the order
in which it meets them, and says which of their pages were written. -/
structure World.Covers (w : World) (opts : Options) (root : String) (found : List (List String))
    (pages : List String) (w' : World) : Prop where
  /-- What is found are the views below the directory. -/
  views : ∀ names, names ∈ found ↔ IsView w.disk root names
  /-- They are found in the order in which a walk meets them: the children of a directory in the reverse
  of the order in which they are listed. -/
  order : found.Pairwise (MetBefore w.disk root)
  /-- Each is found once. -/
  once : (found.map (below root)).Nodup
  /-- The walk follows a plan. -/
  plan : walk root none w = visitAll (visits w.disk (walkBudget w.disk) root) w
  /-- What the plan builds is what is found. -/
  planned : (visits w.disk (walkBudget w.disk) root).filterMap Visit.view? = found.map (below root)
  /-- The walk comes to an end and says which pages were written. -/
  result : walk root none w = (.ok pages, w')
  /-- They are those of the views whose pages were written, in the order of the views. -/
  builds : w.Builds opts (found.map (below root)) pages w'
  /-- Each is said once. -/
  pages : pages.Nodup

/-- Where a whole site can be built, every directory at or below the views directory can be covered. -/
theorem FullBuild.coverable (hb : FullBuild w opts) (hfolder : w.disk.isFolder root = true)
    (habsolute : isAbsolute root = true) (hwithin : place opts.views <+: place root)
    (hending : hasEnding root templateExt = false) : Coverable w opts root := by
  have hw : Walkable w opts root := ⟨hb.wellFormed, hb.options, hb.audit, hb.including, hb.outside,
    hb.separateViews, hfolder, habsolute, hwithin, hending⟩
  refine ⟨hw, hb.settledConfig, hb.dist.null, fun q hleads hq => ?_,
    fun names hview file hfile hnone hleads => ?_⟩
  · by_contra hnone
    have hnot : w.disk.get? q ≠ some .folder := by
      intro h
      simp [h] at hnone
    exact hb.separateViews.right
      ((hwithin.trans hq).trans (hleads.prefix_of_steady hb.wellFormed hb.dist.steady hnot))
  · obtain ⟨init, c, htarget, -, hnames, -⟩ := hw.exists_target hview
    rw [htarget] at hleads
    have hfirm := hb.dist.below hnames
    have hpre := hleads.prefix_of_steady hb.wellFormed hfirm.steady (by rw [hnone]; simp)
    rw [place_below _ fun x hx => (hnames x hx).1, Disk.goal, Disk.start,
      if_pos (isAbsolute_join hb.config), ← place] at hpre
    have hconfig : place w.project.configDir <+: place (Path.join w.project.configDir file) := by
      have hname : IsName file := by
        rcases List.mem_pair.mp hfile with rfl | rfl <;> exact ⟨by decide, by decide, by decide, by decide⟩
      rw [place_join_name hname]
      exact List.prefix_append _ _
    rcases List.prefix_or_prefix_of_prefix (hconfig.trans hpre) (List.prefix_append _ _) with h | h
    · exact hb.separateConfig.right h
    · exact hb.separateConfig.left h

/-! ### Some worlds -/

/-- Where nothing is beautified, nothing goes wrong with it. -/
theorem World.printing_of_plain (h : opts.beautifying.isTruthy = false) (views : List String) :
    w.Printing opts views :=
  fun _ _ _ _ _ _ _ => Site.printable_of_plain h

/-- A walk that fails, or reports anything else than its plan, covers nothing. -/
theorem World.not_covers (h : (walk root none w).1.toOption = none ∨ (walk root none w).2.messages ≠
      (visitAll (visits w.disk (walkBudget w.disk) root) w).2.messages) :
    ¬∃ found pages w', w.Covers opts root found pages w' := by
  rintro ⟨found, pages, w', hcovers⟩
  rcases h with h | h
  · rw [hcovers.result] at h
    simp [Except.toOption] at h
  · exact h (by rw [hcovers.plan])

/-- The views directory of a world is walked, but not covered, if this can be checked of the options. -/
theorem Walkable.exists_not_covered (h : ∃ opts ∈ (StaticSite.options w.disk w.project.configDir).toOption,
      (w.disk.WellFormed ∧ w.project.audit = false ∧ w.including = 0 ∧
        Outside w.disk.cwd opts.views ∧ Separate opts.dist opts.views ∧
        w.disk.isFolder opts.views = true ∧ isAbsolute opts.views = true ∧
        hasEnding opts.views templateExt = false ∧ opts.beautifying.isTruthy = false) ∧
      ((walk opts.views none w).1.toOption = none ∨ (walk opts.views none w).2.messages ≠
        (visitAll (visits w.disk (walkBudget w.disk) opts.views) w).2.messages)) :
    ∃ opts, Walkable w opts opts.views ∧
      w.Printing opts (viewsBelow w.disk (walkBudget w.disk) opts.views) ∧
      ¬∃ found pages w', w.Covers opts opts.views found pages w' := by
  obtain ⟨opts, hopts, ⟨hd, haudit, hincluding, houtside, hviews, hfolder, habsolute, hending, hplain⟩,
    hnot⟩ := exists_options h
  exact ⟨opts, ⟨hd, hopts, haudit, hincluding, houtside, hviews, hfolder, habsolute, List.prefix_refl _,
    hending⟩, World.printing_of_plain hplain _, World.not_covers hnot⟩

namespace World

/-- A world that distributes into its settings, with a directory of views named like a settings file. -/
def settingsInDist : World where
  disk := ⟨[(["config"], .folder), (["config", "global.yml"], .file (.text "dist: config")),
    (["src"], .folder), (["src", "views"], .folder), (["src", "views", "a.j2"], .file (.text "a")),
    (["src", "views", "templates.yml"], .folder),
    (["src", "views", "templates.yml", "b.j2"], .file (.text "b"))], "/", "/"⟩
  project := ⟨"/config", false, false⟩

/-- A world whose distribution directory is spelled through a directory of views that is not there, and
that is named like a view. -/
def distThroughViews : World where
  disk := ⟨[(["c"], .folder), (["c", "global.yml"], .file (.text
      "src: /\nentry: {views: v/w}\ndist: v/w/s/.j2/../../../o")),
    (["v"], .folder), (["v", "w"], .folder), (["v", "w", "s"], .folder),
    (["v", "w", "t.j2"], .file (.text ""))], "/", "/"⟩
  project := ⟨"/c", false, false⟩

/-- The views directory is walked, but not covered. -/
def Uncovered (w : World) : Prop :=
  ∃ opts, Walkable w opts opts.views ∧
    w.Printing opts (viewsBelow w.disk (walkBudget w.disk) opts.views) ∧
    ¬∃ found pages w', w.Covers opts opts.views found pages w'

set_option maxRecDepth 100000

/-- A folder is made in the place of the settings. -/
theorem settingsInDist_uncovered : settingsInDist.Uncovered :=
  Walkable.exists_not_covered (by decide +kernel)

/-- What was made for a page is met as a view. -/
theorem distThroughViews_uncovered : distThroughViews.Uncovered :=
  Walkable.exists_not_covered (by decide +kernel)

/-- No page can be written, and that is no fault of the file system. -/
theorem nullInDist_uncovered : nullInDist.Uncovered :=
  Walkable.exists_not_covered (by decide +kernel)

end World

end StaticSite
