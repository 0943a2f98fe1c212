import StaticSite.Proofs.Path.Spelling
import StaticSite.Proofs.Site.Destination
import StaticSite.Site.Write

/-!
# The mirror of the views

The distribution directory mirrors the views directory: the page of a view stands in the directory that is
reached from the distribution directory as that of the view is from the views directory. Nothing is lost on
the way. Two views have one page exactly if they are one view, however they are spelled and whatever the
extension of templates is.

## Main definitions

* `Layout.Mirrors`: a page stands below the distribution directory as its view does below the views
  directory.

## Main results

* `Layout.destination_of_strictlyWithin`: the page of a view, by the names that lead to the view.
* `Layout.destination_mirrors`: the mirror, and that different views have different pages.
-/

namespace StaticSite

open Path

variable {cwd s t : String} {layout : Layout}

/-! ### Directories -/

/-- The directory of a path is where it is spelled, also if that is nothing. -/
theorem placeFrom_directoryOf (cwd p : String) :
    placeFrom cwd (directoryOf p) = placeFrom cwd (parent p) := by
  rw [directoryOf]
  by_cases h : (parent p).isEmpty = true
  · rw [if_pos h, String.isEmpty_iff.mp h]
    rfl
  · rw [if_neg h]

/-- Two paths that stand alike below two directories are reached alike. -/
theorem Path.relative_eq_of_append {p q root root' : String} {names : List String}
    (hcwd : isAbsolute cwd = true) (hp : placeFrom cwd p = placeFrom cwd root ++ names)
    (hq : placeFrom cwd q = placeFrom cwd root' ++ names) :
    relative cwd p root = relative cwd q root' := by
  by_cases hnames : names = []
  · rw [hnames, List.append_nil] at hp hq
    rw [relative_of_eq hcwd hp, relative_of_eq hcwd hq]
  · rw [relative_of_append hcwd hp hnames, relative_of_append hcwd hq hnames]

/-! ### Pages of views -/

/-- The page of a view is below the distribution directory where the view is below the views directory,
but for its own name. -/
theorem Layout.destination_of_strictlyWithin (hcwd : isAbsolute cwd = true)
    (hdist : isAbsolute layout.dist = true) (hs : hasEnding s templateExt = true)
    (hin : StrictlyWithin cwd s layout.views) :
    ∃ init, (∀ c ∈ init ++ [layout.pageName (baseName s)], IsName c) ∧
      placeFrom cwd (parent s) = placeFrom cwd layout.views ++ init ∧
      layout.destination cwd s =
        .ok (below layout.dist (init ++ [layout.pageName (baseName s)])) := by
  obtain ⟨hname, hending⟩ := baseName_of_hasEnding hs
  obtain ⟨names, hne, hnames⟩ := (strictlyWithin_iff hcwd _ _).mp hin
  obtain ⟨hsource, hpage⟩ := layout.placeFrom_pageName_baseName hname hending cwd
  -- the last of the names that lead to the view is its own
  obtain ⟨init, c, rfl⟩ := List.eq_nil_or_concat names |>.resolve_left hne
  rw [List.concat_eq_append] at hnames
  rw [hnames, ← List.append_assoc] at hsource
  have hparent := List.append_inj_left' hsource rfl
  rw [← hparent, List.append_assoc] at hpage
  refine ⟨init, fun x hx => ?_, hparent.symm, ?_⟩
  · have hmem : x ∈ placeFrom cwd (layout.pageName s) := by
      rw [hpage]
      exact List.mem_append_right _ hx
    exact isName_of_mem_placeFrom hmem
  · have htarget := layout.isEmpty_pageName (layout.isName_pageName hname hending)
    exact Layout.destination_of_placeFrom hcwd hdist htarget rfl hpage (by simp)

/-- A page stands below the distribution directory as its view does below the views directory. -/
structure Layout.Mirrors (layout : Layout) (cwd source target : String) : Prop where
  /-- The page is below the distribution directory. -/
  within : StrictlyWithin cwd target layout.dist
  /-- The directories of the two are reached alike. -/
  directory : relative cwd (directoryOf target) layout.dist =
    relative cwd (directoryOf source) layout.views

/-- Names that lead to the directory of a view lead to the directory of its page. -/
theorem Layout.mirrors_below {init : List String} {page : String} (hcwd : isAbsolute cwd = true)
    (hdist : isAbsolute layout.dist = true) (hnames : ∀ c ∈ init ++ [page], IsName c)
    (hparent : placeFrom cwd (parent s) = placeFrom cwd layout.views ++ init) :
    layout.Mirrors cwd s (below layout.dist (init ++ [page])) := by
  have hpage : IsName page := hnames page (by simp)
  have hplace := placeFrom_below cwd layout.dist hnames
  have hbase : baseName (below layout.dist (init ++ [page])) = page := by
    rw [below_concat, baseName_join (isAbsolute_below hdist init) hpage.slash]
  have hsplit := placeFrom_eq_append (hbase.symm ▸ hpage) cwd
  rw [hbase, hplace, ← List.append_assoc] at hsplit
  have hdirectory : placeFrom cwd (directoryOf (below layout.dist (init ++ [page]))) =
      placeFrom cwd layout.dist ++ init := by
    rw [placeFrom_directoryOf, List.append_inj_left' hsplit rfl]
  have hdirectory' : placeFrom cwd (directoryOf s) = placeFrom cwd layout.views ++ init := by
    rw [placeFrom_directoryOf, hparent]
  exact ⟨(strictlyWithin_iff hcwd _ _).mpr ⟨init ++ [page], by simp, hplace⟩,
    relative_eq_of_append hcwd hdirectory hdirectory'⟩

/-- The distribution directory mirrors the views directory: a view that lies strictly within the views
directory has its page strictly within the distribution directory, in the directory that is reached as that
of the view is. Two views have the same page exactly if they are the same view, however the two are spelled;
the page is spelled alike then. -/
theorem Layout.destination_mirrors (hcwd : isAbsolute cwd = true)
    (hdist : isAbsolute layout.dist = true) (hs : hasEnding s templateExt = true)
    (ht : hasEnding t templateExt = true) (hsin : StrictlyWithin cwd s layout.views)
    (htin : StrictlyWithin cwd t layout.views) :
    ∃ target target', layout.destination cwd s = .ok target ∧ layout.destination cwd t = .ok target' ∧
      layout.Mirrors cwd s target ∧ layout.Mirrors cwd t target' ∧
      (SamePath cwd target target' ↔ SamePath cwd s t) ∧ (target = target' ↔ SamePath cwd s t) := by
  obtain ⟨init, hnames, hparent, hdestination⟩ :=
    Layout.destination_of_strictlyWithin hcwd hdist hs hsin
  obtain ⟨init', hnames', hparent', hdestination'⟩ :=
    Layout.destination_of_strictlyWithin hcwd hdist ht htin
  obtain ⟨hname, hending⟩ := baseName_of_hasEnding hs
  obtain ⟨hname', hending'⟩ := baseName_of_hasEnding ht
  -- views and pages are told apart by the same names
  have hviews : SamePath cwd s t ↔ init = init' ∧ baseName s = baseName t := by
    rw [samePath_iff hcwd, placeFrom_eq_append hname, placeFrom_eq_append hname', hparent, hparent',
      List.append_assoc, List.append_assoc, List.append_cancel_left_eq, List.append_singleton_inj]
  have hpages : init ++ [layout.pageName (baseName s)] = init' ++ [layout.pageName (baseName t)] ↔
      SamePath cwd s t := by
    rw [hviews, List.append_singleton_inj]
    refine and_congr_right fun _ => ⟨fun heq => ?_, congrArg _⟩
    exact layout.pageName_injective hname hending hname' hending' heq
  have hsame : SamePath cwd (below layout.dist (init ++ [layout.pageName (baseName s)]))
      (below layout.dist (init' ++ [layout.pageName (baseName t)])) ↔ SamePath cwd s t := by
    rw [samePath_iff hcwd, placeFrom_below cwd _ hnames, placeFrom_below cwd _ hnames',
      List.append_cancel_left_eq, hpages]
  refine ⟨_, _, hdestination, hdestination', Layout.mirrors_below hcwd hdist hnames hparent,
    Layout.mirrors_below hcwd hdist hnames' hparent', hsame, ?_⟩
  constructor
  · intro heq
    exact hsame.mp ((samePath_iff hcwd _ _).mpr (congrArg _ heq))
  · intro h
    rw [hpages.mpr h]

/-- One view, spelled from the working directory with detours and spelled from the root, has one page. -/
theorem Layout.mirrored_spellings :
    let layout : Layout := ⟨"/src/views", "/src//dist/.", ".j2"⟩
    StrictlyWithin "/src" "views//a/../x/.p.html.j2" layout.views ∧
      StrictlyWithin "/src" "//src/./views/x/.p.html.j2" layout.views ∧
      SamePath "/src" "views//a/../x/.p.html.j2" "//src/./views/x/.p.html.j2" ∧
      ∃ target, layout.destination "/src" "views//a/../x/.p.html.j2" = .ok target ∧
        layout.destination "/src" "//src/./views/x/.p.html.j2" = .ok target ∧
        layout.Mirrors "/src" "views//a/../x/.p.html.j2" target ∧
        layout.Mirrors "/src" "//src/./views/x/.p.html.j2" target := by
  intro layout
  have hs : StrictlyWithin "/src" "views//a/../x/.p.html.j2" layout.views := by decide
  have ht : StrictlyWithin "/src" "//src/./views/x/.p.html.j2" layout.views := by decide
  have hsame : SamePath "/src" "views//a/../x/.p.html.j2" "//src/./views/x/.p.html.j2" := by decide
  obtain ⟨target, target', htarget, htarget', hmirrors, hmirrors', -, heq⟩ :=
    layout.destination_mirrors (by decide) (by decide) (by decide) (by decide) hs ht
  obtain rfl := heq.mpr hsame
  exact ⟨hs, ht, hsame, target, htarget, htarget', hmirrors, hmirrors'⟩

end StaticSite
