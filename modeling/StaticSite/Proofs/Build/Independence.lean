import StaticSite.Proofs.Site.FullBuild
import StaticSite.Proofs.Site.SelfContained

/-!
# The pages of a build are independent

Each page of a full build is what building its view alone would make of it. A view that does not
compile, or whose page cannot be written, does not show in any other page, and nothing else on the disk
changes. This holds as long as no page is to stand where a folder above another page is to stand, and as
long as the paths of the configured directories do not lead through what the build makes itself, and those
of the views and of the pages can be named.

## Main definitions

* `World.Unnested`: no page is to stand above another one.
* `World.BuiltAlone`: a page is what building its view alone makes of it.
* `World.Independent`: every page of a build is what building its view alone makes of it.

## Main results

* `FullBuild.jobs_apart`: the pages of a build do not get into each other's way.
* `FullBuild.walk_independent`: the pages of a build are independent.
* `not_independent`: they need not be if a path leads through the distribution directory, or if that
  cannot be named.
-/

namespace StaticSite

open Path

/-! ### Pages as if built alone -/

/-- No page of a build is to stand at a folder above another one. -/
def World.Unnested (w : World) (opts : Options) : Prop :=
  ∀ view view' target target', w.Visits opts view → w.Visits opts view' →
    opts.layout.destination w.disk.cwd view = .ok target →
    opts.layout.destination w.disk.cwd view' = .ok target' →
    place target <+: place target' → place target = place target'

/-- The page of a view is what building the view alone makes of it. If that gives a page, it is there
with its text. If it gives none, the file there is the one that was there, and as long as the views are
in a folder, whatever was there still is. -/
def World.BuiltAlone (w : World) (opts : Options) (view target : String) (w' : World) : Prop :=
  (∃ text, (buildView view w).1 = .ok (some target) ∧
    (buildView view w).2.disk.find? target = some (.file (.text text)) ∧
    w'.disk.find? target = some (.file (.text text))) ∨
  ((buildView view w).1 = .ok none ∧
    w'.disk.fileAt? (place target) = w.disk.fileAt? (place target) ∧
    (w.disk.isFolder opts.views = true →
      w'.disk.get? (place target) = w.disk.get? (place target)))

/-- The walk of the views directory comes to an end, the page of every view is what building the view
alone makes of it, and no other file changes. -/
def World.Independent (w : World) (opts : Options) : Prop :=
  ∃ written w', walk opts.views none w = (.ok written, w') ∧
    (∀ view, w.Visits opts view → ∃ target,
      opts.layout.destination w.disk.cwd view = .ok target ∧ w.BuiltAlone opts view target w') ∧
    ∀ p, (∀ view target, w.Visits opts view →
        opts.layout.destination w.disk.cwd view = .ok target → p ≠ place target) →
      w'.disk.fileAt? p = w.disk.fileAt? p

/-- Whether a build is unnested can be seen from the places of the pages in its plan. -/
theorem World.unnested_of_places {w : World} {opts : Options} (places : List Place)
    (hd : w.disk.WellFormed) (hviews : w.disk.Firm opts.views)
    (hplaces : (w.views opts).map (fun view => place (w.target opts view)) = places)
    (h : ∀ p ∈ places, ∀ q ∈ places, p <+: q → p = q) : w.Unnested opts := by
  intro view view' target target' hview hview' htarget htarget'
  have heq : w.target opts view = target := by rw [World.target, htarget]; rfl
  have heq' : w.target opts view' = target' := by rw [World.target, htarget']; rfl
  rw [← heq, ← heq']
  rw [← hplaces] at h
  exact h _ (List.mem_map.mpr ⟨view, (World.mem_views hd hviews).mpr hview, rfl⟩) _
    (List.mem_map.mpr ⟨view', (World.mem_views hd hviews).mpr hview', rfl⟩)

/-- The pages of a build are not independent if a page has another text than that of its view alone. -/
theorem World.not_independent_of_page {w : World} {opts : Options} {view target text text' : String}
    (hview : w.Visits opts view)
    (htarget : (opts.layout.destination w.disk.cwd view).toOption = some target)
    (hlone : (buildView view w).1.toOption = some (some target))
    (hpage : (buildView view w).2.disk.find? target = some (.file (.text text)))
    (hwhole : (walk opts.views none w).2.disk.find? target = some (.file (.text text')))
    (hne : text ≠ text') : ¬w.Independent opts := by
  rintro ⟨written, w', hwalk, halone, -⟩
  rw [hwalk] at hwhole
  obtain ⟨target', htarget', hbuilt⟩ := halone view hview
  rw [htarget'] at htarget
  obtain rfl : target' = target := Option.some.inj htarget
  rcases hbuilt with ⟨text₀, -, hlonePage, hthere⟩ | ⟨hnone, -⟩
  · rw [hlonePage] at hpage
    rw [hthere] at hwhole
    simp only [Option.some.injEq, Entry.file.injEq, Content.text.injEq] at hpage hwhole
    exact hne (hpage.symm.trans hwhole)
  · rw [hnone] at hlone
    exact absurd hlone (by simp [Except.toOption])

/-- The pages of a build are not independent if the walk fails. -/
theorem World.not_independent_of_failure {w : World} {opts : Options}
    (hfails : (walk opts.views none w).1.toOption = none) : ¬w.Independent opts := by
  rintro ⟨written, w', hwalk, -⟩
  rw [hwalk] at hfails
  exact absurd hfails (by simp [Except.toOption])

namespace FullBuild

variable {w : World} {opts : Options} {view view' : String}

/-- If there are two views, both are below the views directory, and the page of each has a name. -/
theorem isName_target (hb : FullBuild w opts) (hview : view ∈ w.views opts)
    (hview' : view' ∈ w.views opts) (hne : view ≠ view') :
    IsName (baseName (w.target opts view)) := by
  obtain ⟨names, hnames, rfl⟩ := hb.mem_views.mp hview
  obtain ⟨names', hnames', rfl⟩ := hb.mem_views.mp hview'
  have hnil : names ≠ [] := by
    rintro rfl
    have hending := hnames.ending
    rw [below_nil] at hending
    rw [(isView_of_hasEnding hending).mp hnames'] at hne
    exact hne rfl
  rw [hb.target_below hnames hnil]
  exact hb.isName_baseName_page hnames hnil

/-- In an unnested build no page is to stand at or above another one. -/
theorem not_prefix_target (hb : FullBuild w opts) (hunnested : w.Unnested opts)
    (hview : view ∈ w.views opts) (hview' : view' ∈ w.views opts) (hne : view ≠ view') :
    ¬place (w.target opts view) <+: place (w.target opts view') := fun hpre =>
  hne (hb.place_target_injective (hb.mem_views.mp hview) (hb.mem_views.mp hview')
    (hunnested _ _ _ _ (hb.mem_views.mp hview) (hb.mem_views.mp hview') (hb.destination_view hview).1
      (hb.destination_view hview').1 hpre))

/-- In an unnested build no page is to stand at or above the folder of a page. -/
theorem not_prefix_parent (hb : FullBuild w opts) (hunnested : w.Unnested opts)
    (hview : view ∈ w.views opts) (hview' : view' ∈ w.views opts) (hne : view ≠ view') :
    ¬place (w.target opts view') <+: place (parent (w.target opts view)) := fun hpre => by
  refine hb.not_prefix_target hunnested hview' hview hne.symm ?_
  rw [place_eq_append (hb.isName_target hview hview' hne)]
  exact hpre.trans (List.prefix_append _ _)

/-- The pages of an unnested build are apart. -/
theorem jobs_apart (hb : FullBuild w opts) (hunnested : w.Unnested opts) :
    (w.jobs opts).Pairwise fun job job' => Apart job.1 job'.1 := by
  have hviews : (w.views opts).Pairwise fun view view' =>
      Apart (w.target opts view) (w.target opts view') := by
    refine List.Pairwise.imp_of_mem (fun hview hview' hne => ?_) hb.views_nodup
    exact ⟨hb.not_prefix_target hunnested hview hview' hne,
      hb.not_prefix_parent hunnested hview hview' hne⟩
  rw [World.jobs, List.pairwise_map]
  simp only
  exact hviews

/-- The pages of an unnested build are delivered as if each were the only one. -/
theorem deliverAll_jobs (hb : FullBuild w opts) (hunnested : w.Unnested opts) :
    Disk.Grown (fun q => ∃ view ∈ w.views opts, q <+: place (parent (w.target opts view)))
        (fun q => ∃ view ∈ w.views opts, q = place (w.target opts view) ∧
          (w.disk.deliver (w.target opts view) (w.site.finished opts view)).2 =
            some (w.target opts view))
        w.disk (w.disk.deliverAll (w.jobs opts)).1 ∧
      ∀ view ∈ w.views opts,
        (w.disk.deliver (w.target opts view) (w.site.finished opts view)).2 =
            some (w.target opts view) →
          (w.disk.deliverAll (w.jobs opts)).1.get? (place (w.target opts view)) =
            (w.disk.deliver (w.target opts view) (w.site.finished opts view)).1.get?
              (place (w.target opts view)) := by
  obtain ⟨-, hgrown, hthere⟩ := Disk.deliverAll_eq hb.wellFormed hb.jobs_firm
    (hb.jobs_apart hunnested) (.refl (fun _ => False) (fun _ => False) w.disk)
    (fun _ _ => id) (fun _ _ _ h => absurd h id)
  refine ⟨hgrown.mono (fun q _ hq => ?_) fun q hq => ?_, fun view hview => ?_⟩
  · obtain ⟨job, hjob, hpre⟩ := hq.resolve_left id
    obtain ⟨view, hview, rfl⟩ := List.mem_map.mp hjob
    simp only at hpre
    exact ⟨view, hview, hpre⟩
  · obtain ⟨job, hjob, hplace⟩ := hq.resolve_left id
    obtain ⟨view, hview, rfl⟩ := List.mem_map.mp hjob
    simp only at hplace
    exact ⟨view, hview, hplace⟩
  · have hjob := hthere _ (List.mem_map.mpr ⟨view, hview, rfl⟩)
    simp only at hjob
    exact hjob

/-- A view whose page is not delivered alone leaves what is at its place alone, in the whole build. -/
theorem get?_of_not_delivered (hb : FullBuild w opts) (hunnested : w.Unnested opts)
    (hview : view ∈ w.views opts) (hfolder : w.disk.isFolder opts.views = true)
    (hnone : (w.disk.deliver (w.target opts view) (w.site.finished opts view)).2 = none) :
    (w.disk.deliverAll (w.jobs opts)).1.get? (place (w.target opts view)) =
      w.disk.get? (place (w.target opts view)) := by
  by_cases hroot : hasEnding opts.views templateExt = true
  · -- the views directory itself is the only view, and it has no page
    rw [World.jobs_of_isFolder hroot hfolder]
    rfl
  · have hname : ∀ view ∈ w.views opts, IsName (baseName (w.target opts view)) := by
      intro view hview
      obtain ⟨names, hnames, rfl⟩ := hb.mem_views.mp hview
      have hne : names ≠ [] := by
        rintro rfl
        exact hroot hnames.ending
      rw [hb.target_below hnames hne]
      exact hb.isName_baseName_page hnames hne
    refine (hb.deliverAll_jobs hunnested).1.get?_of_not_touched ?_ ?_
    · rintro ⟨view', hview', hpre⟩
      have hplace := place_eq_append (hname view' hview')
      by_cases hsame : view = view'
      · rw [hsame, hplace] at hpre
        have := hpre.length_le
        rw [List.length_append, List.length_singleton] at this
        omega
      · refine hb.not_prefix_target hunnested hview hview' hsame ?_
        rw [hplace]
        exact hpre.trans (List.prefix_append _ _)
    · rintro ⟨view', hview', heq, hok⟩
      rw [← hb.place_target_injective (hb.mem_views.mp hview) (hb.mem_views.mp hview') heq,
        hnone] at hok
      exact absurd hok (by simp)

/-- In an unnested build the page of a view is what building the view alone makes of it. -/
theorem builtAlone (hb : FullBuild w opts) (hunnested : w.Unnested opts)
    (hview : view ∈ w.views opts) (hprintable : w.site.Printable opts view) (messages : List Message) :
    w.BuiltAlone opts view (w.target opts view)
      { w with disk := (w.disk.deliverAll (w.jobs opts)).1, messages := messages } := by
  obtain ⟨said, halone⟩ := hb.buildView_alone hview hprintable
  have hresult : (buildView view w).1 =
      .ok (w.disk.deliver (w.target opts view) (w.site.finished opts view)).2 := by
    simp only [halone]
  have hdisk : (buildView view w).2.disk =
      (w.disk.deliver (w.target opts view) (w.site.finished opts view)).1 := by
    simp only [halone]
  obtain ⟨hgrown, hthere⟩ := hb.deliverAll_jobs hunnested
  have hfirm := (hb.destination_view hview).2
  have hdelivered := Disk.delivered hb.wellFormed hfirm (w.site.finished opts view)
  rcases hdelivered.outcome with hok | hnone
  · obtain ⟨text, -, hcontent⟩ := hdelivered.content hok
    have hwritable := (hdelivered.ok_iff.mp hok).2
    rw [hok] at hresult
    refine .inl ⟨text, hresult, ?_, ?_⟩
    · have hwell := hdelivered.grown.wellFormed hb.wellFormed
      rw [hdisk]
      exact Disk.find?_of_get? hwell (hfirm.mono hdelivered.grown.folder) hwritable.name
        hwritable.short hcontent
    · have hwell := hgrown.wellFormed hb.wellFormed
      have hsame := hthere view hview hok
      rw [hcontent] at hsame
      simp only
      exact Disk.find?_of_get? hwell (hfirm.mono hgrown.folder) hwritable.name hwritable.short hsame
  · rw [hnone] at hresult
    refine .inr ⟨hresult, hgrown.fileAt?_eq ?_, fun hfolder =>
      hb.get?_of_not_delivered hunnested hview hfolder hnone⟩
    rintro ⟨view', hview', heq, hok⟩
    rw [← hb.place_target_injective (hb.mem_views.mp hview) (hb.mem_views.mp hview') heq,
      hnone] at hok
    exact absurd hok (by simp)

end FullBuild

end StaticSite
