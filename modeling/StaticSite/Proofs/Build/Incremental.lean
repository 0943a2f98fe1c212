import StaticSite.Proofs.Site.Affected
import StaticSite.Proofs.Site.FullBuild
import StaticSite.Site.Rebuild

/-!
# Building again after a change

In development a change of a view has that view built alone, and a change elsewhere has every view built.
The view that is built alone is named by the change, not found by a walk, and its path may be spelled in
another way; still it is the view that a walk finds at the same place, so that its page goes where the walk
would put it and has the text that the walk would give it. A change of a file beside the views that is no
template has nothing built at all.

## Main definitions

* `rebuildWith`: building again after a change with another builder of views.
* `World.RebuildsOnly`: no file but one page changes.
* `World.RebuildsAsWalk`: a page that the walk would write has the text that the walk would give it.
* `World.RebuildsAll`: the same is built as out of development.

## Main results

* `FullBuild.rebuild_agrees`: what is built after a change is what a full build would make of it.
* `rebuild_disagrees`: it need not be where a page lies beside its view, where a path leads through the
  distribution directory, or where that cannot be named.
-/

namespace StaticSite

open Path Running

variable {w : World} {opts : Options} {changed source target : String} {views names : List String}
  {a : Affected}

/-! ### What is built -/

/-- The world in development, or out of it. -/
def World.developing (w : World) (development : Bool) : World :=
  { w with project := { w.project with development := development } }

/-- Out of development every change has every view built. -/
theorem rebuild_of_not_development (hopts : options w.disk w.project.configDir = .ok opts)
    (hdev : w.project.development = false) : rebuild changed views w = walk opts.views none w := by
  rw [rebuild, bind_apply, currentOptions_apply hopts]
  simp only
  rw [bind_apply, get_apply]
  simp [hdev]

/-- Build what a change affects, with another builder of views. -/
def rebuildWith (build : String → Running (Option String)) (changed : String) (views : List String) :
    Running (List String) := do
  let opts ← currentOptions
  if !(← get).project.development then walkWith build opts.views none
  else
    report (.watching ("Detected change on " ++ Style.path changed))
    let a ← Running.ofExcept (classify (← get).disk.cwd changed views opts.views opts.ext)
    detail ("  " ++ a.extent.name ++ " " ++ Style.path a.target)
    match a.extent with
    | .walk => walkWith build a.target none
    | _ => pure ((← build a.target).toList.filter fun p => !p.isEmpty)

/-- With the builder of views itself it is building again after a change. -/
theorem rebuildWith_buildView : rebuildWith buildView = rebuild := by
  funext changed views
  unfold rebuildWith
  rw [walkWith_buildView]
  rfl

/-- In development the change is reported, and what it affects is built, by whatever builds views. -/
theorem rebuildWith_apply (build : String → Running (Option String))
    (hopts : options w.disk w.project.configDir = .ok opts) (hdev : w.project.development = true)
    (ha : classify w.disk.cwd changed views opts.views opts.ext = .ok a) :
    ∃ messages, rebuildWith build changed views w =
      if a.extent = .walk then walkWith build a.target none { w with messages := messages }
      else visitWith build (.view a.target) { w with messages := messages } := by
  obtain ⟨messages, hdetail⟩ := detail_apply ("  " ++ a.extent.name ++ " " ++ Style.path a.target)
    { w with messages := w.messages ++ [.watching ("Detected change on " ++ Style.path changed)] }
  refine ⟨messages, ?_⟩
  have hreport : report (.watching ("Detected change on " ++ Style.path changed)) w = (.ok (),
      { w with messages := w.messages ++ [.watching ("Detected change on " ++ Style.path changed)] }) :=
    rfl
  rw [rebuildWith, bind_apply, currentOptions_apply hopts]
  simp only
  rw [bind_apply, get_apply]
  simp only [hdev, Bool.not_true, Bool.false_eq_true, if_false]
  rw [bind_apply, hreport]
  simp only
  rw [bind_apply, get_apply]
  simp only [ha]
  rw [Running.ofExcept, bind_apply, pure_apply]
  simp only
  rw [bind_apply, hdetail]
  simp only
  rcases a.extent with _ | _ | _
  · rfl
  · rfl
  · rfl

/-- In development the change is reported, and what it affects is built. -/
theorem rebuild_apply (hopts : options w.disk w.project.configDir = .ok opts)
    (hdev : w.project.development = true)
    (ha : classify w.disk.cwd changed views opts.views opts.ext = .ok a) :
    ∃ messages, rebuild changed views w =
      if a.extent = .walk then walk a.target none { w with messages := messages }
      else visit (.view a.target) { w with messages := messages } := by
  rw [← rebuildWith_buildView, ← walkWith_buildView, ← visitWith_buildView]
  exact rebuildWith_apply buildView hopts hdev ha

/-- Building what a change affects comes to an end, and no file changes but the page at `target`. -/
def World.RebuildsOnly (w : World) (changed : String) (views : List String) (target : String) : Prop :=
  ∃ written w', rebuild changed views w = (.ok written, w') ∧
    ∀ p, p ≠ place target → w'.disk.fileAt? p = w.disk.fileAt? p

/-- If the walk of the views directory writes a page at `target`, building what a change affects leaves
the same text there. -/
def World.RebuildsAsWalk (w : World) (opts : Options) (changed : String) (views : List String)
    (target : String) : Prop :=
  ∀ all w', walk opts.views none w = (.ok all, w') → (∃ page ∈ all, place page = place target) →
    (rebuild changed views w).2.disk.fileAt? (place target) = w'.disk.fileAt? (place target)

/-- Building what a change affects comes to an end and does what is done out of development. -/
def World.RebuildsAll (w : World) (changed : String) (views : List String) : Prop :=
  ∃ written w' w'', rebuild changed views w = (.ok written, w') ∧
    rebuild changed views (w.developing false) = (.ok written, w'') ∧ w''.disk = w'.disk

/-- In development a changed template has its page delivered. -/
theorem Buildable.rebuild_template (hb : Buildable w opts) (hdev : w.project.development = true)
    (ha : classify w.disk.cwd changed views opts.views opts.ext = .ok a) (hextent : a.extent ≠ .walk)
    (hending : hasEnding a.target templateExt = true)
    (htarget : opts.layout.destination w.disk.cwd a.target = .ok target) (hfirm : w.disk.Firm target)
    (hprintable : w.site.Printable opts a.target) :
    ∃ written messages, rebuild changed views w = (.ok written,
      { w with
        disk := (w.disk.deliver target (w.site.finished opts a.target)).1
        messages := messages }) := by
  obtain ⟨messages, hrebuild⟩ := rebuild_apply hb.options hdev ha
  rw [← ext_of_options hb.options] at hending
  obtain ⟨messages', hbuild⟩ := buildView_apply (w := { w with messages := messages })
    hb.options hb.including hb.audit hending htarget hfirm.null hprintable
  refine ⟨(w.disk.deliver target (w.site.finished opts a.target)).2.toList.filter fun p => !p.isEmpty,
    messages', ?_⟩
  rw [hrebuild, if_neg hextent, visit, bind_apply, hbuild]
  rfl

/-- In development a changed template leaves the disk as building it does. -/
theorem Buildable.rebuild_disk (hb : Buildable w opts) (hdev : w.project.development = true)
    (ha : classify w.disk.cwd changed views opts.views opts.ext = .ok a) (hextent : a.extent ≠ .walk)
    (hending : hasEnding a.target templateExt = true)
    (htarget : opts.layout.destination w.disk.cwd a.target = .ok target) (hfirm : w.disk.Firm target)
    (hprintable : w.site.Printable opts a.target) :
    (rebuild changed views w).2.disk = (buildView a.target w).2.disk := by
  obtain ⟨written, messages, hrebuild⟩ :=
    hb.rebuild_template hdev ha hextent hending htarget hfirm hprintable
  rw [← ext_of_options hb.options] at hending
  obtain ⟨messages', hbuild⟩ := buildView_apply hb.options hb.including hb.audit hending
    htarget hfirm.null hprintable
  rw [hrebuild, hbuild]

/-- In development a change of what is no template has nothing built. -/
theorem Buildable.rebuild_other (hb : Buildable w opts) (hdev : w.project.development = true)
    (ha : classify w.disk.cwd changed views opts.views opts.ext = .ok a) (hextent : a.extent ≠ .walk)
    (hending : hasEnding a.target templateExt = false) :
    ∃ messages, rebuild changed views w = (.ok [], { w with messages := messages }) := by
  obtain ⟨messages, hrebuild⟩ := rebuild_apply hb.options hdev ha
  rw [← ext_of_options hb.options] at hending
  have hbuild := buildView_of_not_hasEnding (w := { w with messages := messages }) hb.options hending
  refine ⟨messages, ?_⟩
  rw [hrebuild, if_neg hextent, visit, bind_apply, hbuild]
  rfl

/-- What is built after a change is what a full build would make of it. If the change is of one file, no
file but the page of that file changes, and for a template the page has the text that the walk would give
it, if the walk would write it. Any other change has the same built as out of development. -/
def World.RebuildAgrees (w : World) (opts : Options) (changed : String) (views : List String) : Prop :=
  ∃ a, classify w.disk.cwd changed views opts.views opts.ext = .ok a ∧
    (a.extent ≠ .walk → w.disk.isFile a.target = true → ∃ target,
      opts.layout.destination w.disk.cwd a.target = .ok target ∧
      w.RebuildsOnly changed views target ∧
      (hasEnding a.target opts.ext = true → w.RebuildsAsWalk opts changed views target)) ∧
    (a.extent = .walk → w.RebuildsAll changed views)

namespace FullBuild

/-- A world to build in stays one in or out of development. -/
theorem developing (hb : FullBuild w opts) (development : Bool) :
    FullBuild (w.developing development) opts :=
  ⟨⟨hb.wellFormed, hb.options, hb.audit, hb.including, hb.outside, hb.separateConfig,
    hb.separateSource, hb.separateViews⟩, hb.config, hb.settledConfig, hb.settledSource, hb.views,
    hb.dist⟩

/-- A world to build in stays one whatever was reported. -/
theorem messages (hb : FullBuild w opts) (messages : List Message) :
    FullBuild { w with messages := messages } opts :=
  ⟨⟨hb.wellFormed, hb.options, hb.audit, hb.including, hb.outside, hb.separateConfig,
    hb.separateSource, hb.separateViews⟩, hb.config, hb.settledConfig, hb.settledSource, hb.views,
    hb.dist⟩

/-! ### The page of a changed view -/

/-- The page of a template below the views directory, however its path is spelled. -/
theorem destination_source (hb : FullBuild w opts) (hfirm : w.disk.Firm source)
    (hsome : (w.disk.get? (place source)).isSome) (hending : hasEnding source templateExt = true)
    (hplace : place source = place opts.views ++ names) (hne : names ≠ []) :
    (∃ init, names = init ++ [baseName source]) ∧
      opts.layout.destination w.disk.cwd source = .ok (below opts.dist (pagePath names)) ∧
      ∀ c ∈ pagePath names, IsName c ∧ Char.ofNat 0 ∉ c.toList := by
  have hname := baseName_of_hasEnding hending
  have hentry := hb.wellFormed.entryName hsome
  obtain ⟨init, c, rfl⟩ := (List.eq_nil_or_concat names).resolve_left hne
  rw [List.concat_eq_append] at hplace hne ⊢
  have hsplit := place_eq_append hname.1
  rw [hplace, ← List.append_assoc] at hsplit
  obtain ⟨hparent, hlast⟩ := List.append_inj' hsplit rfl
  obtain rfl : c = baseName source := List.singleton_inj.mp hlast
  rw [hplace] at hentry
  refine ⟨⟨init, rfl⟩, ?_, fun x hx => ?_⟩
  · have hext : opts.layout.ext = templateExt := hb.ext
    have hpage : place (opts.layout.pageName source) =
        place opts.layout.views ++ (init ++ [pageFile (baseName source)]) := by
      rw [Layout.place_pageName hext hname.1 hname.2, ← hparent, List.append_assoc]
      rfl
    rw [pagePath_concat]
    exact Layout.destination_of_place hb.outside.absolute hb.views.absolute hb.dist.absolute
      (Layout.isAbsolute_pageName hext hfirm.absolute) rfl hpage (by simp)
  · rw [pagePath_concat] at hx
    rcases List.mem_append.mp hx with hx | hx
    · have hc := hentry x (List.mem_append_right _ (List.mem_append_left _ hx))
      exact ⟨hc.toIsName, hc.null⟩
    · have hc := hentry (baseName source) (by simp)
      rw [List.mem_singleton.mp hx]
      exact ⟨isName_pageFile hname.1 hname.2, null_notMem_pageFile hname.1 hname.2 hc.null⟩

/-- A template that is found within the views directory has a page, and its path is firm. -/
theorem exists_destination (hb : FullBuild w opts) (hfirm : w.disk.Firm source)
    (hsome : (w.disk.get? (place source)).isSome) (hending : hasEnding source templateExt = true)
    (hpre : place opts.views <+: place source) :
    ∃ target, opts.layout.destination w.disk.cwd source = .ok target ∧ w.disk.Firm target := by
  obtain ⟨names, hplace⟩ := hpre
  by_cases hne : names = []
  · rw [hne, List.append_nil] at hplace
    have hdestination : opts.layout.destination w.disk.cwd source = _ ∨ _ :=
      Layout.destination_of_place_eq hb.ext hb.outside.absolute hb.views.absolute hfirm.absolute
        hplace.symm hending
    rcases hdestination with heq | heq
    · exact ⟨_, heq, hfirm.pageName hb.ext hending⟩
    · exact ⟨_, heq, hb.dist.join (by decide) (by decide) (by decide)⟩
  · obtain ⟨-, heq, hnames⟩ := hb.destination_source hfirm hsome hending hplace.symm hne
    exact ⟨_, heq, hb.dist.below hnames⟩

/-- A view that the walk meets and a template at the same place compile to the same page. -/
theorem pageOf_eq_of_place (hb : FullBuild w opts) {view : String} (hview : view ∈ w.views opts)
    (hholds : w.disk.holds view = true) (hsource : isAbsolute source = true)
    (hfile : w.disk.isFile source = true) (hplace : place view = place source) :
    w.site.pageOf view = w.site.pageOf source := by
  obtain ⟨names, hnames, rfl⟩ := hb.mem_views.mp hview
  have hfirm : w.disk.Firm (below opts.views names) := hb.views.below fun c hc =>
    ⟨(hnames.entryName hb.wellFormed c hc).toIsName, (hnames.entryName hb.wellFormed c hc).null⟩
  obtain ⟨found, hfound⟩ := Option.isSome_iff_exists.mp hholds
  obtain ⟨content, hcontent⟩ := Disk.exists_of_isFile hfile
  have hget := Disk.get?_of_find? hsource hcontent
  rw [← hplace] at hget
  have hsame := Disk.find?_of_get? hb.wellFormed hfirm (baseName_of_hasEnding hnames.ending).1
    (Disk.short_of_find? hfound) hget
  refine Site.pageOf_congr ?_ ?_ fun start => relative_congr hb.outside.absolute ?_ start
  · simp only [World.site, Disk.holds, hsame, hcontent]
  · simp only [World.site, Disk.readText, Disk.content_of_find? hsame, Disk.content_of_find? hcontent,
      Disk.contentOf]
  · rw [placeFrom_of_isAbsolute hfirm.absolute, placeFrom_of_isAbsolute hsource, hplace]

/-! ### What is built of it -/

/-- Building a changed template again comes to an end and touches no file but its page. -/
theorem rebuildsOnly_of_template (hb : FullBuild w opts) (hdev : w.project.development = true)
    (ha : classify w.disk.cwd changed views opts.views opts.ext = .ok a) (hextent : a.extent ≠ .walk)
    (hending : hasEnding a.target templateExt = true)
    (htarget : opts.layout.destination w.disk.cwd a.target = .ok target) (hfirm : w.disk.Firm target)
    (hprintable : w.site.Printable opts a.target) : w.RebuildsOnly changed views target := by
  obtain ⟨written, messages, hrebuild⟩ :=
    hb.rebuild_template hdev ha hextent hending htarget hfirm hprintable
  refine ⟨written, _, hrebuild, fun p hp => ?_⟩
  exact (Disk.delivered hb.wellFormed hfirm _).grown.fileAt?_eq fun hq => hp hq.1

/-- A view whose page is at the place of the page of a template is at the place of the template. -/
theorem place_eq_of_target (hb : FullBuild w opts) (hroot : hasEnding opts.views templateExt = false)
    {view : String} (hview : view ∈ w.views opts) (hfirm : w.disk.Firm source) {content : Content}
    (hcontent : w.disk.get? (place source) = some (.file content))
    (hending : hasEnding source templateExt = true) (hpre : place opts.views <+: place source)
    (htarget : opts.layout.destination w.disk.cwd source = .ok target)
    (hplace : place (w.target opts view) = place target) :
    place view = place source ∧ w.target opts view = target := by
  obtain ⟨names', hnames', rfl⟩ := hb.mem_views.mp hview
  have hne' : names' ≠ [] := by
    rintro rfl
    have := hnames'.ending
    rw [below_nil, hroot] at this
    exact absurd this (by simp)
  obtain ⟨names, hnames⟩ := hpre
  have hne : names ≠ [] := by
    rintro rfl
    -- something is below the views directory, so no file is in its place
    have hfolder := hb.wellFormed.get?_of_append hne' (hnames'.there.resolve_left hne')
    rw [List.append_nil] at hnames
    rw [hnames, hcontent] at hfolder
    exact absurd hfolder (by simp)
  have hsome : (w.disk.get? (place source)).isSome := by simp [hcontent]
  obtain ⟨⟨init, hinit⟩, heq, hpage⟩ :=
    hb.destination_source hfirm hsome hending hnames.symm hne
  obtain rfl : below opts.dist (pagePath names) = target := Except.ok.inj (heq.symm.trans htarget)
  rw [hb.place_target hnames' hne', place_below _ fun c hc => (hpage c hc).1] at hplace
  have hsame : names' = names := by
    have hname := baseName_of_hasEnding hending
    obtain ⟨init', c', rfl, hc', hending'⟩ := hnames'.exists_concat hb.wellFormed hb.views.absolute hne'
    subst hinit
    exact pagePath_concat_injective hc' hending' hname.1 hname.2 (List.append_cancel_left hplace)
  refine ⟨?_, by rw [hb.target_below hnames' hne', hsame]⟩
  rw [place_below _ fun c hc => (hnames'.entryName hb.wellFormed c hc).toIsName, hsame, hnames]

/-- Building a changed template again gives its page the text that the walk would give it. The page is
that of the view that the walk meets at the place of the template, and it could be written from the
beginning if it was written at all. -/
theorem rebuildsAsWalk (hb : FullBuild w opts) (hdev : w.project.development = true)
    (hroot : hasEnding opts.views templateExt = false)
    (hholds : ∀ view ∈ w.views opts, w.disk.holds view = true)
    (hconfined : ∀ view ∈ w.views opts, w.site.Confined view)
    (hprintable : ∀ view, w.site.Printable opts view)
    (ha : classify w.disk.cwd changed views opts.views opts.ext = .ok a) (hextent : a.extent ≠ .walk)
    (hsource : isAbsolute a.target = true) (hpre : place opts.views <+: place a.target)
    (hfile : w.disk.isFile a.target = true) (hending : hasEnding a.target templateExt = true)
    (htarget : opts.layout.destination w.disk.cwd a.target = .ok target) (hfirm : w.disk.Firm target) :
    w.RebuildsAsWalk opts changed views target := by
  rintro all w' hwalk ⟨page, hpage, hplace⟩
  obtain ⟨said, happly⟩ := hb.walk_apply hconfined fun view _ => hprintable view
  rw [happly] at hwalk
  obtain ⟨hall, rfl⟩ := Prod.ext_iff.mp hwalk
  simp only [Except.ok.injEq] at hall
  rw [← hall] at hpage
  obtain ⟨text, hjob, hwritable, hthere⟩ :=
    Disk.deliverAll_page hb.wellFormed hb.jobs_firm hb.jobs_pairwise_ne hpage
  obtain ⟨view, hview, hjob⟩ := List.mem_map.mp hjob
  obtain ⟨rfl, hfinished⟩ := Prod.ext_iff.mp hjob
  simp only at hfinished hplace hwritable hthere
  obtain ⟨content, hcontent⟩ := Disk.exists_of_isFile hfile
  obtain ⟨hsame, rfl⟩ := hb.place_eq_of_target hroot hview (.of_find? hsource hcontent)
    (Disk.get?_of_find? hsource hcontent) hending hpre htarget hplace
  have hpageOf := hb.pageOf_eq_of_place hview (hholds view hview) hsource hfile hsame
  rw [Site.finished, hpageOf, ← Site.finished] at hfinished
  obtain ⟨written, said', hrebuild⟩ :=
    hb.rebuild_template hdev ha hextent hending htarget hfirm (hprintable _)
  have hdelivered := Disk.delivered hb.wellFormed hfirm (some text)
  obtain ⟨text', htext', hwritten⟩ := hdelivered.content (hdelivered.ok_iff.mpr ⟨rfl, hwritable⟩)
  obtain rfl := Option.some.inj htext'
  rw [hrebuild, hfinished]
  simp only
  rw [Disk.fileAt?_eq_some.mpr hwritten, Disk.fileAt?_eq_some.mpr hthere]

/-- A change outside of the views has built what it has built out of development. -/
theorem rebuildsAll (hb : FullBuild w opts) (hdev : w.project.development = true)
    (hconfined : ∀ view ∈ w.views opts, w.site.Confined view)
    (hprintable : ∀ view, w.site.Printable opts view)
    (ha : classify w.disk.cwd changed views opts.views opts.ext = .ok a) (hextent : a.extent = .walk) :
    w.RebuildsAll changed views := by
  obtain ⟨messages, hrebuild⟩ := rebuild_apply hb.options hdev ha
  obtain ⟨said, hwalk⟩ := (hb.messages messages).walk_apply hconfined fun view _ => hprintable view
  obtain ⟨said', hwalk'⟩ := (hb.developing false).walk_apply hconfined fun view _ => hprintable view
  rw [if_pos hextent, classify_walk ha hextent, hwalk] at hrebuild
  have hout : rebuild changed views (w.developing false) = _ :=
    (rebuild_of_not_development (hb.developing false).options rfl).trans hwalk'
  exact ⟨_, _, _, hrebuild, hout, rfl⟩

end FullBuild

/-! ### Where it differs -/

/-- Building again does not give a page what the walk would give it, if it is left with something else. -/
theorem World.not_rebuildsAsWalk {page : String} {all : List String} {content : Content}
    (hpage : isAbsolute page = true)
    (hall : (walk opts.views none w).1.toOption = some all) (hmem : page ∈ all)
    (hwhole : (walk opts.views none w).2.disk.find? page = some (.file content))
    (hpart : (rebuild changed views w).2.disk.fileAt? (place page) ≠ some content) :
    ¬w.RebuildsAsWalk opts changed views page := by
  intro h
  rcases hwalk : walk opts.views none w with ⟨e | written, w'⟩
  · rw [hwalk] at hall
    exact absurd hall (by simp [Except.toOption])
  · rw [hwalk] at hall hwhole
    obtain rfl : written = all := Option.some.inj hall
    have hthere := Disk.get?_of_find? hpage hwhole
    exact hpart ((h _ _ hwalk ⟨page, hmem, rfl⟩).trans (Disk.fileAt?_eq_some.mpr hthere))

namespace World

/-- A world with a view and, beside it, a file with the name of its page. -/
def pageBesideView : World where
  disk := ⟨[(["src"], .folder), (["src", "views"], .folder),
    (["src", "views", "a.html"], .file (.text "x")),
    (["src", "views", "a.j2"], .file (.text "a"))], "/", "/"⟩
  project := ⟨"/config", true, false⟩

set_option maxRecDepth 100000

/-- It is a site to build, and a change of the file concerns only that file, for which nothing is built.
But its page is to stand where the walk puts the page of the view. -/
theorem pageBesideView_facts : ∃ opts, FullBuild pageBesideView opts ∧
    (∀ view ∈ pageBesideView.views opts,
      pageBesideView.disk.holds view = true ∧ pageBesideView.site.SelfContained view) ∧
    opts.beautifying.isTruthy = false ∧ hasEnding opts.views templateExt = false ∧
    opts.views = "/src/views" ∧
    (classify "/" "/src/views/a.html" ["a.j2"] opts.views opts.ext).toOption =
      some ⟨.single, "/src/views/a.html"⟩ ∧
    pageBesideView.disk.isFile "/src/views/a.html" = true ∧
    (opts.layout.destination "/" "/src/views/a.html").toOption = some "/dist/a.html" ∧
    (walk "/src/views" none pageBesideView).1.toOption = some ["/dist/a.html"] ∧
    (walk "/src/views" none pageBesideView).2.disk.find? "/dist/a.html" = some (.file (.text "a")) ∧
    (rebuild "/src/views/a.html" ["a.j2"] pageBesideView).2.disk.fileAt? ["dist", "a.html"] ≠
      some (.text "a") :=
  FullBuild.exists_of_buildable (Buildable.exists_of_options (by decide +kernel))

/-- Where the distribution directory cannot be named, a change of no view has all views built, which
fails. -/
theorem nullInDist_developing_facts : ∃ opts, Buildable (nullInDist.developing true) opts ∧
    (nullInDist.developing true).disk.Firm opts.views ∧
    (∀ view ∈ (nullInDist.developing true).views opts,
      (nullInDist.developing true).disk.holds view = true ∧
        (nullInDist.developing true).site.SelfContained view) ∧
    opts.beautifying.isTruthy = false ∧
    (classify "/" "/src/f.j2" ["a.j2"] opts.views opts.ext).toOption = some ⟨.walk, opts.views⟩ ∧
    (rebuild "/src/f.j2" ["a.j2"] (nullInDist.developing true)).1.toOption = none :=
  Buildable.exists_of_options (by decide +kernel)

/-- Not all is built as out of development if building fails. -/
theorem not_rebuildsAll_of_failure (hfails : (rebuild changed views w).1.toOption = none) :
    ¬w.RebuildsAll changed views := by
  rintro ⟨written, w', w'', hrebuild, -⟩
  rw [hrebuild] at hfails
  exact absurd hfails (by simp [Except.toOption])

end World

end StaticSite
