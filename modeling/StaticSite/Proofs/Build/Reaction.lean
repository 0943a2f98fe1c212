import StaticSite.Proofs.Build.Incremental
import StaticSite.Proofs.Site.Settled
import StaticSite.Site.Build

/-!
# Every change has something built

In development a change that is watched has at least one view built that exists: the changed view, the
view that owns the directory of the changed file, or, for a change outside of the views, some view that
the walk meets. One exception is a file among the views that is no template and that no view owns: it
is taken for a view itself, and then it is none. The other one is a views directory that is named like a
view: the walk takes the directory for a view, and meets none of those in it.

That a view is built cannot be seen from what is written, since its page may be as before or may not be
written at all. It is seen by giving the run another builder of views, one that fails at the first view
that exists: then the whole run has to fail.

## Main definitions

* `World.barred`: the builder that fails at a view that exists.
* `World.BuildsSome`: no view that exists can be avoided.
* `World.Drops`: a change is one of the exceptions.

## Main results

* `rebuild_buildsSome_iff`: a change has a view built unless it is one of the exceptions.
* `not_buildsSome`: for such a file, which may well match a glob, nothing is built.
-/

namespace StaticSite

open Path Running

variable {w w₁ : World} {opts : Options} {changed path : String} {views : List String} {e : Failure}

/-! ### Views that exist -/

/-- The builder of views, but that it fails with `e` at a view that exists. -/
def World.barred (w : World) (e : Failure) (path : String) : Running (Option String) :=
  if hasEnding path templateExt && w.disk.isFile path then throw e else buildView path

/-- What a change affects cannot be built without building a view that exists: a builder that fails at
such a view makes it fail alike. -/
def World.BuildsSome (w : World) (changed : String) (views : List String) : Prop :=
  ∀ e, (rebuildWith (w.barred e) changed views w).1 = .error e

/-- A change is one of a file alone that is no template, or one of all views where the views directory is
named like a view. -/
inductive World.Drops (w : World) (opts : Options) (changed : String) (views : List String) : Prop
  /-- The file is taken for a view. -/
  | file (affected : classify w.disk.cwd changed views opts.views opts.ext = .ok ⟨.single, changed⟩)
      (ending : hasEnding changed opts.ext = false)
  /-- The views directory is taken for a view. -/
  | directory (affected : classify w.disk.cwd changed views opts.views opts.ext = .ok ⟨.walk, opts.views⟩)
      (ending : hasEnding opts.views templateExt = true)

/-- What is there and no file is a folder. -/
theorem Disk.isFolder_of_holds {d : Disk} (h : d.holds path = true) (hfile : d.isFile path = false) :
    d.isFolder path = true := by
  obtain ⟨entry, hfind⟩ := Option.isSome_iff_exists.mp h
  cases entry with
  | folder => simp [Disk.isFolder, hfind]
  | file c =>
    rw [Disk.isFile, hfind] at hfile
    exact absurd hfile (by simp)

/-- What can be read as a directory is a folder. -/
theorem Disk.find?_of_list {d : Disk} {children : List String} (h : d.list path = .ok children) :
    d.find? path = some .folder := by
  rw [Disk.list, Disk.refuseNull] at h
  rw [Disk.find?]
  split at h
  · exact absurd h (by simp)
  · next hnull =>
    split at hnull
    · exact absurd hnull (by simp)
    · next hno =>
      rw [if_neg hno]
      rcases hl : d.locate path with fault | p
      · simp [hl] at h
      · simp only [hl] at h ⊢
        split at h
        · exact absurd h (by simp)
        · exact absurd h (by simp)
        · next hfolder => exact hfolder

/-- A view that exists is not built. -/
theorem World.barred_of_isFile (hending : hasEnding path templateExt = true)
    (hfile : w.disk.isFile path = true) (e : Failure) : w.barred e path w₁ = (.error e, w₁) := by
  rw [World.barred, hending, hfile]
  rfl

/-- A folder that is named like a view leaves messages only. -/
theorem World.barred_of_isFolder (hopts : options w.disk w.project.configDir = .ok opts)
    (hending : hasEnding path templateExt = true)
    (hfolder : w.disk.isFolder path = true) (e : Failure) (messages : List Message) :
    ∃ messages', w.barred e path { w with messages := messages } =
      (.ok none, { w with messages := messages' }) := by
  have hfind : w.disk.find? path = some .folder := by simpa [Disk.isFolder] using hfolder
  have hfile : w.disk.isFile path = false := by rw [Disk.isFile, hfind]
  have hno : (!hasEnding path opts.ext) = false := by rw [ext_of_options hopts, hending]; rfl
  obtain ⟨said, hcompile⟩ := w.site.compile_of_isFolder hfolder ⟨messages, w.including⟩
  rw [World.barred, hfile, Bool.and_false, if_neg (by simp), buildView, bind_apply,
    currentOptions_apply (w := { w with messages := messages }) hopts]
  simp only [hno, Bool.false_eq_true, if_false]
  rw [bind_apply, compile_apply]
  exact ⟨_, by rw [show World.site { w with messages := messages } = w.site from rfl, hcompile]; rfl⟩

/-! ### The walk -/

/-- A world in which nothing but messages was added. -/
abbrev World.Untouched (w w' : World) : Prop := ∃ messages, w' = { w with messages := messages }

/-- While nothing but messages is added, a walk is not disturbed. -/
theorem World.undisturbed_untouched (hopts : options w.disk w.project.configDir = .ok opts)
    (root : String) : Undisturbed w.disk opts root w.Untouched where
  options := by
    rintro _ ⟨messages, rfl⟩
    exact hopts
  cwd := by
    rintro _ ⟨messages, rfl⟩
    rfl
  isFile := by
    rintro _ names ⟨messages, rfl⟩ -
    rfl
  list := by
    rintro _ names children ⟨messages, rfl⟩ -
    rfl
  messages := by
    rintro _ messages ⟨-, rfl⟩
    exact ⟨messages, rfl⟩

/-- Dealing with all that a walk meets fails as soon as a view that exists is among it. The induction is
on what is met: up to the first such view only messages are added. -/
theorem visitAllWith_barred (hopts : options w.disk w.project.configDir = .ok opts)
    {plan : List Visit}
    (hfirm : ∀ v ∈ plan, w.disk.Firm v.path)
    (hviews : ∀ view, .view view ∈ plan →
      hasEnding view templateExt = true ∧ w.disk.holds view = true)
    (hsome : ∃ view, .view view ∈ plan ∧ w.disk.isFile view = true) (h : w.Untouched w₁) :
    (visitAllWith (w.barred e) plan w₁).1 = .error e := by
  induction plan generalizing w₁ with
  | nil => exact absurd hsome (by simp)
  | cons v plan ih =>
    have hgo : ∀ {w₂}, visitWith (w.barred e) v w₁ = (.ok [], w₂) → w.Untouched w₂ →
        (∃ view, .view view ∈ plan ∧ w.disk.isFile view = true) →
        (visitAllWith (w.barred e) (v :: plan) w₁).1 = .error e := by
      intro w₂ hvisit h₂ hrest
      have hfail := ih (fun x hx => hfirm x (List.mem_cons_of_mem _ hx))
        (fun x hx => hviews x (List.mem_cons_of_mem _ hx)) hrest h₂
      rw [visitAllWith, bind_apply, hvisit]
      simp only
      rw [bind_apply]
      rcases hr : visitAllWith (w.barred e) plan w₂ with ⟨_ | rest, w₃⟩
      · rw [hr] at hfail
        exact hfail
      · rw [hr] at hfail
        exact absurd hfail (by simp)
    obtain ⟨messages, rfl⟩ := h
    have hquiet : v.view? = none → (visitAllWith (w.barred e) (v :: plan)
        { w with messages := messages }).1 = .error e := by
      intro hview
      obtain ⟨said, hvisit⟩ := visit_of_not_view (w := { w with messages := messages }) hview
        (hfirm v List.mem_cons_self)
      obtain ⟨view, hmem, hfile⟩ := hsome
      have hrest : .view view ∈ plan := (List.mem_cons.mp hmem).resolve_left fun heq => by
        rw [← heq] at hview
        exact absurd hview (by simp [Visit.view?])
      refine hgo ?_ ⟨said, rfl⟩ ⟨view, hrest, hfile⟩
      rw [← hvisit]
      cases v with
      | view path => exact absurd hview (by simp [Visit.view?])
      | skip path => rfl
      | unreadable path => rfl
    cases v with
    | view path =>
      obtain ⟨hending, hholds⟩ := hviews path List.mem_cons_self
      by_cases hfile : w.disk.isFile path = true
      · rw [visitAllWith, bind_apply, visitWith, bind_apply, World.barred_of_isFile hending hfile]
      · obtain ⟨view, hmem, hview⟩ := hsome
        have hrest : .view view ∈ plan := (List.mem_cons.mp hmem).resolve_left fun heq => by
          rw [Visit.view.injEq] at heq
          exact hfile (heq ▸ hview)
        obtain ⟨said, hbuild⟩ := World.barred_of_isFolder hopts hending
          (Disk.isFolder_of_holds hholds (by simpa using hfile)) e messages
        refine hgo ?_ ⟨said, rfl⟩ ⟨view, hrest, hview⟩
        rw [visitWith, bind_apply, hbuild]
        rfl
    | skip path => exact hquiet rfl
    | unreadable path => exact hquiet rfl

/-! ### The views of the views directory -/

variable {d : Disk} {folder ext view : String}

/-- A directory with views directly inside can be read. -/
theorem list_of_viewSet (h : viewSet d folder ext = .ok views) :
    ∃ names, d.list folder = .ok names ∧ views = names.filter fun name => hasEnding name ext := by
  rw [viewSet] at h
  rcases hl : d.list folder with e | names
  · rw [hl] at h
    exact absurd h (by simp [Except.map])
  · rw [hl] at h
    exact ⟨names, rfl, (Except.ok.inj h).symm⟩

/-- Where views are directly inside, the path is firm. -/
theorem firm_of_viewSet (habsolute : isAbsolute folder = true) (h : viewSet d folder ext = .ok views) :
    d.Firm folder := by
  obtain ⟨names, hl, -⟩ := list_of_viewSet h
  exact .of_find? habsolute (Disk.find?_of_list hl)

/-- The views directly inside a directory are entries of it that end like templates. -/
theorem entry_of_mem_viewSet (hd : d.WellFormed) (hfirm : d.Firm folder)
    (h : viewSet d folder ext = .ok views) (hview : view ∈ views) :
    hasEnding view ext = true ∧ IsName view ∧ (d.get? (place folder ++ [view])).isSome := by
  obtain ⟨names, hl, rfl⟩ := list_of_viewSet h
  obtain ⟨hname, hending⟩ := List.mem_filter.mp hview
  exact ⟨hending, (Disk.entryName_of_mem_list hd hl hname).toIsName,
    Disk.isSome_of_mem_list hd hfirm hl hname⟩

/-- A view directly inside the views directory is one that the walk meets. -/
theorem isView_of_mem_viewSet (hd : d.WellFormed) (hfirm : d.Firm folder)
    (hfolder : hasEnding folder templateExt = false) (h : viewSet d folder templateExt = .ok views)
    (hview : view ∈ views) : IsView d folder [view] := by
  obtain ⟨hending, hname, hsome⟩ := entry_of_mem_viewSet hd hfirm h hview
  obtain ⟨names, hl, -⟩ := list_of_viewSet h
  refine ⟨.inr hsome, ?_, fun init rest heq hne => ?_⟩
  · rw [below, List.foldl_cons, List.foldl_nil, hasEnding_join hfirm.absolute hname.slash (by decide),
      hending]
  · obtain rfl : init = [] := by
      cases init with
      | nil => rfl
      | cons x init =>
        rw [List.cons_append, List.cons.injEq, eq_comm, eq_comm (a := []), List.append_eq_nil_iff] at heq
        exact absurd heq.2.2 hne
    exact ⟨hfolder, ((Disk.list_eq_ok hd hfirm).mp hl).1⟩

/-- The walk of the views directory builds a view that exists, if there is one directly inside. -/
theorem walkWith_barred (hd : w.disk.WellFormed)
    (hopts : options w.disk w.project.configDir = .ok opts)
    (houtside : Outside w.disk.cwd opts.views) (hroot : hasEnding opts.views templateExt = false)
    (hholds : ∀ view, w.Visits opts view → w.disk.holds view = true)
    (hviews : viewSet w.disk opts.views opts.ext = .ok views) (hview : view ∈ views)
    (hfile : w.disk.isFile (Path.join opts.views view) = true) (h : w.Untouched w₁) :
    (walkWith (w.barred e) opts.views none w₁).1 = .error e := by
  have habsolute := (isAbsolute_of_options houtside.absolute hopts).2
  have hext := ext_of_options hopts
  rw [hext] at hviews
  have hfirm := firm_of_viewSet habsolute hviews
  have hentry : entryPath w.disk.cwd opts.views (walkBase opts none) = .ok (below opts.views []) :=
    entryPath_within houtside.absolute habsolute habsolute (List.prefix_refl _)
  have hmet : ∀ view, .view view ∈ visits w.disk (walkBudget w.disk) opts.views → w.Visits opts view :=
    fun view hmem => (World.mem_views hd hfirm).mp (mem_viewsBelow.mpr hmem)
  have hending : ∀ view, w.Visits opts view → hasEnding view templateExt = true := by
    rintro _ ⟨names, hnames, rfl⟩
    exact hnames.ending
  have hplan := (walkAtWith_eq (w.barred e) hd hfirm houtside (List.prefix_refl _) hext
    (World.undisturbed_untouched hopts _) (walkBudget_pos w.disk) (by simp)
    (length_lt_walkBudget w.disk _) hentry h ?_).1
  · obtain ⟨messages, rfl⟩ := h
    have hwalk : walkWith (w.barred e) opts.views none { w with messages := messages } =
        walkAtWith (w.barred e) (walkBudget w.disk) opts.views none { w with messages := messages } := by
      rw [walkWith, bind_apply, get_apply]
    rw [hwalk, hplan, below_nil]
    refine visitAllWith_barred hopts (visits_firm hd hfirm _)
      (fun view hmem => ⟨hending view (hmet view hmem), hholds view (hmet view hmem)⟩) ?_ ⟨messages, rfl⟩
    have hisView := isView_of_mem_viewSet hd hfirm hroot hviews hview
    exact ⟨_, mem_viewsBelow.mp ((World.mem_views hd hfirm).mpr ⟨[view], hisView, rfl⟩), hfile⟩
  · rintro view hmem _ ⟨messages, rfl⟩ r w' hbuild
    have hvisits := hmet view hmem
    by_cases hfile : w.disk.isFile view = true
    · rw [World.barred_of_isFile (hending view hvisits) hfile] at hbuild
      exact absurd (Prod.ext_iff.mp hbuild).1 (by simp)
    · obtain ⟨said, hfolder⟩ := World.barred_of_isFolder hopts (hending view hvisits)
        (Disk.isFolder_of_holds (hholds view hvisits) (by simpa using hfile)) e messages
      rw [hfolder] at hbuild
      exact ⟨said, ((Prod.ext_iff.mp hbuild).2).symm⟩

/-- The walk of a views directory that is named like a view takes the directory for a view. -/
theorem walkWith_barred_of_hasEnding (hopts : options w.disk w.project.configDir = .ok opts)
    (houtside : Outside w.disk.cwd opts.views) (hroot : hasEnding opts.views templateExt = true)
    (hviews : viewSet w.disk opts.views opts.ext = .ok views) (e : Failure) (messages : List Message) :
    ∃ w₂, walkWith (w.barred e) opts.views none { w with messages := messages } = (.ok [], w₂) := by
  have habsolute := (isAbsolute_of_options houtside.absolute hopts).2
  have hentry : entryPath w.disk.cwd opts.views (walkBase opts none) = .ok opts.views :=
    entryPath_within houtside.absolute habsolute habsolute (List.prefix_refl _)
  have hending : hasEnding opts.views opts.ext = true := by rw [ext_of_options hopts, hroot]
  obtain ⟨names, hlist, -⟩ := list_of_viewSet hviews
  have hfolder : w.disk.isFolder opts.views = true := by
    rw [Disk.isFolder, Disk.find?_of_list hlist]
    rfl
  obtain ⟨said, hbuild⟩ := World.barred_of_isFolder hopts hroot hfolder e messages
  obtain ⟨n, hn⟩ := Nat.exists_eq_succ_of_ne_zero (walkBudget_pos w.disk).ne'
  refine ⟨{ w with messages := said }, ?_⟩
  rw [walkWith, bind_apply, get_apply]
  simp only
  rw [hn, walkAtWith_succ (w := { w with messages := messages }) hopts hentry, if_pos hending,
    visitWith, bind_apply, hbuild]
  rfl

/-- A change of one file alone that is no template has nothing built. -/
theorem World.not_buildsSome_of_single (hopts : options w.disk w.project.configDir = .ok opts)
    (hdev : w.project.development = true)
    (ha : classify w.disk.cwd changed views opts.views opts.ext = .ok ⟨.single, changed⟩)
    (hending : hasEnding changed opts.ext = false) : ¬w.BuildsSome changed views := by
  intro hbuilds
  obtain ⟨messages, hrebuild⟩ := rebuildWith_apply (w.barred .tooDeep) hopts hdev ha
  have hbarred : w.barred .tooDeep changed { w with messages := messages } =
      (.ok none, { w with messages := messages }) := by
    rw [World.barred, ← ext_of_options hopts, hending, Bool.false_and, if_neg (by simp)]
    exact buildView_of_not_hasEnding hopts hending
  have hfail := hbuilds .tooDeep
  rw [hrebuild, if_neg (by simp), visitWith, bind_apply, hbarred] at hfail
  exact absurd hfail (by simp [pure_apply])

/-- A change of all views has nothing built if the views directory is named like a view. -/
theorem World.not_buildsSome_of_walk (hopts : options w.disk w.project.configDir = .ok opts)
    (hdev : w.project.development = true) (houtside : Outside w.disk.cwd opts.views)
    (hviews : viewSet w.disk opts.views opts.ext = .ok views)
    (ha : classify w.disk.cwd changed views opts.views opts.ext = .ok ⟨.walk, opts.views⟩)
    (hroot : hasEnding opts.views templateExt = true) : ¬w.BuildsSome changed views := by
  intro hbuilds
  obtain ⟨messages, hrebuild⟩ := rebuildWith_apply (w.barred .tooDeep) hopts hdev ha
  obtain ⟨w₂, hwalk⟩ := walkWith_barred_of_hasEnding hopts houtside hroot hviews .tooDeep messages
  have hfail := hbuilds .tooDeep
  rw [hrebuild, if_pos rfl, hwalk] at hfail
  exact absurd hfail (by simp)

/-- **A change in development has a view built**, unless it is of a file among the views that is no
template and that no view owns, or of all views in a directory that is named like a view. -/
theorem rebuild_buildsSome_iff (hd : w.disk.WellFormed)
    (hopts : options w.disk w.project.configDir = .ok opts) (hdev : w.project.development = true)
    (houtside : Outside w.disk.cwd opts.views)
    (hholds : ∀ view, w.Visits opts view → w.disk.holds view = true)
    (hviews : viewSet w.disk opts.views opts.ext = .ok views) (hne : views ≠ [])
    (hfiles : ∀ view ∈ views, w.disk.isFile (Path.join opts.views view) = true)
    (hchanged : w.disk.isFile changed = true) :
    w.BuildsSome changed views ↔ ¬w.Drops opts changed views := by
  have hext := ext_of_options hopts
  constructor
  · intro hbuilds hdrops
    cases hdrops with
    | file ha hending => exact World.not_buildsSome_of_single hopts hdev ha hending hbuilds
    | directory ha hroot => exact World.not_buildsSome_of_walk hopts hdev houtside hviews ha hroot hbuilds
  · intro hpasses e
    have hpath : changed ≠ "" := by
      rintro rfl
      exact absurd hchanged (by rw [show w.disk.isFile "" = false from rfl]; simp)
    obtain ⟨a, ha⟩ := exists_classify_of_ne_empty hpath w.disk.cwd views opts.views opts.ext
    obtain ⟨messages, hrebuild⟩ := rebuildWith_apply (w.barred e) hopts hdev ha
    have halone : a.extent ≠ .walk → hasEnding a.target templateExt = true →
        w.disk.isFile a.target = true → (rebuildWith (w.barred e) changed views w).1 = .error e := by
      intro hextent hending hfile
      rw [hrebuild, if_neg hextent, visitWith, bind_apply, World.barred_of_isFile hending hfile]
    cases hextent : a.extent with
    | single =>
      have htarget := classify_single ha hextent
      have hending : hasEnding changed opts.ext = true := by
        by_contra hno
        refine hpasses (.file ?_ (by simpa using hno))
        rw [ha, ← htarget, ← hextent]
      rw [hext] at hending
      exact halone (by simp [hextent]) (htarget ▸ hending) (htarget ▸ hchanged)
    | inferred =>
      obtain ⟨view, hview, htarget⟩ := classify_inferred ha hextent
      have hfirm := firm_of_viewSet (isAbsolute_of_options houtside.absolute hopts).2 hviews
      obtain ⟨hending, hname, -⟩ := entry_of_mem_viewSet hd hfirm hviews hview
      rw [hext] at hending htarget
      rw [stem_append hname.slash hending] at htarget
      refine halone (by simp [hextent]) ?_ (htarget ▸ hfiles view hview)
      rw [htarget, hasEnding_join hfirm.absolute hname.slash (by decide), hending]
    | walk =>
      have htarget := classify_walk ha hextent
      have hroot : hasEnding opts.views templateExt = false := by
        by_contra hno
        refine hpasses (.directory ?_ (by simpa using hno))
        rw [ha, ← htarget, ← hextent]
      obtain ⟨view, hview⟩ := List.exists_mem_of_ne_nil _ hne
      rw [hrebuild, if_pos hextent, htarget]
      exact walkWith_barred hd hopts houtside hroot hholds hviews hview (hfiles view hview)
        ⟨messages, rfl⟩

namespace World

/-- A world with a view, a part of it in its directory, a file beside the view and a layout. -/
def partials : World where
  disk := ⟨[(["src"], .folder), (["src", "layout.j2"], .file (.text "l")),
    (["src", "views"], .folder), (["src", "views", "home"], .folder),
    (["src", "views", "home", "intro.md"], .file (.text "i")),
    (["src", "views", "home.j2"], .file (.text "h")),
    (["src", "views", "x.md"], .file (.text "x"))], "/", "/"⟩
  project := ⟨"/config", true, false⟩

set_option maxRecDepth 100000

/-- It is seen from outside of the views, and its one view is a file. The change of the part is one of the
view, the change of the file beside the view is one of that file alone; it matches a glob. -/
theorem partials_facts : ∃ opts, options partials.disk partials.project.configDir = .ok opts ∧
    partials.disk.WellFormed ∧ Outside partials.disk.cwd opts.views ∧
    isAbsolute opts.views = true ∧
    (∀ view ∈ partials.views opts, partials.disk.holds view = true) ∧
    (viewSet partials.disk opts.views opts.ext).toOption = some ["home.j2"] ∧
    (∀ view ∈ ["home.j2"], partials.disk.isFile (Path.join opts.views view) = true) ∧
    (classify partials.disk.cwd "/src/views/home/intro.md" ["home.j2"] opts.views opts.ext).toOption =
      some ⟨.inferred, "/src/views/home.j2"⟩ ∧
    (classify partials.disk.cwd "/src/views/x.md" ["home.j2"] opts.views opts.ext).toOption =
      some ⟨.single, "/src/views/x.md"⟩ ∧
    hasEnding "/src/views/x.md" opts.ext = false ∧
    ((iterate opts.globs).bind (matchesAny "/src/views/x.md")).toOption = some true ∧
    (rebuild "/src/views/x.md" ["home.j2"] partials).1.toOption = some [] :=
  exists_options (by decide +kernel)

/-- A change of the part has a view built. -/
theorem partials_buildsSome : ∃ opts, options partials.disk partials.project.configDir = .ok opts ∧
    partials.disk.WellFormed ∧ partials.project.development = true ∧
    Outside partials.disk.cwd opts.views ∧
    (∀ view, partials.Visits opts view → partials.disk.holds view = true) ∧
    viewSet partials.disk opts.views opts.ext = .ok ["home.j2"] ∧
    (∀ view ∈ ["home.j2"], partials.disk.isFile (Path.join opts.views view) = true) ∧
    partials.disk.isFile "/src/views/home/intro.md" = true ∧
    partials.BuildsSome "/src/views/home/intro.md" ["home.j2"] := by
  obtain ⟨opts, hopts, hd, houtside, habsolute, hholds, hviews, hfiles, hclassify, -⟩ := partials_facts
  have hviews' := ok_of_toOption hviews
  have hholds' : ∀ view, partials.Visits opts view → partials.disk.holds view = true :=
    World.forall_visits hd (firm_of_viewSet habsolute hviews') hholds
  have hfile : partials.disk.isFile "/src/views/home/intro.md" = true := by decide
  refine ⟨opts, hopts, hd, rfl, houtside, hholds', hviews', hfiles, hfile, ?_⟩
  refine (rebuild_buildsSome_iff hd hopts rfl houtside hholds' hviews' (by simp) hfiles
    hfile).mpr fun hdrops => ?_
  cases hdrops with
  | file ha _ | directory ha _ =>
    rw [ok_of_toOption hclassify] at ha
    exact absurd (Except.ok.inj ha) (by simp)

end World

/-- A change need not have a view built. A file beside the views that is no template and that no view
owns matches a glob, but nothing is built for it. -/
theorem not_buildsSome : ∃ opts,
    options World.partials.disk World.partials.project.configDir = .ok opts ∧
    Outside World.partials.disk.cwd opts.views ∧
    viewSet World.partials.disk opts.views opts.ext = .ok ["home.j2"] ∧
    (∀ view ∈ ["home.j2"], World.partials.disk.isFile (Path.join opts.views view) = true) ∧
    World.partials.disk.isFile "/src/views/x.md" = true ∧
    (iterate opts.globs).bind (matchesAny "/src/views/x.md") = .ok true ∧
    (rebuild "/src/views/x.md" ["home.j2"] World.partials).1 = .ok [] ∧
    ¬World.partials.BuildsSome "/src/views/x.md" ["home.j2"] := by
  obtain ⟨opts, hopts, -, houtside, -, -, hviews, hfiles, -, hclassify, hending, hglob, hbuilt⟩ :=
    World.partials_facts
  exact ⟨opts, hopts, houtside, ok_of_toOption hviews, hfiles, by decide, ok_of_toOption hglob,
    ok_of_toOption hbuilt,
    World.not_buildsSome_of_single hopts rfl (ok_of_toOption hclassify) hending⟩

end StaticSite
