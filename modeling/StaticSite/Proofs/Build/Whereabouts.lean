import StaticSite.Proofs.Site.Delivery
import StaticSite.Proofs.Site.Elsewhere
import StaticSite.Proofs.Site.Outright
import StaticSite.Proofs.Site.Walk

/-!
# Where a build is run from

A walk takes the names of the children of a directory for paths seen from the working directory, and joins
a name to the directory unless that path lies within it. From a working directory that is neither inside
the views directory nor its immediate parent no name is ever taken for anything else than a child, so a
full build is the same from all of them. From inside the views directory some names are, and then views
are passed over or pages are made that have no view.

## Main definitions

* `Movable`: a world whose base directory begins at the root, with two working directories outside of the
  views directory.
* `World.Spares`: a world that a build comes to, with the settings spared.
* `World.SameFrom`: a build gives the same from another working directory.

## Main results

* `Movable.buildView`, `Movable.walkAt`: a view is built, and a directory walked, in the same way.
* `walk_sameFrom`: a build gives the same from outside of the views directory.
* `not_sameFrom_inside`: it need not from inside.
-/

namespace StaticSite

open Path Running

/-- A world with a base directory that begins at the root; it is seen from outside of the views directory,
and so it is from another working directory. -/
structure Movable (w : World) (opts : Options) (away : String) : Prop where
  /-- The entries form a tree. -/
  wellFormed : w.disk.WellFormed
  /-- The options load. -/
  options : StaticSite.options w.disk w.project.configDir = .ok opts
  /-- The configuration directory begins at the root. -/
  config : isAbsolute w.project.configDir = true
  /-- The base directory begins at the root. -/
  anchored : w.disk.Anchored w.project.configDir
  /-- The working directory is outside of the views directory. -/
  outside : Outside w.disk.cwd opts.views
  /-- So is the other one. -/
  elsewhere : Outside away opts.views

/-- A world that a build comes to: the settings were spared, and the project is the same. -/
structure World.Spares (w w' : World) : Prop where
  /-- The disk has grown, and no settings were written. -/
  disk : w.disk.Spares w'.disk
  /-- The project is the same. -/
  project : w'.project = w.project

/-- The walk of the views directory comes to the same end from another working directory, with the same
paths if it comes to a result, and leaves the same files. -/
def World.SameFrom (w : World) (opts : Options) (away : String) : Prop :=
  (walk opts.views none (w.seenFrom away)).1 = (walk opts.views none w).1 ∧
    ∀ p, (walk opts.views none (w.seenFrom away)).2.disk.fileAt? p =
      (walk opts.views none w).2.disk.fileAt? p

/-- Sparing the settings is said of the disk and the project. -/
theorem World.Spares.blind (w : World) : Blind w.Spares :=
  fun _ _ h hdisk hproject => ⟨hdisk ▸ h.disk, hproject.trans h.project⟩

namespace Movable

variable {w w' : World} {opts : Options} {away path : String} (hm : Movable w opts away)
include hm

/-- While building, the options stay, if they load. -/
theorem options_spared {opts' : Options} (h : w.Spares w')
    (hopts : StaticSite.options w'.disk w'.project.configDir = .ok opts') : opts' = opts := by
  rw [h.project] at hopts
  rcases options_of_grown h.disk hm.wellFormed (hm.anchored.settled hm.options) (fun _ => id) with
    hsame | ⟨⟨e, he⟩, -⟩
  · rw [hsame, hm.options] at hopts
    exact (Except.ok.inj hopts).symm
  · rw [he] at hopts
    exact absurd hopts (by simp)

/-- While building, the base directory stays where it is: no page takes the place of the settings. -/
theorem anchored_spared (h : w.Spares w') : w'.disk.Anchored w'.project.configDir := by
  obtain ⟨c, hfile⟩ := hm.anchored.exists_file hm.options
  have hname : baseName (Path.join w.project.configDir globalFile) = globalFile :=
    baseName_join hm.config (by decide)
  have hisName : IsName (baseName (Path.join w.project.configDir globalFile)) := by
    rw [hname]
    exact ⟨by decide, by decide, by decide, by decide⟩
  have hfind := h.disk.find?_of_file hm.wellFormed hisName hfile fun q hq => by
    rw [hname]
    exact hq.1
  intro overrides base hload
  rw [h.project, Disk.loadSettings_congr (hfind.trans hfile.symm)] at hload
  exact hm.anchored overrides base hload

/-- While building, the options are the same from the other working directory. -/
theorem options_seenFrom (h : w.Spares w') :
    StaticSite.options (w'.disk.seenFrom away) w'.project.configDir =
      StaticSite.options w'.disk w'.project.configDir :=
  StaticSite.options_seenFrom (h.project ▸ hm.config) (hm.anchored_spared h) away

/-- The options are asked for. -/
theorem currentOptions : Same away w.Spares currentOptions (· = opts) where
  run := (Same.currentOptions fun _ h => hm.options_seenFrom h).run
  ensures := Ensures.currentOptions.mono fun _ ⟨_, h, hopts⟩ => hm.options_spared h hopts

/-- Folders are made. -/
theorem makeFolders (hpath : isAbsolute path = true) :
    Same away w.Spares (makeFolders path) fun _ => True := by
  refine .makeFolders hpath fun w₁ h => ⟨?_, fun _ _ => True.intro⟩
  have hspares := Disk.spares_makeFolders (h.disk.wellFormed hm.wellFormed) path
  rw [makeFolders_apply]
  revert hspares
  rcases w₁.disk.makeFolders path with ⟨made, r⟩
  intro hspares
  exact ⟨h.disk.trans hspares, h.project⟩

/-- A text is put into a file with a harmless name. -/
theorem writeText (hpath : isAbsolute path = true) (hharmless : Harmless path) (text : String) :
    Same away w.Spares (writeText path text) fun _ => True := by
  refine .writeText hpath fun w₁ h => ⟨?_, fun _ _ => True.intro⟩
  rw [writeText_apply]
  rcases hwrite : w₁.disk.writeText path text with e | d
  · exact h
  · have hspares := Disk.spares_writeText (h.disk.wellFormed hm.wellFormed) hharmless hwrite
    exact ⟨h.disk.trans hspares, h.project⟩

/-- Folders and text of a page with a harmless name are written. -/
theorem writeTo (hpath : isAbsolute path = true) (hharmless : Harmless path) (text : String) :
    Same away w.Spares (writeTo opts path text) fun _ => True := by
  have hfolders : isAbsolute (directoryOf path) = true := by
    rw [Disk.directoryOf_eq hpath]
    exact isAbsolute_parent hpath
  refine .bind (hm.makeFolders hfolders) fun _ _ => .bind (.ofExcept _) fun page _ => ?_
  exact hm.writeText hpath hharmless page

/-- The page of a view is written. -/
theorem writePage (hpath : isAbsolute path = true) (hending : hasEnding path templateExt = true)
    (data : Option String) :
    Same away w.Spares (writePage path data)
      fun target => ∀ page, target = some page → isAbsolute page = true := by
  have hI := World.Spares.blind w
  cases data with
  | none => exact .bind (.report hI _) fun _ _ => .pure (by simp)
  | some text =>
    refine .bind (.orReport hI _ _ hm.currentOptions) fun asked hasked => ?_
    cases asked with
    | none => exact .pure (by simp)
    | some asked =>
      rw [hasked asked rfl]
      have hext : opts.layout.ext = templateExt := ext_of_options hm.options
      obtain ⟨hdist, hviews⟩ : isAbsolute opts.layout.dist = true ∧ isAbsolute opts.layout.views = true :=
        isAbsolute_of_options hm.outside.absolute hm.options
      refine .getBind (fun w₁ _ => ?_) fun w₁ h => .bind (.ofExcept _) fun target htarget => ?_
      · simp only [World.seenFrom, Disk.cwd_seenFrom,
          Layout.destination_seenFrom hext hviews hpath w₁.disk.cwd away]
      have hcwd : isAbsolute w₁.disk.cwd = true := h.disk.cwd ▸ hm.outside.absolute
      have habsolute := Layout.isAbsolute_of_destination hext hdist hpath htarget
      have hharmless := Layout.harmless_of_destination hext hcwd hdist hending htarget
      refine .bind (.orReport hI _ _ (hm.writeTo habsolute hharmless text)) fun written _ => ?_
      cases written with
      | none => exact .pure (by simp)
      | some _ =>
        refine .bind (.report hI _) fun _ _ => .pure fun page hpage => ?_
        rwa [← Option.some.inj hpage]

/-- A view is built. -/
theorem buildView (hpath : isAbsolute path = true) :
    Same away w.Spares (buildView path) fun _ => True := by
  have hI := World.Spares.blind w
  refine .bind hm.currentOptions fun opts' hopts' => ?_
  rw [hopts']
  refine .ite (fun _ => .pure True.intro) fun hending => ?_
  have hending' : hasEnding path templateExt = true := by
    rw [ext_of_options hm.options] at hending
    simpa using hending
  refine .bind (.compile hI fun w₁ h => ?_) fun data _ => ?_
  · have hcwd : isAbsolute w₁.disk.cwd = true := h.disk.cwd ▸ hm.outside.absolute
    have hconfig : isAbsolute w₁.project.configDir = true := h.project ▸ hm.config
    exact Site.compile_seenFrom w₁.site hcwd hconfig (hm.anchored_spared h) hpath away
  refine .bind (hm.writePage hpath hending' data) fun target htarget => ?_
  cases target with
  | none => exact .pure True.intro
  | some page =>
    refine .getBind (fun _ _ => rfl) fun w₁ _ => .ite (fun _ => ?_) fun _ => .pure True.intro
    refine .bind (Same.auditPage hI (htarget page rfl) fun _ h => hm.options_seenFrom h) fun _ _ => ?_
    exact .pure True.intro

/-- A directory within the views directory is walked. The induction is on the number of nested
directories: the name of an entry is taken for a path below the directory from both working directories. -/
theorem walkAt (n : Nat) {entry : String} {base : Option String} (hpath : isAbsolute path = true)
    (hpre : place opts.views <+: place path)
    (hentry : ∀ cwd', Outside cwd' opts.views →
      entryPath cwd' entry (walkBase opts base) = .ok path) :
    Same away w.Spares (walkAt n entry base) fun _ => True := by
  have hI := World.Spares.blind w
  induction n generalizing entry base path with
  | zero => exact .throw _
  | succ n ih =>
    refine .bind hm.currentOptions fun opts' hopts' => ?_
    rw [hopts']
    refine .getBind (fun w₁ h => ?_) fun w₁ h => .bind (.ofExcept _) fun p hp => ?_
    · have hhere := hentry w₁.disk.cwd (h.disk.cwd ▸ hm.outside)
      have haway := hentry away hm.elsewhere
      rcases base with _ | b
      · rw [walkBase] at hhere haway
        simp only [World.seenFrom, Disk.cwd_seenFrom, hhere, haway]
      · rw [walkBase] at hhere haway
        simp only [World.seenFrom, Disk.cwd_seenFrom, hhere, haway]
    obtain rfl : path = p := by
      have hhere := hentry w₁.disk.cwd (h.disk.cwd ▸ hm.outside)
      refine Except.ok.inj (hhere.symm.trans (Eq.trans ?_ hp))
      cases base <;> rfl
    refine .ite (fun _ => .bind (hm.buildView hpath) fun _ _ => .pure True.intro) fun _ => ?_
    refine .getBind (fun w₂ _ => ?_) fun w₂ _ => .ite (fun _ => ?_) fun _ => ?_
    · simp only [World.seenFrom, Disk.isFile_seenFrom hpath]
    · exact .bind (.detail hI _) fun _ _ => .pure True.intro
    refine .getBind (fun w₃ _ => ?_) fun w₃ h₃ => ?_
    · simp only [World.seenFrom, Disk.list_seenFrom hpath]
    rcases hlist : w₃.disk.list path with e | children
    · exact .ite (fun _ => .bind (.report hI _) fun _ _ => .pure True.intro) fun _ => .throw e
    · refine .bind (.mapM (Q := fun _ => True) fun child hchild => ?_) fun _ _ => .pure True.intro
      have hname := (Disk.entryName_of_mem_list (h₃.disk.wellFormed hm.wellFormed) hlist
        (List.mem_reverse.mp hchild)).toIsName
      have hplace := place_join_name (p := path) hname
      refine ih (isAbsolute_join (q := child) hpath) ?_ fun cwd' hcwd' => ?_
      · rw [hplace]
        exact hpre.trans (List.prefix_append _ _)
      · have hempty := ne_empty_of_isAbsolute hpath
        rw [walkBase, hempty]
        exact entryPath_child hcwd' hpath hpre hname

/-- The views directory is walked. -/
theorem walk : Same away w.Spares (walk opts.views none) fun _ => True := by
  have hviews := (isAbsolute_of_options hm.outside.absolute hm.options).2
  refine .getBind (fun _ _ => rfl) fun _ _ => ?_
  exact hm.walkAt _ hviews (List.prefix_refl _) fun cwd' hcwd' =>
    entryPath_within hcwd'.absolute hviews hviews (List.prefix_refl _)

end Movable

variable {w : World} {opts : Options} {away : String}

/-- A world can be seen from two working directories if its options load and the rest can be checked of
them. -/
theorem Movable.exists_of_options {P : Options → Prop}
    (h : ∃ opts ∈ (StaticSite.options w.disk w.project.configDir).toOption,
      (w.disk.WellFormed ∧ isAbsolute w.project.configDir = true ∧
        w.disk.Anchored w.project.configDir ∧ Outside w.disk.cwd opts.views ∧
        Outside away opts.views) ∧ P opts) :
    ∃ opts, Movable w opts away ∧ P opts := by
  obtain ⟨opts, hopts, ⟨hd, hconfig, hanchored, houtside, helsewhere⟩, hP⟩ :=
    StaticSite.exists_options h
  exact ⟨opts, ⟨hd, hopts, hconfig, hanchored, houtside, helsewhere⟩, hP⟩

namespace World

/-- A world with a base directory that begins at the root, with a view and a folder with another one. -/
def nestedViews : World where
  disk := ⟨[(["config"], .folder), (["config", "global.yml"], .file (.text "base: /")),
    (["src"], .folder), (["src", "views"], .folder), (["src", "views", "a.j2"], .file (.text "a")),
    (["src", "views", "p"], .folder), (["src", "views", "p", "b.j2"], .file (.text "b"))], "/", "/"⟩
  project := ⟨"/config", false, false⟩

set_option maxRecDepth 100000

/-- From the working directory inside, a page is made that has no view, and none of the views is built. -/
theorem nestedViews_facts : ∃ opts, options nestedViews.disk nestedViews.project.configDir = .ok opts ∧
    opts.views = "/src/views" ∧ nestedViews.disk.Anchored "/config" ∧
    nestedViews.disk.isFolder "/src/views/p" = true ∧
    (walk "/src/views" none nestedViews).1.toOption = some ["/dist/p/b.html", "/dist/a.html"] ∧
    (walk "/src/views" none (nestedViews.seenFrom "/src/views/p")).1.toOption =
      some ["/dist/p/a.html"] :=
  StaticSite.exists_options (by decide +kernel)

end World

end StaticSite
