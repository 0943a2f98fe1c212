import StaticSite.Proofs.Path.Place
import StaticSite.Proofs.Site.Compiling

/-!
# What a compilation reads

A compilation looks at the site through its options and through what is found under the paths that it
reads. Two sites that agree on these compile a view alike, in particular before and after pages were
written to the distribution directory. References that lead out of what two sites agree on are set
apart by diverting them to any other resolver: a view whose compilation does not notice evaluates no
such reference.

## Main definitions

* `Site.Alike`: two sites agree on the options and on what is found under some paths.
* `Site.divertedAt`: finding fragments, with some references diverted.
* `Site.Confined`: no reference that climbs is evaluated.

## Main results

* `Disk.readText_congr`: reading a file that is found.
* `Site.Alike.compileWith_eq`: sites that are alike compile a source alike.
* `Site.Alike.pageOf_eq`: and they compile a view alike if no diverted reference is evaluated.
-/

namespace StaticSite

namespace Disk

variable {d d' : Disk} {path : String}

/-- What an entry holds when it is read. -/
def contentOf (path : String) : Entry → Except Failure Content
  | .folder => .error (faultAt .isDirectory path)
  | .file c => .ok c

/-- What is found under a path is what is read. -/
theorem content_of_find? {e : Entry} (h : d.find? path = some e) :
    d.content path = contentOf path e := by
  rw [find?] at h
  by_cases hnull : path.toList.contains (Char.ofNat 0) = true
  · rw [if_pos hnull] at h
    exact absurd h (by simp)
  rw [if_neg hnull] at h
  rw [content, refuseNull, if_neg hnull]
  rcases hl : d.locate path with fault | p
  · simp [hl] at h
  · rw [hl] at h
    simp only at h ⊢
    rw [h]
    cases e <;> rfl

/-- Two disks that show the same under a path have the same text there, if they show anything. -/
theorem readText_congr (h : d'.find? path = d.find? path) (hsome : d.holds path = true) :
    d'.readText path = d.readText path := by
  obtain ⟨e, he⟩ := Option.isSome_iff_exists.mp hsome
  rw [readText, readText, content_of_find? he, content_of_find? (h.trans he)]

/-- Two disks that show the same under a path agree on whether anything is there. -/
theorem holds_congr (h : d'.find? path = d.find? path) : d'.holds path = d.holds path := by
  rw [holds, h, holds]

/-- Two disks that show the same under a path agree on whether a file is there. -/
theorem isFile_congr (h : d'.find? path = d.find? path) : d'.isFile path = d.isFile path := by
  rw [isFile, h, isFile]

/-- A file is found. -/
theorem exists_of_isFile (h : d.isFile path = true) : ∃ c, d.find? path = some (.file c) := by
  rw [isFile] at h
  split at h
  · next c he => exact ⟨c, he⟩
  · exact absurd h (by simp)

/-- A file is something. -/
theorem holds_of_isFile (h : d.isFile path = true) : d.holds path = true := by
  obtain ⟨c, hc⟩ := exists_of_isFile h
  rw [holds, hc]
  rfl

/-- Two disks that show the same under a path hold the same settings there. -/
theorem loadSettings_congr (h : d'.find? path = d.find? path) :
    loadSettings d' path = loadSettings d path := by
  rw [loadSettings, loadSettings, holds_congr h]
  by_cases hsome : d.holds path = true
  · rw [readText_congr h hsome]
  · rw [if_pos (by simpa using hsome), if_pos (by simpa using hsome)]

end Disk

/-- Two disks with the same settings files, seen from the same directories, give the same options. -/
theorem options_congr {d d' : Disk} {configDir : String} (hcwd : d'.cwd = d.cwd)
    (hhome : d'.home = d.home)
    (hglobal : d'.find? (Path.join configDir globalFile) = d.find? (Path.join configDir globalFile))
    (htemplates : d'.find? (Path.join configDir templatesFile) =
      d.find? (Path.join configDir templatesFile)) :
    options d' configDir = options d configDir := by
  have hbase : ∀ settings, baseDirectory d' settings = baseDirectory d settings := by
    intro settings
    rw [baseDirectory, hcwd, hhome, baseDirectory]
  rw [options, Disk.loadSettings_congr hglobal, Disk.loadSettings_congr htemplates]
  simp only [hbase]
  rfl

/-- A result that is there. -/
theorem ok_of_toOption {α : Type} {r : Except Failure α} {a : α} (h : r.toOption = some a) :
    r = .ok a := by
  cases r with
  | error e => exact absurd h (by simp [Except.toOption])
  | ok b => rw [Option.some.inj h]

/-- So is a result that is as it should be. -/
theorem exists_of_toOption {α : Type} {r : Except Failure α} {P : α → Prop}
    (h : ∃ a ∈ r.toOption, P a) : ∃ a, r = .ok a ∧ P a := by
  obtain ⟨a, hmem, hP⟩ := h
  exact ⟨a, ok_of_toOption hmem, hP⟩

/-- Options that load are what is found when they are asked for. -/
theorem exists_options {d : Disk} {configDir : String} {P : Options → Prop}
    (h : ∃ opts ∈ (options d configDir).toOption, P opts) :
    ∃ opts, options d configDir = .ok opts ∧ P opts := exists_of_toOption h

namespace Site

/-! ### Sites that are alike -/

/-- Two sites agree on the options and on what is found under some paths, among which are all that
references lead to, but for those that stray. -/
structure Alike (strays : String → Bool) (reads : String → Prop) (s s' : Site) : Prop where
  /-- As many nested includes can be followed. -/
  depth : s'.depth = s.depth
  /-- The options are the same. -/
  options : StaticSite.options s'.disk s'.configDir = StaticSite.options s.disk s.configDir
  /-- The same is found under the paths. -/
  find? : ∀ path, reads path → s'.disk.find? path = s.disk.find? path
  /-- The paths are called the same, as seen from the source directory. -/
  name : ∀ opts path, StaticSite.options s.disk s.configDir = .ok opts → reads path →
    Path.relative s'.disk.cwd path opts.source = Path.relative s.disk.cwd path opts.source
  /-- References lead to the paths unless they stray. -/
  reference : ∀ opts r, StaticSite.options s.disk s.configDir = .ok opts → strays r = false →
    reads (referencePath opts.source (withExtension opts.ext r).1)
  /-- The names of templates lead to the paths. -/
  template : ∀ opts name pieces, StaticSite.options s.disk s.configDir = .ok opts →
    templatePieces? name = some pieces → reads (pieces.foldl Path.join opts.source)

/-- Finding fragments at most `n` includes deep, with the references that stray diverted. -/
def divertedAt (strays : String → Bool) (elsewhere : Nat → Resolver) (site : Site) : Nat → Resolver
  | 0 => fun _ _ _ => throw .tooDeep
  | n + 1 => fun reference locals store =>
    if reference.toOption.any strays then elsewhere (n + 1) reference locals store
    else resolveWith site (divertedAt strays elsewhere site n) reference locals store

/-- No reference that climbs is evaluated while a view is compiled: whatever such references led to,
the compilation would be the same. -/
def Confined (site : Site) (view : String) : Prop :=
  ∀ elsewhere : Nat → Resolver,
    compileWith site (site.divertedAt Path.climbs elsewhere site.depth) .template view (.ok .none) #[] =
      compileWith site (resolve site) .template view (.ok .none) #[]

/-- Diverting references to where they lead anyway changes nothing. -/
theorem divertedAt_resolveAt (strays : String → Bool) (site : Site) (n : Nat) :
    site.divertedAt strays (resolveAt site) n = resolveAt site n := by
  induction n with
  | zero => rfl
  | succ n ih =>
    funext reference locals store
    rw [divertedAt, ih]
    exact ite_self _

/-- If no reference strays, none is diverted. -/
theorem divertedAt_never (elsewhere : Nat → Resolver) (site : Site) (n : Nat) :
    site.divertedAt (fun _ => false) elsewhere n = resolveAt site n := by
  induction n with
  | zero => rfl
  | succ n ih =>
    funext reference locals store
    rw [divertedAt, ih]
    cases reference <;> rfl

namespace Alike

variable {strays : String → Bool} {reads : String → Prop} {s s' : Site} {resolver : Resolver}
  {path : String} {opts : Options}

/-- The source of a template is the same. -/
theorem templateSource_eq (h : Alike strays reads s s')
    (hopts : StaticSite.options s.disk s.configDir = .ok opts) (name : String) :
    templateSource s'.disk opts.source name = templateSource s.disk opts.source name := by
  rw [templateSource, templateSource]
  rcases hp : templatePieces? name with _ | pieces
  · rfl
  · have hfind := h.find? _ (h.template opts name pieces hopts hp)
    simp only [Disk.isFile_congr hfind]
    by_cases hfile : s.disk.isFile (pieces.foldl Path.join opts.source) = true
    · rw [if_pos hfile, if_pos hfile, Disk.readText_congr hfind (Disk.holds_of_isFile hfile)]
    · rw [if_neg hfile, if_neg hfile]

/-- What follows a result can be compared knowing the result. -/
theorem ofExcept_bind_congr {α β : Type} {r : Except Failure α} {f g : α → Compiling β}
    (h : ∀ a, r = .ok a → f a = g a) :
    (Compiling.ofExcept r >>= f) = (Compiling.ofExcept r >>= g) := by
  cases r with
  | error e => rfl
  | ok a => exact h a rfl

/-- A template is rendered alike. -/
theorem renderTemplate_eq (h : Alike strays reads s s') (hpath : reads path)
    (hsome : s.disk.holds path = true) (locals : Except Failure Template.Locals)
    (store : Template.Store) :
    renderTemplate s' resolver path locals store = renderTemplate s resolver path locals store := by
  rw [renderTemplate, renderTemplate, h.options, Disk.readText_congr (h.find? path hpath) hsome]
  refine ofExcept_bind_congr fun text _ => ofExcept_bind_congr fun opts hopts => ?_
  have hsource : (fun name => (pure (templateSource s'.disk opts.source name) :
      Compiling (Except Failure String))) =
      fun name => pure (templateSource s.disk opts.source name) := by
    funext name
    rw [h.templateSource_eq hopts]
  simp only [runRendering, hsource, h.name opts path hopts hpath]

/-- Markdown is rendered alike. -/
theorem renderMarkdown_eq (h : Alike strays reads s s') (hpath : reads path)
    (hsome : s.disk.holds path = true) (store : Template.Store) :
    renderMarkdown s' resolver path store = renderMarkdown s resolver path store := by
  rw [renderMarkdown, renderMarkdown, h.options, Disk.readText_congr (h.find? path hpath) hsome]

/-- A source is compiled alike. -/
theorem compileWith_eq (h : Alike strays reads s s') (hpath : reads path) (dialect : Dialect)
    (locals : Except Failure Template.Locals) (store : Template.Store) :
    compileWith s' resolver dialect path locals store =
      compileWith s resolver dialect path locals store := by
  have hholds := Disk.holds_congr (h.find? path hpath)
  unfold compileWith readPlain
  rw [hholds]
  by_cases hsome : s.disk.holds path = true
  · rw [h.renderTemplate_eq hpath hsome, h.renderMarkdown_eq hpath hsome,
      Disk.readText_congr (h.find? path hpath) hsome]
  · have hno : (!s.disk.holds path) = true := by simpa using hsome
    simp only [hno, if_true]

/-- The fragment behind a reference that does not stray is found alike. -/
theorem resolveWith_eq (h : Alike strays reads s s') {reference : Except Failure String}
    (hreference : reference.toOption.any strays = false) (locals : Except Failure Template.Locals)
    (store : Template.Store) :
    resolveWith s' resolver reference locals store =
      resolveWith s resolver reference locals store := by
  rw [resolveWith, resolveWith, h.options]
  refine ofExcept_bind_congr fun opts hopts => ofExcept_bind_congr fun r hr => ?_
  have hpath := h.reference opts r hopts (by simpa [hr, Except.toOption] using hreference)
  simp only [h.compileWith_eq hpath]

/-- Fragments are found alike with the references that stray diverted. The induction is on the number
of nested includes. -/
theorem divertedAt_eq (h : Alike strays reads s s') (elsewhere : Nat → Resolver) (n : Nat) :
    s'.divertedAt strays elsewhere n = s.divertedAt strays elsewhere n := by
  induction n with
  | zero => rfl
  | succ n ih =>
    funext reference locals store
    simp only [divertedAt, ih]
    by_cases hreference : reference.toOption.any strays = true
    · rw [if_pos hreference, if_pos hreference]
    · rw [if_neg hreference, if_neg hreference, h.resolveWith_eq (by simpa using hreference)]

/-- A view is compiled alike if no reference that strays makes a difference. -/
theorem compile_eq (h : Alike strays reads s s') (hpath : reads path)
    (hconfined : ∀ elsewhere : Nat → Resolver,
      compileWith s (s.divertedAt strays elsewhere s.depth) .template path (.ok .none) #[] =
        compileWith s (resolve s) .template path (.ok .none) #[]) :
    compile s' .template path (.ok .none) #[] = compile s .template path (.ok .none) #[] := by
  have hresolve : s.divertedAt strays (resolveAt s') s.depth = resolve s' := by
    rw [resolve, h.depth, ← h.divertedAt_eq, divertedAt_resolveAt]
  rw [compile, compile, h.compileWith_eq hpath, ← hconfined (resolveAt s'), hresolve]

/-- A view that evaluates no reference that strays has the same page. -/
theorem pageOf_eq (h : Alike Path.climbs reads s s') (hpath : reads path)
    (hconfined : s.Confined path) : s'.pageOf path = s.pageOf path := by
  rw [pageOf, pageOf, h.compile_eq hpath hconfined]

/-- A view that evaluates no reference that climbs evaluates none on a site that is alike. -/
theorem confined (h : Alike Path.climbs reads s s') (hpath : reads path)
    (hconfined : s.Confined path) : s'.Confined path := by
  intro elsewhere
  have hresolve : s.divertedAt Path.climbs (resolveAt s') s.depth = resolve s' := by
    rw [resolve, h.depth, ← h.divertedAt_eq, divertedAt_resolveAt]
  rw [h.compileWith_eq hpath, h.compileWith_eq hpath, h.depth, h.divertedAt_eq, hconfined elsewhere,
    ← hresolve, hconfined (resolveAt s')]

end Alike

/-! ### Views that are no files -/

/-- A folder does not compile, and only that is reported. -/
theorem compile_of_isFolder (site : Site) {view : String} (h : site.disk.isFolder view = true)
    (t : Trace) :
    ∃ said, compile site .template view (.ok .none) #[] t =
      (.ok none, ⟨t.messages ++ said, t.including⟩) := by
  have hfind : site.disk.find? view = some .folder := by simpa [Disk.isFolder] using h
  have hholds : (!site.disk.holds view) = false := by rw [Disk.holds, hfind]; rfl
  have hread : site.disk.readText view = .error (Disk.faultAt .isDirectory view) := by
    rw [Disk.readText, Disk.content_of_find? hfind]
    rfl
  rw [compile, bind_apply, compileWith]
  simp only [hholds, Bool.false_eq_true, if_false]
  rw [guarded, bind_apply, Compiling.attempt, renderTemplate, bind_apply, hread]
  exact ⟨_, rfl⟩

/-- A folder has no page. -/
theorem pageOf_of_isFolder (site : Site) {view : String} (h : site.disk.isFolder view = true) :
    site.pageOf view = none := by
  obtain ⟨said, hcompile⟩ := site.compile_of_isFolder h ⟨[], 0⟩
  rw [pageOf, hcompile]

/-- What is not there compiles to the empty text. -/
theorem compile_of_missing (site : Site) {view : String} (h : site.disk.holds view = false)
    (t : Trace) : compile site .template view (.ok .none) #[] t = (.ok (some ""), t) := by
  rw [compile, bind_apply, compileWith]
  simp only [h, Bool.not_false, if_true]
  rfl

end Site

end StaticSite
