import StaticSite.Proofs.Site.Compiling
import StaticSite.Proofs.Site.Writing
import StaticSite.Site.Walk

/-!
# Building one view

Building a view without an audit comes down to two things: the page that the view gives, which depends
on the site as it is, and what writing that page does to the disk. Everything else that a build does is
to report.

## Main definitions

* `World.site`: what a compilation sees of a world.
* `Site.Printable`, `Site.finished`: the beautifier accepts the page of a view, and the page as it is
  written.
* `Disk.deliver`: what becomes of a page.
* `World.After`: a world after a part of a build.

## Main results

* `buildView_apply`: building a view delivers its page.
* `buildView_leaves`: whatever comes of it, nothing but the page is written.
-/

namespace StaticSite

open Running

/-! ### The page of a view -/

/-- What a compilation sees of a world. -/
def World.site (w : World) : Site := ⟨w.disk, w.project.configDir, w.depth⟩

/-- The setting that says how pages are beautified. -/
def Options.beautifying (opts : Options) : Value := (opts.setting? "beautify").getD .null

namespace Site

/-- The beautifier accepts what a view compiles to. -/
def Printable (site : Site) (opts : Options) (view : String) : Prop :=
  ∀ text, site.pageOf view = some text → ∃ page, beautifyBy opts.beautifying text = .ok page

/-- The page of a view as it is written, if it compiles. -/
def finished (site : Site) (opts : Options) (view : String) : Option String :=
  (site.pageOf view).bind fun text => (beautifyBy opts.beautifying text).toOption

end Site

/-- What becomes of a page: the disk, and where the page went, unless there is no page or it cannot be
written. -/
def Disk.deliver (d : Disk) (target : String) : Option String → Disk × Option String
  | none => (d, none)
  | some page =>
    match d.putPage target page with
    | (d', .ok ()) => (d', some target)
    | (d', .error _) => (d', none)

/-- A page that was written is delivered. -/
theorem Disk.deliver_of_ok {d d' : Disk} {target page : String}
    (h : d.putPage target page = (d', .ok ())) : d.deliver target (some page) = (d', some target) := by
  unfold Disk.deliver
  simp only [h]

/-- A page that could not be written is not delivered. -/
theorem Disk.deliver_of_error {d d' : Disk} {target page : String} {e : Failure}
    (h : d.putPage target page = (d', .error e)) : d.deliver target (some page) = (d', none) := by
  unfold Disk.deliver
  simp only [h]

/-! ### The parts of a build -/

variable {w : World} {opts : Options} {path target page text : String}

/-- A compilation as a part of a run. -/
theorem compile_apply {α : Type} (c : Site → Compiling α) (w : World) :
    Running.compile c w =
      ((c w.site ⟨w.messages, w.including⟩).1,
        { w with
          messages := (c w.site ⟨w.messages, w.including⟩).2.messages
          including := (c w.site ⟨w.messages, w.including⟩).2.including }) := rfl

/-- Asking for the options. -/
theorem currentOptions_apply (hopts : options w.disk w.project.configDir = .ok opts) :
    currentOptions w = (.ok opts, w) := by
  rw [currentOptions, bind_apply, get_apply]
  simp only [hopts]
  rfl

/-- Looking for a tool by its name. -/
theorem findTool_text (name : String) (w : World) :
    findTool (.text name) w = (.ok (w.tools.lookup name), w) := rfl

/-- Calling a tool runs the command. -/
theorem call_apply (command : List Value) (w : World) :
    call command w = (.ok (w.results.head?.getD (.exit 0 "" "")),
      { w with commands := w.commands ++ [command], results := w.results.drop 1 }) := rfl

/-- Making folders in a run. -/
theorem makeFolders_apply (path : String) (w : World) :
    Running.makeFolders path w =
      ((w.disk.makeFolders path).2, { w with disk := (w.disk.makeFolders path).1 }) := by
  rw [Running.makeFolders, bind_apply, get_apply]
  rcases hr : w.disk.makeFolders path with ⟨made, e | _⟩
  · simp only [hr]
    rfl
  · simp only [hr]
    rfl

/-- Writing a text in a run. -/
theorem writeText_apply (path text : String) (w : World) :
    Running.writeText path text w =
      match w.disk.writeText path text with
      | .ok d => (.ok (), { w with disk := d })
      | .error e => (.error e, w) := by
  rw [Running.writeText, bind_apply, get_apply]
  simp only
  rcases w.disk.writeText path text with e | written
  · rfl
  · rfl

/-- A page that the beautifier accepts is put on the disk. -/
theorem writeTo_apply (hpage : beautifyBy opts.beautifying text = .ok page) :
    writeTo opts target text w =
      ((w.disk.putPage target page).2, { w with disk := (w.disk.putPage target page).1 }) := by
  have hpage' : beautifyBy ((opts.setting? "beautify").getD .null) text = .ok page := hpage
  rw [writeTo, bind_apply, makeFolders_apply]
  unfold Disk.putPage
  rcases hr : w.disk.makeFolders (directoryOf target) with ⟨made, e | _⟩
  · rfl
  · simp only [hpage']
    rw [Running.ofExcept, bind_apply, pure_apply]
    simp only
    rw [writeText_apply]
    rcases made.writeText target page with e | written
    · rfl
    · rfl

/-- Whatever comes of writing a page, folders are made where its path leads and nothing but the page is
written. -/
theorem writeTo_leaves (hd : w.disk.WellFormed) (habsolute : Path.isAbsolute target = true)
    (opts : Options) (text : String) :
    ∃ r d, writeTo opts target text w = (r, { w with disk := d }) ∧
      Disk.Grown (Path.Leads target) (· = Path.place target) w.disk d := by
  rcases hbeautify : beautifyBy opts.beautifying text with e | page
  · have hfail : beautifyBy ((opts.setting? "beautify").getD .null) text = .error e := hbeautify
    have hmade := Disk.grown_makeFolders hd (Path.isAbsolute_parent habsolute)
    rw [writeTo, bind_apply, makeFolders_apply, Disk.directoryOf_eq habsolute]
    rcases hr : w.disk.makeFolders (Path.parent target) with ⟨made, e' | _⟩
    · rw [hr] at hmade
      exact ⟨.error e', made, rfl, hmade.mono (fun _ _ => Path.Leads.of_parent) fun _ => False.elim⟩
    · rw [hr] at hmade
      simp only [hfail]
      exact ⟨.error e, made, rfl, hmade.mono (fun _ _ => Path.Leads.of_parent) fun _ => False.elim⟩
  · rw [writeTo_apply hbeautify]
    obtain ⟨d, r, hput, hgrown, -⟩ := Disk.putPage_leaves hd habsolute page
    rw [hput]
    exact ⟨r, d, rfl, hgrown.mono (fun _ _ => id) fun _ hq => hq.1⟩

/-- A failure of the file system is reported, and the run goes on. -/
theorem orReport_apply {α : Type} (target source : String) (body : Running α) (w : World) :
    orReport target source body w =
      match body w with
      | (.ok a, w') => (.ok (some a), w')
      | (.error e, w') =>
        if e.isFile then
          (.ok none, { w' with messages := w'.messages ++ [writeFailure target source e] })
        else (.error e, w') := by
  rw [orReport, bind_apply, attempt]
  rcases body w with ⟨e | a, w'⟩
  · simp only
    split <;> rfl
  · rfl

/-- Nothing is written for a view that did not compile. -/
theorem writePage_none (source : String) (w : World) :
    writePage source none w = (.ok none,
      { w with
        messages := w.messages ++ [.failure "Nothing to write, compilation failed" source ""] }) :=
  rfl

/-- What comes of the text of a view is what comes of its page: it is reported where the page went, or what the
file system refused; any other failure ends the run. -/
theorem writePage_apply {source : String} (hopts : options w.disk w.project.configDir = .ok opts)
    (htarget : opts.layout.destination w.disk.cwd source = .ok target)
    (hpage : beautifyBy opts.beautifying text = .ok page) :
    writePage source (some text) w =
      match w.disk.putPage target page with
      | (d, .ok ()) => (.ok (some target),
          { w with
            disk := d
            messages := w.messages ++
              [.line (Style.tick ++ " View in " ++ Style.path source ++ " out " ++ Style.path target)] })
      | (d, .error e) =>
        if e.isFile then
          (.ok none, { w with disk := d, messages := w.messages ++ [writeFailure target source e] })
        else (.error e, { w with disk := d }) := by
  rw [writePage, bind_apply, orReport_apply, currentOptions_apply hopts]
  simp only
  rw [bind_apply, get_apply]
  simp only [htarget]
  rw [Running.ofExcept, bind_apply, pure_apply]
  simp only
  rw [bind_apply, orReport_apply, writeTo_apply hpage]
  rcases w.disk.putPage target page with ⟨d', e | _⟩
  · simp only
    by_cases hfile : e.isFile = true
    · rw [if_pos hfile, if_pos hfile]
      rfl
    · rw [if_neg hfile, if_neg hfile]
  · rfl

/-- The page of a view that compiled is delivered. -/
theorem writePage_some {source : String} (hopts : options w.disk w.project.configDir = .ok opts)
    (htarget : opts.layout.destination w.disk.cwd source = .ok target)
    (hnull : Char.ofNat 0 ∉ target.toList) (hpage : beautifyBy opts.beautifying text = .ok page) :
    ∃ messages, writePage source (some text) w =
      (.ok (w.disk.deliver target (some page)).2,
        { w with disk := (w.disk.deliver target (some page)).1, messages := messages }) := by
  rw [writePage_apply hopts htarget hpage]
  rcases hr : w.disk.putPage target page with ⟨d', e | _⟩
  · have hfile : e.isFile = true := Disk.isFile_of_putPage hnull (by rw [hr])
    rw [Disk.deliver_of_error hr]
    simp only [hfile, if_true]
    exact ⟨_, rfl⟩
  · rw [Disk.deliver_of_ok hr]
    exact ⟨_, rfl⟩

/-- Whatever comes of the page of a view, folders are made where its path leads and nothing but the page
is written. -/
theorem writePage_leaves (hd : w.disk.WellFormed) {source : String}
    (hopts : options w.disk w.project.configDir = .ok opts)
    (htarget : opts.layout.destination w.disk.cwd source = .ok target)
    (habsolute : Path.isAbsolute target = true) (data : Option String) :
    ∃ r d messages, writePage source data w = (r, { w with disk := d, messages := messages }) ∧
      Disk.Grown (Path.Leads target) (· = Path.place target) w.disk d := by
  cases data with
  | none => exact ⟨.ok none, w.disk, _, writePage_none source w, .refl _ _ _⟩
  | some text =>
    obtain ⟨r, d, hwrite, hgrown⟩ := writeTo_leaves hd habsolute opts text
    rw [writePage, bind_apply, orReport_apply, currentOptions_apply hopts]
    simp only
    rw [bind_apply, get_apply]
    simp only [htarget]
    rw [Running.ofExcept, bind_apply, pure_apply]
    simp only
    rw [bind_apply, orReport_apply, hwrite]
    rcases r with e | _
    · by_cases hfile : e.isFile = true
      · simp only [hfile, if_true]
        exact ⟨.ok none, d, w.messages ++ [writeFailure target source e], rfl, hgrown⟩
      · simp only [hfile]
        exact ⟨.error e, d, w.messages, rfl, hgrown⟩
    · exact ⟨.ok (some target), d, w.messages ++
        [.line (Style.tick ++ " View in " ++ Style.path source ++ " out " ++ Style.path target)], rfl,
        hgrown⟩

/-- Anything but a template is no view. -/
theorem buildView_of_not_hasEnding (hopts : options w.disk w.project.configDir = .ok opts)
    (hending : Path.hasEnding path opts.ext = false) : buildView path w = (.ok none, w) := by
  rw [buildView, bind_apply, currentOptions_apply hopts]
  simp only [hending, Bool.not_false, if_true]
  rfl

/-- Whatever comes of building a view, folders are made where the path of its page leads and nothing but
the page is written. -/
theorem buildView_leaves (hd : w.disk.WellFormed)
    (hopts : options w.disk w.project.configDir = .ok opts) (hincluding : w.including = 0)
    (haudit : w.project.audit = false) (hending : Path.hasEnding path opts.ext = true)
    (htarget : opts.layout.destination w.disk.cwd path = .ok target)
    (habsolute : Path.isAbsolute target = true) :
    ∃ r d messages, buildView path w = (r, { w with disk := d, messages := messages }) ∧
      Disk.Grown (Path.Leads target) (· = Path.place target) w.disk d := by
  obtain ⟨said, hcompile⟩ := w.site.compile_apply path (t := ⟨w.messages, w.including⟩) hincluding
  have hno : (!Path.hasEnding path opts.ext) = false := by rw [hending]; rfl
  obtain ⟨r, d, messages, hwrite, hgrown⟩ :=
    writePage_leaves (w := { w with messages := w.messages ++ said }) hd hopts htarget habsolute
      (w.site.pageOf path)
  rw [buildView, bind_apply, currentOptions_apply hopts]
  simp only [hno, Bool.false_eq_true, if_false]
  rw [bind_apply, compile_apply, hcompile]
  simp only
  rw [bind_apply, hwrite]
  rcases r with e | _ | p
  · exact ⟨.error e, d, messages, rfl, hgrown⟩
  · exact ⟨.ok none, d, messages, rfl, hgrown⟩
  · simp only
    rw [bind_apply, get_apply]
    simp only [haudit, Bool.false_and]
    exact ⟨.ok (some p), d, messages, rfl, hgrown⟩

/-- A world after a part of a build: the disk has grown, and all else that a build looks at is the
same. -/
structure World.After (grows : Disk → Disk → Prop) (w w' : World) : Prop where
  /-- The disk has grown. -/
  disk : grows w.disk w'.disk
  /-- The project is the same. -/
  project : w'.project = w.project
  /-- As many includes are around. -/
  including : w'.including = w.including
  /-- As many nested includes can be followed. -/
  depth : w'.depth = w.depth

/-- Building a view delivers its page. -/
theorem buildView_apply (hopts : options w.disk w.project.configDir = .ok opts) (hincluding : w.including = 0)
    (haudit : w.project.audit = false) (hending : Path.hasEnding path opts.ext = true)
    (htarget : opts.layout.destination w.disk.cwd path = .ok target)
    (hnull : Char.ofNat 0 ∉ target.toList) (hprintable : w.site.Printable opts path) :
    ∃ messages, buildView path w =
      (.ok (w.disk.deliver target (w.site.finished opts path)).2,
        { w with
          disk := (w.disk.deliver target (w.site.finished opts path)).1
          messages := messages }) := by
  obtain ⟨said, hcompile⟩ := w.site.compile_apply path (t := ⟨w.messages, w.including⟩) hincluding
  have hno : (!Path.hasEnding path opts.ext) = false := by rw [hending]; rfl
  rw [buildView, bind_apply, currentOptions_apply hopts]
  simp only [hno, Bool.false_eq_true, if_false]
  rw [bind_apply, compile_apply, hcompile]
  simp only
  rw [bind_apply]
  rcases hpage : w.site.pageOf path with _ | text
  · have hfinished : w.site.finished opts path = none := by rw [Site.finished, hpage]; rfl
    rw [writePage_none, hfinished]
    exact ⟨_, rfl⟩
  · obtain ⟨page, hbeautify⟩ := hprintable text hpage
    have hfinished : w.site.finished opts path = some page := by
      rw [Site.finished, hpage, Option.bind_some, hbeautify]
      rfl
    -- the messages of the compilation change nothing that writing looks at
    obtain ⟨messages, hwrite⟩ := writePage_some (w := { w with messages := w.messages ++ said })
      hopts htarget hnull hbeautify
    rw [hfinished, hwrite]
    rcases hr : (w.disk.deliver target (some page)).2 with _ | p
    · exact ⟨messages, rfl⟩
    · simp only
      rw [bind_apply, get_apply]
      simp only [haudit, Bool.false_and]
      exact ⟨messages, rfl⟩

end StaticSite
