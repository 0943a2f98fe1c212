import StaticSite.Proofs.Site.Destination
import StaticSite.Proofs.Site.Keeping
import StaticSite.Proofs.Site.Making
import StaticSite.Proofs.Site.Settled

/-!
# What a build goes by

Compiling a view and writing its page go by the disk, the place of the settings and the limits of the
machine, and by nothing else of the world: not by what was reported before, nor by the tools and how the
project has its pages audited. They leave the disk and some more messages. So they do the same in two worlds
that are level in what they go by. Moreover they spare the settings: wherever a page goes, it has not the name
of a settings file.

## Main definitions

* `Disk.Spares`: a disk has grown, and no file with the name of a settings file was written.
* `World.Level`: two worlds are level in what a build goes by.
* `World.Sound`: the disk is a tree, and the configuration directory is spelled canonically.
* `Outright`: a run does the same in level worlds and spares the settings.

## Main results

* `World.Sound.options_of_spares`: options stay or do not load any more.
* `Outright.bind`, `Outright.getBind`: parts one after another.
* `Outright.compile`, `Outright.writePage`: a view is compiled, and its page written, outright.
* `Outright.makePage`: so the page of a view is made outright.
-/

namespace StaticSite

open Path Running

/-! ### Disks that spare the settings -/

/-- A disk has grown, and no file with the name of a settings file was written. -/
def Disk.Spares (d d' : Disk) : Prop :=
  Disk.Grown (fun _ => True)
    (fun q => q.getLast? ≠ some globalFile ∧ q.getLast? ≠ some templatesFile) d d'

/-- A path does not end with the name of a settings file. -/
def Harmless (path : String) : Prop := baseName path ≠ globalFile ∧ baseName path ≠ templatesFile

namespace Disk

variable {d d' : Disk} {path text : String}

theorem Spares.refl (d : Disk) : d.Spares d := Grown.refl _ _ d

theorem Spares.trans {d'' : Disk} (h : d.Spares d') (h' : d'.Spares d'') : d.Spares d'' :=
  Grown.trans h h'

theorem spares_makeFolders (hd : d.WellFormed) (path : String) : d.Spares (d.makeFolders path).1 :=
  (grown_makeFolders_anywhere hd path).mono (fun _ _ => id) fun _ => False.elim

/-- A text that is written under a harmless path spares the settings. -/
theorem spares_writeText (hd : d.WellFormed) (hpath : Harmless path) (h : d.writeText path text = .ok d') :
    d.Spares d' := by
  refine (grown_writeText_anywhere hd h).mono (fun _ _ => False.elim) fun q hq => ?_
  rw [hq]
  exact ⟨fun heq => hpath.1 (Option.some.inj heq), fun heq => hpath.2 (Option.some.inj heq)⟩

end Disk

/-- The page of a view is harmless. -/
theorem Layout.harmless_of_destination {layout : Layout} {cwd source target : String}
    (hext : layout.ext = templateExt) (hcwd : isAbsolute cwd = true)
    (hdist : isAbsolute layout.dist = true) (h : hasEnding source templateExt = true)
    (htarget : layout.destination cwd source = .ok target) : Harmless target := by
  have hname := baseName_of_hasEnding h
  rcases Layout.baseName_of_destination hext hcwd hdist h htarget with hbase | hbase
  · rw [Harmless, hbase]
    exact ⟨pageFile_ne hname.1 hname.2 (by decide) (by decide),
      pageFile_ne hname.1 hname.2 (by decide) (by decide)⟩
  · rw [Harmless, hbase]
    exact ⟨by decide, by decide⟩

/-! ### Worlds -/

namespace World

/-- The disk is a tree with an absolute working directory, and the configuration directory is absolute and
spelled canonically. -/
structure Sound (w : World) : Prop where
  /-- The entries form a tree. -/
  wellFormed : w.disk.WellFormed
  /-- The working directory begins at the root. -/
  cwd : isAbsolute w.disk.cwd = true
  /-- So does the configuration directory. -/
  config : isAbsolute w.project.configDir = true
  /-- It is spelled canonically. -/
  spelling : Path.normalize w.project.configDir = w.project.configDir

/-- Two worlds are level in what a build goes by. -/
structure Level (w w' : World) : Prop where
  /-- They have the same disk. -/
  disk : w'.disk = w.disk
  /-- The settings are in the same place. -/
  configDir : w'.project.configDir = w.project.configDir
  /-- As many includes are around. -/
  including : w'.including = w.including
  /-- As many nested includes can be followed. -/
  depth : w'.depth = w.depth
  /-- Details are wanted in both or in neither. -/
  verbose : w'.verbose = w.verbose

variable {w w' : World} {d : Disk}

theorem Level.refl (w : World) : w.Level w := ⟨rfl, rfl, rfl, rfl, rfl⟩

/-- Level worlds stay level when the same happens to their disks. -/
theorem Level.after (h : w.Level w') (d : Disk) (messages messages' : List Message) :
    ({ w with disk := d, messages := messages } : World).Level
      { w' with disk := d, messages := messages' } :=
  ⟨rfl, h.configDir, h.including, h.depth, h.verbose⟩

/-- A compilation sees the same of level worlds. -/
theorem Level.site (h : w.Level w') : w'.site = w.site := by
  rw [World.site, World.site, h.disk, h.configDir, h.depth]

/-- A sound world stays sound while its disk grows. -/
theorem Sound.after (hw : w.Sound) (hd : w.disk.Spares d) (messages : List Message) :
    ({ w with disk := d, messages := messages } : World).Sound :=
  ⟨hd.wellFormed hw.wellFormed, by rw [hd.cwd]; exact hw.cwd, hw.config, hw.spelling⟩

/-- While the settings are spared the options stay, or they do not load any more. -/
theorem Sound.options_of_spares (hw : w.Sound) (hd : w.disk.Spares d) :
    options d w.project.configDir = options w.disk w.project.configDir ∨
      ∃ e, options d w.project.configDir = .error e := by
  rcases options_of_grown hd hw.wellFormed (Disk.settled_of_canonical _ hw.config hw.spelling)
    (fun _ => id) with hsame | ⟨hfail, -⟩
  · exact .inl hsame
  · exact .inr hfail

end World

/-! ### Runs that are level -/

variable {α β : Type} {P : α → Prop} {Q : β → Prop} {c : Running α}

/-- A run does the same in worlds that are level with a sound one: it comes to the same result, which is as it
should be, leaves the same disk with the settings spared, and has the same to report. -/
def Outright (c : Running α) (P : α → Prop) : Prop :=
  ∀ w : World, w.Sound → ∃ r d said, w.disk.Spares d ∧ (∀ a, r = .ok a → P a) ∧
    ∀ w', w.Level w' → c w' = (r, { w' with disk := d, messages := w'.messages ++ said })

namespace Outright

/-- Level worlds have the same disk, and nothing was reported. -/
theorem still {r : Except Failure α} (hr : ∀ a, r = .ok a → P a) (h : ∀ w, c w = (r, w)) : Outright c P :=
  fun w _ => ⟨r, w.disk, [], .refl _, hr, fun w' hw' => by rw [h, ← hw'.disk, List.append_nil]⟩

/-- A result. -/
theorem pure {a : α} (h : P a) : Outright (pure a : Running α) P :=
  still (fun _ hb => Except.ok.inj hb ▸ h) fun _ => rfl

/-- A failure. -/
theorem throw (e : Failure) : Outright (throw e : Running α) P :=
  still (fun _ hb => absurd hb (by simp)) fun _ => rfl

/-- A result that needs no run. -/
theorem ofExcept (r : Except Failure α) : Outright (Running.ofExcept r) fun a => r = .ok a := by
  cases r with
  | error e => exact throw e
  | ok a => exact pure rfl

/-- Less may be said of the result. -/
theorem mono {P' : α → Prop} (h : Outright c P) (hP : ∀ a, P a → P' a) : Outright c P' := by
  intro w hw
  obtain ⟨r, d, said, hd, hr, hrun⟩ := h w hw
  exact ⟨r, d, said, hd, fun a ha => hP a (hr a ha), hrun⟩

/-- Parts one after another. -/
theorem bind {f : α → Running β} (hc : Outright c P) (hf : ∀ a, P a → Outright (f a) Q) :
    Outright (c >>= f) Q := by
  intro w hw
  obtain ⟨r, d, said, hd, hr, hrun⟩ := hc w hw
  cases r with
  | error e =>
    refine ⟨.error e, d, said, hd, fun _ hb => absurd hb (by simp), fun w' hw' => ?_⟩
    rw [bind_apply, hrun w' hw']
  | ok a =>
    obtain ⟨r', d', said', hd', hr', hrun'⟩ :=
      hf a (hr a rfl) { w with disk := d, messages := w.messages ++ said } (hw.after hd _)
    refine ⟨r', d', said ++ said', hd.trans hd', hr', fun w' hw' => ?_⟩
    rw [bind_apply, hrun w' hw']
    simp only
    rw [hrun' _ (hw'.after d _ _), List.append_assoc]

/-- What follows a look at the world does the same if level worlds look the same. -/
theorem getBind {f : World → Running β} (hsame : ∀ w w' : World, w.Level w' → f w' = f w)
    (hf : ∀ w : World, w.Sound → Outright (f w) Q) : Outright (get >>= f) Q := by
  intro w hw
  obtain ⟨r, d, said, hd, hr, hrun⟩ := hf w hw w hw
  refine ⟨r, d, said, hd, hr, fun w' hw' => ?_⟩
  rw [bind_apply, get_apply]
  simp only
  rw [hsame w w' hw', hrun w' hw']

/-- One of two parts. -/
theorem ite {p : Prop} [Decidable p] {c' : Running α} (hc : p → Outright c P)
    (hc' : ¬p → Outright c' P) : Outright (if p then c else c') P := by
  by_cases hp : p
  · rw [if_pos hp]
    exact hc hp
  · rw [if_neg hp]
    exact hc' hp

/-- A part whose failure is looked at. -/
theorem attempt (h : Outright c P) : Outright (attempt c) fun r => ∀ a, r = .ok a → P a := by
  intro w hw
  obtain ⟨r, d, said, hd, hr, hrun⟩ := h w hw
  refine ⟨.ok r, d, said, hd, fun r' hr' => ?_, fun w' hw' => ?_⟩
  · rw [← Except.ok.inj hr']
    exact hr
  · rw [Running.attempt, hrun w' hw']

/-- A report. -/
theorem report (m : Message) : Outright (report m) fun _ => True :=
  fun w _ => ⟨.ok (), w.disk, [m], .refl _, fun _ _ => trivial, fun w' hw' => by rw [← hw'.disk]; rfl⟩

/-- A detail. -/
theorem detail (text : String) : Outright (detail text) fun _ => True :=
  getBind (fun w w' hw' => by simp only [hw'.verbose]) fun _ _ =>
    .ite (fun _ => report _) fun _ => .pure trivial

/-- The options, whose directories begin at the root. -/
theorem currentOptions :
    Outright currentOptions fun opts => opts.ext = templateExt ∧ isAbsolute opts.dist = true := by
  refine getBind (fun w w' hw' => by simp only [hw'.disk, hw'.configDir]) fun w hw =>
    (ofExcept _).mono fun opts hopts => ?_
  exact ⟨ext_of_options hopts, (isAbsolute_of_options hw.cwd hopts).1⟩

/-- A compilation that is orderly. -/
theorem compile {f : Site → Compiling α} (hf : ∀ site, Compiling.Orderly (f site)) :
    Outright (Running.compile f) fun _ => True := by
  intro w _
  obtain ⟨result, said, happly⟩ := hf w.site
  refine ⟨result w.including, w.disk, said w.including, .refl _, fun _ _ => trivial, fun w' hw' => ?_⟩
  rw [compile_apply, hw'.site, happly, hw'.including, ← hw'.disk]

/-- Making folders. -/
theorem makeFolders (path : String) : Outright (makeFolders path) fun _ => True := by
  intro w hw
  refine ⟨(w.disk.makeFolders path).2, (w.disk.makeFolders path).1, [],
    Disk.spares_makeFolders hw.wellFormed path, fun _ _ => trivial, fun w' hw' => ?_⟩
  rw [makeFolders_apply, hw'.disk, List.append_nil]

/-- Putting a text into a file with a harmless name. -/
theorem writeText {path : String} (hpath : Harmless path) (text : String) :
    Outright (writeText path text) fun _ => True := by
  intro w hw
  rcases hwrite : w.disk.writeText path text with e | d
  · refine ⟨.error e, w.disk, [], .refl _, fun _ _ => trivial, fun w' hw' => ?_⟩
    rw [writeText_apply, hw'.disk, hwrite, List.append_nil, ← hw'.disk]
  · refine ⟨.ok (), d, [], Disk.spares_writeText hw.wellFormed hpath hwrite, fun _ _ => trivial,
      fun w' hw' => ?_⟩
    rw [writeText_apply, hw'.disk, hwrite, List.append_nil]

/-- A part whose failures of the file system are reported. -/
theorem orReport (target source : String) (h : Outright c P) :
    Outright (orReport target source c) fun r => ∀ a, r = some a → P a := by
  refine .bind h.attempt fun r hr => ?_
  cases r with
  | ok a =>
    refine .pure fun b hb => ?_
    rw [← Option.some.inj hb]
    exact hr a rfl
  | error e =>
    refine .ite (fun _ => .bind (report _) fun _ _ => ?_) fun _ => .throw e
    exact .pure fun b hb => absurd hb (by simp)

/-- The page of a view is written outright. -/
theorem writePage {source : String} (h : hasEnding source templateExt = true) (data : Option String) :
    Outright (writePage source data) fun _ => True := by
  cases data with
  | none => exact .bind (report _) fun _ _ => .pure trivial
  | some text =>
    refine .bind (.orReport _ _ currentOptions) fun asked hasked => ?_
    cases asked with
    | none => exact .pure trivial
    | some opts =>
      obtain ⟨hext, hdist⟩ := hasked opts rfl
      refine .getBind (fun w w' hw' => by simp only [hw'.disk]) fun w hw =>
        .bind (.ofExcept _) fun target htarget => ?_
      have hlayout : opts.layout.ext = templateExt ∧ isAbsolute opts.layout.dist = true := ⟨hext, hdist⟩
      have hharmless := Layout.harmless_of_destination hlayout.1 hw.cwd hlayout.2 h htarget
      refine .bind (.orReport _ _ (P := fun _ => True) ?_) fun written _ => ?_
      · exact .bind (makeFolders _) fun _ _ => .bind (.ofExcept _) fun page _ => writeText hharmless page
      · cases written with
        | none => exact .pure trivial
        | some _ => exact .bind (report _) fun _ _ => .pure trivial

/-- The page of a view is made outright. -/
theorem makePage (path : String) : Outright (makePage path) fun _ => True := by
  refine .bind currentOptions fun opts ⟨hext, _⟩ => .ite (fun _ => .pure trivial) fun hending => ?_
  have hview : hasEnding path templateExt = true := by
    rw [hext] at hending
    simpa using hending
  exact .bind (compile fun _ => Compiling.orderly_compile ..) fun compiled _ => writePage hview compiled

end Outright

end StaticSite
