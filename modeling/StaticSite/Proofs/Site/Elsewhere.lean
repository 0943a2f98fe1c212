import StaticSite.Proofs.Site.Destination
import StaticSite.Proofs.Site.Keeping
import StaticSite.Proofs.Site.Settled

/-!
# Seen from another working directory

A path that begins at the root leads to the same place from every working directory. So the operations of
a disk on such paths, the options whose base directory is absolute, and the compilation of a view do the
same on a disk that is seen from another working directory.

## Main definitions

* `Disk.seenFrom`, `World.seenFrom`: the same with another working directory.
* `Disk.Anchored`: the base directory of the settings begins at the root.
* `Same`: a run does the same from another working directory.

## Main results

* `Disk.makeFolders_seenFrom`, `Disk.writeText_seenFrom`: the disk changes in the same way.
* `options_seenFrom`: options that are anchored are the same.
* `Site.alike_seenFrom`: the site is alike in all that begins at the root.
* `Same.bind`: parts one after another.
* `Same.compile`, `Same.auditPage`: the parts of a build that do not write.
-/

namespace StaticSite

open Path

namespace Disk

variable {d d' : Disk} {path text cwd : String}

/-- The disk as it is seen from a working directory. -/
def seenFrom (cwd : String) (d : Disk) : Disk := { d with cwd := cwd }

@[simp] theorem cwd_seenFrom (cwd : String) (d : Disk) : (d.seenFrom cwd).cwd = cwd := rfl

@[simp] theorem home_seenFrom (cwd : String) (d : Disk) : (d.seenFrom cwd).home = d.home := rfl

@[simp] theorem get?_seenFrom (cwd : String) (d : Disk) (p : Place) :
    (d.seenFrom cwd).get? p = d.get? p := rfl

@[simp] theorem set_seenFrom (cwd : String) (d : Disk) (p : Place) (e : Entry) :
    (d.seenFrom cwd).set p e = (d.set p e).seenFrom cwd := rfl

@[simp] theorem children_seenFrom (cwd : String) (d : Disk) (p : Place) :
    (d.seenFrom cwd).children p = d.children p := rfl

/-- A disk is followed in the same way. -/
@[simp] theorem followFrom_seenFrom (cwd : String) (d : Disk) (p : Place) (cs : List String) :
    (d.seenFrom cwd).followFrom p cs = d.followFrom p cs := by
  induction cs generalizing p with
  | nil => rfl
  | cons c cs ih => simp only [followFrom, get?_seenFrom, ih]

/-- A path that begins at the root leads to the same place. -/
theorem locate_seenFrom (h : isAbsolute path = true) (cwd : String) (d : Disk) :
    (d.seenFrom cwd).locate path = d.locate path := by
  rw [locate_of_isAbsolute _ h, locate_of_isAbsolute _ h, followFrom_seenFrom]

/-- What stands before its last slashes leads to the same place as well, or nowhere. -/
theorem locate_withoutSlash_seenFrom (h : isAbsolute path = true) (cwd : String) (d : Disk) :
    (d.seenFrom cwd).locate (withoutSlash path) = d.locate (withoutSlash path) := by
  by_cases hempty : withoutSlash path = ""
  · rw [hempty]
    rfl
  · exact locate_seenFrom (isAbsolute_withoutSlash h hempty) cwd d

/-! ### Reading -/

theorem find?_seenFrom (h : isAbsolute path = true) (cwd : String) (d : Disk) :
    (d.seenFrom cwd).find? path = d.find? path := by
  simp only [find?, locate_seenFrom h, get?_seenFrom]

theorem holds_seenFrom (h : isAbsolute path = true) (cwd : String) (d : Disk) :
    (d.seenFrom cwd).holds path = d.holds path := by
  rw [holds, holds, find?_seenFrom h]

theorem isFile_seenFrom (h : isAbsolute path = true) (cwd : String) (d : Disk) :
    (d.seenFrom cwd).isFile path = d.isFile path := by
  rw [isFile, isFile, find?_seenFrom h]

theorem isFolder_seenFrom (h : isAbsolute path = true) (cwd : String) (d : Disk) :
    (d.seenFrom cwd).isFolder path = d.isFolder path := by
  rw [isFolder, isFolder, find?_seenFrom h]

theorem list_seenFrom (h : isAbsolute path = true) (cwd : String) (d : Disk) :
    (d.seenFrom cwd).list path = d.list path := by
  simp only [list, locate_seenFrom h, get?_seenFrom, children_seenFrom]

/-! ### Writing -/

/-- A text is written in the same way. -/
theorem writeText_seenFrom (h : isAbsolute path = true) (cwd : String) (d : Disk) (text : String) :
    (d.seenFrom cwd).writeText path text = (d.writeText path text).map (seenFrom cwd) := by
  have hfault : ∀ fault, (d.seenFrom cwd).creationFault path fault = d.creationFault path fault := by
    intro fault
    rw [creationFault, creationFault, locate_withoutSlash_seenFrom h]
    rfl
  rw [writeText, writeText, writeContent, writeContent]
  split
  · rfl
  simp only [locate_seenFrom h]
  rcases d.locate path with fault | p
  · simp only [hfault]
    rfl
  simp only [get?_seenFrom]
  rcases d.get? p with _ | ⟨c | _⟩
  · rcases d.get? p.dropLast with _ | ⟨c | _⟩ <;> rfl
  · rfl
  · rfl

/-- A folder is made in the same way. -/
theorem makeFolder_seenFrom (h : isAbsolute path = true) (cwd : String) (d : Disk) :
    (d.seenFrom cwd).makeFolder path = (d.makeFolder path).map (seenFrom cwd) := by
  have hlocate : (d.seenFrom cwd).locate
        (if path.isEmpty || withoutSlash path == "" then path else withoutSlash path) =
      d.locate (if path.isEmpty || withoutSlash path == "" then path else withoutSlash path) := by
    split
    · exact locate_seenFrom h cwd d
    · exact locate_withoutSlash_seenFrom h cwd d
  rw [makeFolder, makeFolder]
  split
  · rfl
  simp only [hlocate]
  rcases d.locate _ with fault | p
  · rfl
  simp only [get?_seenFrom]
  rcases d.get? p with _ | e
  · rcases d.get? p.dropLast with _ | ⟨c | _⟩ <;> rfl
  · rfl

/-- The last folder of a path is made in the same way. -/
theorem makeLast_seenFrom (h : isAbsolute path = true) (cwd : String) (d : Disk) (wentUp : Bool) :
    (d.seenFrom cwd).makeLast path wentUp =
      ((d.makeLast path wentUp).1.seenFrom cwd, (d.makeLast path wentUp).2) := by
  rw [makeLast, makeLast]
  split
  · rfl
  rw [makeFolder_seenFrom h]
  rcases d.makeFolder path with e | made
  · cases e with
    | file fault p =>
      simp only [Except.map, isFolder_seenFrom h]
      split <;> rfl
    | _ => rfl
  · rfl

/-- What a path without its last step begins at is the root, if the path does. -/
theorem isAbsolute_lastStep (h : isAbsolute path = true) : isAbsolute (lastStep path).1 = true := by
  rw [lastStep]
  split
  · exact isAbsolute_parent (isAbsolute_parent h)
  · exact isAbsolute_parent h

/-- The folders of a path are made in the same way. The induction is on the number of folders above
it. -/
theorem makeFoldersWithin_seenFrom (n : Nat) (h : isAbsolute path = true) (cwd : String) (d : Disk) :
    makeFoldersWithin n (d.seenFrom cwd) path =
      ((makeFoldersWithin n d path).1.seenFrom cwd, (makeFoldersWithin n d path).2) := by
  induction n generalizing path with
  | zero => rfl
  | succ n ih =>
    have hhead := isAbsolute_lastStep h
    rw [makeFoldersWithin, makeFoldersWithin]
    simp only [holds_seenFrom hhead, ih hhead]
    split
    · exact makeLast_seenFrom h cwd d false
    rcases makeFoldersWithin n d (lastStep path).1 with ⟨above, e | _⟩
    · cases e with
      | file fault p =>
        cases fault with
        | «exists» => exact makeLast_seenFrom h cwd above true
        | _ => rfl
      | _ => rfl
    · exact makeLast_seenFrom h cwd above true

/-- The folders of a path are made in the same way. -/
theorem makeFolders_seenFrom (h : isAbsolute path = true) (cwd : String) (d : Disk) :
    (d.seenFrom cwd).makeFolders path =
      ((d.makeFolders path).1.seenFrom cwd, (d.makeFolders path).2) :=
  makeFoldersWithin_seenFrom _ h cwd d

end Disk

/-! ### Paths -/

namespace Path

variable {cwd cwd' p start : String}

/-- A path that begins at the root is spelled the same. -/
theorem absolute_congr (h : isAbsolute p = true) (cwd cwd' : String) :
    absolute cwd' p = absolute cwd p := by
  have hp : Chars.isAbsolute p.toList = true := h
  rw [absolute, absolute, Chars.absolute, Chars.absolute, if_pos hp, if_pos hp]

/-- The way between paths that begin at the root is the same. -/
theorem relative_seenFrom (hp : isAbsolute p = true) (hstart : isAbsolute start = true)
    (cwd cwd' : String) : relative cwd' p start = relative cwd p start := by
  have hp' : Chars.isAbsolute p.toList = true := hp
  have hstart' : Chars.isAbsolute start.toList = true := hstart
  simp only [relative, Chars.relative, Chars.absoluteComponents, Chars.absolute, if_pos hp',
    if_pos hstart']

/-- A configured directory that begins at the root is the same. -/
theorem directory_congr (h : isAbsolute p = true) (cwd cwd' : String) (homes : Homes) :
    directory cwd' homes p = directory cwd homes p := by
  have hp : Chars.isAbsolute p.toList = true := h
  have hhome : Chars.expandHome homes.chars? p.toList = p.toList := by
    rcases hl : p.toList with _ | ⟨c, cs⟩
    · rfl
    · rw [hl] at hp
      obtain rfl : c = '/' := by simpa [Chars.isAbsolute] using hp
      rfl
  rw [directory, directory, ne_empty_of_isAbsolute h, expandHome, hhome, String.ofList_toList, absolute, absolute,
    Chars.absolute, Chars.absolute, if_pos hp, if_pos hp]
  rfl

end Path

/-- The page of a view is the same if the view and the directories begin at the root. -/
theorem Layout.destination_seenFrom {layout : Layout} {source : String}
    (hext : layout.ext = templateExt) (hviews : isAbsolute layout.views = true)
    (hsource : isAbsolute source = true) (cwd cwd' : String) :
    layout.destination cwd' source = layout.destination cwd source := by
  have htarget := Layout.isAbsolute_pageName hext hsource
  have hway := relative_seenFrom htarget hviews cwd cwd'
  have hwithin : isWithin cwd' (layout.pageName source) layout.views =
      isWithin cwd (layout.pageName source) layout.views := by
    have hchars := congrArg String.toList hway
    rw [relative, relative, String.toList_ofList, String.toList_ofList] at hchars
    rw [isWithin, isWithin, hchars]
  rw [Layout.destination_eq (ne_empty_of_isAbsolute htarget),
    Layout.destination_eq (ne_empty_of_isAbsolute htarget), hwithin, hway]

/-! ### Options -/

/-- The base directory of the settings begins at the root. -/
def Disk.Anchored (d : Disk) (configDir : String) : Prop :=
  ∀ overrides base, loadSettings d (Path.join configDir globalFile) = .ok overrides →
    subscript (globalDefaults.override overrides) "base" = .ok base → isAbsolute base.plain = true

variable {d d' : Disk} {configDir path cwd : String} {opts opts' : Options}
  {made written : Place → Prop}

theorem loadSettings_seenFrom (h : isAbsolute path = true) (cwd : String) (d : Disk) :
    loadSettings (d.seenFrom cwd) path = loadSettings d path :=
  Disk.loadSettings_congr (Disk.find?_seenFrom h cwd d)

/-- Options whose base directory begins at the root are the same. -/
theorem options_seenFrom (hconfig : isAbsolute configDir = true) (h : d.Anchored configDir)
    (cwd : String) : options (d.seenFrom cwd) configDir = options d configDir := by
  rw [options, options, loadSettings_seenFrom (isAbsolute_join hconfig),
    loadSettings_seenFrom (isAbsolute_join hconfig)]
  rcases hglobal : loadSettings d (Path.join configDir globalFile) with e | overrides
  · simp only [bind, Except.bind]
  have hbase : baseDirectory (d.seenFrom cwd) (globalDefaults.override overrides) =
      baseDirectory d (globalDefaults.override overrides) := by
    rw [baseDirectory, baseDirectory]
    rcases hbase : subscript (globalDefaults.override overrides) "base" with e | base
    · rfl
    · rcases hshown : base.shown with reason | text
      · simp only [hshown]
      · have hplain : isAbsolute (String.ofList text) = true := by
          rw [← (Value.shown_eq_ok_iff.mp hshown).2]
          exact h overrides base hglobal hbase
        simp only [hshown, Disk.cwd_seenFrom, Disk.home_seenFrom,
          directory_congr hplain d.cwd cwd (.single d.home)]
  simp only [bind, Except.bind, hbase]

instance (d : Disk) (configDir : String) : Decidable (d.Anchored configDir) :=
  decidable_of_iff (∀ overrides ∈ (loadSettings d (Path.join configDir globalFile)).toOption,
      ∀ base ∈ (subscript (globalDefaults.override overrides) "base").toOption,
        isAbsolute base.plain = true)
    ⟨fun h overrides base hload hbase => h overrides (by rw [hload]; rfl) base (by rw [hbase]; rfl),
      fun h overrides hload base hbase =>
        h overrides base (ok_of_toOption hload) (ok_of_toOption hbase)⟩

/-- Settings whose base directory begins at the root are in a file. -/
theorem Disk.Anchored.exists_file (h : d.Anchored configDir) (hopts : options d configDir = .ok opts) :
    ∃ c, d.find? (Path.join configDir globalFile) = some (.file c) := by
  obtain ⟨_, hloaded⟩ := loaded_of_options hopts
  obtain ⟨overrides, hload, -⟩ := hloaded.settings
  rcases hfind : d.find? (Path.join configDir globalFile) with _ | ⟨c | _⟩
  · -- without a file the base directory is the working directory
    have hnone : loadSettings d (Path.join configDir globalFile) = .ok (.dict []) := by
      rw [loadSettings, Disk.holds, hfind]
      rfl
    exact absurd (h _ (.text ".") hnone rfl) (by decide)
  · exact ⟨c, rfl⟩
  · obtain ⟨e, he⟩ := Disk.loadSettings_of_folder hfind
    rw [he] at hload
    exact absurd hload (by simp)

/-- A configuration directory with such settings is settled: they were found where it leads. -/
theorem Disk.Anchored.settled (h : d.Anchored configDir) (hopts : options d configDir = .ok opts) :
    d.Settled configDir := by
  obtain ⟨c, hfile⟩ := h.exists_file hopts
  obtain ⟨-, -, -, hfollow, -⟩ := Disk.find?_eq_some_iff.mp hfile
  exact Disk.Settled.of_join (by decide) (Disk.steady_of_followFrom hfollow)

/-- A file that is found and not written is found later. -/
theorem Disk.Grown.find?_of_file (hg : Disk.Grown made written d d') (hd : d.WellFormed)
    (hname : IsName (baseName path)) {c : Content} (h : d.find? path = some (.file c))
    (hwritten : ∀ q, written q → q.getLast? ≠ some (baseName path)) :
    d'.find? path = some (.file c) := by
  obtain ⟨-, -, -, hfollow, hget⟩ := Disk.find?_eq_some_iff.mp h
  rcases hg.find?_settled hd (Disk.steady_of_followFrom hfollow) hname hwritten with hsame | ⟨-, hnone, -⟩
  · rw [hsame, h]
  · rw [hget] at hnone
    exact absurd hnone (by simp)

/-- A site that is seen from another working directory is alike in all that begins at the root, which is
all that is ever read. -/
theorem Site.alike_seenFrom {site : Site} (hcwd : isAbsolute site.disk.cwd = true)
    (hconfig : isAbsolute site.configDir = true) (h : site.disk.Anchored site.configDir) (cwd : String) :
    Site.Alike (fun _ => false) (fun path => isAbsolute path = true) site
      { site with disk := site.disk.seenFrom cwd } where
  depth := rfl
  options := options_seenFrom hconfig h cwd
  find? _ hpath := Disk.find?_seenFrom hpath cwd _
  name _ _ hopts hpath :=
    relative_seenFrom hpath (isAbsolute_source_of_options hcwd hopts) site.disk.cwd cwd
  reference _ _ hopts _ := isAbsolute_join (isAbsolute_source_of_options hcwd hopts)
  template _ _ pieces hopts _ := isAbsolute_below (isAbsolute_source_of_options hcwd hopts) pieces

/-- A view compiles to the same from another working directory. -/
theorem Site.compile_seenFrom (site : Site) (hcwd : isAbsolute site.disk.cwd = true)
    (hconfig : isAbsolute site.configDir = true) (h : site.disk.Anchored site.configDir)
    (hpath : isAbsolute path = true) (cwd : String) :
    StaticSite.compile { site with disk := site.disk.seenFrom cwd } .template path (.ok .none) #[] =
      StaticSite.compile site .template path (.ok .none) #[] :=
  (alike_seenFrom hcwd hconfig h cwd).compile_eq hpath fun elsewhere => by
    rw [divertedAt_never, resolve]

/-! ### Runs -/

/-- The world as it is seen from a working directory. -/
def World.seenFrom (cwd : String) (w : World) : World := { w with disk := w.disk.seenFrom cwd }

variable {α β : Type} {I : World → Prop} {P : α → Prop} {Q : β → Prop} {c : Running α}

/-- A run does the same from another working directory: beginning in a world of a kind it comes to the
same result, which is as it should be, and leaves the same world but for the working directory, which is
one of that kind. -/
structure Same (cwd : String) (I : World → Prop) (c : Running α) (P : α → Prop) : Prop where
  /-- It does the same. -/
  run : ∀ w, I w → c (w.seenFrom cwd) = ((c w).1, (c w).2.seenFrom cwd)
  /-- It keeps the kind of world, and the result is as it should be. -/
  ensures : Ensures I c P

namespace Same

open Running

/-- A result. -/
theorem pure {a : α} (h : P a) : Same cwd I (pure a : Running α) P := ⟨fun _ _ => rfl, .pure h⟩

/-- A failure. -/
theorem throw (e : Failure) : Same cwd I (throw e : Running α) P := ⟨fun _ _ => rfl, .throw e⟩

/-- Parts one after another. -/
theorem bind {f : α → Running β} (h : Same cwd I c P) (hf : ∀ a, P a → Same cwd I (f a) Q) :
    Same cwd I (c >>= f) Q := by
  refine ⟨fun w hw => ?_, .bind h.ensures fun a ha => (hf a ha).ensures⟩
  obtain ⟨hkeeps, hresult⟩ := h.ensures w hw
  have hsame := h.run w hw
  rw [bind_apply, bind_apply]
  rcases hc : c w with ⟨e | a, w'⟩
  · rw [hc] at hsame
    rw [hsame]
  · rw [hc] at hsame hkeeps hresult
    rw [hsame]
    exact (hf a (hresult a rfl)).run w' hkeeps

/-- What follows a look at the world does the same if it is the same whichever working directory is
looked at. -/
theorem getBind {f : World → Running β} (hsame : ∀ w, I w → f (w.seenFrom cwd) = f w)
    (hf : ∀ w, I w → Same cwd I (f w) Q) : Same cwd I (get >>= f) Q := by
  refine ⟨fun w hw => ?_, .bind .get fun w hw => (hf w hw).ensures⟩
  rw [bind_apply, bind_apply, get_apply, get_apply]
  simp only
  rw [hsame w hw]
  exact (hf w hw).run w hw

/-- A result that needs no run. -/
theorem ofExcept (r : Except Failure α) : Same cwd I (Running.ofExcept r) fun a => r = .ok a := by
  cases r with
  | error e => exact throw e
  | ok a => exact pure rfl

/-- One of two parts. -/
theorem ite {p : Prop} [Decidable p] {c' : Running α} (hc : p → Same cwd I c P)
    (hc' : ¬p → Same cwd I c' P) : Same cwd I (if p then c else c') P := by
  by_cases hp : p
  · rw [if_pos hp]
    exact hc hp
  · rw [if_neg hp]
    exact hc' hp

/-- A part that may fail. -/
theorem attempt (h : Same cwd I c P) : Same cwd I (attempt c) fun r => ∀ a, r = .ok a → P a := by
  refine ⟨fun w hw => ?_, h.ensures.attempt⟩
  rw [Running.attempt, Running.attempt, h.run w hw]
  rfl

/-- A part for each of some values. -/
theorem mapM {f : α → Running β} {as : List α} (h : ∀ a ∈ as, Same cwd I (f a) Q) :
    Same cwd I (as.mapM f) fun _ => True := by
  induction as with
  | nil => exact pure True.intro
  | cons a as ih =>
    rw [List.mapM_cons]
    refine bind (h a List.mem_cons_self) fun b _ => ?_
    exact bind (ih fun x hx => h x (List.mem_cons_of_mem _ hx)) fun bs _ => pure True.intro

variable (hI : Blind I)
include hI

/-- A report. -/
theorem report (m : Message) : Same cwd I (report m) fun _ => True := ⟨fun _ _ => rfl, hI.report m⟩

/-- A detail. -/
theorem detail (text : String) : Same cwd I (detail text) fun _ => True :=
  getBind (fun _ _ => rfl) fun _ _ => .ite (fun _ => report hI _) fun _ => .pure True.intro

/-- A call of a tool. -/
theorem call (command : List Value) : Same cwd I (call command) fun _ => True :=
  ⟨fun _ _ => rfl, hI.call command⟩

/-- A part whose failures of the file system are reported. -/
theorem orReport (target source : String) (h : Same cwd I c P) :
    Same cwd I (orReport target source c) fun r => ∀ a, r = some a → P a := by
  refine .bind h.attempt fun r hr => ?_
  cases r with
  | ok a =>
    refine .pure fun b hb => ?_
    rw [← Option.some.inj hb]
    exact hr a rfl
  | error e =>
    refine .ite (fun _ => .bind (report hI _) fun _ _ => ?_) fun _ => .throw e
    exact .pure fun b hb => absurd hb (by simp)

/-- A compilation that does the same with the site as it is seen. -/
theorem compile {f : Site → Compiling α} (h : ∀ w, I w → f (w.seenFrom cwd).site = f w.site) :
    Same cwd I (Running.compile f) fun _ => True := by
  refine ⟨fun w hw => ?_, hI.compile f⟩
  rw [compile_apply, compile_apply, h w hw]
  rfl

end Same

/-- The options are asked for. -/
theorem Same.currentOptions
    (h : ∀ w, I w → options (w.disk.seenFrom cwd) w.project.configDir =
      options w.disk w.project.configDir) :
    Same cwd I Running.currentOptions fun opts => ∃ w, I w ∧ options w.disk w.project.configDir = .ok opts := by
  refine ⟨fun w hw => ?_, .currentOptions⟩
  have hsame := h w hw
  rw [Running.currentOptions, bind_apply, bind_apply, get_apply, get_apply]
  simp only [World.seenFrom, hsame]
  rcases options w.disk w.project.configDir with e | opts <;> rfl

/-- The end of an audit. -/
theorem Same.auditVerdict (hI : Blind I) (page : String) (result : ToolResult) :
    Same cwd I (StaticSite.auditVerdict page result) fun _ => True := by
  cases result with
  | timeout => exact .bind (.report hI _) fun _ _ => .pure True.intro
  | broken => exact .bind (.report hI _) fun _ _ => .pure True.intro
  | exit code out err =>
    refine .ite (fun _ => ?_) fun _ => ?_
    · exact .bind (.report hI _) fun _ _ => .pure True.intro
    · exact .bind (.detail hI _) fun _ _ => .pure True.intro

/-- An audit of a page. -/
theorem Same.auditPage (hI : Blind I) {page : String} (hpage : isAbsolute page = true)
    (h : ∀ w, I w → options (w.disk.seenFrom cwd) w.project.configDir =
      options w.disk w.project.configDir) :
    Same cwd I (StaticSite.auditPage page) fun _ => True := by
  refine .bind (Same.currentOptions h) fun opts _ => .bind (.ofExcept _) fun command _ => ?_
  refine .bind (P := fun _ => True) ?_ fun tool _ => ?_
  · unfold Running.findTool
    split
    · exact .getBind (fun _ _ => rfl) fun w _ => .pure True.intro
    · exact .pure True.intro
  split
  · exact .bind (.detail hI _) fun _ _ => .pure True.intro
  · refine .bind (.ofExcept _) fun setting _ => .bind (.ofExcept _) fun args _ => ?_
    refine .getBind (fun w _ => ?_) fun w _ => .bind (.call hI _) fun result _ => ?_
    · simp only [World.seenFrom, Disk.cwd_seenFrom, absolute_congr hpage w.disk.cwd cwd]
    · exact .auditVerdict hI page result

/-- Folders are made. -/
theorem Same.makeFolders (h : isAbsolute path = true)
    (hkeep : Ensures I (Running.makeFolders path) fun _ => True) :
    Same cwd I (Running.makeFolders path) fun _ => True := by
  refine ⟨fun w _ => ?_, hkeep⟩
  rw [makeFolders_apply, makeFolders_apply, World.seenFrom]
  simp only [Disk.makeFolders_seenFrom h]
  generalize w.disk.makeFolders path = made
  rfl

/-- A text is written. -/
theorem Same.writeText {text : String} (h : isAbsolute path = true)
    (hkeep : Ensures I (Running.writeText path text) fun _ => True) :
    Same cwd I (Running.writeText path text) fun _ => True := by
  refine ⟨fun w _ => ?_, hkeep⟩
  rw [writeText_apply, writeText_apply, World.seenFrom]
  simp only [Disk.writeText_seenFrom h]
  rcases w.disk.writeText path text with e | d <;> rfl

end StaticSite
