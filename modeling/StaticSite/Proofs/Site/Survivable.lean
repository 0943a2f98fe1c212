import StaticSite.Proofs.Site.Destination
import StaticSite.Proofs.Site.Keeping
import StaticSite.Site.Watch

/-!
# Failures that can be survived

Of all that can go wrong only a request to end the program may not be survived. No part of a build makes
one: what the disk, the settings, the paths and the pages can refuse is refused with failures of other
kinds, a compilation passes on nothing but includes without an end, and a run made of parts fails as its
parts do. So a handler that passes on nothing but such requests has nothing to pass on.

## Main definitions

* `Survives`: a result that is no request to end the program.
* `Endures`: a run that comes to no such request, in any world.

## Main results

* `survives_options`: reading the configuration is survived, whatever is in the files.
* `Endures.walk`, `Endures.rebuild`: so are walking over views and building again after a
  change.
-/

namespace StaticSite

variable {α β : Type}

/-- A result that is no request to end the program. -/
def Survives (r : Except Failure α) : Prop := ∀ code, r ≠ .error (.exit code)

@[simp] theorem survives_ok (a : α) : Survives (.ok a : Except Failure α) := nofun

@[simp] theorem survives_error {e : Failure} :
    Survives (.error e : Except Failure α) ↔ ∀ code, e ≠ .exit code := by
  simp only [Survives, ne_eq, Except.error.injEq]

/-- The failure of a part that is passed on. -/
theorem Survives.pass {r : Except Failure α} {e : Failure} (hr : Survives r) (h : r = .error e) :
    Survives (.error e : Except Failure β) := by
  rw [h] at hr
  exact survives_error.mpr (survives_error.mp hr)

/-- One result after another. -/
theorem Survives.bind {r : Except Failure α} {f : α → Except Failure β} (hr : Survives r)
    (hf : ∀ a, Survives (f a)) : Survives (r >>= f) := by
  rcases h : r with e | a
  · exact hr.pass h
  · exact hf a

/-! ### The disk -/

section Disk

variable (d : Disk) (path : String)

theorem survives_refuseNull (text : String) : Survives (Disk.refuseNull path text) := by
  rw [Disk.refuseNull]
  split <;> simp

theorem survives_content : Survives (d.content path) := by
  rw [Disk.content]
  split
  · next h => exact (survives_refuseNull _ _).pass h
  · split
    · simp [Disk.faultAt]
    · split <;> simp [Disk.faultAt]

theorem survives_textOf (c : Content) : Survives (Disk.textOf c) := by
  rcases c with text | bytes
  · simp [Disk.textOf]
  · rw [Disk.textOf]
    split <;> simp

theorem survives_readText : Survives (d.readText path) := by
  rw [Disk.readText]
  split
  · next h => exact (survives_content d path).pass h
  · exact survives_textOf _

theorem survives_list : Survives (d.list path) := by
  rw [Disk.list]
  split
  · next h => exact (survives_refuseNull _ _).pass h
  · split
    · simp [Disk.faultAt]
    · split <;> simp [Disk.faultAt]

theorem survives_writeText (text : String) : Survives (d.writeText path text) := by
  rw [Disk.writeText, Disk.writeContent]
  split
  · next h => exact (survives_refuseNull _ _).pass h
  · split
    · simp [Disk.faultAt]
    · split
      · simp [Disk.faultAt]
      · simp
      · split <;> simp [Disk.faultAt]

theorem survives_makeFolder : Survives (d.makeFolder path) := by
  rw [Disk.makeFolder]
  split
  · next h => exact (survives_refuseNull _ _).pass h
  · split
    · simp [Disk.faultAt]
    · split
      · simp [Disk.faultAt]
      · split <;> simp [Disk.faultAt]

theorem survives_makeLast (wentUp : Bool) : Survives (d.makeLast path wentUp).2 := by
  rw [Disk.makeLast]
  split
  · simp
  · split
    · simp
    · split <;> simp
    · next _ h => exact (survives_makeFolder d path).pass h

/-- Going up to a folder that is there and making those below it. -/
theorem survives_makeFoldersWithin (fuel : Nat) : Survives (d.makeFoldersWithin fuel path).2 := by
  induction fuel generalizing path with
  | zero => simp [Disk.makeFoldersWithin]
  | succ fuel ih =>
    rw [Disk.makeFoldersWithin]
    split
    · exact survives_makeLast d path false
    · have hup := ih (Disk.lastStep path).1
      split
      · exact survives_makeLast _ path true
      · next h => exact hup.pass (congrArg Prod.snd h)
      · exact survives_makeLast _ path true

theorem survives_makeFolders : Survives (d.makeFolders path).2 := survives_makeFoldersWithin d path _

end Disk

/-! ### Settings -/

theorem Yaml.Fault.failure_ne_exit (name : String) (fault : Yaml.Fault) (code : Nat) :
    fault.failure name ≠ .exit code := by
  rcases fault with _ | _ | fault | _
  · exact nofun
  · exact nofun
  · cases fault <;> exact nofun
  · exact nofun

theorem survives_load (name : String) (text : List Char) : Survives (Yaml.load name text) := by
  rw [Yaml.load]
  split
  · simp
  · next fault _ => exact survives_error.mpr (fault.failure_ne_exit name)

theorem survives_loadSettings (d : Disk) (path : String) : Survives (loadSettings d path) := by
  rw [loadSettings]
  split
  · simp
  · split
    · simp
    · next h => exact (survives_readText d path).pass h
    · split
      · next h => exact (survives_load _ _).pass h
      · simp
      · simp
      · simp

theorem survives_subscript (v : Value) (key : String) : Survives (subscript v key) := by
  rw [subscript.eq_def]
  split
  · split <;> simp
  all_goals simp

theorem survives_joinValue (base : String) (v : Value) : Survives (joinValue base v) := by
  rw [joinValue.eq_def]
  split <;> simp [notAPath]

theorem survives_iterate (v : Value) : Survives (iterate v) := by
  rw [iterate.eq_def]
  split <;> simp

theorem survives_getSetting (v : Value) (key : String) : Survives (getSetting v key) := by
  rw [getSetting.eq_def]
  split <;> simp

theorem survives_spread (v : Value) : Survives (spread v) := by
  rw [spread]
  split <;> simp

theorem survives_directory (cwd : String) (homes : Path.Homes) (p : String) :
    Survives (Path.directory cwd homes p) := by
  rw [Path.directory]
  split
  · simp
  · split <;> simp [Path.nullOwner]

theorem survives_baseDirectory (d : Disk) (settings : Value) : Survives (baseDirectory d settings) := by
  rw [baseDirectory]
  split
  · next h => exact (survives_subscript _ _).pass h
  · split
    · exact survives_directory _ _ _
    · simp

/-- Reading the configuration is survived, whatever is in the files. -/
theorem survives_options (d : Disk) (configDir : String) : Survives (options d configDir) := by
  rw [options]
  refine (survives_loadSettings _ _).bind fun _ => (survives_loadSettings _ _).bind fun _ =>
    (survives_baseDirectory _ _).bind fun _ => ?_
  refine (survives_subscript _ _).bind fun _ => (survives_joinValue _ _).bind fun _ => ?_
  refine (survives_subscript _ _).bind fun _ => (survives_joinValue _ _).bind fun _ => ?_
  refine (survives_subscript _ _).bind fun _ => (survives_subscript _ _).bind fun _ =>
    (survives_joinValue _ _).bind fun _ => survives_ok _

/-! ### Paths and pages -/

theorem survives_within (cwd path root : String) : Survives (within cwd path root) := by
  rw [within]
  split <;> simp [noPath]

theorem survives_entryPath (cwd entry base : String) : Survives (entryPath cwd entry base) := by
  rw [entryPath]
  split
  · next h => exact (survives_within _ _ _).pass h
  · simp
  · simp

theorem survives_destination (layout : Layout) (cwd source : String) :
    Survives (layout.destination cwd source) := by
  cases htarget : (layout.pageName source).isEmpty with
  | true =>
    unfold Layout.destination within
    simp only [htarget, if_true]
    exact survives_error.mpr nofun
  | false =>
    rw [Layout.destination_eq htarget]
    exact survives_ok _

theorem survives_classify (cwd changed : String) (views : List String) (viewsDir ext : String) :
    Survives (classify cwd changed views viewsDir ext) := by
  unfold classify
  split
  · simp
  · split
    · next h => exact (survives_within _ _ _).pass h
    · simp
    · simp

theorem survives_beautifyBy (setting : Value) (text : String) : Survives (beautifyBy setting text) := by
  rw [beautifyBy, Html.prettify]
  split
  · split <;> simp
  · simp

theorem survives_matchesAny (path : String) (globs : List Value) : Survives (matchesAny path globs) := by
  induction globs with
  | nil => simp [matchesAny]
  | cons glob globs ih =>
    cases glob with
    | text glob =>
      rw [matchesAny]
      split
      · simp
      · exact ih
    | _ => simp [matchesAny, notAGlob]

/-! ### Compilations -/

/-- A guard passes on nothing but includes without an end. -/
theorem Compiling.survives_guarded (title path : String) (body : Compiling (String × Template.Store))
    (store : Template.Store) (t : Trace) : Survives (guarded title path body store t).1 := by
  rcases hbody : body t with ⟨r, messages, n⟩
  rw [guarded_apply hbody, verdict.eq_def]
  split
  · simp
  · split
    · split <;> simp
    · simp

/-- The compilation of a view fails, if at all, with includes without an end. -/
theorem survives_compile (site : Site) (path : String) (locals : Except Failure Template.Locals)
    (store : Template.Store) (t : Trace) : Survives (compile site .template path locals store t).1 := by
  have hsource : Survives (compileWith site (resolve site) .template path locals store t).1 := by
    rw [compileWith, ite_apply']
    split
    · exact survives_ok _
    · exact Compiling.survives_guarded _ _ _ _ _
  rw [compile, bind_apply]
  rcases hr : compileWith site (resolve site) .template path locals store t with ⟨e | ⟨text, store'⟩, t'⟩
  · rw [hr] at hsource
    exact survives_error.mpr (survives_error.mp hsource)
  · exact survives_ok _

/-! ### Runs -/

/-- A run comes to no request to end the program, in any world. -/
def Endures (c : Running α) : Prop := ∀ w, Survives (c w).1

namespace Endures

open Running

variable {c : Running α}

/-- A result. -/
theorem pure (a : α) : Endures (pure a : Running α) := fun _ => survives_ok a

/-- A failure of another kind. -/
theorem throw {e : Failure} (he : ∀ code, e ≠ .exit code) : Endures (throw e : Running α) :=
  fun _ => survives_error.mpr he

/-- Parts one after another. -/
theorem bind {f : α → Running β} (hc : Endures c) (hf : ∀ a, Endures (f a)) : Endures (c >>= f) := by
  intro w
  have hcw := hc w
  rw [bind_apply]
  rcases h : c w with ⟨e | a, w'⟩
  · rw [h] at hcw
    exact survives_error.mpr (survives_error.mp hcw)
  · exact hf a w'

/-- A result that needs no run. -/
theorem ofExcept {r : Except Failure α} (hr : Survives r) : Endures (Running.ofExcept r) := by
  rcases r with e | a
  · exact throw (survives_error.mp hr)
  · exact pure a

/-- The world is read. -/
theorem get : Endures (get : Running World) := fun _ => survives_ok _

/-- One of two parts. -/
theorem ite {p : Prop} [Decidable p] {d : Running α} (hc : Endures c) (hd : Endures d) :
    Endures (if p then c else d) := by
  split
  · exact hc
  · exact hd

/-- A part for each of some values. -/
theorem mapM {f : α → Running β} (hf : ∀ a, Endures (f a)) (as : List α) : Endures (as.mapM f) := by
  induction as with
  | nil => exact pure []
  | cons a as ih =>
    rw [List.mapM_cons]
    exact bind (hf a) fun b => bind ih fun bs => pure _

/-- A report. -/
theorem report (m : Message) : Endures (report m) := fun _ => survives_ok _

/-- A detail. -/
theorem detail (text : String) : Endures (detail text) :=
  .bind .get fun _ => .ite (.report _) (.pure ())

/-- The options of the project. -/
theorem currentOptions : Endures currentOptions :=
  .bind .get fun w => .ofExcept (survives_options w.disk w.project.configDir)

/-- A compilation as a part of a run. -/
theorem compile {c : Site → Compiling α} (hc : ∀ site t, Survives (c site t).1) :
    Endures (Running.compile c) := by
  intro w
  rw [compile_apply]
  exact hc _ _

/-! ### Building -/

/-- Making folders. -/
theorem makeFolders (path : String) : Endures (makeFolders path) := by
  intro w
  rw [makeFolders_apply]
  dsimp only
  exact survives_makeFolders w.disk path

/-- Putting a text into a file. -/
theorem writeText (path text : String) : Endures (writeText path text) :=
  .bind .get fun w => .bind (.ofExcept (survives_writeText w.disk path text)) fun _ _ => survives_ok _

/-- What the file system refuses is reported. -/
theorem orReport (target source : String) (hc : Endures c) : Endures (orReport target source c) := by
  intro w
  have hcw := hc w
  rw [StaticSite.orReport, bind_apply, Running.attempt]
  rcases h : c w with ⟨e | a, w'⟩
  · rw [h] at hcw
    exact Endures.ite (.bind (.report _) fun _ => .pure _) (.throw (survives_error.mp hcw)) w'
  · exact survives_ok _

/-- Writing a page. -/
theorem writePage (source : String) (data : Option String) : Endures (writePage source data) := by
  cases data with
  | none => exact .bind (.report _) fun _ => .pure none
  | some text =>
    refine .bind (.orReport _ _ .currentOptions) fun opts => ?_
    cases opts with
    | none => exact .pure none
    | some opts =>
      refine .bind .get fun w => .bind (.ofExcept (survives_destination _ _ _)) fun target => ?_
      refine .bind (.orReport _ _ (.bind (.makeFolders _) fun _ =>
        .bind (.ofExcept (survives_beautifyBy _ _)) fun _ => .writeText _ _)) fun written => ?_
      cases written with
      | none => exact .pure none
      | some => exact .bind (.report _) fun _ => .pure (some target)

/-- The end of an audit. -/
theorem auditVerdict (page : String) (result : ToolResult) : Endures (auditVerdict page result) := by
  cases result with
  | timeout => exact .bind (.report _) fun _ => .pure false
  | broken => exact .bind (.report _) fun _ => .pure false
  | exit code out err =>
    exact .ite (.bind (.report _) fun _ => .pure false) (.bind (.detail _) fun _ => .pure true)

/-- Auditing a page. -/
theorem auditPage (page : String) : Endures (auditPage page) := by
  refine .bind .currentOptions fun opts => .bind (.ofExcept (survives_getSetting _ _)) fun name => ?_
  refine .bind (c := findTool _) ?_ fun tool => ?_
  · rw [findTool.eq_def]
    split
    · exact .bind .get fun _ => .pure _
    · exact .pure none
  cases tool with
  | none => exact .bind (.detail _) fun _ => .pure false
  | some tool =>
    refine .bind (.ofExcept (survives_getSetting _ _)) fun args =>
      .bind (.ofExcept (survives_spread _)) fun args => .bind .get fun w => ?_
    exact .bind (c := call _) (fun _ => survives_ok _) (.auditVerdict page)

/-- Building a view. -/
theorem buildView (path : String) : Endures (buildView path) := by
  refine .bind .currentOptions fun opts => .ite (.pure none) ?_
  refine .bind (.compile fun site t => survives_compile site path _ _ t) fun compiled =>
    .bind (.writePage path compiled) fun target => ?_
  cases target with
  | none => exact .bind (.pure ()) fun _ => .pure none
  | some page =>
    refine .bind .get fun w => ?_
    exact .ite (.bind (.auditPage page) fun _ => .pure (some page)) (.pure (some page))

/-- Walking over views: what a folder adds is survived if what is below it is. -/
theorem walkAt (n : Nat) (entry : String) (base : Option String) : Endures (walkAt n entry base) := by
  induction n generalizing entry base with
  | zero => exact .throw nofun
  | succ n ih =>
    refine .bind .currentOptions fun opts => .bind .get fun w =>
      .bind (.ofExcept (survives_entryPath _ _ _)) fun path => ?_
    refine .ite (.bind (.buildView path) fun _ => .pure _) (.bind .get fun w => ?_)
    refine .ite (.bind (.detail _) fun _ => .pure []) (.bind .get fun w => ?_)
    have hlist := survives_list w.disk path
    rcases h : w.disk.list path with e | children
    · rw [h] at hlist
      exact .ite (.bind (.report _) fun _ => .pure []) (.throw (survives_error.mp hlist))
    · exact .bind (.mapM (fun child => ih child _) _) fun _ => .pure _

/-- Walking over the views. -/
theorem walk (entry : String) (base : Option String) : Endures (walk entry base) :=
  .bind .get fun _ => .walkAt _ entry base

/-- Building again after a change. -/
theorem rebuild (changed : String) (views : List String) : Endures (rebuild changed views) := by
  refine .bind .currentOptions fun opts => .bind .get fun w => .ite (.walk _ _) ?_
  refine .bind (.report _) fun _ => .bind .get fun w =>
    .bind (.ofExcept (survives_classify _ _ _ _ _)) fun a => .bind (.detail _) fun _ => ?_
  split
  · exact .walk _ _
  · exact .bind (.buildView _) fun _ => .pure _

/-- Whether a change counts. -/
theorem shouldRebuild (h : Handler) (path : String) (time : Binary64) :
    Endures (h.shouldRebuild path time) := by
  refine .bind .currentOptions fun opts => .bind (.ofExcept (survives_iterate _)) fun globs =>
    .bind (.ofExcept (survives_matchesAny _ _)) fun matched => .ite (.pure _) ?_
  split
  · exact .pure _
  · exact .pure _

end Endures

end StaticSite
