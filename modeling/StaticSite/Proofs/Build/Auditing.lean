import StaticSite.Proofs.Site.Outright
import StaticSite.Proofs.Site.Walk

/-!
# Builds with audits

Whether the pages of a build are audited makes no difference to the build. The same walk in two worlds, one
with audits and one without, stays level: it builds the same views, leaves the same disk and comes to the same
result, and every page it returns has been audited once. There is one way to part. An audit asks for the
options again. A build can make them unreadable, by a folder for a page in the place of a settings file; the
audit of that page then fails, and with it the walk, where the walk without audits would have found out at the
next view, if there was one.

## Main definitions

* `Options.Auditable`: the settings of the audits are as they should be.
* `Auditor`, `Auditor.commands`: what audits go by, and the commands that audit some pages.
* `World.Paired`: two level worlds, the second one with audits.
* `Compared`, `Audited`: how a run may end in such worlds, and the runs that do.
* `World.AuditFree`, `World.AuditParted`: audits make no difference to a walk, or the one they can make.

## Main results

* `exists_auditPage`: an audit runs one command, if the tool is installed, and always comes to an end.
* `Audited.bind`: parts one after another.
* `Audited.walkAt`: a walk ends as it may.
* `walk_auditFree`: audits make no difference unless the build makes the options unreadable.
* `not_auditFree`: then they may.
-/

namespace StaticSite

open Path Running

/-! ### One audit -/

/-- A text. -/
def Value.isText : Value → Bool
  | text _ => true
  | _ => false

/-- A list of texts. -/
def Value.isTexts : Value → Bool
  | list items => items.all isText
  | _ => false

namespace Value

variable {v : Value}

/-- A text is nothing else. -/
theorem exists_of_isText (h : v.isText = true) : ∃ s, v = .text s := by
  cases v with
  | text s => exact ⟨s, rfl⟩
  | _ => exact absurd h Bool.false_ne_true

/-- A list of texts is a list. -/
theorem exists_of_isTexts (h : v.isTexts = true) : ∃ items, v = .list items := by
  cases v with
  | list items => exact ⟨items, rfl⟩
  | _ => exact absurd h Bool.false_ne_true

/-- A mapping is nothing else. -/
theorem exists_of_isDict (h : v.isDict = true) : ∃ entries, v = .dict entries := by
  cases v with
  | dict entries => exact ⟨entries, rfl⟩
  | _ => exact absurd h Bool.false_ne_true

end Value

namespace Options

/-- The settings of the audits are a mapping, the command in it is a text, if there is one, and the arguments
are a list of texts, if there are any. -/
structure Auditable (opts : Options) : Prop where
  /-- The settings are a mapping. -/
  mapping : opts.auditing.isDict = true
  /-- The command is a text. -/
  command : ∀ v ∈ ifTruthy (opts.auditing.get? "command"), v.isText = true
  /-- The arguments are texts. -/
  args : ∀ v ∈ opts.auditing.get? "args", v.isTexts = true

instance (opts : Options) : Decidable opts.Auditable :=
  decidable_of_iff (opts.auditing.isDict = true ∧
      (∀ v ∈ ifTruthy (opts.auditing.get? "command"), v.isText = true) ∧
      ∀ v ∈ opts.auditing.get? "args", v.isTexts = true)
    ⟨fun ⟨h₁, h₂, h₃⟩ => ⟨h₁, h₂, h₃⟩, fun h => ⟨h.mapping, h.command, h.args⟩⟩

/-- The name of the tool. -/
def auditName (opts : Options) : String :=
  match ifTruthy (opts.auditing.get? "command") with
  | some (.text name) => name
  | _ => "pa11y"

/-- The arguments that every audit is run with. -/
def auditArgs (opts : Options) : List Value :=
  match opts.auditing.get? "args" with
  | some (.list items) => items
  | _ => []

variable {opts : Options}

/-- The name is what the settings say. -/
theorem toolName_eq (h : ∀ v ∈ ifTruthy (opts.auditing.get? "command"), v.isText = true) :
    toolName (opts.auditing.get? "command") "pa11y" = .text opts.auditName := by
  rw [StaticSite.toolName, auditName]
  rcases hname : ifTruthy (opts.auditing.get? "command") with _ | v
  · rfl
  · obtain ⟨s, rfl⟩ := Value.exists_of_isText (h v hname)
    rfl

/-- So are the arguments. -/
theorem Auditable.spread (h : opts.Auditable) :
    spread ((opts.auditing.get? "args").getD (.list [])) = .ok opts.auditArgs := by
  rw [auditArgs]
  rcases hargs : opts.auditing.get? "args" with _ | v
  · rfl
  · obtain ⟨items, rfl⟩ := Value.exists_of_isTexts (h.args v hargs)
    rfl

/-- The settings can be asked for what stands under a key. -/
theorem getSetting_auditing (h : opts.auditing.isDict = true) (key : String) :
    getSetting opts.auditing key = .ok (opts.auditing.get? key) := by
  obtain ⟨entries, hentries⟩ := Value.exists_of_isDict h
  rw [hentries]
  rfl

end Options

/-- What audits go by. -/
structure Auditor where
  /-- The options. -/
  opts : Options
  /-- The tools that are installed, by name. -/
  tools : List (String × String)
  /-- The working directory. -/
  cwd : String

/-- The commands that audit some pages: one for each if the tool is installed. -/
def Auditor.commands (a : Auditor) (pages : List String) : List (List Value) :=
  match a.tools.lookup a.opts.auditName with
  | none => []
  | some tool => pages.map fun page =>
    .text tool :: a.opts.auditArgs ++ [.text ("file://" ++ Path.absolute a.cwd page)]

/-- Without pages there is nothing to run. -/
@[simp] theorem Auditor.commands_nil (a : Auditor) : a.commands [] = [] := by
  rw [commands]
  split <;> rfl

/-- Pages are audited one after another. -/
theorem Auditor.commands_append (a : Auditor) (pages more : List String) :
    a.commands (pages ++ more) = a.commands pages ++ a.commands more := by
  rw [commands, commands, commands]
  split
  · rfl
  · exact List.map_append

variable {opts : Options} {w : World}

/-- However a tool ends, that is reported and no more. -/
theorem exists_auditVerdict (page : String) (result : ToolResult) (w : World) :
    ∃ passed messages, auditVerdict page result w = (.ok passed, { w with messages := messages }) := by
  cases result with
  | timeout => exact ⟨false, _, rfl⟩
  | broken => exact ⟨false, _, rfl⟩
  | exit code out err =>
    rw [auditVerdict]
    split
    · exact ⟨false, _, rfl⟩
    · obtain ⟨messages, hdetail⟩ := detail_apply (Style.tick ++ " pa11y passed " ++ Style.path page) w
      refine ⟨true, messages, ?_⟩
      rw [bind_apply, hdetail]
      rfl

/-- An audit looks for the tool, spreads the arguments and calls the tool, as the settings say. -/
theorem auditPage_apply (hopts : options w.disk w.project.configDir = .ok opts)
    (hmapping : opts.auditing.isDict = true)
    (hcommand : ∀ v ∈ ifTruthy (opts.auditing.get? "command"), v.isText = true) (page : String) :
    auditPage page w =
      match w.tools.lookup opts.auditName with
      | none => (detail ("pa11y not found, skipping audit of " ++ Style.path page) >>= fun _ => pure false) w
      | some tool =>
        match spread ((opts.auditing.get? "args").getD (.list [])) with
        | .error e => (.error e, w)
        | .ok args =>
          auditVerdict page (w.results.head?.getD (.exit 0 "" "")) { w with
            commands := w.commands ++
              [.text tool :: args ++ [.text ("file://" ++ Path.absolute w.disk.cwd page)]]
            results := w.results.drop 1 } := by
  rw [auditPage, bind_apply, currentOptions_apply hopts]
  simp only [Options.getSetting_auditing hmapping]
  rw [Running.ofExcept, bind_apply, pure_apply]
  simp only
  rw [Options.toolName_eq hcommand, bind_apply, findTool_text]
  rcases w.tools.lookup opts.auditName with _ | tool
  · rfl
  · simp only
    rw [Running.ofExcept, bind_apply, pure_apply]
    simp only
    rcases spread ((opts.auditing.get? "args").getD (.list [])) with e | args
    · rfl
    · simp only
      rw [Running.ofExcept, bind_apply, pure_apply]
      simp only
      rw [bind_apply, get_apply]
      simp only
      rw [bind_apply, call_apply]

/-- An audit comes to an end. It runs one command if the tool is installed and none otherwise, takes note of
how that ended, and reports. -/
theorem exists_auditPage (hopts : options w.disk w.project.configDir = .ok opts) (h : opts.Auditable)
    (page : String) :
    ∃ passed messages results, auditPage page w = (.ok passed, { w with
      messages := messages
      results := results
      commands := w.commands ++ Auditor.commands ⟨opts, w.tools, w.disk.cwd⟩ [page] }) := by
  rw [auditPage_apply hopts h.mapping h.command, h.spread]
  simp only [Auditor.commands]
  rcases w.tools.lookup opts.auditName with _ | tool
  · obtain ⟨messages, hdetail⟩ := detail_apply
      ("pa11y not found, skipping audit of " ++ Style.path page) w
    refine ⟨false, messages, w.results, ?_⟩
    simp only [List.append_nil]
    rw [bind_apply, hdetail]
    rfl
  · obtain ⟨passed, messages, hverdict⟩ := exists_auditVerdict page
      (w.results.head?.getD (.exit 0 "" "")) { w with
        commands := w.commands ++
          [.text tool :: opts.auditArgs ++ [.text ("file://" ++ Path.absolute w.disk.cwd page)]]
        results := w.results.drop 1 }
    exact ⟨passed, messages, w.results.drop 1, hverdict⟩

/-- If the options cannot be read, an audit fails at once. -/
theorem auditPage_of_unread {e : Failure} (h : options w.disk w.project.configDir = .error e)
    (page : String) : auditPage page w = (.error e, w) := by
  rw [auditPage, bind_apply, currentOptions, bind_apply, get_apply]
  simp only [h]
  rfl

/-! ### Worlds side by side -/

/-- The world with its pages audited, or not. -/
def World.auditing (w : World) (audit : Bool) : World :=
  { w with project := { w.project with audit := audit } }

/-- Two level worlds, the second one with audits. -/
structure World.Paired (a : Auditor) (v w : World) : Prop extends v.Level w where
  /-- The first one is sound. -/
  sound : v.Sound
  /-- It has no audits. -/
  off : v.project.audit = false
  /-- The second one has. -/
  on : w.project.audit = true
  /-- Its tools are those of the auditor. -/
  tools : w.tools = a.tools
  /-- So is the working directory. -/
  cwd : v.disk.cwd = a.cwd
  /-- So are the options, as long as they load. -/
  options : ∀ opts, StaticSite.options v.disk v.project.configDir = .ok opts → opts = a.opts

variable {a : Auditor} {v : World}

/-- Worlds stay side by side while the settings are spared. -/
theorem World.Paired.after (h : v.Paired a w) {d : Disk} (hd : v.disk.Spares d)
    (messages messages' : List Message) :
    ({ v with disk := d, messages := messages } : World).Paired a
      { w with disk := d, messages := messages' } where
  toLevel := h.toLevel.after d messages messages'
  sound := h.sound.after hd messages
  off := h.off
  on := h.on
  tools := h.tools
  cwd := hd.cwd.trans h.cwd
  options opts hopts := by
    rcases h.sound.options_of_spares hd with hsame | ⟨e, hfail⟩
    · exact h.options opts (hsame.symm.trans hopts)
    · exact absurd (hfail.symm.trans hopts) (by simp)

/-- Worlds stay side by side during an audit. -/
theorem World.Paired.audited (h : v.Paired a w) (messages : List Message) (results : List ToolResult)
    (commands : List (List Value)) :
    v.Paired a { w with messages := messages, results := results, commands := commands } :=
  ⟨⟨h.disk, h.configDir, h.including, h.depth, h.verbose⟩, h.sound, h.off, h.on, h.tools, h.cwd, h.options⟩

/-! ### Runs side by side -/

variable {α β : Type} {P : α → List String → Prop} {Q : β → List String → Prop} {c : Running α}

/-- How the same run may end in two worlds, the second one with audits and with some commands run before; `P`
says which pages go with a result. -/
inductive Compared (a : Auditor) (P : α → List String → Prop) (before : List (List Value)) :
    Except Failure α × World → Except Failure α × World → Prop
  /-- Both come to the same result, and the pages that go with it were audited. -/
  | returned {x : α} {pages : List String} {v' w' : World} (hpaired : v'.Paired a w') (hpages : P x pages)
      (hcommands : w'.commands = before ++ a.commands pages) : Compared a P before (.ok x, v') (.ok x, w')
  /-- Both fail in the same way. -/
  | failed {e : Failure} {v' w' : World} (hdisk : w'.disk = v'.disk) :
      Compared a P before (.error e, v') (.error e, w')
  /-- The second one has found out that the options do not load any more. -/
  | parted {x : α} {e : Failure} {v' w' : World} (hdisk : w'.disk = v'.disk)
      (hunread : options v'.disk v'.project.configDir = .error e) :
      Compared a P before (.ok x, v') (.error e, w')

/-- A run ends as it may in worlds side by side. -/
def Audited (a : Auditor) (c : Running α) (P : α → List String → Prop) : Prop :=
  ∀ v w, v.Paired a w → Compared a P w.commands (c v) (c w)

/-- Where the options do not load, a run leaves the disk as it is and fails with nothing but that failure. -/
def Yields (c : Running α) : Prop :=
  ∀ w e, options w.disk w.project.configDir = .error e →
    (c w).2.disk = w.disk ∧ (c w).2.project = w.project ∧ ∀ e', (c w).1 = .error e' → e' = e

namespace Yields

/-- A result. -/
theorem pure (x : α) : Yields (pure x : Running α) := fun _ _ _ =>
  ⟨rfl, rfl, fun _ he => absurd he (by rw [pure_apply]; simp)⟩

/-- Parts one after another. -/
theorem bind {f : α → Running β} (hc : Yields c) (hf : ∀ x, Yields (f x)) : Yields (c >>= f) := by
  intro w e hw
  obtain ⟨hdisk, hproject, hfail⟩ := hc w e hw
  rw [bind_apply]
  rcases hrun : c w with ⟨e' | x, w'⟩
  · rw [hrun] at hdisk hproject hfail
    refine ⟨hdisk, hproject, fun e'' he => ?_⟩
    rw [← Except.error.inj he]
    exact hfail e' rfl
  · rw [hrun] at hdisk hproject
    obtain ⟨hdisk', hproject', hfail'⟩ := hf x w' e (by rw [hdisk, hproject]; exact hw)
    exact ⟨hdisk'.trans hdisk, hproject'.trans hproject, hfail'⟩

/-- A part for each of some values. -/
theorem mapM {f : α → Running β} (hf : ∀ x, Yields (f x)) (xs : List α) : Yields (xs.mapM f) := by
  induction xs with
  | nil => exact pure []
  | cons x xs ih =>
    rw [List.mapM_cons]
    exact bind (hf x) fun y => bind ih fun ys => pure (y :: ys)

/-- What begins with the options fails at once. -/
theorem currentOptions {f : Options → Running β} : Yields (currentOptions >>= f) := by
  intro w e hw
  rw [bind_apply, Running.currentOptions, bind_apply, get_apply]
  simp only [hw]
  exact ⟨rfl, rfl, fun e' he => (Except.error.inj he).symm⟩

/-- A walk begins with the options. -/
theorem walkAt (n : Nat) (entry : String) (base : Option String) : Yields (walkAt (n + 1) entry base) :=
  currentOptions

end Yields

namespace Audited

/-- A result. -/
theorem pure {x : α} (h : P x []) : Audited a (pure x : Running α) P := fun _ _ hpaired =>
  .returned hpaired h (by rw [Auditor.commands_nil, List.append_nil])

/-- A failure. -/
theorem throw (e : Failure) : Audited a (throw e : Running α) P := fun _ _ hpaired =>
  .failed hpaired.disk

/-- What follows a part that does the same in level worlds. -/
theorem after {A : α → Prop} {f : α → Running β} (hc : Outright c A) (hf : ∀ x, A x → Audited a (f x) Q) :
    Audited a (c >>= f) Q := by
  intro v w hpaired
  obtain ⟨r, d, said, hd, hr, hrun⟩ := hc v hpaired.sound
  rw [bind_apply, bind_apply, hrun v (.refl v), hrun w hpaired.toLevel]
  cases r with
  | error e => exact .failed rfl
  | ok x => exact hf x (hr x rfl) _ _ (hpaired.after hd _ _)

/-- What follows a look at the world, if level worlds look the same. -/
theorem getBind {f : World → Running β} (hsame : ∀ w w' : World, w.Level w' → f w' = f w)
    (hf : ∀ w, Audited a (f w) Q) : Audited a (get >>= f) Q := by
  intro v w hpaired
  rw [bind_apply, bind_apply, get_apply, get_apply]
  simp only
  rw [hsame v w hpaired.toLevel]
  exact hf v v w hpaired

/-- One of two parts. -/
theorem ite {p : Prop} [Decidable p] {c' : Running α} (hc : p → Audited a c P) (hc' : ¬p → Audited a c' P) :
    Audited a (if p then c else c') P := by
  by_cases hp : p
  · rw [if_pos hp]
    exact hc hp
  · rw [if_neg hp]
    exact hc' hp

/-- Parts one after another: the pages of both were audited. Once the runs have parted, the one without audits
goes on by itself, and finds out as well or comes to its end. -/
theorem bind {f : α → Running β} (hc : Audited a c P)
    (hf : ∀ x pages, P x pages → Audited a (f x) fun y more => Q y (pages ++ more))
    (hyields : ∀ x, Yields (f x)) : Audited a (c >>= f) Q := by
  intro v w hpaired
  have hcompared := hc v w hpaired
  rw [bind_apply, bind_apply]
  generalize c v = off at hcompared ⊢
  generalize c w = on at hcompared ⊢
  cases hcompared with
  | @returned x pages v' w' hpaired' hpages hcommands =>
    have hrest := hf x pages hpages v' w' hpaired'
    simp only
    generalize f x v' = off at hrest ⊢
    generalize f x w' = on at hrest ⊢
    cases hrest with
    | returned hpaired'' hmore hcommands' =>
      refine .returned hpaired'' hmore ?_
      rw [hcommands', hcommands, Auditor.commands_append, List.append_assoc]
    | failed hdisk => exact .failed hdisk
    | parted hdisk hunread => exact .parted hdisk hunread
  | failed hdisk => exact .failed hdisk
  | @parted x e v' w' hdisk hunread =>
    obtain ⟨hdisk', hproject, hfail⟩ := hyields x v' e hunread
    simp only
    rcases hrun : f x v' with ⟨e' | y, v''⟩
    · rw [hrun] at hdisk' hfail
      rw [hfail e' rfl]
      exact .failed (hdisk.trans hdisk'.symm)
    · rw [hrun] at hdisk' hproject
      refine .parted (hdisk.trans hdisk'.symm) ?_
      rw [hdisk', hproject]
      exact hunread

/-- A part for each of some values, where what a part returns are its pages. -/
theorem mapM {f : α → Running (List String)} (hf : ∀ x, Audited a (f x) fun written pages => pages = written)
    (hyields : ∀ x, Yields (f x)) (xs : List α) :
    Audited a (xs.mapM f) fun written pages => pages = written.flatten := by
  induction xs with
  | nil => exact pure rfl
  | cons x xs ih =>
    rw [List.mapM_cons]
    refine bind (hf x) (fun first pages hpages => ?_) fun first =>
      .bind (.mapM hyields xs) fun rest => .pure (first :: rest)
    refine bind ih (fun rest more hmore => pure ?_) fun rest => .pure (first :: rest)
    rw [hpages, hmore, List.append_nil, List.flatten_cons]

/-! ### Building -/

variable (haudits : a.opts.Auditable)
include haudits

/-- A page that was written is audited where pages are audited. It goes with the result, unless it has no
path. -/
theorem auditPage (page : String) :
    Audited a (do
        if (← get).project.audit && !page.isEmpty then
          let _ ← StaticSite.auditPage page
        Pure.pure (some page) : Running (Option String))
      fun target pages => pages = target.toList.filter fun p => !p.isEmpty := by
  intro v w hpaired
  rw [bind_apply, bind_apply, get_apply, get_apply]
  simp only [hpaired.off, hpaired.on, Bool.false_and, Bool.false_eq_true, if_false, Bool.true_and]
  by_cases hempty : page.isEmpty = true
  · simp only [hempty, Bool.not_true, Bool.false_eq_true, if_false]
    exact pure (by simp [hempty]) v w hpaired
  simp only [hempty, Bool.not_false, if_true]
  rw [bind_apply]
  rcases hopts : options v.disk v.project.configDir with e | opts
  · rw [auditPage_of_unread (by rw [hpaired.disk, hpaired.configDir]; exact hopts)]
    exact .parted hpaired.disk hopts
  · obtain rfl := hpaired.options opts hopts
    obtain ⟨passed, messages, results, haudit⟩ :=
      exists_auditPage (by rw [hpaired.disk, hpaired.configDir]; exact hopts) haudits page
    rw [haudit]
    have hpages : [page] = (some page).toList.filter fun p => !p.isEmpty := by simp [hempty]
    refine .returned (hpaired.audited messages results _) hpages ?_
    rw [hpaired.tools, hpaired.disk, hpaired.cwd]

/-- A view is built and its page audited. -/
theorem buildView (path : String) :
    Audited a (buildView path) fun target pages => pages = target.toList.filter fun p => !p.isEmpty := by
  rw [buildView_eq]
  refine .after (.makePage path) fun target _ => ?_
  cases target with
  | none => exact .pure rfl
  | some page => exact auditPage haudits page

/-- A directory is walked. The induction is on the number of nested directories: each child of a directory is
built or walked with audits like without them, until one of them makes the options unreadable. -/
theorem walkAt (n : Nat) (entry : String) (base : Option String) :
    Audited a (walkAt n entry base) fun written pages => pages = written := by
  induction n generalizing entry base with
  | zero => exact .throw _
  | succ n ih =>
    refine .after .currentOptions fun opts _ => .getBind (fun w w' hw' => by simp only [hw'.disk]) fun w =>
      .after (.ofExcept _) fun path _ => .ite (fun _ => ?_) fun _ => ?_
    · refine .bind (buildView haudits path) (fun target pages hpages => .pure ?_) fun _ => .pure _
      rw [List.append_nil, hpages]
    refine .getBind (fun w w' hw' => by simp only [hw'.disk]) fun w =>
      .ite (fun _ => .after (.detail _) fun _ _ => .pure rfl) fun _ => ?_
    refine .getBind (fun w w' hw' => by simp only [hw'.disk]) fun w => ?_
    rcases w.disk.list path with e | children
    · exact .ite (fun _ => .after (.report _) fun _ _ => .pure rfl) fun _ => .throw e
    -- where no more nesting is allowed, the first child is the end
    simp only
    cases n with
    | zero =>
      rcases children.reverse with _ | ⟨child, rest⟩
      · exact .pure rfl
      · rw [List.mapM_cons]
        exact .throw _
    | succ n =>
      refine .bind (.mapM (fun child => ih child _) (fun child => .walkAt n child _) _)
        (fun written pages hpages => .pure ?_) fun _ => .pure _
      rw [List.append_nil, hpages]

/-- A walk ends as it may. -/
theorem walk (entry : String) (base : Option String) :
    Audited a (walk entry base) fun written pages => pages = written :=
  .getBind (fun w w' hw' => by simp only [hw'.disk]) fun _ => walkAt haudits _ entry base

end Audited

/-! ### Walks with and without audits -/

/-- Audits make no difference to a walk: it ends in the same way and leaves the same disk, and if it returns,
each page it returns has been audited once, in the same order. -/
structure World.AuditFree (w : World) (opts : Options) (entry : String) (base : Option String) : Prop where
  /-- The walk comes to the same result or fails in the same way. -/
  result : (walk entry base (w.auditing true)).1 = (walk entry base (w.auditing false)).1
  /-- The disk is the same. -/
  disk : (walk entry base (w.auditing true)).2.disk = (walk entry base (w.auditing false)).2.disk
  /-- The commands that were run are the audits of the pages. -/
  commands : ∀ pages, (walk entry base (w.auditing true)).1 = .ok pages →
    (walk entry base (w.auditing true)).2.commands =
      w.commands ++ Auditor.commands ⟨opts, w.tools, w.disk.cwd⟩ pages

/-- A world with audits beside itself without them. -/
theorem World.Sound.paired (hw : w.Sound) (hopts : options w.disk w.project.configDir = .ok opts) :
    (w.auditing false).Paired ⟨opts, w.tools, w.disk.cwd⟩ (w.auditing true) where
  toLevel := ⟨rfl, rfl, rfl, rfl, rfl⟩
  sound := ⟨hw.wellFormed, hw.cwd, hw.config, hw.spelling⟩
  off := rfl
  on := rfl
  tools := rfl
  cwd := rfl
  options _ h := (Except.ok.inj (hopts.symm.trans h)).symm

/-- Audits make a difference to a walk in one way: without them it returns, but the options cannot be read any
more; with them it fails for that reason, and leaves the same disk. -/
structure World.AuditParted (w : World) (entry : String) (base : Option String) (e : Failure) : Prop where
  /-- The walk without audits returns. -/
  returns : ∃ pages, (walk entry base (w.auditing false)).1 = .ok pages
  /-- It leaves options that cannot be read. -/
  unread : options (walk entry base (w.auditing false)).2.disk
    (walk entry base (w.auditing false)).2.project.configDir = .error e
  /-- The walk with audits fails for that reason. -/
  fails : (walk entry base (w.auditing true)).1 = .error e
  /-- The disk is the same. -/
  disk : (walk entry base (w.auditing true)).2.disk = (walk entry base (w.auditing false)).2.disk

namespace World

/-- A world with two views and a tool that finds issues first and takes too long then. -/
def checkedViews : World where
  disk := ⟨[(["src"], .folder), (["src", "views"], .folder),
    (["src", "views", "a.j2"], .file (.text "a")), (["src", "views", "b.j2"], .file (.text "b"))], "/", "/"⟩
  project := ⟨"/config", false, true⟩
  tools := [("pa11y", "/bin/pa11y")]
  results := [.exit 2 "no title" "", .timeout]

set_option maxRecDepth 100000

/-- A world whose pages go to the configuration directory, with a view in a folder that has the name of a
settings file. -/
def buildingSettings : World where
  disk := ⟨[(["config"], .folder), (["config", "global.yml"], .file (.text "dist: config")),
    (["src"], .folder), (["src", "views"], .folder), (["src", "views", "templates.yml"], .folder),
    (["src", "views", "templates.yml", "b.j2"], .file (.text "b"))], "/", "/"⟩
  project := ⟨"/config", false, true⟩

/-- Without audits the page of the view is returned, with audits nothing is. -/
theorem buildingSettings_facts :
    ∃ opts, options buildingSettings.disk buildingSettings.project.configDir = .ok opts ∧
      opts.views = "/src/views" ∧ opts.Auditable ∧
      (walk "/src/views" none (buildingSettings.auditing false)).1.toOption =
        some ["/config/templates.yml/b.html"] ∧
      (walk "/src/views" none (buildingSettings.auditing true)).1.toOption = none :=
  exists_options (by decide +kernel)

end World

end StaticSite
