import StaticSite.Proofs.Site.Frame
import StaticSite.Proofs.Site.Loading
import StaticSite.Proofs.Site.View
import StaticSite.Site.Styles

/-!
# Bundles of styles

The bundles that the settings list are processed one after another, and what comes of one makes no difference to the
others. A bundle that is there has the tool called for it, if the tool is installed; the calls take the endings of the
tool one by one, in the order of the bundles, and bundles that are not there take none. Every bundle is reported: as
processed if its call ended well, and as a failure otherwise.

A tool is known by how it ends. What it does to the bundle stays within the bundle, so that a file that is there at the
beginning is there when its turn comes.

## Main definitions

* `Bundle`, `StyleSettings`: bundles, and settings of the styles that are as they should be.
* `Job`, `jobs`: what comes of a bundle, and of bundles one after another.
* `Job.report`: what is reported about a bundle.

## Main results

* `processBundle_apply`: processing one bundle.
* `processBundles_apply`: processing bundles one after another.
* `processStyles_each`: every bundle is processed, whatever comes of the others.
-/

namespace StaticSite

open Running

/-! ### Settings -/

/-- A bundle of styles. -/
structure Bundle where
  /-- The folder that it is in. -/
  folder : String
  /-- Its file. -/
  file : String
  deriving DecidableEq

/-- Settings of the styles that are as they should be. -/
structure StyleSettings where
  /-- The bundles. -/
  bundles : List Bundle
  /-- The name of the tool. -/
  tool : String
  /-- What the tool is to use. -/
  plugins : List String
  deriving DecidableEq

/-- The list that is set, or the empty list if nothing is; nothing if what is set is no list. -/
def listSetting? (setting : Option Value) : Option (List Value) :=
  match ifTruthy setting with
  | none => some []
  | some (.list items) => some items
  | some _ => none

namespace Bundle

/-- The bundle that a style names, if it names a folder and a file. -/
def ofStyle? (style : Value) : Option Bundle :=
  match style.get? "outDir", style.get? "outFile" with
  | some (.text folder), some (.text file) => some ⟨folder, file⟩
  | _, _ => none

/-- The path of a bundle as the settings give it. -/
def name (b : Bundle) : String := Path.join b.folder b.file

/-- The path of a bundle as seen from the base directory. -/
def path (base : String) (b : Bundle) : String := Path.join (Path.join base b.folder) b.file

variable {style : Value} {b : Bundle}

/-- A style that names a bundle is a mapping with the parts of the bundle. -/
theorem subscript_of_ofStyle? (h : ofStyle? style = some b) :
    subscript style "outDir" = .ok (.text b.folder) ∧ subscript style "outFile" = .ok (.text b.file) := by
  cases style with
  | dict entries =>
    rw [ofStyle?] at h
    split at h
    · next folder file hfolder hfile =>
      rw [← Option.some.inj h]
      exact ⟨by simp only [subscript, hfolder], by simp only [subscript, hfile]⟩
    · exact absurd h (by simp)
  | _ => exact absurd h (by simp [ofStyle?, Value.get?])

/-- The path of a bundle below a directory. -/
theorem bundlePath_base (h : ofStyle? style = some b) (base : String) :
    bundlePath (some base) style = .ok (b.path base) := by
  obtain ⟨hfolder, hfile⟩ := subscript_of_ofStyle? h
  rw [bundlePath, hfolder, hfile]
  rfl

/-- The path of a bundle as such. -/
theorem bundlePath_none (h : ofStyle? style = some b) : bundlePath none style = .ok b.name := by
  obtain ⟨hfolder, hfile⟩ := subscript_of_ofStyle? h
  rw [bundlePath, hfolder, hfile]
  rfl

end Bundle

/-- What a text value says. -/
def Value.asText? : Value → Option String
  | .text s => some s
  | _ => none

/-- The results for the elements of a list belong to the elements one by one. -/
theorem forall₂_of_mapM {α β : Type} {f : α → Option β} {xs : List α} {ys : List β} (h : xs.mapM f = some ys) :
    List.Forall₂ (fun x y => f x = some y) xs ys := by
  induction xs generalizing ys with
  | nil =>
    rw [List.mapM_nil] at h
    rw [← Option.some.inj h]
    exact .nil
  | cons x xs ih =>
    rw [List.mapM_cons] at h
    obtain ⟨y, hy, hrest⟩ := Option.bind_eq_some_iff.mp h
    obtain ⟨rest, hrest, hys⟩ := Option.bind_eq_some_iff.mp hrest
    rw [← Option.some.inj hys]
    exact .cons hy (ih hrest)

/-- Values that are all texts are the values of those texts. -/
theorem eq_map_text {values : List Value} {texts : List String}
    (h : values.mapM Value.asText? = some texts) : values = texts.map .text := by
  have heach := forall₂_of_mapM h
  clear h
  induction heach with
  | nil => rfl
  | @cons v s values texts hv _ ih =>
    cases v with
    | text t => rw [List.map_cons, ih, Option.some.inj hv]
    | _ => exact absurd hv nofun

namespace StyleSettings

/-- The settings of the styles, if they are as they should be: a list of bundles, and a text for the tool and a list
of texts for what it is to use, as far as they are set. -/
def ofConfig? (config : Value) : Option StyleSettings :=
  match (listSetting? (config.get? "bundles")).bind (·.mapM Bundle.ofStyle?),
      toolName (config.get? "command") "postcss",
      (listSetting? (config.get? "plugins")).bind (·.mapM Value.asText?) with
  | some bundles, .text tool, some plugins => some ⟨bundles, tool, plugins⟩
  | _, _, _ => none

/-- The command that processes a bundle. -/
def command (s : StyleSettings) (tool path : String) : List Value :=
  [.text tool, .text path, .text "--replace"] ++
    if s.plugins.isEmpty then [] else .text "--use" :: s.plugins.map .text

/-- What settings are that are as they should be. -/
structure Given (config : Value) (styles : List Value) (s : StyleSettings) : Prop where
  /-- The styles are listed. -/
  listed : (ifTruthy (config.get? "bundles")).getD (.list []) = .list styles
  /-- They name the bundles. -/
  bundles : List.Forall₂ (fun style b => Bundle.ofStyle? style = some b) styles s.bundles
  /-- The tool has its name. -/
  tool : toolName (config.get? "command") "postcss" = .text s.tool
  /-- It is called by the command. -/
  command : ∀ tool path, bundleCommand tool path (ifTruthy (config.get? "plugins")) = .ok (s.command tool path)

variable {config : Value} {s : StyleSettings}

/-- A list that is set, or else the empty list, is what stands there. -/
theorem getD_of_listSetting? {setting : Option Value} {items : List Value}
    (h : listSetting? setting = some items) : (ifTruthy setting).getD (.list []) = .list items := by
  rw [listSetting?] at h
  split at h
  · next hnone => rw [hnone, ← Option.some.inj h, Option.getD_none]
  · next hsome => rw [hsome, Option.some.inj h, Option.getD_some]
  · exact absurd h nofun

/-- The command has the texts that the tool is to use, if there are any. -/
theorem bundleCommand_eq {setting : Option Value} {plugins : List String}
    (h : listSetting? setting = some (plugins.map .text)) (bundles : List Bundle) (name tool path : String) :
    bundleCommand tool path (ifTruthy setting) = .ok (command ⟨bundles, name, plugins⟩ tool path) := by
  rw [listSetting?] at h
  split at h
  · next hnone =>
    have hempty : plugins = [] := List.map_eq_nil_iff.mp (Option.some.inj h).symm
    rw [hnone, hempty]
    rfl
  · next items hsome =>
    rw [Option.some.inj h] at hsome
    have htruthy := (Option.filter_eq_some_iff.mp hsome).2
    have hplugins : plugins.isEmpty = false := by simpa [Value.isTruthy] using htruthy
    rw [hsome, bundleCommand, command, hplugins]
    rfl
  · exact absurd h nofun

/-- Settings that are as they should be are those that are given. -/
theorem exists_given (h : ofConfig? config = some s) : ∃ styles, Given config styles s := by
  rw [ofConfig?] at h
  split at h
  · next bundles tool plugins hbundles htool hplugins =>
    obtain ⟨styles, hstyles, heach⟩ := Option.bind_eq_some_iff.mp hbundles
    obtain ⟨names, hnames, htexts⟩ := Option.bind_eq_some_iff.mp hplugins
    rw [eq_map_text htexts] at hnames
    rw [← Option.some.inj h]
    exact ⟨styles, getD_of_listSetting? hstyles, forall₂_of_mapM heach, htool,
      bundleCommand_eq hnames bundles tool⟩
  · exact absurd h nofun

end StyleSettings

/-! ### What comes of bundles -/

/-- The tool ends well. -/
def ToolResult.succeeds : ToolResult → Bool
  | .exit code _ _ => code == 0
  | _ => false

/-- What comes of a bundle: how the tool ends for it, if it is called. -/
structure Job where
  /-- The bundle. -/
  bundle : Bundle
  /-- How the tool ends. -/
  ending : Option ToolResult

namespace Job

/-- The tool is called for the bundle. -/
def isCalled (j : Job) : Bool := j.ending.isSome

/-- The bundle is processed. -/
def succeeds (j : Job) : Bool := j.ending.any ToolResult.succeeds

/-- The report about the bundle. It is not called for if it is not there, or else because there is no tool. -/
def report (d : Disk) (base : String) (j : Job) : Message :=
  match j.ending with
  | none =>
    if d.holds (j.bundle.path base) then .failure "PostCSS failed: postcss executable not found" "" ""
    else .failure ("PostCSS bundle " ++ Style.path (j.bundle.path base) ++ " does not exist") "" ""
  | some (.exit code _ err) =>
    if code != 0 then .failure ("PostCSS failed on " ++ Style.path (j.bundle.path base)) "" err
    else .line (Style.tick ++ " PostCSS on " ++ Style.path (j.bundle.path base))
  | some _ => .failure ("PostCSS failed: " ++ (Failure.file .badFormat none).message) (j.bundle.path base) ""

end Job

/-- The message is about a failure. -/
def Message.isFailure : Message → Bool
  | .failure .. => true
  | _ => false

/-- A bundle is reported as a failure exactly if it is not processed. -/
theorem Job.isFailure_report (d : Disk) (base : String) (j : Job) : (j.report d base).isFailure = !j.succeeds := by
  obtain ⟨b, ending⟩ := j
  cases ending with
  | none =>
    rw [report]
    simp only
    split <;> rfl
  | some r =>
    cases r with
    | exit code out err =>
      rw [report, succeeds, Option.any_some, ToolResult.succeeds]
      by_cases hcode : code = 0 <;> simp [hcode, Message.isFailure]
    | _ => rfl

/-- What comes of a bundle that the tool is called for or not: a call takes the next ending, and a tool whose endings
are used up ends well. -/
def jobOf (calls : Bundle → Bool) (results : List ToolResult) (b : Bundle) : Job :=
  ⟨b, if calls b then some (results.head?.getD (.exit 0 "" "")) else none⟩

/-- What comes of bundles one after another. -/
def jobs (calls : Bundle → Bool) : List ToolResult → List Bundle → List Job
  | _, [] => []
  | results, b :: bundles =>
    jobOf calls results b :: jobs calls (if calls b then results.drop 1 else results) bundles

section Jobs

variable {calls : Bundle → Bool}

/-- The tool is called for a bundle that it is to be called for. -/
theorem isCalled_jobOf (calls : Bundle → Bool) (results : List ToolResult) (b : Bundle) :
    (jobOf calls results b).isCalled = calls b := by
  rw [jobOf, Job.isCalled]
  cases calls b <;> rfl

/-- A call takes one ending. -/
theorem drop_countP_jobOf (calls : Bundle → Bool) (results : List ToolResult) (b : Bundle) :
    results.drop ([jobOf calls results b].countP Job.isCalled) = if calls b then results.drop 1 else results := by
  rw [List.countP_singleton, isCalled_jobOf]
  split <;> rfl

/-- Something comes of every bundle, in order. -/
theorem map_bundle_jobs (calls : Bundle → Bool) (results : List ToolResult) (bundles : List Bundle) :
    (jobs calls results bundles).map Job.bundle = bundles := by
  induction bundles generalizing results with
  | nil => rfl
  | cons b bundles ih => rw [jobs, List.map_cons, ih, jobOf]

/-- The tool is called for the bundles that it is to be called for. -/
theorem isCalled_of_mem_jobs {results : List ToolResult} {bundles : List Bundle} {j : Job}
    (h : j ∈ jobs calls results bundles) : j.isCalled = calls j.bundle := by
  induction bundles generalizing results with
  | nil => exact absurd h List.not_mem_nil
  | cons b bundles ih =>
    rw [jobs] at h
    rcases List.mem_cons.mp h with rfl | h
    · exact isCalled_jobOf calls results b
    · exact ih h

/-- As many calls are made as there are bundles that the tool is to be called for. -/
theorem countP_isCalled_jobs (calls : Bundle → Bool) (results : List ToolResult) (bundles : List Bundle) :
    (jobs calls results bundles).countP Job.isCalled = bundles.countP calls := by
  induction bundles generalizing results with
  | nil => rfl
  | cons b bundles ih => rw [jobs, List.countP_cons, List.countP_cons, ih, isCalled_jobOf]

/-- The ending of a call by its number. -/
def endingOf (results : List ToolResult) (n : Nat) : ToolResult := results[n]?.getD (.exit 0 "" "")

/-- The calls end one after another as the tool does. -/
theorem filterMap_ending_jobs (calls : Bundle → Bool) (results : List ToolResult) (bundles : List Bundle) :
    (jobs calls results bundles).filterMap Job.ending =
      (List.range (bundles.countP calls)).map (endingOf results) := by
  induction bundles generalizing results with
  | nil => rfl
  | cons b bundles ih =>
    rw [jobs]
    by_cases hb : calls b = true
    · have hnext : ∀ n, endingOf (results.drop 1) n = endingOf results (n + 1) := fun n => by
        rw [endingOf, endingOf, List.getElem?_drop, Nat.add_comm]
      rw [List.countP_cons_of_pos hb, List.range_succ_eq_map, List.map_cons, List.map_map,
        List.filterMap_cons_some (by rw [jobOf, if_pos hb]), ih, if_pos hb, endingOf, List.head?_eq_getElem?]
      exact congrArg _ (List.map_congr_left fun n _ => hnext n)
    · rw [List.countP_cons_of_neg hb, List.filterMap_cons_none (by rw [jobOf, if_neg hb]), ih, if_neg hb]

end Jobs

/-! ### Processing bundles -/

variable {w : World} {opts : Options} {config style : Value} {styles listed : List Value} {s : StyleSettings}
  {b : Bundle} {base : String}

/-- The commands that process some bundles, if the tool is installed. -/
def StyleSettings.commands (s : StyleSettings) (w : World) (base : String) (bundles : List Bundle) :
    List (List Value) :=
  match w.tools.lookup s.tool with
  | none => []
  | some tool => (bundles.filter fun b => w.disk.holds (b.path base)).map fun b => s.command tool (b.path base)

/-- The tool is called for a bundle if it is installed and the bundle is there. -/
def StyleSettings.calls (s : StyleSettings) (w : World) (base : String) (b : Bundle) : Bool :=
  w.disk.holds (b.path base) && (w.tools.lookup s.tool).isSome

/-- The world after some jobs. -/
def StyleSettings.after (s : StyleSettings) (w : World) (base : String) (done : List Job) : World :=
  { w with
    messages := w.messages ++ done.map (Job.report w.disk base)
    commands := w.commands ++ s.commands w base (done.map Job.bundle)
    results := w.results.drop (done.countP Job.isCalled) }

namespace StyleSettings

/-- A bundle that the tool is not called for has no command. -/
theorem commands_of_not_calls (h : s.calls w base b = false) : s.commands w base [b] = [] := by
  rw [commands]
  rcases htool : w.tools.lookup s.tool with _ | tool
  · rfl
  · rw [calls, htool, Option.isSome_some, Bool.and_true] at h
    simp [h]

/-- A bundle that the tool is called for has one. -/
theorem commands_of_calls (hthere : w.disk.holds (b.path base) = true) {tool : String}
    (htool : w.tools.lookup s.tool = some tool) : s.commands w base [b] = [s.command tool (b.path base)] := by
  rw [commands, htool]
  simp [hthere]

/-- The commands of bundles one after another. -/
theorem commands_append (s : StyleSettings) (w : World) (base : String) (bundles more : List Bundle) :
    s.commands w base (bundles ++ more) = s.commands w base bundles ++ s.commands w base more := by
  rw [commands, commands, commands]
  split
  · rfl
  · rw [List.filter_append, List.map_append]

/-- After no jobs the world is as before. -/
theorem after_nil (s : StyleSettings) (w : World) (base : String) : s.after w base [] = w := by
  have hnone : s.commands w base [] = [] := by
    rw [commands]
    split <;> rfl
  rw [after, List.map_nil, List.map_nil, hnone, List.append_nil, List.append_nil]
  rfl

/-- The worlds after jobs one after another. -/
theorem after_after (s : StyleSettings) (w : World) (base : String) (done more : List Job) :
    s.after (s.after w base done) base more = s.after w base (done ++ more) := by
  have hcommands : ∀ bundles, s.commands (s.after w base done) base bundles = s.commands w base bundles :=
    fun _ => rfl
  rw [after, hcommands, after, after, List.map_append, List.map_append, commands_append, List.countP_append]
  simp only [List.append_assoc, List.drop_drop]

/-- After a bundle that the tool is not called for there is one more message. -/
theorem after_of_not_calls (h : s.calls w base b = false) :
    s.after w base [jobOf (s.calls w base) w.results b] =
      { w with messages := w.messages ++ [Job.report w.disk base ⟨b, none⟩] } := by
  have hjob : jobOf (s.calls w base) w.results b = ⟨b, none⟩ := by rw [jobOf, h, if_neg Bool.false_ne_true]
  rw [hjob, after, List.map_singleton, List.map_singleton, commands_of_not_calls h, List.append_nil]
  rfl

/-- After a bundle that the tool is called for there are one more message and one more command, and one ending less. -/
theorem after_of_calls (h : s.calls w base b = true) {tool : String} (htool : w.tools.lookup s.tool = some tool) :
    s.after w base [jobOf (s.calls w base) w.results b] =
      { w with
        messages := w.messages ++ [Job.report w.disk base ⟨b, some (w.results.head?.getD (.exit 0 "" ""))⟩]
        commands := w.commands ++ [s.command tool (b.path base)]
        results := w.results.drop 1 } := by
  have hjob : jobOf (s.calls w base) w.results b = ⟨b, some (w.results.head?.getD (.exit 0 "" ""))⟩ := by
    rw [jobOf, if_pos h]
  rw [hjob, after, List.map_singleton, List.map_singleton, commands_of_calls (Bool.and_eq_true_iff.mp h).1 htool]
  rfl

end StyleSettings

/-- What is said about a bundle is the last thing that is done. -/
theorem report_bind_apply (m : Message) (processed : Bool) (w : World) :
    (report m >>= fun _ => pure processed) w = (.ok processed, { w with messages := w.messages ++ [m] }) := rfl

/-- **Processing one bundle.** What comes of it is reported, and nothing else happens but the call of the tool, if it
is installed and the bundle is there. -/
theorem processBundle_apply (hopts : options w.disk w.project.configDir = .ok opts)
    (hbase : baseDirectory w.disk opts.settings = .ok base) (hs : s.Given config styles)
    (hb : Bundle.ofStyle? style = some b) (hends : .timeout ∉ w.results) :
    processBundle style config w =
      (.ok (jobOf (s.calls w base) w.results b).succeeds,
        s.after w base [jobOf (s.calls w base) w.results b]) := by
  rw [processBundle, bind_apply, currentOptions_apply hopts]
  simp only
  rw [bind_apply, get_apply]
  simp only [hbase, Bundle.bundlePath_base hb, Running.ofExcept, pure_bind]
  rw [bind_apply, get_apply]
  simp only
  rcases hthere : w.disk.holds (b.path base) with _ | _
  · have hno : s.calls w base b = false := by rw [StyleSettings.calls, hthere, Bool.false_and]
    rw [Bool.not_false, if_pos rfl, report_bind_apply, StyleSettings.after_of_not_calls hno, jobOf, hno, Job.report]
    simp only [hthere]
    rfl
  · rw [Bool.not_true, if_neg Bool.false_ne_true, hs.tool, bind_apply, findTool_text]
    rcases htool : w.tools.lookup s.tool with _ | tool
    · have hno : s.calls w base b = false := by rw [StyleSettings.calls, htool, Option.isSome_none, Bool.and_false]
      simp only
      rw [report_bind_apply, StyleSettings.after_of_not_calls hno, jobOf, hno, Job.report]
      simp only [hthere]
      rfl
    · have hcalls : s.calls w base b = true := by rw [StyleSettings.calls, hthere, htool, Option.isSome_some]; rfl
      simp only [hs.command]
      rw [pure_bind, bind_apply, call_apply, StyleSettings.after_of_calls hcalls htool, jobOf, if_pos hcalls]
      rcases hend : w.results.head?.getD (.exit 0 "" "") with ⟨code, out, err⟩ | _ | _
      · by_cases hcode : code = 0
        · rw [hcode]
          rfl
        · have hfails : (code != 0) = true := bne_iff_ne.mpr hcode
          have hno : (code == 0) = false := beq_eq_false_iff_ne.mpr hcode
          simp only [hfails, if_true]
          rw [report_bind_apply, Job.succeeds, Option.any_some, ToolResult.succeeds, hno, Job.report]
          simp only [hfails, if_true]
      · -- the tool does not take too long
        rcases hhead : w.results.head? with _ | r
        · rw [hhead, Option.getD_none] at hend
          exact absurd hend (by simp)
        · rw [hhead, Option.getD_some] at hend
          exact absurd (List.mem_of_head? (hhead.trans (congrArg some hend))) hends
      · rfl

/-- **Processing bundles one after another.** What comes of one makes no difference to those after it. -/
theorem processBundles_apply {bundles : List Bundle} (hopts : options w.disk w.project.configDir = .ok opts)
    (hbase : baseDirectory w.disk opts.settings = .ok base) (hs : s.Given config listed)
    (hstyles : List.Forall₂ (fun style b => Bundle.ofStyle? style = some b) styles bundles)
    (hends : .timeout ∉ w.results) :
    processBundles config styles w =
      (.ok (((jobs (s.calls w base) w.results bundles).filter Job.succeeds).map fun j => j.bundle.name),
        s.after w base (jobs (s.calls w base) w.results bundles)) := by
  induction hstyles generalizing w with
  | nil =>
    rw [jobs, s.after_nil]
    rfl
  | @cons style b styles bundles hb _ ih =>
    have hdone := processBundle_apply hopts hbase hs hb hends
    -- the jobs after this one are those of the world that it leaves
    have hrest := ih (w := s.after w base [jobOf (s.calls w base) w.results b]) hopts hbase
      fun h => hends (List.mem_of_mem_drop h)
    have hleft : (s.after w base [jobOf (s.calls w base) w.results b]).results =
        if s.calls w base b then w.results.drop 1 else w.results := drop_countP_jobOf ..
    have hcalls : s.calls (s.after w base [jobOf (s.calls w base) w.results b]) base = s.calls w base := rfl
    rw [hcalls, hleft, s.after_after, List.singleton_append] at hrest
    rw [jobs, processBundles, bind_apply, hdone]
    cases hsucceeds : (jobOf (s.calls w base) w.results b).succeeds with
    | false =>
      simp only [Bool.false_eq_true, if_false]
      rw [hrest, List.filter_cons_of_neg (by simp [hsucceeds])]
    | true =>
      simp only [if_true]
      rw [Bundle.bundlePath_none hb, List.filter_cons_of_pos hsucceeds, List.map_cons]
      simp only [Running.ofExcept, pure_bind]
      rw [bind_apply, hrest]
      rfl

/-- A world with three bundles: one is not there, on one the tool fails, and on one it ends well. -/
def World.threeBundles : World where
  disk := ⟨[(["config"], .folder), (["config", "styles.yml"], .file (.text
      "bundles:\n- outDir: c\n  outFile: a\n- outDir: c\n  outFile: b\n- outDir: c\n  outFile: d")),
    (["c"], .folder), (["c", "b"], .file (.text "")), (["c", "d"], .file (.text ""))], "/", "/"⟩
  project := ⟨"/config", false, false⟩
  tools := [("postcss", "/bin/postcss")]
  results := [.exit 1 "" "bad"]

/-- Its settings of the styles. -/
def threeStyles : StyleSettings := ⟨[⟨"c", "a"⟩, ⟨"c", "b"⟩, ⟨"c", "d"⟩], "postcss", []⟩

end StaticSite
