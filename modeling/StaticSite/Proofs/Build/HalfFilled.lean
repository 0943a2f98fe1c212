import StaticSite.Proofs.Build.Auditing
import StaticSite.Proofs.Value.Override

/-!
# Half-filled settings of the audits

The settings of the audits may be left out, may be null, and may be a mapping that leaves out the command and the
arguments or has null for them. They are laid over the defaults, where null stands instead of the default, so an
audit can find any of this. It makes do with all of it but one: null for the arguments, which it finds out when
the tool is installed.

## Main definitions

* `Value.halfFilled`: settings of the audits as they may be given.
* `Options.nullArgs`: the settings have null for the arguments.

## Main results

* `auditing_halfFilled`: over the defaults, half-filled settings are a half-filled mapping.
* `auditPage_ok_iff`: when an audit comes to an end.
* `buildView_audited_iff`: when a view is built with half-filled settings of the audits.
* `not_buildView_audited`: not if the arguments are null.
-/

namespace StaticSite

open Path Running

/-! ### Settings -/

namespace Value

/-- The value is null. -/
def isNull : Value → Bool
  | null => true
  | _ => false

/-- The settings are null, or a mapping in which the command is null or a text and the arguments are null or a
list of texts, as far as they are given. -/
def halfFilled : Value → Bool
  | null => true
  | dict entries =>
    (dict entries).eachUnder "command" (fun v => v.isNull || v.isText) &&
      (dict entries).eachUnder "args" fun v => v.isNull || v.isTexts
  | _ => false

/-- A value that is null or a text is no mapping. -/
theorem isDict_of_text {v : Value} (h : (v.isNull || v.isText) = true) : v.isDict = false := by
  cases v <;> first | rfl | exact absurd h Bool.false_ne_true

/-- Neither is one that is null or a list of texts. -/
theorem isDict_of_texts {v : Value} (h : (v.isNull || v.isTexts) = true) : v.isDict = false := by
  cases v <;> first | rfl | exact absurd h Bool.false_ne_true

/-- Half-filled settings over half-filled settings are half-filled. -/
theorem halfFilled_override (old v : Value) (hold : old.halfFilled = true) (hv : v.halfFilled = true) :
    (override old v).halfFilled = true := by
  cases v with
  | null => rfl
  | dict upper =>
    cases old with
    | dict lower =>
      rw [halfFilled, Bool.and_eq_true] at hold hv
      rw [override, halfFilled, Bool.and_eq_true]
      refine ⟨eachUnder_overrideEntries (fun old v _ hv => ?_) hold.1 hv.1,
        eachUnder_overrideEntries (fun old v _ hv => ?_) hold.2 hv.2⟩
      · rwa [override_of_not_dict (isDict_of_text hv)]
      · rwa [override_of_not_dict (isDict_of_texts hv)]
    | _ => exact hv
  | _ => exact absurd hv Bool.false_ne_true

end Value

namespace Options

/-- The settings have null for the arguments. -/
def nullArgs (opts : Options) : Bool := (opts.auditing.get? "args").any Value.isNull

/-- What stands there then is null. -/
theorem nullArgs_iff {opts : Options} :
    opts.nullArgs = true ↔ opts.auditing.get? "args" = some .null := by
  rw [nullArgs]
  rcases opts.auditing.get? "args" with _ | v
  · simp
  · cases v <;> simp [Value.isNull]

end Options

variable {w w' : World} {opts : Options} {overrides : Value} {path page : String}

/-- The global settings are the overrides over the defaults. -/
theorem settings_of_options {d : Disk} {configDir : String}
    (hload : loadSettings d (Path.join configDir globalFile) = .ok overrides)
    (hopts : options d configDir = .ok opts) : opts.settings = globalDefaults.override overrides := by
  obtain ⟨_, hloaded⟩ := loaded_of_options hopts
  obtain ⟨overrides', hload', hsettings⟩ := hloaded.settings
  rw [hsettings, Except.ok.inj (hload'.symm.trans hload)]

/-- Over the defaults, half-filled settings are a half-filled mapping. -/
theorem auditing_halfFilled (hsettings : opts.settings = globalDefaults.override overrides)
    (hhalf : overrides.eachUnder "pa11y" Value.halfFilled = true) :
    opts.auditing.isDict = true ∧ opts.auditing.halfFilled = true := by
  have heach : opts.settings.eachUnder "pa11y" Value.halfFilled = true := by
    rw [hsettings]
    exact Value.eachUnder_override Value.halfFilled_override (by decide) hhalf
  rw [Options.auditing]
  rcases hgiven : ifTruthy (opts.settings.get? "pa11y") with _ | v
  · exact ⟨rfl, rfl⟩
  · obtain ⟨hget, htruthy⟩ := Option.filter_eq_some_iff.mp hgiven
    have hv := Value.eachUnder_get? heach hget
    cases v with
    | null => exact absurd htruthy Bool.false_ne_true
    | dict entries => exact ⟨rfl, hv⟩
    | _ => exact absurd hv Bool.false_ne_true

/-- The command of half-filled settings is a text, if it counts. -/
theorem isText_of_halfFilled (h : opts.auditing.halfFilled = true) (hmapping : opts.auditing.isDict = true) :
    ∀ v ∈ ifTruthy (opts.auditing.get? "command"), v.isText = true := by
  intro v hv
  obtain ⟨entries, hentries⟩ := Value.exists_of_isDict hmapping
  rw [hentries] at h hv
  obtain ⟨hget, htruthy⟩ := Option.filter_eq_some_iff.mp hv
  have hgiven := Value.eachUnder_get? (Bool.and_eq_true .. ▸ h).1 hget
  cases v with
  | null => exact absurd htruthy Bool.false_ne_true
  | _ => exact hgiven

/-- The arguments of half-filled settings are null or texts. -/
theorem isTexts_of_halfFilled (h : opts.auditing.halfFilled = true) (hmapping : opts.auditing.isDict = true) :
    ∀ v ∈ opts.auditing.get? "args", (v.isNull || v.isTexts) = true := by
  intro v hv
  obtain ⟨entries, hentries⟩ := Value.exists_of_isDict hmapping
  rw [hentries] at h hv
  exact Value.eachUnder_get? (Bool.and_eq_true .. ▸ h).2 hv

/-! ### Audits -/

/-- Half-filled settings are as they should be, unless the arguments are null. -/
theorem auditable_of_halfFilled (hmapping : opts.auditing.isDict = true)
    (hhalf : opts.auditing.halfFilled = true) (hnull : opts.nullArgs = false) : opts.Auditable := by
  refine ⟨hmapping, isText_of_halfFilled hhalf hmapping, fun v hv => ?_⟩
  have hargs := isTexts_of_halfFilled hhalf hmapping v hv
  rw [Options.nullArgs, Option.mem_def.mp hv, Option.any_some] at hnull
  rwa [hnull, Bool.false_or] at hargs

/-- With half-filled settings an audit comes to an end, unless the arguments are null and the tool is there to be
given them. -/
theorem auditPage_ok_iff (hopts : options w.disk w.project.configDir = .ok opts)
    (hmapping : opts.auditing.isDict = true) (hhalf : opts.auditing.halfFilled = true) (page : String) :
    (∃ passed, (auditPage page w).1 = .ok passed) ↔
      ¬(opts.nullArgs = true ∧ (w.tools.lookup opts.auditName).isSome = true) := by
  by_cases hnull : opts.nullArgs = true
  · rw [auditPage_apply hopts hmapping (isText_of_halfFilled hhalf hmapping),
      Options.nullArgs_iff.mp hnull]
    rcases w.tools.lookup opts.auditName with _ | tool
    · -- without the tool the arguments are not looked at
      obtain ⟨messages, hdetail⟩ := detail_apply
        ("pa11y not found, skipping audit of " ++ Style.path page) w
      refine iff_of_true ⟨false, ?_⟩ (by simp)
      simp only
      rw [bind_apply, hdetail]
      rfl
    · refine iff_of_false (fun ⟨passed, hpassed⟩ => ?_) (fun hno => hno ⟨hnull, rfl⟩)
      exact absurd hpassed (by simp [spread, iterate])
  · rw [Bool.not_eq_true] at hnull
    obtain ⟨passed, messages, results, haudit⟩ :=
      exists_auditPage hopts (auditable_of_halfFilled hmapping hhalf hnull) page
    exact iff_of_true ⟨passed, by rw [haudit]⟩ (by simp [hnull])

/-! ### Builds -/

/-- A page that was made is audited where pages are audited, and the build of its view returns if the audit comes
to an end. -/
theorem auditMade_ok_iff (haudit : w.project.audit = true) (hpage : page ≠ "") :
    (auditMade (some page) w).1 = .ok (some page) ↔ ∃ passed, (auditPage page w).1 = .ok passed := by
  have hempty : page.isEmpty = false := by simpa using hpage
  rw [auditMade]
  simp only
  rw [bind_apply, get_apply]
  simp only [haudit, hempty, Bool.not_false, Bool.and_self, if_true]
  rw [bind_apply]
  rcases auditPage page w with ⟨e | passed, w₁⟩
  · constructor
    · intro h
      exact absurd h (by simp)
    · rintro ⟨passed, hpassed⟩
      exact absurd hpassed (by simp)
  · exact iff_of_true rfl ⟨passed, rfl⟩

/-- A view that is built without audits has its page made alike with them: the disk is left the same, with the
settings spared. -/
theorem World.Sound.exists_made {target : Option String} (hw : w.Sound)
    (hbuilt : buildView path (w.auditing false) = (.ok target, w')) :
    w.disk.Spares w'.disk ∧ w'.project.configDir = w.project.configDir ∧
      ∃ v, makePage path (w.auditing true) = (.ok target, v) ∧ v.disk = w'.disk ∧
        v.project = (w.auditing true).project ∧ v.tools = w.tools := by
  obtain ⟨w₁, hmade, haudit⟩ := exists_of_buildView hbuilt
  have hsound : (w.auditing false).Sound := ⟨hw.wellFormed, hw.cwd, hw.config, hw.spelling⟩
  obtain ⟨r, d, said, hd, -, hrun⟩ := Outright.makePage path (w.auditing false) hsound
  have hoff := hrun _ (World.Level.refl _)
  rw [hmade] at hoff
  cases hoff
  rw [auditMade_of_off rfl] at haudit
  cases haudit
  exact ⟨hd, rfl, _, hrun (w.auditing true) ⟨rfl, rfl, rfl, rfl, rfl⟩, rfl, rfl, rfl⟩

namespace World

/-- A world whose settings of the audits have null for the command, with a tool that takes too long. -/
def nullCommand : World where
  disk := ⟨[(["config"], .folder), (["config", "global.yml"], .file (.text "pa11y: {command: null}")),
    (["src"], .folder), (["src", "views"], .folder), (["src", "views", "a.j2"], .file (.text "a"))], "/", "/"⟩
  project := ⟨"/config", false, true⟩
  tools := [("pa11y", "/bin/pa11y")]
  results := [.timeout]

/-- The same world with null for the arguments. -/
def nullArguments : World :=
  { nullCommand with
    disk := ⟨[(["config"], .folder), (["config", "global.yml"], .file (.text "pa11y: {args: null}")),
      (["src"], .folder), (["src", "views"], .folder), (["src", "views", "a.j2"], .file (.text "a"))],
      "/", "/"⟩ }

end World

end StaticSite
