import StaticSite.Site.Audit

/-!
# Post-processing style bundles

Every configured bundle of styles is processed in place by an external tool. A bundle that fails is
reported and does not stop the others.

## Main definitions

* `processBundle`: process one bundle; whether it went well.
* `processStyles`: process every bundle, and say which went well.
-/

namespace StaticSite

open Running

/-- The name of the file of style settings. -/
def stylesFile : String := "styles.yml"

/-- The path of a bundle below a directory, or its path as such. -/
def bundlePath (base : Option String) (style : Value) : Except Failure String := do
  let folder ← subscript style "outDir"
  let file ← subscript style "outFile"
  let start ← match base with
    | some b => joinValue b folder
    | none =>
      match folder with
      | .text s => pure s
      | other => .error (notAPath other)
  joinValue start file

/-- The arguments of the tool for a bundle. -/
def bundleCommand (tool bundle : String) (plugins : Option Value) : Except Failure (List Value) :=
  let command := [.text tool, .text bundle, .text "--replace"]
  match plugins with
  | none => .ok command
  | some v => (spread v).map fun names => command ++ .text "--use" :: names

/-- Process a bundle; whether it went well. -/
def processBundle (style config : Value) : Running Bool := do
  let opts ← currentOptions
  let base ← Running.ofExcept (baseDirectory (← get).disk opts.settings)
  let bundle ← Running.ofExcept (bundlePath (some base) style)
  if !(← get).disk.holds bundle then
    report (.failure ("PostCSS bundle " ++ Style.path bundle ++ " does not exist") "" "")
    pure false
  else
    match (← findTool (toolName (config.get? "command") "postcss")) with
    | none =>
      report (.failure "PostCSS failed: postcss executable not found" "" "")
      pure false
    | some tool =>
      let command ← Running.ofExcept (bundleCommand tool bundle (ifTruthy (config.get? "plugins")))
      match (← call command) with
      | .timeout => throw .timeout
      | .broken =>
        report (.failure ("PostCSS failed: " ++ (Failure.file .badFormat none).message) bundle "")
        pure false
      | .exit code _ err =>
        if code != 0 then
          report (.failure ("PostCSS failed on " ++ Style.path bundle) "" err)
          pure false
        else
          report (.line (Style.tick ++ " PostCSS on " ++ Style.path bundle))
          pure true

/-- Process bundles in order, and say which went well. -/
def processBundles (config : Value) : List Value → Running (List String)
  | [] => pure []
  | style :: rest => do
    if (← processBundle style config) then
      let path ← Running.ofExcept (bundlePath none style)
      pure (path :: (← processBundles config rest))
    else processBundles config rest

/-- Process every configured bundle, and say which went well. -/
def processStyles : Running (List String) := do
  let w ← get
  let config ← Running.ofExcept (loadSettings w.disk (Path.join w.project.configDir stylesFile))
  let bundles ← Running.ofExcept (iterate ((ifTruthy (config.get? "bundles")).getD (.list [])))
  processBundles config bundles

end StaticSite
