import StaticSite.Site.Write

/-!
# Auditing pages

A written page can be audited by an external tool. The outcome is reported only, it never changes
whether the page counts as built.

## Main definitions

* `Options.auditing`: the settings of the audits.
* `auditVerdict`: report how the audit of a page ended.
* `auditPage`: audit a page; whether it passed.
-/

namespace StaticSite

open Running

/-- The elements that are put into a list of arguments. -/
def spread (v : Value) : Except Failure (List Value) :=
  match iterate v with
  | .ok items => .ok items
  | .error _ =>
    .error (.wrongType ("Value after * must be an iterable, not " ++ v.fullTypeName))

/-- The name of a tool from a setting, or its usual name. -/
def toolName (setting : Option Value) (usual : String) : Value :=
  (ifTruthy setting).getD (.text usual)

/-- The report about an audit that could not be carried out. -/
def auditFailure (e : Failure) (page : String) : Message :=
  .failure ("pa11y failed: " ++ e.message) page ""

/-- The settings of the audits; none are as good as empty ones. -/
def Options.auditing (opts : Options) : Value := (ifTruthy (opts.settings.get? "pa11y")).getD (.dict [])

/-- Report how the audit of a page ended; whether the page passed. -/
def auditVerdict (page : String) : ToolResult → Running Bool
  | .timeout => do
    report (auditFailure .timeout page)
    pure false
  | .broken => do
    report (auditFailure (.file .badFormat none) page)
    pure false
  | .exit code out _ => do
    if code != 0 then
      let shown := String.ofList (Text.trim Text.isBlank out.toList)
      report (.warning ("pa11y reported issues\n" ++ shown) page)
      pure false
    else
      detail (Style.tick ++ " pa11y passed " ++ Style.path page)
      pure true

/-- Audit a page; whether it passed. -/
def auditPage (page : String) : Running Bool := do
  let opts ← currentOptions
  let name := toolName (← Running.ofExcept (getSetting opts.auditing "command")) "pa11y"
  match (← findTool name) with
  | none =>
    detail ("pa11y not found, skipping audit of " ++ Style.path page)
    pure false
  | some tool =>
    let args ← Running.ofExcept
      (spread (((← Running.ofExcept (getSetting opts.auditing "args"))).getD (.list [])))
    let address := "file://" ++ Path.absolute (← get).disk.cwd page
    auditVerdict page (← call (.text tool :: args ++ [.text address]))

end StaticSite
