import StaticSite.Page.Affected
import StaticSite.Site.Walk

/-!
# Building again after a change

In development only the view that a change affects is built again; otherwise every view is.

## Main definitions

* `rebuild`: build what a change affects, and say where the pages went.
-/

namespace StaticSite

open Running

/-- Build what a change affects, and say where the pages went. -/
def rebuild (changed : String) (views : List String) : Running (List String) := do
  let opts ← currentOptions
  if !(← get).project.development then walk opts.views none
  else
    report (.watching ("Detected change on " ++ Style.path changed))
    let a ← Running.ofExcept (classify (← get).disk.cwd changed views opts.views opts.ext)
    detail ("  " ++ a.extent.name ++ " " ++ Style.path a.target)
    match a.extent with
    | .walk => walk a.target none
    | _ => pure ((← buildView a.target).toList.filter fun p => !p.isEmpty)

end StaticSite
