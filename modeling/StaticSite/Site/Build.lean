import StaticSite.Site.Watch

/-!
# Building a site

A build makes the page of every view once, or watches for changes and builds again after each. A site
without views has nothing to build, which is no failure.

## Main definitions

* `viewSet`: the views directly inside a directory.
* `build`: build the site or watch it.
-/

namespace StaticSite

open Running

/-- The files directly inside a directory that have an extension, in order. -/
def viewSet (d : Disk) (folder ext : String) : Except Failure (List String) :=
  (d.list folder).map fun names => names.filter fun name => Path.hasEnding name ext

/-- Build the site, and say where the pages went; or watch it. -/
def build (watching : Bool) : Running (List String) := do
  let opts ← currentOptions
  if !(← get).disk.isFolder opts.views then
    report (.watching ("Views skipping. " ++ Style.path opts.views ++ " directory does not exist."))
    throw (.exit 0)
  else
    let views ← Running.ofExcept (viewSet (← get).disk opts.views opts.ext)
    if watching then
      watch views
      pure []
    else
      let written ← walk opts.views none
      report (.success ("Views finished, " ++ toString written.length ++ " written to " ++ opts.dist))
      pure written

end StaticSite
