import StaticSite.Site.Audit

/-!
# Building views

A view is compiled, written and audited; a directory is walked, and every view in it is built. The
children of a directory are visited in the reverse of their order on the disk.

## Main definitions

* `buildView`: build one view.
* `walkAt`, `walk`: build a view or every view below a directory, with a budget of nested directories.
-/

namespace StaticSite

open Running

/-- Build a view, and say where its page went; anything but a template is no view. -/
def buildView (path : String) : Running (Option String) := do
  let opts ← currentOptions
  if !Path.hasEnding path opts.ext then pure none
  else
    let compiled ← Running.compile fun site => compile site .template path (.ok .none) #[]
    let target ← writePage path compiled
    match target with
    | some page =>
      if (← get).project.audit && !page.isEmpty then
        let _ ← auditPage page
    | none => pure ()
    pure target

/-- The path of an entry of a directory: as it is spelled if it lies within the directory, else below
the directory. -/
def entryPath (cwd entry base : String) : Except Failure String :=
  match within cwd entry base with
  | .error e => .error e
  | .ok true => .ok entry
  | .ok false => .ok (Path.join base entry)

/-- The report about a directory that cannot be read. -/
def readFailure (path : String) (e : Failure) : Message :=
  .failure ("Cannot read directory " ++ Style.path path ++ ": " ++ e.message) "" ""

/-- Build a view or every view below a directory, at most `n` directories deep. -/
def walkAt : Nat → String → Option String → Running (List String)
  | 0, _, _ => throw .tooDeep
  | n + 1, entry, base => do
    let opts ← currentOptions
    let base := match base with
      | some b => if b.isEmpty then opts.views else b
      | none => opts.views
    let path ← Running.ofExcept (entryPath (← get).disk.cwd entry base)
    if Path.hasEnding path opts.ext then
      pure ((← buildView path).toList.filter fun p => !p.isEmpty)
    else if (← get).disk.isFile path then
      detail ("Skipping " ++ Style.path path)
      pure []
    else
      match (← get).disk.list path with
      | .ok children =>
        let written ← children.reverse.mapM fun child => walkAt n child (some path)
        pure written.flatten
      | .error e =>
        if e.isFile then
          report (readFailure path e)
          pure []
        else throw e

/-- The number of nested directories after which they are taken to be endless: no path that can be read
holds as many components. -/
def walkBudget (d : Disk) : Nat := d.entries.length + Disk.maxPathBytes

/-- Build a view or every view below a directory. -/
def walk (entry : String) (base : Option String) : Running (List String) := do
  walkAt (walkBudget (← get).disk) entry base

end StaticSite
