import StaticSite.Site.Compile

/-!
# Writing pages

A compiled view is written to its place in the distribution directory, whose folders are made as they
are needed. Nothing is written for a view that failed to compile, and an obstacle on the disk is
reported and survived.

## Main definitions

* `writePage`: write a page, and say where it went.
-/

namespace StaticSite

namespace Running

/-- Make a folder with those above it. -/
def makeFolders (path : String) : Running Unit := do
  let w ← get
  match w.disk.makeFolders path with
  | (disk, r) =>
    set { w with disk := disk }
    ofExcept r

/-- Put a text into a file. -/
def writeText (path text : String) : Running Unit := do
  let w ← get
  let disk ← ofExcept (w.disk.writeText path text)
  set { w with disk := disk }

end Running

open Running

/-- The directory of a path; the working directory if there is none. -/
def directoryOf (path : String) : String :=
  let parent := Path.parent path
  if parent.isEmpty then "." else parent

/-- Write a text as the page of a view. -/
def writeTo (opts : Options) (target text : String) : Running Unit := do
  makeFolders (directoryOf target)
  let text ← Running.ofExcept (beautifyBy ((opts.setting? "beautify").getD .null) text)
  writeText target text

/-- The report about a page that cannot be written. -/
def writeFailure (target source : String) (e : Failure) : Message :=
  .failure ("Cannot write file " ++ Style.path target ++ ": " ++ e.message) source ""

/-- Report a failure of the file system about a page and go on without it; pass on any other failure. -/
def orReport (target source : String) (body : Running α) : Running (Option α) := do
  match (← attempt body) with
  | .ok a => pure (some a)
  | .error e =>
    if e.isFile then
      report (writeFailure target source e)
      pure none
    else throw e

/-- Write the page of a view, and say where it went. -/
def writePage (source : String) (data : Option String) : Running (Option String) := do
  match data with
  | none =>
    report (.failure "Nothing to write, compilation failed" source "")
    pure none
  | some text =>
    match (← orReport source source currentOptions) with
    | none => pure none
    | some opts =>
      let target ← Running.ofExcept (opts.layout.destination (← get).disk.cwd source)
      match (← orReport target source (writeTo opts target text)) with
      | none => pure none
      | some () =>
        report (.line (Style.tick ++ " View in " ++ Style.path source ++ " out " ++ Style.path target))
        pure (some target)

end StaticSite
