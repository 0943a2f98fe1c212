import StaticSite.Failure
import StaticSite.Path.Basic

/-!
# Where pages go

A view below the views directory becomes the page at the same place below the distribution
directory, with the extension `.html`; a file outside the views directory stays where it is.

## Main definitions

* `Layout`: the two directories and the extension of templates.
* `within`: containment, which is not defined for the empty path.
* `Layout.destination`: the page of a view.
* `stem`: the name of a view without the extension.
-/

namespace StaticSite

/-- Where views are found and where their pages go. -/
structure Layout where
  /-- The views directory. -/
  views : String
  /-- The distribution directory. -/
  dist : String
  /-- The extension of templates, with its dot. -/
  ext : String
  deriving DecidableEq, Repr

/-- The failure of asking for the way to nowhere. -/
def noPath : Failure := .badValue "no path specified"

/-- A path lies within `root`, or is `root` itself. -/
def within (cwd path root : String) : Except Failure Bool :=
  if path.isEmpty then .error noPath else .ok (Path.isWithin cwd path root)

/-- The spelling of a view with the extension of a page. -/
def Layout.pageName (layout : Layout) (source : String) : String :=
  if Path.extension source == layout.ext then Path.withoutExtension source ++ ".html" else source

/-- The page of a view. -/
def Layout.destination (layout : Layout) (cwd source : String) : Except Failure String :=
  let target := layout.pageName source
  match within cwd target layout.views with
  | .error e => .error e
  | .ok true => .ok (Path.join layout.dist (Path.relative cwd target layout.views))
  | .ok false => .ok target

/-- The name of a view without the extension. -/
def stem (view ext : String) : String :=
  let name := (Path.baseName view).toList
  String.ofList <|
    if ext.isEmpty then name else (Text.stripEnd? ext.toList name).getD name

end StaticSite
