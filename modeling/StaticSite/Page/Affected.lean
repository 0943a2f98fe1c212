import StaticSite.Page.Address

/-!
# What a change affects

A view owns the directory of the same name beside or below it: a change there is a change of the
view. A change of any other file below the views directory is a change of that file alone, and a
change anywhere else may concern every view.

## Main definitions

* `owner?`: the view that owns the directory of a changed file.
* `classify`: what has to be built again.
-/

namespace StaticSite

/-- How much has to be built again. -/
inductive Extent
  /-- The changed file alone. -/
  | single
  /-- The view that owns the changed file. -/
  | inferred
  /-- Every view. -/
  | walk
  deriving DecidableEq, Repr

/-- The name of an extent. -/
def Extent.name : Extent → String
  | .single => "single"
  | .inferred => "inferred"
  | .walk => "walk"

/-- What has to be built again after a change. -/
structure Affected where
  /-- How much it is. -/
  extent : Extent
  /-- The file or directory to build. -/
  target : String
  deriving DecidableEq, Repr

/-- The first view whose stem is the name of the changed file's directory; the views directory itself
has no owner. -/
def owner? (changed : String) (views : List String) (viewsDir ext : String) : Option String :=
  let parent := Path.parent changed
  if Path.normalize parent == Path.normalize viewsDir then none
  else views.find? fun view => stem view ext == Path.baseName parent

/-- What a change affects. -/
def classify (cwd changed : String) (views : List String) (viewsDir ext : String) :
    Except Failure Affected :=
  match owner? changed views viewsDir ext with
  | some view => .ok ⟨.inferred, Path.join viewsDir (stem view ext ++ ext)⟩
  | none =>
    match within cwd changed viewsDir with
    | .error e => .error e
    | .ok true => .ok ⟨.single, changed⟩
    | .ok false => .ok ⟨.walk, viewsDir⟩

end StaticSite
