import StaticSite.Path.Chars

/-!
# Paths

The operations on paths at rest. Everything that depends on the working directory takes it as its
first argument.

## Main definitions

* `Path.normalize`, `Path.absolute`: the canonical spelling of a path, and of one seen from the working directory.
* `Path.isWithin`: containment, decided on components.
-/

namespace StaticSite.Path

/-- Put two paths together; an absolute second path stands alone. -/
def join (p q : String) : String := String.ofList (Chars.join p.toList q.toList)

/-- The canonical spelling of a path. -/
def normalize (p : String) : String := String.ofList (Chars.normalize p.toList)

/-- The canonical spelling of a path seen from the working directory. -/
def absolute (cwd p : String) : String := String.ofList (Chars.absolute cwd.toList p.toList)

/-- The way from `start` to `target`, both seen from the working directory. -/
def relative (cwd target start : String) : String :=
  String.ofList (Chars.relative cwd.toList target.toList start.toList)

/-- What follows the last slash. -/
def baseName (p : String) : String := String.ofList (Chars.baseName p.toList)

/-- The directory of a path as it is spelled. -/
def parent (p : String) : String := String.ofList (Chars.parent p.toList)

/-- The extension of a path, with its dot. -/
def extension (p : String) : String := String.ofList (Chars.splitExtension p.toList).2

/-- A path without its extension. -/
def withoutExtension (p : String) : String := String.ofList (Chars.splitExtension p.toList).1

/-- The text ends with another text. -/
def hasEnding (p ending : String) : Bool := Text.endsWith ending.toList p.toList

/-- The way from `root` to `path` does not begin by going up. -/
def staysWithin (way : List Char) : Bool :=
  way != Chars.up && !Text.startsWith ['.', '.', '/'] way

/-- A nonempty path lies within `root`, or is `root` itself. -/
def isWithin (cwd path root : String) : Bool :=
  staysWithin (Chars.relative cwd.toList path.toList root.toList)

end StaticSite.Path
