import StaticSite.Failure
import StaticSite.Path.Basic

/-!
# Configured directories

A directory is configured as a path from the working directory, or from the home of a user: `~` is the
user of the program, and `~` with a name is the user of that name. It is used in its canonical spelling,
which does not depend on the working directory any more.

## Main definitions

* `Path.Homes`: the homes of the users.
* `Path.directory`: the canonical spelling of a configured directory.
-/

namespace StaticSite.Path

/-- The homes of the users. -/
structure Homes where
  /-- The home of the user of the program. -/
  own : String
  /-- The homes of the users that are known by their names. -/
  ofUser : String → Option String

namespace Homes

/-- Nobody is known but the user of the program. -/
def single (own : String) : Homes := ⟨own, fun _ => none⟩

/-- The home of a user; no name is the user of the program. -/
def find? (homes : Homes) (name : String) : Option String :=
  if name.isEmpty then some homes.own else homes.ofUser name

/-- The home of a user, in characters. -/
def chars? (homes : Homes) (name : List Char) : Option (List Char) :=
  (homes.find? (String.ofList name)).map String.toList

end Homes

/-- The path begins with the name of a user, and that holds a null character. -/
def ownerHasNull (p : String) : Bool :=
  (Chars.homeOwner? p.toList).any (·.contains (Char.ofNat 0))

/-- The failure of asking for the user of a name with a null character. -/
def nullOwner : Failure := .badValue "embedded null byte"

/-- A path with the home of the user at its beginning, if it is known. -/
def expandHome (homes : Homes) (p : String) : String :=
  String.ofList (Chars.expandHome homes.chars? p.toList)

/-- The canonical spelling of a configured directory; nothing is the working directory. -/
def directory (cwd : String) (homes : Homes) (p : String) : Except Failure String :=
  if p.isEmpty then .ok cwd
  else if ownerHasNull p then .error nullOwner
  else .ok (absolute cwd (expandHome homes p))

end StaticSite.Path
