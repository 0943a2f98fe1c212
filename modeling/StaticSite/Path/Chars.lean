import StaticSite.Text.Basic

/-!
# Paths as lists of characters

The lexical rules of slash-separated paths, without a look at any file. A path is split into
components at slashes; `.` and empty components mean nothing, `..` cancels the component before it.
A path that begins with one slash is absolute; exactly two leading slashes are kept as they are and
three or more count as one.

## Main definitions

* `components`, `resolve`: the components of a path, and the same with `.` and `..` carried out.
* `normalize`: the canonical spelling of a path.
* `absolute`: the canonical spelling of a path seen from a working directory.
* `relative`: the way from one path to another, as components.
* `splitExtension`, `baseName`, `parent`: parts of a path.
* `expandHome`: a path with the home of a user at its beginning.
-/

namespace StaticSite.Path.Chars

/-- The component that leads to the parent. -/
def up : List Char := ['.', '.']

/-- The path begins with a slash. -/
def isAbsolute (p : List Char) : Bool := p.head? == some '/'

/-- Put two paths together; an absolute second path stands alone. -/
def join (p q : List Char) : List Char :=
  if isAbsolute q then q
  else if p.isEmpty || p.getLast? == some '/' then p ++ q
  else p ++ '/' :: q

/-! ### Components -/

/-- The components of a path that mean something. -/
def components (p : List Char) : List (List Char) :=
  (Text.splitOn '/' p).filter fun c => !c.isEmpty && c != ['.']

/-- Carry out one component on the reversed list of those before it. A `..` at the root of an
absolute path is dropped, at the beginning of a relative path it stays. -/
def enter (rooted : Bool) (above : List (List Char)) (c : List Char) : List (List Char) :=
  if c != up then c :: above
  else match above with
    | [] => if rooted then [] else [up]
    | last :: rest => if last == up then up :: last :: rest else rest

/-- Carry out the components from left to right. -/
def resolve (rooted : Bool) (cs : List (List Char)) : List (List Char) :=
  (cs.foldl (enter rooted) []).reverse

/-- The leading slashes that a path keeps: none, one, or exactly two. -/
def root : List Char → List Char
  | '/' :: '/' :: '/' :: _ => ['/']
  | '/' :: '/' :: _ => ['/', '/']
  | '/' :: _ => ['/']
  | _ => []

/-- The canonical spelling of a path; the empty path is the current directory. -/
def normalize (p : List Char) : List Char :=
  let r := root p
  let spelled := r ++ Text.join ['/'] (resolve (!r.isEmpty) (components p))
  if spelled.isEmpty then ['.'] else spelled

/-- The canonical spelling of a path seen from the working directory `cwd`. -/
def absolute (cwd p : List Char) : List Char :=
  normalize (if isAbsolute p then p else join cwd p)

/-- The components of a path seen from the working directory. -/
def absoluteComponents (cwd p : List Char) : List (List Char) :=
  (Text.splitOn '/' (absolute cwd p)).filter fun c => !c.isEmpty

/-! ### The way from one path to another -/

/-- Drop the common beginning of two lists. -/
def dropCommon [BEq α] : List α → List α → List α × List α
  | x :: xs, y :: ys => if x == y then dropCommon xs ys else (x :: xs, y :: ys)
  | xs, ys => (xs, ys)

/-- The way from `start` to `target`: up to the last common directory, then down. -/
def relativeComponents (start target : List (List Char)) : List (List Char) :=
  let (back, forth) := dropCommon start target
  back.map (fun _ => up) ++ forth

/-- The way from `start` to `target`, both seen from the working directory. -/
def relative (cwd target start : List Char) : List Char :=
  let way := relativeComponents (absoluteComponents cwd start) (absoluteComponents cwd target)
  if way.isEmpty then ['.'] else Text.join ['/'] way

/-! ### Parts -/

/-- The last component as it is spelled: what follows the last slash. -/
def baseName (p : List Char) : List Char := (p.reverse.takeWhile (· != '/')).reverse

/-- What stands up to the last slash, with that slash. -/
def throughSlash (p : List Char) : List Char := (p.reverse.dropWhile (· != '/')).reverse

/-- The directory of a path as it is spelled, without slashes at its end unless it is made of
them. -/
def parent (p : List Char) : List Char :=
  let head := throughSlash p
  if head.all (· == '/') then head else Text.trimEnd (· == '/') head

/-- Split the extension off a base name: the last dot and what follows it, unless only dots stand
before it. -/
def splitName (name : List Char) : List Char × List Char :=
  let after := (name.reverse.takeWhile (· != '.')).reverse
  let before := name.take (name.length - after.length - 1)
  if after.length < name.length && before.any (· != '.') then (before, '.' :: after)
  else (name, [])

/-- Split the extension off a path. -/
def splitExtension (p : List Char) : List Char × List Char :=
  let (name, extension) := splitName (baseName p)
  (throughSlash p ++ name, extension)

/-- The user whose home a path begins with: the name between a leading `~` and the next slash. No name
is the user of the program. -/
def homeOwner? : List Char → Option (List Char)
  | '~' :: rest => some (rest.takeWhile (· != '/'))
  | _ => none

/-- Replace a leading `~` with the name of a user by the home of that user; a user whose home `homes` does
not know is left as a name. -/
def expandHome (homes : List Char → Option (List Char)) (p : List Char) : List Char :=
  match (homeOwner? p).bind homes with
  | none => p
  | some home =>
    let place := Text.trimEnd (· == '/') home ++ p.dropWhile (· != '/')
    if place.isEmpty then ['/'] else place

end StaticSite.Path.Chars
