import StaticSite.Failure
import StaticSite.Path.Basic

/-!
# The disk

Files and folders by their absolute components, with the working directory and the home directory.
A path is followed component by component: what is passed through has to be a folder, and `..` leads
from a folder to the one that holds it. Files hold text, or bytes that are no text.

## Main definitions

* `Disk`, `Disk.get?`: the tree and what stands at a place in it.
* `Disk.locate`: the place that a path leads to.
* `Disk.readText`, `Disk.list`: reading a file and a folder.
* `Disk.writeText`, `Disk.makeFolders`: writing a file and making a folder with those above it.
-/

namespace StaticSite

/-- The content of a file. -/
inductive Content
  /-- A text. -/
  | text (s : String)
  /-- Bytes that are no text. -/
  | raw (bytes : List UInt8)
  deriving DecidableEq, Repr

/-- What stands at a place of the disk. -/
inductive Entry
  | file (content : Content)
  | folder
  deriving DecidableEq, Repr

/-- A place on the disk: the components of an absolute path. -/
abbrev Place := List String

/-- Files and folders, the working directory and the home directory. -/
structure Disk where
  /-- The entries by their places; the root is a folder without an entry. -/
  entries : List (Place × Entry)
  /-- The working directory. -/
  cwd : String
  /-- The home directory. -/
  home : String

/-- The content with these bytes. -/
def Content.ofBytes (bytes : List UInt8) : Content :=
  match Text.Utf8.decode bytes with
  | .ok s => .text (String.ofList s)
  | .error _ => .raw bytes

namespace Disk

/-! ### Entries -/

/-- What stands at a place. -/
def get? (d : Disk) (p : Place) : Option Entry :=
  if p.isEmpty then some .folder else d.entries.lookup p

/-- Write an entry: in place if there is one, at the end otherwise. -/
def setEntry (p : Place) (e : Entry) : List (Place × Entry) → List (Place × Entry)
  | [] => [(p, e)]
  | (q, old) :: rest => if q == p then (p, e) :: rest else (q, old) :: setEntry p e rest

/-- The disk with an entry at a place. -/
def set (d : Disk) (p : Place) (e : Entry) : Disk := { d with entries := setEntry p e d.entries }

/-- The disk without a place and everything below it. -/
def remove (d : Disk) (p : Place) : Disk :=
  { d with entries := d.entries.filter fun (q, _) => !p.isPrefixOf q }

/-- The places above a place, the uppermost first. -/
def above (p : Place) : List Place := ((List.range p.length).drop 1).map p.take

/-- Put an entry, if there is one, at a place with folders above it. -/
def put (d : Disk) (p : Place) (e : Option Entry) : Disk :=
  match e with
  | none => d
  | some e =>
    let made := (above p).foldl (fun d q => if (d.get? q).isSome then d else d.set q .folder) d
    if e == .folder && (d.get? p).isSome then made else made.set p e

/-- The components of the working directory. -/
def cwdPlace (d : Disk) : Place :=
  ((Text.splitOn '/' d.cwd.toList).filter fun c => !c.isEmpty).map String.ofList

/-! ### Paths -/

/-- The greatest number of bytes of a component, and of a path. -/
def maxNameBytes : Nat := 255

/-- The greatest number of bytes of a path. -/
def maxPathBytes : Nat := 4095

/-- Follow components from a place: each step starts from an existing folder. -/
def followFrom (d : Disk) (p : Place) : List String → Except FileFault Place
  | [] => .ok p
  | c :: cs =>
    match d.get? p with
    | none => .error .notFound
    | some (.file _) => .error .notDirectory
    | some .folder =>
      if c.isEmpty || c == "." then followFrom d p cs
      else if c == ".." then followFrom d p.dropLast cs
      else if maxNameBytes < c.utf8ByteSize then .error .nameTooLong
      else followFrom d (p ++ [c]) cs

/-- The place that a path leads to; nothing need stand there. -/
def locate (d : Disk) (path : String) : Except FileFault Place :=
  if path.isEmpty then .error .notFound
  else if maxPathBytes < path.utf8ByteSize then .error .nameTooLong
  else
    let components := (Text.splitOn '/' path.toList).map String.ofList
    if Path.Chars.isAbsolute path.toList then d.followFrom [] components
    else d.followFrom d.cwdPlace components

/-- What a path leads to, if anything. -/
def find? (d : Disk) (path : String) : Option Entry :=
  if path.toList.contains (Char.ofNat 0) then none
  else match d.locate path with
    | .ok p => d.get? p
    | .error _ => none

/-- Something stands at the end of a path. -/
def holds (d : Disk) (path : String) : Bool := (d.find? path).isSome

/-- A path leads to a folder. -/
def isFolder (d : Disk) (path : String) : Bool := d.find? path == some .folder

/-- A path leads to a file. -/
def isFile (d : Disk) (path : String) : Bool :=
  match d.find? path with
  | some (.file _) => true
  | _ => false

/-- A fault at a path. -/
def faultAt (fault : FileFault) (path : String) : Failure := .file fault (some path)

/-- A path with a null character leads nowhere. -/
def refuseNull (path : String) (text : String) : Except Failure Unit :=
  if path.toList.contains (Char.ofNat 0) then .error (.badValue text) else .ok ()

/-! ### Reading -/

/-- The content of a file. -/
def content (d : Disk) (path : String) : Except Failure Content :=
  match refuseNull path "embedded null byte" with
  | .error e => .error e
  | .ok _ =>
    match d.locate path with
    | .error fault => .error (faultAt fault path)
    | .ok p =>
      match d.get? p with
      | none => .error (faultAt .notFound path)
      | some .folder => .error (faultAt .isDirectory path)
      | some (.file c) => .ok c

/-- The text of a content, with unified line endings. -/
def textOf : Content → Except Failure String
  | .text s => .ok (String.ofList (Text.unifyNewlines s.toList))
  | .raw bytes =>
    match Text.Utf8.decode bytes with
    | .ok s => .ok (String.ofList (Text.unifyNewlines s))
    | .error fault => .error (.undecodable fault)

/-- The text of a file, with unified line endings. -/
def readText (d : Disk) (path : String) : Except Failure String :=
  match d.content path with
  | .error e => .error e
  | .ok c => textOf c

/-- The name of an entry directly below a place. -/
def childName? (p q : Place) : Option String :=
  match Path.Chars.dropCommon p q with
  | ([], [name]) => some name
  | _ => none

/-- The names of the entries directly below a place, in order of their characters. -/
def children (d : Disk) (p : Place) : List String :=
  Text.sortBy (fun a b => a < b) (d.entries.filterMap fun (q, _) => childName? p q)

/-- The names in a folder. -/
def list (d : Disk) (path : String) : Except Failure (List String) :=
  match refuseNull path "listdir: embedded null character in path" with
  | .error e => .error e
  | .ok _ =>
    match d.locate path with
    | .error fault => .error (faultAt fault path)
    | .ok p =>
      match d.get? p with
      | none => .error (faultAt .notFound path)
      | some (.file _) => .error (faultAt .notDirectory path)
      | some .folder => .ok (d.children p)

/-! ### Writing -/

/-- The path without slashes at its end. -/
def withoutSlash (path : String) : String :=
  String.ofList (Text.trimEnd (· == '/') path.toList)

/-- The fault of a path that leads nowhere when a file is to be put there: a new name with a slash at its
end can only be a folder. -/
def creationFault (d : Disk) (path : String) (fault : FileFault) : FileFault :=
  if fault == .notFound && Path.hasEnding path "/" then
    match d.locate (withoutSlash path) with
    | .ok p => if d.get? p.dropLast == some .folder then .isDirectory else fault
    | .error _ => fault
  else fault

/-- Put a content into a file, which may be new; its folder has to exist. -/
def writeContent (d : Disk) (path : String) (c : Content) : Except Failure Disk :=
  match refuseNull path "embedded null byte" with
  | .error e => .error e
  | .ok _ =>
    match d.locate path with
    | .error fault => .error (faultAt (d.creationFault path fault) path)
    | .ok p =>
      match d.get? p with
      | some .folder => .error (faultAt .isDirectory path)
      | some (.file _) => .ok (d.set p (.file c))
      | none =>
        match d.get? p.dropLast with
        | some .folder => .ok (d.set p (.file c))
        | some (.file _) => .error (faultAt .notDirectory path)
        | none => .error (faultAt .notFound path)

/-- Put a text into a file. -/
def writeText (d : Disk) (path text : String) : Except Failure Disk :=
  d.writeContent path (.text text)

/-- Make a folder inside an existing one. -/
def makeFolder (d : Disk) (path : String) : Except Failure Disk :=
  match refuseNull path "mkdir: embedded null character in path" with
  | .error e => .error e
  | .ok _ =>
    match d.locate (if path.isEmpty || withoutSlash path == "" then path else withoutSlash path) with
    | .error fault => .error (faultAt fault path)
    | .ok p =>
      match d.get? p with
      | some _ => .error (faultAt .exists path)
      | none =>
        match d.get? p.dropLast with
        | some .folder => .ok (d.set p .folder)
        | some (.file _) => .error (faultAt .notDirectory path)
        | none => .error (faultAt .notFound path)

/-- The directory and the last component of a path, without a slash at its end. -/
def lastStep (path : String) : String × String :=
  if (Path.baseName path).isEmpty then
    (Path.parent (Path.parent path), Path.baseName (Path.parent path))
  else (Path.parent path, Path.baseName path)

/-- Make the last folder of a path, once those above it are there. A folder that is there already is
fine. -/
def makeLast (d : Disk) (path : String) (wentUp : Bool) : Disk × Except Failure Unit :=
  if wentUp && (lastStep path).2 == "." then (d, .ok ())
  else match d.makeFolder path with
    | .ok made => (made, .ok ())
    | .error (.file fault p) => if d.isFolder path then (d, .ok ()) else (d, .error (.file fault p))
    | .error e => (d, .error e)

/-- Make a folder with those above it, going up at most `fuel` components: what was made, and what went
wrong. -/
def makeFoldersWithin : Nat → Disk → String → Disk × Except Failure Unit
  | 0, d, _ => (d, .error .tooDeep)
  | fuel + 1, d, path =>
    let head := (lastStep path).1
    if head.isEmpty || (lastStep path).2.isEmpty || d.holds head then makeLast d path false
    else
      match makeFoldersWithin fuel d head with
      | (above, .error (.file .exists _)) => makeLast above path true
      | (above, .error e) => (above, .error e)
      | (above, .ok ()) => makeLast above path true

/-- Make a folder with those above it. -/
def makeFolders (d : Disk) (path : String) : Disk × Except Failure Unit :=
  makeFoldersWithin (path.length + 1) d path

end Disk

end StaticSite
