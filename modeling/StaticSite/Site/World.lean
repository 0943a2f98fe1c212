import StaticSite.Site.Console
import StaticSite.Site.Options

/-!
# The world of a run

A run works on a disk for a project, with the tools of the machine at hand. Two kinds of computations
are kept apart by their types. A *compilation* only reads the disk; it reports messages and counts the
includes it is inside of. A *run* may also write to the disk and call tools. What a computation has
done stays done when it fails.

## Main definitions

* `Site`, `Trace`, `Compiling`: what a compilation reads, what it leaves behind, and its computations.
* `World`, `Running`: everything a run sees, and its computations.
* `Running.compile`: a compilation as a part of a run.
-/

namespace StaticSite

/-! ### Compilations -/

/-- What a compilation reads: the disk and the place of the settings. -/
structure Site where
  /-- The disk. -/
  disk : Disk
  /-- The configuration directory. -/
  configDir : String
  /-- The number of nested includes after which they are taken to be endless. -/
  depth : Nat

/-- What a compilation leaves behind. -/
structure Trace where
  /-- The messages, the oldest first. -/
  messages : List Message
  /-- The number of includes around the compilation. -/
  including : Nat

/-- Compilations. -/
abbrev Compiling := ExceptT Failure (StateM Trace)

namespace Compiling

/-- Report a message. -/
def report (m : Message) : Compiling Unit :=
  modify fun t => { t with messages := t.messages ++ [m] }

/-- A result that needs no compilation. -/
def ofExcept (r : Except Failure α) : Compiling α :=
  match r with
  | .ok a => pure a
  | .error e => throw e

/-- Run a compilation and go on with its result, also if it failed. -/
def attempt (c : Compiling α) : Compiling (Except Failure α) :=
  fun t =>
    match c t with
    | (r, t') => (.ok r, t')

end Compiling

/-! ### Runs -/

/-- How a tool ends. -/
inductive ToolResult
  /-- It ends with a code after writing to both channels. -/
  | exit (code : Int) (out err : String)
  /-- It takes too long. -/
  | timeout
  /-- It cannot be started. -/
  | broken
  deriving DecidableEq, Repr

/-- What is asked of the observer of the file system. -/
inductive ObserverCall
  | schedule (root : String)
  | start
  | stop
  | join
  deriving DecidableEq, Repr

/-- What happens to a file. -/
inductive EventKind
  | modified
  | created
  | deleted
  | moved
  | closed
  | opened
  deriving DecidableEq, Repr

/-- A change that the observer reports. -/
structure Event where
  /-- What happens. -/
  kind : EventKind
  /-- The file. -/
  path : String
  /-- Where it goes, if it moves. -/
  target : String
  /-- It is a folder. -/
  isFolder : Bool
  /-- The time of the report in seconds. -/
  time : Binary64
  /-- What is on the disk by then. -/
  writes : List (Place × Option Entry)

/-- A project: where its settings are and how it is built. -/
structure Project where
  /-- The configuration directory. -/
  configDir : String
  /-- Build only what a change affects. -/
  development : Bool
  /-- Audit every page. -/
  audit : Bool

/-- Everything that a run sees. -/
structure World where
  /-- The disk. -/
  disk : Disk
  /-- The project. -/
  project : Project
  /-- The number of includes being compiled. -/
  including : Nat := 0
  /-- The number of nested includes that the machine can follow. -/
  depth : Nat := 1000
  /-- Report details too. -/
  verbose : Bool := false
  /-- The messages so far. -/
  messages : List Message := []
  /-- The tools that are installed, by name. -/
  tools : List (String × String) := []
  /-- How the tools to be called end; what is not listed ends well. -/
  results : List ToolResult := []
  /-- The commands that were run. -/
  commands : List (List Value) := []
  /-- What was asked of the observer. -/
  observed : List ObserverCall := []
  /-- The changes that are still to be reported. -/
  events : List Event := []

/-- Runs. -/
abbrev Running := ExceptT Failure (StateM World)

namespace Running

/-- Report a message. -/
def report (m : Message) : Running Unit :=
  modify fun w => { w with messages := w.messages ++ [m] }

/-- Report a detail, if details are wanted. -/
def detail (text : String) : Running Unit := do
  if (← get).verbose then report (.line text)

/-- A result that needs no run. -/
def ofExcept (r : Except Failure α) : Running α :=
  match r with
  | .ok a => pure a
  | .error e => throw e

/-- Run a part and go on with its result, also if it failed. -/
def attempt (c : Running α) : Running (Except Failure α) :=
  fun w =>
    match c w with
    | (r, w') => (.ok r, w')

/-- A compilation as a part of a run. -/
def compile (c : Site → Compiling α) : Running α :=
  fun w =>
    let (r, t) := c ⟨w.disk, w.project.configDir, w.depth⟩ ⟨w.messages, w.including⟩
    (r, { w with messages := t.messages, including := t.including })

/-- The options of the project. -/
def currentOptions : Running Options := do
  let w ← get
  ofExcept (options w.disk w.project.configDir)

/-- The path of a tool, if it is installed. -/
def findTool (name : Value) : Running (Option String) := do
  match name with
  | .text s => return (← get).tools.lookup s
  | _ => return none

/-- Call a tool. -/
def call (command : List Value) : Running ToolResult := do
  let w ← get
  set { w with commands := w.commands ++ [command], results := w.results.drop 1 }
  pure (w.results.head?.getD (.exit 0 "" ""))

end Running

end StaticSite
