import StaticSite.Site.CommandLine

/-!
# The program

The program reads what is below the working directory, does what its arguments ask for, prints the
messages and writes what has changed. It calls no tools and waits for no changes: to a run the tools of
the machine are missing, and nothing happens on the disk while it watches.
-/

namespace StaticSite.Shell

/-- The place of an absolute path. -/
def placeOf (path : String) : Place := (path.splitOn "/").filter fun c => !c.isEmpty

/-- What stands at an entry of a folder and everything below it. -/
partial def readEntry (e : IO.FS.DirEntry) : IO (List (Place × Entry)) := do
  let place := placeOf e.path.toString
  if (← e.path.isDir) then
    let mut found := [(place, Entry.folder)]
    for child in (← e.path.readDir) do
      found := found ++ (← readEntry child)
    pure found
  else
    let bytes ← IO.FS.readBinFile e.path
    pure [(place, .file (.ofBytes bytes.toList))]

/-- The working directory with everything below it. -/
def readDisk : IO Disk := do
  let cwd ← IO.currentDir
  let empty : Disk := ⟨[], cwd.toString, (← IO.getEnv "HOME").getD "/"⟩
  let mut disk := empty.put (placeOf cwd.toString) (some .folder)
  for child in (← cwd.readDir) do
    for (place, entry) in (← readEntry child) do
      disk := disk.set place entry
  pure disk

/-- The path of a place. -/
def pathOf (p : Place) : String := "/" ++ "/".intercalate p

/-- Write an entry. -/
def writeEntry (p : Place) : Entry → IO Unit
  | .folder => IO.FS.createDirAll (pathOf p)
  | .file (.text s) => IO.FS.writeFile (pathOf p) s
  | .file (.raw bytes) => IO.FS.writeBinFile (pathOf p) ⟨bytes.toArray⟩

/-- Write what has changed on a disk. -/
def writeChanges (before after : Disk) : IO Unit := do
  for (place, entry) in after.entries do
    if before.get? place != some entry then
      writeEntry place entry

/-- Print a message. -/
def printMessage (m : Message) : IO Unit :=
  if m.isComplaint then IO.eprint m.render else IO.print m.render

/-- Say how a run has ended, as an exit code. -/
def exitCode : Except Failure Unit → IO UInt32
  | .ok () => pure 0
  | .error (.exit code) => pure code.toUInt32
  | .error failure => do
    IO.eprintln failure.message
    pure 1

end StaticSite.Shell

open StaticSite in
/-- Do what the arguments ask for. -/
def main (arguments : List String) : IO UInt32 := do
  let disk ← Shell.readDisk
  let world : World := { disk, project := (⟨"config", false, false⟩ : Project) }
  let (outcome, after) := runCommand arguments (← IO.getEnv "PAGESMITH_ENV") world
  after.messages.forM Shell.printMessage
  Shell.writeChanges disk after.disk
  Shell.exitCode outcome
