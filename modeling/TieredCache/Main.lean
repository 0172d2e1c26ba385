import TieredCache.Command.Execution
import TieredCache.Disk.Change

/-!
The program. It takes in the settings file and the cache directory, runs the command on them, and
brings the directory to the state that the command left; then it prints what the command has to say.
-/

namespace TieredCache.Program

def fileTime (time : IO.FS.SystemTime) : FileTime :=
  time.sec * 1000000000 + time.nsec.toNat

/-- The time of day, as the file system tells it. -/
def wallClock : IO FileTime := do
  let (_, place) ← IO.FS.createTempFile
  let metadata ← place.metadata
  IO.FS.removeFile place
  return fileTime metadata.modified

/-- What stands at a path, as far as it can be read. -/
def entryAt? (path : FilePath) : IO (Option Entry) := do
  let place := (← IO.currentDir) / path.text
  let .ok metadata ← EIO.toBaseIO place.metadata | return none
  let modified := fileTime metadata.modified
  match metadata.type with
  | .dir => return some (.directory modified)
  | .file =>
      let .ok content ← EIO.toBaseIO (IO.FS.readBinFile place) | return none
      return some (.file content.toList (fileTime metadata.accessed) modified)
  | _ => return none

/-- The entries at a path and at the paths above it. -/
def entriesTo (path : FilePath) : IO (List (FilePath × Entry)) := do
  let paths := (List.range path.length).map fun count => path.take (count + 1)
  let found ← paths.mapM fun part => return (← entryAt? part).map (part, ·)
  return found.filterMap id

/-- The entries that following a route comes to. -/
def entriesAlong (route : Route) : IO (List (FilePath × Entry)) := do
  return (← route.passed.mapM entriesTo).flatten

/-- The entries below a directory. -/
partial def entriesBelow (path : FilePath) : IO (List (FilePath × Entry)) := do
  let place := (← IO.currentDir) / path.text
  let .ok children ← EIO.toBaseIO place.readDir | return []
  let found ← children.toList.mapM fun child => do
    let below := path ++ [Text.bytes child.fileName]
    match ← entryAt? below with
    | none => return []
    | some (.directory modified) => return (below, .directory modified) :: (← entriesBelow below)
    | some entry => return [(below, entry)]
  return found.flatten

/-- A tree with further entries, which all lie at or below a path or above it. -/
def withEntries (tree : FileTree) (entries : List (FilePath × Entry)) : FileTree :=
  let paths := entries.map (·.1)
  { entries := tree.entries.filter (fun (path, _) => !paths.contains path) ++ entries }

/-- What a command needs of the world. -/
def surroundings (arguments : List String) : IO Command.Surroundings := do
  let directory := (Route.mk (Text.bytes (← IO.currentDir).toString) []).names
  let now := Millis.clamp ((← wallClock) / 1000000)
  let random ← IO.rand 0 0xFFFFFFFFFFFFFFFF
  let settingsEntries ← match Command.settingsFile? directory arguments with
    | some route => entriesAlong route
    | none => pure []
  let known : Command.Surroundings :=
    { tree := { entries := settingsEntries }, now, random, directory }
  match Command.cacheRoot? known arguments with
  | none => return known
  | some root =>
      let entries := (← entriesAlong root) ++ (← entriesBelow (root.passed.getLastD directory))
      return { known with tree := withEntries known.tree entries }

def carryOut (change : FileChange) : IO Unit :=
  match change with
  | .removeFile path => IO.FS.removeFile path.text
  | .removeDirectory path => IO.FS.removeDir path.text
  | .makeDirectory path => IO.FS.createDirAll path.text
  | .writeFile path content => IO.FS.writeBinFile path.text ⟨content.toArray⟩

def run (arguments : List String) : IO UInt32 := do
  let surroundings ← surroundings arguments
  let execution := Command.execute surroundings arguments
  for change in surroundings.tree.changes execution.tree do
    carryOut change
  let format := Command.logFormat surroundings arguments
  for output in execution.output do
    IO.println (output.text format surroundings.now)
  if let some error := execution.error then IO.eprintln error.text
  if execution.exitCode = 2 then IO.eprintln Command.usageLine
  return UInt32.ofNat execution.exitCode

end TieredCache.Program

def main (arguments : List String) : IO UInt32 := TieredCache.Program.run arguments
