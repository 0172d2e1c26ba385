import TieredCache.Disk.Cleaning
import TieredCache.Layer.Lookup

/-!
The persistent tier: one file per key below a root directory. A value is written to a file of its own
that then takes the place of the key's file, so that readers never see a part of it. After a write a
clean pass may be due.
-/

namespace TieredCache

structure DiskStore where
  name : String
  root : Route
  settings : DiskSettings
  nextClean : Millis
  closed : Bool := false
  cleanups : Nat := 0
  evictions : Nat := 0
  bytesFreed : Nat := 0
  skippedCleanups : Nat := 0
  writeErrors : Nat := 0

namespace DiskStore

/-- The time of the first check: a part of the clean interval, given by 64 random bits, from now. -/
def firstClean (settings : DiskSettings) (now : Millis) (random : Nat) : Millis :=
  now + Millis.clamp (random * settings.cleanInterval.toMillis.value / 0x10000000000000000)

def openedSignal (name : String) (root : Route) : Signal :=
  .log ⟨.debug, .fileCache, "Opened file cache", [("cache", .shown name), ("root", .shown root.shown)]⟩

/-- Opens a store, creating its root directory if that is missing. -/
def openAt (tree : FileTree) (name : String) (root : Route) (settings : DiskSettings)
    (nextClean : Millis) : Except IoError (FileTree × DiskStore) := do
  let rooted ← tree.makeDirectories root
  return (rooted, { name, root, settings, nextClean })

def pathOf (store : DiskStore) (key : String) : Route :=
  store.root.join (Key.relativePath store.root.text key)

/-- The names a temporary file may have, in the order they are tried. -/
def temporaryName (attempt : Nat) : Name :=
  Text.bytes ".tmp" ++ (List.range 6).map fun place =>
    UInt8.ofNat (97 + attempt / Nat.pow 26 (5 - place) % 26)

/-- A temporary file in a directory, of a name that no entry has. -/
def temporary (tree : FileTree) (directory : Route) : Route :=
  let attempts := (List.range (tree.entries.length + 1)).map fun attempt =>
    directory.join (temporaryName attempt)
  (attempts.find? fun route => (tree.entry route).toOption.isNone).getD
    (directory.join (temporaryName 0))

/-- Makes the directory of the target and moves a temporary file into place. -/
def moveOnce (tree : FileTree) (temporary path : Route) : FileTree × Option IoError :=
  match tree.raise path.parent with
  | (prepared, some cause) => (prepared, some cause)
  | (prepared, none) =>
      match prepared.rename temporary path with
      | .error cause => (prepared, some cause)
      | .ok moved => (moved, none)

/-- How often a move that failed is tried again. -/
def furtherMoves : Nat := 2

/-- Moves a temporary file into place. A clean pass of another process may take the directory away
meanwhile, so a move that fails is tried again; after the last one the temporary file goes away. -/
def moveIntoPlace (tree : FileTree) (temporary path : Route) : Nat → FileTree × Option IoError
  | 0 =>
      match moveOnce tree temporary path with
      | (left, some cause) => (left.discard temporary, some cause)
      | (moved, none) => (moved, none)
  | further + 1 =>
      match moveOnce tree temporary path with
      | (left, some _) => moveIntoPlace left temporary path further
      | (moved, none) => (moved, none)

/-- Writes a temporary file beside the target and moves it into place. Directories made on the way
stay, whatever fails. -/
def writeFile (tree : FileTree) (path : Route) (content : Bytes) (present : FileTime) :
    FileTree × Option IoError :=
  match tree.raise path.parent with
  | (prepared, some cause) => (prepared, some cause)
  | (prepared, none) =>
      let temporary := temporary prepared path.parent
      match prepared.createNew temporary present 0 with
      | .error cause => (prepared, some cause)
      | .ok created =>
          match created.write temporary content present 0 with
          | .error cause => (created.discard temporary, some cause)
          | .ok written => moveIntoPlace written temporary path furtherMoves

/-- Looks a key up; a hit counts as a use of the file. -/
def get (store : DiskStore) (tree : FileTree) (key : String) (present : FileTime) :
    FileTree × Lookup × List Signal :=
  if store.closed then (tree, .notFound, [])
  else
    let path := store.pathOf key
    match tree.read path with
    | .ok content => (tree.touch path present, .found content, [.count "caches.file.hit" store.name])
    | .error _ => (tree, .notFound, [.count "caches.file.miss" store.name])

structure Written where
  store : DiskStore
  tree : FileTree
  /-- Whether a clean check is due. -/
  checks : Bool
  signals : List Signal

def put (store : DiskStore) (tree : FileTree) (key : String) (value : Bytes) (now : Millis)
    (present : FileTime) : Written :=
  if store.closed then ⟨store, tree, false, []⟩
  else
    let path := store.pathOf key
    let checks := store.nextClean ≤ now
    match writeFile tree path value present with
    | (written, none) => ⟨store, written, checks, []⟩
    | (written, some cause) =>
        ⟨{ store with writeErrors := store.writeErrors + 1 }, written, checks,
          [.count "disk_cache.write_errors" store.name,
            .log ⟨.error, .fileCache, "Failed to write cache file",
              [("error", .shown cause.message), ("path", .shown path.shown)]⟩]⟩

def delete (store : DiskStore) (tree : FileTree) (key : String) : FileTree × List Signal :=
  let path := store.pathOf key
  match tree.removeFile path with
  | .ok removed => (removed, [])
  | .error .notFound => (tree, [])
  | .error cause =>
      (tree, [.log ⟨.error, .fileCache, "Failed to delete cache file",
        [("error", .shown cause.message), ("path", .shown path.shown)]⟩])

def query (store : DiskStore) (tree : FileTree) (key : String) : KeyState :=
  if !store.closed && tree.holdsFile (store.pathOf key) then .available else .notFound

def shutDown (store : DiskStore) : DiskStore := { store with closed := true }

/-- Counts what a pass did. -/
def record (store : DiskStore) (report : CleanReport) : DiskStore :=
  { store with
    cleanups := store.cleanups + 1
    evictions := store.evictions + report.evictedFiles
    bytesFreed := store.bytesFreed + report.freedBytes }

def cleanMetrics (store : DiskStore) (report : CleanReport) : List Signal :=
  let tags := [("cache", store.name)]
  [.metric (.count "disk_cache.cleanups" 1 tags),
    .metric (.count "disk_cache.evictions" report.evictedFiles tags),
    .metric (.count "disk_cache.bytes_freed" report.freedBytes tags),
    .metric ⟨"disk_cache.size.bytes", .gauge, some (report.sizeBefore - report.freedBytes), tags⟩]

structure Cleaned where
  store : DiskStore
  tree : FileTree
  result : Cleaning.Locked
  signals : List Signal

/-- Runs a clean pass at once, whatever the schedule says. -/
def cleanNow (store : DiskStore) (tree : FileTree) (now : Millis) (present : FileTime) : Cleaned :=
  let (next, result, signals) := Cleaning.cleanLocked tree store.root store.settings now present
  let timed : Signal :=
    .metric ⟨"disk_cache.clean.duration", .timer, none, [("cache", store.name)]⟩
  match result with
  | .failed _ => ⟨store, next, result, signals⟩
  | .skipped =>
      ⟨{ store with skippedCleanups := store.skippedCleanups + 1 }, next, result,
        signals ++ [timed, .count "disk_cache.skipped_cleanups" store.name]⟩
  | .ran report => ⟨store.record report, next, result, signals ++ timed :: store.cleanMetrics report⟩

/-- The check that follows a write: cleans if the persisted schedule says so. -/
def checkClean (store : DiskStore) (tree : FileTree) (now : Millis) (present : FileTime) :
    DiskStore × FileTree × List Signal :=
  let schedule := Cleaning.schedule (Cleaning.persisted? tree store.root) now
    store.settings.cleanInterval.toMillis
  let scheduled := { store with nextClean := schedule.next }
  if schedule.due then
    let cleaned := scheduled.cleanNow tree now present
    let failed : List Signal := match cleaned.result with
      | .failed cause =>
          [.log ⟨.error, .fileCache, "Failed to clean file cache",
            [("error", .shown cause.message), ("cache", .shown store.name)]⟩]
      | _ => []
    (cleaned.store, cleaned.tree, cleaned.signals ++ failed)
  else (scheduled, tree, [])

end DiskStore

end TieredCache
