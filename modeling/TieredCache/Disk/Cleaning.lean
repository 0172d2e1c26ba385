import TieredCache.Disk.Lock
import TieredCache.Disk.Quota
import TieredCache.Key.Path

/-!
Clean passes over a cache directory, and when the next one is due. A pass removes the files that have
been unused for the longest time and then the directories without any file. The time of the next
pass is kept in a marker file that all processes sharing the directory read.
-/

namespace TieredCache

structure CleanReport where
  sizeBefore : Nat
  inodesBefore : Nat
  belowThreshold : Bool
  evictedFiles : Nat
  freedBytes : Nat
  removedDirectories : Nat
  success : Bool
  deriving DecidableEq

namespace Cleaning

def cleanTimePath (root : Route) : Route := root.join Key.cleanTimeName

def cleanLockPath (root : Route) : Route := root.join Key.cleanLockName

/-- The marker files stand directly in the root. -/
def isMarker (root path : FilePath) : Bool :=
  path = root ++ [Key.cleanTimeName] || path = root ++ [Key.cleanLockName]

/-- Visits the files below a directory, down to a number of levels, and counts what it comes by. The
marker files are passed over. -/
def walk {σ : Type} (tree : FileTree) (root : FilePath) (visit : σ → Candidate → σ) :
    Nat → FilePath → Nat × σ → Nat × σ
  | 0, _, walked => walked
  | levels + 1, directory, walked =>
      (tree.children directory).foldl (fun (inodes, visited) (path, entry) =>
        match entry with
        | .directory _ => walk tree root visit levels path (inodes + 1, visited)
        | .file content accessed _ =>
            if isMarker root path then (inodes, visited)
            else (inodes + 1, visit visited ⟨accessed, content.length, path⟩)) walked

def totalSize (files : List Candidate) : Nat :=
  files.foldl (fun total file => total + file.size) 0

/-- Takes away files, following the routes to them from the root on; the ones that could be taken away
are given back. -/
def evict (tree : FileTree) (root : FilePath) : List Candidate → FileTree × List Candidate
  | [] => (tree, [])
  | file :: rest =>
      match tree.removeFile (.between root file.path) with
      | .ok removed =>
          let (emptied, evicted) := evict removed root rest
          (emptied, file :: evicted)
      | .error _ => evict tree root rest

/-- Takes a directory away if nothing is in it, and counts it. -/
def removeEmpty (pruned : FileTree × Nat) (directory : FilePath) : FileTree × Nat :=
  if (pruned.1.children directory).isEmpty then (pruned.1.without directory, pruned.2 + 1) else pruned

/-- Takes away the directories below one that are empty or become so, down to a number of levels, and
counts them. -/
def pruneEmpty : Nat → FilePath → FileTree × Nat → FileTree × Nat
  | 0, _, pruned => pruned
  | levels + 1, directory, pruned =>
      (pruned.1.children directory).foldl (fun pruned (path, entry) =>
        if entry.isDirectory then removeEmpty (pruneEmpty levels path pruned) path else pruned) pruned

structure Pass where
  tree : FileTree
  report : CleanReport
  signals : List Signal

def note (level : LogLevel) (message : String) (fields : List (String × LogValue)) : Signal :=
  .log ⟨level, .cleaning, message, fields⟩

def usageFields (size inodes : Nat) : List (String × LogValue) :=
  [("size", .number size), ("inodes", .number inodes)]

def unlisted (root : Route) (cause : IoError) : Signal :=
  note .warn "Failed to list cache directory"
    [("error", .shown cause.message), ("path", .shown root.shown)]

/-- The place of the root, if it is a directory that can be listed. -/
def rootPlace (tree : FileTree) (root : Route) : Except IoError FilePath := do
  match ← tree.arrive root with
  | (place, .directory _) => .ok place
  | (_, .file ..) => .error .notADirectory

/-- A pass over a directory with the given place. -/
def cleanPlace (tree : FileTree) (place : FilePath) (settings : DiskSettings) : Pass :=
  let (inodes, size) :=
    walk tree place (fun size file => size + file.size) tree.height place (0, 0)
  let sizeExceeded := size ≥ quarters 5 settings.targetSize
  let inodesExceeded := settings.targetInodes.any fun target => inodes ≥ quarters 5 target
  if !sizeExceeded && !inodesExceeded then
    ⟨tree, ⟨size, inodes, true, 0, 0, 0, true⟩,
      [note .debug "Cache usage is below threshold, not cleaning" (usageFields size inodes)]⟩
  else
    let demand : Demand :=
      ⟨size - quarters 3 settings.targetSize,
        settings.targetInodes.elim 0 fun target => inodes - quarters 3 target⟩
    let (_, selection) :=
      walk tree place (Selection.offer demand) tree.height place (0, Selection.empty)
    let chosen := selection.oldestFirst
    let (emptied, evicted) := evict tree place chosen
    let (pruned, removed) := pruneEmpty emptied.height place (emptied, 0)
    let freed := totalSize evicted
    let report : CleanReport :=
      ⟨size, inodes, false, evicted.length, freed, removed, decide (evicted.length = chosen.length)⟩
    ⟨pruned, report,
      [note .info "Cleaning file cache" (usageFields size inodes ++
          [("bytes_to_free", .number demand.bytes), ("files_to_free", .number demand.files)]),
        note .info ("Evicted " ++ toString evicted.length ++ " files and " ++ toString removed ++
          " directories, totaling " ++ toString freed ++ " bytes") []]⟩

/-- One clean pass, without regard to the schedule and the lock. A root that cannot be listed counts
as empty. -/
def clean (tree : FileTree) (root : Route) (settings : DiskSettings) : Pass :=
  match rootPlace tree root with
  | .ok place => cleanPlace tree place settings
  | .error cause =>
      let pass := cleanPlace {} [] settings
      let again := if pass.report.belowThreshold then [] else [unlisted root cause]
      ⟨tree, { pass.report with success := false },
        unlisted root cause :: pass.signals.take 1 ++ again ++ pass.signals.drop 1⟩

/-! ### The schedule -/

/-- Whether a pass is due, and when the next one will be. -/
structure Schedule where
  due : Bool
  next : Millis
  deriving DecidableEq

/-- What the marker file says: nothing readable, or the time of the next pass. -/
def persisted? (tree : FileTree) (root : Route) : Option Millis :=
  match tree.read (cleanTimePath root) with
  | .error _ => none
  | .ok content =>
      (Text.ofBytes? content).bind fun text =>
        (Text.integer? (Text.trim text.toList)).bind Millis.ofInt?

/-- A pass is due at the persisted time, or at once if no time is persisted or it lies more than an
interval ahead. -/
def schedule (persisted : Option Millis) (now interval : Millis) : Schedule :=
  match persisted with
  | none => ⟨true, now + interval⟩
  | some time =>
      if now + interval < time || time ≤ now then ⟨true, now + interval⟩ else ⟨false, time⟩

/-- Writes the time of the next pass into the marker file. -/
def persist (tree : FileTree) (root : Route) (next : Millis) (present : FileTime) :
    FileTree × List Signal :=
  match tree.write (cleanTimePath root) (Text.bytes (toString next.value)) present 0 with
  | .ok written => (written, [])
  | .error cause =>
      (tree, [note .warn "Failed to persist next clean time" [("error", .shown cause.message)]])

/-- What came of a pass that needs the lock: it failed, the lock was held elsewhere, or it ran. -/
inductive Locked where
  | failed (cause : IoError)
  | skipped
  | ran (report : CleanReport)
  deriving DecidableEq

/-- A clean pass that holds the lock. The next time is persisted first, so that others keep away for
a whole interval. -/
def cleanLocked (tree : FileTree) (root : Route) (settings : DiskSettings) (now : Millis)
    (present : FileTime) : FileTree × Locked × List Signal :=
  let path := cleanLockPath root
  let attempt := Lock.acquire tree path 0 settings.lockTimeout
  match attempt.attempt with
  | .failed cause => (attempt.tree, .failed cause, attempt.signals)
  | .held =>
      (attempt.tree, .skipped, attempt.signals ++
        [note .debug "Clean lock is held elsewhere, skipping" [("root", .shown root.shown)]])
  | .taken =>
      let (marked, markSignals) :=
        persist attempt.tree root (now + settings.cleanInterval.toMillis) present
      let pass := clean marked root settings
      let (released, releaseSignals) := Lock.release pass.tree path
      (released, .ran pass.report,
        attempt.signals ++ markSignals ++ pass.signals ++ releaseSignals)

end Cleaning

end TieredCache
