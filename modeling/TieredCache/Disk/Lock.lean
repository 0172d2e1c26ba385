import TieredCache.Disk.FileTree
import TieredCache.Signal

/-!
A lock shared by processes: the existence of a file. A lock that has not changed for its timeout is
taken to be abandoned; whoever moves it aside may create it anew.
-/

namespace TieredCache.Lock

/-- The name under which an abandoned lock is moved aside. -/
def aside (path : Route) : Route :=
  { path with text := path.text ++ Text.bytes ".stale.0.0" }

/-- What a process finds when it tries to take a lock. -/
inductive Attempt where
  | taken
  | held
  | failed (cause : IoError)
  deriving DecidableEq

structure Outcome where
  tree : FileTree
  attempt : Attempt
  signals : List Signal

def takeover (path : Route) (age : Span) : Signal :=
  .log ⟨.warn, .lock, "Taking over abandoned lock",
    [("path", .shown path.shown), ("age", .shown age.text)]⟩

/-- Moves an abandoned lock aside, removes it and creates a new one. -/
def replace (tree : FileTree) (path : Route) (now : FileTime) : FileTree × Attempt :=
  match tree.rename path (aside path) with
  | .error .notFound => (tree, .held)
  | .error cause => (tree, .failed cause)
  | .ok moved =>
      match moved.removeFile (aside path) with
      | .error cause => (moved, .failed cause)
      | .ok cleared =>
          match cleared.createNew path now now with
          | .ok locked => (locked, .taken)
          | .error .alreadyExists => (cleared, .held)
          | .error cause => (cleared, .failed cause)

/-- Tries to take the lock without waiting. -/
def acquire (tree : FileTree) (path : Route) (now : FileTime) (timeout : Span) : Outcome :=
  match tree.createNew path now now with
  | .ok locked => ⟨locked, .taken, []⟩
  | .error .alreadyExists =>
      match tree.entry path with
      | .error .notFound => ⟨tree, .held, []⟩
      | .error cause => ⟨tree, .failed cause, []⟩
      | .ok entry =>
          let age := (now - entry.modified).toNat
          if age < timeout.nanoseconds then ⟨tree, .held, []⟩
          else
            let (next, attempt) := replace tree path now
            ⟨next, attempt, [takeover path ⟨age⟩]⟩
  | .error cause => ⟨tree, .failed cause, []⟩

/-- Gives the lock up; that it is gone already is no fault. -/
def release (tree : FileTree) (path : Route) : FileTree × List Signal :=
  match tree.removeFile path with
  | .ok released => (released, [])
  | .error .notFound => (tree, [])
  | .error cause =>
      (tree, [.log ⟨.error, .lock, "Failed to release lock",
        [("error", .shown cause.message), ("path", .shown path.shown)]⟩])

end TieredCache.Lock
