import TieredCache.Session.State

/-! Steps that look at or change the disk and the object store behind the back of the layers. -/

namespace TieredCache.Session

/-- Whether a path belongs to files whose access times are not kept. -/
def isUntimed (path : Bytes) : Bool :=
  path.head? = some 33 && !Key.hashedMark.isPrefixOf path

def listedFile? (home : FilePath) : FilePath × Entry → Option ListedFile
  | (path, .file content accessed _) =>
      let relative := FilePath.toBytes (path.drop home.length)
      some ⟨relative, content.length, if isUntimed relative then none else some accessed⟩
  | (_, .directory _) => none

/-- The files below a directory. -/
def listedFiles (tree : FileTree) (home : FilePath) : List ListedFile :=
  (tree.below home).filterMap (listedFile? home)

/-- The directories below a directory, in order. -/
def listedDirectories (tree : FileTree) (home : FilePath) : List Bytes :=
  let directories := ((tree.below home).filter (·.2.isDirectory)).map fun (path, _) =>
    FilePath.toBytes (path.drop home.length)
  directories.mergeSort fun left right => decide (left ≤ right)

/-- The route that a text names in a directory. -/
def routeIn (home : FilePath) (path : Bytes) : Route := (Route.ofPlace home).join path

/-- Writes a file, making the directories above it. -/
def writeDraft (tree : FileTree) (home : FilePath) (draft : FileDraft) : Except IoError FileTree := do
  let route := routeIn home draft.path
  let prepared ← tree.makeDirectories route.parent
  let written ← prepared.write route draft.content draft.accessed draft.modified
  return written.touch route draft.accessed

/-- Removes what a route leads to, with all that is below it, and tells whether that is gone. A
directory named by a dot is only emptied. -/
def removeTarget (tree : FileTree) (route : Route) : FileTree × Bool :=
  match tree.arrive route with
  | .error _ => (tree, false)
  | .ok (place, .file ..) => (tree.without place, true)
  | .ok (place, .directory _) =>
      if route.names.getLast? = some Name.up then (tree.clear place, true)
      else if route.ending = .dot then (tree.clear place, false)
      else (tree.removeAll place, true)

def startDisk (session : Session) (action : DiskAction) : Started :=
  let tree := session.stack.tree
  let route (path : Bytes) : Route := routeIn session.home path
  let changed (result : Except IoError FileTree) : Started :=
    ⟨session.withTree (result.toOption.getD tree), [], fun _ => .nothing⟩
  match action with
  | .list =>
      session.answered (.listing (listedFiles tree session.home) (listedDirectories tree session.home))
  | .read path => session.answered (.content (tree.read (route path)).toOption)
  | .write draft => changed (writeDraft tree session.home draft)
  | .makeDirectory path => changed (tree.makeDirectories (route path))
  | .setAccess path time =>
      (session.withTree (tree.touch (route path) time)).answered
        (.flag (tree.entry (route path)).toOption.isSome)
  | .remove path =>
      let (next, removed) := removeTarget tree (route path)
      (session.withTree next).answered (.flag removed)
  | .removeHome => changed (.ok (tree.removeAll session.home))

def startService (session : Session) (action : ServiceAction) : Started :=
  let service := session.service
  let changed (store : ObjectStore) : Started :=
    ⟨{ session with service := { service with store } }, [], fun _ => .nothing⟩
  match action with
  | .setMode mode => changed { service.store with mode }
  | .resume => changed { service.store with mode := .serving }
  | .list => session.answered (.objects service.store.objects)
  | .insert target content => changed (service.store.insert target content)

end TieredCache.Session
