import TieredCache.Disk.Route
import TieredCache.Entries

/-!
A tree of directories and files. The top itself is always there. An operation follows a route: every
name before the last has to lead to a directory, and the route has to be short enough for the operating
system.
-/

namespace TieredCache

inductive IoError where
  | notFound | alreadyExists | notADirectory | isADirectory | directoryNotEmpty | nameTooLong |
    zeroOctet
  deriving DecidableEq

namespace IoError

def kindName : IoError → String
  | notFound => "NotFound"
  | alreadyExists => "AlreadyExists"
  | notADirectory => "NotADirectory"
  | isADirectory => "IsADirectory"
  | directoryNotEmpty => "DirectoryNotEmpty"
  | nameTooLong => "InvalidFilename"
  | zeroOctet => "InvalidInput"

def message : IoError → String
  | notFound => "No such file or directory (os error 2)"
  | alreadyExists => "File exists (os error 17)"
  | notADirectory => "Not a directory (os error 20)"
  | isADirectory => "Is a directory (os error 21)"
  | directoryNotEmpty => "Directory not empty (os error 39)"
  | nameTooLong => "File name too long (os error 36)"
  | zeroOctet => "file name contained an unexpected NUL byte"

end IoError

/-- A time of access or change in nanoseconds. -/
abbrev FileTime := Int

inductive Entry where
  | directory (modified : FileTime)
  | file (content : Bytes) (accessed modified : FileTime)
  deriving DecidableEq

namespace Entry

def isDirectory : Entry → Bool
  | directory _ => true
  | file .. => false

def isFile (entry : Entry) : Bool := !entry.isDirectory

def modified : Entry → FileTime
  | directory modified => modified
  | file _ _ modified => modified

end Entry

structure FileTree where
  entries : List (FilePath × Entry) := []

namespace FileTree

/-- A route of this many octets is too long. -/
def pathBound : Nat := 4096

def find? (tree : FileTree) (path : FilePath) : Option Entry :=
  if path = [] then some (.directory 0) else tree.entries.lookup path

def isDirectory (tree : FileTree) (path : FilePath) : Bool :=
  (tree.find? path).any Entry.isDirectory

def isFile (tree : FileTree) (path : FilePath) : Bool :=
  (tree.find? path).any Entry.isFile

/-- A name of more octets is too long. -/
def nameBound : Nat := 255

/-- Follows names that all have to lead to directories. -/
def descend (tree : FileTree) (place : FilePath) : List Name → Except IoError FilePath
  | [] => .ok place
  | name :: rest =>
      if name = Name.up then descend tree place.dropLast rest
      else if name.length > nameBound then .error .nameTooLong
      else
        match tree.find? (place ++ [name]) with
        | none => .error .notFound
        | some (.file ..) => .error .notADirectory
        | some (.directory _) => descend tree (place ++ [name]) rest

/-- Where a route leads. -/
inductive Target where
  /-- To a directory that is there, as the route does not end in a name. -/
  | directory (place : FilePath)
  /-- To a name in a directory, whether something stands there or not. -/
  | named (place : FilePath)
  deriving DecidableEq

def Target.place : Target → FilePath
  | directory place | named place => place

/-- Follows a route. -/
def locate (tree : FileTree) (route : Route) : Except IoError Target :=
  if route.text.contains 0 then .error .zeroOctet
  else if route.text.isEmpty then .error .notFound
  else if route.text.length ≥ pathBound then .error .nameTooLong
  else
    match route.names.getLast? with
    | none => .ok (.directory route.origin)
    | some last =>
        if last = Name.up || route.ending = .dot then
          (tree.descend route.origin route.names).map .directory
        else
          do
            let holder ← tree.descend route.origin route.names.dropLast
            if last.length > nameBound then .error .nameTooLong else .ok (.named (holder ++ [last]))

/-- The place that a route leads to and the entry there. A slash at the end asks for a directory. -/
def arrive (tree : FileTree) (route : Route) : Except IoError (FilePath × Entry) := do
  let place := (← tree.locate route).place
  match tree.find? place with
  | none => .error .notFound
  | some (.directory modified) => .ok (place, .directory modified)
  | some entry => if route.ending = .plain then .ok (place, entry) else .error .notADirectory

/-- The entry that a route leads to. -/
def entry (tree : FileTree) (route : Route) : Except IoError Entry :=
  (tree.arrive route).map (·.2)

def without (tree : FileTree) (path : FilePath) : FileTree :=
  { entries := Entries.erase tree.entries path }

def insert (tree : FileTree) (path : FilePath) (entry : Entry) : FileTree :=
  { entries := Entries.insert tree.entries path entry }

theorem find?_insert_self (tree : FileTree) {path : FilePath} (entry : Entry) (below : path ≠ []) :
    (tree.insert path entry).find? path = some entry := by
  rw [find?, if_neg below]
  exact Entries.lookup_insert_self tree.entries path entry

theorem find?_insert_of_ne (tree : FileTree) {path other : FilePath} (entry : Entry)
    (different : other ≠ path) : (tree.insert path entry).find? other = tree.find? other := by
  unfold find?
  split
  · rfl
  · exact Entries.lookup_insert_of_ne tree.entries entry different

theorem find?_without_self (tree : FileTree) {path : FilePath} (below : path ≠ []) :
    (tree.without path).find? path = none := by
  rw [find?, if_neg below]
  exact Entries.lookup_erase_self tree.entries path

theorem find?_without_of_ne (tree : FileTree) {path other : FilePath} (different : other ≠ path) :
    (tree.without path).find? other = tree.find? other := by
  unfold find?
  split
  · rfl
  · exact Entries.lookup_erase_of_ne tree.entries different

def holdsFile (tree : FileTree) (route : Route) : Bool :=
  match tree.entry route with
  | .ok entry => entry.isFile
  | .error _ => false

def holdsDirectory (tree : FileTree) (route : Route) : Bool :=
  match tree.entry route with
  | .ok entry => entry.isDirectory
  | .error _ => false

def read (tree : FileTree) (route : Route) : Except IoError Bytes := do
  match ← tree.entry route with
  | .file content _ _ => .ok content
  | .directory _ => .error .isADirectory

/-- Notes an access to a file. -/
def touch (tree : FileTree) (route : Route) (time : FileTime) : FileTree :=
  match tree.arrive route with
  | .ok (place, .file content _ modified) => tree.insert place (.file content time modified)
  | _ => tree

def makeDirectory (tree : FileTree) (route : Route) : Except IoError FileTree := do
  match ← tree.locate route with
  | .directory _ => .error .alreadyExists
  | .named place =>
      match tree.find? place with
      | some _ => .error .alreadyExists
      | none => .ok (tree.insert place (.directory 0))

/-- Makes the first directory of a row in which each stands above the one before. Those above that are
missing are made first, and stay when one below them cannot be made. -/
def makeAll (tree : FileTree) : List Route → FileTree × Option IoError
  | [] => (tree, none)
  | route :: above =>
      match tree.makeDirectory route with
      | .ok made => (made, none)
      | .error .notFound =>
          match makeAll tree above with
          | (raised, some cause) => (raised, some cause)
          | (raised, none) =>
              match raised.makeDirectory route with
              | .ok made => (made, none)
              | .error cause =>
                  (raised, if raised.holdsDirectory route then none else some cause)
      | .error cause => (tree, if tree.holdsDirectory route then none else some cause)

/-- Makes a directory and those above it that are missing. -/
def raise (tree : FileTree) (route : Route) : FileTree × Option IoError :=
  tree.makeAll route.ancestors

/-- The tree in which a directory and those above it were made, if that worked. -/
def makeDirectories (tree : FileTree) (route : Route) : Except IoError FileTree :=
  match tree.raise route with
  | (made, none) => .ok made
  | (_, some cause) => .error cause

theorem makeDirectories_eq_ok {tree made : FileTree} {route : Route} :
    tree.makeDirectories route = .ok made ↔ tree.raise route = (made, none) := by
  rw [makeDirectories]
  rcases tree.raise route with ⟨raised, _ | cause⟩ <;> simp

/-- Where a file may be created or written. -/
def fileTarget (tree : FileTree) (route : Route) : Except IoError FilePath := do
  match ← tree.locate route with
  | .directory _ => .error .isADirectory
  | .named place => if route.ending = .plain then .ok place else .error .isADirectory

/-- Creates an empty file where nothing stands yet. -/
def createNew (tree : FileTree) (route : Route) (accessed modified : FileTime) :
    Except IoError FileTree := do
  let place ← tree.fileTarget route
  match tree.find? place with
  | some _ => .error .alreadyExists
  | none => .ok (tree.insert place (.file [] accessed modified))

/-- Writes a file in place, creating it if it is missing. A file that is there keeps the time of its
last access. -/
def write (tree : FileTree) (route : Route) (content : Bytes) (accessed modified : FileTime) :
    Except IoError FileTree := do
  let place ← tree.fileTarget route
  match tree.find? place with
  | some (.directory _) => .error .isADirectory
  | some (.file _ earlier _) => .ok (tree.insert place (.file content earlier modified))
  | none => .ok (tree.insert place (.file content accessed modified))

/-- Moves an entry, with all that is below it; a file takes the place of a file. -/
def rename (tree : FileTree) (source target : Route) : Except IoError FileTree := do
  let (origin, moved) ← tree.arrive source
  let place := (← tree.locate target).place
  match tree.find? place, moved with
  | some (.directory _), .file .. => .error .isADirectory
  | some (.file ..), .directory _ => .error .notADirectory
  | some (.directory _), .directory _ => .error .directoryNotEmpty
  | _, .file .. => .ok ((tree.without origin).insert place moved)
  | none, .directory _ =>
      .ok { entries := tree.entries.map fun (path, entry) =>
        if origin.isPrefixOf path then (place ++ path.drop origin.length, entry) else (path, entry) }

def removeFile (tree : FileTree) (route : Route) : Except IoError FileTree := do
  match ← tree.arrive route with
  | (place, .file ..) => .ok (tree.without place)
  | (_, .directory _) => .error .isADirectory

/-- Removes a file if there is one. -/
def discard (tree : FileTree) (route : Route) : FileTree :=
  (tree.removeFile route).toOption.getD tree

/-- Removes an entry and all that is below it. -/
def removeAll (tree : FileTree) (path : FilePath) : FileTree :=
  { entries := tree.entries.filter fun (other, _) => !path.isPrefixOf other }

/-- Removes all that is strictly below a path. -/
def clear (tree : FileTree) (path : FilePath) : FileTree :=
  { entries := tree.entries.filter fun (other, _) => !path.isAbove other }

/-- Entries strictly below a path. -/
def below (tree : FileTree) (path : FilePath) : List (FilePath × Entry) :=
  tree.entries.filter fun (other, _) => path.isAbove other

/-- Entries directly in a directory. -/
def children (tree : FileTree) (directory : FilePath) : List (FilePath × Entry) :=
  tree.entries.filter fun (path, _) => path ≠ [] && path.dropLast = directory

/-- How many names the longest path has. -/
def height (tree : FileTree) : Nat :=
  tree.entries.foldl (fun height (path, _) => max height path.length) 0

end FileTree

end TieredCache
