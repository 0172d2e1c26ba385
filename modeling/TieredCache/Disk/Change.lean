import TieredCache.Disk.FileTree

/-!
The changes that lead from one tree to another. What is gone is removed before anything is made;
directories are removed from below and made from above.
-/

namespace TieredCache

inductive FileChange where
  | removeFile (path : FilePath)
  | removeDirectory (path : FilePath)
  | makeDirectory (path : FilePath)
  | writeFile (path : FilePath) (content : Bytes)
  deriving DecidableEq

namespace FileTree

def content? (tree : FileTree) (path : FilePath) : Option Bytes :=
  match tree.find? path with
  | some (.file content _ _) => some content
  | _ => none

/-- Paths of the directories that the first tree has and the second has not, shortest first. -/
def directoriesOnlyIn (tree other : FileTree) : List FilePath :=
  let paths := tree.entries.filterMap fun (path, entry) =>
    if entry.isDirectory && !other.isDirectory path then some path else none
  paths.mergeSort fun left right => left.length ≤ right.length

def removedFiles (before after : FileTree) : List FileChange :=
  before.entries.filterMap fun (path, entry) =>
    if entry.isFile && !after.isFile path then some (.removeFile path) else none

def writtenFiles (before after : FileTree) : List FileChange :=
  after.entries.filterMap fun
    | (path, .file content _ _) =>
        if before.content? path = some content then none else some (.writeFile path content)
    | (_, .directory _) => none

def changes (before after : FileTree) : List FileChange :=
  removedFiles before after ++
    ((directoriesOnlyIn before after).reverse.map .removeDirectory) ++
    ((directoriesOnlyIn after before).map .makeDirectory) ++
    writtenFiles before after

theorem find?_of_mem {tree : FileTree} (unique : (Entries.keys tree.entries).Nodup)
    {path : FilePath} {entry : Entry} (member : (path, entry) ∈ tree.entries) (below : path ≠ []) :
    tree.find? path = some entry := by
  rw [find?, if_neg below]
  exact Entries.lookup_of_mem unique member

/-- Nothing has to be done to leave a tree as it is. -/
theorem changes_self (tree : FileTree) (unique : (Entries.keys tree.entries).Nodup)
    (below : ∀ pair ∈ tree.entries, pair.1 ≠ []) : changes tree tree = [] := by
  have found : ∀ pair ∈ tree.entries, tree.find? pair.1 = some pair.2 := fun pair member =>
    find?_of_mem unique member (below pair member)
  have removed : removedFiles tree tree = [] := by
    refine List.filterMap_eq_nil_iff.mpr fun pair member => ?_
    have kept := found pair member
    obtain ⟨path, entry⟩ := pair
    simp only [isFile, kept, Option.any_some, Bool.and_not_self, Bool.false_eq_true, if_false]
  have alone : directoriesOnlyIn tree tree = [] := by
    have none : (tree.entries.filterMap fun (path, entry) =>
        if entry.isDirectory && !tree.isDirectory path then some path else none) = [] := by
      refine List.filterMap_eq_nil_iff.mpr fun pair member => ?_
      have kept := found pair member
      obtain ⟨path, entry⟩ := pair
      simp only [isDirectory, kept, Option.any_some, Bool.and_not_self, Bool.false_eq_true,
        if_false]
    rw [directoriesOnlyIn, none, List.mergeSort_nil]
  have written : writtenFiles tree tree = [] := by
    refine List.filterMap_eq_nil_iff.mpr fun pair member => ?_
    have kept := found pair member
    obtain ⟨path, entry⟩ := pair
    cases entry with
    | directory modified => rfl
    | file content accessed modified => simp only [content?, kept, if_true]
  rw [changes, removed, alone, written]
  rfl

end FileTree

end TieredCache
