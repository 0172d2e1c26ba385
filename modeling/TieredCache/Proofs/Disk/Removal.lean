import TieredCache.Proofs.Disk.Access
import TieredCache.Proofs.Disk.Targets

/-!
Removing the file of a key, whatever a tree holds and wherever the key leads. Main statement: nothing
is found for the key then (`DiskStore.lacks_delete`).
-/

namespace TieredCache

namespace FileTree

variable {tree removed : FileTree} {route : Route} {place : FilePath} {entry : Entry}

theorem read_removeFile (taken : tree.removeFile route = .ok removed) :
    removed.read route = .error .notFound := by
  obtain ⟨place, content, accessed, modified, reached, rfl⟩ := of_removeFile taken
  obtain ⟨target, located, rfl, there⟩ := of_arrive reached
  have below : target.place ≠ [] := by
    intro top
    rw [top, find?, if_pos rfl] at there
    cases there
  have gone := replaced_without below (isDirectory_of_find?_file there)
  refine read_of_missing ?_
  rw [arrive, gone.locate located]
  simp only [bind, Except.bind, find?_without_self tree below]

theorem read_of_removeFile_error {cause : IoError} (failed : tree.removeFile route = .error cause)
    (content : Bytes) : tree.read route ≠ .ok content := by
  intro found
  rw [removeFile] at failed
  rw [read, FileTree.entry] at found
  cases reached : tree.arrive route with
  | error cause =>
      rw [reached] at found
      cases found
  | ok reach =>
      obtain ⟨place, entry⟩ := reach
      rw [reached] at failed found
      cases entry with
      | directory modified => cases found
      | file content accessed modified => cases failed

end FileTree

namespace DiskStore

/-- Nothing is found for a key below a root, whatever store is opened there. -/
def Lacks (root : Route) (tree : FileTree) (key : String) : Prop :=
  ∀ store : DiskStore, store.root = root → ∀ present, (store.get tree key present).2.1 = .notFound

theorem lacks_iff {root : Route} {tree : FileTree} {key : String} :
    Lacks root tree key ↔
      ∀ content, tree.read (root.join (Key.relativePath root.text key)) ≠ .ok content := by
  constructor
  · intro lacks content found
    have answer := lacks ⟨"", root, {}, 0, false, 0, 0, 0, 0, 0⟩ rfl 0
    simp only [get, pathOf, found] at answer
    cases answer
  · rintro missing store rfl present
    unfold get
    split
    · rfl
    · cases found : tree.read (store.pathOf key) with
      | ok content => exact absurd found (missing content)
      | error cause => simp only [found]

/-- Once a key was deleted nothing is found for it. -/
theorem lacks_delete (store : DiskStore) (tree : FileTree) (key : String) :
    Lacks store.root (store.delete tree key).1 key := by
  rw [lacks_iff]
  intro content
  rw [delete, pathOf]
  split
  · rename_i taken
    rw [FileTree.read_removeFile taken]
    exact nofun
  · rename_i failed
    exact FileTree.read_of_removeFile_error failed content
  · rename_i failed
    exact FileTree.read_of_removeFile_error failed content

theorem Lacks.sameFiles {root : Route} {tree other : FileTree} {key : String}
    (same : FileTree.SameFiles tree other) : Lacks root other key ↔ Lacks root tree key := by
  rw [lacks_iff, lacks_iff, same.read]

end DiskStore

end TieredCache
