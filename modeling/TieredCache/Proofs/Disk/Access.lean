import TieredCache.Disk.Store

/-!
Trees that differ only in when their files were used. Reading tells nothing of these times, so a
lookup that notes a use leaves what all lookups find.
-/

namespace TieredCache

def Entry.untimed : Entry → Entry
  | .directory modified => .directory modified
  | .file content _ modified => .file content 0 modified

namespace FileTree

def SameFiles (tree other : FileTree) : Prop :=
  ∀ path, (other.find? path).map Entry.untimed = (tree.find? path).map Entry.untimed

variable {tree other : FileTree}

theorem SameFiles.descend (same : SameFiles tree other) (place : FilePath) (names : List Name) :
    other.descend place names = tree.descend place names := by
  induction names generalizing place with
  | nil => rfl
  | cons name rest ih =>
      have entries := same (place ++ [name])
      rw [FileTree.descend, FileTree.descend]
      split
      · exact ih _
      · split
        · rfl
        · -- Both trees have nothing here, or a file, or a directory.
          cases left : other.find? (place ++ [name]) with
          | none =>
              cases right : tree.find? (place ++ [name]) with
              | none => rfl
              | some entry => simp [left, right] at entries
          | some entry =>
              cases right : tree.find? (place ++ [name]) with
              | none => simp [left, right] at entries
              | some present =>
                  rw [left, right, Option.map_some, Option.map_some] at entries
                  cases entry <;> cases present <;> cases entries
                  · exact ih _
                  · rfl

theorem SameFiles.locate (same : SameFiles tree other) (route : Route) :
    other.locate route = tree.locate route := by
  unfold FileTree.locate
  simp only [same.descend]

theorem SameFiles.read (same : SameFiles tree other) (route : Route) :
    other.read route = tree.read route := by
  rw [FileTree.read, FileTree.read, FileTree.entry, FileTree.entry, arrive, arrive,
    same.locate route]
  cases tree.locate route with
  | error cause => rfl
  | ok target =>
      have entries := same target.place
      simp only [bind, Except.bind]
      cases left : other.find? target.place with
      | none =>
          cases right : tree.find? target.place with
          | none => rfl
          | some entry => simp [left, right] at entries
      | some entry =>
          cases right : tree.find? target.place with
          | none => simp [left, right] at entries
          | some present =>
              rw [left, right, Option.map_some, Option.map_some] at entries
              cases entry <;> cases present <;> cases entries
              · rfl
              · by_cases plain : route.ending = .plain
                · simp only [if_pos plain, Except.map]
                · simp only [if_neg plain, Except.map]

theorem sameFiles_touch (tree : FileTree) (route : Route) (time : FileTime) :
    SameFiles tree (tree.touch route time) := by
  intro path
  rw [touch]
  split
  · rename_i place content accessed modified reached
    have there : tree.find? place = some (.file content accessed modified) := by
      rw [arrive] at reached
      cases located : tree.locate route with
      | error cause =>
          rw [located] at reached
          cases reached
      | ok target =>
          rw [located] at reached
          simp only [bind, Except.bind] at reached
          split at reached
          · cases reached
          · cases reached
          · rename_i entry _ known
            split at reached
            · cases reached
              exact known
            · cases reached
    by_cases here : path = place
    · have below : place ≠ [] := by
        intro top
        rw [top, find?, if_pos rfl] at there
        cases there
      rw [here, find?_insert_self tree _ below, there]
      rfl
    · rw [find?_insert_of_ne tree _ here]
  · rfl

end FileTree

theorem DiskStore.get_sameFiles (store : DiskStore) {tree other : FileTree}
    (same : FileTree.SameFiles tree other) (key : String) (present : FileTime) :
    (store.get other key present).2.1 = (store.get tree key present).2.1 := by
  unfold get
  split
  · rfl
  · simp only [same.read]
    split <;> rfl

theorem DiskStore.sameFiles_get (store : DiskStore) (tree : FileTree) (key : String)
    (present : FileTime) : FileTree.SameFiles tree (store.get tree key present).1 := by
  unfold get
  split
  · exact fun _ => rfl
  · simp only
    split
    · exact FileTree.sameFiles_touch tree _ present
    · exact fun _ => rfl

/-- A lookup leaves what all lookups find. -/
theorem DiskStore.get_get (store : DiskStore) (tree : FileTree) (key other : String)
    (present : FileTime) :
    (store.get (store.get tree key present).1 other present).2.1 =
      (store.get tree other present).2.1 :=
  store.get_sameFiles (store.sameFiles_get tree key present) other present

end TieredCache
