import TieredCache.Disk.Change
import TieredCache.Proofs.Disk.Files
import TieredCache.Proofs.Key.Distinct

/-!
One file per key. A key's path leads to a place below the root of the store; where the root is tidy,
what the operations on a key do depends on the file at its place alone, and no file at another place
changes.
-/

namespace TieredCache

namespace DiskStore
open FilePath FileTree

variable {store : DiskStore} {tree other : FileTree} {place : FilePath} {key : String}

theorem rootPlace_eq_ok {root : Route} : Cleaning.rootPlace tree root = .ok place ↔
    ∃ modified, tree.arrive root = .ok (place, .directory modified) := by
  unfold Cleaning.rootPlace
  cases tree.arrive root with
  | error cause => simp [bind, Except.bind]
  | ok found =>
      obtain ⟨path, entry⟩ := found
      cases entry with
      | directory modified => simp [bind, Except.bind]
      | file content accessed modified => simp [bind, Except.bind]

def placeOf (store : DiskStore) (key : String) : FilePath :=
  follow (store.pathOf key).origin (store.pathOf key).names

def isTemporaryName (name : Name) : Bool :=
  (Text.bytes ".tmp").isPrefixOf name && name.length = 10

/-- A key whose path the operating system takes, also with a temporary file in place of the last name,
and none of whose names is one of a temporary file. -/
structure Fits (store : DiskStore) (key : String) : Prop where
  brief : (store.pathOf key).text.length < pathBound
  spare : (store.pathOf key).parent.text.length + 11 < pathBound
  apart : ∀ name ∈ names (Key.relativePath store.root.text key), isTemporaryName name = false

structure Lodged (store : DiskStore) (place : FilePath) (key : String) (folders : List Name)
    (leaf : Name) : Prop where
  filed : Key.Filed (Key.relativePath store.root.text key) folders leaf
  file : ToFile (store.pathOf key) (store.root.names ++ folders) leaf
  spare : ToFile ((store.pathOf key).parent.join (temporaryName 0)) (store.root.names ++ folders)
    (temporaryName 0)
  origin : (store.pathOf key).origin = store.root.origin
  apart : ∀ name ∈ folders ++ [leaf], isTemporaryName name = false
  lodge : store.placeOf key = follow place folders ++ [leaf]

/-- A tree in which the root of a store is a directory that holds nothing but what the store puts
there. -/
structure Tidy (store : DiskStore) (place : FilePath) (tree : FileTree) : Prop where
  rooted : tree.Rooted
  clean : (0 : UInt8) ∉ store.root.text
  reached : tree.descend store.root.origin store.root.names = .ok place
  there : tree.isDirectory place = true
  files : ∀ front name, tree.isFile (place ++ front ++ [name]) = true → Key.isFileName name = true
  directories : ∀ front name, tree.isDirectory (place ++ front ++ [name]) = true →
    Key.isFileName name = false ∧ isTemporaryName name = false

theorem length_join_le (root relative : Bytes) :
    (Key.join root relative).length ≤ root.length + (1 + relative.length) := by
  rw [Key.join]
  split <;> simp only [List.length_append, List.length_cons] <;> omega

/-- A relative path below a directory is usable when the two are, and its last name is one. -/
theorem usable_join {root : Route} {relative : Bytes} {before : List Name} {leaf : Name}
    (below : Route.isAbsolute relative = false) (brief : (root.join relative).text.length < pathBound)
    (clean : (0 : UInt8) ∉ root.text) (own : 0 ∉ relative)
    (ends : names relative = before ++ [leaf]) (forward : leads leaf = true) :
    Usable (root.join relative) := by
  have text : (root.join relative).text = Key.join root.text relative := Route.join_text below
  refine ⟨?_, brief, ?_⟩
  · rw [text]
    intro member
    rcases Route.mem_join_text (by decide) member with early | late
    · exact clean early
    · exact own late
  · obtain ⟨front, joined⟩ := Route.names_join_text root.text relative
    have whole : names (root.join relative).text = (front ++ before) ++ [leaf] := by
      rw [text, joined, ends, List.append_assoc]
    exact Route.ending_of_last whole forward

/-- The temporary file of a route stands beside its target. -/
theorem toFile_temporary {route : Route} {front : List Name} {leaf : Name} (usable : Usable route)
    (split : route.names = front ++ [leaf]) (spare : route.parent.text.length + 11 < pathBound) :
    ToFile (route.parent.join (temporaryName 0)) front (temporaryName 0) := by
  have plain : names (temporaryName 0) = [temporaryName 0] := by decide +kernel
  have ready : FilePath.leads (temporaryName 0) = true := by decide +kernel
  have relative : Route.isAbsolute (temporaryName 0) = false := by decide +kernel
  have long : (temporaryName 0).length = 10 := by decide +kernel
  have brief : (route.parent.join (temporaryName 0)).text.length < pathBound := by
    rw [show (route.parent.join (temporaryName 0)).text =
      Key.join route.parent.text (temporaryName 0) from Route.join_text relative]
    have longest := length_join_le route.parent.text (temporaryName 0)
    rw [long] at longest
    exact Nat.lt_of_le_of_lt longest spare
  refine ⟨usable_join relative brief (Route.not_mem_parent (by decide) usable.clean)
    (by decide +kernel) (plain.trans (List.nil_append _).symm) ready, ?_, by decide +kernel, ?_⟩
  · have filled : route.names ≠ [] := by simp [split]
    rw [Route.names_join relative, Route.names_parent filled, split, List.dropLast_concat, leading,
      plain, List.filter_cons, if_pos ready]
    rfl
  · rw [long]
    decide

/-- Every key that fits has its place. -/
theorem Tidy.lodged (tidy : Tidy store place tree) (fits : Fits store key) :
    ∃ folders leaf, Lodged store place key folders leaf := by
  obtain ⟨folders, leaf, filed⟩ := Key.filed_relativePath store.root.text key
  obtain ⟨before, ends⟩ := filed.ends
  have forward := Key.ne_up_of_isFileName filed.file
  have split : (store.pathOf key).names = (store.root.names ++ folders) ++ [leaf] := by
    rw [pathOf, Route.names_join filed.below, filed.split, List.append_assoc]
  have usable : Usable (store.pathOf key) := usable_join filed.below fits.brief tidy.clean
    filed.clean ends (Key.leads_of_isFileName filed.file)
  have origin : (store.pathOf key).origin = store.root.origin := Route.origin_join filed.below
  refine ⟨folders, leaf, filed, ⟨usable, split, forward, filed.short leaf (by simp)⟩,
    toFile_temporary usable split fits.spare, origin, fun name member => ?_, ?_⟩
  · rw [← filed.split] at member
    exact fits.apart name (List.mem_filter.mp member).1
  · have top := (of_descend tidy.reached).1
    rw [placeOf, split, origin, List.append_assoc, follow_append, ← top, follow_concat _ _ forward]

variable {folders : List Name} {leaf : Name}

/-! ### What is at a key's place -/

theorem Lodged.short (lodged : Lodged store place key folders leaf) (tidy : Tidy store place tree) :
    Short (store.root.names ++ folders) := by
  intro name member
  rcases List.mem_append.mp member with early | late
  · exact short_of_descend tidy.reached name early
  · exact lodged.filed.short name (List.mem_append_left _ late)

theorem Lodged.clear (lodged : Lodged store place key folders leaf) (tidy : Tidy store place tree) :
    ∀ path ∈ entered place folders, tree.isFile path = false := by
  intro path member
  obtain ⟨front, name, own, rfl⟩ := (lodged.filed.grounded place).2 path member
  cases file : tree.isFile (place ++ front ++ [name]) with
  | false => rfl
  | true =>
      have folder := lodged.filed.folder name own
      rw [tidy.files front name file] at folder
      cases folder

theorem Lodged.free (lodged : Lodged store place key folders leaf) (tidy : Tidy store place tree) :
    tree.isDirectory (follow place folders ++ [leaf]) = false := by
  obtain ⟨further, forward⟩ := (lodged.filed.grounded place).1
  cases directory : tree.isDirectory (follow place folders ++ [leaf]) with
  | false => rfl
  | true =>
      rw [forward] at directory
      have folder := (tidy.directories further leaf directory).1
      rw [lodged.filed.file] at folder
      cases folder

theorem Lodged.vacant (lodged : Lodged store place key folders leaf)
    (tidy : Tidy store place tree) :
    tree.find? (follow place folders ++ [temporaryName 0]) = none := by
  obtain ⟨further, forward⟩ := (lodged.filed.grounded place).1
  have nofile : tree.isFile (follow place folders ++ [temporaryName 0]) = false := by
    cases file : tree.isFile (follow place folders ++ [temporaryName 0]) with
    | false => rfl
    | true =>
        rw [forward] at file
        exact absurd (tidy.files further _ file) (by decide +kernel)
  rcases isFile_eq_false_iff.mp nofile with missing | directory
  · exact missing
  · rw [forward] at directory
    exact absurd (tidy.directories further _ directory).2 (by decide +kernel)

theorem Lodged.not_entered (lodged : Lodged store place key folders leaf) {name : Name}
    (other : name ∉ folders) : follow place folders ++ [name] ∉ entered place folders := by
  intro member
  obtain ⟨front, last, own, same⟩ := (lodged.filed.grounded place).2 _ member
  have lasts := List.append_inj_right' same rfl
  rw [(List.cons.inj lasts).1] at other
  exact other own

def Opened (store : DiskStore) (tree : FileTree) (key : String) : Prop :=
  tree.descend (store.pathOf key).origin (store.pathOf key).names.dropLast =
    .ok (store.placeOf key).dropLast

structure Holds (store : DiskStore) (tree : FileTree) (key : String) (value : Option Bytes) :
    Prop where
  content : tree.content? (store.placeOf key) = value
  opened : value ≠ none → Opened store tree key

theorem Lodged.opened_iff (lodged : Lodged store place key folders leaf) :
    Opened store tree key ↔ tree.descend (store.pathOf key).origin (store.root.names ++ folders) =
      .ok (follow place folders) := by
  rw [Opened, lodged.file.split, lodged.lodge, List.dropLast_concat, List.dropLast_concat]

/-- A key's path leads to its file, or to nothing. -/
theorem Tidy.arrive (tidy : Tidy store place tree) (fits : Fits store key) {value : Option Bytes}
    (holds : Holds store tree key value) : value = none ∧
        tree.arrive (store.pathOf key) = .error .notFound ∨
      ∃ content accessed modified, value = some content ∧ tree.arrive (store.pathOf key) =
        .ok (store.placeOf key, .file content accessed modified) := by
  obtain ⟨folders, leaf, lodged⟩ := tidy.lodged fits
  have held := holds.content
  have free := lodged.free tidy
  have ways : tree.descend (store.pathOf key).origin (store.root.names ++ folders) =
      tree.descend place folders := by
    rw [descend_append, lodged.origin, tidy.reached]
    rfl
  have short : Short folders := fun name member =>
    lodged.filed.short name (List.mem_append_left _ member)
  rw [lodged.lodge, content?] at held
  rcases descend_of_clear short (lodged.clear tidy) with reached | lost
  · have there := lodged.file.arrive (ways.trans reached)
    cases found : tree.find? (follow place folders ++ [leaf]) with
    | none =>
        rw [found] at there held
        exact .inl ⟨held.symm, there⟩
    | some entry =>
        rw [found] at there held
        cases entry with
        | directory modified =>
            rw [isDirectory, found] at free
            cases free
        | file content accessed modified =>
            rw [← lodged.lodge] at there
            exact .inr ⟨content, accessed, modified, held.symm, there⟩
  · left
    refine ⟨?_, lodged.file.arrive_of_lost (ways.trans lost)⟩
    cases shown : value with
    | none => rfl
    | some content =>
        have reaches := lodged.opened_iff.mp (holds.opened (by simp [shown]))
        rw [ways, lost] at reaches
        cases reaches

end DiskStore

end TieredCache
