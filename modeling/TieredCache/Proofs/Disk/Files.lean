import TieredCache.Disk.Store
import TieredCache.Proofs.Disk.Walks

/-!
What the operations on files do where a route leads. Main statement: writing a file beside its target
and moving it into place leaves the whole value at the target, the directories above it, and nothing
else behind.
-/

namespace TieredCache

namespace FileTree
open FilePath

structure ToFile (route : Route) (front : List Name) (leaf : Name) : Prop where
  usable : Usable route
  split : route.names = front ++ [leaf]
  forward : leaf ≠ Name.up
  short : leaf.length ≤ nameBound

variable {tree : FileTree} {route : Route} {front : List Name} {leaf : Name} {holder : FilePath}
  {content : Bytes} {accessed modified present : FileTime}

theorem ToFile.locate (file : ToFile route front leaf)
    (reached : tree.descend route.origin front = .ok holder) :
    tree.locate route = .ok (.named (holder ++ [leaf])) := by
  rw [file.usable.locate_named file.split file.forward file.short, reached]
  rfl

theorem ToFile.locate_of_lost (file : ToFile route front leaf) {cause : IoError}
    (lost : tree.descend route.origin front = .error cause) : tree.locate route = .error cause := by
  rw [file.usable.locate_named file.split file.forward file.short, lost]
  rfl

theorem ToFile.fileTarget (file : ToFile route front leaf)
    (reached : tree.descend route.origin front = .ok holder) :
    tree.fileTarget route = .ok (holder ++ [leaf]) := by
  rw [FileTree.fileTarget, file.locate reached]
  simp only [bind, Except.bind, file.usable.plain, if_true]

theorem ToFile.arrive (file : ToFile route front leaf)
    (reached : tree.descend route.origin front = .ok holder) :
    tree.arrive route = match tree.find? (holder ++ [leaf]) with
      | none => .error .notFound
      | some entry => .ok (holder ++ [leaf], entry) := by
  rw [FileTree.arrive, file.locate reached]
  simp only [bind, Except.bind, Target.place, file.usable.plain, if_true]
  cases tree.find? (holder ++ [leaf]) with
  | none => rfl
  | some entry => cases entry <;> rfl

theorem ToFile.arrive_of_lost (file : ToFile route front leaf) {cause : IoError}
    (lost : tree.descend route.origin front = .error cause) : tree.arrive route = .error cause := by
  rw [FileTree.arrive, file.locate_of_lost lost]
  rfl

/-! ### Reading and taking away -/

theorem read_of_arrive
    (there : tree.arrive route = .ok (holder, .file content accessed modified)) :
    tree.read route = .ok content := by
  rw [read, FileTree.entry, there]
  rfl

theorem read_of_missing {cause : IoError} (missing : tree.arrive route = .error cause) :
    tree.read route = .error cause := by
  rw [read, FileTree.entry, missing]
  rfl

theorem holdsFile_of_arrive {entry : Entry} (there : tree.arrive route = .ok (holder, entry)) :
    tree.holdsFile route = entry.isFile := by
  rw [holdsFile, FileTree.entry, there]
  rfl

theorem holdsFile_of_missing {cause : IoError} (missing : tree.arrive route = .error cause) :
    tree.holdsFile route = false := by
  rw [holdsFile, FileTree.entry, missing]
  rfl

theorem touch_of_arrive
    (there : tree.arrive route = .ok (holder, .file content accessed modified)) :
    tree.touch route present = tree.insert holder (.file content present modified) := by
  rw [touch, there]

theorem removeFile_of_arrive
    (there : tree.arrive route = .ok (holder, .file content accessed modified)) :
    tree.removeFile route = .ok (tree.without holder) := by
  rw [removeFile, there]
  rfl

theorem removeFile_of_missing {cause : IoError} (missing : tree.arrive route = .error cause) :
    tree.removeFile route = .error cause := by
  rw [removeFile, missing]
  rfl

/-! ### One file more or less -/

/-- What a tree becomes when one place, where no directory is, gets a file or none. -/
structure Replaced (tree other : FileTree) (place : FilePath) (entry : Option Entry) : Prop where
  find?_eq : ∀ path, other.find? path = if path = place then entry else tree.find? path
  was : tree.isDirectory place = false
  now : ∀ present, entry = some present → present.isDirectory = false

variable {other : FileTree} {place : FilePath} {after : Option Entry}

theorem Replaced.isDirectory (replaced : Replaced tree other place after) (path : FilePath) :
    other.isDirectory path = tree.isDirectory path := by
  rw [FileTree.isDirectory, replaced.find?_eq]
  split
  · rename_i same
    rw [same, replaced.was]
    cases shown : after with
    | none => rfl
    | some present => exact replaced.now present shown
  · rfl

theorem Replaced.descend (replaced : Replaced tree other place after) {names : List Name}
    {start : FilePath} (reached : tree.descend start names = .ok holder) :
    other.descend start names = .ok holder :=
  descend_mono (fun path directory => (replaced.isDirectory path).trans directory) reached

theorem Replaced.rooted (replaced : Replaced tree other place after) (rooted : tree.Rooted)
    (inside : tree.isDirectory place.dropLast = true) : other.Rooted := by
  intro path entry found
  rw [replaced.isDirectory]
  rw [replaced.find?_eq] at found
  split at found
  · rename_i same
    rw [same]
    exact inside
  · exact rooted path entry found

theorem replaced_insert (below : place ≠ []) (free : tree.isDirectory place = false) :
    Replaced tree (tree.insert place (.file content accessed modified)) place
      (some (.file content accessed modified)) := by
  refine ⟨fun path => ?_, free, fun present same => by cases same; rfl⟩
  split
  · rename_i same
    rw [same, find?_insert_self tree _ below]
  · rename_i different
    exact find?_insert_of_ne tree _ different

theorem replaced_without (below : place ≠ []) (free : tree.isDirectory place = false) :
    Replaced tree (tree.without place) place none := by
  refine ⟨fun path => ?_, free, fun present same => by cases same⟩
  split
  · rename_i same
    rw [same, find?_without_self tree below]
  · rename_i different
    exact find?_without_of_ne tree different

theorem isDirectory_of_find?_file
    (found : tree.find? place = some (.file content accessed modified)) :
    tree.isDirectory place = false := by
  rw [FileTree.isDirectory, found]
  rfl

theorem isDirectory_of_find?_none (found : tree.find? place = none) :
    tree.isDirectory place = false := by
  rw [FileTree.isDirectory, found]
  rfl

/-! ### Writing beside the target -/

open DiskStore

theorem temporary_of_missing {directory : Route} {cause : IoError}
    (missing : tree.arrive (directory.join (temporaryName 0)) = .error cause) :
    temporary tree directory = directory.join (temporaryName 0) := by
  have lost : tree.entry (directory.join (temporaryName 0)) = .error cause := by
    rw [FileTree.entry, missing]
    rfl
  rw [temporary]
  simp only [List.range_succ_eq_map, List.map_cons, List.find?_cons, lost, Except.toOption,
    Option.isNone_none, Option.getD_some]

theorem ToFile.createNew (file : ToFile route front leaf)
    (reached : tree.descend route.origin front = .ok holder)
    (vacant : tree.find? (holder ++ [leaf]) = none) :
    ∃ made, tree.createNew route accessed modified = .ok made ∧
      Replaced tree made (holder ++ [leaf]) (some (.file [] accessed modified)) := by
  refine ⟨_, ?_, replaced_insert (by simp) (isDirectory_of_find?_none vacant)⟩
  rw [FileTree.createNew, file.fileTarget reached]
  simp only [bind, Except.bind, vacant]

theorem ToFile.write {old : Bytes} {earlier : FileTime} (file : ToFile route front leaf)
    (reached : tree.descend route.origin front = .ok holder)
    (shown : tree.find? (holder ++ [leaf]) = some (.file old accessed earlier))
    (content : Bytes) (present : FileTime) :
    ∃ written, tree.write route content present modified = .ok written ∧
      Replaced tree written (holder ++ [leaf]) (some (.file content accessed modified)) := by
  refine ⟨_, ?_, replaced_insert (by simp) (isDirectory_of_find?_file shown)⟩
  rw [FileTree.write, file.fileTarget reached]
  simp only [bind, Except.bind, shown]

theorem ToFile.rename {beside : Route} {source : FilePath} (file : ToFile route front leaf)
    (reached : tree.descend route.origin front = .ok holder)
    (there : tree.arrive beside = .ok (source, .file content accessed modified))
    (free : tree.isDirectory (holder ++ [leaf]) = false) :
    tree.rename beside route =
      .ok ((tree.without source).insert (holder ++ [leaf]) (.file content accessed modified)) := by
  rw [FileTree.rename, there]
  simp only [bind, Except.bind, file.locate reached, Target.place]
  cases target : tree.find? (holder ++ [leaf]) with
  | none => rfl
  | some entry =>
      cases entry with
      | directory modified =>
          rw [FileTree.isDirectory, target] at free
          cases free
      | file earlier accessed modified => rfl

/-- Where the directory of the target is there, a move that fails once fails each time, and leaves
nothing of the temporary file. -/
theorem moveIntoPlace_eq {beside : Route} (steady : tree.raise route.parent = (tree, none))
    (further : Nat) : moveIntoPlace tree beside route further =
      match tree.rename beside route with
      | .error cause => (tree.discard beside, some cause)
      | .ok moved => (moved, none) := by
  have once : moveOnce tree beside route =
      match tree.rename beside route with
      | .error cause => (tree, some cause)
      | .ok moved => (moved, none) := by
    cases renamed : tree.rename beside route <;> simp only [moveOnce, steady, renamed]
  induction further with
  | zero =>
      rw [moveIntoPlace, once]
      cases tree.rename beside route <;> rfl
  | succ further ih =>
      rw [moveIntoPlace, once]
      cases moves : tree.rename beside route with
      | error cause =>
          rw [moves] at ih
          exact ih
      | ok moved => rfl

/-- A file in a directory that is there: it is written under another name and moved into place. -/
private theorem fillAndMove (content : Bytes) (present : FileTime) {beside : Route} {other : Name}
    (file : ToFile route front leaf) (spare : ToFile beside front other)
    (origin : beside.origin = route.origin)
    (reached : tree.descend route.origin front = .ok holder)
    (free : tree.isDirectory (holder ++ [leaf]) = false)
    (vacant : tree.find? (holder ++ [other]) = none) :
    ∃ created written moved, tree.createNew beside present 0 = .ok created ∧
      created.write beside content present 0 = .ok written ∧
      written.descend route.origin front = .ok holder ∧
      written.isDirectory holder = tree.isDirectory holder ∧
      written.rename beside route = .ok moved ∧
      Replaced tree moved (holder ++ [leaf]) (some (.file content present 0)) := by
  rw [← origin] at reached
  obtain ⟨created, creates, empty⟩ := spare.createNew reached vacant
  have started : created.find? (holder ++ [other]) = some (.file [] present 0) := by
    rw [empty.find?_eq, if_pos rfl]
  obtain ⟨written, writes, filled⟩ := spare.write (empty.descend reached) started content present
  have ready : written.find? (holder ++ [other]) = some (.file content present 0) := by
    rw [filled.find?_eq, if_pos rfl]
  have arrives := filled.descend (empty.descend reached)
  have source : written.arrive beside = .ok (holder ++ [other], .file content present 0) := by
    rw [spare.arrive arrives, ready]
  have spot : written.isDirectory (holder ++ [leaf]) = false := by
    rw [filled.isDirectory, empty.isDirectory, free]
  rw [origin] at arrives
  refine ⟨created, written, _, creates, writes, arrives, ?_, file.rename arrives source spot,
    fun path => ?_, free, fun shown same => by cases same; rfl⟩
  · rw [filled.isDirectory, empty.isDirectory]
  have gone := replaced_without (by simp) (isDirectory_of_find?_file ready)
  have put : Replaced (written.without (holder ++ [other])) _ (holder ++ [leaf])
      (some (.file content present 0)) :=
    replaced_insert (by simp) ((gone.isDirectory _).trans spot)
  rw [put.find?_eq]
  split
  · rfl
  · rw [gone.find?_eq]
    split
    · rename_i same
      rw [same, vacant]
    · rename_i different
      rw [filled.find?_eq, if_neg different, empty.find?_eq, if_neg different]

/-- Writing a file makes the directories above it and puts the whole content in place. -/
theorem writeFile_places {base extra : List Name} {start : FilePath} (rooted : tree.Rooted)
    (file : ToFile route (base ++ extra) leaf)
    (spare : ToFile (route.parent.join (temporaryName 0)) (base ++ extra) (temporaryName 0))
    (reached : tree.descend route.origin base = .ok start)
    (directory : tree.isDirectory start = true) (short : Short (base ++ extra))
    (clear : ∀ path ∈ entered start extra, tree.isFile path = false)
    (free : tree.isDirectory (follow start extra ++ [leaf]) = false)
    (fresh : follow start extra ++ [leaf] ∉ entered start extra)
    (vacant : tree.find? (follow start extra ++ [temporaryName 0]) = none)
    (unused : follow start extra ++ [temporaryName 0] ∉ entered start extra) :
    ∃ made written, Raised tree made (entered start extra) ∧ made.Rooted ∧
      made.descend route.origin (base ++ extra) = .ok (follow start extra) ∧
      writeFile tree route content present = (written, none) ∧
      Replaced made written (follow start extra ++ [leaf]) (some (.file content present 0)) := by
  have filled : route.names ≠ [] := by simp [file.split]
  have up : route.parent.names = base ++ extra := by
    rw [Route.names_parent filled, file.split, List.dropLast_concat]
  have origin : (route.parent.join (temporaryName 0)).origin = route.origin := by
    rw [Route.origin_join (by decide +kernel), Route.origin_parent]
  obtain ⟨made, makes, raised, firm, arrives⟩ := raise_raises rooted
    (fun names => file.usable.parent names) up (by rw [up]; exact short)
    (by rw [Route.origin_parent, reached]) directory clear
  rw [Route.origin_parent, up] at arrives
  have absent : ∀ {path}, tree.find? path = none → path ∉ entered start extra →
      made.find? path = none := by
    intro path missing outside
    rw [raised path, if_neg fun both => outside both.2, missing]
  have spot : made.isDirectory (follow start extra ++ [leaf]) = false := by
    rw [FileTree.isDirectory, raised, if_neg fun both => fresh both.2]
    exact free
  have lost : made.arrive (route.parent.join (temporaryName 0)) = .error .notFound := by
    rw [spare.arrive (by rw [origin, arrives]), absent vacant unused]
  obtain ⟨created, written, moved, creates, writes, leads, same, moves, replaced⟩ :=
    fillAndMove content present file spare origin arrives spot (absent vacant unused)
  have below : made.isDirectory (follow start extra) = true := by
    have onward := arrives
    rw [descend_append, descend_mono raised.isDirectory reached] at onward
    exact firm.descend (raised.isDirectory start directory) onward
  have steady : written.raise route.parent = (written, none) :=
    raise_of_present (fun names => file.usable.parent names) (by rw [up]; exact short)
      (by rw [Route.origin_parent, up, leads]) (same.trans below)
  refine ⟨made, moved, raised, firm, arrives, ?_, replaced⟩
  rw [writeFile, makes]
  simp only [temporary_of_missing lost, creates, writes, moveIntoPlace_eq steady, moves]

end FileTree

end TieredCache
