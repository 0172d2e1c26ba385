import Mathlib.Logic.Function.Basic
import TieredCache.Proofs.Disk.Keyed

/-!
The store against a map from keys to values. Main statement: if a store begins with an empty root, all
its answers are those of a map exactly if no two of its keys have the same place, and they have
different places if no name in their paths is one or two dots.
-/

namespace TieredCache

namespace FileTree
open FilePath

variable {tree other made : FileTree} {place : FilePath} {places : List FilePath}

theorem Replaced.content? {entry : Option Entry} (replaced : Replaced tree other place entry)
    (path : FilePath) : other.content? path = if path = place then
      entry.bind fun present => match present with
        | .file content _ _ => some content
        | .directory _ => none
      else tree.content? path := by
  rw [FileTree.content?, replaced.find?_eq]
  by_cases same : path = place
  · rw [if_pos same, if_pos same]
    cases entry with
    | none => rfl
    | some present => cases present <;> rfl
  · rw [if_neg same, if_neg same]
    rfl

theorem Raised.content? (raised : Raised tree made places) (path : FilePath) :
    made.content? path = tree.content? path := by
  rw [FileTree.content?, FileTree.content?, raised path]
  by_cases fresh : tree.find? path = none ∧ path ∈ places
  · rw [if_pos fresh, fresh.1]
  · rw [if_neg fresh]

end FileTree

namespace DiskStore
open FilePath FileTree

/-! ### What a store and a map answer -/

inductive Operation where
  | put (key : String) (content : Bytes) (now : Millis) (present : FileTime)
  | get (key : String) (present : FileTime)
  | delete (key : String)
  | query (key : String)

inductive Answer where
  | done
  | looked (lookup : Lookup)
  | state (state : KeyState)
  deriving DecidableEq

def Operation.key : Operation → String
  | put key .. | get key _ | delete key | query key => key

def operate (store : DiskStore) (tree : FileTree) : Operation → DiskStore × FileTree × Answer
  | .put key content now present =>
      let written := store.put tree key content now present
      (written.store, written.tree, .done)
  | .get key present =>
      let (next, lookup, _) := store.get tree key present
      (store, next, .looked lookup)
  | .delete key => (store, (store.delete tree key).1, .done)
  | .query key => (store, tree, .state (store.query tree key))

def answers (store : DiskStore) (tree : FileTree) : List Operation → List Answer
  | [] => []
  | operation :: rest =>
      let (after, next, answer) := store.operate tree operation
      answer :: after.answers next rest

def operateMap (contents : String → Option Bytes) : Operation → (String → Option Bytes) × Answer
  | .put key content _ _ => (Function.update contents key (some content), .done)
  | .get key _ => (contents, .looked (Lookup.ofOption (contents key)))
  | .delete key => (Function.update contents key none, .done)
  | .query key => (contents, .state (Lookup.ofOption (contents key)).state)

def answersOfMap (contents : String → Option Bytes) : List Operation → List Answer
  | [] => []
  | operation :: rest =>
      let (after, answer) := operateMap contents operation
      answer :: answersOfMap after rest

variable {store : DiskStore} {tree next : FileTree} {place : FilePath} {key name : String}
  {value : Option Bytes}

/-! ### One operation -/

structure Changed (store : DiskStore) (tree next : FileTree) (key : String) (value : Option Bytes) :
    Prop where
  content : ∀ path, next.content? path =
    if path = store.placeOf key then value else tree.content? path
  grown : ∀ path, tree.isDirectory path = true → next.isDirectory path = true

theorem Changed.refl (holds : tree.content? (store.placeOf key) = value) :
    Changed store tree tree key value := by
  refine ⟨fun path => ?_, fun _ directory => directory⟩
  split
  · rename_i same
    rw [same, holds]
  · rfl

theorem Changed.opened (changed : Changed store tree next key value) (opened : Opened store tree name) :
    Opened store next name :=
  descend_mono changed.grown opened

theorem Changed.holds_of_ne (changed : Changed store tree next key value) {kept : Option Bytes}
    (holds : Holds store tree name kept) (apart : store.placeOf name ≠ store.placeOf key) :
    Holds store next name kept where
  content := by
    rw [changed.content, if_neg apart]
    exact holds.content
  opened := fun filled => changed.opened (holds.opened filled)

theorem Changed.holds_of_eq (changed : Changed store tree next key value)
    (opened : value ≠ none → Opened store tree name)
    (same : store.placeOf name = store.placeOf key) : Holds store next name value where
  content := by rw [changed.content, if_pos same]
  opened := fun filled => changed.opened (opened filled)

/-- What a tidy tree becomes when the file of a key is written or removed is tidy again. -/
theorem Tidy.replaced (tidy : Tidy store place tree) {folders : List Name} {leaf : Name}
    (lodged : Lodged store place key folders leaf) {entry : Option Entry}
    (replaced : Replaced tree next (store.placeOf key) entry)
    (inside : tree.isDirectory (follow place folders) = true) : Tidy store place next where
  rooted := replaced.rooted tidy.rooted (by rw [lodged.lodge, List.dropLast_concat]; exact inside)
  clean := tidy.clean
  reached := replaced.descend tidy.reached
  there := (replaced.isDirectory _).trans tidy.there
  files := by
    intro front name file
    by_cases same : place ++ front ++ [name] = store.placeOf key
    · have lasts := List.append_inj_right' (same.trans lodged.lodge) rfl
      rw [(List.cons.inj lasts).1]
      exact lodged.filed.file
    · rw [isFile, replaced.find?_eq, if_neg same] at file
      exact tidy.files front name file
  directories := by
    intro front name directory
    rw [replaced.isDirectory] at directory
    exact tidy.directories front name directory

theorem Tidy.raised (tidy : Tidy store place tree) {folders : List Name} {leaf : Name}
    (lodged : Lodged store place key folders leaf) (raised : Raised tree next (entered place folders))
    (firm : next.Rooted) : Tidy store place next where
  rooted := firm
  clean := tidy.clean
  reached := descend_mono raised.isDirectory tidy.reached
  there := raised.isDirectory place tidy.there
  files := by
    intro front name file
    rw [raised.isFile_eq] at file
    exact tidy.files front name file
  directories := by
    intro front name directory
    by_cases fresh : tree.find? (place ++ front ++ [name]) = none ∧
        place ++ front ++ [name] ∈ entered place folders
    · obtain ⟨before, last, own, same⟩ := (lodged.filed.grounded place).2 _ fresh.2
      have lasts := List.append_inj_right' same rfl
      rw [(List.cons.inj lasts).1]
      exact ⟨lodged.filed.folder last own, lodged.apart last (List.mem_append_left _ own)⟩
    · rw [isDirectory, raised, if_neg fresh] at directory
      exact tidy.directories front name directory

/-- Where the file of a key is there, so is the directory that it is in. -/
theorem Tidy.inside (tidy : Tidy store place tree) {folders : List Name} {leaf : Name}
    (lodged : Lodged store place key folders leaf) {entry : Entry}
    (found : tree.find? (store.placeOf key) = some entry) :
    tree.isDirectory (follow place folders) = true := by
  have directory := tidy.rooted _ _ found
  rwa [lodged.lodge, List.dropLast_concat] at directory

theorem put_holds (tidy : Tidy store place tree) (working : store.closed = false)
    (fits : Fits store key) (content : Bytes) (now : Millis) (present : FileTime) :
    (store.put tree key content now present).store = store ∧
      Tidy store place (store.put tree key content now present).tree ∧
      Changed store tree (store.put tree key content now present).tree key (some content) ∧
      Opened store (store.put tree key content now present).tree key := by
  obtain ⟨folders, leaf, lodged⟩ := tidy.lodged fits
  have spare : temporaryName 0 ∉ folders := by
    intro member
    have apart := lodged.apart _ (List.mem_append_left _ member)
    exact absurd apart (by decide +kernel)
  have folder : leaf ∉ folders := by
    intro member
    have other := lodged.filed.folder leaf member
    rw [lodged.filed.file] at other
    cases other
  obtain ⟨made, written, raised, firm, reaches, writes, replaced⟩ :=
    @writeFile_places tree _ leaf content present _ folders place tidy.rooted lodged.file lodged.spare
      (by rw [lodged.origin, tidy.reached]) tidy.there (lodged.short tidy) (lodged.clear tidy)
      (lodged.free tidy) (lodged.not_entered folder) (lodged.vacant tidy) (lodged.not_entered spare)
  have middle := tidy.raised lodged raised firm
  have inside : made.isDirectory (follow place folders) = true := by
    have onward := reaches
    rw [descend_append, lodged.origin, middle.reached] at onward
    exact firm.descend middle.there onward
  have puts : store.put tree key content now present =
      ⟨store, written, decide (store.nextClean ≤ now), []⟩ := by
    rw [put, working]
    simp only [Bool.false_eq_true, if_false, writes]
  rw [← lodged.lodge] at replaced
  rw [puts]
  refine ⟨rfl, middle.replaced lodged replaced inside, ⟨?_, ?_⟩, ?_⟩
  · intro path
    rw [replaced.content?, raised.content?]
    rfl
  · intro path directory
    exact (replaced.isDirectory path).trans (raised.isDirectory path directory)
  · exact lodged.opened_iff.mpr (replaced.descend reaches)

theorem get_holds (tidy : Tidy store place tree) (working : store.closed = false)
    (fits : Fits store key) (holds : Holds store tree key value) (present : FileTime) :
    (store.get tree key present).2.1 = Lookup.ofOption value ∧
      Tidy store place (store.get tree key present).1 ∧
      Changed store tree (store.get tree key present).1 key value := by
  rcases tidy.arrive fits holds with ⟨rfl, missing⟩ | ⟨content, accessed, modified, rfl, there⟩
  · have gets : store.get tree key present =
        (tree, .notFound, [.count "caches.file.miss" store.name]) := by
      rw [get, working]
      simp only [Bool.false_eq_true, if_false, read_of_missing missing]
    rw [gets]
    exact ⟨rfl, tidy, .refl holds.content⟩
  · obtain ⟨folders, leaf, lodged⟩ := tidy.lodged fits
    obtain ⟨-, -, -, found⟩ := of_arrive there
    have filled : store.placeOf key ≠ [] := by simp [lodged.lodge]
    have replaced : Replaced tree (tree.insert _ (.file content present modified)) _ _ :=
      replaced_insert filled (isDirectory_of_find?_file found)
    have gets : store.get tree key present =
        (tree.insert (store.placeOf key) (.file content present modified), .found content,
          [.count "caches.file.hit" store.name]) := by
      rw [get, working]
      simp only [Bool.false_eq_true, if_false, read_of_arrive there, touch_of_arrive there]
    rw [gets]
    exact ⟨rfl, tidy.replaced lodged replaced (tidy.inside lodged found), replaced.content?,
      fun path directory => (replaced.isDirectory path).trans directory⟩

theorem delete_holds (tidy : Tidy store place tree) (fits : Fits store key)
    (holds : Holds store tree key value) : Tidy store place (store.delete tree key).1 ∧
      Changed store tree (store.delete tree key).1 key none := by
  rcases tidy.arrive fits holds with ⟨rfl, missing⟩ | ⟨content, accessed, modified, rfl, there⟩
  · have deletes : store.delete tree key = (tree, []) := by
      rw [delete, removeFile_of_missing missing]
    rw [deletes]
    exact ⟨tidy, .refl holds.content⟩
  · obtain ⟨folders, leaf, lodged⟩ := tidy.lodged fits
    obtain ⟨-, -, -, found⟩ := of_arrive there
    have filled : store.placeOf key ≠ [] := by simp [lodged.lodge]
    have replaced := replaced_without filled (isDirectory_of_find?_file found)
    have deletes : store.delete tree key = (tree.without (store.placeOf key), []) := by
      rw [delete, removeFile_of_arrive there]
    rw [deletes]
    exact ⟨tidy.replaced lodged replaced (tidy.inside lodged found), replaced.content?,
      fun path directory => (replaced.isDirectory path).trans directory⟩

theorem query_holds (tidy : Tidy store place tree) (working : store.closed = false)
    (fits : Fits store key) (holds : Holds store tree key value) :
    store.query tree key = (Lookup.ofOption value).state := by
  rcases tidy.arrive fits holds with ⟨rfl, missing⟩ | ⟨content, accessed, modified, rfl, there⟩
  · rw [query, working, holdsFile_of_missing missing]
    rfl
  · rw [query, working, holdsFile_of_arrive there]
    rfl

/-! ### Runs of operations -/

/-- A store in use whose root is an empty directory. -/
structure Fresh (store : DiskStore) (tree : FileTree) : Prop where
  working : store.closed = false
  rooted : tree.Rooted
  empty : ∃ place, Cleaning.rootPlace tree store.root = .ok place ∧
    ∀ path, place.isAbove path = true → tree.find? path = none

theorem Fresh.tidy (fresh : Fresh store tree) : ∃ place, Tidy store place tree ∧
    ∀ path, place.isAbove path = true → tree.find? path = none := by
  obtain ⟨place, rooted, empty⟩ := fresh.empty
  obtain ⟨modified, arrived⟩ := rootPlace_eq_ok.mp rooted
  obtain ⟨reached, directory, clean⟩ := descend_of_arrive arrived
  have missing : ∀ front name, tree.find? (place ++ front ++ [name]) = none := by
    intro front name
    refine empty _ ?_
    rw [isAbove, Bool.and_eq_true, List.isPrefixOf_iff_prefix, decide_eq_true_eq]
    exact ⟨⟨front ++ [name], (List.append_assoc _ _ _).symm⟩, by simp⟩
  refine ⟨place, ⟨fresh.rooted, clean, reached, directory, ?_, ?_⟩, empty⟩
  · intro front name file
    rw [isFile, missing] at file
    cases file
  · intro front name directory
    rw [isDirectory, missing] at directory
    cases directory

structure Kept (store : DiskStore) (place : FilePath) (keys : String → Prop) (tree : FileTree)
    (contents : String → Option Bytes) : Prop where
  tidy : Tidy store place tree
  holds : ∀ key, keys key → Holds store tree key (contents key)

def Apart (store : DiskStore) (keys : String → Prop) : Prop :=
  ∀ left right, keys left → keys right → store.placeOf left = store.placeOf right → left = right

variable {keys : String → Prop} {contents : String → Option Bytes}

theorem Kept.changed (kept : Kept store place keys tree contents) (apart : Apart store keys)
    (known : keys key) (tidy : Tidy store place next) (changed : Changed store tree next key value)
    (opened : value ≠ none → Opened store next key) :
    Kept store place keys next (Function.update contents key value) where
  tidy := tidy
  holds := by
    intro name member
    by_cases same : name = key
    · rw [same, Function.update_self]
      exact ⟨by rw [changed.content, if_pos rfl], opened⟩
    · rw [Function.update_of_ne same]
      exact changed.holds_of_ne (kept.holds name member) fun equal =>
        same (apart name key member known equal)

/-- An operation is answered as the map answers it. -/
theorem Kept.operate (kept : Kept store place keys tree contents) (working : store.closed = false)
    (fits : ∀ key, keys key → Fits store key) (apart : Apart store keys) (operation : Operation)
    (known : keys operation.key) : ∃ next,
      store.operate tree operation = (store, next, (operateMap contents operation).2) ∧
        Kept store place keys next (operateMap contents operation).1 := by
  cases operation with
  | put key content now present =>
      obtain ⟨same, tidy, changed, opened⟩ :=
        put_holds kept.tidy working (fits key known) content now present
      refine ⟨(store.put tree key content now present).tree, ?_,
        kept.changed apart known tidy changed fun _ => opened⟩
      rw [DiskStore.operate, same]
      rfl
  | get key present =>
      have holds := kept.holds key known
      obtain ⟨answer, tidy, changed⟩ := get_holds kept.tidy working (fits key known) holds present
      have after := kept.changed apart known tidy changed
        fun filled => changed.opened (holds.opened filled)
      have unchanged : Function.update contents key (contents key) = contents :=
        Function.update_eq_self key contents
      refine ⟨(store.get tree key present).1, ?_, unchanged ▸ after⟩
      rw [DiskStore.operate]
      dsimp only
      rw [answer]
      rfl
  | delete key =>
      obtain ⟨tidy, changed⟩ := delete_holds kept.tidy (fits key known) (kept.holds key known)
      exact ⟨_, rfl, kept.changed apart known tidy changed fun filled => absurd rfl filled⟩
  | query key =>
      refine ⟨tree, ?_, kept⟩
      rw [DiskStore.operate, query_holds kept.tidy working (fits key known) (kept.holds key known)]
      rfl

theorem Kept.answers (kept : Kept store place keys tree contents) (working : store.closed = false)
    (fits : ∀ key, keys key → Fits store key) (apart : Apart store keys) (operations : List Operation)
    (known : ∀ operation ∈ operations, keys operation.key) :
    store.answers tree operations = answersOfMap contents operations := by
  induction operations generalizing tree contents with
  | nil => rfl
  | cons operation rest ih =>
      obtain ⟨next, operates, after⟩ :=
        kept.operate working fits apart operation (known operation List.mem_cons_self)
      have later := ih after fun other member => known other (List.mem_cons_of_mem _ member)
      rw [DiskStore.answers, operates, answersOfMap]
      dsimp only
      rw [later]

theorem Tidy.kept_of_empty (tidy : Tidy store place tree)
    (empty : ∀ path, place.isAbove path = true → tree.find? path = none)
    (fits : ∀ key, keys key → Fits store key) :
    Kept store place keys tree fun _ => none where
  tidy := tidy
  holds := by
    intro key known
    obtain ⟨folders, leaf, lodged⟩ := tidy.lodged (fits key known)
    obtain ⟨further, forward⟩ := (lodged.filed.grounded place).1
    have missing : tree.find? (store.placeOf key) = none := by
      refine empty _ ?_
      rw [lodged.lodge, forward, isAbove, Bool.and_eq_true, List.isPrefixOf_iff_prefix,
        decide_eq_true_eq]
      exact ⟨⟨further ++ [leaf], (List.append_assoc _ _ _).symm⟩, by simp⟩
    exact ⟨by rw [content?, missing], fun filled => absurd rfl filled⟩

/-- A key none of whose names is a dot or two, which the file system would follow. -/
def Undotted (store : DiskStore) (key : String) : Prop :=
  ∀ name ∈ names (Key.relativePath store.root.text key), name ≠ Name.here ∧ name ≠ Name.up

/-- The names of such a key are the way from the root to its place. -/
theorem Undotted.placeOf (undotted : Undotted store key) (tidy : Tidy store place tree)
    (fits : Fits store key) :
    store.placeOf key = place ++ names (Key.relativePath store.root.text key) := by
  obtain ⟨folders, leaf, lodged⟩ := tidy.lodged fits
  have all : leading (Key.relativePath store.root.text key) =
      names (Key.relativePath store.root.text key) := by
    refine List.filter_eq_self.mpr fun name member => ?_
    rw [leads, Bool.and_eq_true, decide_eq_true_eq]
    exact ⟨by simpa using lodged.filed.filled name member, (undotted name member).1⟩
  have forward : Name.up ∉ folders := by
    intro member
    have own : Name.up ∈ leading (Key.relativePath store.root.text key) := by
      rw [lodged.filed.split]
      exact List.mem_append_left _ member
    exact (undotted _ (List.mem_filter.mp own).1).2 rfl
  rw [lodged.lodge, follow_of_no_up forward, List.append_assoc, ← lodged.filed.split, all]

theorem apart_of_undotted (tidy : Tidy store place tree) (fits : ∀ key, keys key → Fits store key)
    (undotted : ∀ key, keys key → Undotted store key)
    (digests : ∀ left right, keys left → keys right →
      Digest.sha256 (Text.bytes left) = Digest.sha256 (Text.bytes right) → left = right) :
    Apart store keys := by
  intro left right first second same
  rw [(undotted left first).placeOf tidy (fits left first),
    (undotted right second).placeOf tidy (fits right second)] at same
  have paths : Key.relativePath store.root.text left = Key.relativePath store.root.text right := by
    rw [← intercalate_names (Key.relativePath store.root.text left), List.append_cancel_left same,
      intercalate_names]
  exact Key.relativePath_inj (digests left right first second) paths

/-- Of two keys with one place, the later put is found for both. -/
theorem get_after_put_of_same_place (tidy : Tidy store place tree) (working : store.closed = false)
    {left right : String} (fitsLeft : Fits store left) (fitsRight : Fits store right)
    (same : store.placeOf left = store.placeOf right) :
    store.answers tree [.put left [0] 0 0, .put right [1] 0 0, .get left 0] =
      [.done, .done, .looked (.found [1])] := by
  obtain ⟨first, between, -, opened⟩ := put_holds tidy working fitsLeft [0] 0 0
  obtain ⟨second, after, changed, -⟩ := put_holds between working fitsRight [1] 0 0
  have holds := changed.holds_of_eq (fun _ => opened) same
  obtain ⟨found, -, -⟩ := get_holds after working fitsLeft holds 0
  simp only [answers, operate, first, second, found]
  rfl

/-- A store whose root is empty at first answers as a map from keys to values does, as long as its
keys have different places, and no longer. Places differ where no name of a key is one or two dots and
digests do not collide. -/
theorem answers_as_map (fresh : Fresh store tree) (fits : ∀ key, keys key → Fits store key) :
    ((∀ operations, (∀ operation ∈ operations, keys operation.key) →
        store.answers tree operations = answersOfMap (fun _ => none) operations) ↔
      Apart store keys) ∧
    ((∀ key, keys key → Undotted store key) →
      (∀ left right, keys left → keys right →
        Digest.sha256 (Text.bytes left) = Digest.sha256 (Text.bytes right) → left = right) →
      ∀ operations, (∀ operation ∈ operations, keys operation.key) →
        store.answers tree operations = answersOfMap (fun _ => none) operations) := by
  obtain ⟨place, tidy, empty⟩ := fresh.tidy
  have kept := tidy.kept_of_empty empty fits
  refine ⟨⟨?_, fun apart => kept.answers fresh.working fits apart⟩, ?_⟩
  · intro agrees left right first second same
    by_contra different
    have stored := get_after_put_of_same_place tidy fresh.working (fits left first)
      (fits right second) same
    rw [agrees _ (by simp [Operation.key, first, second])] at stored
    simp [answersOfMap, operateMap, Function.update, different, Lookup.ofOption, Lookup.found] at stored
  · intro undotted digests
    exact kept.answers fresh.working fits (apart_of_undotted tidy fits undotted digests)

/-- A store whose root is the only directory of a tree. -/
theorem fresh_of_single {name : Name} (working : store.closed = false)
    (reached : Cleaning.rootPlace { entries := [([name], .directory 0)] } store.root = .ok [name]) :
    Fresh store { entries := [([name], .directory 0)] } := by
  have held : ∀ path entry, FileTree.find? { entries := [([name], .directory 0)] } path = some entry →
      path = [] ∨ path = [name] := by
    intro path entry found
    rw [find?] at found
    split at found
    · rename_i top
      exact .inl top
    · right
      rw [List.lookup_cons] at found
      split at found
      · rename_i same
        exact beq_iff_eq.mp same
      · cases found
  refine ⟨working, ?_, [name], reached, ?_⟩
  · intro path entry found
    rcases held path entry found with rfl | rfl <;> rfl
  · intro path above
    rw [isAbove, Bool.and_eq_true, decide_eq_true_eq] at above
    cases found : FileTree.find? { entries := [([name], .directory 0)] } path with
    | none => rfl
    | some entry =>
        rcases held path entry found with rfl | rfl
        · cases above.2
        · exact absurd above.2 (Nat.lt_irrefl _)

private def home : FileTree := { entries := [([Text.bytes "cache"], .directory 0)] }

private def homely : DiskStore where
  name := "disk"
  root := ⟨Text.bytes "/cache", []⟩
  settings := { targetSize := 1000, targetInodes := none }
  nextClean := 0

private theorem fresh_home : Fresh homely home := fresh_of_single rfl (by decide +kernel)

/-- A segment of 130 octets that ends in two dots: they become a name of their own, and the segment
behind them is found beside the directory of the first 128 octets. -/
private def climbing : String := String.ofList (List.replicate 128 'x') ++ "../foo"

theorem get_after_put_of_climbing : Fresh homely home ∧
    Digest.sha256 (Text.bytes climbing) ≠ Digest.sha256 (Text.bytes "foo") ∧
    homely.answers home [.put "foo" [1] 0 0, .put climbing [2] 0 0, .get "foo" 0] ≠
      answersOfMap (fun _ => none) [.put "foo" [1] 0 0, .put climbing [2] 0 0, .get "foo" 0] :=
  ⟨fresh_home, by decide +kernel, by decide +kernel⟩

theorem answers_as_map_below : Fresh homely home ∧
    ∀ operations, (∀ operation ∈ operations, operation.key = "foo" ∨ operation.key = "foo/bar") →
      homely.answers home operations = answersOfMap (fun _ => none) operations := by
  have fits : ∀ key, key = "foo" ∨ key = "foo/bar" → Fits homely key := by
    rintro key (rfl | rfl) <;> exact ⟨by decide +kernel, by decide +kernel, by decide +kernel⟩
  have undotted : ∀ key, key = "foo" ∨ key = "foo/bar" → Undotted homely key := by
    rintro key (rfl | rfl) <;> unfold Undotted <;> decide +kernel
  have digests : ∀ left right : String, left = "foo" ∨ left = "foo/bar" →
      right = "foo" ∨ right = "foo/bar" →
      Digest.sha256 (Text.bytes left) = Digest.sha256 (Text.bytes right) → left = right := by
    have other : Digest.sha256 (Text.bytes "foo") ≠ Digest.sha256 (Text.bytes "foo/bar") := by
      decide +kernel
    rintro left right (rfl | rfl) (rfl | rfl) same
    · rfl
    · exact absurd same other
    · exact absurd same.symm other
    · rfl
  exact ⟨fresh_home, (answers_as_map fresh_home fits).2 undotted digests⟩

end DiskStore

end TieredCache
