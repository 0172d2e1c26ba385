import Mathlib.Data.List.Basic
import Mathlib.Data.List.Flatten
import TieredCache.Disk.Change
import TieredCache.Proofs.Disk.Files

/-!
Trees as an operating system keeps them: each place has one entry, every entry stands in a directory,
and names are such that every place can be reached. Main statements: a file of such a tree is removed
by the way to it unless that is too long, and what is found when entries are left out.
-/

namespace TieredCache

namespace Entries

variable {κ ν : Type} [BEq κ] [LawfulBEq κ]

/-- Where each key stands once, leaving entries out only hides those. -/
theorem lookup_filter {entries : List (κ × ν)} (unique : (keys entries).Nodup) (keep : κ × ν → Bool)
    (key : κ) : (entries.filter keep).lookup key =
      (entries.lookup key).filter fun value => keep (key, value) := by
  induction entries with
  | nil => rfl
  | cons entry rest ih =>
      obtain ⟨found, content⟩ := entry
      have parts := List.nodup_cons.mp unique
      have later := ih parts.2
      by_cases same : key = found
      · subst same
        rw [List.lookup_cons_self]
        cases kept : keep (key, content) with
        | true =>
            rw [List.filter_cons_of_pos kept, List.lookup_cons_self, Option.filter_some, if_pos kept]
        | false =>
            have gone : (rest.filter keep).lookup key = none := by
              rw [List.lookup_eq_none_iff]
              intro pair member
              rw [bne_iff_ne]
              rintro rfl
              exact parts.1 (List.mem_map.mpr ⟨pair, (List.mem_filter.mp member).1, rfl⟩)
            rw [List.filter_cons_of_neg (by simp [kept]), gone, Option.filter_some, kept]
            rfl
      · have differs : (key == found) = false := by simpa using same
        rw [List.lookup_cons, differs, ← later, List.filter_cons]
        split
        · rw [List.lookup_cons, differs]
        · rfl

end Entries

namespace FilePath

structure Proper (name : Name) : Prop where
  filled : name ≠ []
  notHere : name ≠ Name.here
  notUp : name ≠ Name.up
  plain : slash ∉ name
  clean : (0 : UInt8) ∉ name
  short : name.length ≤ FileTree.nameBound

instance (name : Name) : Decidable (Proper name) :=
  decidable_of_iff (name ≠ [] ∧ name ≠ Name.here ∧ name ≠ Name.up ∧ slash ∉ name ∧
      (0 : UInt8) ∉ name ∧ name.length ≤ FileTree.nameBound)
    ⟨fun ⟨filled, notHere, notUp, plain, clean, short⟩ =>
        ⟨filled, notHere, notUp, plain, clean, short⟩,
      fun ⟨filled, notHere, notUp, plain, clean, short⟩ =>
        ⟨filled, notHere, notUp, plain, clean, short⟩⟩

theorem Proper.leads {name : Name} (proper : Proper name) : leads name = true := by
  rw [FilePath.leads, Bool.and_eq_true, decide_eq_true_eq]
  exact ⟨by simpa using proper.filled, proper.notHere⟩

theorem names_toBytes {path : FilePath} (filled : path ≠ []) (plain : ∀ name ∈ path, slash ∉ name) :
    names path.toBytes = path := by
  rw [toBytes, names_intercalate_flatMap filled,
    List.flatMap_congr fun name own => names_of_no_slash (plain name own), List.flatMap_singleton']

theorem absolute_eq {path : FilePath} (filled : path ≠ []) :
    path.absolute = slash :: path.toBytes := by
  induction path with
  | nil => exact absurd rfl filled
  | cons name rest ih =>
      cases rest with
      | nil => simp [absolute, toBytes, List.intercalate]
      | cons next further =>
          have later := ih (List.cons_ne_nil _ _)
          rw [toBytes, List.intercalate_cons_cons, List.append_assoc, List.singleton_append]
          change slash :: (name ++ absolute (next :: further)) = _
          rw [later]
          rfl

theorem mem_toBytes {path : FilePath} {octet : UInt8} (other : octet ≠ slash)
    (member : octet ∈ path.toBytes) : ∃ name ∈ path, octet ∈ name := by
  by_cases empty : path = []
  · rw [empty] at member
    exact absurd member List.not_mem_nil
  · have inside : octet ∈ path.absolute := by
      rw [absolute_eq empty]
      exact List.mem_cons_of_mem _ member
    obtain ⟨name, own, octets⟩ := List.mem_flatMap.mp inside
    exact ⟨name, own, (List.mem_cons.mp octets).resolve_left other⟩

theorem length_absolute_le {path longer : FilePath} (part : path.Sublist longer) :
    path.absolute.length ≤ longer.absolute.length :=
  (part.flatMap (slash :: ·)).length_le

/-- The way to a place is no longer than the place. -/
theorem length_between_le (start path : FilePath) :
    (Route.between start path).text.length ≤ path.absolute.length := by
  have shorter := length_absolute_le (List.drop_sublist start.length path)
  rw [Route.between]
  by_cases empty : path.drop start.length = []
  · rw [empty]
    exact Nat.zero_le _
  · rw [absolute_eq empty] at shorter
    exact Nat.le_of_succ_le shorter

theorem isAbove_iff {path other : FilePath} :
    path.isAbove other = true ↔ path <+: other ∧ path.length < other.length := by
  rw [isAbove, Bool.and_eq_true, List.isPrefixOf_iff_prefix, decide_eq_true_eq]

theorem isAbove_trans {path middle other : FilePath} (first : path.isAbove middle = true)
    (second : middle.isAbove other = true) : path.isAbove other = true := by
  rw [isAbove_iff] at first second ⊢
  exact ⟨first.1.trans second.1, Nat.lt_trans first.2 second.2⟩

end FilePath

namespace FileTree
open FilePath

/-- A tree as an operating system keeps it. -/
structure Regular (tree : FileTree) : Prop where
  unique : (Entries.keys tree.entries).Nodup
  below : [] ∉ Entries.keys tree.entries
  rooted : tree.Rooted
  proper : ∀ path ∈ Entries.keys tree.entries, ∀ name ∈ path, Proper name

/-- A tree as an operating system keeps it, in which no path is too long to be followed. -/
structure Sound (tree : FileTree) : Prop where
  unique : (Entries.keys tree.entries).Nodup
  below : [] ∉ Entries.keys tree.entries
  rooted : tree.Rooted
  proper : ∀ path ∈ Entries.keys tree.entries, ∀ name ∈ path, Proper name
  brief : ∀ path ∈ Entries.keys tree.entries, path.absolute.length < pathBound

variable {tree : FileTree} {path : FilePath} {entry : Entry}

theorem mem_of_find? (below : path ≠ []) (found : tree.find? path = some entry) :
    (path, entry) ∈ tree.entries := by
  rw [find?, if_neg below, List.lookup_eq_some_iff] at found
  obtain ⟨front, back, split, -⟩ := found
  rw [split]
  simp

theorem rooted_of_entries
    (inside : ∀ pair ∈ tree.entries, tree.isDirectory pair.1.dropLast = true) : tree.Rooted := by
  intro path entry found
  by_cases empty : path = []
  · rw [empty]
    rfl
  · exact inside _ (mem_of_find? empty found)

theorem Sound.regular (sound : tree.Sound) : tree.Regular :=
  ⟨sound.unique, sound.below, sound.rooted, sound.proper⟩

instance : Coe (Sound tree) (Regular tree) := ⟨Sound.regular⟩

theorem Regular.ne_nil (regular : tree.Regular) (member : (path, entry) ∈ tree.entries) :
    path ≠ [] := by
  rintro rfl
  exact regular.below (List.mem_map.mpr ⟨_, member, rfl⟩)

theorem Regular.find? (regular : tree.Regular) (member : (path, entry) ∈ tree.entries) :
    tree.find? path = some entry :=
  find?_of_mem regular.unique member (regular.ne_nil member)

theorem mem_keys (member : (path, entry) ∈ tree.entries) : path ∈ Entries.keys tree.entries :=
  List.mem_map.mpr ⟨_, member, rfl⟩

/-! ### Reaching places -/

/-- Every directory is reached by its names, from whatever place above it. -/
theorem Regular.descend (regular : tree.Regular) {start : FilePath}
    (directory : tree.isDirectory (start ++ path) = true) :
    tree.descend start path = .ok (start ++ path) := by
  induction path using List.reverseRecOn with
  | nil => exact congrArg Except.ok (List.append_nil start).symm
  | append_singleton front name ih =>
      rw [← List.append_assoc] at directory ⊢
      obtain ⟨modified, found⟩ := isDirectory_iff.mp directory
      have above := regular.rooted _ _ found
      rw [List.dropLast_concat] at above
      have member := mem_of_find? (by simp) found
      have proper := regular.proper _ (mem_keys member) name (by simp)
      rw [descend_append, ih above]
      change tree.descend (start ++ front) [name] = _
      rw [FileTree.descend, if_neg proper.notUp, if_neg (Nat.not_lt.mpr proper.short), found]
      rfl

section

variable {place front : FilePath} {leaf : Name}

theorem between_append (place path : FilePath) :
    Route.between place (place ++ path) = ⟨path.toBytes, place⟩ := by
  rw [Route.between, List.drop_left]

theorem origin_between (filled : path ≠ []) (proper : ∀ name ∈ path, Proper name) :
    (Route.between place (place ++ path)).origin = place := by
  rw [between_append, Route.origin, if_neg]
  intro top
  obtain ⟨rest, text⟩ : ∃ rest, path.toBytes = slash :: rest :=
    List.head?_eq_some_iff.mp (of_decide_eq_true top)
  have names := names_toBytes filled fun name own => (proper name own).plain
  rw [text, FilePath.names, if_pos rfl] at names
  have empty : [] ∈ path := by
    rw [← names]
    exact List.mem_cons_self
  exact (proper [] empty).filled rfl

theorem clean_between (proper : ∀ name ∈ path, Proper name) :
    (0 : UInt8) ∉ (Route.between place (place ++ path)).text := by
  rw [between_append]
  intro zero
  obtain ⟨name, own, inside⟩ := mem_toBytes (by decide) zero
  exact (proper name own).clean inside

theorem toFile_between (proper : ∀ name ∈ front ++ [leaf], Proper name)
    (brief : (Route.between place (place ++ (front ++ [leaf]))).text.length < pathBound) :
    ToFile (Route.between place (place ++ (front ++ [leaf]))) front leaf := by
  have clean := @clean_between _ place proper
  rw [between_append] at brief clean ⊢
  have names := names_toBytes (List.append_ne_nil_of_right_ne_nil front (List.cons_ne_nil leaf []))
    fun name own => (proper name own).plain
  have led : ∀ name ∈ front ++ [leaf], leads name = true := fun name own => (proper name own).leads
  have last : leaf ∈ front ++ [leaf] := by simp
  refine ⟨⟨clean, brief, Route.ending_of_last names (led leaf last)⟩, ?_,
    (proper leaf last).notUp, (proper leaf last).short⟩
  rw [Route.names_eq_leading, leading, names]
  exact List.filter_eq_self.mpr led

end

theorem Regular.proper_below (regular : tree.Regular) {place : FilePath}
    (member : (place ++ path, entry) ∈ tree.entries) : ∀ name ∈ path, Proper name :=
  fun name own => regular.proper _ (mem_keys member) name (List.mem_append_right place own)

/-- A file is removed by the way to it from a place above. -/
theorem Regular.removeFile (regular : tree.Regular) {place : FilePath} {content : Bytes}
    {accessed modified : FileTime}
    (member : (path, .file content accessed modified) ∈ tree.entries)
    (above : place.isAbove path = true) (brief : (Route.between place path).text.length < pathBound) :
    tree.removeFile (.between place path) = .ok (tree.without path) := by
  obtain ⟨⟨way, rfl⟩, longer⟩ := isAbove_iff.mp above
  have filled : way ≠ [] := by
    rintro rfl
    simp at longer
  have proper := regular.proper_below member
  have origin := @origin_between _ place filled proper
  obtain ⟨front, leaf, rfl⟩ := (List.eq_nil_or_concat way).resolve_left filled
  rw [List.concat_eq_append] at member brief proper origin ⊢
  have file := toFile_between proper brief
  have found := regular.find? member
  have holder := regular.rooted _ _ found
  rw [← List.append_assoc, List.dropLast_concat] at holder
  rw [← List.append_assoc] at found
  have there : tree.arrive (Route.between place (place ++ (front ++ [leaf]))) =
      .ok (place ++ front ++ [leaf], .file content accessed modified) := by
    rw [file.arrive (by rw [origin, regular.descend holder]), found]
  rw [removeFile_of_arrive there, List.append_assoc]

def InReach (tree : FileTree) (place : FilePath) : Prop :=
  ∀ path, place.isAbove path = true → tree.isFile path = true →
    (Route.between place path).text.length < pathBound

theorem Sound.inReach (sound : tree.Sound) (place : FilePath) : tree.InReach place := by
  intro path above file
  obtain ⟨content, accessed, modified, found⟩ := isFile_iff.mp file
  have filled : path ≠ [] := by
    rintro rfl
    cases found
  have whole := sound.brief path (mem_keys (mem_of_find? filled found))
  exact Nat.lt_of_le_of_lt (length_between_le place path) whole

/-! ### Leaving entries out -/

theorem find?_filter (unique : (Entries.keys tree.entries).Nodup)
    (keep : FilePath × Entry → Bool) (path : FilePath) : FileTree.find? ⟨tree.entries.filter keep⟩ path =
      if path = [] then some (.directory 0)
      else (tree.find? path).filter fun entry => keep (path, entry) := by
  rw [FileTree.find?, FileTree.find?]
  split
  · rfl
  · exact Entries.lookup_filter unique keep path

theorem Regular.filter (regular : tree.Regular) (keep : FilePath × Entry → Bool)
    (rooted : Rooted ⟨tree.entries.filter keep⟩) : Regular ⟨tree.entries.filter keep⟩ := by
  have fewer : ∀ path ∈ Entries.keys (tree.entries.filter keep), path ∈ Entries.keys tree.entries :=
    fun path member => (List.filter_sublist.map _).subset member
  exact ⟨(List.filter_sublist.map _).nodup regular.unique, fun empty => regular.below (fewer _ empty),
    rooted, fun path member => regular.proper path (fewer path member)⟩

def leftover (tree : FileTree) (paths : List FilePath) : FileTree :=
  { entries := tree.entries.filter fun pair => !paths.contains pair.1 }

variable {paths : List FilePath}

theorem Regular.find?_leftover (regular : tree.Regular) (below : [] ∉ paths) (path : FilePath) :
    (tree.leftover paths).find? path = if path ∈ paths then none else tree.find? path := by
  rw [leftover, find?_filter regular.unique]
  by_cases member : path ∈ paths
  · have filled : path ≠ [] := fun empty => below (empty ▸ member)
    rw [if_neg filled, if_pos member]
    simp [member]
  · rw [if_neg member]
    by_cases empty : path = []
    · rw [if_pos empty, empty, FileTree.find?, if_pos rfl]
    · rw [if_neg empty]
      cases tree.find? path with
      | none => rfl
      | some entry => simp [Option.filter_some, member]

/-- Without some of its files a tree is still one. -/
theorem Regular.leftover (regular : tree.Regular) (files : ∀ path ∈ paths, tree.isFile path = true) :
    (tree.leftover paths).Regular := by
  have below : [] ∉ paths := by
    intro empty
    have file := files [] empty
    rw [isFile] at file
    cases file
  refine regular.filter _ fun path entry found => ?_
  have shown := regular.find?_leftover below path
  rw [FileTree.leftover, found] at shown
  have whole : tree.find? path = some entry := by
    split at shown
    · cases shown
    · exact shown.symm
  have above := regular.rooted path entry whole
  have kept : path.dropLast ∉ paths := by
    intro member
    have file := files _ member
    obtain ⟨modified, directory⟩ := isDirectory_iff.mp above
    rw [isFile, directory] at file
    cases file
  change (tree.leftover paths).isDirectory path.dropLast = true
  rw [isDirectory, regular.find?_leftover below, if_neg kept]
  exact above

theorem leftover_without (tree : FileTree) (path : FilePath) (paths : List FilePath) :
    (tree.without path).leftover paths = tree.leftover (path :: paths) := by
  rw [without, Entries.erase, FileTree.leftover, FileTree.leftover, List.filter_filter]
  congr 1
  refine List.filter_congr fun pair _ => ?_
  rw [List.contains_cons, Bool.not_or, Bool.and_comm, bne]

theorem Regular.without_file (regular : tree.Regular) (file : tree.isFile path = true) :
    (tree.without path).Regular := by
  have alone : (tree.without path).leftover [] = tree.without path := by
    rw [FileTree.leftover]
    simp
  rw [← alone, leftover_without]
  exact regular.leftover (by simpa using file)

end FileTree

end TieredCache
