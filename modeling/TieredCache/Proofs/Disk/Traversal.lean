import Mathlib.Data.List.Nodup
import TieredCache.Proofs.Disk.Selection
import TieredCache.Proofs.Disk.Sound

/-!
How a clean pass goes through a tree. Main statement: both of its walks come by every entry below a
place once, in the same order.
-/

namespace TieredCache

namespace FilePath

variable {directory path : FilePath}

theorem isAbove_iff_dropLast :
    directory.isAbove path = true ↔ path ≠ [] ∧ directory <+: path.dropLast := by
  rw [isAbove_iff]
  constructor
  · rintro ⟨⟨way, rfl⟩, longer⟩
    have filled : way ≠ [] := by
      rintro rfl
      simp at longer
    exact ⟨List.append_ne_nil_of_right_ne_nil _ filled,
      by rw [List.dropLast_append_of_ne_nil filled]; exact List.prefix_append _ _⟩
  · rintro ⟨filled, part⟩
    refine ⟨part.trans (List.dropLast_prefix path), Nat.lt_of_le_of_lt part.length_le ?_⟩
    rw [List.length_dropLast]
    exact Nat.sub_lt (List.length_pos_of_ne_nil filled) Nat.one_pos

/-- What is below a directory stands in it or below something in it. -/
theorem exists_of_isAbove (above : directory.isAbove path = true) :
    ∃ name, directory ++ [name] <+: path := by
  obtain ⟨⟨way, rfl⟩, longer⟩ := isAbove_iff.mp above
  cases way with
  | nil => simp at longer
  | cons name rest => exact ⟨name, rest, by rw [List.append_assoc, List.singleton_append]⟩

theorem isAbove_of_prefix_ne (part : directory <+: path) (apart : directory ≠ path) :
    directory.isAbove path = true :=
  isAbove_iff.mpr ⟨part, Nat.lt_of_le_of_ne part.length_le fun same => apart (part.eq_of_length same)⟩

end FilePath

namespace FileTree
open FilePath

variable {tree : FileTree} {directory path : FilePath} {item child : FilePath × Entry}

theorem ne_nil_of_isFile (file : tree.isFile path = true) : path ≠ [] := by
  rintro rfl
  rw [isFile, find?, if_pos rfl] at file
  cases file

theorem isFile_eq_false_of_isDirectory (directory : tree.isDirectory path = true) :
    tree.isFile path = false :=
  isFile_eq_false_iff.mpr (.inr directory)

theorem Regular.isFile_of_mem (regular : tree.Regular) {entry : Entry}
    (member : (path, entry) ∈ tree.entries) :
    tree.isFile path = entry.isFile := by
  rw [isFile, regular.find? member]
  rfl

theorem Regular.isDirectory_of_mem (regular : tree.Regular) (member : item ∈ tree.entries) :
    tree.isDirectory item.1 = item.2.isDirectory := by
  rw [isDirectory, regular.find? member]
  rfl

def hasFileBelow (tree : FileTree) (path : FilePath) : Bool :=
  tree.entries.any fun (other, entry) => path.isAbove other && entry.isFile

theorem Regular.hasFileBelow_iff (regular : tree.Regular) : tree.hasFileBelow path = true ↔
    ∃ other, path.isAbove other = true ∧ tree.isFile other = true := by
  rw [hasFileBelow, List.any_eq_true]
  constructor
  · rintro ⟨⟨other, entry⟩, member, both⟩
    rw [Bool.and_eq_true] at both
    exact ⟨other, both.1, (regular.isFile_of_mem member).trans both.2⟩
  · rintro ⟨other, above, file⟩
    obtain ⟨content, accessed, modified, found⟩ := isFile_iff.mp file
    refine ⟨(other, .file content accessed modified),
      mem_of_find? (ne_nil_of_isFile file) found, ?_⟩
    rw [Bool.and_eq_true]
    exact ⟨above, rfl⟩

/-! ### What stands in a directory -/

theorem mem_children : item ∈ tree.children directory ↔
    item ∈ tree.entries ∧ item.1 ≠ [] ∧ item.1.dropLast = directory := by
  rw [children, List.mem_filter, Bool.and_eq_true, decide_eq_true_eq, decide_eq_true_eq]

theorem mem_below : item ∈ tree.below directory ↔
    item ∈ tree.entries ∧ directory.isAbove item.1 = true :=
  List.mem_filter

theorem isAbove_child (member : child ∈ tree.children directory) :
    directory.isAbove child.1 = true := by
  obtain ⟨-, filled, holder⟩ := mem_children.mp member
  exact isAbove_iff_dropLast.mpr ⟨filled, holder.symm ▸ List.prefix_refl directory⟩

theorem length_child (member : child ∈ tree.children directory) :
    child.1.length = directory.length + 1 := by
  obtain ⟨-, filled, holder⟩ := mem_children.mp member
  rw [← holder, List.length_dropLast, Nat.sub_add_cancel (List.length_pos_of_ne_nil filled)]

/-- An entry below a directory stands in it, or below another directory that stands in it. -/
theorem Regular.child_of_below (regular : tree.Regular) (member : item ∈ tree.below directory) :
    item ∈ tree.children directory ∨ ∃ child ∈ tree.children directory,
      child.2.isDirectory = true ∧ item ∈ tree.below child.1 := by
  obtain ⟨own, above⟩ := mem_below.mp member
  obtain ⟨name, part⟩ := exists_of_isAbove above
  by_cases last : directory ++ [name] = item.1
  · refine .inl (mem_children.mpr ⟨own, regular.ne_nil own, ?_⟩)
    rw [← last, List.dropLast_concat]
  · obtain ⟨modified, found⟩ := isDirectory_iff.mp
      (regular.rooted.isDirectory_of_prefix (regular.find? own) part last)
    have filled : directory ++ [name] ≠ [] := by simp
    exact .inr ⟨(directory ++ [name], .directory modified),
      mem_children.mpr ⟨mem_of_find? filled found, filled, List.dropLast_concat⟩, rfl,
      mem_below.mpr ⟨own, isAbove_of_prefix_ne part last⟩⟩

private theorem le_foldl_length (entries : List (FilePath × Entry)) (start : Nat) :
    start ≤ entries.foldl (fun height (path, _) => max height path.length) start ∧
      ∀ item ∈ entries,
        item.1.length ≤ entries.foldl (fun height (path, _) => max height path.length) start := by
  induction entries generalizing start with
  | nil => exact ⟨Nat.le_refl start, fun _ member => absurd member List.not_mem_nil⟩
  | cons first rest ih =>
      obtain ⟨low, others⟩ := ih (max start first.1.length)
      refine ⟨Nat.le_trans (Nat.le_max_left _ _) low, fun item member => ?_⟩
      rcases List.mem_cons.mp member with rfl | later
      · exact Nat.le_trans (Nat.le_max_right _ _) low
      · exact others item later

theorem length_le_height (member : item ∈ tree.entries) : item.1.length ≤ tree.height :=
  (le_foldl_length tree.entries 0).2 item member

def Within (tree : FileTree) (levels : Nat) (directory : FilePath) : Prop :=
  ∀ item ∈ tree.entries, item.1.length ≤ levels + directory.length

theorem within_height (tree : FileTree) (directory : FilePath) :
    tree.Within tree.height directory :=
  fun _ member => Nat.le_add_right_of_le (length_le_height member)

theorem Within.step {levels : Nat} (within : tree.Within (levels + 1) directory)
    (member : child ∈ tree.children directory) : tree.Within levels child.1 := by
  intro item own
  have bound := within item own
  rw [length_child member]
  omega

theorem Within.below_eq_nil (within : tree.Within 0 directory) : tree.below directory = [] := by
  rw [below, List.filter_eq_nil_iff]
  intro item own above
  have longer := (isAbove_iff.mp above).2
  have bound := within item own
  omega

/-! ### The order of a walk -/

/-- The entries that a walk comes by. -/
def itinerary (tree : FileTree) : Nat → FilePath → List (FilePath × Entry)
  | 0, _ => []
  | levels + 1, directory =>
      (tree.children directory).flatMap fun item =>
        item :: if item.2.isDirectory then itinerary tree levels item.1 else []

theorem of_mem_itinerary {levels : Nat} (member : item ∈ tree.itinerary levels directory) :
    item ∈ tree.below directory := by
  induction levels generalizing directory with
  | zero => cases member
  | succ levels ih =>
      obtain ⟨child, own, inside⟩ := List.mem_flatMap.mp member
      rcases List.mem_cons.mp inside with rfl | deeper
      · exact mem_below.mpr ⟨(mem_children.mp own).1, isAbove_child own⟩
      · split at deeper
        · obtain ⟨known, above⟩ := mem_below.mp (ih deeper)
          exact mem_below.mpr ⟨known, isAbove_trans (isAbove_child own) above⟩
        · cases deeper

theorem Regular.mem_itinerary (regular : tree.Regular) {levels : Nat}
    (within : tree.Within levels directory) (member : item ∈ tree.below directory) :
    item ∈ tree.itinerary levels directory := by
  induction levels generalizing directory with
  | zero =>
      rw [within.below_eq_nil] at member
      cases member
  | succ levels ih =>
      rw [itinerary, List.mem_flatMap]
      rcases regular.child_of_below member with own | ⟨child, own, kind, deeper⟩
      · exact ⟨item, own, List.mem_cons_self⟩
      · refine ⟨child, own, List.mem_cons_of_mem _ ?_⟩
        rw [if_pos kind]
        exact ih (within.step own) deeper

theorem Regular.nodup_children (regular : tree.Regular) (directory : FilePath) :
    ((tree.children directory).map (·.1)).Nodup :=
  (List.filter_sublist.map _).nodup regular.unique

/-- Of two entries of a directory, neither is what stands below the other. -/
theorem eq_of_prefix_children {other : FilePath × Entry} (first : child ∈ tree.children directory)
    (second : other ∈ tree.children directory) (left : child.1 <+: path) (right : other.1 <+: path) :
    child.1 = other.1 := by
  have same : child.1.length = other.1.length := by rw [length_child first, length_child second]
  exact (List.prefix_of_prefix_length_le left right (Nat.le_of_eq same)).eq_of_length same

theorem Regular.apart_children (regular : tree.Regular) (directory : FilePath) :
    (tree.children directory).Pairwise fun first second => ¬first.1 <+: second.1 := by
  have distinct := List.pairwise_map.mp (regular.nodup_children directory)
  refine distinct.imp_of_mem fun first second different below => ?_
  exact different (eq_of_prefix_children first second below List.prefix_rfl)

/-- A directory below another one is a directory that stands in that, or is below such. -/
theorem Regular.any_children (regular : tree.Regular) (own : item ∈ tree.entries)
    (kind : item.2.isDirectory = true) (directory : FilePath) :
    ((tree.children directory).any fun child => child.2.isDirectory && child.1.isPrefixOf item.1) =
      directory.isAbove item.1 := by
  rw [Bool.eq_iff_iff, List.any_eq_true]
  constructor
  · rintro ⟨child, member, both⟩
    rw [Bool.and_eq_true, List.isPrefixOf_iff_prefix] at both
    have above := isAbove_iff.mp (isAbove_child member)
    exact isAbove_iff.mpr ⟨above.1.trans both.2, Nat.lt_of_lt_of_le above.2 both.2.length_le⟩
  · intro above
    rcases regular.child_of_below (mem_below.mpr ⟨own, above⟩) with held | ⟨child, held, only, deep⟩
    · exact ⟨item, held, Bool.and_eq_true_iff.mpr
        ⟨kind, List.isPrefixOf_iff_prefix.mpr List.prefix_rfl⟩⟩
    · exact ⟨child, held, Bool.and_eq_true_iff.mpr
        ⟨only, List.isPrefixOf_iff_prefix.mpr (isAbove_iff.mp (mem_below.mp deep).2).1⟩⟩

theorem prefix_of_mem_visit {levels : Nat} (member : item ∈ child ::
      if child.2.isDirectory then tree.itinerary levels child.1 else []) : child.1 <+: item.1 := by
  rcases List.mem_cons.mp member with rfl | deeper
  · exact List.prefix_refl _
  · split at deeper
    · exact (isAbove_iff.mp (mem_below.mp (of_mem_itinerary deeper)).2).1
    · cases deeper

theorem Regular.nodup_itinerary (regular : tree.Regular) (levels : Nat) (directory : FilePath) :
    (tree.itinerary levels directory).Nodup := by
  induction levels generalizing directory with
  | zero => exact List.nodup_nil
  | succ levels ih =>
      rw [itinerary, List.nodup_flatMap]
      constructor
      · intro child own
        rw [List.nodup_cons]
        constructor
        · split
          · intro deeper
            have below := (mem_below.mp (of_mem_itinerary deeper)).2
            exact absurd (isAbove_iff.mp below).2 (Nat.lt_irrefl _)
          · exact List.not_mem_nil
        · split
          · exact ih child.1
          · exact List.nodup_nil
      · have apart := List.pairwise_map.mp (regular.nodup_children directory)
        refine apart.imp_of_mem fun first second different => ?_
        intro item left right
        exact different (eq_of_prefix_children first second (prefix_of_mem_visit left)
          (prefix_of_mem_visit right))

/-- A walk that goes deep enough comes by every entry below once. -/
theorem Regular.itinerary_perm (regular : tree.Regular) {levels : Nat}
    (within : tree.Within levels directory) :
    (tree.itinerary levels directory).Perm (tree.below directory) := by
  have listed : (tree.below directory).Nodup :=
    List.filter_sublist.nodup (List.Nodup.of_map _ regular.unique)
  rw [List.perm_ext_iff_of_nodup (regular.nodup_itinerary levels directory) listed]
  exact fun item => ⟨of_mem_itinerary, regular.mem_itinerary within⟩

end FileTree

namespace Cleaning
open FilePath FileTree Selection

variable {tree : FileTree} {place directory path : FilePath}

/-! ### Walks -/

def candidate? (root : FilePath) : FilePath × Entry → Option Candidate
  | (path, .file content accessed _) =>
      if isMarker root path then none else some ⟨accessed, content.length, path⟩
  | (_, .directory _) => none

def candidates (tree : FileTree) (root : FilePath) : List Candidate :=
  (tree.below root).filterMap (candidate? root)

def directoryCount (tree : FileTree) (root : FilePath) : Nat :=
  ((tree.below root).filter (·.2.isDirectory)).length

def inodeCount (tree : FileTree) (place : FilePath) : Nat :=
  (candidates tree place).length + directoryCount tree place

section

variable {σ : Type} (visit : σ → Candidate → σ)

def meet (root : FilePath) (walked : Nat × σ) (item : FilePath × Entry) : Nat × σ :=
  match item with
  | (_, .directory _) => (walked.1 + 1, walked.2)
  | (path, .file content accessed _) =>
      if isMarker root path then walked
      else (walked.1 + 1, visit walked.2 ⟨accessed, content.length, path⟩)

theorem walk_eq_foldl (tree : FileTree) (root : FilePath) (levels : Nat) (directory : FilePath)
    (walked : Nat × σ) : walk tree root visit levels directory walked =
      (tree.itinerary levels directory).foldl (meet visit root) walked := by
  induction levels generalizing directory walked with
  | zero => rfl
  | succ levels ih =>
      rw [walk, itinerary, List.foldl_flatMap]
      congr 1
      funext before item
      obtain ⟨path, entry⟩ := item
      cases entry with
      | directory modified => exact ih path _
      | file content accessed modified => rfl

theorem foldl_meet (root : FilePath) (items : List (FilePath × Entry)) (walked : Nat × σ) :
    items.foldl (meet visit root) walked =
      (walked.1 + ((items.filterMap (candidate? root)).length +
          (items.filter (·.2.isDirectory)).length),
        (items.filterMap (candidate? root)).foldl visit walked.2) := by
  induction items generalizing walked with
  | nil => rfl
  | cons item rest ih =>
      obtain ⟨path, entry⟩ := item
      rw [List.foldl_cons, ih]
      cases entry with
      | directory modified =>
          simp only [meet, candidate?, List.filterMap_cons, List.filter_cons, Entry.isDirectory,
            if_true, List.length_cons]
          congr 1
          omega
      | file content accessed modified =>
          cases marker : isMarker root path with
          | true => simp [meet, candidate?, marker, Entry.isDirectory]
          | false =>
              simp only [meet, candidate?, marker, List.filterMap_cons, List.filter_cons,
                Entry.isDirectory, Bool.false_eq_true, if_false, List.length_cons, List.foldl_cons]
              congr 1
              omega

end

/-- Both walks of a pass come by the candidates, in the same order, and count the same entries. -/
theorem walk_eq (regular : tree.Regular) (place : FilePath) : ∃ files : List Candidate,
    files.Perm (candidates tree place) ∧
      ∀ {σ : Type} (visit : σ → Candidate → σ) (start : σ),
        walk tree place visit tree.height place (0, start) =
          (inodeCount tree place, files.foldl visit start) := by
  have order := regular.itinerary_perm (within_height tree place)
  refine ⟨_, order.filterMap (candidate? place), fun visit start => ?_⟩
  rw [walk_eq_foldl, foldl_meet, Nat.zero_add, (order.filterMap _).length_eq,
    (order.filter _).length_eq]
  rfl

end Cleaning

end TieredCache
