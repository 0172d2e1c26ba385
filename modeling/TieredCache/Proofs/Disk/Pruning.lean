import TieredCache.Proofs.Disk.Traversal

/-!
Which directories a clean pass takes away. Main statement: pruning below a place takes away just the
directories there that no file lies in, and tells how many they were.
-/

namespace TieredCache

namespace FileTree
open FilePath

variable {tree : FileTree} {inside first second : FilePath → Bool} {directory place path : FilePath}
  {item : FilePath × Entry}

def cleared (tree : FileTree) (inside : FilePath → Bool) : FileTree :=
  { entries := tree.entries.filter fun (path, entry) =>
      !(inside path && entry.isDirectory && !tree.hasFileBelow path) }

theorem mem_cleared : item ∈ (tree.cleared inside).entries ↔ item ∈ tree.entries ∧
    (inside item.1 = true → item.2.isDirectory = true → tree.hasFileBelow item.1 = true) := by
  obtain ⟨path, entry⟩ := item
  rw [cleared, List.mem_filter]
  refine and_congr_right fun _ => ?_
  dsimp only
  cases inside path <;> cases entry.isDirectory <;> cases tree.hasFileBelow path <;> simp

theorem hasFileBelow_cleared (tree : FileTree) (inside : FilePath → Bool) (path : FilePath) :
    (tree.cleared inside).hasFileBelow path = tree.hasFileBelow path := by
  rw [hasFileBelow, hasFileBelow, cleared, List.any_filter]
  congr 1
  funext item
  obtain ⟨other, entry⟩ := item
  cases entry with
  | directory modified => simp [Entry.isFile, Entry.isDirectory]
  | file content accessed modified => simp [Entry.isDirectory]

theorem cleared_cleared (tree : FileTree) (first second : FilePath → Bool) :
    (tree.cleared first).cleared second = tree.cleared fun path => first path || second path := by
  rw [cleared]
  simp only [hasFileBelow_cleared]
  rw [cleared, cleared, List.filter_filter]
  congr 1
  refine List.filter_congr fun item _ => ?_
  obtain ⟨path, entry⟩ := item
  dsimp only
  cases first path <;> cases second path <;> cases entry.isDirectory <;>
    cases tree.hasFileBelow path <;> rfl

theorem cleared_congr (same : ∀ item ∈ tree.entries, item.2.isDirectory = true →
    tree.hasFileBelow item.1 = false → first item.1 = second item.1) :
    tree.cleared first = tree.cleared second := by
  rw [cleared, cleared]
  congr 1
  refine List.filter_congr fun item own => ?_
  obtain ⟨path, entry⟩ := item
  dsimp only
  cases kind : entry.isDirectory with
  | false => simp
  | true =>
      cases filled : tree.hasFileBelow path with
      | true => simp
      | false => rw [same _ own kind filled]

theorem cleared_eq_self (kept : ∀ item ∈ tree.entries, inside item.1 = true →
    item.2.isDirectory = true → tree.hasFileBelow item.1 = true) : tree.cleared inside = tree := by
  obtain ⟨entries⟩ := tree
  refine congrArg FileTree.mk (List.filter_eq_self.mpr fun item own => ?_)
  exact (List.mem_filter.mp (mem_cleared.mpr ⟨own, kept item own⟩)).2

theorem hasFileBelow_of_isAbove (above : directory.isAbove path = true)
    (filled : tree.hasFileBelow path = true) : tree.hasFileBelow directory = true := by
  rw [hasFileBelow, List.any_eq_true] at filled ⊢
  obtain ⟨item, own, both⟩ := filled
  rw [Bool.and_eq_true] at both
  exact ⟨item, own, Bool.and_eq_true_iff.mpr ⟨isAbove_trans above both.1, both.2⟩⟩

theorem Regular.of_hasFileBelow_eq_false (regular : tree.Regular)
    (empty : tree.hasFileBelow directory = false) (above : directory.isAbove path = true) :
    tree.isFile path = false ∧ tree.hasFileBelow path = false := by
  rw [← Bool.not_eq_true] at empty
  constructor
  · rw [← Bool.not_eq_true]
    exact fun file => empty (regular.hasFileBelow_iff.mpr ⟨path, above, file⟩)
  · rw [← Bool.not_eq_true]
    exact fun filled => empty (hasFileBelow_of_isAbove above filled)

structure Inner (inside : FilePath → Bool) : Prop where
  outer : inside [] = false
  closed : ∀ {path other : FilePath}, inside path = true → path.isAbove other = true →
    inside other = true

theorem inner_isAbove (place : FilePath) : Inner place.isAbove where
  outer := by simp [isAbove]
  closed := isAbove_trans

theorem inner_isPrefixOf (filled : place ≠ []) : Inner (place.isPrefixOf ·) where
  outer := by
    cases place with
    | nil => exact absurd rfl filled
    | cons name rest => rfl
  closed := by
    intro path other part above
    rw [List.isPrefixOf_iff_prefix] at part ⊢
    exact part.trans (isAbove_iff.mp above).1

section

variable (regular : tree.Regular) (inner : Inner inside)
include regular inner

theorem find?_cleared (path : FilePath) : (tree.cleared inside).find? path =
    if inside path = true ∧ tree.isDirectory path = true ∧ tree.hasFileBelow path = false
      then none else tree.find? path := by
  rw [cleared, find?_filter regular.unique]
  by_cases empty : path = []
  · have top : ¬inside [] = true := by simp [inner.outer]
    rw [if_pos empty, empty, if_neg fun all => top all.1, find?, if_pos rfl]
  · rw [if_neg empty]
    cases found : tree.find? path with
    | none => simp
    | some entry =>
        have kind : tree.isDirectory path = entry.isDirectory := by
          rw [isDirectory, found]
          rfl
        rw [Option.filter_some, kind]
        dsimp only
        by_cases gone : inside path = true ∧ entry.isDirectory = true ∧
            tree.hasFileBelow path = false
        · rw [if_pos gone]
          simp [gone]
        · rw [if_neg gone]
          simpa using gone

theorem isFile_cleared (path : FilePath) : (tree.cleared inside).isFile path = tree.isFile path := by
  rw [isFile, find?_cleared regular inner]
  split
  · rename_i gone
    rw [isFile_eq_false_of_isDirectory gone.2.1]
    rfl
  · rfl

/-- What is left is a file or a directory with one below, and so is the directory that it is in. -/
theorem regular_cleared : (tree.cleared inside).Regular := by
  apply regular.filter
  intro path entry found
  change (tree.cleared inside).find? path = some entry at found
  change (tree.cleared inside).isDirectory path.dropLast = true
  by_cases top : path = []
  · rw [top]
    rfl
  · have onward : FilePath.isAbove path.dropLast path = true :=
      isAbove_iff_dropLast.mpr ⟨top, List.prefix_rfl⟩
    rw [find?_cleared regular inner] at found
    split at found
    · cases found
    · rename_i stays
      rw [isDirectory, find?_cleared regular inner, if_neg]
      · exact regular.rooted path entry found
      · rintro ⟨low, -, empty⟩
        obtain ⟨file, hollow⟩ := regular.of_hasFileBelow_eq_false empty onward
        rcases isFile_eq_false_iff.mp file with missing | directory
        · rw [missing] at found
          cases found
        · exact stays ⟨inner.closed low onward, directory, hollow⟩

end

/-! ### Directories that nothing is left in -/

/-- Where all directories below hold files, nothing is in a directory if it holds none itself. -/
theorem Regular.isEmpty_children_cleared (regular : tree.Regular) (directory : FilePath) :
    ((tree.cleared directory.isAbove).children directory).isEmpty = !tree.hasFileBelow directory := by
  cases filled : tree.hasFileBelow directory with
  | true =>
      obtain ⟨path, above, file⟩ := regular.hasFileBelow_iff.mp filled
      obtain ⟨content, accessed, modified, found⟩ := isFile_iff.mp file
      have own := mem_of_find? (ne_nil_of_isFile file) found
      have left : ∃ child, child ∈ (tree.cleared directory.isAbove).children directory := by
        rcases regular.child_of_below (mem_below.mpr ⟨own, above⟩) with child | ⟨child, held, -, deep⟩
        · obtain ⟨-, place⟩ := mem_children.mp child
          exact ⟨_, mem_children.mpr
            ⟨mem_cleared.mpr ⟨own, fun _ kind => Bool.noConfusion kind⟩, place⟩⟩
        · obtain ⟨known, place⟩ := mem_children.mp held
          refine ⟨child, mem_children.mpr ⟨mem_cleared.mpr ⟨known, fun _ _ => ?_⟩, place⟩⟩
          exact regular.hasFileBelow_iff.mpr ⟨path, (mem_below.mp deep).2, file⟩
      obtain ⟨child, member⟩ := left
      exact List.isEmpty_eq_false_iff.mpr (List.ne_nil_of_mem member)
  | false =>
      rw [Bool.not_false, List.isEmpty_iff, List.eq_nil_iff_forall_not_mem]
      intro child member
      have above := isAbove_child member
      obtain ⟨own, kept⟩ := mem_cleared.mp (mem_children.mp member).1
      obtain ⟨file, hollow⟩ := regular.of_hasFileBelow_eq_false filled above
      rw [regular.isFile_of_mem own, Entry.isFile, Bool.not_eq_false'] at file
      rw [kept above file] at hollow
      cases hollow

theorem Regular.without_eq_cleared (regular : tree.Regular)
    (known : tree.isDirectory directory = true) (empty : tree.hasFileBelow directory = false) :
    tree.without directory = tree.cleared fun path => decide (path = directory) := by
  rw [without, Entries.erase, cleared]
  congr 1
  refine List.filter_congr fun item own => ?_
  by_cases same : item.1 = directory
  · have kind := regular.isDirectory_of_mem own
    rw [same, known] at kind
    simp [same, ← kind, empty]
  · simp [same]

end FileTree

namespace Cleaning
open FilePath FileTree

variable {tree : FileTree} {inside first second : FilePath → Bool} {directory place : FilePath}
  {before middle after pruned : FileTree × Nat} {levels : Nat}

def prune (tree : FileTree) (root : FilePath) : FileTree :=
  tree.cleared root.isAbove

theorem find?_prune (regular : tree.Regular) (place path : FilePath) : (prune tree place).find? path =
    if place.isAbove path = true ∧ tree.isDirectory path = true ∧ tree.hasFileBelow path = false
      then none else tree.find? path :=
  find?_cleared regular (inner_isAbove place) path

theorem isFile_prune (regular : tree.Regular) (place path : FilePath) :
    (prune tree place).isFile path = tree.isFile path :=
  isFile_cleared regular (inner_isAbove place) path

theorem hasFileBelow_prune (tree : FileTree) (place path : FilePath) :
    (prune tree place).hasFileBelow path = tree.hasFileBelow path :=
  hasFileBelow_cleared tree place.isAbove path

theorem regular_prune (regular : tree.Regular) (place : FilePath) : (prune tree place).Regular :=
  regular_cleared regular (inner_isAbove place)

theorem directoryCount_without (regular : tree.Regular) (known : tree.isDirectory directory = true)
    (above : place.isAbove directory = true) :
    directoryCount (tree.without directory) place + 1 = directoryCount tree place := by
  obtain ⟨modified, found⟩ := isDirectory_iff.mp known
  have filled := (isAbove_iff_dropLast.mp above).1
  have member : (directory, .directory modified) ∈ (tree.below place).filter (·.2.isDirectory) :=
    List.mem_filter.mpr ⟨mem_below.mpr ⟨mem_of_find? filled found, above⟩, rfl⟩
  have unique : ((tree.below place).filter (·.2.isDirectory)).Nodup :=
    (List.filter_sublist.trans List.filter_sublist).nodup (List.Nodup.of_map _ regular.unique)
  have alone : ((tree.without directory).below place).filter (·.2.isDirectory) =
      ((tree.below place).filter (·.2.isDirectory)).erase (directory, .directory modified) := by
    rw [unique.erase_eq_filter, below, below, without, Entries.erase, List.filter_filter,
      List.filter_filter, List.filter_filter, List.filter_filter]
    refine List.filter_congr fun item own => ?_
    by_cases same : item.1 = directory
    · have entry : item = (directory, .directory modified) := by
        have there := regular.find? own
        rw [same, found] at there
        exact Prod.ext same (Option.some.inj there).symm
      simp [entry]
    · have other : item ≠ (directory, .directory modified) := fun equal => same (by rw [equal])
      rw [bne_iff_ne.mpr same, bne_iff_ne.mpr other, Bool.and_true, Bool.true_and]
  rw [directoryCount, directoryCount, alone, List.length_erase_add_one member]

structure Pruned (place : FilePath) (inside : FilePath → Bool) (before after : FileTree × Nat) :
    Prop where
  tree : after.1 = before.1.cleared inside
  count : after.2 + directoryCount after.1 place = before.2 + directoryCount before.1 place

theorem Pruned.refl (kept : ∀ item ∈ pruned.1.entries, inside item.1 = true →
    item.2.isDirectory = true → pruned.1.hasFileBelow item.1 = true) :
    Pruned place inside pruned pruned :=
  ⟨(cleared_eq_self kept).symm, rfl⟩

theorem Pruned.trans (early : Pruned place first before middle)
    (late : Pruned place second middle after) :
    Pruned place (fun path => first path || second path) before after :=
  ⟨by rw [late.tree, early.tree, cleared_cleared], late.count.trans early.count⟩

theorem Pruned.congr (step : Pruned place first before after)
    (same : ∀ item ∈ before.1.entries, item.2.isDirectory = true →
      before.1.hasFileBelow item.1 = false → first item.1 = second item.1) :
    Pruned place second before after :=
  ⟨step.tree.trans (cleared_congr same), step.count⟩

theorem removeEmpty_pruned (regular : pruned.1.Regular)
    (known : pruned.1.isDirectory directory = true) (above : place.isAbove directory = true)
    (settled : (pruned.1.children directory).isEmpty = !pruned.1.hasFileBelow directory) :
    Pruned place (fun path => decide (path = directory)) pruned (removeEmpty pruned directory) := by
  rw [removeEmpty, settled]
  cases filled : pruned.1.hasFileBelow directory with
  | true => exact .refl fun item _ same _ => by rw [of_decide_eq_true same, filled]
  | false =>
      refine ⟨regular.without_eq_cleared known filled, ?_⟩
      have one := directoryCount_without regular known above
      change pruned.2 + 1 + directoryCount (pruned.1.without directory) place = _
      omega

/-- A directory is pruned once those below it are. -/
theorem visit_pruned (regular : before.1.Regular) (known : before.1.isDirectory directory = true)
    (above : place.isAbove directory = true)
    (emptied : Pruned place directory.isAbove before middle) :
    Pruned place (directory.isPrefixOf ·) before (removeEmpty middle directory) := by
  have inner := inner_isAbove directory
  have low : ¬directory.isAbove directory = true := fun below =>
    absurd (isAbove_iff.mp below).2 (Nat.lt_irrefl _)
  have own : Pruned place (fun path => decide (path = directory)) middle
      (removeEmpty middle directory) := removeEmpty_pruned
    (by rw [emptied.tree]; exact regular_cleared regular inner)
    (by rw [emptied.tree, isDirectory, find?_cleared regular inner, if_neg fun all => low all.1]
        exact known)
    above
    (by rw [emptied.tree, regular.isEmpty_children_cleared, hasFileBelow_cleared])
  refine (emptied.trans own).congr fun item _ _ _ => ?_
  rw [Bool.eq_iff_iff, Bool.or_eq_true, decide_eq_true_eq, List.isPrefixOf_iff_prefix]
  constructor
  · rintro (below | rfl)
    · exact (isAbove_iff.mp below).1
    · exact List.prefix_rfl
  · intro part
    by_cases same : item.1 = directory
    · exact .inr same
    · exact .inl (isAbove_of_prefix_ne part fun equal => same equal.symm)

theorem foldl_pruned {items : List (FilePath × Entry)} (regular : before.1.Regular)
    (known : ∀ item ∈ items, item.2.isDirectory = true → before.1.isDirectory item.1 = true ∧
      place.isAbove item.1 = true ∧ before.1.Within levels item.1)
    (apart : items.Pairwise fun first second => ¬first.1 <+: second.1)
    (step : ∀ (before : FileTree × Nat) (directory : FilePath), before.1.Regular →
      place <+: directory → before.1.Within levels directory →
      Pruned place directory.isAbove before (pruneEmpty levels directory before)) :
    Pruned place (fun path => items.any fun item => item.2.isDirectory && item.1.isPrefixOf path)
      before (items.foldl (fun pruned (path, entry) =>
        if entry.isDirectory then removeEmpty (pruneEmpty levels path pruned) path else pruned)
        before) := by
  induction items generalizing before with
  | nil => exact .refl fun _ _ inside => Bool.noConfusion inside
  | cons item rest ih =>
      obtain ⟨path, entry⟩ := item
      obtain ⟨first, others⟩ := List.pairwise_cons.mp apart
      rw [List.foldl_cons]
      cases kind : entry.isDirectory with
      | false =>
          have later := ih regular (fun item own => known item (List.mem_cons_of_mem _ own)) others
          simpa [kind] using later
      | true =>
          obtain ⟨directory, above, within⟩ := known _ List.mem_cons_self kind
          have own := visit_pruned regular directory above
            (step before path regular (isAbove_iff.mp above).1 within)
          have inner := inner_isPrefixOf (isAbove_iff_dropLast.mp above).1
          have later := @ih (removeEmpty (pruneEmpty levels path before) path)
            (by rw [own.tree]; exact regular_cleared regular inner)
            (by
              intro item member kind
              obtain ⟨directory, above, within⟩ := known item (List.mem_cons_of_mem _ member) kind
              rw [own.tree]
              refine ⟨?_, above, fun other left => within other (mem_cleared.mp left).1⟩
              rw [isDirectory, find?_cleared regular inner, if_neg]
              · exact directory
              · rintro ⟨part, -⟩
                exact first item member (List.isPrefixOf_iff_prefix.mp part))
            others
          simpa [kind] using own.trans later

/-- Pruning below a directory. The induction is on the levels: what stands in the directory is pruned
one after the other, and none of it stands below the other. -/
theorem pruneEmpty_pruned (regular : before.1.Regular) (part : place <+: directory)
    (within : before.1.Within levels directory) :
    Pruned place directory.isAbove before (pruneEmpty levels directory before) := by
  induction levels generalizing directory before with
  | zero =>
      refine .refl fun item own above => ?_
      have none := within.below_eq_nil
      have some := mem_below.mpr ⟨own, above⟩
      rw [none] at some
      cases some
  | succ levels ih =>
      have known : ∀ item ∈ before.1.children directory, item.2.isDirectory = true →
          before.1.isDirectory item.1 = true ∧ place.isAbove item.1 = true ∧
            before.1.Within levels item.1 := by
        intro item member kind
        have above := isAbove_iff.mp (isAbove_child member)
        refine ⟨?_, isAbove_iff.mpr ⟨part.trans above.1, Nat.lt_of_le_of_lt part.length_le above.2⟩,
          within.step member⟩
        rw [regular.isDirectory_of_mem (mem_children.mp member).1, kind]
      rw [pruneEmpty]
      exact (foldl_pruned regular known (regular.apart_children directory)
        fun _ _ firm inside deep => ih firm inside deep).congr
          fun item own kind _ => regular.any_children own kind directory

/-- Pruning comes to the tree without the directories that no file lies in, and counts these. -/
theorem pruneEmpty_eq (regular : tree.Regular) (place : FilePath) :
    pruneEmpty tree.height place (tree, 0) =
      (prune tree place, directoryCount tree place - directoryCount (prune tree place) place) := by
  have pruned : Pruned place place.isAbove (tree, 0) (pruneEmpty tree.height place (tree, 0)) :=
    pruneEmpty_pruned regular (List.prefix_refl place) (within_height tree place)
  have count := pruned.count
  rw [pruned.tree] at count
  refine Prod.ext pruned.tree ?_
  dsimp only at count ⊢
  rw [prune]
  omega

end Cleaning

end TieredCache
