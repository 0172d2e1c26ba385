import TieredCache.Proofs.Disk.CleanTime

/-!
An attempt to take the lock of a root, whatever stands in the lock's place. A lock that was abandoned is
moved aside; it may even be a directory with all that is below it. Main statement: the root stays where it
is and the time of the next pass as it was.
-/

namespace TieredCache

namespace FileTree
open FilePath

variable {tree made : FileTree} {source target : Route} {origin place path rest : FilePath}
  {entry : Entry}

/-! ### Moving a directory -/

def shift (origin place path : FilePath) : FilePath :=
  if origin.isPrefixOf path then place ++ path.drop origin.length else path

def shifted (tree : FileTree) (origin place : FilePath) : FileTree :=
  { entries := tree.entries.map fun pair => (shift origin place pair.1, pair.2) }

theorem of_rename_any (moves : tree.rename source target = .ok made) :
    ∃ origin moved located, tree.arrive source = .ok (origin, moved) ∧
      tree.locate target = .ok located ∧
      (moved.isDirectory = false ∧ tree.isDirectory located.place = false ∧
          made = (tree.without origin).insert located.place moved ∨
        moved.isDirectory = true ∧ tree.find? located.place = none ∧
          made = tree.shifted origin located.place) := by
  unfold rename at moves
  cases there : tree.arrive source with
  | error cause =>
      rw [there] at moves
      cases moves
  | ok found =>
      obtain ⟨origin, moved⟩ := found
      cases locates : tree.locate target with
      | error cause =>
          rw [there, locates] at moves
          cases moves
      | ok located =>
          refine ⟨origin, moved, located, rfl, rfl, ?_⟩
          simp only [there, locates, bind, Except.bind] at moves
          rw [isDirectory]
          split at moves
          · cases moves
          · cases moves
          · cases moves
          · rename_i content accessed modified untaken
            cases moves
            refine .inl ⟨rfl, ?_, rfl⟩
            cases found : tree.find? located.place with
            | none => rfl
            | some present =>
                cases present with
                | directory changed => exact absurd found (untaken changed)
                | file => rfl
          · rename_i modified vacant
            cases moves
            refine .inr ⟨rfl, vacant, congrArg FileTree.mk (List.map_congr_left fun pair _ => ?_)⟩
            rw [shift]
            split <;> rfl

theorem shift_of_outside (outside : ¬origin <+: path) : shift origin place path = path := by
  rw [shift, if_neg]
  rw [List.isPrefixOf_iff_prefix]
  exact outside

theorem shift_append (origin place rest : FilePath) :
    shift origin place (origin ++ rest) = place ++ rest := by
  rw [shift, if_pos (by rw [List.isPrefixOf_iff_prefix]; exact List.prefix_append _ _),
    List.drop_left]

theorem Listed.find?_eq_some_iff (listed : tree.Listed) (filled : path ≠ []) :
    tree.find? path = some entry ↔ (path, entry) ∈ tree.entries :=
  ⟨mem_of_find? filled, fun member => find?_of_mem listed.unique member filled⟩

/-- Below a place where nothing stands there is nothing. -/
theorem Rooted.find?_below (rooted : tree.Rooted) (vacant : tree.find? place = none)
    (rest : FilePath) : tree.find? (place ++ rest) = none := by
  induction rest using List.reverseRecOn with
  | nil =>
      rw [List.append_nil]
      exact vacant
  | append_singleton front name ih =>
      cases found : tree.find? (place ++ (front ++ [name])) with
      | none => rfl
      | some entry =>
          have above := rooted _ _ found
          rw [← List.append_assoc, List.dropLast_concat, isDirectory, ih] at above
          cases above

structure Aside (tree : FileTree) (origin place : FilePath) : Prop where
  regular : tree.Regular
  below : origin ≠ []
  directory : tree.isDirectory origin = true
  vacant : tree.find? place = none
  apart : ¬origin <+: place
  holder : tree.isDirectory place.dropLast = true
  proper : ∀ name ∈ place, Proper name

namespace Aside

theorem outside (aside : Aside tree origin place) (member : (path, entry) ∈ tree.entries) :
    ¬place <+: path := by
  rintro ⟨rest, rfl⟩
  have found := aside.regular.find? member
  rw [aside.regular.rooted.find?_below aside.vacant] at found
  cases found

theorem filled (aside : Aside tree origin place) : place ≠ [] := by
  rintro rfl
  cases aside.vacant

theorem shift_injective (aside : Aside tree origin place) {other : FilePath} {second : Entry}
    (left : (path, entry) ∈ tree.entries) (right : (other, second) ∈ tree.entries)
    (same : shift origin place path = shift origin place other) : path = other := by
  by_cases first : origin <+: path
  · obtain ⟨rest, rfl⟩ := first
    rw [shift_append] at same
    by_cases also : origin <+: other
    · obtain ⟨further, rfl⟩ := also
      rw [shift_append] at same
      rw [List.append_cancel_left same]
    · rw [shift_of_outside also] at same
      exact absurd ⟨rest, same⟩ (aside.outside right)
  · rw [shift_of_outside first] at same
    by_cases also : origin <+: other
    · obtain ⟨further, rfl⟩ := also
      rw [shift_append] at same
      exact absurd ⟨further, same.symm⟩ (aside.outside left)
    · rw [shift_of_outside also] at same
      exact same

theorem mem_shifted {path : FilePath} : (path, entry) ∈ (tree.shifted origin place).entries ↔
    ∃ before, (before, entry) ∈ tree.entries ∧ shift origin place before = path := by
  rw [shifted, List.mem_map]
  constructor
  · rintro ⟨⟨before, own⟩, member, same⟩
    cases same
    exact ⟨before, member, rfl⟩
  · rintro ⟨before, member, rfl⟩
    exact ⟨_, member, rfl⟩

theorem listed (aside : Aside tree origin place) : (tree.shifted origin place).Listed where
  unique := by
    rw [Entries.keys, shifted, List.map_map]
    have once := aside.regular.unique
    rw [Entries.keys] at once
    have parts := List.Nodup.of_map _ once
    apply parts.map_on
    rintro ⟨left, first⟩ inside ⟨right, second⟩ within same
    have paths := aside.shift_injective inside within same
    subst paths
    have found := aside.regular.find? inside
    rw [aside.regular.find? within] at found
    cases found
    rfl
  below := by
    intro member
    obtain ⟨⟨path, entry⟩, inside, empty⟩ := List.mem_map.mp member
    obtain ⟨before, own, same⟩ := mem_shifted.mp inside
    change path = [] at empty
    rw [empty] at same
    by_cases moved : origin <+: before
    · obtain ⟨rest, rfl⟩ := moved
      rw [shift_append] at same
      exact aside.filled (List.append_eq_nil_iff.mp same).1
    · rw [shift_of_outside moved] at same
      exact aside.regular.ne_nil own same

/-- What is not in the directory stays. -/
theorem find?_stays (aside : Aside tree origin place) (unmoved : ¬origin <+: path)
    (other : ¬place <+: path) : (tree.shifted origin place).find? path = tree.find? path := by
  by_cases top : path = []
  · rw [top]
    rfl
  · apply Option.ext
    intro entry
    rw [aside.listed.find?_eq_some_iff top, aside.regular.listed.find?_eq_some_iff top, mem_shifted]
    constructor
    · rintro ⟨before, member, same⟩
      by_cases moved : origin <+: before
      · obtain ⟨rest, rfl⟩ := moved
        rw [shift_append] at same
        exact absurd ⟨rest, same⟩ other
      · rw [shift_of_outside moved] at same
        rw [← same]
        exact member
    · intro member
      exact ⟨path, member, shift_of_outside unmoved⟩

/-- What is in the directory moves with it. -/
theorem find?_moves (aside : Aside tree origin place) (rest : FilePath) :
    (tree.shifted origin place).find? (place ++ rest) = tree.find? (origin ++ rest) := by
  have low : place ++ rest ≠ [] := List.append_ne_nil_of_left_ne_nil aside.filled rest
  have deep : origin ++ rest ≠ [] := List.append_ne_nil_of_left_ne_nil aside.below rest
  apply Option.ext
  intro entry
  rw [aside.listed.find?_eq_some_iff low, aside.regular.listed.find?_eq_some_iff deep, mem_shifted]
  constructor
  · rintro ⟨before, member, same⟩
    by_cases moved : origin <+: before
    · obtain ⟨further, rfl⟩ := moved
      rw [shift_append] at same
      rw [← List.append_cancel_left same]
      exact member
    · rw [shift_of_outside moved] at same
      exact absurd ⟨rest, same.symm⟩ (aside.outside member)
  · intro member
    exact ⟨_, member, shift_append origin place rest⟩

theorem regular_shifted (aside : Aside tree origin place) : (tree.shifted origin place).Regular := by
  have cases_found {path : FilePath} {entry : Entry}
      (found : (tree.shifted origin place).find? path = some entry) :
      path = [] ∨ (∃ rest, path = place ++ rest ∧ tree.find? (origin ++ rest) = some entry) ∨
        ¬origin <+: path ∧ ¬place <+: path ∧ tree.find? path = some entry := by
    by_cases top : path = []
    · exact .inl top
    · obtain ⟨before, member, same⟩ := mem_shifted.mp ((aside.listed.find?_eq_some_iff top).mp found)
      by_cases moved : origin <+: before
      · obtain ⟨rest, rfl⟩ := moved
        rw [shift_append] at same
        exact .inr (.inl ⟨rest, same.symm, aside.regular.find? member⟩)
      · rw [shift_of_outside moved] at same
        rw [← same]
        exact .inr (.inr ⟨moved, aside.outside member, aside.regular.find? member⟩)
  have holder : (tree.shifted origin place).isDirectory place.dropLast = true := by
    rw [isDirectory, aside.find?_stays]
    · exact aside.holder
    · exact fun inside => aside.apart (inside.trans (List.dropLast_prefix place))
    · intro inside
      have longer := inside.length_le
      have filled := List.length_pos_of_ne_nil aside.filled
      rw [List.length_dropLast] at longer
      omega
  apply aside.listed.regular
  · intro path entry found
    rcases cases_found found with rfl | ⟨rest, rfl, was⟩ | ⟨unmoved, other, was⟩
    · rfl
    · rcases List.eq_nil_or_concat rest with rfl | ⟨front, name, rfl⟩
      · rw [List.append_nil]
        exact holder
      · have above := aside.regular.rooted _ _ was
        rw [List.concat_eq_append, ← List.append_assoc, List.dropLast_concat] at above ⊢
        rw [isDirectory, aside.find?_moves]
        exact above
    · rw [isDirectory, aside.find?_stays]
      · exact aside.regular.rooted path entry was
      · exact fun inside => unmoved (inside.trans (List.dropLast_prefix path))
      · exact fun inside => other (inside.trans (List.dropLast_prefix path))
  · intro path entry found
    rcases cases_found found with rfl | ⟨rest, rfl, was⟩ | ⟨-, -, was⟩
    · exact fun name member => absurd member List.not_mem_nil
    · intro name member
      rcases List.mem_append.mp member with early | late
      · exact aside.proper name early
      · exact aside.regular.of_find? was name (List.mem_append_right _ late)
    · exact aside.regular.of_find? was

end Aside

end FileTree

namespace DiskStore
open FilePath FileTree Cleaning

variable {root : Route} {place : FilePath} {tree made : FileTree} {name : Name} {located : Target}
  {accessed modified : FileTime}

/-! ### The lock and what is moved aside -/

def asideName : Name := Key.cleanLockName ++ Text.bytes ".stale.0.0"

theorem proper_asideName : Proper asideName := by decide +kernel

theorem aside_cleanLockPath (root : Route) : Lock.aside (cleanLockPath root) = root.join asideName := by
  have below : Route.isAbsolute Key.cleanLockName = false := by decide +kernel
  have further : Route.isAbsolute asideName = false := by decide +kernel
  rw [Lock.aside, cleanLockPath, Route.join, Route.join, if_neg (by simp [below]),
    if_neg (by simp [further]), Key.join, Key.join]
  split <;> simp [asideName]

theorem Anchored.locate_join (anchored : Anchored root place tree) (proper : Proper name)
    (below : Route.isAbsolute name = false) (locates : tree.locate (root.join name) = .ok located) :
    located.place = place ++ [name] := by
  have names : (root.join name).names = root.names ++ ([] ++ [name]) := by
    rw [Route.names_join below, leading_of_no_slash proper.plain, if_pos proper.leads]
    rfl
  exact (anchored.target (Route.origin_join below) names proper.notUp locates).1

theorem Anchored.arrive_join (anchored : Anchored root place tree) (proper : Proper name)
    (below : Route.isAbsolute name = false) {path : FilePath} {entry : Entry}
    (there : tree.arrive (root.join name) = .ok (path, entry)) :
    path = place ++ [name] ∧ tree.find? (place ++ [name]) = some entry := by
  obtain ⟨located, locates, rfl, found⟩ := of_arrive there
  have spot := anchored.locate_join proper below locates
  rw [spot] at found
  exact ⟨spot, found⟩

theorem Anchored.inside (anchored : Anchored root place tree) (proper : Proper name) :
    tree.isDirectory (place ++ [name]).dropLast = true ∧
      ∀ other ∈ place ++ [name], Proper other := by
  obtain ⟨-, there, -⟩ := anchored.descend
  rw [List.dropLast_concat]
  exact ⟨there, anchored.regular.proper_concat there proper⟩

structure Beside (name : Name) : Prop where
  proper : Proper name
  below : Route.isAbsolute name = false
  other : name ≠ Key.cleanTimeName

theorem beside_lock : Beside Key.cleanLockName :=
  ⟨by decide +kernel, by decide +kernel, by decide +kernel⟩

theorem beside_aside : Beside asideName :=
  ⟨proper_asideName, by decide +kernel, by decide +kernel⟩

theorem Beside.outside (beside : Beside name) : ¬place ++ [name] <+: timePlace place := by
  intro part
  exact timePlace_ne_concat beside.other (part.eq_of_length (by simp [timePlace])).symm

theorem outside_of_not_above {path : FilePath} (low : place.isAbove path = false) :
    ¬place ++ [name] <+: path := by
  rintro ⟨rest, rfl⟩
  have above : place.isAbove (place ++ [name] ++ rest) = true := by
    rw [isAbove_iff, List.append_assoc]
    exact ⟨List.prefix_append _ _, by simp⟩
  rw [above] at low
  cases low

theorem Anchored.createNew_spared (anchored : Anchored root place tree) (beside : Beside name)
    (creates : tree.createNew (root.join name) accessed modified = .ok made) :
    Spared root place tree made := by
  obtain ⟨path, targets, vacant, rfl⟩ := of_createNew creates
  have spot : path = place ++ [name] :=
    anchored.locate_join beside.proper beside.below (fileTarget_eq_ok.mp targets).1
  subst spot
  have replaced : Replaced tree _ (place ++ [name]) (some (.file [] accessed modified)) :=
    replaced_insert (by simp) (isDirectory_of_find?_none vacant)
  exact (anchored.replaced replaced (anchored.regular.listed.insert (by simp) _) fun _ =>
    anchored.inside beside.proper).spared_of_replaced replaced (timePlace_ne_concat beside.other)

theorem Anchored.removeFile_spared (anchored : Anchored root place tree) (beside : Beside name)
    (removes : tree.removeFile (root.join name) = .ok made) : Spared root place tree made := by
  obtain ⟨path, content, accessed, modified, there, rfl⟩ := of_removeFile removes
  obtain ⟨rfl, found⟩ := anchored.arrive_join beside.proper beside.below there
  have replaced : Replaced tree _ (place ++ [name]) none :=
    replaced_without (by simp) (isDirectory_of_find?_file found)
  exact (anchored.replaced replaced (anchored.regular.listed.without _) fun filled =>
    absurd rfl filled).spared_of_replaced replaced (timePlace_ne_concat beside.other)

theorem Anchored.rename_spared (anchored : Anchored root place tree)
    (moves : tree.rename (cleanLockPath root) (Lock.aside (cleanLockPath root)) = .ok made) :
    Spared root place tree made := by
  have lock := beside_lock
  have spare := beside_aside
  have apart : asideName ≠ Key.cleanLockName := by decide +kernel
  rw [aside_cleanLockPath, cleanLockPath] at moves
  obtain ⟨origin, moved, located, there, locates, outcome⟩ := of_rename_any moves
  obtain ⟨rfl, found⟩ := anchored.arrive_join lock.proper lock.below there
  have spot := anchored.locate_join spare.proper spare.below locates
  rw [spot] at outcome
  have inside := anchored.inside spare.proper
  rcases outcome with ⟨file, free, rfl⟩ | ⟨directory, vacant, rfl⟩
  · cases moved with
    | directory modified => cases file
    | file content accessed modified =>
        have gone : Replaced tree _ (place ++ [Key.cleanLockName]) none :=
          replaced_without (by simp) (isDirectory_of_find?_file found)
        have cleared := (anchored.replaced gone (anchored.regular.listed.without _) fun filled =>
          absurd rfl filled).spared_of_replaced gone (timePlace_ne_concat lock.other)
        have replaced : Replaced _ _ (place ++ [asideName])
            (some (.file content accessed modified)) :=
          replaced_insert (by simp) ((gone.isDirectory _).trans free)
        refine cleared.trans (Anchored.spared_of_replaced ?_ replaced
          (timePlace_ne_concat spare.other))
        exact cleared.anchored.replaced replaced
          (cleared.anchored.regular.listed.insert (by simp) _) fun _ =>
            cleared.anchored.inside spare.proper
  · have aside : Aside tree (place ++ [Key.cleanLockName]) (place ++ [asideName]) := by
      refine ⟨anchored.regular, by simp, ?_, vacant, ?_, inside.1, inside.2⟩
      · rw [isDirectory, found]
        exact directory
      · intro part
        have same := part.eq_of_length (by simp)
        exact apart (List.cons.inj (List.append_inj_right' same rfl)).1.symm
    constructor
    · apply anchored.change aside.regular_shifted
      intro path low was
      rw [isDirectory, aside.find?_stays (outside_of_not_above low) (outside_of_not_above low)]
      exact was
    · exact aside.find?_stays lock.outside spare.outside

/-! ### The attempt -/

theorem Anchored.replace_spared (anchored : Anchored root place tree) (now : FileTime) :
    Spared root place tree (Lock.replace tree (cleanLockPath root) now).1 := by
  rw [Lock.replace]
  split
  · exact anchored.spared
  · exact anchored.spared
  · rename_i moved moves
    have first := anchored.rename_spared moves
    split
    · exact first
    · rename_i cleared removes
      rw [aside_cleanLockPath] at removes
      have second := first.trans (first.anchored.removeFile_spared beside_aside removes)
      split
      · rename_i locked creates
        exact second.trans (second.anchored.createNew_spared beside_lock creates)
      · exact second
      · exact second

/-- Whatever stands in the lock's place, an attempt to take the lock leaves the root where it is and the
time of the next pass as it was. -/
theorem Anchored.acquire_spared (anchored : Anchored root place tree) (now : FileTime)
    (timeout : Span) :
    Spared root place tree (Lock.acquire tree (cleanLockPath root) now timeout).tree := by
  rw [Lock.acquire]
  split
  · rename_i locked creates
    exact anchored.createNew_spared beside_lock creates
  · split
    · exact anchored.spared
    · exact anchored.spared
    · dsimp only
      split
      · exact anchored.spared
      · exact anchored.replace_spared now
  · exact anchored.spared

theorem Anchored.release_spared (anchored : Anchored root place tree) :
    Spared root place tree (Lock.release tree (cleanLockPath root)).1 := by
  rw [Lock.release]
  split
  · rename_i released removes
    exact anchored.removeFile_spared beside_lock removes
  · exact anchored.spared
  · exact anchored.spared

end DiskStore

end TieredCache
