import TieredCache.Proofs.Disk.Housed
import TieredCache.Proofs.Disk.Sweep

/-!
Clean passes over the root of a store. Main statement: whatever came before, a pass finds the lock free
and gives it back, adds no file but the markers, and takes files away in the order of their last use.
-/

namespace TieredCache

namespace Cleaning
open FilePath FileTree Selection Candidate

variable {tree made next : FileTree} {place path : FilePath} {chosen : List Candidate}

/-! ### What is left -/

/-- A path below the place of a root, and not that of a marker file. -/
def Unmarked (place path : FilePath) : Prop :=
  place.isAbove path = true ∧ isMarker place path = false

/-- A tree with no more files and directories than before, but for the marker files. -/
structure Thinned (place : FilePath) (tree next : FileTree) : Prop where
  files : ∀ path, isMarker place path = false →
    next.find? path = tree.find? path ∨ next.find? path = none
  directories : ∀ path, next.isDirectory path = true → tree.isDirectory path = true

structure Remarked (place : FilePath) (tree next : FileTree) : Prop where
  find?_eq : ∀ path, isMarker place path = false → next.find? path = tree.find? path
  isDirectory_eq : ∀ path, next.isDirectory path = tree.isDirectory path

def LeastRecent (place : FilePath) (tree next : FileTree) : Prop :=
  ∀ gone kept earlier later, Unmarked place gone → Unmarked place kept →
    tree.accessed? gone = some earlier → next.find? gone = none →
    next.accessed? kept = some later → earlier ≤ later

theorem Swept.find?_cases (swept : Swept tree next place chosen) (path : FilePath) :
    next.find? path = tree.find? path ∨ next.find? path = none := by
  cases found : tree.find? path with
  | none => exact .inr (swept.nothing path found)
  | some entry =>
      rw [← found]
      cases kind : tree.isFile path with
      | true =>
          rw [swept.files path kind]
          split
          · exact .inr rfl
          · exact .inl rfl
      | false =>
          have directory : tree.isDirectory path = true := by
            rcases isFile_eq_false_iff.mp kind with missing | directory
            · rw [missing] at found
              cases found
            · exact directory
          rw [swept.directories path directory]
          split
          · exact .inr rfl
          · exact .inl rfl

theorem Thinned.of_find?
    (fewer : ∀ path, next.find? path = tree.find? path ∨ next.find? path = none) :
    Thinned place tree next := by
  refine ⟨fun path _ => fewer path, fun path directory => ?_⟩
  rcases fewer path with same | gone
  · rw [isDirectory, same] at directory
    exact directory
  · rw [isDirectory, gone] at directory
    cases directory

theorem Remarked.refl : Remarked place tree tree := ⟨fun _ _ => rfl, fun _ => rfl⟩

theorem Remarked.trans (first : Remarked place tree made) (second : Remarked place made next) :
    Remarked place tree next where
  find?_eq := fun path unmarked =>
    (second.find?_eq path unmarked).trans (first.find?_eq path unmarked)
  isDirectory_eq := fun path => (second.isDirectory_eq path).trans (first.isDirectory_eq path)

theorem Remarked.of_replaced {after : Option Entry} (replaced : Replaced tree next path after)
    (marker : isMarker place path = true) : Remarked place tree next where
  find?_eq := by
    intro other unmarked
    rw [replaced.find?_eq, if_neg]
    rintro rfl
    rw [marker] at unmarked
    cases unmarked
  isDirectory_eq := replaced.isDirectory

theorem Thinned.of_remarked {last : FileTree} (before : Remarked place tree made)
    (thinned : Thinned place made next) (after : Remarked place next last) :
    Thinned place tree last where
  files := by
    intro path unmarked
    rw [after.find?_eq path unmarked, ← before.find?_eq path unmarked]
    exact thinned.files path unmarked
  directories := by
    intro path directory
    rw [after.isDirectory_eq] at directory
    rw [← before.isDirectory_eq]
    exact thinned.directories path directory

theorem LeastRecent.of_remarked {last : FileTree} (before : Remarked place tree made)
    (least : LeastRecent place made next) (after : Remarked place next last) :
    LeastRecent place tree last := by
  intro gone kept earlier later first second used missing stays
  rw [accessed?, ← before.find?_eq gone first.2] at used
  rw [after.find?_eq gone first.2] at missing
  rw [accessed?, after.find?_eq kept second.2] at stays
  exact least gone kept earlier later first second used missing stays

theorem accessed?_eq_some {time : FileTime} : tree.accessed? path = some time ↔
    ∃ content modified, tree.find? path = some (.file content time modified) := by
  unfold accessed?
  constructor
  · intro used
    split at used
    · rename_i content accessed modified found
      cases used
      exact ⟨content, modified, found⟩
    · cases used
  · rintro ⟨content, modified, found⟩
    rw [found]

theorem LeastRecent.refl : LeastRecent place tree tree := by
  intro gone kept earlier later _ _ used missing
  obtain ⟨content, modified, found⟩ := accessed?_eq_some.mp used
  rw [missing] at found
  cases found

theorem accessed?_of_mem (regular : tree.Regular) {file : Candidate}
    (member : file ∈ candidates tree place) : tree.accessed? file.path = some file.accessed := by
  obtain ⟨⟨path, entry⟩, inside, candidate⟩ := List.mem_filterMap.mp member
  have found := regular.find? (List.mem_filter.mp inside).1
  cases entry with
  | directory modified => cases candidate
  | file content accessed modified =>
      rw [candidate?] at candidate
      split at candidate
      · cases candidate
      · cases candidate
        exact accessed?_eq_some.mpr ⟨content, modified, found⟩

theorem candidate_of_accessed {time : FileTime} (used : tree.accessed? path = some time)
    (unmarked : Unmarked place path) :
    ∃ file ∈ candidates tree place, file.path = path ∧ file.accessed = time := by
  obtain ⟨above, plain⟩ := unmarked
  obtain ⟨content, modified, found⟩ := accessed?_eq_some.mp used
  have filled : path ≠ [] := by
    rintro rfl
    cases found
  refine ⟨⟨time, content.length, path⟩, List.mem_filterMap.mpr ?_, rfl, rfl⟩
  refine ⟨_, List.mem_filter.mpr ⟨mem_of_find? filled found, above⟩, ?_⟩
  rw [candidate?, plain]
  rfl

/-- A file that is left was used when it was used before. -/
theorem accessed?_of_left (fewer : next.find? path = tree.find? path ∨ next.find? path = none)
    {time : FileTime} (used : next.accessed? path = some time) : tree.accessed? path = some time := by
  rcases fewer with same | gone
  · rw [accessed?, same] at used
    exact used
  · rw [accessed?, gone] at used
    cases used

theorem Swept.evicted (swept : Swept tree next place chosen) (file : tree.isFile path = true)
    (missing : next.find? path = none) : path ∈ chosen.map (·.path) := by
  have shown := swept.files path file
  by_contra outside
  rw [if_neg outside, missing] at shown
  rw [isFile, ← shown] at file
  cases file

/-- Of the files in the order of their last use the first go. -/
theorem leastRecent_swept (regular : tree.Regular) (start : chosen <+: ranked (candidates tree place)) :
    LeastRecent place tree (swept tree place chosen) := by
  have known := known_of_start start
  have spec := swept_spec regular known
  intro gone kept earlier later _ unmarked used missing stays
  have file : tree.isFile gone = true := by
    obtain ⟨content, modified, found⟩ := accessed?_eq_some.mp used
    rw [isFile, found]
    rfl
  have own := spec.evicted file missing
  obtain ⟨first, member, rfl⟩ := List.mem_map.mp own
  rw [accessed?_of_mem regular (known first member)] at used
  cases used
  have was := accessed?_of_left (spec.find?_cases kept) stays
  obtain ⟨second, candidate, rfl, rfl⟩ := candidate_of_accessed was unmarked
  obtain ⟨rest, whole⟩ := start
  have left : second ∈ rest := by
    have inside := (ranked_perm _).mem_iff.mpr candidate
    rw [← whole] at inside
    rcases List.mem_append.mp inside with taken | left
    · have listed : second.path ∈ chosen.map (·.path) := List.mem_map.mpr ⟨second, taken, rfl⟩
      have emptied := spec.files second.path (of_mem_candidates regular candidate).2.2
      rw [if_pos listed] at emptied
      rw [accessed?, emptied] at stays
      cases stays
    · exact left
  have order := ranked_pairwise (candidates tree place)
  rw [← whole, List.pairwise_append] at order
  have notAfter : NotAfter first second :=
    order.2.2 first member second left
  by_contra sooner
  have before : second.precedes first = true := precedes_iff.mpr (.inl (Int.lt_of_not_ge sooner))
  rw [NotAfter, before] at notAfter
  cases notAfter

end Cleaning

namespace DiskStore
open FilePath FileTree Cleaning

variable {root : Route} {place : FilePath} {tree next : FileTree}

/-! ### A pass over a root -/

/-- A pass leaves the root where it is and takes files away in the order of their last use. -/
theorem Housed.cleanPlace (housed : Housed root place tree) (settings : DiskSettings) :
    Housed root place (cleanPlace tree place settings).tree ∧
      (∀ path, (cleanPlace tree place settings).tree.find? path = tree.find? path ∨
        (cleanPlace tree place settings).tree.find? path = none) ∧
      (∀ path, isMarker place path = true → tree.isFile path = true →
        (cleanPlace tree place settings).tree.find? path = tree.find? path) ∧
      LeastRecent place tree (cleanPlace tree place settings).tree := by
  rcases cleanPlace_cases housed.regular housed.reach settings with same | ⟨chosen, start, swept⟩
  · rw [same]
    exact ⟨housed, fun _ => .inl rfl, fun _ _ _ => rfl, .refl⟩
  · have known := known_of_start start
    have spec := swept_spec housed.regular known
    rw [swept]
    refine ⟨?_, spec.find?_cases, spec.markers, leastRecent_swept housed.regular start⟩
    have firm := regular_prune (regular_leftover_chosen housed.regular known) place
    apply (housed.anchored.change firm ?_).housed
    · intro path above file
      exact housed.reach path above ((isFile_swept housed.regular known path).mp file).1
    · intro path low directory
      change isDirectory (Cleaning.swept _ _ _) path = true
      rw [isDirectory, spec.directories path directory, if_neg]
      · exact directory
      · rintro ⟨above, -⟩
        rw [above] at low
        cases low

/-! ### The marker files -/

def MarkerName (name : Name) : Prop := name = Key.cleanTimeName ∨ name = Key.cleanLockName

variable {name : Name} {route : Route} {content : Bytes} {accessed modified : FileTime}

theorem MarkerName.proper (named : MarkerName name) : Proper name := by
  rcases named with rfl | rfl <;> decide +kernel

theorem MarkerName.isMarker_iff {path : FilePath} : isMarker place path = true ↔
    ∃ name, MarkerName name ∧ path = place ++ [name] := by
  rw [isMarker, Bool.or_eq_true, decide_eq_true_eq, decide_eq_true_eq]
  constructor
  · rintro (rfl | rfl)
    · exact ⟨_, .inl rfl, rfl⟩
    · exact ⟨_, .inr rfl, rfl⟩
  · rintro ⟨name, rfl | rfl, rfl⟩
    · exact .inl rfl
    · exact .inr rfl

def Reaches (root : Route) (name : Name) : Prop := (root.join name).text.length < pathBound

theorem MarkerName.below (named : MarkerName name) : Route.isAbsolute name = false := by
  rcases named with rfl | rfl <;> decide +kernel

theorem Anchored.marker (anchored : Anchored root place tree) (named : MarkerName name)
    (reaches : Reaches root name) : tree.fileTarget (root.join name) = .ok (place ++ [name]) := by
  obtain ⟨reached, -, clean⟩ := anchored.descend
  have proper := named.proper
  have plain : names name = [] ++ [name] := names_of_no_slash proper.plain
  have usable := usable_join named.below reaches clean proper.clean plain proper.leads
  have split : (root.join name).names = root.names ++ [name] := by
    rw [Route.names_join named.below, leading_of_no_slash proper.plain, if_pos proper.leads]
  have file : ToFile (root.join name) root.names name := ⟨usable, split, proper.notUp, proper.short⟩
  apply file.fileTarget
  rw [Route.origin_join named.below]
  exact reached

theorem Anchored.marker_of_long (anchored : Anchored root place tree) (named : MarkerName name)
    (long : ¬Reaches root name) : tree.fileTarget (root.join name) = .error .nameTooLong := by
  obtain ⟨-, -, clean⟩ := anchored.descend
  have zeros : (0 : UInt8) ∉ (root.join name).text := by
    rw [Route.join_text named.below]
    intro member
    rcases Route.mem_join_text (by decide) member with early | late
    · exact clean early
    · exact named.proper.clean late
  rw [fileTarget, locate_of_long zeros (Nat.not_lt.mp long)]
  rfl

/-- A marker that is written or taken away leaves the root where it is. -/
theorem Anchored.mark (anchored : Anchored root place tree) (named : MarkerName name)
    {after : Option Entry} (replaced : Replaced tree next (place ++ [name]) after)
    (listed : next.Listed) : Anchored root place next := by
  obtain ⟨-, there, -⟩ := anchored.descend
  apply anchored.replaced replaced listed
  intro _
  refine ⟨?_, anchored.regular.proper_concat there named.proper⟩
  rw [List.dropLast_concat]
  exact there

theorem MarkerName.brief (named : MarkerName name) (place : FilePath) :
    (Route.between place (place ++ [name])).text.length < pathBound := by
  have same : toBytes [name] = name := by simp [toBytes, List.intercalate]
  rw [between_append, same]
  exact Nat.lt_of_le_of_lt named.proper.short (by decide)

theorem Housed.mark (housed : Housed root place tree) (named : MarkerName name) {after : Option Entry}
    (replaced : Replaced tree next (place ++ [name]) after) (listed : next.Listed) :
    Housed root place next :=
  (housed.anchored.mark named replaced listed).housed
    (housed.reach.replaced replaced fun _ => named.brief place)

def Unlocked (place : FilePath) (tree : FileTree) : Prop :=
  tree.find? (place ++ [Key.cleanLockName]) = none

def lockPlace (place : FilePath) : FilePath := place ++ [Key.cleanLockName]

theorem lockPlace_ne_nil (place : FilePath) : lockPlace place ≠ [] :=
  List.append_ne_nil_of_right_ne_nil _ (List.cons_ne_nil _ _)

theorem isMarker_lockPlace (place : FilePath) : isMarker place (lockPlace place) = true :=
  MarkerName.isMarker_iff.mpr ⟨_, .inr rfl, rfl⟩

/-- A free lock is taken, or its path is too long. -/
theorem Housed.acquire (housed : Housed root place tree) (unlocked : Unlocked place tree)
    (timeout : Span) :
    (Reaches root Key.cleanLockName ∧
        (Lock.acquire tree (cleanLockPath root) 0 timeout).attempt = .taken ∧
        Housed root place (Lock.acquire tree (cleanLockPath root) 0 timeout).tree ∧
        Replaced tree (Lock.acquire tree (cleanLockPath root) 0 timeout).tree (lockPlace place)
          (some (.file [] 0 0))) ∨
      (Lock.acquire tree (cleanLockPath root) 0 timeout).tree = tree ∧
        (Lock.acquire tree (cleanLockPath root) 0 timeout).attempt = .failed .nameTooLong := by
  have named : MarkerName Key.cleanLockName := .inr rfl
  by_cases reaches : Reaches root Key.cleanLockName
  · left
    have created : tree.createNew (cleanLockPath root) 0 0 = .ok _ :=
      createNew_of_vacant (housed.anchored.marker named reaches) unlocked
    have replaced : Replaced tree _ (lockPlace place) (some (.file [] 0 0)) :=
      replaced_insert (lockPlace_ne_nil place) (isDirectory_of_find?_none unlocked)
    rw [Lock.acquire, created]
    exact ⟨reaches, rfl, housed.mark named replaced
      (housed.regular.listed.insert (lockPlace_ne_nil place) _), replaced⟩
  · right
    have lost : tree.createNew (cleanLockPath root) 0 0 = .error .nameTooLong := by
      rw [createNew, cleanLockPath, housed.anchored.marker_of_long named reaches]
      rfl
    rw [Lock.acquire, lost]
    exact ⟨rfl, rfl⟩

theorem Housed.release (housed : Housed root place tree) (reaches : Reaches root Key.cleanLockName)
    {content : Bytes} {accessed modified : FileTime}
    (held : tree.find? (lockPlace place) = some (.file content accessed modified)) :
    Housed root place (Lock.release tree (cleanLockPath root)).1 ∧
      Replaced tree (Lock.release tree (cleanLockPath root)).1 (lockPlace place) none := by
  have named : MarkerName Key.cleanLockName := .inr rfl
  have there : tree.arrive (cleanLockPath root) =
      .ok (lockPlace place, .file content accessed modified) := by
    rw [cleanLockPath, arrive_of_fileTarget (housed.anchored.marker named reaches), ← lockPlace, held]
  have replaced := replaced_without (lockPlace_ne_nil place) (isDirectory_of_find?_file held)
  rw [Lock.release, removeFile_of_arrive there]
  exact ⟨housed.mark named replaced (housed.regular.listed.without _), replaced⟩

/-- Writing the time of the next pass changes the marker file only, if it can be written. -/
theorem Anchored.persist_cases (anchored : Anchored root place tree) (next : Millis)
    (present : FileTime) : (Cleaning.persist tree root next present).1 = tree ∨
      ∃ used, (tree.Listed → (Cleaning.persist tree root next present).1.Listed) ∧
        Replaced tree (Cleaning.persist tree root next present).1 (place ++ [Key.cleanTimeName])
          (some (.file (Text.bytes (toString next.value)) used 0)) := by
  have named : MarkerName Key.cleanTimeName := .inl rfl
  rw [Cleaning.persist]
  split
  · rename_i written writes
    obtain ⟨path, used, targets, free, rfl⟩ := of_write writes
    rw [cleanTimePath] at targets
    by_cases reaches : Reaches root Key.cleanTimeName
    · rw [anchored.marker named reaches] at targets
      cases targets
      exact .inr ⟨used, fun once => once.insert (by simp) _, replaced_insert (by simp) free⟩
    · rw [anchored.marker_of_long named reaches] at targets
      cases targets
  · exact .inl rfl

theorem Housed.persist (housed : Housed root place tree) (next : Millis) (present : FileTime) :
    Housed root place (Cleaning.persist tree root next present).1 ∧
      Remarked place tree (Cleaning.persist tree root next present).1 ∧
      (Cleaning.persist tree root next present).1.find? (lockPlace place) =
        tree.find? (lockPlace place) := by
  have named : MarkerName Key.cleanTimeName := .inl rfl
  rcases housed.anchored.persist_cases next present with same | ⟨used, listed, replaced⟩
  · rw [same]
    exact ⟨housed, .refl, rfl⟩
  · refine ⟨housed.mark named replaced (listed housed.regular.listed),
      .of_replaced replaced (MarkerName.isMarker_iff.mpr ⟨_, named, rfl⟩), ?_⟩
    rw [replaced.find?_eq, if_neg]
    intro same
    obtain ⟨-, names⟩ := List.append_inj' same rfl
    exact absurd names (by decide +kernel)

structure Passed (root : Route) (place : FilePath) (tree next : FileTree) : Prop where
  housed : Housed root place next
  unlocked : Unlocked place next
  thinned : Thinned place tree next
  order : LeastRecent place tree next

theorem Housed.cleanLocked (housed : Housed root place tree) (unlocked : Unlocked place tree)
    (settings : DiskSettings) (now : Millis) (present : FileTime) :
    Passed root place tree (Cleaning.cleanLocked tree root settings now present).1 := by
  rw [Cleaning.cleanLocked]
  dsimp only
  rcases housed.acquire unlocked settings.lockTimeout with
    ⟨reaches, taken, lodges, locks⟩ | ⟨same, failed⟩
  · rw [taken]
    dsimp only
    generalize (Lock.acquire tree (cleanLockPath root) 0 settings.lockTimeout).tree = locked
      at lodges locks
    obtain ⟨settled, marks, stays⟩ :=
      lodges.persist (now + settings.cleanInterval.toMillis) present
    generalize (Cleaning.persist locked root (now + settings.cleanInterval.toMillis) present).1 =
      marked at settled marks stays
    have passes : clean marked root settings = Cleaning.cleanPlace marked place settings := by
      rw [clean, settled.reached]
    rw [passes]
    obtain ⟨emptied, fewer, markers, order⟩ := settled.cleanPlace settings
    have held : marked.find? (lockPlace place) = some (.file [] 0 0) := by
      rw [stays, locks.find?_eq, if_pos rfl]
    have keeps := markers _ (isMarker_lockPlace place) (by rw [isFile, held]; rfl)
    rw [held] at keeps
    obtain ⟨freed, releases⟩ := emptied.release reaches keeps
    have before := (Remarked.of_replaced locks (isMarker_lockPlace place)).trans marks
    have after := Remarked.of_replaced releases (isMarker_lockPlace place)
    refine ⟨freed, ?_, .of_remarked before (.of_find? fewer) after, .of_remarked before order after⟩
    exact (releases.find?_eq (lockPlace place)).trans (if_pos rfl)
  · rw [failed]
    dsimp only
    rw [same]
    exact ⟨housed, unlocked, .of_find? fun _ => .inl rfl, .refl⟩

end DiskStore

end TieredCache
