import TieredCache.Proofs.Disk.Pruning
import TieredCache.Proofs.Disk.Targets

/-!
What a clean pass does to a tree. Main statement: below the quota nothing changes; otherwise the files
longest unused go, as few as bring the tree below three quarters of its targets, and then the
directories that no file is left in, and the report says how many went.
-/

namespace TieredCache

namespace Cleaning
open FilePath FileTree Selection

variable {tree : FileTree} {place path : FilePath} {paths : List FilePath} {chosen : List Candidate}

/-! ### Files that may go -/

theorem of_candidate? {pair : FilePath × Entry} {file : Candidate}
    (candidate : candidate? place pair = some file) : file.path = pair.1 ∧
      isMarker place pair.1 = false ∧ pair.2.isFile = true := by
  obtain ⟨path, entry⟩ := pair
  cases entry with
  | directory modified => cases candidate
  | file content accessed modified =>
      rw [candidate?] at candidate
      split at candidate
      · cases candidate
      · rename_i unmarked
        cases candidate
        exact ⟨rfl, by simpa using unmarked, rfl⟩

theorem path_sublist (place : FilePath) (entries : List (FilePath × Entry)) :
    ((entries.filterMap (candidate? place)).map (·.path)).Sublist (entries.map (·.1)) := by
  induction entries with
  | nil => exact List.Sublist.refl _
  | cons pair rest ih =>
      rw [List.filterMap_cons]
      cases candidate : candidate? place pair with
      | none => exact ih.cons _
      | some file =>
          rw [List.map_cons, List.map_cons, (of_candidate? candidate).1]
          exact ih.cons_cons _

theorem nodup_paths (regular : tree.Regular) (place : FilePath) :
    ((candidates tree place).map (·.path)).Nodup :=
  ((path_sublist place _).trans (List.filter_sublist.map _)).nodup regular.unique

theorem of_mem_candidates (regular : tree.Regular) {file : Candidate}
    (member : file ∈ candidates tree place) : place.isAbove file.path = true ∧
      isMarker place file.path = false ∧ tree.isFile file.path = true := by
  obtain ⟨pair, inside, candidate⟩ := List.mem_filterMap.mp member
  obtain ⟨same, unmarked, file⟩ := of_candidate? candidate
  obtain ⟨own, above⟩ := List.mem_filter.mp inside
  rw [same]
  exact ⟨above, unmarked, (regular.isFile_of_mem own).trans file⟩

theorem exists_candidate (above : place.isAbove path = true) (unmarked : isMarker place path = false)
    (file : tree.isFile path = true) : ∃ candidate ∈ candidates tree place, candidate.path = path := by
  obtain ⟨content, accessed, modified, found⟩ := isFile_iff.mp file
  refine ⟨⟨accessed, content.length, path⟩, List.mem_filterMap.mpr ?_, rfl⟩
  refine ⟨(path, .file content accessed modified), List.mem_filter.mpr ⟨?_, above⟩, ?_⟩
  · exact mem_of_find? (ne_nil_of_isFile file) found
  · rw [candidate?, unmarked]
    rfl

/-- Files below a directory that stands below the root are never markers. -/
theorem not_marker_of_below {other : FilePath} (above : place.isAbove path = true)
    (below : path.isAbove other = true) : isMarker place other = false := by
  have first := (isAbove_iff.mp above).2
  have second := (isAbove_iff.mp below).2
  have long : ∀ name : Name, other ≠ place ++ [name] := by
    rintro name rfl
    rw [List.length_append, List.length_singleton] at second
    omega
  simp [isMarker, long]

theorem candidates_leftover (tree : FileTree) (place : FilePath) (paths : List FilePath) :
    candidates (tree.leftover paths) place =
      (candidates tree place).filter fun file => decide (file.path ∉ paths) := by
  rw [candidates, candidates, below, below, leftover, List.filter_filterMap, List.filterMap_filter,
    List.filterMap_filter, List.filterMap_filter]
  refine List.filterMap_congr fun pair _ => ?_
  cases candidate : candidate? place pair with
  | none => simp
  | some file =>
      rw [Option.filter_some, (of_candidate? candidate).1]
      by_cases member : pair.1 ∈ paths <;> simp [member]

theorem candidates_prune (tree : FileTree) (place : FilePath) :
    candidates (prune tree place) place = candidates tree place := by
  rw [candidates, candidates, below, below, prune, cleared, List.filterMap_filter,
    List.filterMap_filter, List.filterMap_filter]
  refine List.filterMap_congr fun pair _ => ?_
  obtain ⟨path, entry⟩ := pair
  cases entry with
  | directory modified => simp [candidate?]
  | file content accessed modified => simp [Entry.isDirectory]

/-! ### Taking files away -/

/-- Files below the root that are in reach are taken away. -/
theorem evict_eq (regular : tree.Regular) (reach : tree.InReach place)
    (files : ∀ file ∈ chosen, place.isAbove file.path = true ∧ tree.isFile file.path = true)
    (distinct : (chosen.map (·.path)).Nodup) :
    evict tree place chosen = (tree.leftover (chosen.map (·.path)), chosen) := by
  induction chosen generalizing tree with
  | nil => simp [evict, leftover]
  | cons file rest ih =>
      obtain ⟨apart, others⟩ := List.nodup_cons.mp distinct
      obtain ⟨above, own⟩ := files file List.mem_cons_self
      obtain ⟨content, accessed, modified, found⟩ := isFile_iff.mp own
      have removes := regular.removeFile (mem_of_find? (ne_nil_of_isFile own) found) above
        (reach file.path above own)
      have firm := regular.without_file own
      have fewer : ∀ path, (tree.without file.path).isFile path = true → tree.isFile path = true := by
        intro path stays
        by_cases same : path = file.path
        · rw [same]
          exact own
        · rwa [isFile, find?_without_of_ne tree same] at stays
      have kept : ∀ other ∈ rest, place.isAbove other.path = true ∧
          (tree.without file.path).isFile other.path = true := by
        intro other member
        have different : other.path ≠ file.path := fun same =>
          apart (List.mem_map.mpr ⟨other, member, same⟩)
        rw [isFile, find?_without_of_ne tree different]
        exact files other (List.mem_cons_of_mem _ member)
      have onward := ih firm (fun path low stays => reach path low (fewer path stays)) kept others
      rw [evict, removes]
      simp only [onward, leftover_without, List.map_cons]

/-! ### Taking directories away -/

def goneDirectories (tree after : FileTree) (place : FilePath) : List FilePath :=
  ((tree.below place).filter fun pair => pair.2.isDirectory && !after.isDirectory pair.1).map (·.1)

theorem directoryCount_filter (regular : tree.Regular) (keep : FilePath × Entry → Bool)
    (place : FilePath) : directoryCount tree place =
      directoryCount ⟨tree.entries.filter keep⟩ place +
        (goneDirectories tree ⟨tree.entries.filter keep⟩ place).length := by
  have left : (below ⟨tree.entries.filter keep⟩ place).filter (·.2.isDirectory) =
      ((tree.below place).filter (·.2.isDirectory)).filter keep := by
    simp only [below, List.filter_filter]
    refine List.filter_congr fun pair _ => ?_
    cases place.isAbove pair.1 <;> cases pair.2.isDirectory <;> cases keep pair <;> rfl
  have gone : (tree.below place).filter (fun pair => pair.2.isDirectory &&
      !isDirectory ⟨tree.entries.filter keep⟩ pair.1) =
        ((tree.below place).filter (·.2.isDirectory)).filter (fun pair => !keep pair) := by
    rw [List.filter_filter]
    refine List.filter_congr fun pair member => ?_
    have own := (List.mem_filter.mp member).1
    have kept : isDirectory ⟨tree.entries.filter keep⟩ pair.1 =
        (pair.2.isDirectory && keep pair) := by
      rw [isDirectory, find?_filter regular.unique, if_neg (regular.ne_nil own), regular.find? own,
        Option.filter_some]
      cases keep pair <;> simp
    rw [kept]
    cases pair.2.isDirectory <;> cases keep pair <;> rfl
  rw [directoryCount, directoryCount, goneDirectories, List.length_map, left, gone]
  have parts := List.filter_append_perm keep ((tree.below place).filter (·.2.isDirectory))
  rw [← parts.length_eq, List.length_append]

/-! ### A whole pass -/

def Exceeds (settings : DiskSettings) (tree : FileTree) (place : FilePath) : Prop :=
  settings.targetSize * 5 / 4 ≤ totalSize (candidates tree place) ∨
    ∃ target, settings.targetInodes = some target ∧ target * 5 / 4 ≤ inodeCount tree place

/-- What lies above three quarters of the targets. -/
def excess (settings : DiskSettings) (tree : FileTree) (place : FilePath) : Demand where
  bytes := totalSize (candidates tree place) - settings.targetSize * 3 / 4
  files := settings.targetInodes.elim 0 fun target => inodeCount tree place - target * 3 / 4

/-- The shortest beginning of an order that meets a demand, or all of it. -/
structure ShortestPart (demand : Demand) (order chosen : List Candidate) : Prop where
  start : chosen <+: order
  enough : demand.Met chosen ∨ chosen = order
  least : ∀ other, other <+: order → demand.Met other → chosen.length ≤ other.length

/-- What becomes of a tree when files are evicted: they are gone and so are the directories that no
file is left in; everything else is as it was. -/
structure Swept (tree after : FileTree) (place : FilePath) (evicted : List Candidate) : Prop where
  files : ∀ path, tree.isFile path = true →
    after.find? path = if path ∈ evicted.map (·.path) then none else tree.find? path
  markers : ∀ path, isMarker place path = true → tree.isFile path = true →
    after.find? path = tree.find? path
  directories : ∀ path, tree.isDirectory path = true → after.find? path =
    if place.isAbove path = true ∧ after.hasFileBelow path = false then none else tree.find? path
  nothing : ∀ path, tree.find? path = none → after.find? path = none
  filled : ∀ path, place.isAbove path = true → after.isDirectory path = true →
    ∃ other, path.isAbove other = true ∧ after.find? other ≠ none

variable {settings : DiskSettings} {root : Route}

theorem shortestPart_shortest (demand : Demand) (order : List Candidate) :
    ShortestPart demand order (shortest demand order) where
  start := shortest_begins demand order
  enough := met_shortest_or_all demand order
  least := fun _ start met => length_shortest_le start met

def swept (tree : FileTree) (place : FilePath) (evicted : List Candidate) : FileTree :=
  prune (tree.leftover (evicted.map (·.path))) place

section

variable (regular : tree.Regular) (known : ∀ file ∈ chosen, file ∈ candidates tree place)
include regular known

theorem isFile_of_chosen : ∀ path ∈ chosen.map (·.path), tree.isFile path = true := by
  intro path member
  obtain ⟨file, own, rfl⟩ := List.mem_map.mp member
  exact (of_mem_candidates regular (known file own)).2.2

theorem not_mem_of_isDirectory (directory : tree.isDirectory path = true) :
    path ∉ chosen.map (·.path) := by
  intro member
  have file := isFile_of_chosen regular known path member
  rw [isFile_eq_false_of_isDirectory directory] at file
  cases file

theorem find?_leftover_chosen (path : FilePath) : (tree.leftover (chosen.map (·.path))).find? path =
    if path ∈ chosen.map (·.path) then none else tree.find? path :=
  regular.find?_leftover
    (fun empty => ne_nil_of_isFile (isFile_of_chosen regular known [] empty) rfl) path

theorem isDirectory_leftover_chosen (path : FilePath) :
    (tree.leftover (chosen.map (·.path))).isDirectory path = tree.isDirectory path := by
  rw [isDirectory, find?_leftover_chosen regular known]
  split
  · rename_i member
    have undirected : tree.isDirectory path = false := Bool.eq_false_iff.mpr fun directory =>
      not_mem_of_isDirectory regular known directory member
    rw [undirected]
    rfl
  · rfl

theorem regular_leftover_chosen : (tree.leftover (chosen.map (·.path))).Regular :=
  regular.leftover (isFile_of_chosen regular known)

theorem directoryCount_leftover_chosen (place : FilePath) :
    directoryCount (tree.leftover (chosen.map (·.path))) place = directoryCount tree place := by
  rw [directoryCount, directoryCount, below, below, leftover, List.filter_filter, List.filter_filter,
    List.filter_filter]
  congr 1
  refine List.filter_congr fun item own => ?_
  cases kind : item.2.isDirectory with
  | false => simp
  | true =>
      have kept := not_mem_of_isDirectory regular known ((regular.isDirectory_of_mem own).trans kind)
      simp [kept]

theorem isFile_swept (path : FilePath) : (swept tree place chosen).isFile path = true ↔
    tree.isFile path = true ∧ path ∉ chosen.map (·.path) := by
  rw [swept, isFile_prune (regular_leftover_chosen regular known), isFile,
    find?_leftover_chosen regular known]
  by_cases member : path ∈ chosen.map (·.path)
  · rw [if_pos member]
    exact ⟨fun file => absurd file (by simp), fun both => absurd member both.2⟩
  · rw [if_neg member]
    exact ⟨fun file => ⟨file, member⟩, fun both => both.1⟩

theorem find?_swept_directory (path : FilePath) (directory : tree.isDirectory path = true) :
    (swept tree place chosen).find? path = if place.isAbove path = true ∧
        (swept tree place chosen).hasFileBelow path = false then none else tree.find? path := by
  have firm := regular_leftover_chosen regular known
  have same := find?_leftover_chosen regular known path
  rw [if_neg (not_mem_of_isDirectory regular known directory)] at same
  rw [swept, find?_prune firm, isDirectory_leftover_chosen regular known, directory, same,
    hasFileBelow_prune]
  simp only [true_and]

theorem find?_swept_file (path : FilePath) (file : tree.isFile path = true) :
    (swept tree place chosen).find? path =
      if path ∈ chosen.map (·.path) then none else tree.find? path := by
  have firm := regular_leftover_chosen regular known
  have undirected : tree.isDirectory path = false := by
    cases directory : tree.isDirectory path with
    | false => rfl
    | true =>
        rw [isFile_eq_false_of_isDirectory directory] at file
        cases file
  rw [swept, find?_prune firm, isDirectory_leftover_chosen regular known, undirected,
    if_neg (by simp), find?_leftover_chosen regular known]

theorem isDirectory_of_swept (directory : (swept tree place chosen).isDirectory path = true) :
    tree.isDirectory path = true := by
  rw [← isDirectory_leftover_chosen regular known]
  rw [isDirectory, swept, find?_prune (regular_leftover_chosen regular known)] at directory
  split at directory
  · cases directory
  · exact directory

theorem swept_spec : Swept tree (swept tree place chosen) place chosen := by
  have directories := find?_swept_directory regular known
  have files := find?_swept_file regular known
  have nothing : ∀ path, tree.find? path = none → (swept tree place chosen).find? path = none := by
    intro path missing
    rw [swept, find?_prune (regular_leftover_chosen regular known), find?_leftover_chosen regular known,
      missing]
    simp
  refine ⟨files, ?_, directories, nothing, ?_⟩
  · intro path marked file
    rw [files path file, if_neg]
    intro member
    obtain ⟨candidate, own, rfl⟩ := List.mem_map.mp member
    have unmarked := (of_mem_candidates regular (known candidate own)).2.1
    rw [marked] at unmarked
    cases unmarked
  · intro path above directory
    obtain ⟨modified, found⟩ := isDirectory_iff.mp directory
    have was := isDirectory_of_swept regular known directory
    rw [directories path was] at found
    split at found
    · cases found
    · rename_i stays
      by_contra empty
      refine stays ⟨above, ?_⟩
      rw [← Bool.not_eq_true, swept, hasFileBelow_prune,
        (regular_leftover_chosen regular known).hasFileBelow_iff]
      rintro ⟨other, below, file⟩
      rw [← isFile_prune (regular_leftover_chosen regular known) place, ← swept] at file
      obtain ⟨content, accessed, changed, there⟩ := isFile_iff.mp file
      exact empty ⟨other, below, by simp [there]⟩

end

/-- When all candidates are gone, no directory is left either. -/
theorem directoryCount_swept_all (regular : tree.Regular)
    (all : ∀ file ∈ candidates tree place, file ∈ chosen)
    (known : ∀ file ∈ chosen, file ∈ candidates tree place) :
    directoryCount (swept tree place chosen) place = 0 := by
  have firm := regular_leftover_chosen regular known
  rw [directoryCount, List.length_eq_zero_iff, List.filter_eq_nil_iff]
  rintro ⟨path, entry⟩ member directory
  obtain ⟨inside, above⟩ := List.mem_filter.mp member
  change place.isAbove path = true at above
  have kept := (List.mem_filter.mp inside).2
  have filled : (tree.leftover (chosen.map (·.path))).hasFileBelow path = true := by
    simp only [Bool.not_eq_true', Bool.and_eq_false_iff, Bool.not_eq_false'] at kept
    rcases kept with (low | file) | below
    · rw [low] at above
      cases above
    · rw [file] at directory
      cases directory
    · exact below
  obtain ⟨other, below, file⟩ := firm.hasFileBelow_iff.mp filled
  rw [← isFile_prune firm place, ← swept] at file
  obtain ⟨was, remains⟩ := (isFile_swept regular known other).mp file
  obtain ⟨candidate, own, rfl⟩ :=
    exists_candidate (isAbove_trans above below) (not_marker_of_below above below) was
  exact remains (List.mem_map.mpr ⟨candidate, all candidate own, rfl⟩)

/-- Of files with a beginning taken away, the rest is left. -/
theorem filter_candidates (regular : tree.Regular) (start : chosen <+: ranked (candidates tree place)) :
    ∃ rest, ranked (candidates tree place) = chosen ++ rest ∧
      (candidates (swept tree place chosen) place).Perm rest := by
  obtain ⟨rest, whole⟩ := start
  refine ⟨rest, whole.symm, ?_⟩
  have distinct : ((chosen ++ rest).map (·.path)).Nodup := by
    rw [whole]
    exact ((ranked_perm _).map _).nodup_iff.mpr (nodup_paths regular place)
  rw [List.map_append, List.nodup_append] at distinct
  have apart : ∀ file ∈ rest, file.path ∉ chosen.map (·.path) := by
    intro file member inside
    exact distinct.2.2 _ inside _ (List.mem_map.mpr ⟨file, member, rfl⟩) rfl
  rw [swept, candidates_prune, candidates_leftover]
  have order : (candidates tree place).Perm (chosen ++ rest) := by
    rw [whole]
    exact (ranked_perm _).symm
  refine (order.filter _).trans ?_
  have gone : chosen.filter (fun file => decide (file.path ∉ chosen.map (·.path))) = [] := by
    rw [List.filter_eq_nil_iff]
    intro file member absent
    exact of_decide_eq_true absent (List.mem_map.mpr ⟨file, member, rfl⟩)
  have kept : rest.filter (fun file => decide (file.path ∉ chosen.map (·.path))) = rest :=
    List.filter_eq_self.mpr fun file member => decide_eq_true (apart file member)
  rw [List.filter_append, gone, kept, List.nil_append]

theorem known_of_start (start : chosen <+: ranked (candidates tree place)) :
    ∀ file ∈ chosen, file ∈ candidates tree place :=
  fun _ member => (ranked_perm _).mem_iff.mp (start.subset member)

theorem evict_of_start (regular : tree.Regular) (reach : tree.InReach place)
    (start : chosen <+: ranked (candidates tree place)) :
    evict tree place chosen = (tree.leftover (chosen.map (·.path)), chosen) := by
  apply evict_eq regular reach
  · intro file member
    obtain ⟨above, -, own⟩ := of_mem_candidates regular (known_of_start start file member)
    exact ⟨above, own⟩
  · exact (start.sublist.map _).nodup (((ranked_perm _).map _).nodup_iff.mpr (nodup_paths regular place))

theorem directoryCount_swept (sound : tree.Sound) (place : FilePath) (chosen : List Candidate) :
    directoryCount tree place =
      directoryCount (swept tree place chosen) place +
        (goneDirectories tree (swept tree place chosen) place).length := by
  rw [swept, prune, cleared, leftover, List.filter_filter]
  exact directoryCount_filter sound.regular _ place

/-- A quota is met again: whether enough was freed or everything, three quarters are not exceeded. -/
theorem quota_met {before freed left target : Nat} (parts : before = freed + left)
    (enough : before - target * 3 / 4 ≤ freed ∨ left = 0) : 4 * left ≤ 3 * target := by
  omega

def isExceeded (settings : DiskSettings) (tree : FileTree) (place : FilePath) : Bool :=
  decide (totalSize (candidates tree place) ≥ quarters 5 settings.targetSize) ||
    settings.targetInodes.any fun target => decide (inodeCount tree place ≥ quarters 5 target)

def demanded (settings : DiskSettings) (tree : FileTree) (place : FilePath) : Demand where
  bytes := totalSize (candidates tree place) - quarters 3 settings.targetSize
  files := settings.targetInodes.elim 0 fun target => inodeCount tree place - quarters 3 target

theorem exceeds_iff (tree : FileTree) (place : FilePath)
    (small : settings.targetSize < 0x4000000000000)
    (few : ∀ target, settings.targetInodes = some target → target < 0x4000000000000) :
    Exceeds settings tree place ↔ isExceeded settings tree place = true := by
  rw [Exceeds, isExceeded, Bool.or_eq_true, decide_eq_true_eq, quarters_of_lt small (by decide)]
  cases inodes : settings.targetInodes with
  | none => simp
  | some target =>
      rw [Option.any_some, quarters_of_lt (few target inodes) (by decide), decide_eq_true_eq]
      simp

theorem demanded_eq (tree : FileTree) (place : FilePath)
    (small : settings.targetSize < 0x4000000000000)
    (few : ∀ target, settings.targetInodes = some target → target < 0x4000000000000) :
    demanded settings tree place = excess settings tree place := by
  rw [demanded, excess, quarters_of_lt small (by decide)]
  cases inodes : settings.targetInodes with
  | none => rfl
  | some target =>
      rw [Option.elim_some, Option.elim_some, quarters_of_lt (few target inodes) (by decide)]

/-- What a pass does, by what both of its walks come to. -/
theorem cleanPlace_eq (regular : tree.Regular) (place : FilePath) (settings : DiskSettings) :
    (isExceeded settings tree place = false → (cleanPlace tree place settings).tree = tree ∧
      (cleanPlace tree place settings).report =
        ⟨totalSize (candidates tree place), inodeCount tree place, true, 0, 0, 0, true⟩) ∧
    (isExceeded settings tree place = true → ∀ chosen emptied evicted,
      shortest (demanded settings tree place) (ranked (candidates tree place)) = chosen →
      evict tree place chosen = (emptied, evicted) →
      (cleanPlace tree place settings).tree = (pruneEmpty emptied.height place (emptied, 0)).1 ∧
      (cleanPlace tree place settings).report =
        ⟨totalSize (candidates tree place), inodeCount tree place, false, evicted.length,
          totalSize evicted, (pruneEmpty emptied.height place (emptied, 0)).2,
          decide (evicted.length = chosen.length)⟩) := by
  obtain ⟨files, order, walks⟩ := walk_eq regular place
  have size : files.foldl (fun size file => size + file.size) 0 =
      totalSize (candidates tree place) := totalSize_perm order
  have ranks : ranked files = ranked (candidates tree place) :=
    eq_ranked (ranked_pairwise files) ((ranked_perm files).trans order)
  have selects (demand : Demand) : (files.foldl (offer demand) empty).oldestFirst =
      shortest demand (ranked (candidates tree place)) := by
    rw [← ranks]
    exact oldestFirst_ofFiles demand files
  have decides : (!decide (totalSize (candidates tree place) ≥ quarters 5 settings.targetSize) &&
      !settings.targetInodes.any fun target =>
        decide (inodeCount tree place ≥ quarters 5 target)) = !isExceeded settings tree place := by
    rw [isExceeded, Bool.not_or]
  unfold cleanPlace
  simp only [walks, size, selects, decides]
  constructor
  · intro idle
    simp [idle]
  · intro busy chosen emptied evicted selected evicts
    change shortest ⟨_, settings.targetInodes.elim 0 fun target => _⟩ _ = chosen at selected
    simp [busy, selected, evicts]

/-- Taking files away leaves a tree as an operating system keeps it. -/
theorem regular_evict (regular : tree.Regular) (place : FilePath) (files : List Candidate) :
    (evict tree place files).1.Regular := by
  induction files generalizing tree with
  | nil => exact regular
  | cons file rest ih =>
      rw [evict]
      split
      · rename_i removed removes
        obtain ⟨path, content, accessed, modified, there, rfl⟩ := of_removeFile removes
        obtain ⟨-, -, -, found⟩ := of_arrive there
        exact ih (regular.without_file (isFile_iff.mpr ⟨content, accessed, modified, found⟩))
      · exact ih regular

/-- Whatever the settings, a pass leaves the tree as it is or takes files away from the beginning of
the order of their last use. -/
theorem cleanPlace_sweeps (regular : tree.Regular) (place : FilePath) (settings : DiskSettings) :
    (cleanPlace tree place settings).tree = tree ∨
      ∃ chosen, chosen <+: ranked (candidates tree place) ∧
        (cleanPlace tree place settings).tree = prune (evict tree place chosen).1 place := by
  obtain ⟨idle, busy⟩ := cleanPlace_eq regular place settings
  cases exceeded : isExceeded settings tree place with
  | false => exact .inl (idle exceeded).1
  | true =>
      refine .inr ⟨_, shortest_begins (demanded settings tree place) _, ?_⟩
      rw [(busy exceeded _ _ _ rfl rfl).1, pruneEmpty_eq (regular_evict regular place _)]

theorem cleanPlace_cases (regular : tree.Regular) (reach : tree.InReach place)
    (settings : DiskSettings) :
    (cleanPlace tree place settings).tree = tree ∨
      ∃ chosen, chosen <+: ranked (candidates tree place) ∧
        (cleanPlace tree place settings).tree = swept tree place chosen := by
  refine (cleanPlace_sweeps regular place settings).imp_right fun ⟨chosen, start, sweeps⟩ => ?_
  exact ⟨chosen, start, by rw [sweeps, evict_of_start regular reach start, swept]⟩

theorem cleanPlace_of_exceeds (sound : tree.Sound) (small : settings.targetSize < 0x4000000000000)
    (few : ∀ target, settings.targetInodes = some target → target < 0x4000000000000)
    (exceeds : Exceeds settings tree place)
    (selected : shortest (excess settings tree place) (ranked (candidates tree place)) = chosen)
    (start : chosen <+: ranked (candidates tree place)) :
    (cleanPlace tree place settings).tree = swept tree place chosen ∧
      (cleanPlace tree place settings).report =
        ⟨totalSize (candidates tree place), inodeCount tree place, false, chosen.length,
          totalSize chosen, (goneDirectories tree (swept tree place chosen) place).length, true⟩ := by
  have evicts := evict_of_start sound.regular (sound.inReach place) start
  have known : ∀ file ∈ chosen, file ∈ candidates tree place := known_of_start start
  have directories := directoryCount_swept sound place chosen
  have kept := directoryCount_leftover_chosen sound.regular known
  rw [exceeds_iff tree place small few] at exceeds
  rw [← demanded_eq tree place small few] at selected
  obtain ⟨emptied, report⟩ :=
    (cleanPlace_eq sound.regular place settings).2 exceeds chosen _ _ selected evicts
  have prunes := pruneEmpty_eq (regular_leftover_chosen sound.regular known) place
  rw [← swept, kept] at prunes
  rw [emptied, report, prunes, decide_eq_true rfl]
  refine ⟨rfl, ?_⟩
  congr 1
  dsimp only
  omega

/-- A clean pass keeps the quota. Below it nothing happens; otherwise the files longest unused are
evicted, no more of them than needed, with the directories that they leave empty. -/
theorem clean_keeps_quota (sound : tree.Sound) (reached : rootPlace tree root = .ok place)
    (small : settings.targetSize < 0x4000000000000)
    (few : ∀ target, settings.targetInodes = some target → target < 0x4000000000000) :
    (¬Exceeds settings tree place → (clean tree root settings).tree = tree ∧
      (clean tree root settings).report =
        ⟨totalSize (candidates tree place), inodeCount tree place, true, 0, 0, 0, true⟩) ∧
    (Exceeds settings tree place → ∃ evicted,
      ShortestPart (excess settings tree place) (ranked (candidates tree place)) evicted ∧
      Swept tree (clean tree root settings).tree place evicted ∧
      4 * totalSize (candidates (clean tree root settings).tree place) ≤ 3 * settings.targetSize ∧
      (∀ target, settings.targetInodes = some target →
        4 * inodeCount (clean tree root settings).tree place ≤ 3 * target) ∧
      (clean tree root settings).report =
        ⟨totalSize (candidates tree place), inodeCount tree place, false, evicted.length,
          totalSize evicted,
          (goneDirectories tree (clean tree root settings).tree place).length, true⟩ ∧
      totalSize (candidates tree place) - totalSize evicted =
        totalSize (candidates (clean tree root settings).tree place)) := by
  have passes : clean tree root settings = cleanPlace tree place settings := by rw [clean, reached]
  rw [passes]
  refine ⟨fun modest => (cleanPlace_eq sound.regular place settings).1 ?_, fun exceeds => ?_⟩
  · rwa [exceeds_iff tree place small few, Bool.not_eq_true] at modest
  have part := shortestPart_shortest (excess settings tree place) (ranked (candidates tree place))
  generalize selected : shortest (excess settings tree place) (ranked (candidates tree place)) =
    evicted at part
  have known : ∀ file ∈ evicted, file ∈ candidates tree place := fun file member =>
    (ranked_perm _).mem_iff.mp (part.start.subset member)
  obtain ⟨emptied, report⟩ := cleanPlace_of_exceeds sound small few exceeds selected part.start
  obtain ⟨rest, whole, left⟩ := filter_candidates sound part.start
  have size : totalSize (candidates tree place) = totalSize evicted + totalSize rest := by
    rw [← totalSize_append, ← whole, totalSize_perm (ranked_perm _)]
  have number : (candidates tree place).length = evicted.length + rest.length := by
    rw [← List.length_append, ← whole, (ranked_perm _).length_eq]
  have nothing : evicted = ranked (candidates tree place) → rest = [] := by
    intro all
    rw [← all] at whole
    exact List.append_right_eq_self.mp whole.symm
  have directories := directoryCount_swept sound place evicted
  rw [emptied]
  refine ⟨evicted, part, swept_spec sound known, ?_, ?_, report, ?_⟩
  · rw [totalSize_perm left]
    refine quota_met size ?_
    rcases part.enough with met | all
    · exact .inl met.1
    · exact .inr (by rw [nothing all]; rfl)
  · intro target inodes
    rw [inodeCount, left.length_eq]
    have demanded : (excess settings tree place).files = inodeCount tree place - target * 3 / 4 := by
      rw [excess, inodes]
      rfl
    rcases part.enough with met | all
    · have enough := met.2
      rw [demanded, inodeCount] at enough
      omega
    · have every : ∀ file ∈ candidates tree place, file ∈ evicted := by
        intro file member
        rw [all]
        exact (ranked_perm _).mem_iff.mpr member
      rw [directoryCount_swept_all sound every known, nothing all]
      exact Nat.zero_le _
  · rw [totalSize_perm left]
    omega

private def cluttered : FileTree :=
  let place := Text.bytes "cache"
  { entries := [([place], .directory 0),
      ([place, Key.cleanTimeName], .file [49] 0 0),
      ([place, Text.bytes "a"], .directory 0),
      ([place, Text.bytes "a", Text.bytes "b,"], .file [1, 2, 3] 10 0),
      ([place, Text.bytes "c,"], .file [4, 5] 30 0),
      ([place, Text.bytes "d,"], .file [6] 20 0),
      ([place, Text.bytes "e"], .directory 0)] }

private theorem sound_cluttered : cluttered.Sound where
  unique := by decide +kernel
  below := by decide +kernel
  rooted := rooted_of_entries (by decide +kernel)
  proper := by decide +kernel
  brief := by decide +kernel

theorem clean_keeps_quota_of_four :
    Exceeds { targetSize := 4 } cluttered [Text.bytes "cache"] ∧ ∃ evicted,
      ShortestPart (excess { targetSize := 4 } cluttered [Text.bytes "cache"])
        (ranked (candidates cluttered [Text.bytes "cache"])) evicted ∧
      Swept cluttered (clean cluttered ⟨Text.bytes "/cache", []⟩ { targetSize := 4 }).tree
        [Text.bytes "cache"] evicted := by
  have exceeds : Exceeds { targetSize := 4 } cluttered [Text.bytes "cache"] :=
    .inl (by decide +kernel)
  have reached : rootPlace cluttered ⟨Text.bytes "/cache", []⟩ = .ok [Text.bytes "cache"] := by
    decide +kernel
  obtain ⟨evicted, part, after, -⟩ :=
    (clean_keeps_quota sound_cluttered reached (by decide) (by simp)).2 exceeds
  exact ⟨exceeds, evicted, part, after⟩

example : (clean cluttered ⟨Text.bytes "/cache", []⟩ { targetSize := 4 }).report =
    ⟨6, 5, false, 1, 3, 2, true⟩ := by decide +kernel

end Cleaning

end TieredCache
