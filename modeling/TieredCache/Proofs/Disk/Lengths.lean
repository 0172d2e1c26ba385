import TieredCache.Proofs.Disk.Attempts
import TieredCache.Proofs.Disk.Contents
import TieredCache.Proofs.Key.Dots

/-!
How long paths may be. Main statement: a store with an empty root takes a key exactly if the path of the
key, and with it that of a temporary file beside its last name, is shorter than the bound on paths, or if
the path is so long that the key is stored under its digest.
-/

namespace TieredCache

namespace Route
open FilePath

variable {route : Route}

/-- Nothing comes between a directory that a route leads to and what it is joined with but a slash. -/
theorem length_join_parent (filled : route.parent.names ≠ []) {relative : Bytes}
    (below : isAbsolute relative = false) : (route.parent.join relative).text.length =
      route.parent.text.length + 1 + relative.length := by
  have plain := ending_parent filled
  have text := text_ne_nil_of_names filled
  have opened : route.parent.text.getLast? ≠ some slash := by
    intro closed
    rw [ending, if_pos closed] at plain
    split at plain <;> cases plain
  rw [join_text below, Key.join, if_neg (by rw [List.isEmpty_iff]; exact not_or.mpr ⟨text, opened⟩),
    List.length_append, List.length_cons]
  omega

end Route

namespace FileTree
open FilePath DiskStore

variable {tree written : FileTree} {route : Route} {content : Bytes} {present : FileTime}

theorem temporary_eq (tree : FileTree) (directory : Route) :
    ∃ attempt, temporary tree directory = directory.join (temporaryName attempt) := by
  rw [temporary]
  generalize found : List.find? _ _ = first
  cases first with
  | none => exact ⟨0, rfl⟩
  | some beside =>
      obtain ⟨attempt, -, rfl⟩ := List.mem_map.mp (List.mem_of_find?_eq_some found)
      exact ⟨attempt, rfl⟩

/-- The path of a file that is written is short, and so is that of a temporary file beside it. -/
theorem writeFile_short (writes : writeFile tree route content present = (written, none)) :
    route.text.length < pathBound ∧
      ∃ attempt, (route.parent.join (temporaryName attempt)).text.length < pathBound := by
  constructor
  · obtain ⟨-, ⟨failed, -⟩ | ⟨-, located, locates, -⟩⟩ := writeFile_cases writes
    · exact absurd rfl failed
    · exact short_of_locate locates
  · unfold writeFile at writes
    split at writes
    · cases writes
    · rename_i prepared raises
      obtain ⟨attempt, beside⟩ := temporary_eq prepared route.parent
      refine ⟨attempt, ?_⟩
      rw [← beside]
      dsimp only at writes
      cases creates : prepared.createNew (temporary prepared route.parent) present 0 with
      | error cause =>
          rw [creates] at writes
          cases writes
      | ok created =>
          obtain ⟨place, targets, -, -⟩ := of_createNew creates
          exact short_of_locate (fileTarget_eq_ok.mp targets).1

end FileTree

namespace DiskStore
open FilePath FileTree

variable {store : DiskStore} {tree : FileTree} {place : FilePath} {key : String} {content : Bytes}
  {now : Millis} {present : FileTime}

/-! ### Keys that are taken -/

def ownLength (store : DiskStore) (key : String) : Nat :=
  (Key.join store.root.text (Key.escape key)).length

def leafLength (key : String) : Nat := ((names (Key.escape key)).getLast?.getD []).length

/-- Whether a key is stored under its digest, or under its own name by a path that is short enough, also
with the ten octets of a temporary name in place of its last one. -/
def Admits (store : DiskStore) (key : String) : Prop :=
  Key.pathLimit < store.ownLength key ∨
    store.ownLength key < pathBound ∧ store.ownLength key + 10 < pathBound + leafLength key

instance (store : DiskStore) (key : String) : Decidable (store.Admits key) :=
  inferInstanceAs (Decidable (_ ∨ _ ∧ _))

theorem temporaryName_form (attempt : Nat) : (temporaryName attempt).length = 10 ∧
    Route.isAbsolute (temporaryName attempt) = false := by
  have start : Text.bytes ".tmp" = [46, 116, 109, 112] := by decide +kernel
  rw [temporaryName, start]
  exact ⟨rfl, rfl⟩

theorem not_temporary_of_head {name : Name} (undotted : name.head? ≠ some Key.dot) :
    isTemporaryName name = false := by
  have start : Text.bytes ".tmp" = Key.dot :: Text.bytes "tmp" := by decide +kernel
  rw [isTemporaryName, start]
  cases name with
  | nil => rfl
  | cons octet rest =>
      have other : (Key.dot == octet) = false := by
        rw [beq_eq_false_iff_ne]
        exact fun same => undotted (congrArg some same.symm)
      rw [List.isPrefixOf_cons_cons, other]
      rfl

structure Spread (key : String) (folders : List Name) (leaf : Name) : Prop where
  filed : Key.Filed (Key.escape key) folders leaf
  split : names (Key.escape key) = folders ++ [leaf]
  undotted : ∀ name ∈ folders ++ [leaf], name.head? ≠ some Key.dot
  short : ∀ name ∈ folders ++ [leaf], name.length ≤ 131

theorem spread_of_sheltered (sheltered : Key.Sheltered key) :
    ∃ folders leaf, Spread key folders leaf := by
  obtain ⟨folders, leaf, filed⟩ := Key.filed_escapeBytes (Text.bytes key)
  have undotted := (Key.sheltered_iff key).mp sheltered
  have whole : names (Key.escape key) = folders ++ [leaf] := by
    rw [← filed.split, leading]
    refine (List.filter_eq_self.mpr fun name member => ?_).symm
    rw [leads, Bool.and_eq_true, Bool.not_eq_true', List.isEmpty_eq_false_iff, decide_eq_true_eq]
    refine ⟨filed.filled name member, ?_⟩
    rintro rfl
    exact undotted _ member rfl
  refine ⟨folders, leaf, filed, whole, ?_, ?_⟩
  · rw [← whole]
    exact undotted
  · rw [← whole]
    exact fun name member => Key.length_le_of_mem_names member

variable {folders : List Name} {leaf : Name}

theorem Spread.leafLength_eq (spread : Spread key folders leaf) : leafLength key = leaf.length := by
  rw [leafLength, spread.split, List.getLast?_concat, Option.getD_some]

theorem Spread.leads (spread : Spread key folders leaf) :
    ∀ name ∈ folders ++ [leaf], leads name = true := by
  rw [← spread.filed.split]
  exact fun name member => (List.mem_filter.mp member).2

/-- A key of a single name has a short path. -/
theorem Spread.ownLength_le (store : DiskStore) (spread : Spread key [] leaf) :
    store.ownLength key ≤ store.root.text.length + 132 := by
  have member : leaf ∈ names (Key.escape key) := by simp [spread.split]
  have plain := not_slash_of_mem_names member
  have alone : Key.escape key = leaf := names_inj (spread.split.trans (names_of_no_slash plain).symm)
  have joined := length_join_le store.root.text (Key.escape key)
  have short := spread.short leaf (by simp)
  rw [ownLength]
  rw [alone] at joined ⊢
  omega

theorem relativePath_own (brief : store.ownLength key ≤ Key.pathLimit) :
    Key.relativePath store.root.text key = Key.escape key := if_pos brief

theorem relativePath_hashed (long : Key.pathLimit < store.ownLength key) :
    Key.relativePath store.root.text key = Key.hashedName key := if_neg (Nat.not_le.mpr long)

theorem Spread.length_pathOf (spread : Spread key folders leaf)
    (brief : store.ownLength key ≤ Key.pathLimit) :
    (store.pathOf key).text.length = store.ownLength key := by
  rw [pathOf, relativePath_own brief, Route.join_text spread.filed.below, ownLength]

/-- Above the last name stands what comes before its slash. -/
theorem Spread.length_parent (spread : Spread key folders leaf)
    (brief : store.ownLength key ≤ Key.pathLimit) (several : folders ≠ []) :
    (store.pathOf key).parent.text.length + 1 + leaf.length = store.ownLength key ∧
      (store.pathOf key).parent.names ≠ [] := by
  obtain ⟨upper, folder, split⟩ := (List.eq_nil_or_concat folders).resolve_left several
  rw [List.concat_eq_append] at split
  have text : (store.pathOf key).text = Key.join store.root.text (Key.escape key) := by
    rw [pathOf, relativePath_own brief, Route.join_text spread.filed.below]
  obtain ⟨front, joined⟩ := Route.names_join_text store.root.text (Key.escape key)
  have whole : names (store.pathOf key).text = front ++ upper ++ [folder] ++ [leaf] := by
    rw [text, joined, spread.split, split]
    simp
  obtain ⟨before, cut, -⟩ := exists_front whole (by simp)
  have parent := Route.text_parent cut whole (spread.leads leaf (by simp))
    (spread.leads folder (by simp [split]))
  constructor
  · rw [parent, ownLength, ← text, cut, List.length_append, List.length_cons]
    omega
  · have names : (store.pathOf key).names = store.root.names ++ (folders ++ [leaf]) := by
      rw [pathOf, relativePath_own brief, Route.names_join spread.filed.below, spread.filed.split]
    rw [Route.names_parent (by simp [names]), names, ← List.append_assoc, List.dropLast_concat]
    simp [several]

/-! ### Keys that are stored -/

theorem Admits.fits (admits : store.Admits key) (brief : store.root.text.length ≤ 1000)
    (sheltered : Key.Sheltered key) : Fits store key := by
  have bound : pathBound = 4096 := rfl
  have limit : Key.pathLimit = 4096 := rfl
  by_cases long : Key.pathLimit < store.ownLength key
  · have filed := Key.filed_hashedName key
    have short := filed.short (Key.hashedName key) (by simp)
    have whole : (store.pathOf key).text.length ≤ store.root.text.length + (1 + nameBound) := by
      rw [pathOf, relativePath_hashed long, Route.join_text filed.below]
      exact Nat.le_trans (length_join_le _ _) (by omega)
    have above := Route.length_parent_le (store.pathOf key)
    rw [nameBound] at whole
    refine ⟨by omega, by omega, ?_⟩
    obtain ⟨before, ends⟩ := filed.ends
    rw [relativePath_hashed long]
    have single : names (Key.hashedName key) = [Key.hashedName key] := by
      have member : Key.hashedName key ∈ names (Key.hashedName key) := by simp [ends]
      exact names_of_no_slash (not_slash_of_mem_names member)
    rw [single]
    intro name member
    rw [List.mem_singleton.mp member]
    exact not_temporary_of_head (by decide : some (33 : UInt8) ≠ some Key.dot)
  · obtain ⟨brief_own, room⟩ := admits.resolve_left long
    obtain ⟨folders, leaf, spread⟩ := spread_of_sheltered sheltered
    have within : store.ownLength key ≤ Key.pathLimit := Nat.not_lt.mp long
    have length := spread.length_pathOf within
    rw [spread.leafLength_eq] at room
    refine ⟨by omega, ?_, ?_⟩
    · by_cases several : folders = []
      · rw [several] at spread
        have low := spread.ownLength_le store
        have above := Route.length_parent_le (store.pathOf key)
        omega
      · have parts := (spread.length_parent within several).1
        omega
    · rw [relativePath_own within, spread.split]
      exact fun name member => not_temporary_of_head (spread.undotted name member)

/-! ### Keys that are refused -/

theorem short_of_stored (working : store.closed = false)
    (stores : (store.put tree key content now present).store = store) :
    (store.pathOf key).text.length < pathBound ∧ ∃ attempt,
      ((store.pathOf key).parent.join (temporaryName attempt)).text.length < pathBound := by
  rcases writes : writeFile tree (store.pathOf key) content present with ⟨written, cause⟩
  cases cause with
  | none => exact writeFile_short writes
  | some fault =>
      rw [put, working] at stores
      simp only [Bool.false_eq_true, if_false, writes] at stores
      exact absurd (congrArg writeErrors stores) (Nat.succ_ne_self _)

theorem admits_of_stored (working : store.closed = false) (brief : store.root.text.length ≤ 1000)
    (sheltered : Key.Sheltered key)
    (stores : (store.put tree key content now present).store = store) : store.Admits key := by
  have bound : pathBound = 4096 := rfl
  have limit : Key.pathLimit = 4096 := rfl
  obtain ⟨whole, attempt, beside⟩ := short_of_stored working stores
  by_cases long : Key.pathLimit < store.ownLength key
  · exact .inl long
  · right
    obtain ⟨folders, leaf, spread⟩ := spread_of_sheltered sheltered
    have within : store.ownLength key ≤ Key.pathLimit := Nat.not_lt.mp long
    rw [spread.length_pathOf within] at whole
    rw [spread.leafLength_eq]
    refine ⟨whole, ?_⟩
    by_cases several : folders = []
    · rw [several] at spread
      have low := spread.ownLength_le store
      omega
    · obtain ⟨parts, filled⟩ := spread.length_parent within several
      obtain ⟨length, relative⟩ := temporaryName_form attempt
      rw [Route.length_join_parent filled relative, length] at beside
      omega

/-- Nothing is found of a key that was refused by a store with an empty root. -/
theorem Refused.notFound {written : Written} (refused : Refused store tree key written)
    (missing : tree.find? (store.placeOf key) = none) (present : FileTime) :
    (written.store.get written.tree key present).2.1 = .notFound := by
  rcases get_cases written.store written.tree key present with ⟨value, finds⟩ | misses
  · obtain ⟨-, accessed, modified, there⟩ := arrive_of_found finds
    obtain ⟨-, -, -, known⟩ := of_arrive there
    rw [refused.counted] at known
    have held := refused.contents (store.placeOf key)
    rw [FileTree.content?, FileTree.content?, missing, show written.tree.find? (store.placeOf key) = _
      from known] at held
    cases held
  · exact misses

theorem Fresh.missing (fresh : Fresh store tree) (sheltered : Key.Sheltered key)
    (brief : store.ownLength key ≤ Key.pathLimit) : tree.find? (store.placeOf key) = none := by
  obtain ⟨place, tidy, empty⟩ := fresh.tidy
  obtain ⟨folders, leaf, spread⟩ := spread_of_sheltered sheltered
  have names : (store.pathOf key).names = store.root.names ++ (folders ++ [leaf]) := by
    rw [pathOf, relativePath_own brief, Route.names_join spread.filed.below, spread.filed.split]
  have origin : (store.pathOf key).origin = store.root.origin := by
    rw [pathOf, relativePath_own brief, Route.origin_join spread.filed.below]
  have forward : Name.up ∉ folders ++ [leaf] := fun member => spread.undotted _ member rfl
  have spot : store.placeOf key = place ++ folders ++ [leaf] := by
    rw [placeOf, names, origin, follow_append, ← (of_descend tidy.reached).1,
      follow_of_no_up forward, List.append_assoc]
  rw [spot]
  exact empty _ (isAbove_append_concat place folders leaf)

theorem Fresh.refused (fresh : Fresh store tree) (brief : store.root.text.length ≤ 1000)
    (sheltered : Key.Sheltered key) (refuses : ¬store.Admits key) (content : Bytes) (now : Millis)
    (present : FileTime) :
    let written := store.put tree key content now present
    Refused store tree key written ∧
      ∀ later, (written.store.get written.tree key later).2.1 = .notFound := by
  intro written
  have within : store.ownLength key ≤ Key.pathLimit := Nat.not_lt.mp fun long => refuses (.inl long)
  obtain ⟨made, paved, ⟨uncounted, -, -⟩ | ⟨counted, same⟩⟩ :=
    put_paves fresh.working tree key content now present
  · exact absurd (admits_of_stored fresh.working brief sheltered uncounted) refuses
  · have refused : Refused store tree key written :=
      .of_paved fresh.working counted fun path => by
        rw [same]
        exact paved path
    exact ⟨refused, refused.notFound (fresh.missing sheltered within)⟩

/-- In a fresh store a value is found again exactly if the system admits the paths that its write needs, the
temporary one included; else the write is counted as an error and nothing is found. -/
theorem lookup_after_put (fresh : Fresh store tree) (brief : store.root.text.length ≤ 1000)
    (sheltered : Key.Sheltered key) (content : Bytes) (now : Millis) (present later : FileTime) :
    let written := store.put tree key content now present
    let lookup := (written.store.get written.tree key later).2.1
    (store.Admits key → written.store = store ∧ lookup = .found content) ∧
      (¬store.Admits key → written.store = { store with writeErrors := store.writeErrors + 1 } ∧
        lookup = .notFound) := by
  intro written lookup
  constructor
  · intro admits
    obtain ⟨place, tidy, -⟩ := fresh.tidy
    have fits := admits.fits brief sheltered
    obtain ⟨kept, tidied, changed, opened⟩ := put_holds tidy fresh.working fits content now present
    have holds : Holds store written.tree key (some content) :=
      ⟨(changed.content _).trans (if_pos rfl), fun _ => opened⟩
    have finds := (get_holds tidied fresh.working fits holds later).1
    refine ⟨kept, ?_⟩
    change (written.store.get written.tree key later).2.1 = _
    rw [show written.store = store from kept]
    exact finds
  · intro refuses
    obtain ⟨refused, misses⟩ := fresh.refused brief sheltered refuses content now present
    exact ⟨refused.counted, misses later⟩

private def storage : DiskStore where
  name := "disk"
  root := ⟨Text.bytes "/proxycache-file-storage", []⟩
  settings := { targetSize := 1000, targetInodes := none }
  nextClean := 0

private def emptied : FileTree :=
  { entries := [([Text.bytes "proxycache-file-storage"], .directory 0)] }

private theorem fresh_emptied : Fresh storage emptied := fresh_of_single rfl (by decide +kernel)

theorem lookup_after_put_of_short :
    let written := storage.put emptied "foo/.bar" [1] 0 0
    Fresh storage emptied ∧ storage.root.text.length ≤ 1000 ∧ Key.Sheltered "foo/.bar" ∧
      storage.Admits "foo/.bar" ∧ written.store = storage ∧
      (written.store.get written.tree "foo/.bar" 0).2.1 = .found [1] := by
  have brief : storage.root.text.length ≤ 1000 := by decide +kernel
  have sheltered : Key.Sheltered "foo/.bar" := (Key.sheltered_iff _).mpr (by decide +kernel)
  have admits : storage.Admits "foo/.bar" := by decide +kernel
  exact ⟨fresh_emptied, brief, sheltered, admits,
    (lookup_after_put fresh_emptied brief sheltered [1] 0 0 0).1 admits⟩

/-! ### Keys of one letter -/

/-- Each further name of a long segment costs three octets. -/
theorem length_escapeFrom_replicate {octet : UInt8} (plain : ∀ first, Key.octetForm first octet = [octet])
    (first : Bool) {written : Nat} (room : written ≤ Key.segmentLimit) (count : Nat) :
    (Key.escapeFrom first written (List.replicate count octet)).length =
      count + 3 * ((written + count - 1) / Key.segmentLimit) := by
  have limit : Key.segmentLimit = 128 := rfl
  rw [limit] at room ⊢
  induction count generalizing first written with
  | zero =>
      rw [List.replicate_zero, Key.escapeFrom, List.length_nil]
      omega
  | succ count ih =>
      rw [List.replicate_succ, Key.escapeFrom, plain, List.length_singleton, limit]
      split
      · have rest := ih false (show 1 ≤ 128 by omega)
        rw [List.length_append, List.length_append, rest, List.length_singleton,
          show Key.continuation.length = 3 from rfl]
        omega
      · have rest := ih false (show written + 1 ≤ 128 by omega)
        rw [List.length_append, rest, List.length_singleton]
        omega

private def row (count : Nat) : String := String.ofList (List.replicate count 'x')

private theorem segments_row (count : Nat) :
    FilePath.names (Text.bytes (row count)) = [List.replicate count 120] := by
  have octets : Text.bytes (row count) = List.replicate count 120 := by
    rw [row, Text.bytes_ofList]
    induction count with
    | zero => rfl
    | succ count ih => rw [List.replicate_succ, List.flatMap_cons, ih]; rfl
  rw [octets, names_of_no_slash]
  intro member
  exact absurd (List.eq_of_mem_replicate member) (by decide)

private theorem sheltered_row (count : Nat) : Key.Sheltered (row count) := by
  intro segment member front back split
  rw [segments_row, List.mem_singleton] at member
  have dotted : Key.dot ∈ List.replicate count (120 : UInt8) := by simp [← member, split]
  exact absurd (List.eq_of_mem_replicate dotted) (by decide)

private theorem length_escape_row {count : Nat} (filled : 0 < count) :
    (Key.escape (row count)).length = count + 3 * ((count - 1) / 128) + 1 := by
  have written : (Key.escapeSegment (List.replicate count 120)).length =
      count + 3 * ((0 + count - 1) / Key.segmentLimit) := by
    rw [Key.escapeSegment, if_neg (by simp; omega)]
    exact length_escapeFrom_replicate (by decide) true (Nat.zero_le _) count
  rw [Key.escape, Key.escapeBytes, segments_row, List.map_singleton, List.intercalate_singleton,
    List.length_append, written, Nat.zero_add]
  rfl

/-- The path of this key is as long as a key's own path may be, and too long by the octet that ends it. -/
theorem put_refused_of_row :
    let written := storage.put emptied (row 3977) [1] 0 0
    Fresh storage emptied ∧ storage.root.text.length ≤ 1000 ∧ Key.Sheltered (row 3977) ∧
      storage.ownLength (row 3977) = Key.pathLimit ∧ written.store.writeErrors = 1 ∧
      (written.store.get written.tree (row 3977) 0).2.1 = .notFound := by
  have brief : storage.root.text.length = 24 := by decide +kernel
  have unslashed : ¬(storage.root.text.isEmpty ∨ storage.root.text.getLast? = some FilePath.slash) := by
    decide +kernel
  have length : storage.ownLength (row 3977) = 4096 := by
    rw [ownLength, Key.join, if_neg unslashed, List.length_append, List.length_cons,
      length_escape_row (by decide), brief]
  have refuses : ¬storage.Admits (row 3977) := by
    rw [Admits, length]
    rintro (long | ⟨short, -⟩)
    · exact absurd long (by decide)
    · exact absurd short (by decide)
  obtain ⟨refused, misses⟩ := fresh_emptied.refused (by omega) (sheltered_row 3977) refuses [1] 0 0
  refine ⟨fresh_emptied, by omega, sheltered_row 3977, length, ?_, misses 0⟩
  rw [refused.counted]
  rfl

end DiskStore

end TieredCache
