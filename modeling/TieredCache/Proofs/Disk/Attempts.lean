import TieredCache.Disk.Change
import TieredCache.Proofs.Disk.Housed

/-!
What an attempt to write comes to, whatever stands in its way. Main statement: in every tree a put
either makes its content the file of its key or counts one write error; no other file changes, none is
left over, and what could be found before is found after it.
-/

namespace TieredCache

namespace FileTree
open FilePath

variable {tree made next : FileTree} {route : Route} {place path : FilePath} {entry : Entry}
  {content : Bytes}

/-! ### Directories on the way along a route -/

/-- A tree to which nothing was added but directories on the way along a route. -/
def Paved (tree made : FileTree) (route : Route) : Prop :=
  ∀ path, made.find? path = tree.find? path ∨
    tree.find? path = none ∧ path ∈ entered route.origin route.names ∧
      made.find? path = some (.directory 0)

theorem Paved.keeps (paved : Paved tree made route) (found : tree.find? path = some entry) :
    made.find? path = some entry := by
  rcases paved path with same | ⟨missing, -, -⟩
  · rw [same, found]
  · rw [found] at missing
    cases missing

theorem Paved.isDirectory (paved : Paved tree made route) (path : FilePath)
    (directory : tree.isDirectory path = true) : made.isDirectory path = true := by
  obtain ⟨modified, found⟩ := isDirectory_iff.mp directory
  exact isDirectory_iff.mpr ⟨modified, paved.keeps found⟩

theorem Paved.content? (paved : Paved tree made route) (path : FilePath) :
    made.content? path = tree.content? path := by
  rw [FileTree.content?, FileTree.content?]
  rcases paved path with same | ⟨missing, -, fresh⟩
  · rw [same]
  · rw [missing, fresh]

theorem Paved.insert (paved : Paved tree made route) (missing : made.find? place = none)
    (onWay : place ∈ entered route.origin route.names) :
    Paved tree (made.insert place (.directory 0)) route := by
  have below : place ≠ [] := by
    rintro rfl
    cases missing
  intro path
  by_cases here : path = place
  · rw [here, find?_insert_self made _ below]
    refine .inr ⟨?_, onWay, rfl⟩
    cases found : tree.find? place with
    | none => rfl
    | some entry =>
        rw [paved.keeps found] at missing
        cases missing
  · rw [find?_insert_of_ne made _ here]
    exact paved path

/-- Making directories adds nothing else, also where not all of them can be made. -/
theorem paved_raise (tree : FileTree) (holder : Route) (origin : holder.origin = route.origin)
    (part : holder.names <+: route.names) : Paved tree (tree.raise holder).1 route := by
  have first : Paved tree tree route := fun _ => .inl rfl
  refine makeAll_induction (motive := fun made => Paved tree made route) first
    fun above member middle made paved makes => ?_
  obtain ⟨place, locates, missing, rfl⟩ := of_makeDirectory makes
  obtain ⟨front, last, spot, names, forward, reached, rfl⟩ := of_locate_named locates
  obtain ⟨same, shorter⟩ := mem_above (Nat.le_refl _) member
  obtain ⟨rest, split⟩ := shorter.trans part
  refine paved.insert missing ?_
  rw [(of_descend reached).1, same, origin, ← split, names]
  exact DiskStore.mem_entered_concat forward

/-! ### Lookups in a tree that has grown -/

/-- What can be read can still be read where its file and all directories were kept. -/
theorem arrive_mono (grown : ∀ path, tree.isDirectory path = true → made.isDirectory path = true)
    (there : tree.arrive route = .ok (place, entry)) (kept : made.find? place = tree.find? place) :
    made.arrive route = .ok (place, entry) := by
  obtain ⟨target, locates, rfl, found⟩ := of_arrive there
  have onward := locate_mono (fun path _ => grown path) locates
  rw [arrive, locates] at there
  rw [arrive, onward]
  simp only [bind, Except.bind] at there ⊢
  rw [kept]
  exact there

theorem prefix_of_mem_entered {names : List Name} (forward : Name.up ∉ names)
    (member : path ∈ entered place names) : path <+: place ++ names := by
  induction names generalizing place with
  | nil => cases member
  | cons name rest ih =>
      have other : name ≠ Name.up := fun same => forward (same ▸ List.mem_cons_self)
      rw [entered, if_neg other] at member
      rw [← List.singleton_append, ← List.append_assoc]
      rcases List.mem_cons.mp member with rfl | later
      · exact List.prefix_append _ _
      · exact ih (fun up => forward (List.mem_cons_of_mem _ up)) later

/-- Where nothing leads upwards, a file that is reached in one tree is reached in every other one that
has it. -/
theorem arrive_of_rooted {accessed modified : FileTime} (rooted : tree.Rooted)
    (forward : Name.up ∉ route.names)
    (there : made.arrive route = .ok (place, .file content accessed modified))
    (kept : tree.find? place = made.find? place) :
    tree.arrive route = .ok (place, .file content accessed modified) := by
  obtain ⟨target, locates, rfl, found⟩ := of_arrive there
  have leads := place_of_locate locates
  rw [follow_of_no_up forward] at leads
  have known : tree.find? target.place = some _ := kept.trans found
  have onward : tree.locate route = .ok target := by
    refine locate_mono (fun path member directory => ?_) locates
    have part := prefix_of_mem_entered forward member
    rw [← leads] at part
    refine rooted.isDirectory_of_prefix known part ?_
    rintro rfl
    rw [isDirectory_of_find?_file found] at directory
    cases directory
  rw [arrive, locates] at there
  rw [arrive, onward]
  simp only [bind, Except.bind] at there ⊢
  rw [kept]
  exact there

end FileTree

namespace DiskStore
open FilePath FileTree

variable {store : DiskStore} {tree made : FileTree} {key other : String} {content value : Bytes}
  {now : Millis} {present : FileTime}

/-! ### What a lookup finds -/

theorem found_of_arrive {place : FilePath} {accessed modified : FileTime}
    (working : store.closed = false)
    (there : tree.arrive (store.pathOf key) = .ok (place, .file value accessed modified)) :
    (store.get tree key present).2.1 = .found value := by
  rw [get, working]
  simp only [Bool.false_eq_true, if_false, read_of_arrive there]

theorem arrive_of_found (finds : (store.get tree key present).2.1 = .found value) :
    store.closed = false ∧ ∃ accessed modified,
      tree.arrive (store.pathOf key) = .ok (store.placeOf key, .file value accessed modified) := by
  rw [get] at finds
  split at finds
  · cases finds
  · rename_i working
    refine ⟨eq_false_of_ne_true working, ?_⟩
    cases reads : tree.read (store.pathOf key) with
    | error cause =>
        simp only [reads] at finds
        cases finds
    | ok content =>
        simp only [reads] at finds
        cases finds
        obtain ⟨place, accessed, modified, there⟩ := of_read reads
        obtain ⟨target, locates, rfl, -⟩ := of_arrive there
        refine ⟨accessed, modified, ?_⟩
        rw [placeOf, ← place_of_locate locates]
        exact there

/-- A lookup answers with a value or as a miss. -/
theorem get_cases (store : DiskStore) (tree : FileTree) (key : String) (present : FileTime) :
    (∃ value, (store.get tree key present).2.1 = .found value) ∨
      (store.get tree key present).2.1 = .notFound := by
  rw [get]
  split
  · exact .inr rfl
  · cases reads : tree.read (store.pathOf key) with
    | error cause => exact .inr (by simp only [reads])
    | ok value => exact .inl ⟨value, by simp only [reads]⟩

theorem ending_pathOf (store : DiskStore) (key : String) : (store.pathOf key).ending = .plain := by
  obtain ⟨folders, leaf, filed⟩ := Key.filed_relativePath store.root.text key
  obtain ⟨before, ends⟩ := filed.ends
  obtain ⟨front, joined⟩ := Route.names_join_text store.root.text (Key.relativePath store.root.text key)
  have split : names (store.pathOf key).text = (front ++ before) ++ [leaf] := by
    rw [pathOf, Route.join_text filed.below, joined, ends, List.append_assoc]
  exact Route.ending_of_last split (Key.leads_of_isFileName filed.file)

/-! ### What a put comes to -/

/-- The file of the key has the content, and everything else is as it was, but for directories on the
way to it. -/
structure Stored (store : DiskStore) (tree : FileTree) (key : String) (content : Bytes)
    (written : Written) : Prop where
  uncounted : written.store = store
  entries : ∃ made, Paved tree made (store.pathOf key) ∧
    ∀ path, path ≠ store.placeOf key → written.tree.find? path = made.find? path
  contents : ∀ path, written.tree.content? path =
    if path = store.placeOf key then some content else tree.content? path
  found : ∀ present, (written.store.get written.tree key present).2.1 = .found content
  others : ∀ other value present, store.placeOf other ≠ store.placeOf key →
    (store.get tree other present).2.1 = .found value →
      (written.store.get written.tree other present).2.1 = .found value

/-- One more write error is counted, and everything is as it was, but for directories on the way to the
file of the key. -/
structure Refused (store : DiskStore) (tree : FileTree) (key : String) (written : Written) :
    Prop where
  counted : written.store = { store with writeErrors := store.writeErrors + 1 }
  entries : Paved tree written.tree (store.pathOf key)
  contents : ∀ path, written.tree.content? path = tree.content? path
  found : ∀ other value present, (store.get tree other present).2.1 = .found value →
    (written.store.get written.tree other present).2.1 = .found value
  lookups : ∀ other present, tree.Rooted → Name.up ∉ (store.pathOf other).names →
    (written.store.get written.tree other present).2.1 = (store.get tree other present).2.1

theorem Stored.of_replaced {written : Written} (working : store.closed = false)
    (uncounted : written.store = store) (paved : Paved tree made (store.pathOf key))
    (replaced : Replaced made written.tree (store.placeOf key) (some (.file content present 0)))
    (there : written.tree.arrive (store.pathOf key) =
      .ok (store.placeOf key, .file content present 0)) : Stored store tree key content written where
  uncounted := uncounted
  entries := ⟨made, paved, fun path apart => by rw [replaced.find?_eq, if_neg apart]⟩
  contents := by
    intro path
    rw [← paved.content? path, FileTree.content?, replaced.find?_eq]
    by_cases here : path = store.placeOf key
    · rw [if_pos here, if_pos here]
    · rw [if_neg here, if_neg here, FileTree.content?]
  found := by
    intro present
    rw [uncounted]
    exact found_of_arrive working there
  others := by
    intro other value present apart finds
    obtain ⟨-, accessed, modified, before⟩ := arrive_of_found finds
    obtain ⟨-, -, -, known⟩ := of_arrive before
    have grown : ∀ path, tree.isDirectory path = true → written.tree.isDirectory path = true :=
      fun path directory => (replaced.isDirectory path).trans (paved.isDirectory path directory)
    rw [uncounted]
    refine found_of_arrive working (arrive_mono grown before ?_)
    rw [replaced.find?_eq, if_neg apart, paved.keeps known, known]

theorem Refused.of_paved {written : Written} (working : store.closed = false)
    (counted : written.store = { store with writeErrors := store.writeErrors + 1 })
    (entries : Paved tree written.tree (store.pathOf key)) : Refused store tree key written := by
  have looks (other : String) (present : FileTime) :
      written.store.get written.tree other present = store.get written.tree other present := by
    rw [counted]
    rfl
  have found : ∀ other value present, (store.get tree other present).2.1 = .found value →
      (store.get written.tree other present).2.1 = .found value := by
    intro other value present finds
    obtain ⟨-, accessed, modified, before⟩ := arrive_of_found finds
    obtain ⟨-, -, -, known⟩ := of_arrive before
    exact found_of_arrive working
      (arrive_mono entries.isDirectory before ((entries.keeps known).trans known.symm))
  refine ⟨counted, entries, entries.content?, fun other value present finds => ?_,
    fun other present rooted forward => ?_⟩
  · rw [looks]
    exact found other value present finds
  · rw [looks]
    rcases get_cases store written.tree other present with ⟨value, finds⟩ | misses
    · -- What is found now was at its place before, and so was the way there.
      obtain ⟨-, accessed, modified, after⟩ := arrive_of_found finds
      obtain ⟨-, -, -, known⟩ := of_arrive after
      have kept : tree.find? (store.placeOf other) = written.tree.find? (store.placeOf other) := by
        rcases entries (store.placeOf other) with unchanged | ⟨-, -, fresh⟩
        · exact unchanged.symm
        · rw [fresh] at known
          cases known
      rw [finds]
      exact (found_of_arrive working (arrive_of_rooted rooted forward after kept)).symm
    · rcases get_cases store tree other present with ⟨value, finds⟩ | before
      · rw [found other value present finds] at misses
        cases misses
      · rw [misses, before]

/-- A write leaves directories on its way, and then the file or nothing. -/
theorem put_paves (working : store.closed = false) (tree : FileTree) (key : String) (content : Bytes)
    (now : Millis) (present : FileTime) :
    let written := store.put tree key content now present
    ∃ made, Paved tree made (store.pathOf key) ∧
      (written.store = store ∧
          Replaced made written.tree (store.placeOf key) (some (.file content present 0)) ∧
          written.tree.arrive (store.pathOf key) =
            .ok (store.placeOf key, .file content present 0) ∨
        written.store = { store with writeErrors := store.writeErrors + 1 } ∧
          ∀ path, written.tree.find? path = made.find? path) := by
  obtain ⟨folders, leaf, filed⟩ := Key.filed_relativePath store.root.text key
  have filled : (store.pathOf key).names ≠ [] := by simp [(names_pathOf filed).1]
  have paved : Paved tree (tree.raise (store.pathOf key).parent).1 (store.pathOf key) := by
    refine paved_raise tree _ (Route.origin_parent _) ?_
    rw [Route.names_parent filled]
    exact List.dropLast_prefix _
  rcases writes : writeFile tree (store.pathOf key) content present with ⟨written, cause⟩
  obtain ⟨-, outcome⟩ := writeFile_cases writes
  refine ⟨_, paved, ?_⟩
  rcases outcome with ⟨failed, same⟩ | ⟨rfl, located, locates, replaced⟩
  · obtain ⟨fault, rfl⟩ := Option.ne_none_iff_exists'.mp failed
    rw [put, working]
    simp only [Bool.false_eq_true, if_false, writes]
    exact .inr ⟨trivial, same⟩
  · have spot : located.place = store.placeOf key := place_of_locate locates
    rw [spot] at replaced
    have again : written.locate (store.pathOf key) = .ok located := replaced.locate locates
    have there : written.arrive (store.pathOf key) =
        .ok (store.placeOf key, .file content present 0) := by
      rw [arrive, again]
      simp only [bind, Except.bind]
      rw [spot, replaced.find?_eq, if_pos rfl]
      simp only [ending_pathOf, if_true]
    rw [put, working]
    simp only [Bool.false_eq_true, if_false, writes]
    exact .inl ⟨trivial, replaced, there⟩

/-- A store in use makes a write wholly or not at all; one that was shut down takes no writes. -/
theorem put_all_or_nothing (store : DiskStore) (tree : FileTree) (key : String) (content : Bytes)
    (now : Millis) (present : FileTime) :
    let written := store.put tree key content now present
    (store.closed = false → Stored store tree key content written ∨ Refused store tree key written) ∧
      (store.closed = true → written.store = store ∧ written.tree = tree) := by
  intro written
  constructor
  · intro working
    obtain ⟨made, paved, ⟨uncounted, replaced, there⟩ | ⟨counted, same⟩⟩ :=
      put_paves working tree key content now present
    · exact .inl (.of_replaced working uncounted paved replaced there)
    · exact .inr (.of_paved working counted fun path => by
        rw [same]
        exact paved path)
  · intro closed
    have ignored : written = ⟨store, tree, false, []⟩ := by
      change store.put tree key content now present = _
      rw [put, if_pos closed]
    rw [ignored]
    exact ⟨rfl, rfl⟩

private def cluttered : FileTree where
  entries :=
    [([Text.bytes "cache"], .directory 0), ([Text.bytes "cache", Text.bytes "k,"], .directory 0),
      ([Text.bytes "cache", Text.bytes "a"], .file [7] 0 0)]

private def pressed : DiskStore where
  name := "disk"
  root := ⟨Text.bytes "/cache", []⟩
  settings := { targetSize := 1000, targetInodes := none }
  nextClean := 0

theorem put_among_obstacles :
    Stored pressed cluttered "n" [1] (pressed.put cluttered "n" [1] 0 0) ∧
      Refused pressed cluttered "k" (pressed.put cluttered "k" [1] 0 0) ∧
      Refused pressed cluttered "a/b" (pressed.put cluttered "a/b" [1] 0 0) := by
  have errors : (pressed.put cluttered "n" [1] 0 0).store.writeErrors = 0 ∧
      (pressed.put cluttered "k" [1] 0 0).store.writeErrors = 1 ∧
      (pressed.put cluttered "a/b" [1] 0 0).store.writeErrors = 1 := by decide +kernel
  refine ⟨?_, ?_, ?_⟩
  · refine ((put_all_or_nothing pressed cluttered "n" [1] 0 0).1 rfl).resolve_right fun refused => ?_
    exact absurd (errors.1.symm.trans (congrArg writeErrors refused.counted)) (by decide)
  · refine ((put_all_or_nothing pressed cluttered "k" [1] 0 0).1 rfl).resolve_left fun stored => ?_
    exact absurd (errors.2.1.symm.trans (congrArg writeErrors stored.uncounted)) (by decide)
  · refine ((put_all_or_nothing pressed cluttered "a/b" [1] 0 0).1 rfl).resolve_left fun stored => ?_
    exact absurd (errors.2.2.symm.trans (congrArg writeErrors stored.uncounted)) (by decide)

end DiskStore

end TieredCache
