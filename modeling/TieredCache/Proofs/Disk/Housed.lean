import TieredCache.Proofs.Disk.Keyed
import TieredCache.Proofs.Disk.Sound
import TieredCache.Proofs.Disk.Targets

/-!
A store in a tree as an operating system keeps it. The root leads to a directory, and that of every key
to a file below it. Main statements: whatever its key, an operation leaves the root where it is and
changes no file but the one of its key; and a file that is found has just been used.
-/

namespace TieredCache

namespace FileTree
open FilePath

variable {tree next : FileTree} {place path : FilePath} {entry : Entry} {after : Option Entry}

/-! ### Changes that keep a tree regular -/

theorem Regular.listed (regular : tree.Regular) : tree.Listed := ⟨regular.unique, regular.below⟩

theorem Regular.of_find? (regular : tree.Regular) (found : tree.find? path = some entry) :
    ∀ name ∈ path, Proper name := by
  by_cases top : path = []
  · rw [top]
    exact fun name member => absurd member List.not_mem_nil
  · exact regular.proper path (mem_keys (mem_of_find? top found))

theorem Regular.proper_concat (regular : tree.Regular) {name : Name}
    (directory : tree.isDirectory path = true) (proper : Proper name) :
    ∀ other ∈ path ++ [name], Proper other := by
  obtain ⟨modified, found⟩ := isDirectory_iff.mp directory
  intro other member
  rcases List.mem_append.mp member with early | late
  · exact regular.of_find? found other early
  · rw [List.mem_singleton.mp late]
    exact proper

theorem Listed.regular (listed : tree.Listed) (rooted : tree.Rooted)
    (proper : ∀ path entry, tree.find? path = some entry → ∀ name ∈ path, Proper name) :
    tree.Regular := by
  refine ⟨listed.unique, listed.below, rooted, fun path member => ?_⟩
  obtain ⟨⟨other, entry⟩, inside, rfl⟩ := List.mem_map.mp member
  have filled : other ≠ [] := fun top => listed.below (top ▸ member)
  exact proper other entry (find?_of_mem listed.unique inside filled)

theorem Regular.replaced (regular : tree.Regular) (replaced : Replaced tree next place after)
    (listed : next.Listed) (inside : after ≠ none → tree.isDirectory place.dropLast = true ∧
      ∀ name ∈ place, Proper name) : next.Regular := by
  apply listed.regular
  · intro path entry found
    rw [replaced.isDirectory]
    rw [replaced.find?_eq] at found
    split at found
    · rename_i same
      rw [same]
      exact (inside (by simp [found])).1
    · exact regular.rooted path entry found
  · intro path entry found
    rw [replaced.find?_eq] at found
    split at found
    · rename_i same
      rw [same]
      exact (inside (by simp [found])).2
    · exact regular.of_find? found

theorem Regular.insert_directory (regular : tree.Regular) (missing : tree.find? path = none)
    (above : tree.isDirectory path.dropLast = true) (proper : ∀ name ∈ path, Proper name) :
    (tree.insert path (.directory 0)).Regular := by
  have filled : path ≠ [] := by
    rintro rfl
    cases missing
  have grown := (Raised.of_insert missing).isDirectory
  apply (regular.listed.insert filled _).regular
  · intro other entry found
    apply grown
    by_cases same : other = path
    · rw [same]
      exact above
    · rw [find?_insert_of_ne tree _ same] at found
      exact regular.rooted other entry found
  · intro other entry found
    by_cases same : other = path
    · rw [same]
      exact proper
    · rw [find?_insert_of_ne tree _ same] at found
      exact regular.of_find? found

def accessed? (tree : FileTree) (path : FilePath) : Option FileTime :=
  match tree.find? path with
  | some (.file _ accessed _) => some accessed
  | _ => none

def Grown (tree made : FileTree) : Prop :=
  ∀ path, made.find? path = tree.find? path ∨ tree.find? path = none ∧ made.isDirectory path = true ∧
    ∃ front name, path = front ++ [name] ∧ Key.isFileName name = false

variable {made : FileTree}

theorem Grown.refl (tree : FileTree) : Grown tree tree := fun _ => .inl rfl

theorem Grown.insert (grown : Grown tree made) {front : FilePath} {name : Name}
    (missing : made.find? (front ++ [name]) = none) (folder : Key.isFileName name = false) :
    Grown tree (made.insert (front ++ [name]) (.directory 0)) := by
  intro path
  by_cases same : path = front ++ [name]
  · have shown := @find?_insert_self made (front ++ [name]) (.directory 0) (by simp)
    rw [same, isDirectory, shown]
    rcases grown (front ++ [name]) with equal | ⟨was, there, -⟩
    · rw [missing] at equal
      exact .inr ⟨equal.symm, rfl, front, name, rfl, folder⟩
    · exact .inr ⟨was, rfl, front, name, rfl, folder⟩
  · rw [isDirectory, find?_insert_of_ne made _ same]
    exact grown path

theorem Grown.find?_file (grown : Grown tree made) {front : FilePath} {name : Name}
    (file : Key.isFileName name = true) : made.find? (front ++ [name]) = tree.find? (front ++ [name]) := by
  rcases grown (front ++ [name]) with same | ⟨-, -, other, last, split, folder⟩
  · exact same
  · have lasts := List.append_inj_right' split rfl
    rw [(List.cons.inj lasts).1, folder] at file
    cases file

theorem Grown.accessed?_eq (grown : Grown tree made) (path : FilePath) :
    made.accessed? path = tree.accessed? path := by
  rcases grown path with same | ⟨missing, there, -⟩
  · rw [accessed?, accessed?, same]
  · obtain ⟨modified, found⟩ := isDirectory_iff.mp there
    rw [accessed?, accessed?, missing, found]

/-! ### Which files stay within reach -/

theorem InReach.grown (reach : tree.InReach place) (grown : Grown tree made) : made.InReach place := by
  intro path above file
  rcases grown path with same | ⟨-, directory, -⟩
  · rw [isFile, same] at file
    exact reach path above file
  · rw [isFile_eq_false_iff.mpr (.inr directory)] at file
    cases file

theorem InReach.replaced (reach : tree.InReach place) {path : FilePath} {after : Option Entry}
    (replaced : Replaced tree next path after)
    (brief : after ≠ none → (Route.between place path).text.length < pathBound) :
    next.InReach place := by
  intro other above file
  rw [isFile, replaced.find?_eq] at file
  split at file
  · rename_i same
    rw [same]
    apply brief
    rintro rfl
    cases file
  · exact reach other above file

theorem InReach.same (reach : tree.InReach place) (same : ∀ path, next.find? path = tree.find? path) :
    next.InReach place := by
  intro path above file
  rw [isFile, same] at file
  exact reach path above file

end FileTree

namespace DiskStore
open FilePath FileTree

variable {store : DiskStore} {root route : Route} {place : FilePath} {tree next : FileTree}
  {key : String}

/-! ### How long the ways to files are -/

theorem length_absolute_append (front back : FilePath) :
    (absolute (front ++ back)).length = front.absolute.length + back.absolute.length := by
  rw [absolute, List.flatMap_append, List.length_append]
  rfl

theorem length_absolute_follow_le (place : FilePath) (names : List Name) :
    (follow place names).absolute.length ≤ place.absolute.length + (absolute names).length := by
  induction names generalizing place with
  | nil => exact Nat.le_refl _
  | cons name rest ih =>
      have onward := ih (if name = Name.up then place.dropLast else place ++ [name])
      have next : (absolute (if name = Name.up then place.dropLast else place ++ [name])).length ≤
          place.absolute.length + (absolute [name]).length := by
        split
        · have shorter := length_absolute_le (List.dropLast_sublist place)
          exact Nat.le_trans shorter (Nat.le_add_right _ _)
        · exact Nat.le_of_eq (length_absolute_append place [name])
      have whole := length_absolute_append [name] rest
      rw [List.singleton_append] at whole
      rw [follow] at onward
      rw [follow, List.foldl_cons]
      omega

/-- A text that leads below a place is at least as long as the way there. -/
theorem length_between_follow_le {text : Bytes}
    (above : place.isAbove (follow place (leading text)) = true) :
    (Route.between place (follow place (leading text))).text.length ≤ text.length := by
  have part := length_absolute_le (List.filter_sublist (l := names text) (p := leads))
  have onward := length_absolute_follow_le place (leading text)
  obtain ⟨⟨way, whole⟩, longer⟩ := isAbove_iff.mp above
  rw [absolute_eq (names_ne_nil text), toBytes, intercalate_names, List.length_cons] at part
  rw [← whole] at onward longer ⊢
  have filled : way ≠ [] := by
    rintro rfl
    simp at longer
  rw [length_absolute_append, absolute_eq filled, List.length_cons] at onward
  rw [between_append]
  change (absolute (leading text)).length ≤ _ at part
  change (toBytes way).length ≤ _
  omega

/-! ### The root -/

/-- A tree in which a root leads to a directory, whatever becomes of what is below that. -/
structure Anchored (root : Route) (place : FilePath) (tree : FileTree) : Prop where
  regular : tree.Regular
  reached : Cleaning.rootPlace tree root = .ok place
  apart : ∀ path ∈ entered root.origin root.names, place.isAbove path = false

/-- A tree in which a root leads to a directory, whatever becomes of what is below that, and in which
the way from there to every file below is short enough to be followed. -/
structure Housed (root : Route) (place : FilePath) (tree : FileTree) : Prop where
  regular : tree.Regular
  reached : Cleaning.rootPlace tree root = .ok place
  apart : ∀ path ∈ entered root.origin root.names, place.isAbove path = false
  reach : tree.InReach place

theorem Housed.anchored (housed : Housed root place tree) : Anchored root place tree :=
  ⟨housed.regular, housed.reached, housed.apart⟩

theorem Anchored.housed (anchored : Anchored root place tree) (reach : tree.InReach place) :
    Housed root place tree :=
  ⟨anchored.regular, anchored.reached, anchored.apart, reach⟩

theorem isAbove_self (place : FilePath) : place.isAbove place = false := by
  simp [isAbove]

theorem isAbove_append_concat (place front : FilePath) (name : Name) :
    place.isAbove (place ++ front ++ [name]) = true := by
  rw [isAbove_iff, List.append_assoc]
  exact ⟨List.prefix_append _ _, by simp⟩

theorem Anchored.descend (anchored : Anchored root place tree) :
    tree.descend root.origin root.names = .ok place ∧ tree.isDirectory place = true ∧
      (0 : UInt8) ∉ root.text := by
  obtain ⟨modified, arrived⟩ := rootPlace_eq_ok.mp anchored.reached
  exact descend_of_arrive arrived

/-- What changes below the root only leaves the root where it is. -/
theorem Anchored.change (anchored : Anchored root place tree) (regular : next.Regular)
    (kept : ∀ path, place.isAbove path = false → tree.isDirectory path = true →
      next.isDirectory path = true) : Anchored root place next where
  regular := regular
  reached := by
    rw [rootPlace_eq_ok]
    obtain ⟨modified, arrived⟩ := rootPlace_eq_ok.mp anchored.reached
    obtain ⟨located, locates, rfl, found⟩ := of_arrive arrived
    have onward : next.locate root = .ok located :=
      locate_mono (fun path member => kept path (anchored.apart path member)) locates
    obtain ⟨later, shown⟩ := isDirectory_iff.mp
      (kept located.place (isAbove_self _) (isDirectory_iff.mpr ⟨modified, found⟩))
    refine ⟨later, ?_⟩
    rw [arrive, onward]
    simp only [bind, Except.bind, shown]
  apart := anchored.apart

theorem proper_of_mem_leading {text : Bytes} {name : Name} (member : name ∈ leading text)
    (clean : (0 : UInt8) ∉ text) (forward : name ≠ Name.up) (short : name.length ≤ nameBound) :
    Proper name := by
  obtain ⟨own, led⟩ := List.mem_filter.mp member
  rw [leads, Bool.and_eq_true, decide_eq_true_eq] at led
  refine ⟨by simpa using led.1, led.2, forward, not_slash_of_mem_names own, ?_, short⟩
  exact fun inside => clean (Key.mem_of_mem_names own inside)

/-- Where a route leads that goes on from the root. -/
theorem Anchored.target (anchored : Anchored root place tree) {front : List Name} {last : Name}
    {located : Target} (origin : route.origin = root.origin)
    (names : route.names = root.names ++ (front ++ [last])) (forward : last ≠ Name.up)
    (locates : tree.locate route = .ok located) : located.place = follow place front ++ [last] ∧
      tree.isDirectory located.place.dropLast = true ∧ ∀ name ∈ located.place, Proper name := by
  obtain ⟨reached, there, -⟩ := anchored.descend
  obtain ⟨clean, ways⟩ := of_locate locates
  have split : route.names = (root.names ++ front) ++ [last] := by rw [names, List.append_assoc]
  obtain ⟨holder, arrives, short⟩ : ∃ holder, tree.descend route.origin (root.names ++ front) =
      .ok holder ∧ last.length ≤ nameBound := by
    rcases ways with whole | ⟨before, name, holder, parts, -, short, arrives, -⟩
    · have bounds := short_of_descend whole last (by simp [split])
      rw [split, descend_append] at whole
      cases arrives : tree.descend route.origin (root.names ++ front) with
      | error cause =>
          rw [arrives] at whole
          cases whole
      | ok holder => exact ⟨holder, rfl, bounds⟩
    · obtain ⟨rfl, same⟩ := List.append_inj' (split.symm.trans parts) rfl
      cases same
      exact ⟨holder, arrives, short⟩
  have inner : tree.descend place front = .ok holder := by
    rw [origin, descend_append, reached] at arrives
    exact arrives
  have directory := anchored.regular.rooted.descend there inner
  have forwards : located.place = follow place front ++ [last] := by
    rw [place_of_locate locates, split, follow_concat _ _ forward, ← (of_descend arrives).1,
      (of_descend inner).1]
  have proper : Proper last := proper_of_mem_leading (by simp [← Route.names_eq_leading, split]) clean
    forward short
  rw [(of_descend inner).1] at directory
  refine ⟨forwards, ?_, ?_⟩
  · rw [forwards, List.dropLast_concat]
    exact directory
  · rw [forwards]
    exact anchored.regular.proper_concat directory proper

/-! ### The directories of a key -/

theorem mem_entered_concat {start : FilePath} {front rest : List Name} {last : Name}
    (forward : last ≠ Name.up) :
    follow start front ++ [last] ∈ entered start (front ++ [last] ++ rest) := by
  rw [entered_append, entered_append, entered, if_neg forward]
  exact List.mem_append_left _ (List.mem_append_right _ List.mem_cons_self)

variable {folders : List Name} {leaf : Name} {made : FileTree}

/-- No directory on the way to the root is ever missing. -/
theorem Anchored.makes_below (anchored : Anchored root place tree) (origin : route.origin = root.origin)
    (part : route.names <+: root.names ++ folders) {path : FilePath}
    (locates : tree.locate route = .ok (.named path)) (missing : tree.find? path = none) :
    ∃ front last, route.names = root.names ++ (front ++ [last]) ∧ front ++ [last] <+: folders ∧
      last ≠ Name.up := by
  obtain ⟨before, last, holder, split, forward, arrives, rfl⟩ := of_locate_named locates
  have known {rest : List Name} (whole : root.names = route.names ++ rest) : False := by
    obtain ⟨reached, -, -⟩ := anchored.descend
    have inside : holder ++ [last] ∈ entered root.origin root.names := by
      rw [whole, split, (of_descend arrives).1, origin]
      exact mem_entered_concat forward
    have directory := (of_descend reached).2 _ inside
    rw [FileTree.isDirectory, missing] at directory
    cases directory
  rcases List.prefix_or_prefix_of_prefix part (List.prefix_append root.names folders) with
    ⟨rest, whole⟩ | ⟨further, whole⟩
  · exact absurd whole.symm known
  · rcases List.eq_nil_or_concat further with rfl | ⟨front, name, rfl⟩
    · rw [List.append_nil] at whole
      exact (@known [] (by rw [whole, List.append_nil])).elim
    · rw [List.concat_eq_append] at whole
      rw [← whole, List.prefix_append_right_inj] at part
      have lasts := split
      rw [← whole, ← List.append_assoc] at lasts
      obtain ⟨-, same⟩ := List.append_inj' lasts rfl
      cases same
      exact ⟨front, last, whole.symm, part, forward⟩

/-- The directories that are made for a file are all below the root. -/
theorem Anchored.raise (anchored : Anchored root place tree)
    (origin : route.origin = root.origin) (names : route.names = root.names ++ folders)
    (grounded : Grounded folders) (folder : ∀ name ∈ folders, Key.isFileName name = false) :
    Anchored root place (tree.raise route).1 ∧ Grown tree (tree.raise route).1 := by
  rw [FileTree.raise, Route.ancestors]
  refine makeAll_induction (motive := fun made => Anchored root place made ∧ Grown tree made)
    ⟨anchored, .refl tree⟩ ?_
  rintro above member before after ⟨lodges, grown⟩ make
  obtain ⟨path, locates, missing, rfl⟩ := of_makeDirectory make
  obtain ⟨same, part⟩ := mem_above (Nat.le_refl _) member
  rw [origin] at same
  rw [names] at part
  obtain ⟨front, last, split, ⟨rest, own⟩, forward⟩ := lodges.makes_below same part locates missing
  obtain ⟨spot, inside, proper⟩ := lodges.target same split forward locates
  rw [Target.place] at spot inside proper
  have entering := @mem_entered_concat place front rest last forward
  rw [own] at entering
  obtain ⟨between, name, known, known_spot⟩ := (grounded place).2 _ entering
  rw [spot, known_spot] at missing inside proper ⊢
  constructor
  · apply lodges.change (lodges.regular.insert_directory missing inside proper)
    exact fun other _ => (Raised.of_insert missing).isDirectory other
  · exact grown.insert missing (folder name known)

/-! ### The file of a key -/

theorem names_pathOf (filed : Key.Filed (Key.relativePath store.root.text key) folders leaf) :
    (store.pathOf key).names = store.root.names ++ (folders ++ [leaf]) ∧
      (store.pathOf key).origin = store.root.origin := by
  constructor
  · rw [pathOf, Route.names_join filed.below, filed.split]
  · exact Route.origin_join filed.below

theorem Anchored.placeOf (anchored : Anchored store.root place tree)
    (filed : Key.Filed (Key.relativePath store.root.text key) folders leaf) :
    store.placeOf key = follow place folders ++ [leaf] := by
  obtain ⟨reached, -, -⟩ := anchored.descend
  obtain ⟨names, origin⟩ := names_pathOf filed
  rw [DiskStore.placeOf, names, origin, follow_append, ← (of_descend reached).1,
    follow_concat _ _ (Key.ne_up_of_isFileName filed.file)]

/-- The file of a key is below the root and none of the marker files. -/
theorem Anchored.stored (anchored : Anchored store.root place tree) (key : String) :
    place.isAbove (store.placeOf key) = true ∧
      Cleaning.isMarker place (store.placeOf key) = false := by
  obtain ⟨folders, leaf, filed⟩ := Key.filed_relativePath store.root.text key
  rw [anchored.placeOf filed]
  obtain ⟨further, forward⟩ := (filed.grounded place).1
  constructor
  · rw [forward]
    exact isAbove_append_concat place further leaf
  · have other {name : Name} (apart : leaf ≠ name) :
        follow place folders ++ [leaf] ≠ place ++ [name] := by
      intro same
      obtain ⟨-, lasts⟩ := List.append_inj' same rfl
      exact apart (List.cons.inj lasts).1
    obtain ⟨untimed, unlocked⟩ := filed.not_marker
    simp [Cleaning.isMarker, other untimed, other unlocked]

/-- Where the path of a key leads, there its file may stand. -/
theorem Anchored.locate (anchored : Anchored store.root place tree) {located : Target}
    (locates : tree.locate (store.pathOf key) = .ok located) :
    located.place = store.placeOf key ∧ tree.isDirectory (store.placeOf key).dropLast = true ∧
      (∀ name ∈ store.placeOf key, Proper name) ∧
      (Route.between place (store.placeOf key)).text.length < pathBound := by
  obtain ⟨folders, leaf, filed⟩ := Key.filed_relativePath store.root.text key
  obtain ⟨names, origin⟩ := names_pathOf filed
  obtain ⟨spot, inside, proper⟩ :=
    anchored.target origin names (Key.ne_up_of_isFileName filed.file) locates
  have same : located.place = store.placeOf key := by rw [spot, anchored.placeOf filed]
  rw [← same]
  refine ⟨rfl, inside, proper, ?_⟩
  have led : located.place = follow place (leading (Key.relativePath store.root.text key)) := by
    rw [spot, filed.split, follow_concat _ _ (Key.ne_up_of_isFileName filed.file)]
  have above := (anchored.stored key).1
  rw [← same, led] at above
  rw [led]
  exact Nat.lt_of_le_of_lt (Nat.le_trans (length_between_follow_le above)
    (Route.length_le_join filed.below)) (short_of_locate locates)

theorem Anchored.replaced (anchored : Anchored root place tree) {path : FilePath}
    {after : Option Entry} (replaced : Replaced tree next path after) (listed : next.Listed)
    (inside : after ≠ none → tree.isDirectory path.dropLast = true ∧ ∀ name ∈ path, Proper name) :
    Anchored root place next := by
  apply anchored.change (anchored.regular.replaced replaced listed inside)
  intro other _ directory
  rw [replaced.isDirectory]
  exact directory

theorem Anchored.same (anchored : Anchored root place tree)
    (same : ∀ path, next.find? path = tree.find? path) (listed : next.Listed) :
    Anchored root place next := by
  apply anchored.change
  · apply listed.regular
    · intro path entry found
      rw [same] at found
      rw [isDirectory, same]
      exact anchored.regular.rooted path entry found
    · intro path entry found
      rw [same] at found
      exact anchored.regular.of_find? found
  · intro path _ directory
    rw [isDirectory, same]
    exact directory

/-! ### Operations -/

/-- What a put does: the directories above the file of its key are made, and then the file is written,
or it is not and the fault is counted. -/
theorem Anchored.put (anchored : Anchored store.root place tree) (working : store.closed = false)
    (key : String) (content : Bytes) (now : Millis) (present : FileTime) :
    ∃ made, Anchored store.root place made ∧ Grown tree made ∧
      Anchored store.root place (store.put tree key content now present).tree ∧
      ((store.put tree key content now present).store = store ∧
          (Route.between place (store.placeOf key)).text.length < pathBound ∧
          Replaced made (store.put tree key content now present).tree (store.placeOf key)
            (some (.file content present 0)) ∨
        (store.put tree key content now present).store =
            { store with writeErrors := store.writeErrors + 1 } ∧
          ∀ path, (store.put tree key content now present).tree.find? path = made.find? path) := by
  obtain ⟨folders, leaf, filed⟩ := Key.filed_relativePath store.root.text key
  obtain ⟨names, origin⟩ := names_pathOf filed
  rcases writes : writeFile tree (store.pathOf key) content present with ⟨written, cause⟩
  obtain ⟨listed, outcome⟩ := writeFile_cases writes
  have filled : (store.pathOf key).names ≠ [] := by simp [names]
  have directories : (store.pathOf key).parent.names = store.root.names ++ folders := by
    rw [Route.names_parent filled, names, ← List.append_assoc, List.dropLast_concat]
  obtain ⟨lodges, grown⟩ := anchored.raise ((Route.origin_parent _).trans origin) directories
    filed.grounded filed.folder
  have firm := listed lodges.regular.listed
  refine ⟨_, lodges, grown, ?_⟩
  rcases outcome with ⟨failed, same⟩ | ⟨rfl, located, locates, replaced⟩
  · obtain ⟨fault, rfl⟩ := Option.ne_none_iff_exists'.mp failed
    rw [DiskStore.put, working]
    simp only [Bool.false_eq_true, if_false, writes]
    exact ⟨lodges.same same firm, .inr ⟨trivial, same⟩⟩
  · obtain ⟨spot, inside, proper, brief⟩ := lodges.locate locates
    rw [spot] at replaced
    rw [DiskStore.put, working]
    simp only [Bool.false_eq_true, if_false, writes]
    exact ⟨lodges.replaced replaced firm fun _ => ⟨inside, proper⟩, .inl ⟨trivial, brief, replaced⟩⟩

/-- What a get does: it finds the file of its key and notes the use, or it leaves the tree alone. -/
theorem Anchored.get (anchored : Anchored store.root place tree) (working : store.closed = false)
    (key : String) (present : FileTime) : Anchored store.root place (store.get tree key present).1 ∧
      ((store.get tree key present).1 = tree ∧ (store.get tree key present).2.1 = .notFound ∨
        ∃ content accessed modified, (store.get tree key present).2.1 = .found content ∧
          tree.arrive (store.pathOf key) =
            .ok (store.placeOf key, .file content accessed modified) ∧
          (Route.between place (store.placeOf key)).text.length < pathBound ∧
          Replaced tree (store.get tree key present).1 (store.placeOf key)
            (some (.file content present modified))) := by
  cases reads : tree.read (store.pathOf key) with
  | error cause =>
      rw [DiskStore.get, working]
      simp only [Bool.false_eq_true, if_false, reads]
      exact ⟨anchored, .inl ⟨trivial, trivial⟩⟩
  | ok content =>
      obtain ⟨path, accessed, modified, there⟩ := of_read reads
      obtain ⟨located, locates, rfl, found⟩ := of_arrive there
      obtain ⟨spot, inside, proper, brief⟩ := anchored.locate locates
      rw [spot] at there found
      have below : store.placeOf key ≠ [] := by
        intro top
        rw [top] at found
        cases found
      have replaced : Replaced tree _ (store.placeOf key) (some (.file content present modified)) :=
        replaced_insert below (isDirectory_of_find?_file found)
      rw [DiskStore.get, working]
      simp only [Bool.false_eq_true, if_false, reads, touch_of_arrive there]
      refine ⟨?_, .inr ⟨content, accessed, modified, rfl, there, brief, replaced⟩⟩
      exact anchored.replaced replaced (anchored.regular.listed.insert below _) fun _ =>
        ⟨inside, proper⟩

theorem Anchored.delete (anchored : Anchored store.root place tree) (key : String) :
    Anchored store.root place (store.delete tree key).1 ∧
      ((store.delete tree key).1 = tree ∨
        Replaced tree (store.delete tree key).1 (store.placeOf key) none) := by
  cases removes : tree.removeFile (store.pathOf key) with
  | error cause =>
      rw [DiskStore.delete, removes]
      cases cause <;> exact ⟨anchored, .inl rfl⟩
  | ok removed =>
      obtain ⟨path, content, accessed, modified, there, rfl⟩ := of_removeFile removes
      obtain ⟨located, locates, rfl, found⟩ := of_arrive there
      obtain ⟨spot, -, -, -⟩ := anchored.locate locates
      rw [spot] at found removes
      have below : store.placeOf key ≠ [] := by
        intro top
        rw [top] at found
        cases found
      have replaced := replaced_without below (isDirectory_of_find?_file found)
      rw [DiskStore.delete, removes]
      refine ⟨?_, .inr replaced⟩
      exact anchored.replaced replaced (anchored.regular.listed.without _) fun filled => absurd rfl filled

/-! ### Operations where every file is within reach -/

theorem Housed.put (housed : Housed store.root place tree) (working : store.closed = false)
    (key : String) (content : Bytes) (now : Millis) (present : FileTime) :
    ∃ made, Housed store.root place made ∧ Grown tree made ∧
      Housed store.root place (store.put tree key content now present).tree ∧
      ((store.put tree key content now present).store = store ∧
          Replaced made (store.put tree key content now present).tree (store.placeOf key)
            (some (.file content present 0)) ∨
        (store.put tree key content now present).store =
            { store with writeErrors := store.writeErrors + 1 } ∧
          ∀ path, (store.put tree key content now present).tree.find? path = made.find? path) := by
  obtain ⟨made, lodges, grown, settled, ⟨same, brief, replaced⟩ | ⟨same, shown⟩⟩ :=
    housed.anchored.put working key content now present
  · have reach := housed.reach.grown grown
    exact ⟨made, lodges.housed reach, grown,
      settled.housed (reach.replaced replaced fun _ => brief), .inl ⟨same, replaced⟩⟩
  · have reach := housed.reach.grown grown
    exact ⟨made, lodges.housed reach, grown, settled.housed (reach.same shown),
      .inr ⟨same, shown⟩⟩

theorem Housed.get (housed : Housed store.root place tree) (working : store.closed = false)
    (key : String) (present : FileTime) : Housed store.root place (store.get tree key present).1 ∧
      ((store.get tree key present).1 = tree ∧ (store.get tree key present).2.1 = .notFound ∨
        ∃ content accessed modified, (store.get tree key present).2.1 = .found content ∧
          tree.arrive (store.pathOf key) =
            .ok (store.placeOf key, .file content accessed modified) ∧
          Replaced tree (store.get tree key present).1 (store.placeOf key)
            (some (.file content present modified))) := by
  obtain ⟨settled, ⟨same, missed⟩ | ⟨content, accessed, modified, hit, there, brief, replaced⟩⟩ :=
    housed.anchored.get working key present
  · refine ⟨?_, .inl ⟨same, missed⟩⟩
    rw [same]
    exact housed
  · exact ⟨settled.housed (housed.reach.replaced replaced fun _ => brief),
      .inr ⟨content, accessed, modified, hit, there, replaced⟩⟩

theorem Housed.delete (housed : Housed store.root place tree) (key : String) :
    Housed store.root place (store.delete tree key).1 ∧
      ((store.delete tree key).1 = tree ∨
        Replaced tree (store.delete tree key).1 (store.placeOf key) none) := by
  obtain ⟨settled, same | replaced⟩ := housed.anchored.delete key
  · refine ⟨?_, .inl same⟩
    rw [same]
    exact housed
  · exact ⟨settled.housed (housed.reach.replaced replaced fun filled => absurd rfl filled),
      .inr replaced⟩

end DiskStore

end TieredCache
