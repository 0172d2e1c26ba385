import Mathlib.Data.List.Induction
import TieredCache.Disk.FileTree
import TieredCache.Proofs.Disk.Routes

/-!
Following routes through a tree. Main statements: names lead to a place exactly if every place that
they enter is a directory, and where no file is in the way the missing directories of a route can be
made, which changes nothing else.
-/

namespace TieredCache

namespace FilePath

def follow (place : FilePath) (names : List Name) : FilePath :=
  names.foldl (fun place name => if name = Name.up then place.dropLast else place ++ [name]) place

/-- The places that names lead into on their way. -/
def entered : FilePath → List Name → List FilePath
  | _, [] => []
  | place, name :: rest =>
      if name = Name.up then entered place.dropLast rest
      else (place ++ [name]) :: entered (place ++ [name]) rest

theorem follow_append (place : FilePath) (front back : List Name) :
    follow place (front ++ back) = follow (follow place front) back :=
  List.foldl_append

theorem follow_concat (place : FilePath) (front : List Name) {name : Name}
    (forward : name ≠ Name.up) : follow place (front ++ [name]) = follow place front ++ [name] := by
  rw [follow_append]
  exact if_neg forward

theorem entered_append (place : FilePath) (front back : List Name) :
    entered place (front ++ back) = entered place front ++ entered (follow place front) back := by
  induction front generalizing place with
  | nil => rfl
  | cons name rest ih =>
      rw [List.cons_append, entered, entered]
      by_cases up : name = Name.up
      · rw [if_pos up, if_pos up, ih, follow, follow, List.foldl_cons, if_pos up]
      · rw [if_neg up, if_neg up, ih, follow, follow, List.foldl_cons, if_neg up]
        rfl

theorem follow_of_no_up {names : List Name} (forward : Name.up ∉ names) (place : FilePath) :
    follow place names = place ++ names := by
  induction names generalizing place with
  | nil => exact (List.append_nil place).symm
  | cons name rest ih =>
      have other : name ≠ Name.up := fun same => forward (same ▸ List.mem_cons_self)
      rw [follow, List.foldl_cons, if_neg other]
      exact (ih (fun member => forward (List.mem_cons_of_mem _ member)) _).trans
        (List.append_assoc _ _ _)

end FilePath

namespace FileTree
open FilePath

variable {tree made : FileTree} {place holder : FilePath} {names front : List Name}

def Short (names : List Name) : Prop := ∀ name ∈ names, name.length ≤ nameBound

def Rooted (tree : FileTree) : Prop :=
  ∀ path entry, tree.find? path = some entry → tree.isDirectory path.dropLast = true

theorem isDirectory_iff {path : FilePath} :
    tree.isDirectory path = true ↔ ∃ modified, tree.find? path = some (.directory modified) := by
  rw [isDirectory]
  cases tree.find? path with
  | none => simp
  | some entry => cases entry <;> simp [Entry.isDirectory]

theorem isFile_iff {path : FilePath} : tree.isFile path = true ↔
    ∃ content accessed modified, tree.find? path = some (.file content accessed modified) := by
  rw [isFile]
  cases tree.find? path with
  | none => simp
  | some entry => cases entry <;> simp [Entry.isFile, Entry.isDirectory]

theorem isFile_eq_false_iff {path : FilePath} :
    tree.isFile path = false ↔ tree.find? path = none ∨ tree.isDirectory path = true := by
  rw [isFile, isDirectory]
  cases tree.find? path with
  | none => simp
  | some entry => cases entry <;> simp [Entry.isFile, Entry.isDirectory]

theorem Rooted.dropLast (rooted : tree.Rooted) (directory : tree.isDirectory place = true) :
    tree.isDirectory place.dropLast = true := by
  obtain ⟨modified, found⟩ := isDirectory_iff.mp directory
  exact rooted place _ found

/-- Above an entry there are directories. -/
theorem Rooted.isDirectory_of_prefix {path : FilePath} {entry : Entry} (rooted : tree.Rooted)
    (found : tree.find? place = some entry) (part : path <+: place) (above : path ≠ place) :
    tree.isDirectory path = true := by
  obtain ⟨rest, rfl⟩ := part
  induction rest using List.reverseRecOn generalizing entry with
  | nil => exact absurd (List.append_nil path).symm above
  | append_singleton front name ih =>
      have directory := rooted _ _ found
      rw [← List.append_assoc, List.dropLast_concat] at directory
      by_cases last : front = []
      · rwa [last, List.append_nil] at directory
      · obtain ⟨modified, there⟩ := isDirectory_iff.mp directory
        exact ih there fun same => last (List.self_eq_append_right.mp same)

/-! ### Following names -/

theorem descend_append (tree : FileTree) (place : FilePath) (front back : List Name) :
    tree.descend place (front ++ back) =
      (tree.descend place front).bind fun holder => tree.descend holder back := by
  induction front generalizing place with
  | nil => rfl
  | cons name rest ih =>
      rw [List.cons_append, descend, descend]
      split
      · exact ih _
      · split
        · rfl
        · split
          · rfl
          · rfl
          · exact ih _

theorem descend_of_open (short : Short names)
    (opened : ∀ path ∈ entered place names, tree.isDirectory path = true) :
    tree.descend place names = .ok (follow place names) := by
  induction names generalizing place with
  | nil => rfl
  | cons name rest ih =>
      have shorter : Short rest := fun other member => short other (List.mem_cons_of_mem _ member)
      rw [entered] at opened
      rw [descend, follow, List.foldl_cons]
      by_cases up : name = Name.up
      · rw [if_pos up] at opened ⊢
        rw [if_pos up]
        exact ih shorter opened
      · rw [if_neg up] at opened ⊢
        rw [if_neg up, if_neg (Nat.not_lt.mpr (short name List.mem_cons_self))]
        obtain ⟨modified, found⟩ := isDirectory_iff.mp (opened _ List.mem_cons_self)
        rw [found]
        exact ih shorter fun path member => opened path (List.mem_cons_of_mem _ member)

theorem of_descend (reached : tree.descend place names = .ok holder) :
    holder = follow place names ∧ ∀ path ∈ entered place names, tree.isDirectory path = true := by
  induction names generalizing place with
  | nil =>
      cases reached
      exact ⟨rfl, by simp [entered]⟩
  | cons name rest ih =>
      rw [descend] at reached
      rw [entered, follow, List.foldl_cons]
      by_cases up : name = Name.up
      · rw [if_pos up] at reached ⊢
        rw [if_pos up]
        exact ih reached
      · rw [if_neg up] at reached ⊢
        rw [if_neg up]
        split at reached
        · cases reached
        · split at reached
          · cases reached
          · cases reached
          · rename_i modified found
            obtain ⟨same, opened⟩ := ih reached
            refine ⟨same, ?_⟩
            intro path member
            rcases List.mem_cons.mp member with rfl | later
            · exact isDirectory_iff.mpr ⟨modified, found⟩
            · exact opened path later

theorem short_of_descend {start : FilePath} {names : List Name}
    (reached : tree.descend start names = .ok place) : Short names := by
  induction names generalizing start with
  | nil => exact fun name member => absurd member List.not_mem_nil
  | cons name rest ih =>
      rw [descend] at reached
      have own : name.length ≤ nameBound ∧ Short rest := by
        split at reached
        · rename_i up
          exact ⟨by rw [up]; decide, ih reached⟩
        · split at reached
          · cases reached
          · rename_i short
            split at reached
            · cases reached
            · cases reached
            · exact ⟨Nat.not_lt.mp short, ih reached⟩
      intro other member
      rcases List.mem_cons.mp member with rfl | later
      · exact own.1
      · exact own.2 other later

/-- Where no file is in the way, only something missing stops a walk. -/
theorem descend_of_clear (short : Short names)
    (clear : ∀ path ∈ entered place names, tree.isFile path = false) :
    tree.descend place names = .ok (follow place names) ∨
      tree.descend place names = .error .notFound := by
  induction names generalizing place with
  | nil => exact .inl rfl
  | cons name rest ih =>
      have shorter : Short rest := fun other member => short other (List.mem_cons_of_mem _ member)
      rw [entered] at clear
      rw [descend, follow, List.foldl_cons]
      by_cases up : name = Name.up
      · rw [if_pos up] at clear ⊢
        rw [if_pos up]
        exact ih shorter clear
      · rw [if_neg up] at clear ⊢
        rw [if_neg up, if_neg (Nat.not_lt.mpr (short name List.mem_cons_self))]
        rcases isFile_eq_false_iff.mp (clear _ List.mem_cons_self) with missing | directory
        · rw [missing]
          exact .inr rfl
        · obtain ⟨modified, found⟩ := isDirectory_iff.mp directory
          rw [found]
          exact ih shorter fun path member => clear path (List.mem_cons_of_mem _ member)

theorem Rooted.descend (rooted : tree.Rooted) (directory : tree.isDirectory place = true)
    (reached : tree.descend place names = .ok holder) : tree.isDirectory holder = true := by
  induction names generalizing place with
  | nil =>
      cases reached
      exact directory
  | cons name rest ih =>
      rw [FileTree.descend] at reached
      split at reached
      · exact ih (rooted.dropLast directory) reached
      · split at reached
        · cases reached
        · split at reached
          · cases reached
          · cases reached
          · rename_i modified found
            exact ih (isDirectory_iff.mpr ⟨modified, found⟩) reached

/-! ### Routes -/

structure Usable (route : Route) : Prop where
  clean : (0 : UInt8) ∉ route.text
  brief : route.text.length < pathBound
  plain : route.ending = .plain

variable {route : Route} {last : Name}

theorem Usable.locate_named (usable : Usable route) (split : route.names = front ++ [last])
    (other : last ≠ Name.up) (short : last.length ≤ nameBound) :
    tree.locate route =
      (tree.descend route.origin front).map fun holder => .named (holder ++ [last]) := by
  have filled : route.text ≠ [] := Route.text_ne_nil_of_names (by simp [split])
  have ends : ¬(decide (last = Name.up) || decide (route.ending = .dot)) = true := by
    simp [other, usable.plain]
  rw [locate, if_neg (by simpa using usable.clean), if_neg (by simpa using filled),
    if_neg (Nat.not_le.mpr usable.brief), split, List.getLast?_concat]
  simp only [if_neg ends, List.dropLast_concat, if_neg (Nat.not_lt.mpr short)]
  cases tree.descend route.origin front <;> rfl

theorem Usable.locate_up (usable : Usable route) (split : route.names = front ++ [Name.up]) :
    tree.locate route = (tree.descend route.origin route.names).map .directory := by
  have filled : route.text ≠ [] := Route.text_ne_nil_of_names (by simp [split])
  rw [locate, if_neg (by simpa using usable.clean), if_neg (by simpa using filled),
    if_neg (Nat.not_le.mpr usable.brief)]
  simp only [split, List.getLast?_concat, decide_true, Bool.true_or, if_true]

theorem locate_of_long (clean : (0 : UInt8) ∉ route.text) (long : pathBound ≤ route.text.length) :
    tree.locate route = .error .nameTooLong := by
  have filled : route.text ≠ [] := by
    intro empty
    rw [empty] at long
    exact absurd long (by decide)
  rw [locate, if_neg (by simpa using clean), if_neg (by simpa using filled), if_pos long]

theorem short_of_locate {target : Target} (located : tree.locate route = .ok target) :
    route.text.length < pathBound := by
  unfold locate at located
  split at located
  · cases located
  · split at located
    · cases located
    · split at located
      · cases located
      · rename_i short
        exact Nat.lt_of_not_le short

/-- A route leads to a directory on its way's end, or to a name in one. -/
theorem of_locate {target : Target} (located : tree.locate route = .ok target) :
    (0 : UInt8) ∉ route.text ∧ (tree.descend route.origin route.names = .ok target.place ∨
      ∃ front last holder, route.names = front ++ [last] ∧ last ≠ Name.up ∧
        last.length ≤ nameBound ∧ tree.descend route.origin front = .ok holder ∧
        target.place = holder ++ [last]) := by
  rw [locate] at located
  split at located
  · cases located
  · rename_i clean
    refine ⟨by simpa using clean, ?_⟩
    split at located
    · cases located
    · split at located
      · cases located
      · split at located
        · rename_i empty
          cases located
          rw [List.getLast?_eq_none_iff.mp empty]
          exact .inl rfl
        · rename_i last ends
          obtain ⟨front, split⟩ := List.getLast?_eq_some_iff.mp ends
          split at located
          · cases reached : tree.descend route.origin route.names with
            | error cause =>
                rw [reached] at located
                cases located
            | ok holder =>
                rw [reached] at located
                cases located
                exact .inl rfl
          · rename_i named
            rw [split, List.dropLast_concat] at located
            cases reached : tree.descend route.origin front with
            | error cause =>
                rw [reached] at located
                cases located
            | ok holder =>
                rw [reached] at located
                simp only [bind, Except.bind] at located
                split at located
                · cases located
                · rename_i short
                  cases located
                  have forward : last ≠ Name.up := by
                    rintro rfl
                    simp at named
                  exact .inr ⟨front, last, holder, split, forward, Nat.not_lt.mp short, reached, rfl⟩

theorem of_arrive {entry : Entry} (there : tree.arrive route = .ok (place, entry)) :
    ∃ target, tree.locate route = .ok target ∧ target.place = place ∧
      tree.find? place = some entry := by
  rw [arrive] at there
  cases located : tree.locate route with
  | error cause =>
      rw [located] at there
      cases there
  | ok target =>
      rw [located] at there
      simp only [bind, Except.bind] at there
      refine ⟨target, rfl, ?_⟩
      cases shown : tree.find? target.place with
      | none => simp [shown] at there
      | some present =>
          rw [shown] at there
          cases present with
          | directory modified =>
              cases there
              exact ⟨rfl, shown⟩
          | file content accessed modified =>
              simp only at there
              split at there
              · cases there
                exact ⟨rfl, shown⟩
              · cases there

/-- A directory that a route leads to is there, and every name on the way is one. -/
theorem descend_of_arrive {modified : FileTime}
    (there : tree.arrive route = .ok (place, .directory modified)) :
    tree.descend route.origin route.names = .ok place ∧ tree.isDirectory place = true ∧
      (0 : UInt8) ∉ route.text := by
  obtain ⟨target, located, rfl, shown⟩ := of_arrive there
  have directory := isDirectory_iff.mpr ⟨modified, shown⟩
  obtain ⟨clean, reached | ⟨front, last, holder, split, forward, short, reached, same⟩⟩ :=
    of_locate located
  · exact ⟨reached, directory, clean⟩
  · refine ⟨?_, directory, clean⟩
    rw [same] at shown ⊢
    rw [split, descend_append, reached]
    change tree.descend holder [last] = _
    rw [descend, if_neg forward, if_neg (Nat.not_lt.mpr short), shown]
    rfl

/-! ### Making directories -/

/-- What a tree becomes when those places that are missing are made directories. -/
def Raised (tree made : FileTree) (places : List FilePath) : Prop :=
  ∀ path, made.find? path =
    if tree.find? path = none ∧ path ∈ places then some (.directory 0) else tree.find? path

variable {places more : List FilePath} {later : FileTree}

theorem Raised.of_directories (present : ∀ path ∈ places, tree.isDirectory path = true) :
    Raised tree tree places := by
  intro path
  refine (if_neg ?_).symm
  rintro ⟨missing, member⟩
  obtain ⟨modified, found⟩ := isDirectory_iff.mp (present path member)
  rw [found] at missing
  cases missing

theorem Raised.of_insert {path : FilePath} (missing : tree.find? path = none) :
    Raised tree (tree.insert path (.directory 0)) [path] := by
  have below : path ≠ [] := by
    rintro rfl
    cases missing
  intro other
  by_cases same : other = path
  · rw [same, find?_insert_self tree _ below, if_pos ⟨missing, List.mem_singleton_self _⟩]
  · rw [find?_insert_of_ne tree _ same, if_neg fun made => same (List.mem_singleton.mp made.2)]

theorem Raised.trans (raised : Raised tree made places) (further : Raised made later more) :
    Raised tree later (places ++ more) := by
  intro path
  rw [further path, raised path]
  by_cases missing : tree.find? path = none
  · by_cases first : path ∈ places
    · simp [missing, first]
    · simp [missing, first]
  · simp [missing]

theorem Raised.keeps (raised : Raised tree made places) {path : FilePath} {entry : Entry}
    (found : tree.find? path = some entry) : made.find? path = some entry := by
  rw [raised path, if_neg (by simp [found]), found]

theorem Raised.isDirectory (raised : Raised tree made places) (path : FilePath)
    (directory : tree.isDirectory path = true) : made.isDirectory path = true := by
  obtain ⟨modified, found⟩ := isDirectory_iff.mp directory
  exact isDirectory_iff.mpr ⟨modified, raised.keeps found⟩

theorem Raised.isFile_eq (raised : Raised tree made places) (path : FilePath) :
    made.isFile path = tree.isFile path := by
  rw [isFile, isFile, raised path]
  split
  · rename_i fresh
    rw [fresh.1]
    rfl
  · rfl

theorem descend_mono_of_entered
    (grown : ∀ path ∈ entered place names, tree.isDirectory path = true → made.isDirectory path = true)
    (reached : tree.descend place names = .ok holder) : made.descend place names = .ok holder := by
  obtain ⟨rfl, opened⟩ := of_descend reached
  apply descend_of_open (short_of_descend reached)
  intro path member
  exact grown path member (opened path member)

theorem descend_mono (grown : ∀ path, tree.isDirectory path = true → made.isDirectory path = true)
    (reached : tree.descend place names = .ok holder) : made.descend place names = .ok holder :=
  descend_mono_of_entered (fun path _ => grown path) reached

theorem taken_of_located {target : Target} (located : tree.locate route = .ok target)
    (directory : tree.isDirectory target.place = true) :
    tree.makeDirectory route = .error .alreadyExists ∧ tree.holdsDirectory route = true := by
  obtain ⟨modified, found⟩ := isDirectory_iff.mp directory
  refine ⟨?_, ?_⟩
  · cases target with
    | directory place => simp only [makeDirectory, located, bind, Except.bind]
    | named place =>
        rw [Target.place] at found
        simp only [makeDirectory, located, bind, Except.bind, found]
  · simp [holdsDirectory, entry, arrive, located, bind, Except.bind, found, Except.map,
      Entry.isDirectory]

def Makes (tree made : FileTree) (route : Route) : Prop :=
  tree.makeDirectory route = .ok made ∨
    tree.makeDirectory route = .error .alreadyExists ∧ tree.holdsDirectory route = true ∧
      made = tree

theorem Makes.all (makes : Makes tree made route) (above : List Route) :
    tree.makeAll (route :: above) = (made, none) := by
  rw [makeAll]
  rcases makes with ok | ⟨taken, holds, rfl⟩
  · rw [ok]
  · simp only [taken, holds, if_true]

theorem Makes.after {raised : FileTree} {above : List Route} (makes : Makes raised made route)
    (fails : tree.makeDirectory route = .error .notFound)
    (first : tree.makeAll above = (raised, none)) : tree.makeAll (route :: above) = (made, none) := by
  rw [makeAll, fails]
  simp only [first]
  rcases makes with ok | ⟨taken, holds, rfl⟩
  · rw [ok]
  · simp only [taken, holds, if_true]

/-- The name that a route ends in, in the directory that the names before it lead to. -/
theorem Usable.locate_last (usable : Usable route) (split : route.names = front ++ [last])
    (short : last.length ≤ nameBound) (reached : tree.descend route.origin front = .ok place) :
    ∃ target, tree.locate route = .ok target ∧ target.place = follow place [last] := by
  by_cases up : last = Name.up
  · subst up
    refine ⟨.directory place.dropLast, ?_, by simp [Target.place, follow]⟩
    rw [usable.locate_up split, split, descend_append, reached]
    change (tree.descend place [Name.up]).map Target.directory = _
    rw [descend, if_pos rfl]
    rfl
  · refine ⟨.named (place ++ [last]), ?_, by simp [Target.place, follow, up]⟩
    rw [usable.locate_named split up short, reached]
    rfl

theorem makeDirectory_of_missing (usable : Usable route) (split : route.names = front ++ [last])
    (short : last.length ≤ nameBound)
    (missing : tree.descend route.origin front = .error .notFound) :
    tree.makeDirectory route = .error .notFound := by
  have lost : tree.locate route = .error .notFound := by
    by_cases up : last = Name.up
    · subst up
      rw [usable.locate_up split, split, descend_append, missing]
      rfl
    · rw [usable.locate_named split up short, missing]
      rfl
  rw [makeDirectory, lost]
  rfl

/-- A directory on the way that is missing is made where it stands. -/
private theorem makeMissing (rooted : tree.Rooted) (usable : Usable route)
    (split : route.names = front ++ [last]) (up : last ≠ Name.up) (short : last.length ≤ nameBound)
    (reached : tree.descend route.origin front = .ok place)
    (directory : tree.isDirectory place = true) (missing : tree.find? (place ++ [last]) = none) :
    ∃ made, tree.makeDirectory route = .ok made ∧ Raised tree made [place ++ [last]] ∧
      made.Rooted ∧ made.descend route.origin route.names = .ok (place ++ [last]) := by
  have located : tree.locate route = .ok (.named (place ++ [last])) := by
    rw [usable.locate_named split up short, reached]
    rfl
  have raised := Raised.of_insert missing
  have grown := raised.isDirectory
  refine ⟨_, ?_, raised, ?_, ?_⟩
  · simp only [makeDirectory, located, bind, Except.bind, missing]
  · intro path entry found
    rw [raised path] at found
    split at found
    · rename_i fresh
      rw [List.mem_singleton.mp fresh.2, List.dropLast_concat]
      exact grown place directory
    · exact grown _ (rooted path entry found)
  · rw [split, descend_append, descend_mono grown reached]
    change FileTree.descend _ place [last] = _
    rw [descend, if_neg up, if_neg (Nat.not_lt.mpr short), find?_insert_self _ _ (by simp)]
    rfl

/-- The last directory of a route, where those above it are there. -/
private theorem makeLast (rooted : tree.Rooted) (usable : Usable route)
    (split : route.names = front ++ [last]) (short : last.length ≤ nameBound)
    (reached : tree.descend route.origin front = .ok place)
    (directory : tree.isDirectory place = true)
    (clear : ∀ path ∈ entered place [last], tree.isFile path = false) :
    ∃ made, Makes tree made route ∧ Raised tree made (entered place [last]) ∧ made.Rooted ∧
      made.descend route.origin route.names = .ok (follow place [last]) := by
  obtain ⟨target, located, same⟩ := usable.locate_last split short reached
  have shortly : Short [last] := fun name member => (List.mem_singleton.mp member) ▸ short
  have onward : tree.descend route.origin route.names = tree.descend place [last] := by
    rw [split, descend_append, reached]
    rfl
  have present (opened : ∀ path ∈ entered place [last], tree.isDirectory path = true) :
      ∃ made, Makes tree made route ∧ Raised tree made (entered place [last]) ∧ made.Rooted ∧
        made.descend route.origin route.names = .ok (follow place [last]) := by
    have arrives := descend_of_open shortly opened
    obtain ⟨taken, holds⟩ := taken_of_located located (same ▸ rooted.descend directory arrives)
    exact ⟨tree, .inr ⟨taken, holds, rfl⟩, Raised.of_directories opened, rooted,
      onward.trans arrives⟩
  by_cases up : last = Name.up
  · exact present (by simp [entered, up])
  · have into : entered place [last] = [place ++ [last]] := by
      rw [entered, if_neg up]
      rfl
    have forward : follow place [last] = place ++ [last] := by
      rw [follow, List.foldl_cons, if_neg up]
      rfl
    rw [into] at clear present ⊢
    rcases isFile_eq_false_iff.mp (clear _ (List.mem_singleton_self _)) with missing | there
    · obtain ⟨made, makes, raised, firm, arrives⟩ :=
        makeMissing rooted usable split up short reached directory missing
      exact ⟨made, .inl makes, raised, firm, forward ▸ arrives⟩
    · exact present (by simpa using there)

theorem Usable.parent (usable : Usable route) (filled : route.parent.names ≠ []) :
    Usable route.parent where
  clean := Route.not_mem_parent (by decide) usable.clean
  brief := Nat.lt_of_le_of_lt (Route.length_parent_le route) usable.brief
  plain := Route.ending_parent filled

theorem raise_of_present (usable : route.names ≠ [] → Usable route)
    (short : Short route.names) (reached : tree.descend route.origin route.names = .ok place)
    (directory : tree.isDirectory place = true) : tree.raise route = (tree, none) := by
  rw [raise, Route.ancestors]
  rcases List.eq_nil_or_concat route.names with empty | ⟨front, last, names⟩
  · rw [empty]
    rfl
  · have bounded : last.length ≤ nameBound := short last (by simp [names])
    have split := names.trans (List.concat_eq_append ..)
    rw [split, descend_append] at reached
    rw [names, List.length_concat, Route.ancestors.above]
    cases above : tree.descend route.origin front with
    | error cause =>
        rw [above] at reached
        cases reached
    | ok holder =>
        rw [above] at reached
        obtain ⟨target, located, same⟩ := (usable (by simp [names])).locate_last split bounded above
        rw [← (of_descend reached).1] at same
        obtain ⟨taken, holds⟩ := taken_of_located located (same ▸ directory)
        exact Makes.all (.inr ⟨taken, holds, rfl⟩) _

/-- Where no file is in the way below a directory, the missing directories of a route can be made. -/
theorem raise_raises {base extra : List Name} (rooted : tree.Rooted)
    (usable : route.names ≠ [] → Usable route) (split : route.names = base ++ extra)
    (short : Short route.names) (reached : tree.descend route.origin base = .ok place)
    (directory : tree.isDirectory place = true)
    (clear : ∀ path ∈ entered place extra, tree.isFile path = false) :
    ∃ made, tree.raise route = (made, none) ∧ Raised tree made (entered place extra) ∧
      made.Rooted ∧ made.descend route.origin route.names = .ok (follow place extra) := by
  induction extra using List.reverseRecOn generalizing route with
  | nil =>
      rw [List.append_nil] at split
      have here : tree.descend route.origin route.names = .ok place := by rw [split, reached]
      exact ⟨tree, raise_of_present usable short here directory,
        Raised.of_directories (by simp [entered]), rooted, here⟩
  | append_singleton front last ih =>
      rw [← List.append_assoc] at split
      have filled : route.names ≠ [] := by simp [split]
      have whole := usable filled
      have up : route.parent.names = base ++ front := by
        rw [Route.names_parent filled, split, List.dropLast_concat]
      have bounded : last.length ≤ nameBound := short last (by simp [split])
      have shorter : Short route.parent.names := by
        intro name member
        rw [up] at member
        exact short name (by rw [split]; exact List.mem_append_left _ member)
      rw [entered_append] at clear ⊢
      have above := fun path member => clear path (List.mem_append_left _ member)
      have top : tree.descend route.parent.origin base = .ok place := by
        rw [Route.origin_parent, reached]
      have lower : route.parent.names ≠ [] → Usable route.parent := whole.parent
      obtain ⟨raised, makes, grown, firm, arrives⟩ := ih lower up shorter top above
      rw [Route.origin_parent, up] at arrives
      have count : route.names.length = (base ++ front).length + 1 := by
        rw [split, List.length_append]
        rfl
      rw [raise, Route.ancestors, up] at makes
      have onward : follow place (front ++ [last]) = follow (follow place front) [last] :=
        follow_append _ _ _
      have partly : tree.descend route.origin (base ++ front) = tree.descend place front := by
        rw [descend_append, reached]
        rfl
      have shortFront : Short front := fun name member => shorter name (by simp [up, member])
      rw [raise, Route.ancestors, count, Route.ancestors.above, onward]
      rcases descend_of_clear shortFront above with arrived | missing
      · have present := rooted.descend directory arrived
        obtain ⟨made, last, extended, solid, reaches⟩ := makeLast rooted whole split bounded
          (partly.trans arrived) present fun path member => clear path (List.mem_append_right _ member)
        have opened := (of_descend arrived).2
        exact ⟨made, last.all _, (Raised.of_directories opened).trans extended, solid, reaches⟩
      · have below : raised.isDirectory (follow place front) = true := by
          have start := descend_mono grown.isDirectory reached
          have onwards := arrives
          rw [descend_append, start] at onwards
          exact firm.descend (grown.isDirectory _ directory) onwards
        obtain ⟨made, last, extended, solid, reaches⟩ := makeLast firm whole split bounded arrives
          below fun path member => by
            rw [grown.isFile_eq]
            exact clear path (List.mem_append_right _ member)
        have fails := makeDirectory_of_missing whole split bounded (partly.trans missing)
        exact ⟨made, last.after fails makes, grown.trans extended, solid, reaches⟩

end FileTree

end TieredCache
