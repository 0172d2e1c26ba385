import TieredCache.Proofs.Disk.Files

/-!
What a successful operation on a file tells of the tree before and after it, whatever its route. Routes
lead to the same place as long as no directory goes away.
-/

namespace TieredCache.FileTree
open FilePath

variable {tree made other : FileTree} {route source target : Route} {place origin : FilePath}
  {entry after : Option Entry} {content : Bytes} {accessed modified : FileTime}

/-! ### Where routes lead -/

/-- A route leads to the same place as long as the directories on its way are there. -/
theorem locate_mono {located : Target}
    (grown : ∀ path ∈ entered route.origin route.names, tree.isDirectory path = true →
      made.isDirectory path = true)
    (locates : tree.locate route = .ok located) : made.locate route = .ok located := by
  unfold locate at locates ⊢
  split at locates
  · cases locates
  · rename_i clean
    rw [if_neg clean]
    split at locates
    · cases locates
    · rename_i filled
      rw [if_neg filled]
      split at locates
      · cases locates
      · rename_i brief
        rw [if_neg brief]
        split at locates
        · exact locates
        · rename_i last ends
          obtain ⟨front, split⟩ := List.getLast?_eq_some_iff.mp ends
          split at locates
          · rename_i upward
            cases reached : tree.descend route.origin route.names with
            | error cause =>
                rw [reached] at locates
                cases locates
            | ok holder =>
                rw [reached] at locates
                simp only [if_pos upward, descend_mono_of_entered grown reached]
                exact locates
          · rename_i named
            cases reached : tree.descend route.origin route.names.dropLast with
            | error cause =>
                rw [reached] at locates
                cases locates
            | ok holder =>
                have above : ∀ path ∈ entered route.origin route.names.dropLast,
                    tree.isDirectory path = true → made.isDirectory path = true := by
                  intro path member
                  apply grown
                  rw [split, List.dropLast_concat] at member
                  rw [split, entered_append]
                  exact List.mem_append_left _ member
                rw [reached] at locates
                simp only [if_neg named, descend_mono_of_entered above reached]
                exact locates

theorem Replaced.locate {located : Target} (replaced : Replaced tree other origin after)
    (locates : tree.locate route = .ok located) : other.locate route = .ok located :=
  locate_mono (fun path _ directory => (replaced.isDirectory path).trans directory) locates

theorem place_of_locate {located : Target} (locates : tree.locate route = .ok located) :
    located.place = follow route.origin route.names := by
  rcases (of_locate locates).2 with reached | ⟨front, last, holder, split, forward, -, reached, same⟩
  · exact (of_descend reached).1
  · rw [same, split, follow_concat _ _ forward, ← (of_descend reached).1]

/-- A route that leads to a name ends in it. -/
theorem of_locate_named (locates : tree.locate route = .ok (.named place)) :
    ∃ front last holder, route.names = front ++ [last] ∧ last ≠ Name.up ∧
      tree.descend route.origin front = .ok holder ∧ place = holder ++ [last] := by
  unfold locate at locates
  split at locates
  · cases locates
  · split at locates
    · cases locates
    · split at locates
      · cases locates
      · split at locates
        · cases locates
        · rename_i last ends
          obtain ⟨front, split⟩ := List.getLast?_eq_some_iff.mp ends
          split at locates
          · cases reached : tree.descend route.origin route.names with
            | error cause =>
                rw [reached] at locates
                cases locates
            | ok holder =>
                rw [reached] at locates
                cases locates
          · rename_i named
            rw [split, List.dropLast_concat] at locates
            cases reached : tree.descend route.origin front with
            | error cause =>
                rw [reached] at locates
                cases locates
            | ok holder =>
                rw [reached] at locates
                simp only [bind, Except.bind] at locates
                split at locates
                · cases locates
                · cases locates
                  refine ⟨front, last, holder, split, ?_, reached, rfl⟩
                  rintro rfl
                  simp at named

theorem fileTarget_eq_ok : tree.fileTarget route = .ok place ↔
    tree.locate route = .ok (.named place) ∧ route.ending = .plain := by
  unfold fileTarget
  cases located : tree.locate route with
  | error cause => simp [bind, Except.bind]
  | ok found =>
      cases found with
      | directory there => simp [bind, Except.bind]
      | named there => by_cases plain : route.ending = .plain <;> simp [bind, Except.bind, plain]

theorem fileTarget_mono
    (grown : ∀ path, tree.isDirectory path = true → made.isDirectory path = true)
    (targets : tree.fileTarget route = .ok place) : made.fileTarget route = .ok place := by
  rw [fileTarget_eq_ok] at targets ⊢
  exact ⟨locate_mono (fun path _ => grown path) targets.1, targets.2⟩

theorem Replaced.fileTarget (replaced : Replaced tree other origin after)
    (targets : tree.fileTarget route = .ok place) : other.fileTarget route = .ok place :=
  fileTarget_mono (fun path directory => (replaced.isDirectory path).trans directory) targets

theorem ne_nil_of_fileTarget (targets : tree.fileTarget route = .ok place) : place ≠ [] := by
  obtain ⟨-, last, holder, -, -, -, rfl⟩ := of_locate_named (fileTarget_eq_ok.mp targets).1
  exact List.append_ne_nil_of_right_ne_nil _ (List.cons_ne_nil _ _)

/-- A route to a file leads to what stands at its place. -/
theorem arrive_of_fileTarget (targets : tree.fileTarget route = .ok place) :
    tree.arrive route = match tree.find? place with
      | none => .error .notFound
      | some entry => .ok (place, entry) := by
  obtain ⟨located, plain⟩ := fileTarget_eq_ok.mp targets
  unfold arrive
  simp only [located, bind, Except.bind, Target.place, plain, if_true]
  cases tree.find? place with
  | none => rfl
  | some entry => cases entry <;> rfl

/-! ### What operations did -/

theorem of_createNew (creates : tree.createNew route accessed modified = .ok made) :
    ∃ place, tree.fileTarget route = .ok place ∧ tree.find? place = none ∧
      made = tree.insert place (.file [] accessed modified) := by
  unfold createNew at creates
  cases targets : tree.fileTarget route with
  | error cause =>
      rw [targets] at creates
      cases creates
  | ok place =>
      rw [targets] at creates
      simp only [bind, Except.bind] at creates
      cases found : tree.find? place with
      | some entry =>
          rw [found] at creates
          cases creates
      | none =>
          rw [found] at creates
          cases creates
          exact ⟨place, rfl, found, rfl⟩

theorem createNew_of_vacant (targets : tree.fileTarget route = .ok place)
    (vacant : tree.find? place = none) : tree.createNew route accessed modified =
      .ok (tree.insert place (.file [] accessed modified)) := by
  unfold createNew
  simp only [targets, bind, Except.bind, vacant]

theorem createNew_of_present {present : Entry} (targets : tree.fileTarget route = .ok place)
    (found : tree.find? place = some present) :
    tree.createNew route accessed modified = .error .alreadyExists := by
  unfold createNew
  simp only [targets, bind, Except.bind, found]

theorem of_read (reads : tree.read route = .ok content) : ∃ place accessed modified,
    tree.arrive route = .ok (place, .file content accessed modified) := by
  unfold read FileTree.entry at reads
  cases there : tree.arrive route with
  | error cause =>
      rw [there] at reads
      cases reads
  | ok found =>
      obtain ⟨place, entry⟩ := found
      rw [there] at reads
      cases entry with
      | directory modified => cases reads
      | file content accessed modified =>
          cases reads
          exact ⟨place, accessed, modified, rfl⟩

theorem of_removeFile (removes : tree.removeFile route = .ok made) :
    ∃ place content accessed modified,
      tree.arrive route = .ok (place, .file content accessed modified) ∧
        made = tree.without place := by
  unfold removeFile at removes
  cases there : tree.arrive route with
  | error cause =>
      rw [there] at removes
      cases removes
  | ok found =>
      obtain ⟨place, entry⟩ := found
      rw [there] at removes
      cases entry with
      | directory modified => cases removes
      | file content accessed modified =>
          cases removes
          exact ⟨place, content, accessed, modified, rfl, rfl⟩

/-- A file that was moved stands where the second route leads. -/
theorem of_rename (there : tree.arrive source = .ok (origin, .file content accessed modified))
    (moves : tree.rename source target = .ok made) :
    ∃ located, tree.locate target = .ok located ∧ tree.isDirectory located.place = false ∧
      made = (tree.without origin).insert located.place (.file content accessed modified) := by
  unfold rename at moves
  cases locates : tree.locate target with
  | error cause =>
      simp only [there, locates, bind, Except.bind] at moves
      cases moves
  | ok located =>
      simp only [there, locates, bind, Except.bind] at moves
      refine ⟨located, rfl, ?_⟩
      unfold isDirectory
      cases found : tree.find? located.place with
      | none =>
          rw [found] at moves
          cases moves
          exact ⟨rfl, rfl⟩
      | some present =>
          rw [found] at moves
          cases present with
          | directory modified => cases moves
          | file content accessed modified =>
              cases moves
              exact ⟨rfl, rfl⟩

theorem of_write (writes : tree.write route content accessed modified = .ok made) :
    ∃ place used, tree.fileTarget route = .ok place ∧ tree.isDirectory place = false ∧
      made = tree.insert place (.file content used modified) := by
  unfold write at writes
  cases targets : tree.fileTarget route with
  | error cause =>
      rw [targets] at writes
      cases writes
  | ok place =>
      rw [targets] at writes
      simp only [bind, Except.bind] at writes
      unfold isDirectory
      cases found : tree.find? place with
      | none =>
          rw [found] at writes
          cases writes
          exact ⟨place, accessed, rfl, by rw [found]; rfl, rfl⟩
      | some entry =>
          rw [found] at writes
          cases entry with
          | directory modified => cases writes
          | file earlier used modified =>
              cases writes
              exact ⟨place, used, rfl, by rw [found]; rfl, rfl⟩

theorem write_of_file {earlier : Bytes} {used before : FileTime}
    (targets : tree.fileTarget route = .ok place)
    (found : tree.find? place = some (.file earlier used before)) :
    tree.write route content accessed modified =
      .ok (tree.insert place (.file content used modified)) := by
  unfold write
  simp only [targets, bind, Except.bind, found]

theorem write_of_free (targets : tree.fileTarget route = .ok place)
    (free : tree.isDirectory place = false) :
    ∃ used, tree.write route content accessed modified =
      .ok (tree.insert place (.file content used modified)) := by
  cases found : tree.find? place with
  | none => exact ⟨accessed, by simp only [write, targets, bind, Except.bind, found]⟩
  | some entry =>
      cases entry with
      | directory changed =>
          rw [isDirectory, found] at free
          cases free
      | file earlier used changed => exact ⟨used, write_of_file targets found⟩

theorem of_makeDirectory (makes : tree.makeDirectory route = .ok made) :
    ∃ place, tree.locate route = .ok (.named place) ∧ tree.find? place = none ∧
      made = tree.insert place (.directory 0) := by
  unfold makeDirectory at makes
  cases locates : tree.locate route with
  | error cause =>
      rw [locates] at makes
      cases makes
  | ok located =>
      rw [locates] at makes
      cases located with
      | directory place => cases makes
      | named place =>
          simp only [bind, Except.bind] at makes
          cases found : tree.find? place with
          | some entry =>
              rw [found] at makes
              cases makes
          | none =>
              rw [found] at makes
              cases makes
              exact ⟨place, rfl, found, rfl⟩

/-! ### Making directories, one after the other -/

theorem mem_above {count : Nat} {above : Route} (enough : count ≤ route.names.length)
    (member : above ∈ Route.ancestors.above count route) :
    above.origin = route.origin ∧ above.names <+: route.names := by
  induction count generalizing route with
  | zero => cases member
  | succ count ih =>
      rw [Route.ancestors.above] at member
      rcases List.mem_cons.mp member with rfl | later
      · exact ⟨rfl, List.prefix_refl _⟩
      · have filled : route.names ≠ [] := by
          intro empty
          rw [empty] at enough
          exact absurd enough (Nat.not_succ_le_zero count)
        have names := Route.names_parent filled
        have shorter : count ≤ route.parent.names.length := by
          rw [names, List.length_dropLast]
          omega
        obtain ⟨origin, part⟩ := ih shorter later
        rw [Route.origin_parent] at origin
        rw [names] at part
        exact ⟨origin, part.trans (List.dropLast_prefix _)⟩

/-- What each directory that is made preserves, making all that are missing preserves, also if one of
them cannot be made. -/
theorem makeAll_induction {motive : FileTree → Prop} {routes : List Route} (first : motive tree)
    (step : ∀ route ∈ routes, ∀ tree made, motive tree → tree.makeDirectory route = .ok made →
      motive made) : motive (tree.makeAll routes).1 := by
  induction routes with
  | nil => exact first
  | cons route above ih =>
      have own := step route List.mem_cons_self
      have middle := ih fun other member => step other (List.mem_cons_of_mem _ member)
      rw [makeAll]
      split
      · rename_i made done
        exact own tree made first done
      · split
        · rename_i raised cause raises
          rw [raises] at middle
          exact middle
        · rename_i raised raises
          rw [raises] at middle
          split
          · rename_i made done
            exact own raised made middle done
          · exact middle
      · exact first

theorem holdsDirectory_iff : tree.holdsDirectory route = true ↔
    ∃ located, tree.locate route = .ok located ∧ tree.isDirectory located.place = true := by
  constructor
  · intro holds
    unfold holdsDirectory FileTree.entry at holds
    cases there : tree.arrive route with
    | error cause =>
        rw [there] at holds
        cases holds
    | ok found =>
        rw [there] at holds
        obtain ⟨located, locates, same, shown⟩ := of_arrive there
        refine ⟨located, locates, ?_⟩
        rw [FileTree.isDirectory, same, shown]
        exact holds
  · rintro ⟨located, locates, directory⟩
    exact (taken_of_located locates directory).2

/-- A directory that could be made, with those above it, is there. -/
theorem holdsDirectory_of_makeAll {above : List Route}
    (makes : tree.makeAll (route :: above) = (made, none)) : made.holdsDirectory route = true := by
  have fresh {before : FileTree} (done : before.makeDirectory route = .ok made) :
      made.holdsDirectory route = true := by
    obtain ⟨place, locates, missing, rfl⟩ := of_makeDirectory done
    have raised := Raised.of_insert missing
    have below : place ≠ [] := by
      rintro rfl
      cases missing
    refine holdsDirectory_iff.mpr
      ⟨.named place, locate_mono (fun path _ => raised.isDirectory path) locates, ?_⟩
    rw [FileTree.isDirectory, Target.place, find?_insert_self before _ below]
    rfl
  rw [makeAll] at makes
  split at makes
  · rename_i made done
    cases makes
    exact fresh done
  · split at makes
    · cases makes
    · rename_i raised raises
      split at makes
      · rename_i made done
        cases makes
        exact fresh done
      · split at makes
        · rename_i holds
          cases makes
          exact holds
        · cases makes
  · split at makes
    · rename_i holds
      cases makes
      exact holds
    · cases makes

/-- A directory that could be made once is there whenever it is to be made again. -/
theorem raise_again (raises : tree.raise route = (made, none))
    (kept : ∀ path, made.isDirectory path = true → other.isDirectory path = true) :
    other.raise route = (other, none) := by
  rw [raise, Route.ancestors] at raises ⊢
  cases count : route.names.length with
  | zero => rfl
  | succ count =>
      rw [count, Route.ancestors.above] at raises
      rw [Route.ancestors.above]
      obtain ⟨located, locates, directory⟩ :=
        holdsDirectory_iff.mp (holdsDirectory_of_makeAll raises)
      have onward := locate_mono (fun path _ => kept path) locates
      obtain ⟨taken, holds⟩ := taken_of_located onward (kept _ directory)
      exact Makes.all (.inr ⟨taken, holds, rfl⟩) _

/-! ### Writing beside the target, wherever that is -/

open DiskStore

structure Listed (tree : FileTree) : Prop where
  unique : (Entries.keys tree.entries).Nodup
  below : [] ∉ Entries.keys tree.entries

theorem Listed.without (listed : tree.Listed) (place : FilePath) : (tree.without place).Listed where
  unique := Entries.keys_erase_nodup listed.unique place
  below := fun member => listed.below ((List.filter_sublist.map _).subset member)

theorem Listed.insert (listed : tree.Listed) (below : place ≠ []) (entry : Entry) :
    (tree.insert place entry).Listed where
  unique := Entries.keys_insert_nodup listed.unique place entry
  below := by
    intro member
    rcases List.mem_cons.mp member with same | later
    · exact below same.symm
    · exact (listed.without place).below later

theorem Replaced.again {before : Option Entry} (first : Replaced tree made place before)
    (second : Replaced made other place after) : Replaced tree other place after where
  find?_eq := by
    intro path
    rw [second.find?_eq]
    split
    · rfl
    · rename_i different
      rw [first.find?_eq, if_neg different]
  was := first.was
  now := second.now

/-- Taking away what came to a vacant place leaves everything as it was. -/
theorem Replaced.undone (replaced : Replaced tree made place after) (below : place ≠ [])
    (vacant : tree.find? place = none) (path : FilePath) :
    (made.without place).find? path = tree.find? path := by
  by_cases same : path = place
  · rw [same, find?_without_self made below, vacant]
  · rw [find?_without_of_ne made same, replaced.find?_eq, if_neg same]

/-- A temporary file that could be made can be filled; only its own place has changed then. -/
theorem write_of_createNew {present : FileTime}
    (creates : tree.createNew source present modified = .ok made) (content : Bytes) :
    ∃ spot ready, tree.find? spot = none ∧ spot ≠ [] ∧
      made.write source content present modified = .ok ready ∧ (tree.Listed → ready.Listed) ∧
      ready.arrive source = .ok (spot, .file content present modified) ∧
      Replaced tree ready spot (some (.file content present modified)) := by
  obtain ⟨spot, targets, vacant, rfl⟩ := of_createNew creates
  have below := ne_nil_of_fileTarget targets
  have empty : Replaced tree (tree.insert spot (.file [] present modified)) spot _ :=
    replaced_insert below (isDirectory_of_find?_none vacant)
  have started := find?_insert_self tree (.file [] present modified) below
  have writes : (tree.insert spot (.file [] present modified)).write source content present
      modified = .ok _ := write_of_file (empty.fileTarget targets) started
  have filled : Replaced tree ((tree.insert spot (.file [] present modified)).insert spot
      (.file content present modified)) spot _ :=
    empty.again (replaced_insert below (isDirectory_of_find?_file started))
  refine ⟨spot, _, vacant, below, writes, ?_, ?_, filled⟩
  · exact fun once => (once.insert below _).insert below _
  · rw [arrive_of_fileTarget (filled.fileTarget targets), filled.find?_eq, if_pos rfl]

/-- Moving a file that came to a vacant place changes the place that it is moved to. -/
theorem rename_of_vacant (replaced : Replaced tree made origin after) (below : origin ≠ [])
    (vacant : tree.find? origin = none)
    (there : made.arrive source = .ok (origin, .file content accessed modified))
    (moves : made.rename source target = .ok other) :
    ∃ located, tree.locate target = .ok located ∧ (made.Listed → other.Listed) ∧
      Replaced tree other located.place (some (.file content accessed modified)) := by
  obtain ⟨located, locates, free, rfl⟩ := of_rename there moves
  have filled : located.place ≠ [] := by
    intro top
    rw [top] at free
    cases free
  refine ⟨located, ?_, fun once => (once.without origin).insert filled _, ?_⟩
  · apply locate_mono _ locates
    intro path _ directory
    rw [← replaced.isDirectory]
    exact directory
  · rw [replaced.isDirectory] at free
    refine ⟨fun path => ?_, free, fun shown same => by cases same; rfl⟩
    split
    · rename_i same
      rw [same, find?_insert_self _ _ filled]
    · rename_i different
      rw [find?_insert_of_ne _ _ different]
      exact replaced.undone below vacant path

/-- A file that is written either takes its place, among all that was there once the directories above
it were made, or it leaves nothing but these directories. -/
theorem writeFile_cases {present : FileTime} {written : FileTree} {cause : Option IoError}
    (writes : writeFile tree route content present = (written, cause)) :
    let made := (tree.raise route.parent).1
    (made.Listed → written.Listed) ∧
      (cause ≠ none ∧ (∀ path, written.find? path = made.find? path) ∨
        cause = none ∧ ∃ located, made.locate route = .ok located ∧
          Replaced made written located.place (some (.file content present 0))) := by
  unfold writeFile at writes
  split at writes
  · rename_i prepared fault raises
    rw [raises]
    cases writes
    exact ⟨id, .inl ⟨by simp, fun _ => rfl⟩⟩
  · rename_i prepared raises
    rw [raises]
    generalize temporary prepared route.parent = beside at writes
    dsimp only at writes ⊢
    split at writes
    · cases writes
      exact ⟨id, .inl ⟨by simp, fun _ => rfl⟩⟩
    · rename_i created creates
      obtain ⟨spot, ready, vacant, below, fills, listed, there, filled⟩ :=
        write_of_createNew creates content
      have steady := raise_again raises fun path directory => (filled.isDirectory path).trans directory
      rw [fills] at writes
      dsimp only at writes
      rw [moveIntoPlace_eq steady] at writes
      split at writes
      · cases writes
        rw [discard, removeFile_of_arrive there]
        refine ⟨fun once => (listed once).without spot, .inl ⟨by simp, fun path => ?_⟩⟩
        exact filled.undone below vacant path
      · rename_i moved moves
        cases writes
        obtain ⟨located, locates, firm, replaced⟩ := rename_of_vacant filled below vacant there moves
        exact ⟨fun once => firm (listed once), .inr ⟨rfl, located, locates, replaced⟩⟩

end TieredCache.FileTree
