import TieredCache.Proofs.Disk.Access
import TieredCache.Proofs.Disk.Contents
import TieredCache.Proofs.Disk.Passes

/-!
Which files a clean pass gives up after a run of operations. Main statement: in a store whose root was
empty at first, the last use of a file that is evicted precedes the last use of every file that is kept,
and lookups after the pass find what they found before, or nothing.
-/

namespace TieredCache.DiskStore
open FilePath FileTree Cleaning

/-! ### Runs, and the files that they use -/

/-- What may happen to a store: an operation, the check that may follow a put, or a pass. -/
inductive Event where
  | act (operation : Operation)
  | check (now : Millis) (present : FileTime)
  | clean (now : Millis) (present : FileTime)

def Operation.time? : Operation → Option FileTime
  | .put _ _ _ present | .get _ present => some present
  | .delete _ | .query _ => none

def Event.time? : Event → Option FileTime
  | act operation => operation.time?
  | check .. | clean .. => none

/-- The file that an operation used: a put without a write error wrote it, a get that is not a miss
returned it. -/
def Operation.used (before after : DiskStore) (answer : Answer) : Operation → Option FilePath
  | .put key .. =>
      if after.writeErrors = before.writeErrors then some (before.placeOf key) else none
  | .get key _ => if answer = .looked .notFound then none else some (before.placeOf key)
  | .delete _ | .query _ => none

def happen (store : DiskStore) (tree : FileTree) : Event → DiskStore × FileTree × Option FilePath
  | .act operation =>
      let (after, next, answer) := store.operate tree operation
      (after, next, operation.used store after answer)
  | .check now present =>
      let (after, next, _) := store.checkClean tree now present
      (after, next, none)
  | .clean now present =>
      let cleaned := store.cleanNow tree now present
      (cleaned.store, cleaned.tree, none)

/-- What a run has led to, and the file that each of its events used. -/
structure Course where
  store : DiskStore
  tree : FileTree
  uses : List (Option FilePath) := []

def Course.step (course : Course) (event : Event) : Course :=
  let (store, tree, used) := course.store.happen course.tree event
  ⟨store, tree, course.uses ++ [used]⟩

def Course.run (course : Course) (events : List Event) : Course := events.foldl Course.step course

def LastUse (uses : List (Option FilePath)) (number : Nat) (path : FilePath) : Prop :=
  uses[number]? = some (some path) ∧ ∀ later, number < later → uses[later]? ≠ some (some path)

variable {store : DiskStore} {place path : FilePath} {tree next : FileTree} {key : String}
  {uses : List (Option FilePath)} {number : Nat}

theorem lastUse_concat_self (uses : List (Option FilePath)) (path : FilePath) :
    LastUse (uses ++ [some path]) uses.length path := by
  refine ⟨by simp, fun later beyond => ?_⟩
  rw [List.getElem?_eq_none (by rw [List.length_append]; exact beyond)]
  simp

theorem LastUse.concat (last : LastUse uses number path) {used : Option FilePath}
    (other : used ≠ some path) : LastUse (uses ++ [used]) number path := by
  obtain ⟨own, latest⟩ := last
  have early : number < uses.length := (List.getElem?_eq_some_iff.mp own).1
  refine ⟨by rw [List.getElem?_append_left early, own], fun later beyond => ?_⟩
  rcases Nat.lt_trichotomy later uses.length with inside | rfl | outside
  · rw [List.getElem?_append_left inside]
    exact latest later beyond
  · simpa using other
  · rw [List.getElem?_eq_none (by rw [List.length_append]; exact outside)]
    simp

/-! ### One event -/

def Dates (place : FilePath) (tree next : FileTree) (used : Option FilePath)
    (time : Option FileTime) : Prop :=
  ∀ path accessed, Unmarked place path → next.accessed? path = some accessed →
    used = some path ∧ time = some accessed ∨ used ≠ some path ∧ tree.accessed? path = some accessed

theorem Dates.of_same (same : ∀ path, next.accessed? path = tree.accessed? path)
    (time : Option FileTime) : Dates place tree next none time := by
  intro path accessed _ shown
  rw [same] at shown
  exact .inr ⟨by simp, shown⟩

theorem Dates.of_replaced {made : FileTree} {content : Bytes} {present modified : FileTime}
    (same : ∀ path, made.accessed? path = tree.accessed? path)
    (replaced : Replaced made next path (some (.file content present modified))) :
    Dates place tree next (some path) (some present) := by
  intro other accessed _ shown
  rw [accessed?, replaced.find?_eq] at shown
  by_cases own : other = path
  · rw [if_pos own] at shown
    cases shown
    exact .inl ⟨by rw [own], rfl⟩
  · rw [if_neg own] at shown
    refine .inr ⟨fun equal => own (Option.some.inj equal).symm, ?_⟩
    rw [← same]
    exact shown

theorem Dates.of_removed (replaced : Replaced tree next path none) (time : Option FileTime) :
    Dates place tree next none time := by
  intro other accessed _ shown
  rw [accessed?, replaced.find?_eq] at shown
  by_cases own : other = path
  · rw [if_pos own] at shown
    cases shown
  · rw [if_neg own] at shown
    exact .inr ⟨by simp, shown⟩

theorem Dates.of_thinned (thinned : Thinned place tree next) (time : Option FileTime) :
    Dates place tree next none time := by
  intro path accessed unmarked shown
  exact .inr ⟨by simp, accessed?_of_left (thinned.files path unmarked.2) shown⟩

structure Ready (root : Route) (place : FilePath) (store : DiskStore) (tree : FileTree) : Prop where
  working : store.closed = false
  same : store.root = root
  housed : Housed root place tree
  unlocked : Unlocked place tree

variable {root : Route}

theorem isFileName_cleanLockName : Key.isFileName Key.cleanLockName = true := by decide +kernel

/-- Neither the file of a key is the lock, nor a directory made for it. -/
theorem Housed.lock_kept (housed : Housed store.root place tree) {made : FileTree}
    (grown : Grown tree made) (unlocked : Unlocked place tree) {after : Option Entry}
    (replaced : Replaced made next (store.placeOf key) after) : Unlocked place next := by
  have unmarked := (housed.anchored.stored key).2
  rw [Unlocked, replaced.find?_eq, if_neg, grown.find?_file isFileName_cleanLockName]
  · exact unlocked
  · intro same
    rw [← same] at unmarked
    exact absurd (isMarker_lockPlace place) (by rw [lockPlace, unmarked]; decide)

theorem Ready.put (ready : Ready root place store tree) (key : String) (content : Bytes) (now : Millis)
    (present : FileTime) :
    Ready root place (store.put tree key content now present).store
        (store.put tree key content now present).tree ∧
      Dates place tree (store.put tree key content now present).tree
        (if (store.put tree key content now present).store.writeErrors = store.writeErrors then
          some (store.placeOf key) else none) (some present) := by
  obtain ⟨working, rfl, housed, unlocked⟩ := ready
  obtain ⟨made, lodges, grown, settled, ⟨same, replaced⟩ | ⟨same, shown⟩⟩ :=
    housed.put working key content now present
  · rw [same, if_pos rfl]
    exact ⟨⟨working, rfl, settled, housed.lock_kept grown unlocked replaced⟩,
      .of_replaced grown.accessed?_eq replaced⟩
  · rw [same, if_neg (Nat.succ_ne_self _)]
    refine ⟨⟨working, rfl, settled, ?_⟩, .of_same (fun path => ?_) _⟩
    · rw [Unlocked, shown, grown.find?_file isFileName_cleanLockName]
      exact unlocked
    · rw [accessed?, shown]
      exact grown.accessed?_eq path

theorem Ready.get (ready : Ready root place store tree) (key : String) (present : FileTime) :
    Ready root place store (store.get tree key present).1 ∧
      Dates place tree (store.get tree key present).1
        (if (store.get tree key present).2.1 = .notFound then none else some (store.placeOf key))
        (some present) := by
  obtain ⟨working, rfl, housed, unlocked⟩ := ready
  obtain ⟨settled, ⟨same, missed⟩ | ⟨content, accessed, modified, hit, there, replaced⟩⟩ :=
    housed.get working key present
  · rw [missed, if_pos rfl]
    rw [same] at settled ⊢
    exact ⟨⟨working, rfl, settled, unlocked⟩, .of_same (fun _ => rfl) _⟩
  · rw [hit, if_neg fun missed => by cases missed]
    exact ⟨⟨working, rfl, settled, housed.lock_kept (.refl tree) unlocked replaced⟩,
      .of_replaced (fun _ => rfl) replaced⟩

theorem Ready.delete (ready : Ready root place store tree) (key : String) :
    Ready root place store (store.delete tree key).1 ∧
      Dates place tree (store.delete tree key).1 none none := by
  obtain ⟨working, rfl, housed, unlocked⟩ := ready
  obtain ⟨settled, same | replaced⟩ := housed.delete key
  · rw [same] at settled ⊢
    exact ⟨⟨working, rfl, settled, unlocked⟩, .of_same (fun _ => rfl) _⟩
  · exact ⟨⟨working, rfl, settled, housed.lock_kept (.refl tree) unlocked replaced⟩,
      .of_removed replaced _⟩

theorem cleanNow_eq (store : DiskStore) (tree : FileTree) (now : Millis) (present : FileTime) :
    (store.cleanNow tree now present).store.root = store.root ∧
      (store.cleanNow tree now present).store.closed = store.closed ∧
      (store.cleanNow tree now present).tree =
        (cleanLocked tree store.root store.settings now present).1 := by
  rw [cleanNow]
  obtain ⟨next, result, signals⟩ := cleanLocked tree store.root store.settings now present
  cases result <;> exact ⟨rfl, rfl, rfl⟩

theorem Ready.cleanNow (ready : Ready root place store tree) (now : Millis) (present : FileTime) :
    Ready root place (store.cleanNow tree now present).store (store.cleanNow tree now present).tree ∧
      Passed root place tree (store.cleanNow tree now present).tree := by
  obtain ⟨working, rfl, housed, unlocked⟩ := ready
  obtain ⟨same, closed, next⟩ := cleanNow_eq store tree now present
  have passed := housed.cleanLocked unlocked store.settings now present
  rw [← next] at passed
  exact ⟨⟨closed.trans working, same, passed.housed, passed.unlocked⟩, passed⟩

theorem Ready.checkClean (ready : Ready root place store tree) (now : Millis) (present : FileTime) :
    Ready root place (store.checkClean tree now present).1 (store.checkClean tree now present).2.1 ∧
      Thinned place tree (store.checkClean tree now present).2.1 := by
  obtain ⟨working, same, housed, unlocked⟩ := ready
  rw [DiskStore.checkClean]
  dsimp only
  split
  · have scheduled (next : Millis) : Ready root place { store with nextClean := next } tree :=
      ⟨working, same, housed, unlocked⟩
    obtain ⟨after, passed⟩ := (scheduled _).cleanNow now present
    exact ⟨after, passed.thinned⟩
  · exact ⟨⟨working, same, housed, unlocked⟩, .of_find? fun _ => .inl rfl⟩

theorem Ready.happen (ready : Ready root place store tree) (event : Event) :
    Ready root place (store.happen tree event).1 (store.happen tree event).2.1 ∧
      Dates place tree (store.happen tree event).2.1 (store.happen tree event).2.2 event.time? := by
  cases event with
  | act operation =>
      cases operation with
      | put key content now present => exact ready.put key content now present
      | get key present =>
          obtain ⟨after, dates⟩ := ready.get key present
          refine ⟨after, ?_⟩
          change Dates _ _ _ _ (some present)
          simpa only [DiskStore.happen, operate, Operation.used, Answer.looked.injEq] using dates
      | delete key => exact ready.delete key
      | query key => exact ⟨ready, .of_same (fun _ => rfl) _⟩
  | check now present =>
      obtain ⟨after, thinned⟩ := ready.checkClean now present
      exact ⟨after, .of_thinned thinned _⟩
  | clean now present =>
      obtain ⟨after, passed⟩ := ready.cleanNow now present
      exact ⟨after, .of_thinned passed.thinned _⟩

/-! ### Runs -/

/-- Whether every file that is there bears the time of the last event that used it. -/
structure Dated (root : Route) (place : FilePath) (events : List Event) (course : Course) : Prop where
  ready : Ready root place course.store course.tree
  whole : course.uses.length = events.length
  dated : ∀ path accessed, Unmarked place path → course.tree.accessed? path = some accessed →
    ∃ number event, LastUse course.uses number path ∧ events[number]? = some event ∧
      event.time? = some accessed

variable {events : List Event} {course : Course}

theorem Dated.step (before : Dated root place events course) (event : Event) :
    Dated root place (events ++ [event]) (course.step event) := by
  obtain ⟨after, dates⟩ := before.ready.happen event
  refine ⟨after, by simp [Course.step, before.whole], ?_⟩
  intro path accessed unmarked shown
  rcases dates path accessed unmarked shown with ⟨own, time⟩ | ⟨other, was⟩
  · refine ⟨course.uses.length, event, ?_, ?_, time⟩
    · change LastUse (course.uses ++ [(course.store.happen course.tree event).2.2]) _ path
      rw [own]
      exact lastUse_concat_self course.uses path
    · rw [before.whole]
      simp
  · obtain ⟨number, earlier, last, known, time⟩ := before.dated path accessed unmarked was
    refine ⟨number, earlier, last.concat other, ?_, time⟩
    rw [List.getElem?_append_left (List.getElem?_eq_some_iff.mp known).1]
    exact known

theorem Dated.run (before : Dated root place [] course) (events : List Event) :
    Dated root place events (course.run events) := by
  induction events using List.reverseRecOn with
  | nil => exact before
  | append_singleton front event ih =>
      rw [Course.run, List.foldl_concat]
      exact ih.step event

theorem Fresh.dated (fresh : Fresh store tree) (regular : tree.Regular)
    (reached : rootPlace tree store.root = .ok place) :
    Dated store.root place [] ⟨store, tree, []⟩ := by
  obtain ⟨known, rooted, empty⟩ := fresh.empty
  rw [reached] at rooted
  cases rooted
  have housed : Housed store.root place tree := by
    refine ⟨regular, reached, fun path member => ?_, fun path above file => ?_⟩
    · obtain ⟨modified, arrived⟩ := rootPlace_eq_ok.mp reached
      obtain ⟨onward, -, -⟩ := descend_of_arrive arrived
      have directory := (of_descend onward).2 path member
      cases above : place.isAbove path with
      | false => rfl
      | true =>
          rw [isDirectory, empty path above] at directory
          cases directory
    · rw [isFile, empty path above] at file
      cases file
  have free : Unlocked place tree := by
    have above := isAbove_append_concat place [] Key.cleanLockName
    rw [List.append_nil] at above
    exact empty _ above
  refine ⟨⟨fresh.working, rfl, housed, free⟩, rfl, ?_⟩
  intro path accessed unmarked shown
  rw [accessed?, empty path unmarked.1] at shown
  cases shown

/-! ### The pass after a run -/

theorem getElem?_time_lt {first second : Nat} {early late : Event} {sooner later : FileTime}
    (ordered : (events.filterMap Event.time?).Pairwise (· < ·)) (before : first < second)
    (left : events[first]? = some early) (right : events[second]? = some late)
    (start : early.time? = some sooner) (finish : late.time? = some later) : sooner < later := by
  rw [List.pairwise_filterMap, List.pairwise_iff_getElem] at ordered
  obtain ⟨low, rfl⟩ := List.getElem?_eq_some_iff.mp left
  obtain ⟨high, rfl⟩ := List.getElem?_eq_some_iff.mp right
  exact ordered first second low high before sooner start later finish

/-- Where times increase from event to event, the earlier time tells the earlier use. -/
theorem Dated.lastUse_lt (dated : Dated root place events course)
    (ordered : (events.filterMap Event.time?).Pairwise (· < ·)) {left right : FilePath}
    (different : left ≠ right) {early late : FileTime} (first : Unmarked place left)
    (second : Unmarked place right) (sooner : course.tree.accessed? left = some early)
    (later : course.tree.accessed? right = some late) (order : early ≤ late) :
    ∃ before after, LastUse course.uses before left ∧ LastUse course.uses after right ∧
      before < after := by
  obtain ⟨before, start, own, known, time⟩ := dated.dated left early first sooner
  obtain ⟨after, finish, other, shown, date⟩ := dated.dated right late second later
  refine ⟨before, after, own, other, ?_⟩
  rcases Nat.lt_trichotomy before after with less | rfl | more
  · exact less
  · have same := own.1.symm.trans other.1
    exact absurd (Option.some.inj (Option.some.inj same)) different
  · have reversed := getElem?_time_lt ordered more shown known date time
    exact absurd reversed (Int.not_lt.mpr order)

def looked (store : DiskStore) (tree : FileTree) (gets : List (String × FileTime)) : FileTree :=
  gets.foldl (fun tree get => (store.get tree get.1 get.2).1) tree

theorem sameFiles_looked (store : DiskStore) (tree : FileTree) (gets : List (String × FileTime)) :
    SameFiles tree (store.looked tree gets) := by
  induction gets generalizing tree with
  | nil => exact fun _ => rfl
  | cons get rest ih =>
      intro path
      rw [looked, List.foldl_cons]
      exact (ih _ path).trans (sameFiles_get store tree get.1 get.2 path)

/-- What a lookup finds in a thinned tree it found before. -/
theorem Ready.get_of_thinned {after : DiskStore} (before : Ready root place store tree)
    (ready : Ready root place after next) (thinned : Thinned place tree next) (key : String)
    (present : FileTime) : (after.get next key present).2.1 = (store.get tree key present).2.1 ∨
      (after.get next key present).2.1 = .notFound := by
  obtain ⟨working, rfl, housed, -⟩ := ready
  obtain ⟨-, missed | ⟨content, accessed, modified, hit, there, -⟩⟩ := housed.get working key present
  · exact .inr missed.2
  · left
    have path : store.pathOf key = after.pathOf key := by rw [pathOf, pathOf, before.same]
    obtain ⟨located, locates, spot, found⟩ := of_arrive there
    have onward : tree.locate (after.pathOf key) = .ok located :=
      locate_mono (fun path _ => thinned.directories path) locates
    have same : tree.find? located.place = next.find? located.place := by
      rcases thinned.files _ (housed.anchored.stored key).2 with same | gone
      · rw [spot]
        exact same.symm
      · rw [gone] at found
        cases found
    have arrives : tree.arrive (store.pathOf key) = next.arrive (after.pathOf key) := by
      rw [path, arrive, arrive, onward, locates]
      simp only [bind, Except.bind, same]
    rw [there] at arrives
    rw [hit, DiskStore.get, before.working]
    simp only [Bool.false_eq_true, if_false, read_of_arrive arrives]

/-- After any run, a pass gives up the files that were used least recently. What lookups find
afterwards, as many as come, they found before. -/
theorem cleanNow_least_recent {now : Millis} {present : FileTime} {cleaned : Cleaned}
    (fresh : Fresh store tree) (regular : tree.Regular)
    (reached : rootPlace tree store.root = .ok place)
    (ordered : (events.filterMap Event.time?).Pairwise (· < ·))
    (runs : Course.run ⟨store, tree, []⟩ events = course)
    (passes : course.store.cleanNow course.tree now present = cleaned) :
    (∀ evicted kept, Unmarked place evicted → Unmarked place kept →
      course.tree.isFile evicted = true → cleaned.tree.isFile evicted = false →
      cleaned.tree.isFile kept = true →
      ∃ before after, LastUse course.uses before evicted ∧ LastUse course.uses after kept ∧
        before < after) ∧
    ∀ gets key time, (cleaned.store.get (cleaned.store.looked cleaned.tree gets) key time).2.1 =
        (course.store.get course.tree key time).2.1 ∨
      (cleaned.store.get (cleaned.store.looked cleaned.tree gets) key time).2.1 = .notFound := by
  have dated := (fresh.dated regular reached).run events
  rw [runs] at dated
  obtain ⟨after, passed⟩ := dated.ready.cleanNow now present
  rw [passes] at after passed
  have thinned := passed.thinned
  constructor
  · intro evicted kept first second file gone stays
    have missing : cleaned.tree.find? evicted = none := by
      rcases thinned.files evicted first.2 with equal | missing
      · rw [isFile, equal] at gone
        rw [isFile, gone] at file
        cases file
      · exact missing
    obtain ⟨content, early, modified, found⟩ := isFile_iff.mp file
    obtain ⟨other, late, changed, shown⟩ := isFile_iff.mp stays
    have sooner := accessed?_eq_some.mpr ⟨content, modified, found⟩
    have later := accessed?_eq_some.mpr ⟨other, changed, shown⟩
    have least := passed.order evicted kept early late first second sooner missing later
    have different : evicted ≠ kept := by
      rintro rfl
      rw [missing] at shown
      cases shown
    have was := accessed?_of_left (thinned.files kept second.2) later
    exact dated.lastUse_lt ordered different first second sooner was least
  · intro gets key time
    rw [get_sameFiles cleaned.store (sameFiles_looked cleaned.store cleaned.tree gets)]
    exact dated.ready.get_of_thinned after thinned key time

private def bare : FileTree := { entries := [([Text.bytes "cache"], .directory 0)] }

private def narrow : DiskStore where
  name := "disk"
  root := ⟨Text.bytes "/cache", []⟩
  settings := { targetSize := 4 }
  nextClean := 0

private theorem regular_bare : bare.Regular where
  unique := by decide +kernel
  below := by decide +kernel
  rooted := rooted_of_entries (by decide +kernel)
  proper := by decide +kernel

private theorem fresh_bare : Fresh narrow bare := by
  refine ⟨rfl, regular_bare.rooted, [Text.bytes "cache"], by decide +kernel, ?_⟩
  intro path above
  cases found : bare.find? path with
  | none => rfl
  | some entry =>
      exfalso
      by_cases top : path = []
      · rw [top] at above
        exact absurd above (by decide +kernel)
      · have member := mem_of_find? top found
        rw [bare, List.mem_singleton, Prod.mk.injEq] at member
        rw [member.1] at above
        exact absurd above (by decide +kernel)

private def revisit : List Event :=
  [.act (.put "a" [1, 2, 3] 0 10), .act (.put "b" [4, 5] 0 20), .act (.get "a" 30)]

private def revisited : Course := Course.run ⟨narrow, bare, []⟩ revisit

private def relieved : Cleaned := revisited.store.cleanNow revisited.tree 0 40

theorem cleanNow_least_recent_revisited : Fresh narrow bare ∧
    ∃ before after, LastUse revisited.uses before [Text.bytes "cache", Text.bytes "b,"] ∧
      LastUse revisited.uses after [Text.bytes "cache", Text.bytes "a,"] ∧ before < after := by
  have least := @cleanNow_least_recent narrow [Text.bytes "cache"] bare revisit revisited 0 40 relieved
    fresh_bare regular_bare (by decide +kernel) (by decide) rfl rfl
  refine ⟨fresh_bare, ?_⟩
  apply least.1
  · exact ⟨by decide +kernel, by decide +kernel⟩
  · exact ⟨by decide +kernel, by decide +kernel⟩
  · decide +kernel
  · decide +kernel
  · decide +kernel

end TieredCache.DiskStore
