import TieredCache.Proofs.Disk.Schedule
import TieredCache.Proofs.Disk.Takeover

/-!
How far apart the clean passes of stores are that share a root. Main statement: after any pass, no store
runs a scheduled pass before a whole interval is over.
-/

namespace TieredCache

namespace DiskStore
open FilePath FileTree Cleaning Selection

variable {store : DiskStore} {root : Route} {place : FilePath} {tree next : FileTree}
  {settings : DiskSettings} {now : Millis} {present : FileTime}

/-! ### What a pass does to the marker of the time -/

/-- The way from a place on to a file below leads there. -/
theorem place_of_arrive_between {way : FilePath} {path : FilePath} {entry : Entry} (filled : way ≠ [])
    (proper : ∀ name ∈ way, Proper name)
    (there : tree.arrive (.between place (place ++ way)) = .ok (path, entry)) :
    path = place ++ way ∧ tree.find? path = some entry := by
  obtain ⟨located, locates, rfl, found⟩ := of_arrive there
  have names : (Route.between place (place ++ way)).names = way := by
    rw [between_append, Route.names_eq_leading, leading,
      names_toBytes filled fun name own => (proper name own).plain]
    exact List.filter_eq_self.mpr fun name own => (proper name own).leads
  have forward : Name.up ∉ way := fun own => (proper _ own).notUp rfl
  refine ⟨?_, found⟩
  rw [place_of_locate locates, origin_between filled proper, names, follow_of_no_up forward]

/-- Taking candidates away, as far as that succeeds, touches no marker. -/
theorem Anchored.evict_spared (anchored : Anchored root place tree) {files : List Candidate}
    (known : ∀ file ∈ files, place.isAbove file.path = true ∧ isMarker place file.path = false ∧
      ∀ name ∈ file.path, Proper name) :
    Spared root place tree (evict tree place files).1 := by
  induction files generalizing tree with
  | nil => exact anchored.spared
  | cons file rest ih =>
      have others := fun other member => known other (List.mem_cons_of_mem file member)
      rw [evict]
      split
      · rename_i removed removes
        obtain ⟨above, unmarked, proper⟩ := known file List.mem_cons_self
        obtain ⟨path, content, accessed, modified, there, rfl⟩ := of_removeFile removes
        obtain ⟨⟨way, whole⟩, longer⟩ := isAbove_iff.mp above
        have filled : way ≠ [] := by
          rintro rfl
          rw [List.append_nil] at whole
          exact absurd longer (by rw [whole]; exact Nat.lt_irrefl _)
        rw [← whole] at there proper unmarked
        obtain ⟨rfl, found⟩ := place_of_arrive_between filled
          (fun name own => proper name (List.mem_append_right _ own)) there
        have gone : Replaced tree _ (place ++ way) none := replaced_without
          (List.append_ne_nil_of_right_ne_nil _ filled) (isDirectory_of_find?_file found)
        have other : timePlace place ≠ place ++ way := by
          intro same
          rw [← same, isMarker_timePlace] at unmarked
          cases unmarked
        have first := (anchored.replaced gone (anchored.regular.listed.without _) fun left =>
          absurd rfl left).spared_of_replaced gone other
        exact first.trans (ih first.anchored others)
      · exact ih anchored others

theorem Anchored.prune_spared (anchored : Anchored root place tree)
    (free : tree.isDirectory (timePlace place) = false) :
    Spared root place tree (prune tree place) := by
  constructor
  · apply anchored.change (regular_prune anchored.regular place)
    intro path low directory
    rw [isDirectory, find?_prune anchored.regular, if_neg]
    · exact directory
    · rintro ⟨above, -⟩
      rw [above] at low
      cases low
  · rw [find?_prune anchored.regular, if_neg]
    rintro ⟨-, directory, -⟩
    rw [directory] at free
    cases free

theorem Spared.free (spared : Spared root place tree next)
    (free : tree.isDirectory (timePlace place) = false) :
    next.isDirectory (timePlace place) = false := by
  rw [isDirectory, spared.kept]
  exact free

theorem Anchored.cleanPlace_spared (anchored : Anchored root place tree)
    (free : tree.isDirectory (timePlace place) = false) (settings : DiskSettings) :
    Spared root place tree (cleanPlace tree place settings).tree := by
  rcases cleanPlace_sweeps anchored.regular place settings with same | ⟨chosen, start, swept⟩
  · rw [same]
    exact anchored.spared
  · have evicted := anchored.evict_spared fun file member => by
      obtain ⟨above, unmarked, own⟩ := of_mem_candidates anchored.regular
        (known_of_start start file member)
      obtain ⟨content, accessed, modified, found⟩ := isFile_iff.mp own
      exact ⟨above, unmarked, anchored.regular.of_find? found⟩
    rw [swept]
    exact evicted.trans (evicted.anchored.prune_spared (evicted.free free))

/-- What a pass that needs the lock does to the marker: if it runs, the marker tells when the next one
comes, and otherwise it stays. -/
theorem Anchored.cleanLocked (anchored : Anchored root place tree)
    (reaches : Reaches root Key.cleanTimeName) (free : tree.isDirectory (timePlace place) = false)
    (settings : DiskSettings) (now : Millis) (present : FileTime) :
    (∃ report, (cleanLocked tree root settings now present).2.1 = .ran report ∧
        Anchored root place (cleanLocked tree root settings now present).1 ∧
        Marked place (cleanLocked tree root settings now present).1
          (now + settings.cleanInterval.toMillis)) ∨
      (∀ report, (cleanLocked tree root settings now present).2.1 ≠ .ran report) ∧
        Spared root place tree (cleanLocked tree root settings now present).1 := by
  have locked := anchored.acquire_spared 0 settings.lockTimeout
  rw [Cleaning.cleanLocked]
  dsimp only
  split
  · exact .inr ⟨fun report => by simp, locked⟩
  · exact .inr ⟨fun report => by simp, locked⟩
  · left
    obtain ⟨marked, told⟩ := locked.anchored.persist reaches (locked.free free)
      (now + settings.cleanInterval.toMillis) present
    generalize Cleaning.persist _ root (now + settings.cleanInterval.toMillis) present = persisted
      at marked told ⊢
    have open_marker : persisted.1.isDirectory (timePlace place) = false := by
      obtain ⟨accessed, modified, found⟩ := told
      exact isDirectory_of_find?_file found
    have cleaned := marked.cleanPlace_spared open_marker settings
    have passes : clean persisted.1 root settings = cleanPlace persisted.1 place settings := by
      rw [clean, marked.reached]
    have released := cleaned.trans cleaned.anchored.release_spared
    rw [← passes] at released
    refine ⟨_, rfl, released.anchored, ?_⟩
    obtain ⟨accessed, modified, found⟩ := told
    exact ⟨accessed, modified, released.kept.trans found⟩

/-! ### What the operations of a store do -/

def Reported (root : Route) (place : FilePath) (tree : FileTree) (before : DiskStore) (time : Millis)
    (after : DiskStore) (next : FileTree) : Prop :=
  after.cleanups = before.cleanups + 1 ∧ Anchored root place next ∧ Marked place next time ∨
    after.cleanups = before.cleanups ∧ Spared root place tree next

theorem Anchored.cleanNow (anchored : Anchored store.root place tree)
    (reaches : Reaches store.root Key.cleanTimeName)
    (free : tree.isDirectory (timePlace place) = false) (now : Millis) (present : FileTime) :
    Reported store.root place tree store (now + store.settings.cleanInterval.toMillis)
      (store.cleanNow tree now present).store (store.cleanNow tree now present).tree := by
  have locked := anchored.cleanLocked reaches free store.settings now present
  rw [DiskStore.cleanNow]
  generalize Cleaning.cleanLocked tree store.root store.settings now present = outcome at locked ⊢
  obtain ⟨next, result, signals⟩ := outcome
  rcases locked with ⟨report, rfl, after, marked⟩ | ⟨other, spared⟩
  · exact .inl ⟨rfl, after, marked⟩
  · cases result with
    | failed cause => exact .inr ⟨rfl, spared⟩
    | skipped => exact .inr ⟨rfl, spared⟩
    | ran report => exact absurd rfl (other report)

/-- A scheduled pass runs only once the time has come that the marker tells, if that is within an
interval. -/
theorem Anchored.checkClean (anchored : Anchored store.root place tree)
    (reaches : Reaches store.root Key.cleanTimeName)
    (free : tree.isDirectory (timePlace place) = false) (now : Millis) (present : FileTime) :
    Reported store.root place tree store (now + store.settings.cleanInterval.toMillis)
        (store.checkClean tree now present).1 (store.checkClean tree now present).2.1 ∧
      ((store.checkClean tree now present).1.cleanups ≠ store.cleanups → ∀ time,
        Marked place tree time → time ≤ now + store.settings.cleanInterval.toMillis →
          time ≤ now) := by
  rw [DiskStore.checkClean]
  dsimp only
  split
  · rename_i due
    have ran (later : Millis) :=
      @Anchored.cleanNow { store with nextClean := later } place tree anchored reaches free now present
    refine ⟨ran _, fun _ time marked within => ?_⟩
    by_contra ahead
    have told := marked.persisted? anchored reaches
    rw [told, schedule_of_ahead (Int.not_le.mp ahead) within] at due
    cases due
  · exact ⟨.inr ⟨rfl, anchored.spared⟩, fun changed => absurd rfl changed⟩

theorem cleanups_put (store : DiskStore) (tree : FileTree) (key : String) (content : Bytes)
    (now : Millis) (present : FileTime) :
    (store.put tree key content now present).store.cleanups = store.cleanups := by
  rw [put]
  split
  · rfl
  · dsimp only
    split <;> rfl

theorem Anchored.putAndCheck (anchored : Anchored store.root place tree)
    (reaches : Reaches store.root Key.cleanTimeName)
    (free : tree.isDirectory (timePlace place) = false) (key : String) (content : Bytes)
    (now : Millis) (present : FileTime) :
    Reported store.root place tree store (now + store.settings.cleanInterval.toMillis)
        (store.putAndCheck tree key content now present).1
        (store.putAndCheck tree key content now present).2 ∧
      ((store.putAndCheck tree key content now present).1.cleanups ≠ store.cleanups → ∀ time,
        Marked place tree time → time ≤ now + store.settings.cleanInterval.toMillis →
          time ≤ now) := by
  have written := anchored.put_spared key content now present
  have counted := cleanups_put store tree key content now present
  obtain ⟨-, settings, same⟩ := put_kept store tree key content now present
  rw [DiskStore.putAndCheck]
  dsimp only
  generalize store.put tree key content now present = outcome at written counted settings same ⊢
  split
  · rw [← same] at written reaches
    obtain ⟨reported, come⟩ :=
      written.anchored.checkClean reaches (written.free free) now present
    rw [counted, settings] at come
    constructor
    · rw [Reported, counted, settings, same] at reported
      rw [same] at written
      rcases reported with ran | ⟨idle, spared⟩
      · exact .inl ran
      · exact .inr ⟨idle, written.trans spared⟩
    · intro changed time marked
      apply come changed
      obtain ⟨accessed, modified, found⟩ := marked
      exact ⟨accessed, modified, written.kept.trans found⟩
  · exact ⟨.inr ⟨counted, written⟩, fun changed => absurd counted changed⟩

end DiskStore

/-! ### Stores that share a root -/

structure PassRecord where
  time : Millis
  scheduled : Bool

/-- Stores with one root, the disk that it is on, and the passes that have run, first to last. -/
structure Fleet where
  stores : List DiskStore
  tree : FileTree
  passes : List PassRecord := []

namespace Fleet
open DiskStore FilePath FileTree Cleaning

/-- A put to a store with the check after it, a pass at once, one more store, or anything that others do
to the disk. -/
inductive Event where
  | put (index : Nat) (key : String) (content : Bytes)
  | clean (index : Nat)
  | opens (name : String) (settings : DiskSettings) (random : Nat)
  | others (change : FileTree → FileTree)

structure Moment where
  now : Millis
  present : FileTime
  event : Event

/-- What an operation of a store led to; a pass ran if the store has counted it. -/
def note (fleet : Fleet) (index : Nat) (before after : DiskStore) (tree : FileTree)
    (pass : PassRecord) : Fleet where
  stores := fleet.stores.set index after
  tree := tree
  passes := if after.cleanups = before.cleanups then fleet.passes else fleet.passes ++ [pass]

def step (root : Route) (fleet : Fleet) (moment : Moment) : Fleet :=
  match moment.event with
  | .put index key content =>
      match fleet.stores[index]? with
      | none => fleet
      | some store =>
          let (after, tree) := store.putAndCheck fleet.tree key content moment.now moment.present
          fleet.note index store after tree ⟨moment.now, true⟩
  | .clean index =>
      match fleet.stores[index]? with
      | none => fleet
      | some store =>
          let cleaned := store.cleanNow fleet.tree moment.now moment.present
          fleet.note index store cleaned.store cleaned.tree ⟨moment.now, false⟩
  | .opens name settings random =>
      match openAt fleet.tree name root settings (firstClean settings moment.now random) with
      | .error _ => fleet
      | .ok (tree, store) => { fleet with stores := fleet.stores ++ [store], tree }
  | .others change => { fleet with tree := change fleet.tree }

def run (root : Route) (fleet : Fleet) (moments : List Moment) : Fleet :=
  moments.foldl (step root) fleet

/-! ### One event -/

variable {root : Route} {place : FilePath} {interval : Millis} {fleet : Fleet}

/-- A change by others that leaves the root where it is and the marker of the time alone. -/
def Spares (root : Route) (place : FilePath) (change : FileTree → FileTree) : Prop :=
  ∀ tree, Anchored root place tree → Spared root place tree (change tree)

theorem spares_get (store : DiskStore) (place : FilePath) (key : String) (present : FileTime) :
    Spares store.root place fun tree => (store.get tree key present).1 :=
  fun _ anchored => anchored.get_spared key present

theorem spares_delete (store : DiskStore) (place : FilePath) (key : String) :
    Spares store.root place fun tree => (store.delete tree key).1 :=
  fun _ anchored => anchored.delete_spared key

/-- Another process tries to take the lock, so that the stores may find it held. -/
theorem spares_acquire (root : Route) (place : FilePath) (now : FileTime) (timeout : Span) :
    Spares root place fun tree => (Lock.acquire tree (cleanLockPath root) now timeout).tree :=
  fun _ anchored => anchored.acquire_spared now timeout

theorem spares_release (root : Route) (place : FilePath) :
    Spares root place fun tree => (Lock.release tree (cleanLockPath root)).1 :=
  fun _ anchored => anchored.release_spared

/-- Stores with one root and one interval, on a disk where the marker of the time can be written. -/
structure Sharing (root : Route) (place : FilePath) (interval : Millis) (fleet : Fleet) : Prop where
  anchored : Anchored root place fleet.tree
  free : fleet.tree.isDirectory (timePlace place) = false
  stores : ∀ store ∈ fleet.stores,
    store.root = root ∧ store.settings.cleanInterval.toMillis = interval

/-- Whether an event keeps to the interval, and leaves the marker to the stores. -/
def Event.Fits (root : Route) (place : FilePath) (interval : Millis) : Event → Prop
  | .put .. | .clean _ => True
  | .opens _ settings _ => settings.cleanInterval.toMillis = interval
  | .others change => Spares root place change

/-- Whether the marker tells when an interval after the last pass is over, and the passes that were
scheduled kept that distance. -/
structure Spaced (place : FilePath) (interval : Millis) (fleet : Fleet) : Prop where
  marked : ∀ last, fleet.passes.getLast? = some last →
    Marked place fleet.tree (last.time + interval)
  latest : ∀ last, fleet.passes.getLast? = some last → ∀ pass ∈ fleet.passes, pass.time ≤ last.time
  apart : fleet.passes.Pairwise fun earlier later =>
    later.scheduled = true → earlier.time.value + interval.value ≤ later.time.value

theorem Sharing.of_spared (sharing : Sharing root place interval fleet) {stores : List DiskStore}
    {tree : FileTree} {passes : List PassRecord} (spared : Spared root place fleet.tree tree)
    (alike : ∀ store ∈ stores, store.root = root ∧ store.settings.cleanInterval.toMillis = interval) :
    Sharing root place interval ⟨stores, tree, passes⟩ :=
  ⟨spared.anchored, spared.free sharing.free, alike⟩

theorem Spaced.of_spared (spaced : Spaced place interval fleet) {tree : FileTree}
    (spared : Spared root place fleet.tree tree) (stores : List DiskStore) :
    Spaced place interval ⟨stores, tree, fleet.passes⟩ where
  marked := by
    intro last ends
    obtain ⟨accessed, modified, found⟩ := spaced.marked last ends
    exact ⟨accessed, modified, spared.kept.trans found⟩
  latest := spaced.latest
  apart := spaced.apart

/-- A further pass, which was not scheduled or came an interval after the last one. -/
theorem Spaced.pass (spaced : Spaced place interval fleet) {tree : FileTree} {pass : PassRecord}
    (later : ∀ earlier ∈ fleet.passes, earlier.time ≤ pass.time)
    (marked : Marked place tree (pass.time + interval))
    (due : pass.scheduled = true → ∀ last, fleet.passes.getLast? = some last →
      last.time.value + interval.value ≤ pass.time.value) (stores : List DiskStore) :
    Spaced place interval ⟨stores, tree, fleet.passes ++ [pass]⟩ where
  marked := by
    intro last ends
    rw [List.getLast?_concat] at ends
    cases ends
    exact marked
  latest := by
    intro last ends
    rw [List.getLast?_concat] at ends
    cases ends
    intro earlier member
    rcases List.mem_append.mp member with early | own
    · exact later earlier early
    · rw [List.mem_singleton.mp own]
      exact Int.le_refl _
  apart := by
    rw [List.pairwise_append]
    refine ⟨spaced.apart, List.pairwise_singleton _ _, fun earlier early last own scheduled => ?_⟩
    rw [List.mem_singleton.mp own] at scheduled ⊢
    obtain ⟨front, final, split⟩ := (List.eq_nil_or_concat fleet.passes).resolve_left
      (List.ne_nil_of_mem early)
    have ends : fleet.passes.getLast? = some final := by
      rw [split, List.concat_eq_append, List.getLast?_concat]
    have order : earlier.time.value ≤ final.time.value := spaced.latest final ends earlier early
    have distance := due scheduled final ends
    omega

theorem mem_set {stores : List DiskStore} {index : Nat} {after store : DiskStore}
    {property : DiskStore → Prop} (each : ∀ store ∈ stores, property store) (own : property after)
    (member : store ∈ stores.set index after) : property store := by
  rcases List.mem_or_eq_of_mem_set member with early | rfl
  · exact each store early
  · exact own

/-- What an operation of a store that was noted led to. -/
theorem Sharing.note (sharing : Sharing root place interval fleet)
    (spaced : Spaced place interval fleet) {index : Nat} {before after : DiskStore}
    {tree : FileTree} {pass : PassRecord}
    (same : after.root = root ∧ after.settings.cleanInterval.toMillis = interval)
    (reported : Reported root place fleet.tree before (pass.time + interval) after tree)
    (later : ∀ earlier ∈ fleet.passes, earlier.time ≤ pass.time)
    (due : after.cleanups ≠ before.cleanups → pass.scheduled = true → ∀ last,
      fleet.passes.getLast? = some last → last.time.value + interval.value ≤ pass.time.value) :
    Sharing root place interval (fleet.note index before after tree pass) ∧
      Spaced place interval (fleet.note index before after tree pass) := by
  have alike : ∀ store ∈ fleet.stores.set index after,
      store.root = root ∧ store.settings.cleanInterval.toMillis = interval :=
    fun store member => mem_set sharing.stores same member
  rw [Fleet.note]
  rcases reported with ⟨counted, anchored, marked⟩ | ⟨idle, spared⟩
  · have changed : after.cleanups ≠ before.cleanups := by omega
    rw [if_neg changed]
    refine ⟨⟨anchored, ?_, alike⟩, spaced.pass later marked (due changed) _⟩
    obtain ⟨accessed, modified, found⟩ := marked
    exact isDirectory_of_find?_file found
  · rw [if_pos idle]
    exact ⟨sharing.of_spared spared alike, spaced.of_spared spared _⟩

theorem step_keeps (sharing : Sharing root place interval fleet)
    (spaced : Spaced place interval fleet) (reaches : Reaches root Key.cleanTimeName) (moment : Moment)
    (fits : moment.event.Fits root place interval)
    (later : ∀ pass ∈ fleet.passes, pass.time ≤ moment.now)
    (early : ∀ pass ∈ fleet.passes, pass.time.value + interval.value < 0x7FFFFFFFFFFFFFFF) :
    Sharing root place interval (fleet.step root moment) ∧
      Spaced place interval (fleet.step root moment) := by
  obtain ⟨now, present, event⟩ := moment
  rw [step]
  cases event with
  | put index key content =>
      dsimp only
      split
      · exact ⟨sharing, spaced⟩
      · rename_i store placed
        obtain ⟨rfl, same⟩ := sharing.stores store (List.mem_of_getElem? placed)
        obtain ⟨settings, root, -⟩ := putAndCheck_kept store fleet.tree key content now present
        obtain ⟨reported, come⟩ :=
          sharing.anchored.putAndCheck reaches sharing.free key content now present
        rw [same] at reported come
        refine sharing.note spaced ⟨root, by rw [settings, same]⟩ reported later ?_
        intro changed _ last ends
        have member := List.mem_of_getLast? ends
        have order : last.time ≤ now := later last member
        have passed : last.time + interval ≤ now :=
          come changed _ (spaced.marked last ends) (Millis.add_le_add order)
        have bound := early last member
        have positive := Span.toMillis_nonneg store.settings.cleanInterval
        have low := last.time.lower
        change (last.time + interval).value ≤ now.value at passed
        change last.time.value + interval.value ≤ now.value
        rw [Millis.add_value] at passed
        rw [same] at positive
        omega
  | clean index =>
      dsimp only
      split
      · exact ⟨sharing, spaced⟩
      · rename_i store placed
        obtain ⟨rfl, same⟩ := sharing.stores store (List.mem_of_getElem? placed)
        obtain ⟨-, settings, root⟩ := cleanNow_kept store fleet.tree now present
        have reported := sharing.anchored.cleanNow reaches sharing.free now present
        rw [same] at reported
        exact sharing.note spaced ⟨root, by rw [settings, same]⟩ reported later
          fun _ scheduled => Bool.noConfusion scheduled
  | opens name settings random =>
      dsimp only
      split
      · exact ⟨sharing, spaced⟩
      · rename_i tree store opens
        obtain ⟨spared, rfl⟩ := sharing.anchored.openAt_spared opens
        refine ⟨sharing.of_spared spared fun store member => ?_, spaced.of_spared spared _⟩
        rcases List.mem_append.mp member with known | own
        · exact sharing.stores store known
        · rw [List.mem_singleton.mp own]
          exact ⟨rfl, fits⟩
  | others change =>
      have spared := fits fleet.tree sharing.anchored
      exact ⟨sharing.of_spared spared sharing.stores, spaced.of_spared spared _⟩

theorem mem_passes_step (root : Route) (fleet : Fleet) (moment : Moment) {pass : PassRecord}
    (member : pass ∈ (fleet.step root moment).passes) :
    pass ∈ fleet.passes ∨ pass.time = moment.now := by
  have noted {index : Nat} {before after : DiskStore} {tree : FileTree} {own : PassRecord}
      (time : own.time = moment.now)
      (inside : pass ∈ (fleet.note index before after tree own).passes) :
      pass ∈ fleet.passes ∨ pass.time = moment.now := by
    rw [note] at inside
    dsimp only at inside
    split at inside
    · exact .inl inside
    · rcases List.mem_append.mp inside with known | added
      · exact .inl known
      · rw [List.mem_singleton.mp added]
        exact .inr time
  rw [step] at member
  split at member
  · split at member
    · exact .inl member
    · exact noted rfl member
  · split at member
    · exact .inl member
    · exact noted rfl member
  · split at member <;> exact .inl member
  · exact .inl member

/-! ### Runs -/

variable {moments : List Moment}

theorem run_keeps (sharing : Sharing root place interval fleet) (fresh : fleet.passes = [])
    (reaches : Reaches root Key.cleanTimeName)
    (clock : moments.Pairwise fun earlier later => earlier.now ≤ later.now)
    (early : ∀ moment ∈ moments, moment.now.value + interval.value < 0x7FFFFFFFFFFFFFFF)
    (fits : ∀ moment ∈ moments, moment.event.Fits root place interval) :
    Sharing root place interval (fleet.run root moments) ∧
      Spaced place interval (fleet.run root moments) ∧
      ∀ pass ∈ (fleet.run root moments).passes, ∃ moment ∈ moments, pass.time = moment.now := by
  -- From the last moment back: the passes known to it ran at earlier moments, which the clock orders.
  induction moments using List.reverseRecOn with
  | nil =>
      have none {pass : PassRecord} (member : pass ∈ fleet.passes) : False := by
        rw [fresh] at member
        exact List.not_mem_nil member
      refine ⟨sharing, ⟨?_, ?_, ?_⟩, fun pass member => (none member).elim⟩
      · exact fun last ends => (none (List.mem_of_getLast? ends)).elim
      · exact fun last ends => (none (List.mem_of_getLast? ends)).elim
      · change fleet.passes.Pairwise _
        rw [fresh]
        exact List.Pairwise.nil
  | append_singleton front moment ih =>
      rw [List.pairwise_append] at clock
      obtain ⟨before, -, order⟩ := clock
      have own : moment ∈ front ++ [moment] := List.mem_append_right _ (List.mem_singleton_self _)
      obtain ⟨shared, apart, times⟩ := ih before
        (fun other member => early other (List.mem_append_left _ member))
        (fun other member => fits other (List.mem_append_left _ member))
      rw [run, List.foldl_concat, ← run]
      have stepped := step_keeps shared apart reaches moment (fits moment own)
        (fun pass member => by
          obtain ⟨known, inside, same⟩ := times pass member
          rw [same]
          exact order known inside moment (List.mem_singleton_self _))
        (fun pass member => by
          obtain ⟨known, inside, same⟩ := times pass member
          rw [same]
          exact early known (List.mem_append_left _ inside))
      refine ⟨stepped.1, stepped.2, fun pass member => ?_⟩
      rcases mem_passes_step root _ moment member with known | now
      · obtain ⟨other, inside, same⟩ := times pass known
        exact ⟨other, List.mem_append_left _ inside, same⟩
      · exact ⟨moment, own, now⟩

/-- After any pass, no scheduled pass of any of the stores runs before a whole interval is over. -/
theorem passes_apart (sharing : Sharing root place interval fleet) (fresh : fleet.passes = [])
    (reaches : Reaches root Key.cleanTimeName)
    (clock : moments.Pairwise fun earlier later => earlier.now ≤ later.now)
    (early : ∀ moment ∈ moments, moment.now.value + interval.value < 0x7FFFFFFFFFFFFFFF)
    (fits : ∀ moment ∈ moments, moment.event.Fits root place interval) :
    (fleet.run root moments).passes.Pairwise fun earlier later =>
      later.scheduled = true → earlier.time.value + interval.value ≤ later.time.value :=
  (run_keeps sharing fresh reaches clock early fits).2.1.apart

private def sharedTree : FileTree := { entries := [([Text.bytes "shared"], .directory 0)] }

private def sharedRoot : Route := ⟨Text.bytes "/shared", []⟩

private def sharedPlace : FilePath := [Text.bytes "shared"]

private def hour : Millis := (Span.ofSeconds 3600).toMillis

private def morning : List Moment :=
  [⟨0, 1, .opens "left" {} 0⟩, ⟨0, 2, .put 0 "a" [1, 2, 3]⟩, ⟨Millis.clamp 10, 3, .clean 0⟩,
    ⟨Millis.clamp 1000, 4, .opens "right" {} 0⟩, ⟨Millis.clamp 1000, 5, .put 1 "b" [4]⟩,
    ⟨Millis.clamp 2000, 6, .others fun tree =>
      (Lock.acquire tree (cleanLockPath sharedRoot) 0 (.ofSeconds 60)).tree⟩,
    ⟨Millis.clamp 3000, 7, .others fun tree => (Lock.release tree (cleanLockPath sharedRoot)).1⟩,
    ⟨Millis.clamp 3600010, 8, .put 1 "b" [5]⟩]

private theorem sharing_empty : Sharing sharedRoot sharedPlace hour ⟨[], sharedTree, []⟩ where
  anchored := by
    refine ⟨⟨?_, ?_, rooted_of_entries ?_, ?_⟩, ?_, ?_⟩ <;> decide +kernel
  free := by decide +kernel
  stores := fun store member => absurd member List.not_mem_nil

theorem passes_apart_of_two :
    ((⟨[], sharedTree, []⟩ : Fleet).run sharedRoot morning).passes.map (·.time.value) =
        [0, 10, 3600010] ∧
      ((⟨[], sharedTree, []⟩ : Fleet).run sharedRoot morning).passes.Pairwise fun earlier later =>
        later.scheduled = true → earlier.time.value + hour.value ≤ later.time.value := by
  refine ⟨by decide +kernel, passes_apart sharing_empty rfl ?_ ?_ ?_ ?_⟩
  · rw [Reaches]
    decide +kernel
  · decide +kernel
  · decide +kernel
  · simp only [morning, List.forall_mem_cons, Event.Fits]
    exact ⟨rfl, trivial, trivial, rfl, trivial, spares_acquire _ _ _ _, spares_release _ _, trivial,
      fun _ member => absurd member List.not_mem_nil⟩

end Fleet

end TieredCache
