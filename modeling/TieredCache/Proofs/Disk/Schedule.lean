import TieredCache.Layer.Stack

/-!
When the next clean check of a store comes. A store keeps the time of its next check and looks at the
marker file only once that time has come. Main statement: the time kept is never more than an interval
after the last check, so it is within an interval of a put unless the clock was set back since.
-/

namespace TieredCache

section

variable {now interval time : Millis}

theorem Millis.le_add_of_nonneg (later : 0 ≤ interval.value) : now ≤ now + interval := by
  have high := now.upper
  change now.value ≤ (now + interval).value
  rw [Millis.add_value]
  omega

theorem Millis.add_le_add {earlier : Millis} (order : earlier ≤ now) :
    earlier + interval ≤ now + interval := by
  change (earlier + interval).value ≤ (now + interval).value
  change earlier.value ≤ now.value at order
  rw [Millis.add_value, Millis.add_value]
  omega

theorem Span.toMillis_nonneg (span : Span) : 0 ≤ span.toMillis.value := by
  simp only [Span.toMillis, Millis.clamp]
  omega

namespace Cleaning

/-- Whatever the marker says, the next check is at most an interval away. -/
theorem schedule_next_le (persisted : Option Millis) (now interval : Millis) :
    (schedule persisted now interval).next ≤ now + interval := by
  cases persisted with
  | none => exact Int.le_refl _
  | some time =>
      rw [schedule]
      split
      · exact Int.le_refl _
      · rename_i later
        rw [Bool.or_eq_true, decide_eq_true_eq, not_or] at later
        exact Int.not_lt.mp later.1

/-- No pass is due before the time that the marker says. -/
theorem schedule_of_ahead (ahead : now < time) (within : time ≤ now + interval) :
    schedule (some time) now interval = ⟨false, time⟩ := by
  rw [schedule, if_neg]
  rw [Bool.or_eq_true, decide_eq_true_eq, decide_eq_true_eq, not_or]
  exact ⟨Int.not_lt.mpr within, Int.not_le.mpr ahead⟩

end Cleaning

namespace DiskStore
open Cleaning

variable {store : DiskStore} {tree : FileTree} {key : String} {content : Bytes} {present : FileTime}

def putAndCheck (store : DiskStore) (tree : FileTree) (key : String) (content : Bytes) (now : Millis)
    (present : FileTime) : DiskStore × FileTree :=
  let written := store.put tree key content now present
  if written.checks then
    let (checked, next, _) := written.store.checkClean written.tree now present
    (checked, next)
  else (written.store, written.tree)

/-- It is what a stack of layers does with a put to a store and with the checks after it. -/
theorem putAndCheck_of_stack {α : Type} {stack : Stack α} {index : Nat}
    (placed : stack.layer? index = some (.disk store)) (idle : stack.checks = []) (key : String)
    (content : Bytes) :
    (stack.put index key content).1.runChecks.layer? index =
        some (.disk (store.putAndCheck stack.tree key content stack.now stack.present).1) ∧
      (stack.put index key content).1.runChecks.tree =
        (store.putAndCheck stack.tree key content stack.now stack.present).2 := by
  have inside : index < stack.layers.length := (List.getElem?_eq_some_iff.mp placed).1
  rw [putAndCheck, Stack.put, placed]
  dsimp only
  generalize store.put stack.tree key content stack.now stack.present = written
  split
  · simp [Stack.runChecks, Stack.scheduleCheck, Stack.signal, Stack.setLayer, Stack.layer?, idle, inside]
  · simp [Stack.runChecks, Stack.signal, Stack.setLayer, Stack.layer?, idle, inside]

/-- What a pass leaves as it was in a store. -/
theorem cleanNow_kept (store : DiskStore) (tree : FileTree) (now : Millis) (present : FileTime) :
    (store.cleanNow tree now present).store.nextClean = store.nextClean ∧
      (store.cleanNow tree now present).store.settings = store.settings ∧
      (store.cleanNow tree now present).store.root = store.root := by
  rw [cleanNow]
  obtain ⟨next, result, signals⟩ := cleanLocked tree store.root store.settings now present
  cases result <;> exact ⟨rfl, rfl, rfl⟩

/-- After a check the next one comes when the schedule says. -/
theorem checkClean_kept (store : DiskStore) (tree : FileTree) (now : Millis) (present : FileTime) :
    (store.checkClean tree now present).1.nextClean =
        (schedule (persisted? tree store.root) now store.settings.cleanInterval.toMillis).next ∧
      (store.checkClean tree now present).1.settings = store.settings ∧
      (store.checkClean tree now present).1.root = store.root := by
  rw [checkClean]
  dsimp only
  split
  · exact cleanNow_kept _ tree now present
  · exact ⟨rfl, rfl, rfl⟩

theorem put_kept (store : DiskStore) (tree : FileTree) (key : String) (content : Bytes) (now : Millis)
    (present : FileTime) :
    (store.put tree key content now present).store.nextClean = store.nextClean ∧
      (store.put tree key content now present).store.settings = store.settings ∧
      (store.put tree key content now present).store.root = store.root := by
  rw [put]
  split
  · exact ⟨rfl, rfl, rfl⟩
  · dsimp only
    split <;> exact ⟨rfl, rfl, rfl⟩

/-- A put checks the schedule once the time kept has come, as long as the store is open. -/
theorem put_checks_iff (store : DiskStore) (tree : FileTree) (key : String) (content : Bytes)
    (now : Millis) (present : FileTime) :
    (store.put tree key content now present).checks = true ↔
      store.closed = false ∧ store.nextClean ≤ now := by
  rw [put]
  cases store.closed with
  | true => simp
  | false =>
      simp only [Bool.false_eq_true, if_false, true_and]
      split <;> exact decide_eq_true_iff

/-- A put leaves the time kept alone, or it sets the time by the schedule. -/
theorem putAndCheck_kept (store : DiskStore) (tree : FileTree) (key : String) (content : Bytes)
    (now : Millis) (present : FileTime) :
    (store.putAndCheck tree key content now present).1.settings = store.settings ∧
      (store.putAndCheck tree key content now present).1.root = store.root ∧
      if store.closed = false ∧ store.nextClean ≤ now then
        (store.putAndCheck tree key content now present).1.nextClean ≤
          now + store.settings.cleanInterval.toMillis
      else (store.putAndCheck tree key content now present).1.nextClean = store.nextClean := by
  obtain ⟨next, settings, root⟩ := put_kept store tree key content now present
  have due := put_checks_iff store tree key content now present
  rw [putAndCheck]
  dsimp only
  split
  · rename_i checks
    rw [if_pos (due.mp checks)]
    obtain ⟨scheduled, same, place⟩ := checkClean_kept (store.put tree key content now present).store
      (store.put tree key content now present).tree now present
    refine ⟨same.trans settings, place.trans root, ?_⟩
    rw [scheduled, settings]
    exact schedule_next_le _ now _
  · rename_i waits
    rw [if_neg (fun early => waits (due.mpr early))]
    exact ⟨settings, root, next⟩

/-- The first check of a store comes within an interval after it was opened. -/
theorem firstClean_le {random : Nat} (bits : random < 0x10000000000000000) (settings : DiskSettings)
    (opened : Millis) :
    firstClean settings opened random ≤ opened + settings.cleanInterval.toMillis := by
  have positive := Span.toMillis_nonneg settings.cleanInterval
  have high := settings.cleanInterval.toMillis.upper
  change (firstClean settings opened random).value ≤ (opened + settings.cleanInterval.toMillis).value
  rw [firstClean, Millis.add_value, Millis.add_value, Millis.clamp]
  generalize settings.cleanInterval.toMillis.value = span at positive high ⊢
  have least : 0 ≤ (random : Int) * span / 0x10000000000000000 :=
    Int.ediv_nonneg (Int.mul_nonneg (Int.natCast_nonneg random) positive) (by decide)
  have most : (random : Int) * span / 0x10000000000000000 ≤ span := by
    apply Int.ediv_le_of_le_mul (by decide)
    rw [Int.mul_comm span]
    exact Int.mul_le_mul_of_nonneg_right (Int.ofNat_le.mpr (Nat.le_of_lt bits)) positive
  dsimp only
  omega

end DiskStore

end

/-! ### Runs under a clock that may jump -/

/-- A store, the disk that it is on, and when it was opened or last looked at the schedule. -/
structure Watch where
  store : DiskStore
  tree : FileTree
  checked : Millis

namespace Watch
open DiskStore

/-- What may happen to a store: puts under any clock, passes at once, a shutdown, and anything that
others do to the disk. -/
inductive Event where
  | put (key : String) (content : Bytes) (now : Millis) (present : FileTime)
  | clean (now : Millis) (present : FileTime)
  | shutDown
  | others (tree : FileTree)

def step (watch : Watch) : Event → Watch
  | .put key content now present =>
      let (store, tree) := watch.store.putAndCheck watch.tree key content now present
      let checks := (watch.store.put watch.tree key content now present).checks
      ⟨store, tree, if checks then now else watch.checked⟩
  | .clean now present =>
      let cleaned := watch.store.cleanNow watch.tree now present
      { watch with store := cleaned.store, tree := cleaned.tree }
  | .shutDown => { watch with store := watch.store.shutDown }
  | .others tree => { watch with tree }

def run (watch : Watch) (events : List Event) : Watch := events.foldl step watch

def interval (watch : Watch) : Millis := watch.store.settings.cleanInterval.toMillis

def Bounded (watch : Watch) : Prop := watch.store.nextClean ≤ watch.checked + watch.interval

variable {watch : Watch}

theorem step_interval (watch : Watch) (event : Event) : (watch.step event).interval = watch.interval := by
  cases event with
  | put key content now present =>
      exact congrArg (·.cleanInterval.toMillis)
        (putAndCheck_kept watch.store watch.tree key content now present).1
  | clean now present =>
      exact congrArg (·.cleanInterval.toMillis) (cleanNow_kept watch.store watch.tree now present).2.1
  | shutDown => rfl
  | others tree => rfl

theorem Bounded.step (bounded : watch.Bounded) (event : Event) : (watch.step event).Bounded := by
  rw [Bounded, step_interval]
  cases event with
  | put key content now present =>
      have kept := (putAndCheck_kept watch.store watch.tree key content now present).2.2
      have due := put_checks_iff watch.store watch.tree key content now present
      rw [Watch.step]
      dsimp only
      split at kept
      · rename_i open_due
        rw [if_pos (due.mpr open_due)]
        exact kept
      · rename_i waits
        rw [if_neg (fun checks => waits (due.mp checks)), kept]
        exact bounded
  | clean now present =>
      have kept := (cleanNow_kept watch.store watch.tree now present).1
      rw [Watch.step, kept]
      exact bounded
  | shutDown => exact bounded
  | others tree => exact bounded

theorem Bounded.run (bounded : watch.Bounded) (events : List Event) : (watch.run events).Bounded := by
  induction events generalizing watch with
  | nil => exact bounded
  | cons event rest ih => exact ih (bounded.step event)

variable {tree rooted : FileTree} {name : String} {root : Route} {settings : DiskSettings}
  {opened : Millis} {random : Nat} {store : DiskStore}

theorem openAt_kept {next : Millis} (opens : openAt tree name root settings next = .ok (rooted, store)) :
    store = { name, root, settings, nextClean := next } := by
  rw [openAt] at opens
  cases makes : tree.makeDirectories root with
  | error cause =>
      rw [makes] at opens
      cases opens
  | ok made =>
      rw [makes] at opens
      cases opens
      rfl

theorem run_interval (watch : Watch) (events : List Event) :
    (watch.run events).interval = watch.interval := by
  induction events generalizing watch with
  | nil => rfl
  | cons event rest ih => exact (ih (watch.step event)).trans (step_interval watch event)

/-- In every run the next check comes within an interval after the last one. After a put it comes
within an interval exactly if that was so before, and it is so unless the clock was set back since the
last check. -/
theorem nextClean_after_put (bits : random < 0x10000000000000000)
    (opens : openAt tree name root settings (firstClean settings opened random) = .ok (rooted, store))
    (events : List Event) (key : String) (content : Bytes) (now : Millis) (present : FileTime) :
    let before := run ⟨store, rooted, opened⟩ events
    let after := before.step (.put key content now present)
    let interval := settings.cleanInterval.toMillis
    (after.store.nextClean ≤ now + interval ↔ before.store.nextClean ≤ now + interval) ∧
      (before.checked ≤ now → after.store.nextClean ≤ now + interval) ∧
      after.store.nextClean ≤ after.checked + interval := by
  intro before after interval
  have first : Bounded ⟨store, rooted, opened⟩ := by
    rw [openAt_kept opens]
    exact firstClean_le bits settings opened
  have bounded := first.run events
  have same : before.interval = interval := by
    rw [run_interval, Watch.interval, openAt_kept opens]
  have latest := bounded.step (.put key content now present)
  rw [Bounded, step_interval] at latest
  rw [Bounded] at bounded
  change before.store.nextClean ≤ before.checked + before.interval at bounded
  change after.store.nextClean ≤ after.checked + before.interval at latest
  have positive : 0 ≤ interval.value := Span.toMillis_nonneg _
  have kept := (putAndCheck_kept before.store before.tree key content now present).2.2
  change if _ then after.store.nextClean ≤ now + before.interval
    else after.store.nextClean = before.store.nextClean at kept
  rw [same] at bounded latest kept
  have agree : after.store.nextClean ≤ now + interval ↔ before.store.nextClean ≤ now + interval := by
    split at kept
    · rename_i due
      exact ⟨fun _ => Int.le_trans due.2 (Millis.le_add_of_nonneg positive), fun _ => kept⟩
    · rw [kept]
  refine ⟨agree, fun order => agree.mpr ?_, latest⟩
  exact Int.le_trans bounded (Millis.add_le_add order)

private def emptyRoot : FileTree := { entries := [([Text.bytes "cache"], .directory 0)] }

private def noon : Millis := Millis.clamp 1700000000000

private def hourly : DiskStore where
  name := "disk"
  root := ⟨Text.bytes "/cache", []⟩
  settings := {}
  nextClean := noon

private theorem opens_hourly :
    openAt emptyRoot "disk" hourly.root {} (firstClean {} noon 0) = .ok (emptyRoot, hourly) := by
  rfl

private def cleaned : Watch := run ⟨hourly, emptyRoot, noon⟩ [.put "a" [1] noon 10]

/-- While the clock goes on, the bound holds. -/
theorem nextClean_after_put_later : noon ≤ noon + Millis.clamp 5000 ∧
    (cleaned.step (.put "a" [2] (noon + Millis.clamp 5000) 20)).store.nextClean ≤
      noon + Millis.clamp 5000 + hourly.settings.cleanInterval.toMillis := by
  have order : noon ≤ noon + Millis.clamp 5000 := by decide
  have bound := nextClean_after_put (by decide) opens_hourly [.put "a" [1] noon 10] "a" [2]
    (noon + Millis.clamp 5000) 20
  have before : cleaned.checked = noon := by rfl
  exact ⟨order, bound.2.1 (before ▸ order)⟩

/-- The clock is set back by three years, and the next put leaves the check as far ahead. -/
theorem nextClean_after_setting_back : let early := Millis.clamp 1600000000000
    let after := cleaned.step (.put "a" [2] early 20)
    after.store.nextClean.value = 1700003600000 ∧
      ¬after.store.nextClean ≤ early + hourly.settings.cleanInterval.toMillis := by
  decide +kernel

end Watch

end TieredCache
