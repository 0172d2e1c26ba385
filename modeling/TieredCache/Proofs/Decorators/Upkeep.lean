import TieredCache.Proofs.Decorators.Closing

/-!
What happens to a stack of decorators while nobody waits for an answer to come: writes, clean checks and
what is settled between calls. All of it leaves the layers as they are, but for the entries at the bottom,
for counts and for the keys that are to be delayed, and nothing that is held depends on those.
-/

namespace TieredCache

variable {α : Type}

def Layer.bare : Layer α → Layer α
  | .memory _ | .disk _ => .memory { name := "", capacity := 0 }
  | .counted inner _ => .counted inner {}
  | .delayed inner delay => .delayed inner { delay with delayed := [] }
  | layer => layer

namespace Layer

theorem isBottom_bare (layer : Layer α) : layer.bare.isBottom = layer.isBottom := by
  cases layer <;> rfl

theorem inner?_bare (layer : Layer α) : layer.bare.inner? = layer.inner? := by
  cases layer <;> rfl

theorem isHeld_bare (layer : Layer α) : layer.bare.isHeld = layer.isHeld := by
  cases layer <;> rfl

theorem roots_bare (layer : Layer α) : layer.bare.roots = layer.roots := by
  cases layer <;> rfl

theorem fresh_bare (layer : Layer α) : layer.bare.fresh = layer.fresh := by
  cases layer <;> rfl

theorem toll_bare (layer : Layer α) : layer.bare.toll = layer.toll := by
  cases layer <;> rfl

theorem regular_bare (layer : Layer α) : layer.bare.Regular ↔ layer.Regular := by
  cases layer <;> rfl

theorem awaits_bare (layer : Layer α) (number : Nat) :
    layer.bare.Awaits number ↔ layer.Awaits number := by
  cases layer <;> rfl

theorem visited_bare (layer : Layer α) (number : Nat) :
    layer.bare.Visited number ↔ layer.Visited number := by
  cases layer <;> rfl

theorem sound_bare (terms : Terms α) (book : Book α) (index : Nat) (layer : Layer α) :
    layer.bare.Sound terms book index ↔ layer.Sound terms book index := by
  cases layer <;> rfl

end Layer

namespace Stack

variable {stack next last : Stack α} {index : Nat} {layer before after : Layer α}

structure Alongside (stack next : Stack α) : Prop where
  bare : next.layers.map Layer.bare = stack.layers.map Layer.bare
  moving : next.stuck = stack.stuck
  departures : next.departures = stack.departures

theorem Alongside.refl (stack : Stack α) : stack.Alongside stack := ⟨rfl, rfl, rfl⟩

theorem Alongside.trans (first : stack.Alongside next) (second : next.Alongside last) :
    stack.Alongside last where
  bare := second.bare.trans first.bare
  moving := second.moving.trans first.moving
  departures := second.departures.trans first.departures

theorem alongside_setLayer (placed : stack.layer? index = some before)
    (same : after.bare = before.bare) : stack.Alongside (stack.setLayer index after) where
  bare := by
    rw [setLayer, List.map_set, same, ← List.map_set, set_of_layer? placed]
  moving := rfl
  departures := rfl

theorem Alongside.length_eq (alongside : stack.Alongside next) :
    next.layers.length = stack.layers.length := by
  simpa using congrArg List.length alongside.bare

theorem Alongside.layer? (alongside : stack.Alongside next) (index : Nat) :
    (next.layer? index).map Layer.bare = (stack.layer? index).map Layer.bare := by
  rw [Stack.layer?, Stack.layer?, ← List.getElem?_map, ← List.getElem?_map, alongside.bare]

/-- What holds of all layers, and is not about entries or counts, holds of all layers. -/
theorem Alongside.each (alongside : stack.Alongside next) (holds : Nat → Layer α → Prop)
    (framed : ∀ index layer, holds index layer.bare ↔ holds index layer)
    (all : ∀ index layer, stack.layer? index = some layer → holds index layer) :
    ∀ index layer, next.layer? index = some layer → holds index layer := by
  intro index layer there
  have same := alongside.layer? index
  rw [there] at same
  obtain ⟨old, placed, bare⟩ := Option.map_eq_some_iff.mp same.symm
  rw [← framed, ← bare, framed]
  exact all index old placed

theorem Alongside.decorated (alongside : stack.Alongside next) (decorated : stack.Decorated) :
    next.Decorated where
  bottom := by
    obtain ⟨layer, placed, bottom⟩ := decorated.bottom
    have same := alongside.layer? 0
    rw [placed] at same
    obtain ⟨changed, there, bare⟩ := Option.map_eq_some_iff.mp same
    refine ⟨changed, there, ?_⟩
    rw [← Layer.isBottom_bare, bare, Layer.isBottom_bare, bottom]
  onto := by
    intro below
    refine fun layer there => alongside.each
      (fun index layer => index = below + 1 → layer.inner? = some below)
      (fun _ layer => by rw [layer.inner?_bare]) (fun place layer placed same => ?_) _ layer there rfl
    rw [same] at placed
    exact decorated.onto below layer placed

theorem Alongside.steady (alongside : stack.Alongside next) (steady : stack.Steady) :
    next.Steady where
  moving := alongside.moving.trans steady.moving
  decorated := alongside.decorated steady.decorated
  regular := alongside.each (fun _ layer => layer.Regular)
    (fun _ layer => layer.regular_bare) steady.regular

theorem Alongside.free (alongside : stack.Alongside next) (free : stack.Free) : next.Free :=
  alongside.each (fun _ layer => layer.isHeld = false)
    (fun _ layer => by rw [layer.isHeld_bare]) free

theorem Alongside.freeTo (alongside : stack.Alongside next) (free : stack.FreeTo index) :
    next.FreeTo index := fun place le layer there =>
  alongside.each (fun place layer => place ≤ index → layer.isHeld = false)
    (fun _ layer => by rw [layer.isHeld_bare]) (fun place layer placed le => free place le layer placed)
    place layer there le

theorem Alongside.roots_eq (alongside : stack.Alongside next) : next.roots = stack.roots := by
  have bare (stack : Stack α) : stack.roots = (stack.layers.map Layer.bare).flatMap Layer.roots := by
    rw [roots, List.flatMap_map]
    exact List.flatMap_congr fun layer _ => layer.roots_bare.symm
  rw [bare, bare, alongside.bare]

theorem Alongside.callbacks_eq (alongside : stack.Alongside next) :
    next.callbacks [] = stack.callbacks [] := by
  rw [callbacks, callbacks, alongside.roots_eq]

theorem Alongside.toll_eq (alongside : stack.Alongside next) : next.toll = stack.toll := by
  have bare (stack : Stack α) : stack.toll = ((stack.layers.map Layer.bare).map Layer.toll).sum := by
    rw [toll, List.map_map]
    exact congrArg List.sum (List.map_congr_left fun layer _ => layer.toll_bare.symm)
  rw [bare, bare, alongside.bare]

/-! ### Stacks that stay closed -/

/-- What is done to a stack without anybody being told anything. -/
structure Upkeep (stack next : Stack α) : Prop extends Alongside stack next where
  closed : stack.Closed → next.Closed

theorem Upkeep.refl (stack : Stack α) : stack.Upkeep stack := ⟨.refl stack, id⟩

theorem Upkeep.trans (first : stack.Upkeep next) (second : next.Upkeep last) : stack.Upkeep last :=
  ⟨first.toAlongside.trans second.toAlongside, second.closed ∘ first.closed⟩

theorem upkeep_of_layers_eq (layers : next.layers = stack.layers) (moving : next.stuck = stack.stuck)
    (departures : next.departures = stack.departures) : stack.Upkeep next where
  bare := by rw [layers]
  moving := moving
  departures := departures
  closed := fun closed place layer there => closed place layer (by rwa [layer?, layers] at there)

theorem upkeep_of_set (placed : stack.layer? index = some before)
    (layers : next.layers = stack.layers.set index after) (moving : next.stuck = stack.stuck)
    (departures : next.departures = stack.departures) (same : after.bare = before.bare)
    (shut : before.Closed → after.Closed) : stack.Upkeep next where
  bare := by rw [layers, List.map_set, same, ← List.map_set, set_of_layer? placed]
  moving := moving
  departures := departures
  closed := by
    intro closed place layer there
    rw [layer?, layers, List.getElem?_set] at there
    split at there
    · split at there
      · cases there
        exact shut (closed index before placed)
      · cases there
    · exact closed place layer there

/-! ### What is settled between calls -/

theorem closed_dropFrom (rows : List (String × Nat)) (store : MemoryStore) :
    (MemoryStore.makeRoom.dropFrom rows store).closed = store.closed := by
  induction rows generalizing store with
  | nil => rfl
  | cons row rest ih =>
      rw [MemoryStore.makeRoom.dropFrom]
      split
      · rfl
      · exact ih _

theorem closed_settle (writes : List MemoryWrite) (store : MemoryStore) :
    (store.settle writes).closed = store.closed := by
  induction writes generalizing store with
  | nil => rfl
  | cons write rest ih =>
      cases write with
      | removal key => exact ih _
      | put key weight =>
          rw [MemoryStore.settle]
          split
          · exact ih _
          · split
            · exact ih _
            · split <;> exact ih _

theorem upkeep_tidy (stack : Stack α) : stack.Upkeep stack.tidy where
  bare := by
    rw [tidy, List.map_map]
    refine List.map_congr_left fun layer _ => ?_
    cases layer <;> rfl
  moving := rfl
  departures := rfl
  closed := by
    intro closed place layer there
    rw [layer?, tidy, List.getElem?_map] at there
    obtain ⟨old, placed, rfl⟩ := Option.map_eq_some_iff.mp there
    have shut := closed place old placed
    cases old with
    | memory store => exact (closed_dropFrom _ _).trans ((closed_settle _ _).trans shut)
    | _ => exact shut

theorem closed_cleanNow (store : DiskStore) (tree : FileTree) (now : Millis) (present : FileTime) :
    (store.cleanNow tree now present).store.closed = store.closed := by
  simp only [DiskStore.cleanNow]
  split <;> rfl

theorem closed_checkClean (store : DiskStore) (tree : FileTree) (now : Millis) (present : FileTime) :
    (store.checkClean tree now present).1.closed = store.closed := by
  rw [DiskStore.checkClean]
  split
  · exact closed_cleanNow _ _ _ _
  · rfl

theorem upkeep_scheduleCheck (stack : Stack α) (index : Nat) :
    stack.Upkeep (stack.scheduleCheck index) := by
  rw [scheduleCheck]
  split
  · exact .refl stack
  · exact upkeep_of_layers_eq rfl rfl rfl

theorem upkeep_runChecks (stack : Stack α) : stack.Upkeep stack.runChecks := by
  rw [runChecks]
  have emptied : stack.Upkeep { stack with checks := [] } := upkeep_of_layers_eq rfl rfl rfl
  refine emptied.trans ?_
  generalize ({ stack with checks := [] } : Stack α) = start
  induction stack.checks generalizing start with
  | nil => exact .refl start
  | cons index rest ih =>
      refine Upkeep.trans ?_ (ih _)
      beta_reduce
      split
      · rename_i store placed
        exact upkeep_of_set placed rfl rfl rfl rfl fun shut => (closed_checkClean _ _ _ _).trans shut
      · exact .refl start

/-! ### Writes -/

end Stack

inductive Work.Writes (index : Nat) : Work α → Prop where
  | put (key : String) (value : Bytes) : Writes index (.put index key value)
  | delete (key : String) : Writes index (.delete index key)

theorem MemoryStore.closed_put (store : MemoryStore) (key : String) (value : Bytes) :
    (store.put key value).closed = store.closed := by
  rw [put]
  split <;> rfl

theorem DiskStore.closed_put (store : DiskStore) (tree : FileTree) (key : String) (value : Bytes)
    (now : Millis) (present : FileTime) :
    (store.put tree key value now present).store.closed = store.closed := by
  rw [put]
  split
  · rfl
  · simp only
    split <;> rfl

namespace Stack

variable {stack next last : Stack α} {index : Nat} {layer : Layer α} {work : Work α}

/-- A guard that is held around some upkeep is free again after it. -/
theorem Upkeep.freeGuard {inner : Nat} {guarded : Guard (Receiver α)}
    (placed : stack.layer? index = some (.guarded inner guarded)) (vacant : guarded.held = false)
    (within : (stack.setLayer index (.guarded inner guarded.take)).Upkeep next) :
    stack.Upkeep (next.freeGuard index) := by
  have there : next.layer? index = some (.guarded inner guarded.take) := by
    have same := within.layer? index
    rw [layer?_setLayer_self placed] at same
    obtain ⟨layer, there, bare⟩ := Option.map_eq_some_iff.mp same
    cases layer with
    | guarded lower state => exact there.trans (congrArg some bare)
    | _ => cases bare
  have again : guarded.take.free = guarded := by
    rw [Guard.free, ← vacant]
    rfl
  have freed : next.freeGuard index = next.setLayer index (.guarded inner guarded) := by
    rw [Stack.freeGuard, there, ← again]
    rfl
  rw [freed]
  refine ⟨⟨?_, within.moving, within.departures⟩, fun closed place layer known => ?_⟩
  · rw [setLayer, List.map_set, within.bare, setLayer, List.map_set, List.set_set, ← List.map_set,
      set_of_layer? placed]
  · by_cases here : index = place
    · rw [← here, layer?_setLayer_self there] at known
      cases known
      trivial
    · rw [layer?_setLayer_of_ne here] at known
      refine within.closed (fun other layer old => ?_) place layer known
      by_cases same : index = other
      · rw [← same, layer?_setLayer_self placed] at old
        cases old
        trivial
      · rw [layer?_setLayer_of_ne same] at old
        exact closed other layer old

theorem Steady.takeGuard {inner : Nat} {guarded : Guard (Receiver α)} (steady : stack.Steady)
    (placed : stack.layer? index = some (.guarded inner guarded)) :
    (stack.setLayer index (.guarded inner guarded.take)).Steady := by
  have altered : stack.Altered (stack.setLayer index (.guarded inner guarded.take)) index
      (.guarded inner guarded.take) := steady.decorated.altered steady.moving placed rfl []
  refine ⟨altered.moving, ⟨?_, fun below => ?_⟩, ?_⟩
  · obtain ⟨layer, first, bottom⟩ := steady.decorated.bottom
    have above : index ≠ 0 := by
      rintro rfl
      cases first.symm.trans placed
      cases bottom
    exact ⟨layer, (altered.layer?_of_ne above).trans first, bottom⟩
  · refine fun layer there => altered.each (fun place layer => place = below + 1 →
      layer.inner? = some below) placed (fun same => ?_) (fun place layer _ known same => ?_) _ layer
      there rfl
    · exact (steady.decorated.onto below (.guarded inner guarded) (same ▸ placed) :)
    · exact steady.decorated.onto below layer (same ▸ known)
  · have own : (Layer.guarded inner guarded).Regular := steady.regular index _ placed
    exact altered.each (fun _ layer => layer.Regular) placed own
      fun place layer _ known => steady.regular place layer known

inductive Onward (stack : Stack α) (index : Nat) : Stack α → List (Work α) → Prop where
  | stored {next : Stack α} (upkeep : stack.Upkeep next) : Onward stack index next []
  | passed {next : Stack α} {inner : Nat} {layer : Layer α} {follower : Work α}
      (upkeep : stack.Upkeep next) (placed : stack.layer? index = some layer)
      (onto : layer.inner? = some inner) (writes : follower.Writes inner) :
      Onward stack index next [follower]
  | entered {inner : Nat} {guarded : Guard (Receiver α)} {follower : Work α}
      (placed : stack.layer? index = some (.guarded inner guarded)) (vacant : guarded.held = false)
      (writes : follower.Writes inner) :
      Onward stack index (stack.setLayer index (.guarded inner guarded.take))
        [follower, .freeGuard index]

theorem Steady.write (steady : stack.Steady) (placed : stack.layer? index = some layer)
    (outside : layer.isHeld = false) (writes : work.Writes index) :
    ∃ next more, stack.perform work = (next, more) ∧ Onward stack index next more := by
  have performed : stack.perform work = match work with
      | .put index key value => stack.put index key value
      | .delete index key => stack.delete index key
      | _ => stack.perform work := by
    cases writes <;> simp only [perform, steady.moving, Bool.false_eq_true, if_false]
  have known := steady.decorated.known placed
  cases layer with
  | memory store =>
      cases writes with
      | put key value =>
          simp only [put, placed] at performed
          exact ⟨_, _, performed, .stored (upkeep_of_set placed rfl rfl rfl rfl
            fun shut => (store.closed_put key value).trans shut)⟩
      | delete key =>
          simp only [delete, placed] at performed
          exact ⟨_, _, performed, .stored (upkeep_of_set placed rfl rfl rfl rfl id)⟩
  | disk store =>
      cases writes with
      | put key value =>
          simp only [put, placed] at performed
          refine ⟨_, _, performed, .stored ?_⟩
          split
          · refine Upkeep.trans ?_ (upkeep_scheduleCheck _ index)
            exact upkeep_of_set placed rfl rfl rfl rfl
              fun shut => (store.closed_put _ key value _ _).trans shut
          · exact upkeep_of_set placed rfl rfl rfl rfl
              fun shut => (store.closed_put _ key value _ _).trans shut
      | delete key =>
          simp only [delete, placed] at performed
          exact ⟨_, _, performed, .stored (upkeep_of_layers_eq rfl rfl rfl)⟩
  | counted inner uses =>
      cases writes with
      | put key value =>
          simp only [put, placed] at performed
          exact ⟨_, _, performed,
            .passed (upkeep_of_set placed rfl rfl rfl rfl id) placed rfl (.put key value)⟩
      | delete key =>
          simp only [delete, placed] at performed
          exact ⟨_, _, performed,
            .passed (upkeep_of_set placed rfl rfl rfl rfl id) placed rfl (.delete key)⟩
  | guarded inner guarded =>
      have free : guarded.held = false := outside
      cases writes with
      | put key value =>
          simp only [put, placed, free, Bool.false_eq_true, if_false] at performed
          exact ⟨_, _, performed, .entered placed free (.put key value)⟩
      | delete key =>
          simp only [delete, placed, free, Bool.false_eq_true, if_false] at performed
          exact ⟨_, _, performed, .entered placed free (.delete key)⟩
  | admission inner state | delayed inner state =>
      cases writes with
      | put key value =>
          simp only [put, placed] at performed
          exact ⟨_, _, performed, .passed (.refl stack) placed rfl (.put key value)⟩
      | delete key =>
          simp only [delete, placed] at performed
          exact ⟨_, _, performed, .passed (.refl stack) placed rfl (.delete key)⟩
  | remote store | void => rcases known with known | known <;> cases known

end Stack

/-! ### Calls that begin -/

namespace Stack

variable {terms wider : Terms α} {stack next : Stack α} {works : List (Work α)}

/-- A stack that is in order between calls stays so, whatever is kept at the bottom by then. -/
theorem Orderly.renew (orderly : stack.Orderly terms []) (alongside : stack.Alongside next)
    (grow : terms.Grow wider)
    (missed : ∀ callback key, wider.wants callback key → wider.right callback .notFound)
    (read : ∀ callback key, wider.wants callback key → wider.right callback (next.found key)) :
    next.Orderly wider [] where
  steady := alongside.steady orderly.steady
  expected := fun _ member => nomatch member
  tracked := by
    constructor
    · intro index layer number there awaits
      rw [alongside.roots_eq]
      exact alongside.each (fun index layer => ∀ number, layer.Awaits number →
          .ticket index number ∈ stack.roots ++ rootsOf [])
        (fun _ layer => forall_congr' fun number => by rw [layer.awaits_bare number])
        (fun index layer placed number => orderly.tracked.awaited index layer number placed)
        index layer there number awaits
    · intro index layer number there visited
      exact alongside.each (fun index layer => ∀ number, layer.Visited number →
          (index, number) ∈ visitsOf ([] : List (Work α)))
        (fun _ layer => forall_congr' fun number => by rw [layer.visited_bare number])
        (fun index layer placed number => orderly.tracked.visited index layer number placed)
        index layer there number visited
  honest := by
    obtain ⟨book, sound, -⟩ := orderly.honest
    refine ⟨book, ⟨?_, ?_, sound.single⟩, fun _ member => nomatch member⟩
    · exact alongside.each (fun index layer => layer.Sound wider book index)
        (fun index layer => layer.sound_bare wider book index)
        fun index layer placed => (sound.layers index layer placed).widen grow
    · exact alongside.each (fun index layer => ∀ number callback,
          book index number callback → number < layer.fresh)
        (fun index layer => by rw [layer.fresh_bare]) sound.used
  missed := missed
  read := read
  settled := alongside.departures.trans orderly.settled

theorem Orderly.begin (orderly : stack.Orderly terms []) (expected : ∀ work ∈ works, Expected stack work)
    (own : ∀ book, ∀ work ∈ works, work.Sound terms book) : stack.Orderly terms works where
  steady := orderly.steady
  expected := expected
  tracked :=
    ⟨fun index layer number placed awaits => List.mem_append_left _ (by
        simpa using orderly.tracked.awaited index layer number placed awaits),
      fun index layer number placed visited =>
        absurd (orderly.tracked.visited index layer number placed visited) List.not_mem_nil⟩
  honest := by
    obtain ⟨book, sound, -⟩ := orderly.honest
    exact ⟨book, sound, own book⟩
  missed := orderly.missed
  read := orderly.read
  settled := orderly.settled

end Stack

end TieredCache
