import Mathlib.Data.List.Induction
import TieredCache.Proofs.Front.Sentinel
import TieredCache.Proofs.Front.Transparency

/-!
Runs of one cache over a layer that answers at once and loses nothing. Main statements: what every
operation does to the rules of the cache and to its layer, and that after a run the layer has for a
key what the last operation to write or remove its entry left there.
-/

namespace TieredCache

namespace Policy

def after (policy : Policy) (operations : List Operation) : Policy :=
  operations.foldl (fun policy operation =>
    match operation with
    | .change changes => FrontChange.applyAll changes policy
    | _ => policy) policy

end Policy

namespace ResponseCache

def stepped (cache : ResponseCache) : Operation → ResponseCache
  | .change changes => cache.changePolicy (FrontChange.applyAll changes)
  | .ignoreFailures => cache.ignoreFailures
  | _ => cache

def after (cache : ResponseCache) (operations : List Operation) : ResponseCache :=
  operations.foldl stepped cache

def written? (cache : ResponseCache) (now : Millis) : Operation → Option (String × Option Bytes)
  | .put key head body =>
      match cache.prepare now key head body with
      | .ok stored => some (key, some stored.encoded)
      | .error _ => none
  | .delete key => some (key, none)
  | .remember key kind => (cache.sentinel now kind).map fun content => (key, some content)
  | _ => none

def shelve (shelf : String → Option Bytes) :
    Option (String × Option Bytes) → String → Option Bytes
  | none => shelf
  | some (key, entry) => Function.update shelf key entry

theorem policy_after (cache : ResponseCache) (operations : List Operation) :
    (cache.after operations).policy = cache.policy.after operations := by
  induction operations generalizing cache with
  | nil => rfl
  | cons operation rest ih =>
      refine (ih (cache.stepped operation)).trans ?_
      cases operation <;> rfl

theorem ignoresFailures_after (cache : ResponseCache) (operations : List Operation) :
    (cache.after operations).ignoresFailures = true ↔
      cache.ignoresFailures = true ∨ .ignoreFailures ∈ operations := by
  induction operations generalizing cache with
  | nil => simp [after]
  | cons operation rest ih =>
      apply (ih (cache.stepped operation)).trans
      rw [List.mem_cons]
      cases operation with
      | ignoreFailures => simp [stepped, ignoreFailures]
      | _ => simp [stepped, changePolicy]

end ResponseCache

namespace Depot

variable {depot : Depot} {index layer : Nat} {cache : ResponseCache} {key : String}

/-! ### One operation -/

/-- A front of one cache over a layer that answers at once and loses nothing. -/
structure Alone (index layer : Nat) (cache : ResponseCache) (depot : Depot) : Prop where
  front : depot.session.bare.front? index = some (.single cache layer)
  quick : depot.slow layer = false
  kept : depot.losses = []

structure Leaves (index layer : Nat) (cache : ResponseCache) (shelf : String → Option Bytes)
    (depot : Depot) : Prop extends Alone index layer cache depot where
  shelf : depot.shelves layer = shelf

theorem Alone.leaves (alone : Alone index layer cache depot) {session kept : Session}
    (same : session.bare = kept) {next : ResponseCache}
    (front : kept.front? index = some (.single next layer)) :
    Leaves index layer next (depot.shelves layer) { depot with session } := by
  subst same
  exact ⟨⟨front, alone.quick, alone.kept⟩, rfl⟩

theorem Alone.leaves_fill (alone : Alone index layer cache depot) {session : Session}
    (same : session.bare = depot.session.bare) (key : String) (entry : Option Bytes) :
    Leaves index layer cache (Function.update (depot.shelves layer) key entry)
      { depot.lose.fill layer key entry with session } := by
  rw [lose_of_nil alone.kept]
  have filled := shelves_fill_self depot layer key entry
  exact ⟨⟨by rw [same]; exact alone.front, alone.quick, alone.kept⟩, filled⟩

/-- A response that the rules allow is stored, any other one is refused. -/
theorem Alone.put (alone : Alone index layer cache depot) (key : String) (head : Head)
    (body : Bytes) :
    match cache.prepare depot.session.now key head body with
    | .ok stored =>
        (depot.operate index (.put key head body)).2 = .putResult none ∧
          Leaves index layer cache (Function.update (depot.shelves layer) key (some stored.encoded))
            (depot.operate index (.put key head body)).1
    | .error reason =>
        (depot.operate index (.put key head body)).2 = .putResult (some reason) ∧
          Leaves index layer cache (depot.shelves layer)
            (depot.operate index (.put key head body)).1 := by
  cases prepared : cache.prepare depot.session.now key head body with
  | ok stored =>
      obtain ⟨session, same, ran⟩ := operate_put_stored_single alone.front prepared
      rw [ran]
      exact ⟨rfl, alone.leaves_fill same key (some stored.encoded)⟩
  | error reason =>
      obtain ⟨session, same, ran⟩ := operate_put_refused_single alone.front prepared
      rw [ran]
      exact ⟨rfl, alone.leaves same alone.front⟩

theorem Alone.put_stored_iff (alone : Alone index layer cache depot) (head : Head) (body : Bytes) :
    (depot.operate index (.put key head body)).2 = .putResult none ↔
      ∃ stored, cache.prepare depot.session.now key head body = .ok stored := by
  have put := alone.put key head body
  cases prepared : cache.prepare depot.session.now key head body with
  | ok stored =>
      rw [prepared] at put
      exact ⟨fun _ => ⟨stored, rfl⟩, fun _ => put.1⟩
  | error reason =>
      rw [prepared] at put
      constructor
      · intro stores
        rw [put.1] at stores
        cases stores
      · rintro ⟨stored, impossible⟩
        cases impossible

theorem Alone.find (alone : Alone index layer cache depot) (key : String) (hooks : Hooks) :
    (depot.operate index (.find key hooks)).2 = .outcome (ResponseCache.verdict cache.policy
        depot.session.now key hooks.checks (depot.shelves layer key)) ∧
      Leaves index layer cache (depot.shelves layer)
        (depot.operate index (.find key hooks)).1 := by
  have judged : ResponseCache.verdict cache.policy depot.session.now key hooks.checks
      (depot.lose.shelves layer key) = ResponseCache.verdict cache.policy depot.session.now key
        hooks.checks (depot.shelves layer key) := by
    rw [lose_of_nil alone.kept]
  obtain ⟨session, same, ran⟩ := operate_find_single alone.front alone.quick judged
  rw [ran, lose_of_nil alone.kept]
  exact ⟨rfl, alone.leaves same alone.front⟩

/-- What one operation does. -/
theorem Alone.operate (alone : Alone index layer cache depot) (operation : Operation) :
    Leaves index layer (cache.stepped operation)
      (ResponseCache.shelve (depot.shelves layer) (cache.written? depot.session.now operation))
      (depot.operate index operation).1 := by
  cases operation with
  | put key head body =>
      have put := alone.put key head body
      simp only [ResponseCache.written?]
      cases prepared : cache.prepare depot.session.now key head body with
      | ok stored =>
          rw [prepared] at put
          exact put.2
      | error reason =>
          rw [prepared] at put
          exact put.2
  | find key hooks => exact (alone.find key hooks).2
  | delete key =>
      obtain ⟨session, same, ran⟩ := @operate_delete_single depot index cache layer key alone.front
      rw [ran]
      exact alone.leaves_fill same key none
  | remember key kind =>
      obtain ⟨session, same, ran⟩ :=
        @operate_remember_single depot index cache layer key alone.front kind
      rw [ran]
      simp only [ResponseCache.written?]
      cases cache.sentinel depot.session.now kind with
      | none => exact alone.leaves same alone.front
      | some content => exact alone.leaves_fill same key (some content)
  | ignoreFailures =>
      obtain ⟨session, same, ran⟩ := operate_ignoreFailures_single alone.front
      rw [ran]
      exact alone.leaves same (Session.front?_setFront alone.front _)
  | change changes =>
      obtain ⟨session, same, ran⟩ := operate_change_single alone.front changes
      rw [ran]
      exact alone.leaves same (Session.front?_setFront alone.front _)
  | advance span => exact alone.leaves rfl alone.front
  | setTime time => exact alone.leaves rfl alone.front

/-- While failures are ignored, nothing comes of one: not even a count changes. -/
theorem Alone.remember_ignored (alone : Alone index layer cache depot)
    (ignores : cache.ignoresFailures = true) (key : String) (kind : FailureKind) :
    depot.operate index (.remember key kind) = (depot, .nothing) := by
  obtain ⟨counted, actual, rfl⟩ := Session.front?_of_bare_single alone.front
  have remembered : counted.remember depot.session.now kind = none := if_pos ignores
  have started : depot.session.start "" (.mk ((Operation.remember key kind).action index) none []) =
      depot.session.answered .nothing := by
    simp only [Session.start, Operation.action, Step.action, Session.startFront, Session.tiers?,
      Session.cache?, actual, Session.startCache, remembered]
  unfold Depot.operate
  rw [started]
  rfl

/-! ### Runs -/

theorem operates_concat (depot : Depot) (index : Nat) (operations : List Operation)
    (operation : Operation) : depot.operates index (operations ++ [operation]) =
      ((depot.operates index operations).operate index operation).1 := by
  rw [operates, List.foldl_append]
  rfl

theorem Alone.operates (alone : Alone index layer cache depot) (operations : List Operation) :
    Alone index layer (cache.after operations) (depot.operates index operations) := by
  induction operations generalizing depot cache with
  | nil => exact alone
  | cons operation rest ih => exact ih (alone.operate operation).toAlone

/-- Whether an operation that follows on others writes or removes the entry of a key. A response has
to be stored for that, and a failure is not remembered once failures are ignored. -/
def Writes (start : Depot) (before : List Operation) (key : String) : Operation → Prop
  | .put name head body =>
      name = key ∧
        ((start.operates 0 before).operate 0 (.put name head body)).2 = .putResult none
  | .delete name => name = key
  | .remember name _ => name = key ∧ .ignoreFailures ∉ before
  | _ => False

/-- None of some operations that follow on others writes or removes the entry of a key. -/
def Spares (start : Depot) (before : List Operation) (key : String) : List Operation → Prop
  | [] => True
  | operation :: rest =>
      ¬Writes start before key operation ∧ Spares start (before ++ [operation]) key rest

/-- Of some operations, the one after those `before` it is the last to write or remove the entry of
a key. -/
def LastWrite (start : Depot) (key : String) (operations before : List Operation)
    (operation : Operation) : Prop :=
  ∃ after, operations = before ++ operation :: after ∧ Writes start before key operation ∧
    Spares start (before ++ [operation]) key after

theorem Spares.concat {start : Depot} {before after : List Operation} {operation : Operation}
    (spares : Spares start before key after)
    (spared : ¬Writes start (before ++ after) key operation) :
    Spares start before key (after ++ [operation]) := by
  induction after generalizing before with
  | nil =>
      rw [List.append_nil] at spared
      exact ⟨spared, trivial⟩
  | cons first rest ih =>
      obtain ⟨firstSpared, restSpares⟩ := spares
      rw [List.append_cons] at spared
      exact ⟨firstSpared, ih restSpares spared⟩

section Opened

variable {name : String} {policy : Policy} {now : Millis}

/-- The cache that was opened under these rules, as it is after some operations. -/
private theorem alone_opened (operations : List Operation) :
    Alone 0 1 (ResponseCache.after { name, policy } operations)
      ((openedSingle name policy now).operates 0 operations) :=
  Alone.operates ⟨rfl, rfl, rfl⟩ operations

theorem reply_find_opened (operations : List Operation) (key : String) (hooks : Hooks) :
    let depot := (openedSingle name policy now).operates 0 operations
    (depot.operate 0 (.find key hooks)).2 = .outcome (ResponseCache.verdict
      (policy.after operations) depot.session.now key hooks.checks (depot.shelves 1 key)) := by
  have reply := ((@alone_opened name policy now operations).find key hooks).1
  rw [ResponseCache.policy_after] at reply
  exact reply

theorem put_stored_opened {operations : List Operation} {head : Head} {body : Bytes}
    (stores : (((openedSingle name policy now).operates 0 operations).operate 0
      (.put key head body)).2 = .putResult none) :
    ∃ stored, (ResponseCache.after { name, policy } operations).prepare
      ((openedSingle name policy now).operates 0 operations).session.now key head body =
        .ok stored :=
  ((alone_opened operations).put_stored_iff head body).mp stores

/-- Nobody ignores failures before being told to. -/
theorem ignores_opened (operations : List Operation) :
    (ResponseCache.after { name, policy } operations).ignoresFailures = true ↔
      .ignoreFailures ∈ operations :=
  (ResponseCache.ignoresFailures_after _ _).trans (or_iff_right Bool.false_ne_true)

theorem remember_ignored_opened {operations : List Operation}
    (ignores : .ignoreFailures ∈ operations) (key : String) (kind : FailureKind) :
    ((openedSingle name policy now).operates 0 operations).operate 0 (.remember key kind) =
      ((openedSingle name policy now).operates 0 operations, .nothing) :=
  (alone_opened operations).remember_ignored ((ignores_opened operations).mpr ignores) key kind

theorem writes_iff (operations : List Operation) (operation : Operation) :
    Writes (openedSingle name policy now) operations key operation ↔
      ∃ entry, (ResponseCache.after { name, policy } operations).written?
        ((openedSingle name policy now).operates 0 operations).session.now operation =
          some (key, entry) := by
  have alone := @alone_opened name policy now operations
  cases operation with
  | put other head body =>
      simp only [Writes, alone.put_stored_iff, ResponseCache.written?]
      cases ResponseCache.prepare _ _ other head body <;> simp
  | remember other kind =>
      simp only [Writes, ResponseCache.written?]
      by_cases ignores : .ignoreFailures ∈ operations
      · rw [ResponseCache.sentinel_of_ignoring ((ignores_opened operations).mpr ignores)]
        simp [ignores]
      · have heeds := Bool.eq_false_iff.mpr
          ((@ignores_opened name policy operations).not.mpr ignores)
        obtain ⟨stored, written, _⟩ := ResponseCache.sentinel_of_heeding
          ((openedSingle name policy now).operates 0 operations).session.now kind heeds
        rw [written]
        simp [ignores]
  | delete other => simp [Writes, ResponseCache.written?]
  | _ => simp [Writes, ResponseCache.written?]

theorem shelf_concat (operations : List Operation) (operation : Operation) :
    ((openedSingle name policy now).operates 0 (operations ++ [operation])).shelves 1 =
      ResponseCache.shelve (((openedSingle name policy now).operates 0 operations).shelves 1)
        ((ResponseCache.after { name, policy } operations).written?
          ((openedSingle name policy now).operates 0 operations).session.now operation) := by
  rw [operates_concat]
  exact ((alone_opened operations).operate operation).shelf

/-- An entry stays unless it is written or removed. -/
theorem shelf_of_spared {operations : List Operation} {operation : Operation}
    (spares : ¬Writes (openedSingle name policy now) operations key operation) :
    ((openedSingle name policy now).operates 0 (operations ++ [operation])).shelves 1 key =
      ((openedSingle name policy now).operates 0 operations).shelves 1 key := by
  rw [shelf_concat]
  rw [writes_iff] at spares
  cases written : (ResponseCache.after { name, policy } operations).written?
      ((openedSingle name policy now).operates 0 operations).session.now operation with
  | none => rfl
  | some pair =>
      obtain ⟨other, entry⟩ := pair
      apply Function.update_of_ne
      rintro rfl
      exact spares ⟨entry, written⟩

theorem Spares.shelf {before after : List Operation}
    (spares : Spares (openedSingle name policy now) before key after) :
    ((openedSingle name policy now).operates 0 (before ++ after)).shelves 1 key =
      ((openedSingle name policy now).operates 0 before).shelves 1 key := by
  induction after generalizing before with
  | nil => rw [List.append_nil]
  | cons operation rest ih =>
      obtain ⟨spared, restSpares⟩ := spares
      rw [List.append_cons]
      exact (ih restSpares).trans (shelf_of_spared spared)

/-- After a run the entry of a key is what the last operation to write or remove it has left. -/
theorem LastWrite.shelf {operations before : List Operation} {operation : Operation}
    (last : LastWrite (openedSingle name policy now) key operations before operation) :
    ∃ entry, (ResponseCache.after { name, policy } before).written?
        ((openedSingle name policy now).operates 0 before).session.now operation =
          some (key, entry) ∧
      ((openedSingle name policy now).operates 0 operations).shelves 1 key = entry := by
  obtain ⟨after, rfl, writes, spares⟩ := last
  obtain ⟨entry, written⟩ := (writes_iff before operation).mp writes
  refine ⟨entry, written, ?_⟩
  rw [List.append_cons, spares.shelf, shelf_concat, written]
  exact Function.update_self _ _ _

/-- What no operation has written is not there. -/
theorem exists_lastWrite {operations : List Operation}
    (held : ((openedSingle name policy now).operates 0 operations).shelves 1 key ≠ none) :
    ∃ before operation,
      LastWrite (openedSingle name policy now) key operations before operation := by
  induction operations using List.reverseRecOn with
  | nil => exact absurd rfl held
  | append_singleton operations operation ih =>
      by_cases writes : Writes (openedSingle name policy now) operations key operation
      · exact ⟨operations, operation, [], rfl, writes, trivial⟩
      · rw [shelf_of_spared writes] at held
        obtain ⟨before, earlier, after, rfl, writesEarlier, spares⟩ := ih held
        refine ⟨before, earlier, after ++ [operation], ?_, writesEarlier, spares.concat ?_⟩
        · rw [List.append_assoc, List.cons_append]
        · rwa [List.append_assoc]

end Opened

end Depot

end TieredCache
