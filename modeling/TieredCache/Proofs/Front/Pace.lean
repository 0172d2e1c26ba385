import TieredCache.Proofs.Front.ReadBack

/-!
Two tiers of which the second answers late. Operations of the front and the answers of the second
tier come in any order. Main statement: `turn_effect`, which lists all that a turn can do.
-/

namespace TieredCache

namespace Operation

def writes (key : String) : Operation → Bool
  | put other _ _ | remember other _ => other = key
  | _ => false

end Operation

/-- The front is used, or a late answer comes. -/
inductive Turn where
  | operate (operation : Operation)
  | deliver (position : Nat)

def Turn.writes (key : String) : Turn → Bool
  | operate operation => operation.writes key
  | deliver _ => false

namespace Depot

def turn (depot : Depot) (index : Nat) : Turn → Depot
  | .operate operation => (depot.operate index operation).1
  | .deliver position => depot.deliver position

def turns (depot : Depot) (index : Nat) (turns : List Turn) : Depot :=
  turns.foldl (turn · index) depot

/-- A lookup that waits for the second tier; the first one gave `earlier`. -/
def held (index : Nat) (key : String) (hooks : Hooks) (earlier : Outcome) (number : Nat)
    (lookup : Lookup) : Callback × Lookup :=
  (.front ⟨index, .secondTier⟩ key hooks (.bothTiers index key earlier (.promise number)), lookup)

variable {depot : Depot} {index first second : Nat} {tiers : TwoTier} {key : String}

structure Steady (index first second : Nat) (depot : Depot) : Prop where
  front : ∃ tiers, depot.session.bare.front? index = some (.tiered tiers first second)
  quick : depot.slow first = false
  slow : depot.slow second = true
  kept : depot.losses = []

/-- Besides, callers wait for numbers that were given out, each for the second tier. -/
structure Paced (index first second : Nat) (depot : Depot) : Prop
    extends Steady index first second depot where
  waiting : ∀ entry ∈ depot.waiting, ∃ key hooks earlier number lookup,
    entry = held index key hooks earlier number lookup ∧ number < depot.session.freshPromise
  settled : ∀ entry ∈ depot.session.outcomes, entry.1 < depot.session.freshPromise

structure View where
  shelves : Nat → String → Option Bytes
  waiting : List (Callback × Lookup)
  outcomes : List (Nat × Outcome)
  fresh : Nat

def view (depot : Depot) : View :=
  ⟨depot.shelves, depot.waiting, depot.session.outcomes, depot.session.freshPromise⟩

inductive Effect (index : Nat) (tiers : TwoTier) (first second : Nat) (depot : Depot) :
    Turn → View → Prop where
  | rest {operation : Operation} (keeps : ∀ key, operation ≠ .delete key)
      (asksNothing : ∀ key hooks, operation ≠ .find key hooks) :
      Effect index tiers first second depot (.operate operation) depot.view
  | write {operation : Operation} {key : String} {shelves : Nat → String → Option Bytes}
      (writes : operation.writes key = true)
      (others : ∀ layer name, name ≠ key → shelves layer name = depot.shelves layer name) :
      Effect index tiers first second depot (.operate operation) { depot.view with shelves }
  | remove (key : String) :
      Effect index tiers first second depot (.operate (.delete key))
        { depot.view with
          shelves := fun layer name =>
            if name = key ∧ (layer = first ∨ layer = second) then none
            else depot.shelves layer name }
  | serve (key : String) (hooks : Hooks) {outcome : Outcome}
      (judged : ResponseCache.verdict tiers.first.policy depot.session.now key hooks.checks
        (depot.shelves first key) = outcome) (found : outcome.isFound = true) :
      Effect index tiers first second depot (.operate (.find key hooks))
        { depot.view with
          outcomes := (depot.session.freshPromise, outcome) :: depot.session.outcomes
          fresh := depot.session.freshPromise + 1 }
  | ask (key : String) (hooks : Hooks) {earlier : Outcome}
      (judged : ResponseCache.verdict tiers.first.policy depot.session.now key hooks.checks
        (depot.shelves first key) = earlier) (missed : earlier.isFound = false) :
      Effect index tiers first second depot (.operate (.find key hooks))
        { depot.view with
          waiting := depot.waiting ++ [held index key hooks earlier depot.session.freshPromise
            (.ofOption (depot.shelves second key))]
          fresh := depot.session.freshPromise + 1 }
  | skip {position : Nat} (absent : depot.waiting[position]? = none) :
      Effect index tiers first second depot (.deliver position) depot.view
  | arrive {position : Nat} {key : String} {hooks : Hooks} {earlier outcome : Outcome}
      {number : Nat} {lookup : Lookup}
      (present : depot.waiting[position]? = some (held index key hooks earlier number lookup))
      (judged : ResponseCache.verdict tiers.second.policy depot.session.now key hooks.checks
        lookup.value? = outcome) :
      Effect index tiers first second depot (.deliver position)
        { shelves := fun layer name =>
            if layer = first ∧ name = key then
              (tiers.backfill key outcome).or (depot.shelves layer name)
            else depot.shelves layer name
          waiting := depot.waiting.eraseIdx position
          outcomes := (number, TwoTier.join earlier outcome) :: depot.session.outcomes
          fresh := depot.session.freshPromise }

theorem view_of_bare {after : Depot} {session kept : Session} (same : session.bare = kept) :
    ({ after with session } : Depot).view =
      ⟨after.shelves, after.waiting, kept.outcomes, kept.freshPromise⟩ := by
  subst same
  rfl

theorem Steady.after (steady : Steady index first second depot) {after : Depot} {session : Session}
    {later : TwoTier} (slow : after.slow = depot.slow) (kept : after.losses = [])
    (front : session.bare.front? index = some (.tiered later first second)) :
    Steady index first second { after with session } where
  front := ⟨later, front⟩
  quick := (congrFun slow first).trans steady.quick
  slow := (congrFun slow second).trans steady.slow
  kept := kept

section Operations

variable (steady : Steady index first second depot)

include steady in
/-- An operation that only changes the rules or the time. -/
private theorem rest_turn {operation : Operation} {session kept : Session} {later : TwoTier}
    {reply : Reply} (ran : depot.operate index operation = ({ depot with session }, reply))
    (keeps : ∀ key, operation ≠ .delete key) (asksNothing : ∀ key hooks, operation ≠ .find key hooks)
    (same : session.bare = kept) (outcomes : kept.outcomes = depot.session.outcomes)
    (fresh : kept.freshPromise = depot.session.freshPromise)
    (front : kept.front? index = some (.tiered later first second)) :
    Effect index tiers first second depot (.operate operation)
        (depot.operate index operation).1.view ∧
      Steady index first second (depot.operate index operation).1 := by
  have viewed : (depot.operate index operation).1.view = depot.view := by
    rw [ran, view_of_bare same, outcomes, fresh]
    rfl
  rw [viewed, ran]
  exact ⟨.rest keeps asksNothing, steady.after rfl steady.kept (same ▸ front)⟩

variable (front : depot.session.bare.front? index = some (.tiered tiers first second))
include steady front

/-- An operation that may write both tiers, in any order. -/
private theorem write_turn {operation : Operation} (writes : operation.writes key = true)
    {session : Session} (same : session.bare = depot.session.bare) {left right : Nat}
    {leftEntry rightEntry : Option Bytes} {reply : Reply}
    (ran : depot.operate index operation =
      ({ (depot.write left key leftEntry).write right key rightEntry with session }, reply)) :
    Effect index tiers first second depot (.operate operation)
        (depot.operate index operation).1.view ∧
      Steady index first second (depot.operate index operation).1 := by
  have kept := steady.kept
  have keptOnce := losses_write kept left key leftEntry
  rw [ran, view_of_bare same, waiting_write, waiting_write]
  refine ⟨.write writes fun layer name different => ?_, steady.after (by rw [slow_write, slow_write])
    (losses_write keptOnce _ _ _) (same ▸ front)⟩
  rw [shelves_write (keeps_of_nil keptOnce layer), if_neg fun both => different both.2,
    shelves_write (keeps_of_nil kept layer), if_neg fun both => different both.2]

private theorem find_turn (key : String) (hooks : Hooks) :
    Effect index tiers first second depot (.operate (.find key hooks))
        (depot.operate index (.find key hooks)).1.view ∧
      Steady index first second (depot.operate index (.find key hooks)).1 := by
  have kept := steady.kept
  have still := lose_of_nil kept
  generalize judged : ResponseCache.verdict tiers.first.policy depot.session.now key hooks.checks
    (depot.shelves first key) = earlier
  have judgedStill := judged
  rw [← congrArg shelves still] at judgedStill
  cases found : earlier.isFound with
  | true =>
      obtain ⟨session, same, ran⟩ := operate_find_first front steady.quick judgedStill found
      rw [ran, still, view_of_bare same]
      exact ⟨.serve key hooks judged found, steady.after rfl kept (by rw [same]; exact front)⟩
  | false =>
      obtain ⟨session, same, ran⟩ :=
        operate_find_slow front steady.quick steady.slow judgedStill found
      let after : Depot := { depot with
        waiting := depot.waiting ++ [held index key hooks earlier depot.session.freshPromise
          (.ofOption (depot.shelves second key))] }
      have viewed := @view_of_bare after _ _ same
      have steadyAfter := @Steady.after _ _ _ _ steady after session tiers rfl kept (same ▸ front)
      rw [ran, still, still]
      exact ⟨viewed ▸ .ask key hooks judged found, steadyAfter⟩

private theorem delete_turn (key : String) :
    Effect index tiers first second depot (.operate (.delete key))
        (depot.operate index (.delete key)).1.view ∧
      Steady index first second (depot.operate index (.delete key)).1 := by
  have still := lose_of_nil steady.kept
  obtain ⟨session, same, ran⟩ := @operate_delete depot index tiers first second key front
  have stillRemoved : (depot.remove first key).lose = depot.remove first key := by
    rw [remove, still]
    exact lose_of_nil steady.kept
  have removed : (depot.remove first key).remove second key =
      (depot.fill first key none).fill second key none := by
    rw [remove, stillRemoved, remove, still]
  have shelves : ((depot.remove first key).remove second key).shelves = fun layer name =>
      if name = key ∧ (layer = first ∨ layer = second) then none
      else depot.shelves layer name := by
    funext layer name
    rw [removed]
    simp only [fill]
    by_cases same : name = key
    · by_cases atFirst : layer = first <;> by_cases atSecond : layer = second <;>
        simp [same, atFirst, atSecond]
    · simp [same]
  rw [ran, view_of_bare same, shelves, removed]
  exact ⟨.remove key, @Steady.after _ _ _ _ steady
    ((depot.fill first key none).fill second key none) session tiers rfl steady.kept
    (same ▸ front)⟩

private theorem operate_effect (operation : Operation) :
    Effect index tiers first second depot (.operate operation)
        (depot.operate index operation).1.view ∧
      Steady index first second (depot.operate index operation).1 := by
  cases operation with
  | put key head body =>
      cases prepared : tiers.second.prepare depot.session.now key head body with
      | error reason =>
          obtain ⟨session, same, ran⟩ := operate_put_refused front prepared
          exact rest_turn steady ran (fun _ => Operation.noConfusion)
            (fun _ _ => Operation.noConfusion) same rfl rfl front
      | ok stored =>
          obtain ⟨session, same, ran⟩ := operate_put_stored front prepared
          exact write_turn steady front (decide_eq_true rfl) same ran
  | find key hooks => exact find_turn steady front key hooks
  | delete key => exact delete_turn steady front key
  | remember key kind =>
      obtain ⟨session, same, ran⟩ := operate_remember front kind
      exact write_turn steady front (decide_eq_true rfl) same ran
  | ignoreFailures =>
      obtain ⟨session, same, ran⟩ := operate_ignoreFailures front
      exact rest_turn steady ran (fun _ => Operation.noConfusion)
        (fun _ _ => Operation.noConfusion) same rfl rfl (Session.front?_setFront front _)
  | change changes =>
      obtain ⟨session, same, ran⟩ := operate_change front changes
      exact rest_turn steady ran (fun _ => Operation.noConfusion)
        (fun _ _ => Operation.noConfusion) same rfl rfl (Session.front?_setFront front _)
  | advance span =>
      exact rest_turn steady (operate_advance depot index span) (fun _ => Operation.noConfusion)
        (fun _ _ => Operation.noConfusion) rfl rfl rfl front
  | setTime time =>
      exact rest_turn steady (operate_setTime depot index time) (fun _ => Operation.noConfusion)
        (fun _ _ => Operation.noConfusion) rfl rfl rfl front

end Operations

theorem deliver_absent {position : Nat} (absent : depot.waiting[position]? = none) :
    depot.deliver position = depot := by
  simp only [deliver, absent]

private theorem deliver_effect (paced : Paced index first second depot)
    (front : depot.session.bare.front? index = some (.tiered tiers first second))
    (position : Nat) :
    Effect index tiers first second depot (.deliver position) (depot.deliver position).view ∧
      Steady index first second (depot.deliver position) := by
  cases present : depot.waiting[position]? with
  | none =>
      rw [deliver_absent present]
      exact ⟨.skip present, paced.toSteady⟩
  | some entry =>
      obtain ⟨key, hooks, earlier, number, lookup, rfl, _⟩ :=
        paced.waiting entry (List.mem_of_getElem? present)
      obtain ⟨session, same, ran⟩ := deliver_both front present rfl
      have shelves : ∀ entry,
          ({ depot with waiting := depot.waiting.eraseIdx position }.write first key entry).shelves =
            fun layer name => if layer = first ∧ name = key then
              entry.or (depot.shelves layer name) else depot.shelves layer name := by
        intro entry
        funext layer name
        exact @shelves_write { depot with waiting := depot.waiting.eraseIdx position } layer
          (keeps_of_nil paced.kept layer) first key name entry
      rw [ran, view_of_bare same, waiting_write, shelves]
      have kept := @losses_write { depot with waiting := depot.waiting.eraseIdx position } paced.kept
      exact ⟨.arrive present rfl, paced.toSteady.after (slow_write _ _ _ _) (kept _ _ _)
        (by rw [same]; exact front)⟩

/-- What a turn can do. -/
theorem turn_effect (paced : Paced index first second depot)
    (front : depot.session.bare.front? index = some (.tiered tiers first second)) (turn : Turn) :
    Effect index tiers first second depot turn (depot.turn index turn).view ∧
      Steady index first second (depot.turn index turn) := by
  cases turn with
  | operate operation => exact operate_effect paced.toSteady front operation
  | deliver position => exact deliver_effect paced front position

theorem Paced.turn (paced : Paced index first second depot) (turn : Turn) :
    Paced index first second (depot.turn index turn) := by
  obtain ⟨tiers, front⟩ := paced.front
  obtain ⟨effect, steady⟩ := turn_effect paced front turn
  have waiting := paced.waiting
  have settled := paced.settled
  suffices awaited : (∀ entry ∈ (depot.turn index turn).view.waiting,
      ∃ key hooks earlier number lookup, entry = held index key hooks earlier number lookup ∧
        number < (depot.turn index turn).view.fresh) ∧
      ∀ entry ∈ (depot.turn index turn).view.outcomes,
        entry.1 < (depot.turn index turn).view.fresh from
    { steady with waiting := awaited.1, settled := awaited.2 }
  generalize (depot.turn index turn).view = view at effect ⊢
  cases effect with
  | rest keeps asksNothing => exact ⟨waiting, settled⟩
  | write writes others => exact ⟨waiting, settled⟩
  | remove key => exact ⟨waiting, settled⟩
  | serve key hooks judged found =>
      constructor
      · intro entry member
        obtain ⟨key, hooks, earlier, number, lookup, same, given⟩ := waiting entry member
        exact ⟨key, hooks, earlier, number, lookup, same, Nat.lt_succ_of_lt given⟩
      · intro entry member
        rcases List.mem_cons.mp member with rfl | old
        · exact Nat.lt_succ_self _
        · exact Nat.lt_succ_of_lt (settled entry old)
  | ask key hooks judged missed =>
      constructor
      · intro entry member
        rcases List.mem_append.mp member with old | new
        · obtain ⟨key, hooks, earlier, number, lookup, same, given⟩ := waiting entry old
          exact ⟨key, hooks, earlier, number, lookup, same, Nat.lt_succ_of_lt given⟩
        · exact ⟨_, _, _, _, _, List.mem_singleton.mp new, Nat.lt_succ_self _⟩
      · intro entry member
        exact Nat.lt_succ_of_lt (settled entry member)
  | skip absent => exact ⟨waiting, settled⟩
  | arrive present judged =>
      constructor
      · intro entry member
        exact waiting entry (List.mem_of_mem_eraseIdx member)
      · intro entry member
        rcases List.mem_cons.mp member with rfl | old
        · obtain ⟨_, _, _, _, _, same, given⟩ := waiting _ (List.mem_of_getElem? present)
          cases same
          exact given
        · exact settled entry old

theorem Paced.turns (paced : Paced index first second depot) (turns : List Turn) :
    Paced index first second (depot.turns index turns) := by
  induction turns generalizing depot with
  | nil => exact paced
  | cons turn rest ih => exact ih (paced.turn turn)

/-- No caller has the number that is given out next. -/
theorem Paced.fresh (paced : Paced index first second depot) :
    (∀ outcome, (depot.session.freshPromise, outcome) ∉ depot.session.outcomes) ∧
      ∀ key hooks earlier lookup,
        held index key hooks earlier depot.session.freshPromise lookup ∉ depot.waiting := by
  constructor
  · intro outcome member
    exact Nat.lt_irrefl _ (paced.settled _ member)
  · intro key hooks earlier lookup member
    obtain ⟨_, _, _, _, _, same, given⟩ := paced.waiting _ member
    cases same
    exact Nat.lt_irrefl _ given

/-- A caller whose answer is delivered is told the outcome. -/
theorem lookup_deliver
    (front : depot.session.bare.front? index = some (.tiered tiers first second)) {position : Nat}
    {hooks : Hooks} {earlier : Outcome} {number : Nat} {lookup : Lookup}
    (present : depot.waiting[position]? = some (held index key hooks earlier number lookup)) :
    (depot.deliver position).session.outcomes.lookup number = some (TwoTier.join earlier
      (ResponseCache.verdict tiers.second.policy depot.session.now key hooks.checks
        lookup.value?)) := by
  obtain ⟨session, same, ran⟩ := deliver_both front present rfl
  rw [ran]
  change session.bare.outcomes.lookup number = _
  rw [same]
  exact List.lookup_cons_self

/-- A front of two tiers of which the second answers late, over layers that hold what they like. -/
def openedLate (policy : Policy) (limit : Option Nat) (now : Millis)
    (shelves : Nat → String → Option Bytes) : Depot :=
  { opened policy limit now with shelves, slow := (· = 1) }

theorem paced_openedLate (policy : Policy) (limit : Option Nat) (now : Millis)
    (shelves : Nat → String → Option Bytes) : Paced 0 0 1 (openedLate policy limit now shelves) where
  front := ⟨_, rfl⟩
  quick := rfl
  slow := rfl
  kept := rfl
  waiting := fun _ member => absurd member List.not_mem_nil
  settled := fun _ member => absurd member List.not_mem_nil

end Depot

end TieredCache
