import TieredCache.Proofs.Decorators.Operations

/-!
Runs of operations on a stack of decorators, with all that was handed in and all that was told. Main
statement: a run is kept in order by every operation, so that what was handed in is told or still held,
and what was told is right.
-/

namespace TieredCache

/-! ### Runs -/

structure Moment where
  number : Nat
  before : Session
  operation : StackOperation
  after : Session
  report : StepReport

namespace Moment

def started (moment : Moment) : Session.Started :=
  moment.before.start ("s" ++ toString moment.number) (moment.operation.step moment.before.top)

/-- The callbacks that were handed in, and the keys that they are for. -/
def handed (moment : Moment) : List (Callback × String) := moment.started.jobs.flatMap Job.handed

/-- Who was told what: what was reported, and the promises that have become answers. -/
def told (moment : Moment) : List (Callback × Lookup) :=
  moment.report.events.filterMap Event.told? ++
    (moment.after.lookups.take (moment.after.lookups.length - moment.before.lookups.length)).map
      fun (number, lookup) => (.promise number, lookup)

end Moment

/-- The operations done so far, and the session that they came to. -/
structure History where
  moments : List Moment
  session : Session

namespace History

def handed (history : History) : List (Callback × String) := history.moments.flatMap Moment.handed

def told (history : History) : List (Callback × Lookup) := history.moments.flatMap Moment.told

def moment (history : History) (operation : StackOperation) : Moment :=
  let (after, report) :=
    history.session.take history.moments.length (operation.step history.session.top)
  { number := history.moments.length, before := history.session, operation, after, report }

def next (history : History) (operation : StackOperation) : History where
  moments := history.moments ++ [history.moment operation]
  session := (history.moment operation).after

end History

namespace History

variable (history : History) (operation : StackOperation)

theorem latest_next :
    (history.next operation).moments[history.moments.length]? = some (history.moment operation) := by
  rw [next, List.getElem?_append_right (Nat.le_refl _), Nat.sub_self]
  rfl

theorem length_next : (history.next operation).moments.length = history.moments.length + 1 := by
  rw [next, List.length_append]
  rfl

theorem told_next :
    (history.next operation).told = history.told ++ (history.moment operation).told := by
  rw [told, next, List.flatMap_append, List.flatMap_singleton]
  rfl

theorem handed_next :
    (history.next operation).handed = history.handed ++ (history.moment operation).handed := by
  rw [handed, next, List.flatMap_append, List.flatMap_singleton]
  rfl

end History

def Session.play (session : Session) (operations : List StackOperation) : History :=
  operations.foldl History.next ⟨[], session⟩

theorem Session.play_concat (session : Session) (operations : List StackOperation)
    (operation : StackOperation) :
    session.play (operations ++ [operation]) = (session.play operations).next operation := by
  rw [play, play, List.foldl_append]
  rfl

/-! ### What is right -/

/-- Whether an answer is a miss, or what the tier at the bottom had for the key when some operation
began, from an operation on. -/
def Answers (moments : List Moment) (start : Nat) (key : String) (lookup : Lookup) : Prop :=
  lookup = .notFound ∨ ∃ place moment, start ≤ place ∧ moments[place]? = some moment ∧
    lookup = moment.before.stack.found key

def termsOf (moments : List Moment) : Terms Callback where
  wants := fun callback key => ∃ moment ∈ moments, (callback, key) ∈ moment.handed
  right := fun callback lookup => ∃ start moment key, moments[start]? = some moment ∧
    (callback, key) ∈ moment.handed ∧ Answers moments start key lookup

variable {moments : List Moment} {moment : Moment} {history : History} {operation : StackOperation}

theorem Answers.mono {start : Nat} {key : String} {lookup : Lookup}
    (answers : Answers moments start key lookup) (more : List Moment) :
    Answers (moments ++ more) start key lookup := by
  rcases answers with miss | ⟨place, moment, since, there, read⟩
  · exact .inl miss
  · exact .inr ⟨place, moment, since, List.getElem?_append_left
      (List.getElem?_eq_some_iff.mp there).1 ▸ there, read⟩

theorem grow_termsOf (moments more : List Moment) :
    (termsOf moments).Grow (termsOf (moments ++ more)) where
  wants := fun _ _ ⟨moment, member, handed⟩ => ⟨moment, List.mem_append_left _ member, handed⟩
  right := fun _ _ ⟨start, moment, key, there, handed, answers⟩ =>
    ⟨start, moment, key, List.getElem?_append_left (List.getElem?_eq_some_iff.mp there).1 ▸ there,
      handed, answers.mono more⟩

theorem Moment.handed_eq (moment : Moment) :
    moment.handed = (moment.operation.pool moment.before.top ("s" ++ toString moment.number)
      moment.before.freshPromise).flatMap Work.handed := by
  rw [handed, started, StackOperation.jobs_start, handed_works]

theorem Moment.isPlain_handed {callback : Callback} {key : String}
    (member : (callback, key) ∈ moment.handed) : callback.isPlain = true := by
  rw [handed_eq] at member
  cases operation : moment.operation with
  | get own | lookup own =>
      rw [operation] at member
      simp only [StackOperation.pool, List.flatMap_singleton, Work.handed, Receiver.callbacks,
        List.map_cons, List.map_nil, List.mem_singleton, Prod.mk.injEq] at member
      rw [member.1]
      rfl
  | getMany keys | lookupMany keys =>
      rw [operation] at member
      simp only [StackOperation.pool, List.flatMap_singleton, StackOperation.handed_requests] at member
      obtain ⟨place, inside, same⟩ := List.mem_mapIdx.mp member
      cases same
      rfl
  | _ =>
      rw [operation] at member
      cases member

/-! ### An operation begins -/

theorem Layer.found_present (tree : FileTree) (present other : FileTime) (key : String)
    (layer : Layer Callback) : layer.found tree present key = layer.found tree other key := by
  cases layer with
  | disk store =>
      simp only [found, DiskStore.get]
      split
      · rfl
      · split <;> rfl
  | _ => rfl

namespace StackOperation

variable {stack : Stack Callback}

theorem alongside_mark (operation : StackOperation) (stack : Stack Callback) :
    stack.Alongside (operation.mark stack) := by
  cases operation with
  | delayKey layer key =>
      rw [mark, Stack.delayKey]
      split
      · rename_i inner delay placed
        refine Stack.alongside_setLayer placed ?_
        rw [Delay.delayKey]
        split <;> rfl
      · exact .refl stack
  | _ => exact .refl stack

theorem found_mark (operation : StackOperation) (decorated : stack.Decorated) (key : String) :
    (operation.mark stack).found key = stack.found key := by
  cases operation with
  | delayKey layer other =>
      rw [mark, Stack.delayKey]
      split
      · rename_i inner delay placed
        have above : layer ≠ 0 := by
          rintro rfl
          obtain ⟨bottom, first, holds⟩ := decorated.bottom
          cases placed.symm.trans first
          cases holds
        rw [Stack.found, Stack.layer?_setLayer_of_ne above]
        rfl
      · rfl
  | _ => rfl

theorem mark_eq {operation : StackOperation} (prompt : operation.delays = false) :
    operation.mark stack = stack := by
  cases operation <;> first | rfl | cases prompt

end StackOperation

namespace History

def begun (history : History) (operation : StackOperation) : Session :=
  let step := operation.step history.session.top
  ((history.session.prepared step).start ("s" ++ toString history.moments.length) step).session

def pool (history : History) (operation : StackOperation) : List (Work Callback) :=
  operation.pool history.session.top ("s" ++ toString history.moments.length)
    history.session.freshPromise

def ran (history : History) (operation : StackOperation) : Session :=
  (history.begun operation).run (Session.works (history.pool operation))

theorem handed_moment (history : History) (operation : StackOperation) :
    (history.moment operation).handed = (history.pool operation).flatMap Work.handed :=
  Moment.handed_eq _

theorem alongside_begun (history : History) (operation : StackOperation) :
    history.session.stack.Alongside (history.begun operation).stack := by
  rw [begun, StackOperation.session_start]
  have timed : history.session.stack.Upkeep { history.session.stack with present := Session.present } :=
    Stack.upkeep_of_layers_eq rfl rfl rfl
  exact timed.toAlongside.trans (operation.alongside_mark _)

theorem closed_begun (history : History) {operation : StackOperation} (prompt : operation.delays = false)
    (closed : history.session.stack.Closed) : (history.begun operation).stack.Closed := by
  rw [begun, StackOperation.session_start]
  simp only [StackOperation.mark_eq prompt]
  exact closed

theorem found_begun (history : History) (operation : StackOperation)
    (decorated : history.session.stack.Decorated) (key : String) :
    (history.begun operation).stack.found key = history.session.stack.found key := by
  rw [begun, StackOperation.session_start]
  have timed : history.session.stack.Upkeep { history.session.stack with present := Session.present } :=
    Stack.upkeep_of_layers_eq rfl rfl rfl
  refine (operation.found_mark (timed.decorated decorated) key).trans ?_
  rw [Stack.found, Stack.found]
  exact congrArg (Option.getD · _) (congrArg (Option.map · (history.session.stack.layer? 0))
    (funext fun layer => layer.found_present _ _ _ _))

/-! ### An operation ends -/

structure Kept (history : History) : Prop where
  resting : history.session.Resting (termsOf history.moments)
  accounts : (history.told.map Prod.fst ++ history.session.stack.callbacks []).Perm
    (history.handed.map Prod.fst)
  answered : ∀ pair ∈ history.told, (termsOf history.moments).right pair.1 pair.2
  promises : ∀ number lookup, (.promise number, lookup) ∈ history.told ↔
    (number, lookup) ∈ history.session.lookups

theorem Kept.steady (kept : history.Kept) : history.session.stack.Steady := by
  obtain ⟨former, orderly, alongside⟩ := kept.resting.orderly
  exact alongside.steady orderly.steady

theorem Kept.highest (kept : history.Kept) :
    history.session.stack.layers.length = history.session.top + 1 := by
  obtain ⟨layer, placed, -⟩ := kept.steady.decorated.bottom
  have inside := (List.getElem?_eq_some_iff.mp placed).1
  rw [Session.top]
  omega

theorem Kept.begin (kept : history.Kept) (operation : StackOperation) :
    (history.begun operation).InOrder (termsOf (history.next operation).moments) [] ∧
      (history.begun operation).stack.Free := by
  refine kept.resting.begin (grow_termsOf _ _) (history.alongside_begun operation) ?_ ?_ ?_ ?_ ?_
  · rw [begun, StackOperation.session_start]
    exact kept.resting.silent
  · rw [begun, StackOperation.session_start]
    rfl
  · rintro callback key ⟨moment, member, handed⟩
    obtain ⟨start, there⟩ := List.mem_iff_getElem?.mp member
    exact ⟨start, moment, key, there, handed, .inl rfl⟩
  · rintro callback key ⟨moment, member, handed⟩
    obtain ⟨start, there⟩ := List.mem_iff_getElem?.mp member
    have inside := (List.getElem?_eq_some_iff.mp there).1
    rw [length_next] at inside
    exact ⟨start, moment, key, there, handed, .inr ⟨history.moments.length, history.moment operation,
      by omega, history.latest_next operation, history.found_begun operation kept.steady.decorated key⟩⟩
  · rintro callback lookup ⟨start, moment, key, there, handed, -⟩
    exact Moment.isPlain_handed handed

theorem Kept.run (kept : history.Kept) (operation : StackOperation) :
    Session.Ran (termsOf (history.next operation).moments)
        ((history.moment operation).handed.map Prod.fst) (history.begun operation)
        (history.ran operation) ∧
      (operation = .shutDown ∨ (history.begun operation).stack.Closed →
        (history.ran operation).stack.Closed) := by
  obtain ⟨inOrder, free⟩ := kept.begin operation
  have alongside := history.alongside_begun operation
  rw [handed_moment]
  refine operation.ran _ _ inOrder free ?_ (fun pair member => ?_) ?_
  · rw [alongside.length_eq, kept.highest]
  · refine ⟨history.moment operation, List.mem_append_right _ (List.mem_singleton_self _), ?_⟩
    rw [handed_moment]
    exact member
  · have cost := operation.tollOf_pool_le history.session.top
      ("s" ++ toString history.moments.length) history.session.freshPromise
    have paid := kept.resting.paid
    rw [alongside.toll_eq, begun, StackOperation.session_start]
    simp only [Session.prepared, Session.workPerLookup, kept.highest]
    exact Nat.add_le_add paid cost

theorem Kept.take (kept : history.Kept) (operation : StackOperation) :
    (history.moment operation).after = (history.ran operation).finished history.moments.length ∧
      (history.moment operation).report.events.Perm (history.ran operation).events ∧
      (history.moment operation).report.reply =
        ((history.session.prepared (operation.step history.session.top)).start
          ("s" ++ toString history.moments.length) (operation.step history.session.top)).reply
            { history.ran operation with stack := (history.ran operation).stack.runChecks } := by
  obtain ⟨runs, -⟩ := kept.run operation
  obtain ⟨former, orderly, alongside⟩ := runs.orderly
  have served : (history.ran operation).service.waiting = [] := by
    rw [runs.service, begun, StackOperation.session_start]
    exact kept.resting.served
  have runs : (history.begun operation).run ((history.session.prepared
      (operation.step history.session.top)).start ("s" ++ toString history.moments.length)
        (operation.step history.session.top)).jobs = history.ran operation := by
    rw [StackOperation.jobs_start]
    rfl
  obtain ⟨after, events, reply⟩ :=
    Session.take_eq rfl runs (alongside.departures.trans orderly.settled) served
  refine ⟨after, ?_, reply⟩
  change (history.session.take history.moments.length
    (operation.step history.session.top)).2.events.Perm _
  rw [events]
  split
  · exact (List.mergeSort_perm _ _).trans (List.reverse_perm _)
  · exact List.reverse_perm _

/-- What a session has noted so far, with what it noted before the operation. -/
theorem Kept.told_perm (kept : history.Kept) (operation : StackOperation) :
    (history.ran operation).told.Perm ((history.moment operation).told ++ history.session.told) := by
  obtain ⟨after, events, -⟩ := kept.take operation
  obtain ⟨runs, -⟩ := kept.run operation
  have before : (history.begun operation).lookups = history.session.lookups := by
    rw [begun, StackOperation.session_start]
    rfl
  obtain ⟨fresh, same⟩ := runs.kept
  rw [before] at same
  have taken : (history.moment operation).after.lookups.take
      ((history.moment operation).after.lookups.length - history.session.lookups.length) = fresh := by
    rw [after]
    change (history.ran operation).lookups.take
      ((history.ran operation).lookups.length - history.session.lookups.length) = fresh
    rw [← same]
    simp
  rw [Moment.told]
  change List.Perm _ (_ ++ List.map _ ((history.moment operation).after.lookups.take
    ((history.moment operation).after.lookups.length - history.session.lookups.length)) ++ _)
  rw [taken, Session.told, Session.told, kept.resting.silent, ← same, List.map_append,
    ← List.append_assoc]
  exact ((events.symm.filterMap _).append_right _).append_right _

/-- What is handed in is told by the end of the operation, or is held like what was held before. -/
theorem Kept.accounts_moment (kept : history.Kept) (operation : StackOperation) :
    ((history.moment operation).told.map Prod.fst ++
        (history.moment operation).after.stack.callbacks []).Perm
      (history.session.stack.callbacks [] ++ (history.moment operation).handed.map Prod.fst) := by
  obtain ⟨after, -, -⟩ := kept.take operation
  obtain ⟨runs, -⟩ := kept.run operation
  have told := (kept.told_perm operation).map Prod.fst
  have before : (history.begun operation).told = history.session.told := by
    rw [begun, StackOperation.session_start]
    rfl
  have accounts := runs.accounts
  rw [before, (history.alongside_begun operation).callbacks_eq] at accounts
  rw [after, (Session.upkeep_finished _ _).callbacks_eq]
  rw [List.map_append] at told
  refine (List.perm_append_left_iff (history.session.told.map Prod.fst)).mp ?_
  refine .trans ?_ accounts
  rw [← List.append_assoc]
  exact (List.perm_append_comm.trans told.symm).append_right _

theorem Kept.next (kept : history.Kept) (operation : StackOperation) : (history.next operation).Kept := by
  obtain ⟨after, -, -⟩ := kept.take operation
  obtain ⟨runs, -⟩ := kept.run operation
  have told := kept.told_perm operation
  have whole := history.told_next operation
  refine ⟨?_, ?_, fun pair member => ?_, fun number lookup => ?_⟩
  · change Session.Resting _ (history.moment operation).after
    rw [after]
    refine runs.resting ?_ _
    rw [begun, StackOperation.session_start]
    exact kept.resting.served
  · rw [whole, handed_next, List.map_append, List.map_append, List.append_assoc]
    exact ((kept.accounts_moment operation).append_left _).trans (by
      rw [← List.append_assoc]
      exact kept.accounts.append_right _)
  · rw [whole] at member
    rcases List.mem_append.mp member with old | new
    · exact (grow_termsOf _ _).right _ _ (kept.answered pair old)
    · exact runs.right pair (told.symm.subset (List.mem_append_left _ new))
  · change _ ↔ (number, lookup) ∈ (history.moment operation).after.lookups
    rw [whole, List.mem_append, kept.promises, after, ← Session.mem_told_promise, or_comm,
      ← List.mem_append, ← told.mem_iff]
    exact Session.mem_told_promise

end History

end TieredCache
