import TieredCache.Proofs.Decorators.Order
import TieredCache.Session.Run

/-!
Calls into a stack of decorators that is part of a session. What a call sets in motion comes to an end
with the credit at hand, and every callback on the way is noted once, where it is told.
-/

namespace TieredCache

def Callback.isPlain : Callback → Bool
  | .report _ [] | .promise _ => true
  | _ => false

def Event.told? : Event → Option (Callback × Lookup)
  | .lookup label value => some (.report label [], value)
  | _ => none

/-- What a client does when it is told an answer is not up to the stack. -/
theorem Stack.Effect.own {stack next : Stack Callback} {work : Work Callback}
    {more : List (Work Callback)} (effect : Stack.Effect stack work next more) :
    (∀ callback lookup, work ≠ .inform callback lookup) ∧ ∀ callback, work ≠ .forget callback := by
  constructor
  · rintro callback lookup rfl
    cases effect with
    | act placed act altered => cases act
    | pass passage => cases passage
    | idle nothing => cases nothing
  · rintro callback rfl
    cases effect with
    | act placed act altered => cases act
    | pass passage => cases passage
    | idle nothing => cases nothing

namespace Session

def told (session : Session) : List (Callback × Lookup) :=
  session.events.filterMap Event.told? ++
    session.lookups.map fun (number, lookup) => (.promise number, lookup)

variable {terms : Terms Callback} {session next : Session} {pool left rest : List (Work Callback)}
  {callback : Callback} {lookup : Lookup}

theorem mem_told_promise {number : Nat} :
    (.promise number, lookup) ∈ session.told ↔ (number, lookup) ∈ session.lookups := by
  rw [told, List.mem_append, List.mem_filterMap]
  constructor
  · rintro (⟨event, -, noted⟩ | kept)
    · cases event <;> cases noted
    · obtain ⟨pair, member, same⟩ := List.mem_map.mp kept
      cases same
      exact member
  · exact fun member => .inr (List.mem_map.mpr ⟨_, member, rfl⟩)

theorem told_inform (plain : callback.isPlain = true) :
    (session.inform callback lookup).1.told.Perm ((callback, lookup) :: session.told) := by
  cases callback with
  | report label further =>
      cases further with
      | nil => exact .refl _
      | cons step steps => cases plain
  | promise number => exact List.perm_middle
  | front place key hooks next => cases plain

theorem perform_inform (plain : callback.isPlain = true) :
    session.perform (.work (.inform callback lookup)) =
      ((session.inform callback lookup).1, works []) := by
  cases callback with
  | report label further =>
      cases further with
      | nil => rfl
      | cons step steps => cases plain
  | promise number => rfl
  | front place key hooks next => cases plain

inductive Turn : Session × List (Work Callback) → Session × List (Work Callback) → Prop where
  | work {session : Session} {pool left : List (Work Callback)} {stack : Stack Callback}
      (turn : Stack.Turn (session.stack, pool) (stack, left)) :
      Turn (session, pool) ({ session with stack }, left)
  | tell {session : Session} {callback : Callback} {lookup : Lookup} (rest : List (Work Callback))
      (plain : callback.isPlain = true) :
      Turn (session, .inform callback lookup :: rest) ((session.inform callback lookup).1, rest)

abbrev Leads : Session × List (Work Callback) → Session × List (Work Callback) → Prop :=
  Relation.ReflTransGen Turn

theorem leads_of_stack {first last : Stack Callback × List (Work Callback)}
    (leads : Stack.Leads first last) (session : Session) :
    Leads ({ session with stack := first.1 }, first.2) ({ session with stack := last.1 }, last.2) := by
  induction leads with
  | refl => exact .refl
  | tail _ turn ih => exact ih.tail (.work turn)

/-! ### What turns keep -/

theorem inform_stack (plain : callback.isPlain = true) :
    (session.inform callback lookup).1.stack = session.stack := by
  cases callback with
  | report label further => rfl
  | promise number => rfl
  | front place key hooks next => cases plain

structure Beside (session next : Session) : Prop where
  service : next.service = session.service
  freshPromise : next.freshPromise = session.freshPromise
  credit : next.credit = session.credit

structure InOrder (terms : Terms Callback) (session : Session) (pool : List (Work Callback)) :
    Prop where
  orderly : session.stack.Orderly terms pool
  right : ∀ pair ∈ session.told, terms.right pair.1 pair.2
  plain : ∀ callback lookup, terms.right callback lookup → callback.isPlain = true

theorem Turn.inOrder (turn : Turn (session, pool) (next, left))
    (inOrder : session.InOrder terms pool) : next.InOrder terms left := by
  cases turn with
  | work turn =>
      exact ⟨Stack.Leads.orderly (.single turn) inOrder.orderly, inOrder.right, inOrder.plain⟩
  | tell _ plain =>
      obtain ⟨orderly, right⟩ := inOrder.orderly.told
      refine ⟨?_, fun pair member => ?_, inOrder.plain⟩
      · rw [inform_stack plain]
        exact orderly
      · rcases List.mem_cons.mp ((told_inform plain).subset member) with here | old
        · rw [here]
          exact right
        · exact inOrder.right pair old

theorem Turn.beside (turn : Turn (session, pool) (next, left)) : session.Beside next := by
  cases turn with
  | work turn => exact ⟨rfl, rfl, rfl⟩
  | @tell _ callback lookup _ plain =>
      cases callback with
      | report label further => exact ⟨rfl, rfl, rfl⟩
      | promise number => exact ⟨rfl, rfl, rfl⟩
      | front place key hooks next => cases plain

/-- A callback is told, or it is still in the hands of the stack. -/
theorem Turn.callbacks_perm (turn : Turn (session, pool) (next, left))
    (inOrder : session.InOrder terms pool) :
    (next.told.map Prod.fst ++ next.stack.callbacks left).Perm
      (session.told.map Prod.fst ++ session.stack.callbacks pool) := by
  cases turn with
  | work turn =>
      cases turn with
      | mk rest moving performed effect =>
          exact (effect.callbacks_perm inOrder.orderly.steady.regular).append_left _
  | @tell _ callback lookup _ plain =>
      have told : ((session.inform callback lookup).1.told.map Prod.fst).Perm
          (callback :: session.told.map Prod.fst) := (told_inform plain).map Prod.fst
      have waiting : (session.stack.callbacks (.inform callback lookup :: left)).Perm
          (callback :: session.stack.callbacks left) := by
        simp only [Stack.callbacks, rootsOf_cons, Work.roots, Work.receivers, List.map_cons,
          List.map_nil, Receiver.root, List.flatMap_append, List.flatMap_cons,
          Receiver.callbacks, List.cons_append, List.nil_append]
        exact List.perm_middle
      rw [inform_stack plain]
      refine (told.append_right _).trans ?_
      exact List.perm_middle.symm.trans (waiting.symm.append_left _)

theorem Turn.toll_lt (turn : Turn (session, pool) (next, left)) (steady : session.stack.Steady) :
    next.stack.toll + tollOf left < session.stack.toll + tollOf pool := by
  cases turn with
  | work turn =>
      cases turn with
      | mk rest moving performed effect =>
          have less := effect.toll_lt steady.decorated
          rw [tollOf_append, tollOf_cons]
          simp only
          omega
  | @tell _ callback lookup _ plain =>
      rw [inform_stack plain, tollOf_cons]
      have positive := (Work.inform callback lookup).toll_pos
      omega

/-- What holds from the first turn on holds after all. -/
theorem Leads.inOrder {first last : Session × List (Work Callback)} (leads : Leads first last)
    (inOrder : first.1.InOrder terms first.2) : last.1.InOrder terms last.2 := by
  induction leads with
  | refl => exact inOrder
  | tail _ turn ih => exact turn.inOrder ih

theorem Leads.beside {first last : Session × List (Work Callback)} (leads : Leads first last) :
    first.1.Beside last.1 := by
  induction leads with
  | refl => exact ⟨rfl, rfl, rfl⟩
  | tail _ turn ih =>
      have next := turn.beside
      exact ⟨next.service.trans ih.service, next.freshPromise.trans ih.freshPromise,
        next.credit.trans ih.credit⟩

theorem Leads.callbacks_perm {first last : Session × List (Work Callback)} (leads : Leads first last)
    (inOrder : first.1.InOrder terms first.2) :
    (last.1.told.map Prod.fst ++ last.1.stack.callbacks last.2).Perm
      (first.1.told.map Prod.fst ++ first.1.stack.callbacks first.2) := by
  induction leads with
  | refl => exact .refl _
  | tail leads turn ih => exact (turn.callbacks_perm (Leads.inOrder leads inOrder)).trans ih

theorem Leads.toll_le {first last : Session × List (Work Callback)} (leads : Leads first last)
    (inOrder : first.1.InOrder terms first.2) :
    last.1.stack.toll + tollOf last.2 ≤ first.1.stack.toll + tollOf first.2 := by
  induction leads with
  | refl => exact Nat.le_refl _
  | tail leads turn ih =>
      have less := turn.toll_lt (Leads.inOrder leads inOrder).orderly.steady
      omega

/-! ### The credit is enough -/

theorem perform_work (session : Session) {work : Work Callback}
    (own : ∀ callback lookup, work ≠ .inform callback lookup) (kept : ∀ callback, work ≠ .forget callback) :
    session.perform (.work work) =
      ({ session with stack := (session.stack.perform work).1 },
        works (session.stack.perform work).2) := by
  cases work with
  | inform callback lookup => exact absurd rfl (own callback lookup)
  | forget callback => exact absurd rfl (kept callback)
  | _ => rfl

theorem works_append (first second : List (Work Callback)) :
    works (first ++ second) = works first ++ works second := List.map_append

theorem Turn.run (turn : Turn (session, pool) (next, left)) (steps : Nat) :
    Agenda.run perform (steps + 1) session (works pool) = Agenda.run perform steps next (works left) := by
  cases turn with
  | work turn =>
      cases turn with
      | @mk _ _ work more rest moving performed effect =>
          change Agenda.run perform (steps + 1) session (.work work :: works rest) = _
          rw [Agenda.run_cons, perform_work session effect.own.1 effect.own.2, performed, works_append]
  | @tell _ callback lookup _ plain =>
      change Agenda.run perform (steps + 1) session (.work (.inform callback lookup) :: works left) = _
      rw [Agenda.run_cons, perform_inform plain]
      rfl

/-- A run takes the turns that lead to its end, and what the stack holds back stays paid for. -/
theorem run_of_leads {first : Session × List (Work Callback)} {last : Session}
    (leads : Leads first (last, [])) (inOrder : first.1.InOrder terms first.2) {credit : Nat}
    (paid : first.1.stack.toll + tollOf first.2 ≤ credit) :
    ∃ spare, Agenda.run perform credit first.1 (works first.2) = (spare, last) ∧
      last.stack.toll ≤ spare := by
  induction leads using Relation.ReflTransGen.head_induction_on generalizing credit with
  | refl =>
      refine ⟨credit, Agenda.run_nil perform credit last, ?_⟩
      simpa using paid
  | @head before after turn leads ih =>
      have less := Turn.toll_lt turn inOrder.orderly.steady
      cases credit with
      | zero => omega
      | succ steps =>
          rw [Turn.run turn steps]
          exact ih (Turn.inOrder turn inOrder) (by omega)

/-- Work that comes from outside comes to its end when no guard is held. -/
theorem settles {works : List (Work Callback)} (inOrder : session.InOrder terms works)
    (free : session.stack.Free) (calm : ∀ work ∈ works, work.isCalm = true) :
    ∃ last, Leads (session, works) (last, []) ∧ last.stack.Free := by
  induction bound : session.stack.toll + tollOf works using Nat.strongRecOn
    generalizing session works with
  | ind toll ih =>
      cases works with
      | nil => exact ⟨session, .refl, free⟩
      | cons work rest =>
          have later : ∀ other ∈ rest, other.isCalm = true :=
            fun other member => calm other (List.mem_cons_of_mem _ member)
          by_cases telling : ∃ callback lookup, work = .inform callback lookup
          · obtain ⟨callback, lookup, rfl⟩ := telling
            have plain := inOrder.plain callback lookup inOrder.orderly.told.2
            have turn : Turn (session, .inform callback lookup :: rest)
                ((session.inform callback lookup).1, rest) := .tell rest plain
            have less := turn.toll_lt inOrder.orderly.steady
            obtain ⟨last, leads, freed⟩ := ih _ (by omega) (turn.inOrder inOrder)
              (by rw [inform_stack plain]; exact free) later rfl
            exact ⟨last, .head turn leads, freed⟩
          · have quiet : ∀ callback lookup, work ≠ .inform callback lookup :=
              fun callback lookup same => telling ⟨callback, lookup, same⟩
            obtain ⟨next, more, settled⟩ := inOrder.orderly.steady.settling free
              (inOrder.orderly.expected work List.mem_cons_self) quiet (calm work List.mem_cons_self) rest
            obtain ⟨⟨middle, left⟩, turn, leads⟩ := Relation.TransGen.head'_iff.mp settled.leads
            have first : Turn (session, work :: rest) ({ session with stack := middle }, left) :=
              .work turn
            have others := leads_of_stack leads session
            have again := first.inOrder inOrder
            have less := first.toll_lt inOrder.orderly.steady
            have same := Leads.toll_le others again
            obtain ⟨last, final, freed⟩ := ih _ (Nat.lt_of_le_of_lt same (bound ▸ less))
              (Leads.inOrder others again) settled.free (fun other member =>
                (List.mem_append.mp member).elim (settled.calm other) (later other)) rfl
            exact ⟨last, .head first (others.trans final), freed⟩

end Session

end TieredCache
