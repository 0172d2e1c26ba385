import TieredCache.Proofs.Guard.Moments

/-!
Callbacks and the lock of a guard. An answer that comes while its own call is in progress is kept back until
the guard is free; any other answer is passed on at once, and then its callback runs under the lock if
another call is in progress, so that it must not call the guard. Main statement: `callback_under_lock`.
-/

namespace TieredCache

/-- A call has taken hold of the guard and not let go of it yet. -/
def InProgress (index : Nat) (jobs : List Job) : Prop := Job.work (.freeGuard index) ∈ jobs

/-- The call that brought a lookup along has not come to handing out its answer yet. -/
def OwnCall (index : Nat) (jobs : List Job) (number : Nat) : Prop :=
  ∃ tickets, Job.work (.handOut index tickets) ∈ jobs ∧ number ∈ tickets

theorem free_mem_exitsIn {index : Nat} {jobs : List Job} :
    .free ∈ exitsIn index jobs ↔ InProgress index jobs := by
  rw [exitsIn, List.mem_filterMap]
  constructor
  · rintro ⟨job, member, way⟩
    cases job with
    | work work =>
        cases work with
        | freeGuard layer =>
            obtain ⟨rfl, -⟩ := Option.ite_none_right_eq_some.mp way
            exact member
        | handOut layer tickets =>
            obtain ⟨-, other⟩ := Option.ite_none_right_eq_some.mp way
            cases other
        | _ => cases way
    | _ => cases way
  · exact fun member => ⟨_, member, if_pos rfl⟩

theorem mem_pendingOf_exitsIn {index number : Nat} {jobs : List Job} :
    number ∈ pendingOf (exitsIn index jobs) ↔ OwnCall index jobs number := by
  rw [pendingOf, List.mem_flatMap]
  constructor
  · rintro ⟨exit, listed, waits⟩
    obtain ⟨job, member, way⟩ := List.mem_filterMap.mp listed
    cases job with
    | work work =>
        cases work with
        | freeGuard layer =>
            obtain ⟨-, same⟩ := Option.ite_none_right_eq_some.mp way
            cases same
            cases waits
        | handOut layer tickets =>
            obtain ⟨rfl, same⟩ := Option.ite_none_right_eq_some.mp way
            cases same
            exact ⟨tickets, member, waits⟩
        | _ => cases way
    | _ => cases way
  · rintro ⟨tickets, member, waits⟩
    exact ⟨.handOut tickets, List.mem_filterMap.mpr ⟨_, member, if_pos rfl⟩, waits⟩

namespace Session

variable {session : Session} {index inner : Nat} {guarded : Guard (Receiver Callback)} {job : Job}
  {jobs rest : List Job}

theorem Reached.sequenced (reached : Reached index session jobs)
    (placed : session.stack.layer? index = some (.guarded inner guarded)) :
    guarded.Sequenced (exitsIn index jobs) := by
  obtain ⟨_, _, there, sequenced⟩ := reached.inStep
  cases placed.symm.trans there
  exact sequenced

theorem Reached.held_iff (reached : Reached index session jobs)
    (placed : session.stack.layer? index = some (.guarded inner guarded)) :
    guarded.held = true ↔ InProgress index jobs :=
  (reached.sequenced placed).held_iff_mem.trans free_mem_exitsIn

/-- A call that hands out answers has left the guard, and so have all others. -/
theorem Reached.not_inProgress_of_handOut {tickets : List Nat}
    (reached : Reached index session (.work (.handOut index tickets) :: rest)) :
    ¬InProgress index (.work (.handOut index tickets) :: rest) := by
  obtain ⟨_, _, _, sequenced⟩ := reached.inStep
  intro busy
  have first := sequenced.held.mp (sequenced.held_iff_mem.mpr (free_mem_exitsIn.mpr busy))
  rw [exitsIn_cons] at first
  simp [Job.exit?, Work.exit?] at first

/-- What was kept back for a ticket is handed out when its own call comes to it. -/
theorem Reached.handOut {number : Nat} {tickets : List Nat} {ticket : Ticket (Receiver Callback)}
    (reached : session.Reached index (.work (.handOut index (number :: tickets)) :: rest))
    (placed : session.stack.layer? index = some (.guarded inner guarded))
    (known : guarded.find? number = some ticket) :
    (session.perform (.work (.handOut index (number :: tickets)))).2 =
      (ticket.kept.toList.map fun lookup => Job.work (.answer ticket.receiver lookup)) ++
        [.work (.handOut index tickets)] := by
  simp only [Session.perform, Stack.perform, reached.moving, Bool.false_eq_true, if_false,
    Stack.handOut, placed, Guard.leave, known]
  cases ticket.kept <;> rfl

/-- What becomes of an answer depends on whether the call that brought the lookup along is over. -/
theorem Reached.answer {number : Nat} {lookup : Lookup} {ticket : Ticket (Receiver Callback)}
    (reached : session.Reached index (.work (.answer (.ticket index number) lookup) :: rest))
    (placed : session.stack.layer? index = some (.guarded inner guarded))
    (known : guarded.find? number = some ticket) :
    let result := session.perform (.work (.answer (.ticket index number) lookup))
    (OwnCall index rest number → result.2 = [] ∧
      ∃ changed, result.1.stack.layer? index = some (.guarded inner changed) ∧
        changed.find? number = some { ticket with kept := some lookup }) ∧
    (¬OwnCall index rest number → result.2 = [.work (.answer ticket.receiver lookup)]) := by
  have sequenced := reached.sequenced placed
  have inside : ticket.inside = true ↔ OwnCall index rest number := by
    rw [sequenced.inside ticket (List.mem_of_find?_eq_some known), Guard.number_eq known,
      exitsIn_cons]
    exact mem_pendingOf_exitsIn
  have performed : session.perform (.work (.answer (.ticket index number) lookup)) =
      ({ session with
          stack := session.stack.setLayer index (.guarded inner (guarded.answer number lookup).1) },
        works (Stack.answerAll (guarded.answer number lookup).2.toList lookup)) := by
    simp only [Session.perform, Stack.perform, reached.moving, Bool.false_eq_true, if_false,
      Stack.answer, placed]
  intro result
  have same : result = session.perform _ := rfl
  rw [same, performed, Guard.answer, known]
  refine ⟨fun own => ?_, fun ended => ?_⟩
  · dsimp only
    rw [if_pos (inside.mpr own)]
    refine ⟨rfl, _, Stack.layer?_setLayer_self placed, ?_⟩
    rw [Guard.find?_update, if_pos (Guard.number_eq known).symm]
  · dsimp only
    rw [if_neg (mt inside.mp ended)]
    rfl

/-- A call of the guard waits for ever if another call is in progress, and else is in progress itself. -/
theorem Reached.call {work : Work Callback} (reached : Reached index session (.work work :: rest))
    (placed : session.stack.layer? index = some (.guarded inner guarded))
    (called : work.callee? = some index) :
    ((session.perform (.work work)).1.stack.stuck = true ↔ InProgress index rest) ∧
    (¬InProgress index rest → InProgress index (session.perform (.work work)).2) := by
  have performed : session.perform (.work work) =
      ({ session with stack := (session.stack.perform work).1 },
        works (session.stack.perform work).2) := by
    cases work <;> first | rfl | cases called
  have other : Job.work (.freeGuard index) ≠ .work work := by
    rintro ⟨⟩
    cases called
  have held : guarded.held = true ↔ InProgress index rest :=
    (reached.held_iff placed).trans (List.mem_cons.trans (or_iff_right other))
  rw [performed]
  constructor
  · rw [← held, ← Stack.stuck_of_call placed reached.moving called]
  · intro vacant
    have free : guarded.held = false := Bool.eq_false_iff.mpr (mt held.mp vacant)
    exact List.mem_map_of_mem (Stack.freeGuard_mem_of_call placed reached.moving called free)

end Session

/-- The layers that what is asked of a layer is passed on to, if it is asked about itself. -/
def LayerAction.onward? : LayerAction → Option (Layer Callback → Option Nat)
  | .query _ | .name => some Layer.inner?
  | .isHealthy => some Layer.consulted?
  | _ => none

namespace Session

variable {session : Session} {index inner : Nat} {guarded : Guard (Receiver Callback)} {job : Job}
  {jobs rest : List Job}

/-- Whoever asks about the guard waits for ever exactly if a call is in progress in it, or in a guard
behind it. -/
theorem Reached.question {label : String} {action : LayerAction} {name : Option String}
    {further : List Step} {onward : Layer Callback → Option Nat}
    (reached : Reached index session (.begin label (.mk (.layer index action) name further) :: rest))
    (placed : session.stack.layer? index = some (.guarded inner guarded))
    (asks : action.onward? = some onward) :
    (session.perform (.begin label (.mk (.layer index action) name further))).1.stack.stuck = true ↔
      InProgress index rest ∨ session.stack.isBarredFrom onward index inner = true := by
  have behind : onward (.guarded inner guarded) = some inner := by
    cases action <;> cases asks <;> rfl
  have barred : session.stack.isBarred onward index =
      (guarded.held || session.stack.isBarredFrom onward index inner) := by
    rw [Stack.isBarred, Stack.isBarredFrom]
    simp only [placed, behind, Option.any_some]
  have held : guarded.held = true ↔ InProgress index rest :=
    (reached.held_iff placed).trans (List.mem_cons.trans (or_iff_right nofun))
  have stuck : (session.perform (.begin label (.mk (.layer index action) name further))).1.stack.stuck =
      session.stack.isBarred onward index := by
    have tells (reply : Reply) :
        (if session.stack.isBarred onward index then
          { session with stack := { session.stack with stuck := true } }.answered .nothing
        else session.answered reply).session.stack.stuck = session.stack.isBarred onward index := by
      cases session.stack.isBarred onward index with
      | true => rfl
      | false => exact reached.moving
    cases action <;> cases asks <;> exact tells _
  rw [stuck, barred, Bool.or_eq_true, held]

end Session

/-- Where the callbacks that were passed through a guard run, at every moment of a session with it.

An answer that comes while its lookup's own call is in progress is kept back, and the call hands it out
when nobody holds the guard. Any other answer goes to its callback at once, and that runs under the lock
exactly if some other call is in progress: one from inside of which the layer behind answers an earlier
lookup, as it does when it is shut down while lookups wait. Every call takes the lock for as long as it is
in progress. Under the lock every further call waits for ever, and so does who asks about the guard;
without the lock none does, but for guards behind. -/
theorem callback_under_lock {session : Session} {index inner : Nat}
    {guarded : Guard (Receiver Callback)} {job : Job} {rest : List Job}
    (reached : session.Reached index (job :: rest))
    (placed : session.stack.layer? index = some (.guarded inner guarded)) :
    (∀ number tickets ticket, job = .work (.handOut index (number :: tickets)) →
      guarded.find? number = some ticket →
      guarded.held = false ∧
      (session.perform job).2 =
        (ticket.kept.toList.map fun lookup => Job.work (.answer ticket.receiver lookup)) ++
          [.work (.handOut index tickets)]) ∧
    (∀ number lookup ticket, job = .work (.answer (.ticket index number) lookup) →
      guarded.find? number = some ticket →
      (OwnCall index rest number →
        (session.perform job).2 = [] ∧
        ∃ changed, (session.perform job).1.stack.layer? index = some (.guarded inner changed) ∧
          changed.find? number = some { ticket with kept := some lookup }) ∧
      (¬OwnCall index rest number →
        (session.perform job).2 = [.work (.answer ticket.receiver lookup)] ∧
        (guarded.held = true ↔ InProgress index rest))) ∧
    (∀ work, job = .work work → work.callee? = some index →
      ((session.perform job).1.stack.stuck = true ↔ InProgress index rest) ∧
      (¬InProgress index rest → InProgress index (session.perform job).2)) ∧
    (∀ label action name further onward, job = .begin label (.mk (.layer index action) name further) →
      action.onward? = some onward →
      ((session.perform job).1.stack.stuck = true ↔
        InProgress index rest ∨ session.stack.isBarredFrom onward index inner = true)) := by
  refine ⟨?_, ?_, ?_, ?_⟩
  · rintro number tickets ticket rfl known
    refine ⟨Bool.eq_false_iff.mpr fun held => ?_, reached.handOut placed known⟩
    exact reached.not_inProgress_of_handOut ((reached.held_iff placed).mp held)
  · rintro number lookup ticket rfl known
    obtain ⟨keeps, passes⟩ := reached.answer placed known
    refine ⟨keeps, fun ended => ⟨passes ended, ?_⟩⟩
    exact (reached.held_iff placed).trans (List.mem_cons.trans (or_iff_right nofun))
  · rintro work rfl called
    exact reached.call placed called
  · rintro label action name further onward rfl asks
    exact reached.question placed asks

def Session.postponing : Session where
  stack :=
    { layers := [.memory { name := "memory", capacity := 64 }, .delayed 0 { delayed := ["k"] },
        .guarded 1 {}]
      now := 0 }

/-- The layer behind answers a lookup that waits from inside of the call that shuts it down. -/
theorem callback_under_lock_of_shutDown :
    ∃ (session : Session) (guarded : Guard (Receiver Callback)),
      session.Reached 2 [.work (.answer (.ticket 2 0) .notFound), .work (.shutDown 0),
        .work (.freeGuard 2)] ∧
      session.stack.layer? 2 = some (.guarded 1 guarded) ∧ guarded.held = true ∧
      (session.perform (.work (.answer (.ticket 2 0) .notFound))).2 =
        [.work (.answer (.client (.promise 0)) .notFound)] := by
  have pause (work : Work Callback) (foreign : work.exit? 2 = none) (session : Session) :
      session.Spares 2 session [.work work] :=
    ⟨fun _ _ placed => placed, id, List.forall_mem_singleton.mpr foreign⟩
  have asked := (Session.Reached.opened rfl rfl : Session.postponing.Reached 2 []).meanwhile
    (pause (.ask 2 "k" (.client (.promise 0))) rfl _) rfl
  have entered := asked.performed rfl
  have passed := entered.performed rfl
  have read := passed.performed rfl
  have captured := read.performed rfl
  have held := captured.performed rfl
  have freed := held.performed rfl
  have left := freed.performed rfl
  have idle := left.performed rfl
  have closing := idle.meanwhile (pause (.shutDown 2) rfl _) rfl
  have taken := closing.performed rfl
  have told := taken.performed rfl
  obtain ⟨-, passes⟩ := (callback_under_lock told rfl).2.1 0 .notFound _ rfl rfl
  have ended : ¬OwnCall 2 [.work (.shutDown 0), .work (.freeGuard 2)] 0 := by
    rintro ⟨tickets, member, -⟩
    simp at member
  obtain ⟨passedOn, locked⟩ := passes ended
  have busy : InProgress 2 [.work (.shutDown 0), .work (.freeGuard 2)] :=
    List.mem_cons_of_mem _ List.mem_cons_self
  exact ⟨_, _, told, rfl, locked.mpr busy, passedOn⟩

/-- A callback that puts an entry through the guard when the answer to its lookup comes at last: if that
is while the guard is shut down, the put waits for ever. -/
theorem shutDown_stuck_of_backfill :
    let asks (further : List Step) : Step := .mk (.layer 2 (.get "k")) none further
    let backfill : Step := .mk (.layer 2 (.put "k" [0])) none []
    let closes : Step := .mk (.layer 2 .shutDown) none []
    let after (further : List Step) : Session :=
      ((Session.postponing.take 0 (asks further)).1.take 1 closes).1
    (after [backfill]).stack.stuck = true ∧ (after []).stack.stuck = false := by
  decide +kernel

end TieredCache
