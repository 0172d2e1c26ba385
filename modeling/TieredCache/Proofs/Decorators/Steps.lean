import TieredCache.Proofs.Decorators.Upkeep

/-!
Whole steps of a session over a stack of decorators: the calls of a step are paid for, and what follows
them leaves everything in order for the next step.
-/

namespace TieredCache

namespace Session

variable {terms wider : Terms Callback} {session ran : Session} {pool : List (Work Callback)}

/-! ### The parts of a step -/

def prepared (session : Session) (step : Step) : Session :=
  { session with
    credit := session.credit + step.weight * session.workPerLookup
    stack := { session.stack with present } }

def finished (session : Session) (number : Nat) : Session :=
  let checked := session.stack.runChecks
  { session with
    events := []
    stack := { checked with tree := stampTree checked.tree (timeOf number), signals := [] }.tidy }

theorem deliverAll_of_settled (settled : session.stack.departures = []) (rounds : Nat) :
    session.deliverAll rounds = session := by
  cases rounds with
  | zero => rfl
  | succ rounds =>
      rw [deliverAll]
      split
      · rfl
      · rename_i there
        rw [settled] at there
        cases there

theorem serveWaiting_of_served (served : session.service.waiting = []) :
    session.serveWaiting = session := by
  have same : { session.service with waiting := [] } = session.service := by rw [← served]
  rw [serveWaiting]
  split
  · rfl
  · rw [served, List.foldl_nil, same]

/-- Where no request is under way, a step is the work that it starts and what is settled after it. -/
theorem take_eq {number : Nat} {step : Step} {started : Started}
    (starts : (session.prepared step).start ("s" ++ toString number) step = started)
    (runs : started.session.run started.jobs = ran) (settled : ran.stack.departures = [])
    (served : ran.service.waiting = []) :
    (session.take number step).1 = ran.finished number ∧
      (session.take number step).2.events =
        (if step.reportsUnordered then Event.sorted ran.events.reverse else ran.events.reverse) ∧
      (session.take number step).2.reply = started.reply { ran with stack := ran.stack.runChecks } := by
  rw [prepared] at starts
  have whole : session.take number step =
      (ran.finished number,
        { reply := started.reply { ran with stack := ran.stack.runChecks }
          events := if step.reportsUnordered then Event.sorted ran.events.reverse
            else ran.events.reverse
          requests := ran.service.received.drop session.service.received.length
          signals := ran.stack.runChecks.signals.reverse }) := by
    simp only [take, starts, runs, deliverAll_of_settled settled, serveWaiting_of_served served]
    rfl
  rw [whole]
  exact ⟨rfl, rfl, rfl⟩

/-! ### Runs -/

theorem InOrder.begin (inOrder : session.InOrder terms [])
    (expected : ∀ work ∈ pool, Stack.Expected session.stack work)
    (own : ∀ book, ∀ work ∈ pool, work.Sound terms book) : session.InOrder terms pool :=
  ⟨inOrder.orderly.begin expected own, inOrder.right, inOrder.plain⟩

structure Ran (terms : Terms Callback) (handed : List Callback) (session ran : Session) : Prop where
  orderly : ∃ former : Stack Callback, former.Orderly terms [] ∧ former.Alongside ran.stack
  free : ran.stack.Free
  paid : ran.stack.toll ≤ ran.credit
  service : ran.service = session.service
  freshPromise : ran.freshPromise = session.freshPromise
  right : ∀ pair ∈ ran.told, terms.right pair.1 pair.2
  accounts : (ran.told.map Prod.fst ++ ran.stack.callbacks []).Perm
    (session.told.map Prod.fst ++ (session.stack.callbacks [] ++ handed))
  noted : session.events <:+ ran.events
  kept : session.lookups <:+ ran.lookups

theorem Turn.noted {next : Session} {left : List (Work Callback)}
    (turn : Turn (session, pool) (next, left)) :
    session.events <:+ next.events ∧ session.lookups <:+ next.lookups := by
  cases turn with
  | work turn => exact ⟨List.suffix_rfl, List.suffix_rfl⟩
  | @tell _ callback lookup _ plain =>
      cases callback with
      | report label further => exact ⟨List.suffix_cons _ _, List.suffix_rfl⟩
      | promise number => exact ⟨List.suffix_rfl, List.suffix_cons _ _⟩
      | front place key hooks next => cases plain

theorem Leads.noted {first last : Session × List (Work Callback)} (leads : Leads first last) :
    first.1.events <:+ last.1.events ∧ first.1.lookups <:+ last.1.lookups := by
  induction leads with
  | refl => exact ⟨List.suffix_rfl, List.suffix_rfl⟩
  | tail _ turn ih =>
      have next := Turn.noted turn
      exact ⟨ih.1.trans next.1, ih.2.trans next.2⟩

theorem Leads.closed {first last : Session × List (Work Callback)} (leads : Leads first last)
    (closed : first.1.stack.Closed) (prompt : ∀ work ∈ first.2, work.holds = false) :
    last.1.stack.Closed ∧ ∀ work ∈ last.2, work.holds = false := by
  induction leads with
  | refl => exact ⟨closed, prompt⟩
  | tail _ turn ih =>
      obtain ⟨shut, before⟩ := ih
      cases turn with
      | work turn =>
          cases turn with
          | mk rest moving performed effect =>
              obtain ⟨after, left⟩ := effect.closed shut (before _ List.mem_cons_self)
              exact ⟨after, fun work member => (List.mem_append.mp member).elim (left work)
                fun old => before work (List.mem_cons_of_mem _ old)⟩
      | tell rest plain =>
          rw [inform_stack plain]
          exact ⟨shut, fun work member => before work (List.mem_cons_of_mem _ member)⟩

theorem callbacks_append (stack : Stack Callback) (pool : List (Work Callback)) :
    stack.callbacks pool = stack.callbacks [] ++ (rootsOf pool).flatMap Receiver.callbacks := by
  simp only [Stack.callbacks, rootsOf_nil, List.append_nil, List.flatMap_append]

theorem ran_of_leads {last : Session} (leads : Leads (session, pool) (last, []))
    (inOrder : session.InOrder terms pool) (free : last.stack.Free)
    (paid : session.stack.toll + tollOf pool ≤ session.credit) :
    (session.run (works pool)).stack = last.stack ∧
      Ran terms ((rootsOf pool).flatMap Receiver.callbacks) session (session.run (works pool)) := by
  obtain ⟨spare, ran, left⟩ := run_of_leads leads inOrder paid
  have whole : session.run (works pool) = { last with credit := spare } := by
    rw [run, ran]
  have ordered := Leads.inOrder leads inOrder
  have beside := Leads.beside leads
  have noted := Leads.noted leads
  have accounts := Leads.callbacks_perm leads inOrder
  rw [callbacks_append session.stack pool] at accounts
  rw [whole]
  exact ⟨rfl, ⟨last.stack, ordered.orderly, .refl _⟩, free, left, beside.service,
    beside.freshPromise, ordered.right, accounts, noted.1, noted.2⟩

/-- Calls come to their end; where all is closed, it stays closed. -/
theorem ran_calls (inOrder : session.InOrder terms pool) (free : session.stack.Free)
    (calm : ∀ work ∈ pool, work.isCalm = true) (prompt : ∀ work ∈ pool, work.holds = false)
    (paid : session.stack.toll + tollOf pool ≤ session.credit) :
    Ran terms ((rootsOf pool).flatMap Receiver.callbacks) session (session.run (works pool)) ∧
      (session.stack.Closed → (session.run (works pool)).stack.Closed) := by
  obtain ⟨last, leads, freed⟩ := settles inOrder free calm
  obtain ⟨same, ran⟩ := ran_of_leads leads inOrder freed paid
  exact ⟨ran, fun closed => same ▸ (Leads.closed leads closed prompt).1⟩

/-- Shutting the stack down from its top comes to its end, and then all is closed. -/
theorem ran_closing {top : Nat} (inOrder : session.InOrder terms [.shutDown top])
    (free : session.stack.Free) (highest : session.stack.layers.length = top + 1)
    (paid : session.stack.toll + (2 * top + 1) ≤ session.credit) :
    Ran terms [] session (session.run (works [.shutDown top])) ∧
      (session.run (works [.shutDown top])).stack.Closed := by
  have above : session.stack.ClosedOver top := by
    intro place layer higher there
    have inside := (List.getElem?_eq_some_iff.mp there).1
    omega
  obtain ⟨last, leads, closed, holds⟩ := closes terms top inOrder (fun place _ => free place) above
  have freed : last.stack.Free := by
    intro place layer there
    have same := holds place
    rw [there] at same
    obtain ⟨old, placed, held⟩ := Option.map_eq_some_iff.mp same.symm
    rw [← held]
    exact free place old placed
  obtain ⟨same, ran⟩ := ran_of_leads leads inOrder freed paid
  exact ⟨ran, same ▸ closed⟩

/-! ### Writes -/

/-- A write costs one piece of work for each layer that it passes, and one for each guard. -/
theorem run_write {index : Nat} {work : Work Callback} {rest : List Job}
    (steady : session.stack.Steady) (free : session.stack.FreeTo index)
    (inside : index < session.stack.layers.length) (writes : work.Writes index) {credit : Nat}
    (enough : 2 * index + 1 ≤ credit) :
    ∃ spare next, Agenda.run perform credit session (.work work :: rest) =
        Agenda.run perform spare { session with stack := next } rest ∧ session.stack.Upkeep next ∧
      credit ≤ spare + (2 * index + 1) := by
  induction index using Nat.strongRecOn generalizing session work rest credit with
  | ind index below =>
      have placed : session.stack.layer? index = some session.stack.layers[index] :=
        List.getElem?_eq_getElem inside
      obtain ⟨next, more, performed, onward⟩ :=
        steady.write placed (free index (Nat.le_refl _) _ placed) writes
      obtain ⟨steps, rfl⟩ : ∃ steps, credit = steps + 1 := ⟨credit - 1, by omega⟩
      have own : ∀ callback lookup, work ≠ .inform callback lookup := by
        rintro callback lookup rfl
        cases writes
      have kept : ∀ callback, work ≠ .forget callback := by
        rintro callback rfl
        cases writes
      have once : Agenda.run perform (steps + 1) session (.work work :: rest) =
          Agenda.run perform steps { session with stack := next } (works more ++ rest) := by
        rw [Agenda.run_cons, perform_work session own kept, performed]
      cases onward with
      | stored upkeep => exact ⟨steps, next, once, upkeep, by omega⟩
      | @passed _ inner layer follower upkeep there onto onward =>
          have between := steady.decorated.inner_eq there onto
          have short : inner < { session with stack := next }.stack.layers.length := by
            rw [upkeep.length_eq]
            omega
          obtain ⟨spare, last, ran, further, cost⟩ :=
            below inner (by omega) (upkeep.steady steady)
              (fun place le => upkeep.freeTo free place (by omega)) short onward
              (by omega : 2 * inner + 1 ≤ steps)
          exact ⟨spare, last, once.trans ran, upkeep.trans further, by omega⟩
      | @entered inner guarded follower there vacant onward =>
          have between := steady.decorated.inner_eq there rfl
          generalize entered : session.stack.setLayer index (.guarded inner guarded.take) = within
            at once
          have again : { session with stack := within }.stack.Steady :=
            entered ▸ steady.takeGuard there
          have short : inner < within.layers.length := by
            rw [← entered, Stack.setLayer, List.length_set]
            omega
          have vacated : within.FreeTo inner := by
            intro place le layer known
            rw [← entered, Stack.layer?_setLayer_of_ne (by omega)] at known
            exact free place (by omega) layer known
          obtain ⟨spare, last, ran, further, cost⟩ :=
            below inner (by omega) again vacated short
              onward (by omega : 2 * inner + 1 ≤ steps)
          obtain ⟨left, rfl⟩ : ∃ left, spare = left + 1 := ⟨spare - 1, by omega⟩
          have moving : last.stuck = false := further.moving.trans again.moving
          have performed : last.perform (.freeGuard index) = (last.freeGuard index, []) := by
            rw [Stack.perform, moving]
            rfl
          have freed : Agenda.run perform (left + 1) { session with stack := last }
              (works [.freeGuard index] ++ rest) =
              Agenda.run perform left { session with stack := last.freeGuard index } rest := by
            change Agenda.run perform left { session with stack := (last.perform (.freeGuard index)).1 }
              (works (last.perform (.freeGuard index)).2 ++ rest) = _
            rw [performed]
            rfl
          exact ⟨left, last.freeGuard index, once.trans (ran.trans freed),
            Stack.Upkeep.freeGuard there vacant (entered ▸ further), by omega⟩

theorem ran_write {index : Nat} {work : Work Callback} (inOrder : session.InOrder terms [])
    (free : session.stack.Free) (inside : index < session.stack.layers.length)
    (writes : work.Writes index) (paid : session.stack.toll + (2 * index + 1) ≤ session.credit) :
    Ran terms [] session (session.run (works [work])) ∧
      (session.stack.Closed → (session.run (works [work])).stack.Closed) := by
  obtain ⟨spare, next, ran, upkeep, cost⟩ : ∃ spare next,
      Agenda.run perform session.credit session [.work work] =
        Agenda.run perform spare { session with stack := next } [] ∧ session.stack.Upkeep next ∧
      session.credit ≤ spare + (2 * index + 1) :=
    run_write inOrder.orderly.steady (fun place _ => free place) inside writes (by omega)
  rw [Agenda.run_nil] at ran
  have whole : session.run (works [work]) = { session with stack := next, credit := spare } := by
    simp only [Session.run, works, List.map_cons, List.map_nil, ran]
  rw [whole]
  refine ⟨⟨⟨session.stack, inOrder.orderly, upkeep.toAlongside⟩, upkeep.free free, ?_, rfl, rfl,
    inOrder.right, ?_, List.suffix_rfl, List.suffix_rfl⟩, upkeep.closed⟩
  · change next.toll ≤ spare
    rw [upkeep.toll_eq]
    omega
  · change (session.told.map Prod.fst ++ next.callbacks []).Perm _
    rw [Stack.callbacks, upkeep.roots_eq, List.append_nil]
    exact .refl _

/-! ### Between steps -/

structure Resting (terms : Terms Callback) (session : Session) : Prop where
  orderly : ∃ former : Stack Callback, former.Orderly terms [] ∧ former.Alongside session.stack
  free : session.stack.Free
  paid : session.stack.toll ≤ session.credit
  served : session.service.waiting = []
  silent : session.events = []
  right : ∀ pair ∈ session.told, terms.right pair.1 pair.2

theorem upkeep_finished (session : Session) (number : Nat) :
    session.stack.Upkeep (session.finished number).stack := by
  have stamped : session.stack.runChecks.Upkeep { session.stack.runChecks with
      tree := stampTree session.stack.runChecks.tree (timeOf number), signals := [] } :=
    Stack.upkeep_of_layers_eq rfl rfl rfl
  exact (Stack.upkeep_runChecks session.stack).trans (stamped.trans (Stack.upkeep_tidy _))

theorem Ran.resting {handed : List Callback} (runs : Ran terms handed session ran)
    (served : session.service.waiting = []) (number : Nat) :
    (ran.finished number).Resting terms := by
  have upkeep := upkeep_finished ran number
  obtain ⟨former, orderly, alongside⟩ := runs.orderly
  refine ⟨⟨former, orderly, alongside.trans upkeep.toAlongside⟩, upkeep.free runs.free, ?_, ?_, rfl,
    fun pair member => runs.right pair (List.mem_append_right _ member)⟩
  · rw [upkeep.toll_eq]
    exact runs.paid
  · exact (congrArg Service.waiting runs.service).trans served

/-- What a session between steps is when a step with more terms begins. -/
theorem Resting.begin (resting : session.Resting terms) {next : Session} (grow : terms.Grow wider)
    (alongside : session.stack.Alongside next.stack) (silent : next.events = [])
    (same : next.lookups = session.lookups)
    (missed : ∀ callback key, wider.wants callback key → wider.right callback .notFound)
    (read : ∀ callback key, wider.wants callback key → wider.right callback (next.stack.found key))
    (plain : ∀ callback lookup, wider.right callback lookup → callback.isPlain = true) :
    next.InOrder wider [] ∧ next.stack.Free := by
  obtain ⟨former, orderly, before⟩ := resting.orderly
  refine ⟨⟨orderly.renew (before.trans alongside) grow missed read, fun pair member => ?_, plain⟩,
    alongside.free resting.free⟩
  have told : next.told = session.told := by
    rw [told, told, silent, resting.silent, same]
  exact grow.right _ _ (resting.right pair (told ▸ member))

end Session

end TieredCache
