import TieredCache.Proofs.Front.Bare

/-!
Fronts over layers that hold what was put into them. A layer may be slow: then the answer to a lookup
is read at once but kept back until it is delivered. Entries may be lost whenever a layer is used.
Main statements: what each operation of a front does to the layers, and what a lookup yields.
-/

namespace TieredCache

structure Depot where
  session : Session
  /-- What the layers hold. -/
  shelves : Nat → String → Option Bytes := fun _ _ => none
  /-- Which layers keep their answers back. -/
  slow : Nat → Bool := fun _ => false
  /-- The answers that were kept back, in the order of the lookups. -/
  waiting : List (Callback × Lookup) := []
  /-- What is lost at the next uses of a layer. -/
  losses : List (Nat → String → Bool) := []

inductive Operation where
  | put (key : String) (head : Head) (body : Bytes)
  | find (key : String) (hooks : Hooks)
  | delete (key : String)
  | remember (key : String) (kind : FailureKind)
  | ignoreFailures
  | change (changes : List FrontChange)
  | advance (span : Span)
  | setTime (time : Millis)

def Operation.action (index : Nat) : Operation → Action
  | put key head body => .front ⟨index, .whole⟩ (.put key head body)
  | find key hooks => .front ⟨index, .whole⟩ (.lookup key hooks)
  | delete key => .front ⟨index, .whole⟩ (.delete key)
  | remember key kind => .front ⟨index, .whole⟩ (.remember key kind)
  | ignoreFailures => .front ⟨index, .whole⟩ .ignoreFailures
  | change changes => .front ⟨index, .whole⟩ (.change changes)
  | advance span => .advance span
  | setTime time => .setTime time

namespace Reply

def putResult? : Reply → Option (Option Refusal)
  | putResult refusal => some refusal
  | _ => none

def outcome? : Reply → Option Outcome
  | outcome value => some value
  | _ => none

theorem eq_putResult {reply : Reply} {refusal : Option Refusal}
    (given : reply.putResult? = some refusal) : reply = .putResult refusal := by
  cases reply with
  | putResult value =>
      cases given
      rfl
  | _ => cases given

end Reply

namespace Depot

/-- A front of two tiers over two layers that hold nothing yet. -/
def opened (policy : Policy) (limit : Option Nat) (now : Millis) : Depot where
  session := { stack := { layers := [], now }, fronts := [.tiered (.ofPolicy policy limit) 0 1] }

def lose (depot : Depot) : Depot :=
  match depot.losses with
  | [] => depot
  | loss :: rest =>
      { depot with
        shelves := fun layer key => if loss layer key then none else depot.shelves layer key
        losses := rest }

def fill (depot : Depot) (layer : Nat) (key : String) (entry : Option Bytes) : Depot :=
  { depot with
    shelves := fun other name =>
      if other = layer ∧ name = key then entry else depot.shelves other name }

/-- Reads the answer to a lookup, and gives or keeps it back. -/
def ask (depot : Depot) (layer : Nat) (key : String) (callback : Callback) : Depot × List Job :=
  let lookup := Lookup.ofOption (depot.shelves layer key)
  if depot.slow layer then ({ depot with waiting := depot.waiting ++ [(callback, lookup)] }, [])
  else (depot, [.work (.inform callback lookup)])

/-- Does one job; the layers are those of the depot. -/
def perform (depot : Depot) : Job → Depot × List Job
  | .work (.ask layer key (.client callback)) => depot.lose.ask layer key callback
  | .work (.put layer key value) => (depot.lose.fill layer key (some value), [])
  | .work (.delete layer key) => (depot.lose.fill layer key none, [])
  | job =>
      let (session, more) := depot.session.perform job
      ({ depot with session }, more)

/-- More jobs than come of any operation. -/
def credit : Nat := 16

/-- Does the jobs and all that comes of them. -/
def settle (depot : Depot) (jobs : List Job) : Depot := (Agenda.run perform credit depot jobs).2

def operate (depot : Depot) (index : Nat) (operation : Operation) : Depot × Reply :=
  let started := depot.session.start "" (.mk (operation.action index) none [])
  let settled := { depot with session := started.session }.settle started.jobs
  (settled, started.reply settled.session)

def deliver (depot : Depot) (position : Nat) : Depot :=
  match depot.waiting[position]? with
  | none => depot
  | some (callback, lookup) =>
      { depot with waiting := depot.waiting.eraseIdx position }.settle
        [.work (.inform callback lookup)]

def write (depot : Depot) (layer : Nat) (key : String) (entry : Option Bytes) : Depot :=
  match entry with
  | none => depot
  | some content => depot.lose.fill layer key (some content)

variable {depot : Depot} {index : Nat} {tiers : TwoTier} {cache : ResponseCache}
  {layer first second : Nat} {key : String} {hooks : Hooks} {next : Conclusion} {number : Nat}

theorem lose_of_nil (kept : depot.losses = []) : depot.lose = depot := by
  simp only [lose, kept]

@[simp] theorem session_lose (depot : Depot) : depot.lose.session = depot.session := by
  unfold lose
  split <;> rfl

@[simp] theorem slow_lose (depot : Depot) : depot.lose.slow = depot.slow := by
  unfold lose
  split <;> rfl

@[simp] theorem waiting_lose (depot : Depot) : depot.lose.waiting = depot.waiting := by
  unfold lose
  split <;> rfl

@[simp] theorem lose_with_session (depot : Depot) (session : Session) :
    { depot with session }.lose = { depot.lose with session } := by
  cases kept : depot.losses <;> simp only [lose, kept]

@[simp] theorem write_with_session (depot : Depot) (session : Session) (layer : Nat) (key : String)
    (entry : Option Bytes) :
    { depot with session }.write layer key entry = { depot.write layer key entry with session } := by
  cases entry <;> simp only [write, fill, lose_with_session]

/-! ### Lookups -/

theorem now_of_bare {session other : Session} (same : session.bare = other.bare) :
    session.now = other.now :=
  (Session.now_bare session).symm.trans ((congrArg Session.now same).trans (Session.now_bare other))

theorem perform_find (depot : Depot) (place : FrontPlace) (key : String) (hooks : Hooks)
    (next : Conclusion) : depot.perform (.find place key hooks next) =
      (depot, depot.session.find place key hooks next) := rfl

theorem perform_inform (depot : Depot) (place : FrontPlace) (key : String) (hooks : Hooks)
    (next : Conclusion) (lookup : Lookup) :
    depot.perform (.work (.inform (.front place key hooks next) lookup)) =
      ({ depot with session := (depot.session.resolve place key hooks next lookup).1 },
        (depot.session.resolve place key hooks next lookup).2) := rfl

theorem perform_conclude (depot : Depot) (next : Conclusion) (outcome : Outcome) :
    depot.perform (.conclude next outcome) =
      ({ depot with session := (depot.session.conclude next outcome).1 },
        (depot.session.conclude next outcome).2) := rfl

theorem perform_ask (depot : Depot) (layer : Nat) (key : String) (callback : Callback) :
    depot.perform (.work (.ask layer key (.client callback))) =
      depot.lose.ask layer key callback := rfl

/-- A lookup in one cache, up to its outcome. -/
private theorem run_find_cache {place : FrontPlace}
    (present : depot.session.bare.cache? place = some (cache, layer))
    (quick : depot.slow layer = false) {outcome : Outcome}
    (judged : ResponseCache.verdict cache.policy depot.session.now key hooks.checks
      (depot.lose.shelves layer key) = outcome) (steps : Nat) :
    ∃ session, session.bare = depot.session.bare ∧
      Agenda.run perform (steps + 3) depot [.find place key hooks next] =
        Agenda.run perform steps { depot.lose with session } [.conclude next outcome] := by
  obtain ⟨same, concluded⟩ := @Session.resolve_bare depot.session key hooks next place cache layer
    present (.ofOption (depot.lose.shelves layer key))
  rw [Lookup.value?_ofOption, judged] at concluded
  refine ⟨_, same, ?_⟩
  rw [Agenda.run_cons, perform_find, Session.find_cache present, List.append_nil, Agenda.run_cons,
    perform_ask, ask, slow_lose, quick, if_neg Bool.false_ne_true, List.append_nil, Agenda.run_cons, perform_inform,
    session_lose, concluded, List.append_nil]

/-- A lookup whose answer is kept back. -/
private theorem run_find_slow {place : FrontPlace}
    (present : depot.session.bare.cache? place = some (cache, layer))
    (slow : depot.slow layer = true) (steps : Nat) :
    Agenda.run perform (steps + 2) depot [.find place key hooks next] =
      Agenda.run perform steps { depot.lose with
        waiting := depot.waiting ++
          [(.front place key hooks next, .ofOption (depot.lose.shelves layer key))] } [] := by
  have kept : depot.lose.slow layer = true := by
    rw [slow_lose]
    exact slow
  rw [Agenda.run_cons, perform_find, Session.find_cache present, List.append_nil, Agenda.run_cons,
    perform_ask, ask]
  simp only [kept, if_true, waiting_lose, List.append_nil]

private theorem run_promise (steps : Nat) (number : Nat) (outcome : Outcome) :
    (Agenda.run perform (steps + 1) depot [.conclude (.promise number) outcome]).2 =
      { depot with session := depot.session.settleOutcome number outcome } := by
  rw [Agenda.run_cons, perform_conclude]
  change (Agenda.run perform steps _ []).2 = _
  rw [Agenda.run_nil]
  rfl

private theorem run_both
    (front : depot.session.bare.front? index = some (.tiered tiers first second))
    (earlier outcome : Outcome) (steps : Nat) :
    ∃ session, session.bare =
        depot.session.bare.settleOutcome number (TwoTier.join earlier outcome) ∧
      (Agenda.run perform (steps + 3) depot
          [.conclude (.bothTiers index key earlier (.promise number)) outcome]).2 =
        { depot.write first key (tiers.backfill key outcome) with session } := by
  obtain ⟨same, jobs⟩ := @Session.conclude_both_bare depot.session index key (.promise number) tiers
    first second front earlier outcome
  rw [Agenda.run_cons, perform_conclude, jobs, List.append_nil]
  refine ⟨(depot.session.conclude (.bothTiers index key earlier (.promise number))
    outcome).1.settleOutcome number (TwoTier.join earlier outcome), ?_, ?_⟩
  · rw [Session.bare_settleOutcome, same]
  · cases tiers.backfill key outcome with
    | none => exact run_promise (steps + 1) number _
    | some content =>
        change (Agenda.run perform (steps + 2) _ (.work (.put first key content) :: _)).2 = _
        rw [Agenda.run_cons]
        refine (run_promise steps number _).trans ?_
        simp [perform, fill, write]

def awaiting (session : Session) : Session :=
  { session with freshPromise := session.freshPromise + 1 }

theorem operate_find_eq {front : Front} (present : depot.session.front? index = some front) :
    depot.operate index (.find key hooks) =
      let settled := { depot with session := awaiting depot.session }.settle
        [.find ⟨index, .whole⟩ key hooks (.promise depot.session.freshPromise)]
      (settled,
        (settled.session.outcomes.lookup depot.session.freshPromise).elim .pending .outcome) := by
  unfold operate
  simp only [Session.start, Operation.action, Step.action, Session.startFront, Session.tiers?,
    Session.cache?, present]
  cases front <;> rfl

theorem reply_of_settled {session settled : Session} {number : Nat} {outcome : Outcome}
    (same : settled.bare = session.settleOutcome number outcome) :
    (settled.outcomes.lookup number).elim Reply.pending Reply.outcome = .outcome outcome := by
  have outcomes : settled.outcomes = (number, outcome) :: session.outcomes :=
    congrArg Session.outcomes same
  rw [outcomes, List.lookup_cons_self]
  rfl

/-- How far a lookup in two tiers gets by asking the first one. -/
private theorem run_find_tiered
    (front : depot.session.bare.front? index = some (.tiered tiers first second))
    (quick : depot.slow first = false) {earlier : Outcome}
    (judged : ResponseCache.verdict tiers.first.policy depot.session.now key hooks.checks
      (depot.lose.shelves first key) = earlier) (steps : Nat) :
    ∃ session, session.bare = depot.session.bare ∧
      Agenda.run perform (steps + 5) depot [.find ⟨index, .whole⟩ key hooks next] =
        Agenda.run perform steps { depot.lose with session }
          (if earlier.isFound then [.conclude next earlier]
          else [.find ⟨index, .secondTier⟩ key hooks (.bothTiers index key earlier next)]) := by
  have present : depot.session.bare.cache? ⟨index, .firstTier⟩ = some (tiers.first, first) := by
    simp only [Session.cache?, front]
  obtain ⟨session, same, ran⟩ := @run_find_cache depot tiers.first first key hooks
    (.firstTier index key hooks next) _ present quick earlier judged (steps + 1)
  obtain ⟨kept, jobs⟩ := @Session.conclude_first_bare session index key hooks next earlier
  refine ⟨_, kept.trans same, ?_⟩
  rw [Agenda.run_cons, perform_find, Session.find_tiered front, List.append_nil, ran, Agenda.run_cons,
    perform_conclude, jobs, List.append_nil]

theorem operate_find_first
    (front : depot.session.bare.front? index = some (.tiered tiers first second))
    (quick : depot.slow first = false) {earlier : Outcome}
    (judged : ResponseCache.verdict tiers.first.policy depot.session.now key hooks.checks
      (depot.lose.shelves first key) = earlier) (found : earlier.isFound = true) :
    ∃ session,
      session.bare =
        (awaiting depot.session.bare).settleOutcome depot.session.freshPromise earlier ∧
      depot.operate index (.find key hooks) = ({ depot.lose with session }, .outcome earlier) := by
  obtain ⟨counted, actual, _⟩ := Session.front?_of_bare_tiered front
  let asked : Depot := { depot with session := awaiting depot.session }
  obtain ⟨session, same, ran⟩ := @run_find_tiered asked index tiers first second key hooks
    (.promise depot.session.freshPromise) front quick earlier
    (by rw [lose_with_session]; exact judged) 11
  have settled : asked.settle [.find ⟨index, .whole⟩ key hooks
      (.promise depot.session.freshPromise)] =
      { depot.lose with session := session.settleOutcome depot.session.freshPromise earlier } := by
    rw [settle, credit, ran, if_pos found, run_promise, lose_with_session]
  refine ⟨session.settleOutcome depot.session.freshPromise earlier, ?_, ?_⟩
  · rw [Session.bare_settleOutcome, same]
    rfl
  · rw [operate_find_eq actual]
    simp only
    rw [settled]
    refine Prod.ext rfl ?_
    exact reply_of_settled (Session.bare_settleOutcome _ _ _)

/-- A lookup that both tiers answer at once. -/
theorem operate_find_both
    (front : depot.session.bare.front? index = some (.tiered tiers first second))
    (quick : depot.slow first = false) (quickSecond : depot.slow second = false)
    {earlier outcome : Outcome}
    (judged : ResponseCache.verdict tiers.first.policy depot.session.now key hooks.checks
      (depot.lose.shelves first key) = earlier) (missed : earlier.isFound = false)
    (judgedSecond : ResponseCache.verdict tiers.second.policy depot.session.now key hooks.checks
      (depot.lose.lose.shelves second key) = outcome) :
    ∃ session,
      session.bare = (awaiting depot.session.bare).settleOutcome depot.session.freshPromise
        (TwoTier.join earlier outcome) ∧
      depot.operate index (.find key hooks) =
        ({ depot.lose.lose.write first key (tiers.backfill key outcome) with session },
          .outcome (TwoTier.join earlier outcome)) := by
  obtain ⟨counted, actual, _⟩ := Session.front?_of_bare_tiered front
  let asked : Depot := { depot with session := awaiting depot.session }
  obtain ⟨between, same, ran⟩ := @run_find_tiered asked index tiers first second key hooks
    (.promise depot.session.freshPromise) front quick earlier
    (by rw [lose_with_session]; exact judged) 11
  rw [lose_with_session] at ran
  let half : Depot := { depot.lose with session := between }
  have halfFront : half.session.bare.front? index = some (.tiered tiers first second) := by
    rw [same]
    exact front
  have present : half.session.bare.cache? ⟨index, .secondTier⟩ = some (tiers.second, second) := by
    simp only [Session.cache?, halfFront]
  have now : between.now = asked.session.now := now_of_bare same
  obtain ⟨after, sameAfter, ranAfter⟩ := @run_find_cache half tiers.second second key hooks
    (.bothTiers index key earlier (.promise depot.session.freshPromise)) _ present
    (by rw [slow_lose]; exact quickSecond) outcome
    (by rw [lose_with_session]; exact now ▸ judgedSecond) 8
  rw [lose_with_session] at ranAfter
  obtain ⟨last, sameLast, ranLast⟩ := @run_both { depot.lose.lose with session := after } index tiers
    first second key depot.session.freshPromise (by rw [sameAfter]; exact halfFront) earlier outcome 5
  have settled : asked.settle [.find ⟨index, .whole⟩ key hooks
      (.promise depot.session.freshPromise)] =
      { depot.lose.lose.write first key (tiers.backfill key outcome) with session := last } := by
    rw [settle, credit, ran, if_neg (by rw [missed]; exact Bool.false_ne_true), ranAfter, ranLast,
      write_with_session]
  have settledBare : last.bare = (awaiting depot.session.bare).settleOutcome
      depot.session.freshPromise (TwoTier.join earlier outcome) := by
    rw [sameLast, sameAfter, same]
    rfl
  refine ⟨last, settledBare, ?_⟩
  rw [operate_find_eq actual]
  simp only
  rw [settled]
  refine Prod.ext rfl ?_
  exact reply_of_settled settledBare

/-- A lookup that the second tier answers later. -/
theorem operate_find_slow
    (front : depot.session.bare.front? index = some (.tiered tiers first second))
    (quick : depot.slow first = false) (slow : depot.slow second = true) {earlier : Outcome}
    (judged : ResponseCache.verdict tiers.first.policy depot.session.now key hooks.checks
      (depot.lose.shelves first key) = earlier) (missed : earlier.isFound = false) :
    ∃ session, session.bare = awaiting depot.session.bare ∧
      (depot.operate index (.find key hooks)).1 =
        { depot.lose.lose with
          session
          waiting := depot.waiting ++
            [(.front ⟨index, .secondTier⟩ key hooks
                (.bothTiers index key earlier (.promise depot.session.freshPromise)),
              .ofOption (depot.lose.lose.shelves second key))] } := by
  obtain ⟨counted, actual, _⟩ := Session.front?_of_bare_tiered front
  let asked : Depot := { depot with session := awaiting depot.session }
  obtain ⟨between, same, ran⟩ := @run_find_tiered asked index tiers first second key hooks
    (.promise depot.session.freshPromise) front quick earlier
    (by rw [lose_with_session]; exact judged) 11
  rw [lose_with_session] at ran
  let half : Depot := { depot.lose with session := between }
  have halfFront : half.session.bare.front? index = some (.tiered tiers first second) := by
    rw [same]
    exact front
  have present : half.session.bare.cache? ⟨index, .secondTier⟩ = some (tiers.second, second) := by
    simp only [Session.cache?, halfFront]
  have ranAfter := @run_find_slow half tiers.second second key hooks
    (.bothTiers index key earlier (.promise depot.session.freshPromise)) _ present
    (by rw [slow_lose]; exact slow) 9
  refine ⟨between, same, ?_⟩
  rw [operate_find_eq actual]
  simp only
  rw [settle, credit, ran, if_neg (by rw [missed]; exact Bool.false_ne_true), ranAfter,
    Agenda.run_nil, lose_with_session, waiting_lose]

theorem deliver_both
    (front : depot.session.bare.front? index = some (.tiered tiers first second)) {position : Nat}
    {earlier outcome : Outcome} {lookup : Lookup}
    (kept : depot.waiting[position]? = some (.front ⟨index, .secondTier⟩ key hooks
      (.bothTiers index key earlier (.promise number)), lookup))
    (judged : ResponseCache.verdict tiers.second.policy depot.session.now key hooks.checks
      lookup.value? = outcome) :
    ∃ session,
      session.bare = depot.session.bare.settleOutcome number (TwoTier.join earlier outcome) ∧
      depot.deliver position =
        { { depot with waiting := depot.waiting.eraseIdx position }.write first key
            (tiers.backfill key outcome) with session } := by
  have present : depot.session.bare.cache? ⟨index, .secondTier⟩ = some (tiers.second, second) := by
    simp only [Session.cache?, front]
  obtain ⟨same, jobs⟩ := @Session.resolve_bare depot.session key hooks
    (.bothTiers index key earlier (.promise number)) _ _ _ present lookup
  rw [judged] at jobs
  let resolved := (depot.session.resolve ⟨index, .secondTier⟩ key hooks
    (.bothTiers index key earlier (.promise number)) lookup).1
  let rest : Depot := { depot with waiting := depot.waiting.eraseIdx position }
  obtain ⟨last, sameLast, ranLast⟩ := @run_both { rest with session := resolved } index tiers first
    second key number (by rw [same]; exact front) earlier outcome 12
  refine ⟨last, by rw [sameLast, same], ?_⟩
  simp only [deliver, kept]
  rw [settle, credit, Agenda.run_cons, perform_inform, jobs, List.append_nil]
  exact ranLast.trans (by rw [write_with_session])

theorem operate_find_single (front : depot.session.bare.front? index = some (.single cache layer))
    (quick : depot.slow layer = false) {outcome : Outcome}
    (judged : ResponseCache.verdict cache.policy depot.session.now key hooks.checks
      (depot.lose.shelves layer key) = outcome) :
    ∃ session,
      session.bare =
        (awaiting depot.session.bare).settleOutcome depot.session.freshPromise outcome ∧
      depot.operate index (.find key hooks) = ({ depot.lose with session }, .outcome outcome) := by
  obtain ⟨counted, actual, _⟩ := Session.front?_of_bare_single front
  let asked : Depot := { depot with session := awaiting depot.session }
  have present : asked.session.bare.cache? ⟨index, .whole⟩ = some (cache, layer) := by
    have same : asked.session.bare.front? index = some (.single cache layer) := front
    simp only [Session.cache?, same]
  obtain ⟨session, same, ran⟩ := @run_find_cache asked cache layer key hooks
    (.promise depot.session.freshPromise) _ present quick outcome
    (by rw [lose_with_session]; exact judged) 13
  have settled : asked.settle [.find ⟨index, .whole⟩ key hooks
      (.promise depot.session.freshPromise)] =
      { depot.lose with session := session.settleOutcome depot.session.freshPromise outcome } := by
    rw [settle, credit, ran, run_promise, lose_with_session]
  refine ⟨session.settleOutcome depot.session.freshPromise outcome, ?_, ?_⟩
  · rw [Session.bare_settleOutcome, same]
    rfl
  · rw [operate_find_eq actual]
    simp only
    rw [settled]
    refine Prod.ext rfl ?_
    exact reply_of_settled (Session.bare_settleOutcome _ _ _)

end Depot

end TieredCache
