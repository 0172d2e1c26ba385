import TieredCache.Proofs.Front.Depot

/-!
What the other operations of a front do to a depot: writes, deletions and changes of its rules.
-/

namespace TieredCache.Depot

variable {depot : Depot} {index : Nat} {tiers : TwoTier} {cache : ResponseCache}
  {layer first second : Nat} {key : String}

def remove (depot : Depot) (layer : Nat) (key : String) : Depot := depot.lose.fill layer key none

@[simp] theorem session_remove (depot : Depot) (layer : Nat) (key : String) :
    (depot.remove layer key).session = depot.session := session_lose depot

@[simp] theorem remove_with_session (depot : Depot) (session : Session) (layer : Nat)
    (key : String) :
    { depot with session }.remove layer key = { depot.remove layer key with session } := by
  simp only [remove, fill, lose_with_session]

theorem settle_writes (depot : Depot) (left right : Nat) (key : String)
    (leftEntry rightEntry : Option Bytes) :
    depot.settle (Session.putJobs left key leftEntry ++ Session.putJobs right key rightEntry) =
      (depot.write left key leftEntry).write right key rightEntry := by
  cases leftEntry <;> cases rightEntry <;> rfl

theorem settle_write (depot : Depot) (layer : Nat) (key : String) (entry : Option Bytes) :
    depot.settle (Session.putJobs layer key entry) = depot.write layer key entry := by
  cases entry <;> rfl

theorem settle_removals (depot : Depot) (left right : Nat) (key : String) :
    depot.settle [.work (.delete left key), .work (.delete right key)] =
      (depot.remove left key).remove right key := rfl

theorem settle_removal (depot : Depot) (layer : Nat) (key : String) :
    depot.settle [.work (.delete layer key)] = depot.remove layer key := rfl

/-- An operation whose jobs only use the layers. -/
private theorem operate_of_started {operation : Operation} {action : FrontAction}
    (used : operation.action index = .front ⟨index, .whole⟩ action) {kept : Session}
    {jobs : List Job} {reply : Reply} {after : Depot}
    (started : let started := depot.session.startFront "" [] ⟨index, .whole⟩ action
      started.session.bare = kept ∧ started.jobs = jobs ∧ started.reply = fun _ => reply)
    (settles : ∀ session, { depot with session }.settle jobs = { after with session }) :
    ∃ session, session.bare = kept ∧
      depot.operate index operation = ({ after with session }, reply) := by
  obtain ⟨same, sameJobs, sameReply⟩ := started
  refine ⟨_, same, ?_⟩
  simp only [operate, used, Session.start, Step.action]
  change ({ depot with session := _ }.settle (Session.startFront _ "" [] _ action).jobs,
    (Session.startFront _ "" [] _ action).reply _) = _
  rw [sameJobs, sameReply, settles]
  rfl

private theorem settle_none (session : Session) :
    { depot with session }.settle [] = { depot with session } := rfl

/-! ### Two tiers -/

section Tiered

variable (front : depot.session.bare.front? index = some (.tiered tiers first second))
include front

theorem operate_put_refused {head : Head} {body : Bytes} {reason : Refusal}
    (refused : tiers.second.prepare depot.session.now key head body = .error reason) :
    ∃ session, session.bare = depot.session.bare ∧
      depot.operate index (.put key head body) =
        ({ depot with session }, .putResult (some reason)) := by
  have started := @Session.put_tiered depot.session index "" [] key tiers first second front head body
  rw [refused] at started
  exact operate_of_started rfl started settle_none

/-- The second tier is written first. -/
theorem operate_put_stored {head : Head} {body : Bytes} {stored : Stored}
    (prepared : tiers.second.prepare depot.session.now key head body = .ok stored) :
    ∃ session, session.bare = depot.session.bare ∧
      depot.operate index (.put key head body) =
        ({ (depot.write second key (some stored.encoded)).write first key
            (tiers.backfill key (.found stored)) with session }, .putResult none) := by
  have started := @Session.put_tiered depot.session index "" [] key tiers first second front head body
  rw [prepared] at started
  refine operate_of_started rfl started fun session => ?_
  rw [← write_with_session, ← write_with_session]
  exact settle_writes _ second first key (some stored.encoded) _

theorem operate_delete :
    ∃ session, session.bare = depot.session.bare ∧
      depot.operate index (.delete key) =
        ({ (depot.remove first key).remove second key with session }, .nothing) := by
  refine operate_of_started rfl (Session.delete_tiered front) fun session => ?_
  rw [← remove_with_session, ← remove_with_session]
  exact settle_removals _ first second key

theorem operate_remember (kind : FailureKind) :
    ∃ session, session.bare = depot.session.bare ∧
      depot.operate index (.remember key kind) =
        ({ (depot.write first key (tiers.first.sentinel depot.session.now kind)).write second key
            (tiers.second.sentinel depot.session.now kind) with session }, .nothing) := by
  refine operate_of_started rfl (Session.remember_tiered front kind) fun session => ?_
  rw [← write_with_session, ← write_with_session]
  exact settle_writes _ first second key _ _

theorem operate_ignoreFailures :
    ∃ session,
      session.bare =
        depot.session.bare.setFront index (.tiered tiers.ignoreFailures first second) ∧
      depot.operate index .ignoreFailures = ({ depot with session }, .nothing) :=
  operate_of_started rfl (Session.ignoreFailures_tiered front) settle_none

theorem operate_change (changes : List FrontChange) :
    ∃ session,
      session.bare = depot.session.bare.setFront index (.tiered
        ({ tiers with limit := FrontChange.limitAfter changes tiers.limit }.changePolicy
          (FrontChange.applyAll changes)) first second) ∧
      depot.operate index (.change changes) = ({ depot with session }, .nothing) :=
  operate_of_started rfl (Session.change_tiered front changes) settle_none

end Tiered

/-! ### One cache -/

section Single

variable (front : depot.session.bare.front? index = some (.single cache layer))
include front

theorem operate_put_refused_single {head : Head} {body : Bytes} {reason : Refusal}
    (refused : cache.prepare depot.session.now key head body = .error reason) :
    ∃ session, session.bare = depot.session.bare ∧
      depot.operate index (.put key head body) =
        ({ depot with session }, .putResult (some reason)) := by
  have started := @Session.put_single depot.session index "" [] key cache layer front head body
  rw [refused] at started
  exact operate_of_started rfl started settle_none

theorem operate_put_stored_single {head : Head} {body : Bytes} {stored : Stored}
    (prepared : cache.prepare depot.session.now key head body = .ok stored) :
    ∃ session, session.bare = depot.session.bare ∧
      depot.operate index (.put key head body) =
        ({ depot.write layer key (some stored.encoded) with session }, .putResult none) := by
  have started := @Session.put_single depot.session index "" [] key cache layer front head body
  rw [prepared] at started
  refine operate_of_started rfl started fun session => ?_
  rw [← write_with_session]
  exact settle_write _ layer key _

theorem operate_delete_single :
    ∃ session, session.bare = depot.session.bare ∧
      depot.operate index (.delete key) =
        ({ depot.remove layer key with session }, .nothing) := by
  refine operate_of_started rfl (Session.delete_single front) fun session => ?_
  rw [← remove_with_session]
  exact settle_removal _ layer key

theorem operate_remember_single (kind : FailureKind) :
    ∃ session, session.bare = depot.session.bare ∧
      depot.operate index (.remember key kind) =
        ({ depot.write layer key (cache.sentinel depot.session.now kind) with session },
          .nothing) := by
  refine operate_of_started rfl (Session.remember_single front kind) fun session => ?_
  rw [← write_with_session]
  exact settle_write _ layer key _

theorem operate_ignoreFailures_single :
    ∃ session,
      session.bare = depot.session.bare.setFront index (.single cache.ignoreFailures layer) ∧
      depot.operate index .ignoreFailures = ({ depot with session }, .nothing) :=
  operate_of_started rfl (Session.ignoreFailures_single front) settle_none

theorem operate_change_single (changes : List FrontChange) :
    ∃ session,
      session.bare = depot.session.bare.setFront index
        (.single (cache.changePolicy (FrontChange.applyAll changes)) layer) ∧
      depot.operate index (.change changes) = ({ depot with session }, .nothing) :=
  operate_of_started rfl (Session.change_single front changes) settle_none

end Single

/-! ### Time -/

def atTime (session : Session) (now : Millis) : Session :=
  { session with stack := { session.stack with now } }

theorem operate_advance (depot : Depot) (index : Nat) (span : Span) :
    depot.operate index (.advance span) =
      let now := ((⟨depot.session.now⟩ : Clock).advance span).now
      ({ depot with session := atTime depot.session now }, .time now) := rfl

theorem operate_setTime (depot : Depot) (index : Nat) (time : Millis) :
    depot.operate index (.setTime time) =
      ({ depot with session := atTime depot.session time }, .time time) := rfl

end TieredCache.Depot
