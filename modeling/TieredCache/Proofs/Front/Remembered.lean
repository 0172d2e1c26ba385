import TieredCache.Proofs.Front.Lone

/-!
Remembered failures over whole runs. Main statement: `failure_remembered`. A lookup reports a failure
exactly if that is what was last written for the key and the time it was to be remembered, by the
rules of that moment, is not over.
-/

namespace TieredCache

def Operation.isGenuine : Operation → Bool
  | put _ head _ => FailureKind.ofStatus? head.status = none
  | _ => true

namespace ResponseCache

variable {policy : Policy} {now : Millis} {key : String} {checks : Checks} {stored : Stored}
  {kind : FailureKind}

theorem verdict_ne_recentFailure (decodes : Stored.decode stored.encoded = .ok stored)
    (response : FailureKind.ofStatus? stored.head.status = none) :
    verdict policy now key checks (some stored.encoded) ≠ .recentFailure kind := by
  simp only [verdict, decodes, response]
  split
  · exact Outcome.noConfusion
  · intro same
    cases same

end ResponseCache

namespace Depot

variable {name : String} {policy : Policy} {now : Millis} {operations before : List Operation}
  {operation : Operation} {key : String} {kind : FailureKind} {hooks : Hooks}

theorem LastWrite.mem {start : Depot} (last : LastWrite start key operations before operation) :
    operation ∈ operations := by
  obtain ⟨after, rfl, _⟩ := last
  exact List.mem_append_right before List.mem_cons_self

/-- When a failure that is remembered after some operations is forgotten. -/
def forgottenAt (name : String) (policy : Policy) (now : Millis) (before : List Operation)
    (kind : FailureKind) : Millis :=
  ((openedSingle name policy now).operates 0 before).session.now +
    ((policy.after before).failureLifetime kind).toMillis

/-- The reply to a lookup of a key that last had a failure written. -/
theorem reply_find_remembered (hooks : Hooks)
    (last : LastWrite (openedSingle name policy now) key operations before (.remember key kind)) :
    let depot := (openedSingle name policy now).operates 0 operations
    (depot.operate 0 (.find key hooks)).2 = .outcome
      (if depot.session.now < forgottenAt name policy now before kind then .recentFailure kind
      else .notFound) := by
  obtain ⟨entry, written, held⟩ := last.shelf
  simp only [ResponseCache.written?] at written
  cases ignores : (ResponseCache.after { name, policy } before).ignoresFailures with
  | true =>
      rw [ResponseCache.sentinel_of_ignoring ignores] at written
      cases written
  | false =>
      obtain ⟨stored, sentinel, decodes, head⟩ := ResponseCache.sentinel_of_heeding
        ((openedSingle name policy now).operates 0 before).session.now kind ignores
      rw [sentinel] at written
      cases written
      rw [ResponseCache.policy_after] at head
      intro depot
      rw [reply_find_opened, held, ResponseCache.verdict_failureHead decodes head]
      rfl

/-- A failure is only reported if it is what was written last. -/
theorem lastWrite_of_reply (genuine : ∀ operation ∈ operations, operation.isGenuine = true)
    (reply : (((openedSingle name policy now).operates 0 operations).operate 0
      (.find key hooks)).2 = .outcome (.recentFailure kind)) :
    ∃ before, LastWrite (openedSingle name policy now) key operations before
      (.remember key kind) := by
  have judged := (reply_find_opened operations key hooks).symm.trans reply
  cases held : ((openedSingle name policy now).operates 0 operations).shelves 1 key with
  | none =>
      rw [held] at judged
      cases judged
  | some content =>
      obtain ⟨before, operation, last⟩ :=
        @exists_lastWrite key name policy now operations (by rw [held]; exact Option.some_ne_none _)
      obtain ⟨entry, written, shelf⟩ := last.shelf
      rw [held] at shelf
      subst shelf
      cases operation with
      | put other head body =>
          have response := of_decide_eq_true (genuine _ last.mem)
          simp only [ResponseCache.written?] at written
          cases prepared : (ResponseCache.after { name, policy } before).prepare
              ((openedSingle name policy now).operates 0 before).session.now other head body with
          | error reason =>
              rw [prepared] at written
              cases written
          | ok stored =>
              rw [prepared] at written
              cases written
              obtain ⟨decodes, status⟩ := ResponseCache.status_of_prepare prepared
              rw [held] at judged
              injection judged with judged
              rw [← status] at response
              exact absurd judged (ResponseCache.verdict_ne_recentFailure decodes response)
      | remember other earlier =>
          have own : other = key := by
            obtain ⟨content, _, same⟩ := Option.map_eq_some_iff.mp written
            exact congrArg Prod.fst same
          subst own
          have again := (reply_find_remembered hooks last).symm.trans reply
          split at again
          · cases again
            exact ⟨before, last⟩
          · cases again
      | _ => cases written

/-- A lookup reports a failure exactly if the last operation to write or remove the entry was that
failure's, and its time is not over: the moment it was remembered and the lifetime set then count.
Once that is over there is nothing, not even a stale response. When failures are ignored,
remembering one changes nothing at all. -/
theorem failure_remembered (name : String) (policy : Policy) (now : Millis)
    (operations : List Operation) (genuine : ∀ operation ∈ operations, operation.isGenuine = true)
    (key : String) (hooks : Hooks) :
    let depot := (openedSingle name policy now).operates 0 operations
    let reply := (depot.operate 0 (.find key hooks)).2
    let Last := fun before kind =>
      LastWrite (openedSingle name policy now) key operations before (.remember key kind)
    (∀ kind, reply = .outcome (.recentFailure kind) ↔ ∃ before, Last before kind ∧
      depot.session.now < forgottenAt name policy now before kind) ∧
    (∀ before kind, Last before kind → ¬depot.session.now < forgottenAt name policy now before kind →
      reply = .outcome .notFound) ∧
    (.ignoreFailures ∈ operations → ∀ other kind,
      depot.operate 0 (.remember other kind) = (depot, .nothing)) := by
  intro depot reply Last
  refine ⟨?_, ?_, fun ignores other kind => remember_ignored_opened ignores other kind⟩
  · intro kind
    constructor
    · intro reports
      obtain ⟨before, last⟩ := lastWrite_of_reply genuine reports
      have judged := (reply_find_remembered hooks last).symm.trans reports
      refine ⟨before, last, ?_⟩
      by_contra lapsed
      rw [if_neg lapsed] at judged
      cases judged
    · rintro ⟨before, last, current⟩
      apply (reply_find_remembered hooks last).trans
      rw [if_pos current]
  · intro before kind last lapsed
    apply (reply_find_remembered hooks last).trans
    rw [if_neg lapsed]

private def opening : List Operation :=
  [.put "k" sampleHead [118], .change [.failureLifetime .dropped (.ofSeconds 60)]]

private def sequel : List Operation :=
  [.change [.failureLifetime .dropped (.ofSeconds 1), .force false],
    .put "k" (.ofFields 200 [⟨"Cache-Control", "no-store"⟩]) [119], .ignoreFailures,
    .advance (.ofSeconds 59)]

/-- A drop is reported for the whole minute, and no other failure takes its place. -/
theorem failure_remembered_minute :
    let operations := opening ++ .remember "k" .dropped :: sequel
    let depot := (openedSingle "single" {} 0).operates 0 operations
    let later := (openedSingle "single" {} 0).operates 0 (operations ++ [.advance (.ofSeconds 1)])
    (∀ operation ∈ operations, operation.isGenuine = true) ∧
      (depot.operate 0 (.find "k" {})).2 = .outcome (.recentFailure .dropped) ∧
      depot.operate 0 (.remember "k" .fetchFailed) = (depot, .nothing) ∧
      (later.operate 0 (.find "k" {})).2 = .outcome .notFound := by
  intro operations depot later
  have spares : Spares (openedSingle "single" {} 0) (opening ++ [.remember "k" .dropped]) "k"
      sequel := by
    have refused : (((openedSingle "single" {} 0).operates 0 (opening ++
        [.remember "k" .dropped, .change [.failureLifetime .dropped (.ofSeconds 1), .force false]])).operate 0
          (.put "k" (.ofFields 200 [⟨"Cache-Control", "no-store"⟩]) [119])).2.putResult? ≠
        some none := by
      decide +kernel
    refine ⟨id, ?_, id, id, trivial⟩
    rintro ⟨_, stores⟩
    exact refused (congrArg Reply.putResult? stores)
  have writes : Writes (openedSingle "single" {} 0) opening "k" (.remember "k" .dropped) :=
    ⟨rfl, by simp [opening]⟩
  have genuine : ∀ operation ∈ operations, operation.isGenuine = true :=
    List.all_eq_true.mp (by decide)
  have genuineLater : ∀ operation ∈ operations ++ [.advance (.ofSeconds 1)],
      operation.isGenuine = true :=
    List.all_eq_true.mp (by decide)
  obtain ⟨reports, _, ignores⟩ := failure_remembered "single" {} 0 operations genuine "k" {}
  obtain ⟨_, forgets, _⟩ := failure_remembered "single" {} 0 _ genuineLater "k" {}
  refine ⟨genuine, (reports .dropped).mpr ⟨opening, ⟨sequel, rfl, writes, spares⟩, ?_⟩,
    ignores (by simp [operations, sequel]) "k" .fetchFailed, forgets opening .dropped ?_ ?_⟩
  · decide +kernel
  · exact ⟨sequel ++ [.advance (.ofSeconds 1)], rfl, writes, spares.concat id⟩
  · decide +kernel

end Depot

end TieredCache
