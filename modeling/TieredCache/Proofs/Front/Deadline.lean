import TieredCache.Proofs.Front.Merging
import TieredCache.Proofs.Front.Timeline
import TieredCache.Proofs.Response.Precedence

/-!
How long a response is used whose lifetime is declared in seconds. Main statement:
`found_within_lifetime`. The lifetime is counted from the date of the response, so that a response
from a clock that is ahead is used beyond the lifetime that it had when it was stored.
-/

namespace TieredCache

namespace ResponseCache

variable {cache : ResponseCache} {policy : Policy} {now : Millis} {key : String} {checks : Checks}
  {entry : Option Bytes} {stored : Stored} {freshness : Freshness}

/-- Unless the rules are forced, what is found is not over. -/
theorem lt_expiration_of_found (unforced : policy.force = false)
    (fresh : stored.head.freshness = some freshness)
    (found : verdict policy now key checks entry = .found stored) :
    now < freshness.expiration := by
  have worth := worth_verdict policy now key checks entry
  rw [found] at worth
  obtain ⟨_, _, current | forced, _⟩ := (worth.response stored).mp rfl
  · obtain ⟨own, known, before⟩ := current
    cases fresh.symm.trans known
    exact before
  · exact absurd (unforced.symm.trans forced) Bool.false_ne_true

end ResponseCache

/-- Unless the rules are forced, no answer of a layer is taken for a response that is over. -/
theorem Session.lt_expiration_of_resolve {session : Session} {place : FrontPlace} {key : String}
    {hooks : Hooks} {next : Conclusion} {lookup : Lookup} {cache : ResponseCache} {layer : Nat}
    {stored : Stored} {freshness : Freshness}
    (present : session.cache? place = some (cache, layer)) (unforced : cache.policy.force = false)
    (fresh : stored.head.freshness = some freshness)
    (found : (session.resolve place key hooks next lookup).2 = [.conclude next (.found stored)]) :
    session.now < freshness.expiration := by
  simp only [resolve, present, ResponseCache.resolve_outcome, List.cons.injEq,
    Job.conclude.injEq, true_and, and_true] at found
  exact ResponseCache.lt_expiration_of_found unforced fresh found

namespace Depot

variable {depot : Depot} {index layer : Nat} {cache : ResponseCache} {key : String}

/-- No run after a put finds its response at this moment or later, as long as the rules are not
forced. -/
def FoundBefore (put : Depot) (index : Nat) (policy : Policy) (key : String) (stored : Stored)
    (moment : Millis) : Prop :=
  ∀ (between : List Operation) (hooks : Hooks), (policy.after between).force = false →
    let later := put.operates index between
    (later.operate index (.find key hooks)).2 = .outcome (.found stored) → later.session.now < moment

theorem alone_put (front : depot.session.front? index = some (.single cache layer))
    (quick : depot.slow layer = false) (kept : depot.losses = []) (key : String) (head : Head)
    (body : Bytes) :
    Alone index layer cache.bare (depot.operate index (.put key head body)).1 := by
  have alone : Alone index layer cache.bare depot := ⟨bare_single front, quick, kept⟩
  exact (alone.operate (.put key head body)).toAlone

/-- A put leaves its response in the layer, with a lifetime that begins at the date of the response. -/
theorem stored_of_put (front : depot.session.front? index = some (.single cache layer))
    (unforced : cache.policy.force = false) {head : Head} {body : Bytes} {seconds : Nat}
    (declared : (head.maxAge? "s-maxage").or (head.maxAge? "max-age") = some seconds)
    (stores : (depot.operate index (.put key head body)).2 = .putResult none) :
    ∃ stored, (depot.operate index (.put key head body)).1.shelves layer key = some stored.encoded ∧
      stored.head = ⟨head.status, head.storedFields body,
        some ⟨head.dateOr depot.session.now, .ofSeconds seconds, true⟩⟩ ∧
      stored.body = body ∧ Stored.decode stored.encoded = .ok stored := by
  cases prepared : cache.bare.prepare depot.session.now key head body with
  | error reason =>
      obtain ⟨session, _, ran⟩ := operate_put_refused_single (bare_single front) prepared
      rw [ran] at stores
      cases stores
  | ok stored =>
      obtain ⟨session, _, ran⟩ := operate_put_stored_single (bare_single front) prepared
      obtain ⟨freshness, own, sameHead, sameBody, decodes⟩ :=
        ResponseCache.stored_of_prepare unforced prepared
      rw [Head.freshness?_of_maxAge declared] at own
      cases own
      refine ⟨stored, ?_, sameHead, sameBody, decodes⟩
      rw [ran]
      exact if_pos ⟨rfl, rfl⟩

theorem FoundBefore.mono {put : Depot} {policy : Policy} {stored : Stored} {moment later : Millis}
    (before : FoundBefore put index policy key stored moment) (within : moment ≤ later) :
    FoundBefore put index policy key stored later :=
  fun between hooks unforced found =>
    Int.lt_of_lt_of_le (before between hooks unforced found) within

section Run

variable {put : Depot} {stored : Stored} {freshness : Freshness}
  (alone : Alone index layer cache put)
include alone

theorem foundBefore_expiration (key : String) (fresh : stored.head.freshness = some freshness) :
    FoundBefore put index cache.policy key stored freshness.expiration := by
  intro between hooks unforced later found
  have reply := ((alone.operates between).find key hooks).1
  rw [ResponseCache.policy_after] at reply
  exact ResponseCache.lt_expiration_of_found unforced fresh
    (Reply.outcome.inj (reply.symm.trans found))

/-- A failure is never found, whatever it was stored as. -/
theorem foundBefore_of_failure {kind : FailureKind} (status : stored.head.status = kind.status)
    (moment : Millis) : FoundBefore put index cache.policy key stored moment := by
  intro between hooks _ later found
  have reply := ((alone.operates between).find key hooks).1
  obtain ⟨_, _, response⟩ :=
    ResponseCache.encoded_of_found (Reply.outcome.inj (reply.symm.trans found))
  rw [status, FailureKind.ofStatus?_status] at response
  cases response

/-- A response that is still fresh at some moment is found then by a caller that accepts it. -/
theorem not_foundBefore (unforced : cache.policy.force = false)
    (held : put.shelves layer key = some stored.encoded)
    (decodes : Stored.decode stored.encoded = .ok stored)
    (response : FailureKind.ofStatus? stored.head.status = none)
    (fresh : stored.head.freshness = some freshness) {moment : Millis}
    (current : moment < freshness.expiration) :
    ¬FoundBefore put index cache.policy key stored moment := by
  intro before
  have waited := alone.operate (.setTime moment)
  have reply := (waited.toAlone.find key {}).1
  rw [waited.shelf] at reply
  change _ = Reply.outcome (ResponseCache.verdict cache.policy moment key {} (put.shelves layer key))
    at reply
  rw [held, ResponseCache.verdict_unforced unforced decodes response fresh,
    if_pos ⟨current, rfl⟩] at reply
  exact Int.lt_irrefl _ (before [.setTime moment] {} unforced reply)

end Run

/-- The lifetime that a response declares in seconds begins at its date, which is the time of the put if
the head has no date that can be read. Once it is over, no answer of any layer is taken for the response,
unless the rules are forced. A layer that answers at once does not give the response either once the
lifetime has passed since the put, exactly if the date does not lie ahead of the put, or the response has
the status of a failure, or there is no later moment. -/
theorem found_within_lifetime (depot : Depot) (index layer : Nat) (cache : ResponseCache)
    (key : String) (head : Head) (body : Bytes) (seconds : Nat)
    (front : depot.session.front? index = some (.single cache layer))
    (unforced : cache.policy.force = false)
    (declared : (head.maxAge? "s-maxage").or (head.maxAge? "max-age") = some seconds)
    (stores : (depot.operate index (.put key head body)).2 = .putResult none) :
    let time := depot.session.now
    let put := (depot.operate index (.put key head body)).1
    let lifetime := Millis.ofSeconds seconds
    ∃ stored, put.shelves layer key = some stored.encoded ∧ stored.body = body ∧
      (∀ (session : Session) place other behind name hooks next lookup,
        session.cache? place = some (other, behind) → other.policy.force = false →
        (session.resolve place name hooks next lookup).2 = [.conclude next (.found stored)] →
          session.now < head.dateOr time + lifetime) ∧
      (depot.slow layer = false → depot.losses = [] →
        FoundBefore put index cache.policy key stored (head.dateOr time + lifetime) ∧
        (FoundBefore put index cache.policy key stored (time + lifetime) ↔
          (∃ kind : FailureKind, head.status = kind.status) ∨ head.dateOr time ≤ time ∨
            time + lifetime = Millis.greatest)) := by
  intro time put lifetime
  obtain ⟨stored, held, sameHead, sameBody, decodes⟩ := stored_of_put front unforced declared stores
  have fresh : stored.head.freshness = some ⟨head.dateOr time, lifetime, true⟩ := by rw [sameHead]
  have status : stored.head.status = head.status := by rw [sameHead]
  refine ⟨stored, held, sameBody, ?_, fun quick kept => ?_⟩
  · intro session place other behind name hooks next lookup present unforcedOther found
    have current := Session.lt_expiration_of_resolve present unforcedOther fresh found
    exact current
  · have alone : Alone index layer cache.bare put := alone_put front quick kept key head body
    have before := foundBefore_expiration alone key fresh
    have order : head.dateOr time + lifetime ≤ time + lifetime ↔ _ :=
      Millis.add_le_add_iff (Millis.ofSeconds_nonneg seconds)
    refine ⟨before, fun bounded => ?_, ?_⟩
    · by_contra beyond
      obtain ⟨responds, later⟩ := not_or.mp beyond
      have response : FailureKind.ofStatus? stored.head.status = none := by
        rw [← ResponseCache.isResponse_iff, ResponseCache.IsResponse, status]
        exact not_exists.mp responds
      have current : time + lifetime < head.dateOr time + lifetime :=
        Int.not_le.mp (order.not.mpr later)
      exact not_foundBefore alone unforced held decodes response fresh current bounded
    · rintro (⟨kind, failure⟩ | within)
      · exact foundBefore_of_failure alone (status.trans failure) _
      · exact before.mono (order.mpr within)

private def ahead : Head :=
  .ofFields 200 [⟨"Date", "Tue, 14 Nov 2023 23:13:20 GMT"⟩, ⟨"Cache-Control", "max-age=10"⟩,
    ⟨"ETag", "t"⟩]

/-- Its ten seconds begin with its date. -/
theorem found_within_lifetime_ahead :
    let depot := openedSingle "single" {} (.ofSeconds 1700000000)
    let put := depot.operate 0 (.put "k" ahead [118])
    depot.session.front? 0 = some (.single { name := "single" } 1) ∧
      (ahead.maxAge? "s-maxage").or (ahead.maxAge? "max-age") = some 10 ∧
      put.2 = .putResult none ∧
      ∃ stored, stored.body = [118] ∧
        FoundBefore put.1 0 {} "k" stored (.ofSeconds 1700003610) ∧
        ¬FoundBefore put.1 0 {} "k" stored (depot.session.now + .ofSeconds 10) := by
  intro depot put
  have declared : (ahead.maxAge? "s-maxage").or (ahead.maxAge? "max-age") = some 10 := by
    decide +kernel
  have stores : put.2 = .putResult none := Reply.eq_putResult (by decide +kernel)
  have dated : ahead.dateOr (.ofSeconds 1700000000) = .ofSeconds 1700003600 := by decide +kernel
  obtain ⟨stored, _, body, _, run⟩ := found_within_lifetime depot 0 1 { name := "single" } "k" ahead
    [118] 10 rfl rfl declared stores
  obtain ⟨before, bounded⟩ := run rfl rfl
  have responds : ¬∃ kind : FailureKind, ahead.status = kind.status := by
    rintro ⟨kind, status⟩
    cases kind <;> exact absurd status (by decide)
  refine ⟨rfl, declared, stores, stored, body, ?_, ?_⟩
  · change FoundBefore put.1 0 {} "k" stored (ahead.dateOr (.ofSeconds 1700000000) + _) at before
    rw [dated] at before
    exact before
  · intro within
    obtain failure | early | last := bounded.mp within
    · exact responds failure
    · change ahead.dateOr (.ofSeconds 1700000000) ≤ _ at early
      rw [dated] at early
      exact absurd early (by decide)
    · exact absurd last (by decide)

/-- When they have passed since the put, it is found. -/
theorem found_beyond_lifetime :
    let depot := openedSingle "single" {} (.ofSeconds 1700000000)
    let put := depot.operate 0 (.put "k" ahead [118])
    let later := (put.1.operate 0 (.advance (.ofSeconds 10))).1
    (ahead.maxAge? "s-maxage").or (ahead.maxAge? "max-age") = some 10 ∧
      put.2.putResult? = some none ∧
      later.session.now = depot.session.now + Millis.ofSeconds 10 ∧
      ((later.operate 0 (.find "k" {})).2.outcome?.bind (·.response?)).map (·.body) =
        some [118] := by
  decide +kernel

end Depot

end TieredCache
