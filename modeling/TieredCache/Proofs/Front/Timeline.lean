import TieredCache.Proofs.Front.Lone

/-!
The time over which a stored response is used. Main statement: `freshness_timeline`. From the moment
it is stored until its entry is next written or removed, a response is found while it is fresh and the
caller accepts it, and otherwise there to fall back to; it is always the same response.
-/

namespace TieredCache

/-! ### What is kept of a head -/

/-- A field has no two names that differ in more than case. -/
theorem Field.hasName_eq_false {field : Field} {name other : String}
    (own : field.hasName name = true)
    (apart : Text.lowerAscii name.toList ≠ Text.lowerAscii other.toList) :
    field.hasName other = false := by
  have same : Text.lowerAscii field.name.toList = Text.lowerAscii name.toList :=
    of_decide_eq_true own
  exact decide_eq_false fun matching => apart (same.symm.trans matching)

namespace Head

def plainFields (head : Head) : List Field :=
  head.fields.filter fun field => !field.hasName "set-cookie" && !field.hasName "set-cookie2"

theorem fields_stripCookies (head : Head) : head.stripCookies.fields = head.plainFields := by
  unfold stripCookies cookieNames plainFields
  simp only [List.foldl_cons, List.foldl_nil, removeAll, List.filter_filter]
  apply List.filter_congr
  intro field _
  exact Bool.and_comm _ _

/-- An entity tag is no cookie. -/
theorem has_etag_stripCookies (head : Head) : head.stripCookies.has "etag" = head.has "etag" := by
  unfold has
  rw [fields_stripCookies, plainFields, List.any_filter]
  congr 1
  funext field
  cases tagged : field.hasName "etag" with
  | false => exact Bool.and_false _
  | true =>
      rw [Field.hasName_eq_false tagged (by decide), Field.hasName_eq_false tagged (by decide)]
      rfl

def storedFields (head : Head) (body : Bytes) : List Field :=
  if head.has "etag" then head.plainFields
  else head.plainFields ++ [⟨"ETag", ResponseCache.entityTag body⟩]

end Head

namespace ResponseCache

variable {cache : ResponseCache} {policy : Policy} {now : Millis} {key : String}
  {head permitted : Head} {body : Bytes} {stored : Stored}

theorem storedHead_fields (head : Head) (body : Bytes) :
    (storedHead head body).fields = head.storedFields body := by
  unfold storedHead Head.storedFields
  simp only [Head.has_etag_stripCookies]
  split
  · exact head.fields_stripCookies
  · exact congrArg (· ++ _) head.fields_stripCookies

/-- Unless the rules are forced, what is permitted has a freshness of its own. -/
theorem permit_unforced (unforced : policy.force = false)
    (permits : permit policy now head = .ok permitted) :
    ∃ freshness, head.freshness? now policy.implicitLifetime.toMillis = some freshness ∧
      permitted = { head with freshness := some freshness } := by
  obtain ⟨force, _⟩ | ⟨_, _, _, freshness, own, same, _⟩ := permit_cases permits
  · exact absurd (unforced.symm.trans force) Bool.false_ne_true
  · exact ⟨freshness, own, same⟩

/-- The response that is stored, when the rules are not forced. -/
theorem stored_of_prepare (unforced : cache.policy.force = false)
    (prepared : cache.prepare now key head body = .ok stored) :
    ∃ freshness, head.freshness? now cache.policy.implicitLifetime.toMillis = some freshness ∧
      stored.head = ⟨head.status, head.storedFields body, some freshness⟩ ∧ stored.body = body ∧
      Stored.decode stored.encoded = .ok stored := by
  obtain ⟨permitted, permits, encodes⟩ := encode_of_prepare prepared
  obtain ⟨freshness, own, rfl⟩ := permit_unforced unforced permits
  obtain ⟨sameHead, sameBody⟩ := Stored.encode_ok encodes
  refine ⟨freshness, own, ?_, sameBody, Stored.decode_encoded encodes⟩
  rw [sameHead, Head.mk.injEq]
  exact ⟨storedHead_status _ body, storedHead_fields _ body, storedHead_freshness _ body⟩

/-- What a response with a freshness is worth later, when the rules are not forced. -/
theorem verdict_unforced {checks : Checks} {freshness : Freshness}
    (unforced : policy.force = false) (decodes : Stored.decode stored.encoded = .ok stored)
    (response : FailureKind.ofStatus? stored.head.status = none)
    (fresh : stored.head.freshness = some freshness) :
    verdict policy now key checks (some stored.encoded) =
      if now < freshness.expiration ∧ checks.accepts key stored.head = true then .found stored
      else .fallback stored := by
  have current : isCurrent stored.head now = decide (now < freshness.expiration) := by
    rw [isCurrent, fresh]
    rfl
  simp only [verdict, decodes, response, current, unforced, Bool.or_false, Bool.and_eq_true,
    decide_eq_true_eq]

end ResponseCache

namespace Depot

/-- A response that was stored is the one that every later lookup yields, until its entry is written
or removed: with its body, its status, the freshness that it had when it was stored, and its fields in
order, without cookies and with an entity tag if it had none. It is found exactly while it is fresh
and the caller accepts it, and is there to fall back to at all other times. -/
theorem freshness_timeline (name : String) (policy : Policy) (start : Millis)
    (earlier between : List Operation) (key : String) (head : Head) (body : Bytes) (hooks : Hooks)
    (response : FailureKind.ofStatus? head.status = none)
    (unforced : (policy.after earlier).force = false)
    (stores : (((openedSingle name policy start).operates 0 earlier).operate 0
      (.put key head body)).2 = .putResult none)
    (spares : Spares (openedSingle name policy start) (earlier ++ [.put key head body]) key between)
    (unforcedLater : (policy.after (earlier ++ .put key head body :: between)).force = false) :
    let before := (openedSingle name policy start).operates 0 earlier
    let later := (openedSingle name policy start).operates 0 (earlier ++ .put key head body :: between)
    ∃ freshness stored,
      head.freshness? before.session.now (policy.after earlier).implicitLifetime.toMillis =
        some freshness ∧
      stored.head = ⟨head.status, head.storedFields body, some freshness⟩ ∧ stored.body = body ∧
      (later.operate 0 (.find key hooks)).2 = .outcome
        (if later.session.now < freshness.expiration ∧
            hooks.checks.accepts key stored.head = true then .found stored
        else .fallback stored) := by
  intro before later
  have last : LastWrite (openedSingle name policy start) key
      (earlier ++ .put key head body :: between) earlier (.put key head body) :=
    ⟨between, rfl, ⟨rfl, stores⟩, spares⟩
  obtain ⟨entry, written, held⟩ := last.shelf
  obtain ⟨stored, prepared⟩ := put_stored_opened stores
  have rules := ResponseCache.policy_after { name, policy } earlier
  obtain ⟨freshness, own, sameHead, sameBody, decodes⟩ :=
    ResponseCache.stored_of_prepare (rules ▸ unforced) prepared
  rw [rules] at own
  refine ⟨freshness, stored, own, sameHead, sameBody, ?_⟩
  simp only [ResponseCache.written?, prepared] at written
  cases written
  apply (reply_find_opened _ key hooks).trans
  rw [held]
  apply congrArg Reply.outcome
  apply ResponseCache.verdict_unforced unforcedLater decodes
  · rw [sameHead]
    exact response
  · rw [sameHead]

private def tracked : Head :=
  .ofFields 200 [⟨"Set-Cookie", "a=b"⟩, ⟨"Cache-Control", "max-age=300"⟩, ⟨"X-Name", "v"⟩]

/-- It is still found in the last millisecond, without the cookie. -/
theorem freshness_timeline_tracked :
    let between : List Operation :=
      [.remember "other" .dropped, .find "k" {}, .advance (.ofMilliseconds 299999)]
    let start := openedSingle "single" {} 0
    let later := start.operates 0 (.put "k" tracked [118] :: between)
    FailureKind.ofStatus? tracked.status = none ∧
      (start.operate 0 (.put "k" tracked [118])).2 = .putResult none ∧
      Spares start [.put "k" tracked [118]] "k" between ∧
      ∃ stored : Stored,
        stored.head = ⟨200, [⟨"Cache-Control", "max-age=300"⟩, ⟨"X-Name", "v"⟩,
          ⟨"ETag", ResponseCache.entityTag [118]⟩], some ⟨0, .ofSeconds 300, true⟩⟩ ∧
        stored.body = [118] ∧ (later.operate 0 (.find "k" {})).2 = .outcome (.found stored) := by
  intro between start later
  have stores : (start.operate 0 (.put "k" tracked [118])).2 = .putResult none :=
    Reply.eq_putResult (by decide +kernel)
  have spares : Spares start [.put "k" tracked [118]] "k" between := by
    refine ⟨?_, id, id, trivial⟩
    rintro ⟨same, _⟩
    exact absurd same (by decide)
  obtain ⟨freshness, stored, own, head, body, reply⟩ := freshness_timeline "single" {} 0 [] between
    "k" tracked [118] {} rfl rfl stores spares rfl
  have known : tracked.freshness? 0 (Span.ofSeconds 300).toMillis =
      some ⟨0, .ofSeconds 300, true⟩ := by
    decide +kernel
  have same := Option.some.inj (own.symm.trans known)
  subst same
  refine ⟨rfl, stores, spares, stored, ?_, body, ?_⟩
  · rw [head]
    decide +kernel
  · rw [if_pos ⟨by decide +kernel, rfl⟩] at reply
    exact reply

end Depot

end TieredCache
