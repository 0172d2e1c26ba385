import TieredCache.Proofs.Front.Shelves

/-!
Reading a response back that was just put. Main statement: `find_after_put`.
-/

namespace TieredCache

/-! ### What is stored -/

namespace ResponseCache

variable {cache : ResponseCache} {policy : Policy} {now : Millis} {key : String}
  {head permitted : Head} {body : Bytes} {stored : Stored} {checks : Checks}

/-- All that holds of a response that is stored. -/
theorem prepare_ok (prepared : cache.prepare now key head body = .ok stored) :
    head.status ≠ 0 ∧ (cache.policy.refuseHtmlOverHttps && isSecure key && head.isHtml) = false ∧
      exceeds cache.policy (head.contentLength?.getD 0) = false ∧
      exceeds cache.policy stored.size = false ∧
      ∃ permitted, permit cache.policy now head = .ok permitted ∧
        Stored.encode (storedHead permitted body) body = .ok stored := by
  simp only [prepare, bind, Except.bind, pure, Except.pure, throw, throwThe,
    MonadExceptOf.throw] at prepared
  repeat' split at prepared
  all_goals first
    | contradiction
    | skip
  rename_i status document sizes _ _ permits _ _ encodes large
  cases prepared
  rw [Bool.not_eq_true] at document sizes large
  exact ⟨status, document, (Bool.or_eq_false_iff.mp sizes).1, large, _, permits, encodes⟩

/-- What is stored is the encoding of the permitted head and the body. -/
theorem encode_of_prepare (prepared : cache.prepare now key head body = .ok stored) :
    ∃ permitted, permit cache.policy now head = .ok permitted ∧
      Stored.encode (storedHead permitted body) body = .ok stored :=
  (prepare_ok prepared).2.2.2.2

/-- All that holds of a head that is permitted. -/
theorem permit_cases (permits : permit policy now head = .ok permitted) :
    let computed := head.freshness? now policy.implicitLifetime.toMillis
    policy.force = true ∧
        permitted = { head with
          freshness := computed.or (some ⟨now, policy.implicitLifetime.toMillis, false⟩) } ∨
      policy.force = false ∧ head.isStorable = true ∧ head.hasAcceptableVary = true ∧
        ∃ freshness, computed = some freshness ∧
          permitted = { head with freshness := some freshness } ∧
          (head.hasCookies = true → freshness.explicit = true) ∧ now < freshness.expiration := by
  intro computed
  unfold permit at permits
  cases force : policy.force with
  | true =>
      simp only [force, if_true] at permits
      cases permits
      exact .inl ⟨rfl, rfl⟩
  | false =>
      simp only [force, Bool.false_eq_true, if_false] at permits
      repeat' split at permits
      all_goals first
        | contradiction
        | skip
      rename_i storable vary _ freshness known cookies expired
      cases permits
      have own : computed = some freshness := known
      refine .inr ⟨rfl, by simpa using storable, by simpa using vary, freshness, own, ?_, ?_, ?_⟩
      · exact congrArg (Head.mk head.status head.fields) own
      · intro present
        simpa [present] using cookies
      · change ¬freshness.expiration.value ≤ now.value at expired
        change now.value < freshness.expiration.value
        omega

/-- A permitted response keeps its status and fields, and is current unless the rules are forced. -/
theorem permit_ok (permits : permit policy now head = .ok permitted) :
    permitted.status = head.status ∧ permitted.fields = head.fields ∧
      (policy.force = true ∨ isCurrent permitted now = true) := by
  obtain ⟨force, rfl⟩ | ⟨_, _, _, freshness, _, rfl, _, current⟩ := permit_cases permits
  · exact ⟨rfl, rfl, .inl force⟩
  · refine ⟨rfl, rfl, .inr ?_⟩
    simp only [isCurrent, Option.any_some, Freshness.isCurrent, current, decide_true]

theorem storedHead_status (head : Head) (body : Bytes) :
    (storedHead head body).status = head.status := by
  simp only [storedHead]
  split <;> rfl

theorem storedHead_freshness (head : Head) (body : Bytes) :
    (storedHead head body).freshness = head.freshness := by
  simp only [storedHead]
  split <;> rfl

theorem status_of_prepare (prepared : cache.prepare now key head body = .ok stored) :
    Stored.decode stored.encoded = .ok stored ∧ stored.head.status = head.status := by
  obtain ⟨permitted, permits, encodes⟩ := encode_of_prepare prepared
  refine ⟨Stored.decode_encoded encodes, ?_⟩
  rw [(Stored.encode_ok encodes).1, storedHead_status, (permit_ok permits).1]

/-- What was stored under these rules is found at the same time by a caller that accepts it. -/
theorem verdict_of_prepare (prepared : cache.prepare now key head body = .ok stored)
    (response : FailureKind.ofStatus? head.status = none)
    (accepted : checks.accepts key stored.head = true) :
    verdict cache.policy now key checks (some stored.encoded) = .found stored := by
  obtain ⟨permitted, permits, encodes⟩ := encode_of_prepare prepared
  obtain ⟨status, _, current⟩ := permit_ok permits
  have sameHead := (Stored.encode_ok encodes).1
  have kind : FailureKind.ofStatus? stored.head.status = none := by
    rw [sameHead, storedHead_status, status]
    exact response
  have usable : (isCurrent stored.head now || cache.policy.force) = true := by
    rw [Bool.or_eq_true, isCurrent, sameHead, storedHead_freshness]
    exact current.symm
  simp only [verdict, Stored.decode_encoded encodes, kind, usable, accepted, Bool.and_true, if_true]

theorem found_unique {entry : Bytes} {found : Stored} (decodes : Stored.decode entry = .ok stored)
    (verdicts : verdict policy now key checks (some entry) = .found found) : found = stored := by
  obtain ⟨same, decodesFound, _⟩ := encoded_of_found verdicts
  rw [← Option.some.inj same, decodes] at decodesFound
  cases decodesFound
  rfl

theorem found_or_self (policy : Policy) (now : Millis) (key : String) (checks : Checks)
    (decodes : Stored.decode stored.encoded = .ok stored) :
    (if (verdict policy now key checks (some stored.encoded)).isFound then
      verdict policy now key checks (some stored.encoded) else .found stored) = .found stored := by
  cases judged : verdict policy now key checks (some stored.encoded) with
  | found response => rw [found_unique decodes judged, ite_self]
  | missed failure stale => rfl

end ResponseCache

/-! ### Both tiers -/

namespace Depot

variable {depot : Depot} {index first second : Nat} {tiers : TwoTier} {key : String} {head : Head}
  {body : Bytes} {hooks : Hooks}

theorem bare_front (front : depot.session.front? index = some (.tiered tiers first second)) :
    depot.session.bare.front? index = some (.tiered tiers.bare first second) := by
  rw [Session.front?_bare, front]
  rfl

theorem bare_single {cache : ResponseCache} {layer : Nat}
    (front : depot.session.front? index = some (.single cache layer)) :
    depot.session.bare.front? index = some (.single cache.bare layer) := by
  rw [Session.front?_bare, front]
  rfl

/-- A lookup in two tiers when both answer at once and nothing is lost. -/
theorem operate_find_tiered
    (front : depot.session.bare.front? index = some (.tiered tiers first second))
    (quick : depot.slow first = false) (quickSecond : depot.slow second = false)
    (kept : depot.losses = []) {earlier later : Outcome}
    (judged : ResponseCache.verdict tiers.first.policy depot.session.now key hooks.checks
      (depot.shelves first key) = earlier)
    (judgedSecond : ResponseCache.verdict tiers.second.policy depot.session.now key hooks.checks
      (depot.shelves second key) = later) :
    ∃ session, depot.operate index (.find key hooks) =
      ({ depot.write first key (tiers.refill key earlier later) with session },
        .outcome (if earlier.isFound then earlier else TwoTier.join earlier later)) := by
  have same := lose_of_nil kept
  have judgedNow : ResponseCache.verdict tiers.first.policy depot.session.now key hooks.checks
      (depot.lose.shelves first key) = earlier := by
    rw [same]
    exact judged
  have judgedThen : ResponseCache.verdict tiers.second.policy depot.session.now key hooks.checks
      (depot.lose.lose.shelves second key) = later := by
    rw [same, same]
    exact judgedSecond
  unfold TwoTier.refill
  cases found : earlier.isFound with
  | true =>
      obtain ⟨session, _, ran⟩ := operate_find_first front quick judgedNow found
      rw [same] at ran
      exact ⟨session, ran⟩
  | false =>
      obtain ⟨session, _, ran⟩ := operate_find_both front quick quickSecond judgedNow found judgedThen
      rw [same, same] at ran
      exact ⟨session, ran⟩

/-- What such a lookup yields. -/
theorem reply_find (front : depot.session.bare.front? index = some (.tiered tiers first second))
    (quick : depot.slow first = false) (quickSecond : depot.slow second = false)
    (kept : depot.losses = []) :
    (depot.operate index (.find key hooks)).2 =
      let earlier := ResponseCache.verdict tiers.first.policy depot.session.now key hooks.checks
        (depot.shelves first key)
      .outcome (if earlier.isFound then earlier
        else TwoTier.join earlier (ResponseCache.verdict tiers.second.policy depot.session.now key
          hooks.checks (depot.shelves second key))) := by
  obtain ⟨session, ran⟩ := operate_find_tiered front quick quickSecond kept rfl rfl
  exact congrArg Prod.snd ran

/-- The lookup after a write: the first tier holds what it held before, or the same as the second. -/
private theorem reply_find_after_put
    (front : depot.session.front? index = some (.tiered tiers first second))
    (apart : first ≠ second) (quick : depot.slow first = false ∧ depot.slow second = false)
    (kept : depot.losses = []) (response : FailureKind.ofStatus? head.status = none)
    (accepts : ∀ head, hooks.checks.accepts key head = true) {stored : Stored}
    (prepared : tiers.second.prepare depot.session.now key head body = .ok stored)
    {earlier : Outcome}
    (left : ResponseCache.verdict tiers.first.policy depot.session.now key hooks.checks
      (if tiers.fits key stored then some stored.encoded else depot.shelves first key) = earlier) :
    ((depot.operate index (.put key head body)).1.operate index (.find key hooks)).2 =
      .outcome (if earlier.isFound then earlier else .found stored) := by
  have bareFront := bare_front front
  obtain ⟨session, sameSession, same⟩ := operate_put_stored bareFront prepared
  let after : Depot := { (depot.write second key (some stored.encoded)).write first key
    (tiers.backfill key (.found stored)) with session }
  have keptOnce := losses_write kept second key (some stored.encoded)
  have second_after : after.shelves second key = some stored.encoded := by
    change ((depot.write second key _).write first key _).shelves second key = _
    rw [shelves_write (keeps_of_nil keptOnce second), if_neg fun same => apart same.1.symm,
      shelves_write (keeps_of_nil kept second), if_pos ⟨rfl, rfl⟩, Option.some_or]
  have first_after : after.shelves first key =
      if tiers.fits key stored then some stored.encoded else depot.shelves first key := by
    change ((depot.write second key _).write first key _).shelves first key = _
    rw [shelves_write (keeps_of_nil keptOnce first), if_pos ⟨rfl, rfl⟩,
      shelves_write (keeps_of_nil kept first), if_neg fun same => apart same.1]
    simp only [TwoTier.backfill]
    split <;> rfl
  have now : after.session.now = depot.session.now := now_of_bare sameSession
  have reply := @reply_find after index first second tiers.bare key hooks
    (by rw [sameSession]; exact bareFront) (by simpa [after] using quick.1)
    (by simpa [after] using quick.2) (losses_write keptOnce _ _ _)
  have found := ResponseCache.verdict_of_prepare prepared response (accepts stored.head)
  rw [first_after, second_after, now] at reply
  change _ = Reply.outcome (if (ResponseCache.verdict tiers.first.policy _ _ _ _).isFound then
    ResponseCache.verdict tiers.first.policy _ _ _ _ else
      TwoTier.join _ (ResponseCache.verdict tiers.second.policy _ _ _ _)) at reply
  rw [left, found] at reply
  rw [same]
  exact reply

/-- A response that was stored is found afterwards exactly if it went to the first tier too, or the
first tier has nothing else for the key that can be used. Otherwise what the first tier held before
is found. -/
theorem find_after_put (front : depot.session.front? index = some (.tiered tiers first second))
    (apart : first ≠ second) (quick : depot.slow first = false ∧ depot.slow second = false)
    (kept : depot.losses = []) (response : FailureKind.ofStatus? head.status = none)
    (accepts : ∀ head, hooks.checks.accepts key head = true)
    (stores : (depot.operate index (.put key head body)).2 = .putResult none) :
    ∃ stored, tiers.second.prepare depot.session.now key head body = .ok stored ∧
      stored.body = body ∧
      let left := ResponseCache.verdict tiers.first.policy depot.session.now key hooks.checks
        (depot.shelves first key)
      let reply := ((depot.operate index (.put key head body)).1.operate index (.find key hooks)).2
      (reply = .outcome (.found stored) ↔
        tiers.fits key stored = true ∨ left.isFound = false ∨
          depot.shelves first key = some stored.encoded) ∧
      (reply = .outcome (.found stored) ∨ reply = .outcome left) := by
  cases prepared : tiers.second.prepare depot.session.now key head body with
  | error reason =>
      obtain ⟨session, _, same⟩ := operate_put_refused (bare_front front) prepared
      rw [same] at stores
      cases stores
  | ok stored =>
      obtain ⟨permitted, _, encodes⟩ := ResponseCache.encode_of_prepare prepared
      have decodes := Stored.decode_encoded encodes
      have reply := reply_find_after_put front apart quick kept response accepts prepared rfl
      refine ⟨stored, rfl, (Stored.encode_ok encodes).2, ?_⟩
      by_cases fits : tiers.fits key stored = true
      · rw [if_pos fits, ResponseCache.found_or_self _ _ _ _ decodes] at reply
        exact ⟨⟨fun _ => .inl fits, fun _ => reply⟩, .inl reply⟩
      · rw [if_neg fits] at reply
        cases left : ResponseCache.verdict tiers.first.policy depot.session.now key hooks.checks
            (depot.shelves first key) with
        | missed failure stale =>
            rw [left] at reply
            exact ⟨⟨fun _ => .inr (.inl rfl), fun _ => reply⟩, .inl reply⟩
        | found response =>
            rw [left] at reply
            obtain ⟨entry, decodesResponse, _⟩ := ResponseCache.encoded_of_found left
            refine ⟨⟨?_, ?_⟩, .inr reply⟩
            · intro own
              rw [reply] at own
              cases own
              exact .inr (.inr entry)
            · rintro (fitting | missed | own)
              · exact absurd fitting fits
              · cases missed
              · rw [own] at left
                rw [reply, ResponseCache.found_unique decodes left]
                rfl

def sampleHead : Head := .ofFields 200 [⟨"Cache-Control", "max-age=300"⟩, ⟨"ETag", "t"⟩]

/-- The first of all responses to be stored is read back. -/
theorem find_after_first_put :
    ∃ stored, (ResponseCache.prepare { name := "tier2" } 0 "k" sampleHead [118]) = .ok stored ∧
      stored.body = [118] ∧
      (((opened {} none 0).operate 0 (.put "k" sampleHead [118])).1.operate 0
        (.find "k" {})).2 = .outcome (.found stored) := by
  have front : (opened {} none 0).session.front? 0 = some (.tiered (.ofPolicy {} none) 0 1) := rfl
  have stores : ((opened {} none 0).operate 0 (.put "k" sampleHead [118])).2 = .putResult none :=
    Reply.eq_putResult (by decide +kernel)
  obtain ⟨stored, prepared, body, found, _⟩ :=
    @find_after_put _ 0 0 1 _ "k" sampleHead [118] {} front Nat.zero_ne_one
      ⟨rfl, rfl⟩ rfl rfl (fun _ => rfl) stores
  exact ⟨stored, prepared, body, found.mpr (.inr (.inl rfl))⟩

/-- A response that reaches the limit of the first tier leaves an older one of its key there, and the
older one is found. -/
theorem find_after_large_put :
    let before := ((opened {} (some 200) (.ofSeconds 1700000000)).operate 0
      (.put "k" sampleHead [111, 108, 100])).1
    let written := before.operate 0 (.put "k" sampleHead (.replicate 200 110))
    FailureKind.ofStatus? sampleHead.status = none ∧ written.2.putResult? = some none ∧
      ((written.1.operate 0 (.find "k" {})).2.outcome?.bind (·.response?)).map (·.body) =
        some [111, 108, 100] := by
  decide +kernel

end Depot

end TieredCache
