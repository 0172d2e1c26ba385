import TieredCache.Proofs.Front.Timeline
import TieredCache.Proofs.Response.Elements

/-!
Which responses are stored, and what is left of a response that is not. Main statement:
`storing_gate`. The checks are made on the head that the caller has; the head that is stored loses
its cookies and may gain an entity tag after them.
-/

namespace TieredCache

theorem Field.hasName_etag (value : String) : (Field.mk "ETag" value).hasName "etag" = true := by
  change Text.equalIgnoringCase "ETag".toList "etag".toList = true
  decide

namespace Head

theorem cookieless_storedFields (head : Head) (body : Bytes) : ∀ field ∈ head.storedFields body,
    field.hasName "set-cookie" = false ∧ field.hasName "set-cookie2" = false := by
  have plain : ∀ field ∈ head.plainFields,
      field.hasName "set-cookie" = false ∧ field.hasName "set-cookie2" = false := by
    intro field member
    simpa using (List.mem_filter.mp member).2
  unfold storedFields
  split
  · exact plain
  · intro field member
    rcases List.mem_append.mp member with old | new
    · exact plain field old
    · rw [List.mem_singleton.mp new]
      have tag := Field.hasName_etag (ResponseCache.entityTag body)
      exact ⟨Field.hasName_eq_false tag (by decide), Field.hasName_eq_false tag (by decide)⟩

theorem tagged_storedFields (head : Head) (body : Bytes) :
    (head.storedFields body).any (·.hasName "etag") = true := by
  unfold storedFields
  split
  · rename_i tagged
    rw [← fields_stripCookies]
    exact (has_etag_stripCookies head).trans tagged
  · rw [List.any_append, List.any_cons, Field.hasName_etag, Bool.true_or, Bool.or_true]

end Head

namespace ResponseCache

variable {cache : ResponseCache} {policy : Policy} {now : Millis} {key : String}
  {head permitted : Head} {body : Bytes} {stored : Stored} {size : Nat}

theorem exceeds_eq_false : exceeds policy size = false ↔ ∀ most ∈ policy.maximumSize, size ≤ most := by
  unfold exceeds
  cases policy.maximumSize with
  | none => simp
  | some most => simp

/-- What holds of every response that is stored, whatever the rules. -/
structure Admits (policy : Policy) (key : String) (head : Head) (body : Bytes) (stored : Stored) :
    Prop where
  named : head.status ≠ 0
  size : ∀ most ∈ policy.maximumSize, stored.size ≤ most
  declared : ∀ most ∈ policy.maximumSize, ∀ length ∈ head.contentLength?, length ≤ most
  document : policy.refuseHtmlOverHttps = true → "https://".toList <+: key.toList →
    head.isHtml = false
  status : stored.head.status = head.status
  /-- The caller's fields in order, cookies aside, and an entity tag behind them if there was none. -/
  fields : stored.head.fields = head.storedFields body
  cookieless : ∀ field ∈ stored.head.fields,
    field.hasName "set-cookie" = false ∧ field.hasName "set-cookie2" = false
  tagged : stored.head.has "etag" = true
  body : stored.body = body
  decodes : Stored.decode stored.encoded = .ok stored

/-- What holds besides of a response that is stored by rules that are not forced. -/
structure Heeds (policy : Policy) (now : Millis) (head : Head) (stored : Stored) : Prop where
  permitted : ∀ name ∈ Head.forbiddingNames, ¬head.Carries name
  varies : head.VariesByEncoding
  fresh : ∃ freshness, head.freshness? now policy.implicitLifetime.toMillis = some freshness ∧
    stored.head.freshness = some freshness ∧
    (head.hasCookies = true → freshness.explicit = true) ∧ now < freshness.expiration

theorem Admits.of_prepare (prepared : cache.prepare now key head body = .ok stored) :
    Admits cache.policy key head body stored := by
  obtain ⟨named, document, declared, size, permitted, permits, encodes⟩ := prepare_ok prepared
  obtain ⟨decodes, status⟩ := status_of_prepare prepared
  obtain ⟨sameHead, sameBody⟩ := Stored.encode_ok encodes
  have same : permitted.fields = head.fields := (permit_ok permits).2.1
  have fields : stored.head.fields = head.storedFields body := by
    rw [sameHead, storedHead_fields]
    unfold Head.storedFields Head.has Head.plainFields
    rw [same]
  refine {
    named, status, fields, decodes
    size := exceeds_eq_false.mp size
    declared := ?_
    document := ?_
    cookieless := ?_
    tagged := ?_
    body := sameBody }
  · intro most limit length known
    have bound := exceeds_eq_false.mp declared most limit
    rwa [known] at bound
  · intro refuses secure
    rwa [refuses, isSecure, List.isPrefixOf_iff_prefix.mpr secure] at document
  · rw [fields]
    exact Head.cookieless_storedFields head body
  · unfold Head.has
    rw [fields]
    exact Head.tagged_storedFields head body

theorem Heeds.of_prepare (unforced : cache.policy.force = false)
    (prepared : cache.prepare now key head body = .ok stored) :
    Heeds cache.policy now head stored := by
  obtain ⟨permitted, permits, -⟩ := encode_of_prepare prepared
  obtain ⟨freshness, own, sameHead, -⟩ := stored_of_prepare unforced prepared
  obtain ⟨force, -⟩ | ⟨-, storable, vary, computed, same, -, explicit, current⟩ :=
    permit_cases permits
  · exact absurd (unforced.symm.trans force) Bool.false_ne_true
  · obtain rfl := Option.some.inj (same.symm.trans own)
    refine ⟨fun name forbidding => Head.not_carries_of_isStorable storable forbidding,
      Head.hasAcceptableVary_iff.mp vary, computed, own, ?_, explicit, current⟩
    rw [sameHead]

end ResponseCache

/-! ### Refusals -/

namespace Session

variable {session : Session} {place : FrontPlace} {cache : ResponseCache} {key : String}
  {head : Head} {body : Bytes} {reason : Refusal}

/-- The cache that prepares what is put into a front: of two tiers it is the second. -/
def preparer? (session : Session) (place : FrontPlace) : Option ResponseCache :=
  match session.tiers? place with
  | some (tiers, _, _) => some tiers.second
  | none => (session.cache? place).map (·.1)

theorem run_nil (session : Session) : session.run [] = session := by
  unfold run
  rw [Agenda.run_nil]

/-- A response that is refused leaves no job behind, and no trace but signals. -/
theorem startFront_refused (prepares : session.preparer? place = some cache)
    (refuses : cache.prepare session.now key head body = .error reason) (label : String)
    (further : List Step) :
    ∃ signals, session.startFront label further place (.put key head body) =
      (session.signal signals).answered (.putResult (some reason)) := by
  unfold preparer? at prepares
  unfold startFront
  cases tiered : session.tiers? place with
  | some found =>
      obtain ⟨tiers, first, second⟩ := found
      rw [tiered] at prepares
      cases prepares
      refine ⟨[], ?_⟩
      simp only [startTiers, refuses]
      rfl
  | none =>
      rw [tiered] at prepares
      obtain ⟨⟨own, layer⟩, present, rfl⟩ := Option.map_eq_some_iff.mp prepares
      refine ⟨ResponseCache.refused key reason, ?_⟩
      simp only [present, startCache, refuses]

end Session

/-- The gate that responses have to pass. What passes is sound: it keeps to the limits and to the
rules about documents and cookies after its head was rewritten, it is the caller's response
otherwise, and it is read back as itself. Unless the rules are forced, it was also free to be stored,
and fresh. What does not pass is told why, and nothing else happens: all layers, files and fronts, and
so all counts, stay as they are. The head itself is an argument, which no session holds. -/
theorem storing_gate (cache : ResponseCache) (now : Millis) (key : String) (head : Head)
    (body : Bytes) :
    (∀ stored, cache.prepare now key head body = .ok stored →
      ResponseCache.Admits cache.policy key head body stored ∧
        (cache.policy.force = false → ResponseCache.Heeds cache.policy now head stored)) ∧
    (∀ reason, cache.prepare now key head body = .error reason →
      ∀ (session : Session) (place : FrontPlace) (default : String) (label : Option String)
        (further : List Step), session.now = now → session.preparer? place = some cache →
      let started := session.start default (.mk (.front place (.put key head body)) label further)
      let after := started.session.run started.jobs
      started.reply after = .putResult (some reason) ∧
        ∃ signals, after = session.signal signals) := by
  constructor
  · intro stored prepared
    exact ⟨.of_prepare prepared, fun unforced => .of_prepare unforced prepared⟩
  · rintro reason refuses session place default label further rfl prepares
    obtain ⟨signals, same⟩ :=
      Session.startFront_refused prepares refuses (label.getD default) further
    have starts : session.start default (.mk (.front place (.put key head body)) label further) =
        (session.signal signals).answered (.putResult (some reason)) := same
    rw [starts]
    exact ⟨rfl, signals, Session.run_nil _⟩

private def visitor : Head :=
  .ofFields 200 [⟨"Set-Cookie", "a=b"⟩, ⟨"cache-control", "public, max-age=300"⟩]

/-- It passes below the limit, and one that is private is refused. -/
theorem storing_gate_visitor :
    let cache : ResponseCache := { name := "single", policy := { maximumSize := some 300 } }
    let session : Session := { stack := { layers := [], now := 0 }, fronts := [.single cache 0] }
    let secret : Head := .ofFields 200 [⟨"Cache-Control", "max-age=300, Private=\"x\""⟩]
    (∃ stored, cache.prepare 0 "k" visitor [118] = .ok stored ∧
      ResponseCache.Admits cache.policy "k" visitor [118] stored ∧
      ResponseCache.Heeds cache.policy 0 visitor stored) ∧
    cache.prepare 0 "k" secret [118] = .error .forbidden ∧
    let started := session.start "" (.mk (.front ⟨0, .whole⟩ (.put "k" secret [118])) none [])
    started.reply (started.session.run started.jobs) = .putResult (some .forbidden) := by
  intro cache session secret
  have refuses : cache.prepare 0 "k" secret [118] = .error .forbidden := by rfl
  obtain ⟨passes, -⟩ := storing_gate cache 0 "k" visitor [118]
  obtain ⟨-, rests⟩ := storing_gate cache 0 "k" secret [118]
  refine ⟨?_, refuses, (rests .forbidden refuses session ⟨0, .whole⟩ "" none [] rfl rfl).1⟩
  cases prepared : cache.prepare 0 "k" visitor [118] with
  | ok stored => exact ⟨stored, rfl, (passes stored prepared).1, (passes stored prepared).2 rfl⟩
  | error reason =>
      have stores : (cache.prepare 0 "k" visitor [118]).isOk = true := by decide +kernel
      rw [prepared] at stores
      cases stores

end TieredCache
