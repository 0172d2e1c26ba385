import TieredCache.Proofs.Front.Forgery

/-!
What lookups yield, whatever the layers hold. Main statement: `find_merges`. The outcome of one cache is
told by the octets of the entry alone, and the outcome of two tiers by those of their entries; nothing
is written but a response of the second tier that the first one has room for.
-/

namespace TieredCache

/-! ### One entry -/

namespace ResponseCache

variable {policy : Policy} {now : Millis} {key : String} {checks : Checks} {entry : Option Bytes}
  {stored : Stored}

def Unexpired (head : Head) (now : Millis) : Prop :=
  ∃ freshness, head.freshness = some freshness ∧ now < freshness.expiration

def Reads (entry : Option Bytes) (stored : Stored) : Prop :=
  ∃ encoded, entry = some encoded ∧ Stored.decode encoded = .ok stored

def IsResponse (stored : Stored) : Prop := ∀ kind : FailureKind, stored.head.status ≠ kind.status

/-- The parts of an outcome, each told by the entry that was looked at. -/
structure Worth (policy : Policy) (now : Millis) (key : String) (checks : Checks)
    (entry : Option Bytes) (outcome : Outcome) : Prop where
  response : ∀ stored, outcome.response? = some stored ↔
    Reads entry stored ∧ IsResponse stored ∧ (Unexpired stored.head now ∨ policy.force = true) ∧
      checks.accepts key stored.head = true
  valued : outcome.response?.isSome = outcome.isFound
  stale : ∀ stored, outcome.stale? = some stored ↔
    Reads entry stored ∧ IsResponse stored ∧
      (¬Unexpired stored.head now ∧ policy.force = false ∨ checks.accepts key stored.head = false)
  failure : ∀ kind, outcome.failure? = some kind ↔
    ∃ stored, Reads entry stored ∧ stored.head.status = kind.status ∧ Unexpired stored.head now
  unreadable : (∀ stored, ¬Reads entry stored) → outcome = .notFound

theorem isCurrent_iff {head : Head} : isCurrent head now = true ↔ Unexpired head now := by
  cases fresh : head.freshness <;> simp [isCurrent, Unexpired, Freshness.isCurrent, fresh]

theorem isResponse_iff : IsResponse stored ↔ FailureKind.ofStatus? stored.head.status = none := by
  simp only [IsResponse, ne_eq, ← FailureKind.ofStatus?_eq_some, Option.eq_none_iff_forall_ne_some]

/-- An entry is read as one response at most. -/
theorem Reads.unique (reads : Reads entry stored) {other : Stored} :
    Reads entry other ↔ other = stored := by
  constructor
  · rintro ⟨encoded, rfl, decodes⟩
    obtain ⟨_, ⟨⟩, decodesToo⟩ := reads
    cases decodes.symm.trans decodesToo
    rfl
  · rintro rfl
    exact reads

theorem verdict_unreadable (unread : ∀ stored, ¬Reads entry stored) :
    verdict policy now key checks entry = .notFound := by
  cases entry with
  | none => rfl
  | some encoded =>
      cases decodes : Stored.decode encoded with
      | error fault => simp only [verdict, decodes]
      | ok stored => exact absurd ⟨encoded, rfl, decodes⟩ (unread stored)

theorem verdict_failure (reads : Reads entry stored) {kind : FailureKind}
    (status : stored.head.status = kind.status) :
    verdict policy now key checks entry =
      if isCurrent stored.head now then .recentFailure kind else .notFound := by
  obtain ⟨encoded, rfl, decodes⟩ := reads
  simp only [verdict, decodes, FailureKind.ofStatus?_eq_some.mpr status]

theorem verdict_response (reads : Reads entry stored) (response : IsResponse stored) :
    verdict policy now key checks entry =
      if (isCurrent stored.head now || policy.force) && checks.accepts key stored.head then
        .found stored
      else .fallback stored := by
  obtain ⟨encoded, rfl, decodes⟩ := reads
  simp only [verdict, decodes, isResponse_iff.mp response]

theorem worth_unreadable (unread : ∀ stored, ¬Reads entry stored) :
    Worth policy now key checks entry .notFound where
  response stored := by simp [unread stored, Outcome.notFound, Outcome.response?]
  valued := rfl
  stale stored := by simp [unread stored, Outcome.notFound, Outcome.stale?]
  failure kind := by simp [unread, Outcome.notFound, Outcome.failure?]
  unreadable _ := rfl

theorem worth_failure (reads : Reads entry stored) {kind : FailureKind}
    (status : stored.head.status = kind.status) :
    Worth policy now key checks entry
      (if isCurrent stored.head now then .recentFailure kind else .notFound) := by
  have failing : ∀ other, ¬(Reads entry other ∧ IsResponse other) := by
    rintro other ⟨readsToo, response⟩
    rw [reads.unique.mp readsToo] at response
    exact response kind status
  have unread : ¬∀ other, ¬Reads entry other := fun none => none stored reads
  refine ⟨fun other => ?_, ?_, fun other => ?_, fun own => ?_, fun none => absurd none unread⟩
  · rw [← and_assoc, iff_false_right fun given => failing other given.1]
    split <;> exact Option.some_ne_none other ∘ Eq.symm
  · split <;> rfl
  · rw [← and_assoc, iff_false_right fun given => failing other given.1]
    split <;> exact Option.some_ne_none other ∘ Eq.symm
  · have same : stored.head.status = own.status ↔ kind = own := by
      rw [← FailureKind.ofStatus?_eq_some, FailureKind.ofStatus?_eq_some.mpr status, Option.some.injEq]
    simp only [reads.unique, exists_eq_left, same, ← isCurrent_iff]
    split <;> simp_all [Outcome.recentFailure, Outcome.notFound, Outcome.failure?]

theorem worth_response (reads : Reads entry stored) (response : IsResponse stored) :
    Worth policy now key checks entry
      (if (isCurrent stored.head now || policy.force) && checks.accepts key stored.head then
        .found stored
      else .fallback stored) := by
  have unread : ¬∀ other, ¬Reads entry other := fun none => none stored reads
  have silent : ∀ kind : FailureKind, ¬∃ other, Reads entry other ∧
      other.head.status = kind.status ∧ Unexpired other.head now := by
    rintro kind ⟨other, readsToo, status, _⟩
    rw [reads.unique.mp readsToo] at status
    exact response kind status
  have usable : ((isCurrent stored.head now || policy.force) && checks.accepts key stored.head) =
      true ↔ (Unexpired stored.head now ∨ policy.force = true) ∧
        checks.accepts key stored.head = true := by
    rw [Bool.and_eq_true, Bool.or_eq_true, isCurrent_iff]
  have rejected : (¬Unexpired stored.head now ∧ policy.force = false ∨
      checks.accepts key stored.head = false) ↔ ¬((Unexpired stored.head now ∨
        policy.force = true) ∧ checks.accepts key stored.head = true) := by
    rw [not_and_or, not_or, Bool.not_eq_true, Bool.not_eq_true]
  have offered : ∀ (other : Stored) (holds : Stored → Prop),
      (Reads entry other ∧ IsResponse other ∧ holds other) ↔ other = stored ∧ holds stored := by
    intro other holds
    rw [reads.unique]
    constructor
    · rintro ⟨rfl, _, held⟩
      exact ⟨rfl, held⟩
    · rintro ⟨rfl, held⟩
      exact ⟨rfl, response, held⟩
  refine ⟨fun other => ?_, ?_, fun other => ?_, fun own => ?_, fun none => absurd none unread⟩
  · rw [offered other fun other => (Unexpired other.head now ∨ policy.force = true) ∧
      checks.accepts key other.head = true, ← usable]
    split <;> rename_i use <;> simp only [use, Outcome.fallback, Outcome.response?, reduceCtorEq,
      Option.some.injEq, eq_comm, and_true, and_false, Bool.false_eq_true]
  · split <;> rfl
  · rw [offered other fun other => ¬Unexpired other.head now ∧ policy.force = false ∨
      checks.accepts key other.head = false, rejected, ← usable]
    split <;> rename_i use <;> simp only [use, Outcome.fallback, Outcome.stale?, reduceCtorEq,
      Option.some.injEq, eq_comm, and_true, and_false, not_true, not_false_eq_true, Bool.false_eq_true]
  · rw [iff_false_right (silent own)]
    split <;> exact Option.some_ne_none own ∘ Eq.symm

/-- The outcome of a lookup is worth what its entry is. -/
theorem worth_verdict (policy : Policy) (now : Millis) (key : String) (checks : Checks)
    (entry : Option Bytes) :
    Worth policy now key checks entry (verdict policy now key checks entry) := by
  by_cases readable : ∃ stored, Reads entry stored
  · obtain ⟨stored, reads⟩ := readable
    by_cases failing : ∃ kind : FailureKind, stored.head.status = kind.status
    · obtain ⟨kind, status⟩ := failing
      rw [verdict_failure reads status]
      exact worth_failure reads status
    · have response : IsResponse stored := not_exists.mp failing
      rw [verdict_response reads response]
      exact worth_response reads response
  · rw [verdict_unreadable (not_exists.mp readable)]
    exact worth_unreadable (not_exists.mp readable)

end ResponseCache

/-! ### Two entries -/

namespace Outcome

/-- What two lookups that found nothing come to together. -/
structure Merged (earlier later outcome : Outcome) : Prop where
  missed : outcome.isFound = false
  failure : ∀ kind, outcome.failure? = some kind ↔
    later.failure? = some kind ∨ later.failure? = none ∧ earlier.failure? = some kind
  stale : outcome.stale?.isSome = (earlier.stale?.isSome || later.stale?.isSome)
  source : ∀ stored, outcome.stale? = some stored →
    earlier.stale? = some stored ∨ later.stale? = some stored
  latest : ∀ stored, outcome.stale? = some stored →
    ∀ other, earlier.stale? = some other ∨ later.stale? = some other →
      dateOf other ≤ dateOf stored

theorem isSome_freshest (first second : Option Stored) :
    (freshest first second).isSome = (first.isSome || second.isSome) := by
  unfold freshest
  split
  · split <;> rfl
  · exact Option.isSome_or

theorem freshest_mem {first second : Option Stored} {stored : Stored}
    (kept : freshest first second = some stored) : first = some stored ∨ second = some stored := by
  unfold freshest at kept
  split at kept
  · split at kept
    · exact .inr kept
    · exact .inl kept
  · rw [Option.or_eq_some_iff] at kept
    exact kept.imp_right And.right

/-- The fallback that is kept is not older than either. -/
theorem dateOf_le_freshest {first second : Option Stored} {stored other : Stored}
    (kept : freshest first second = some stored)
    (offered : first = some other ∨ second = some other) : dateOf other ≤ dateOf stored := by
  have same : dateOf other ≤ dateOf other := Int.le_refl _
  cases first with
  | none =>
      obtain ⟨⟨⟩⟩ | rfl := offered
      cases kept
      exact same
  | some left =>
      cases second with
      | none =>
          obtain ⟨⟨⟩⟩ | ⟨⟨⟩⟩ := offered
          cases kept
          exact same
      | some right =>
          simp only [freshest] at kept
          split at kept <;> rename_i order <;> cases kept <;> obtain ⟨⟨⟩⟩ | ⟨⟨⟩⟩ := offered
          · exact Int.le_of_lt order
          · exact same
          · exact same
          · exact Int.not_lt.mp order

theorem merged_combine (earlier later : Outcome) :
    Merged earlier later (earlier.combine later) where
  missed := rfl
  failure _ := Option.or_eq_some_iff
  stale := isSome_freshest _ _
  source _ := freshest_mem
  latest _ kept _ := dateOf_le_freshest kept

end Outcome

namespace TwoTier

/-- The outcome of a lookup in two tiers that would yield these outcomes one by one. -/
structure Joins (earlier later outcome : Outcome) : Prop where
  first : earlier.isFound = true → outcome = earlier
  second : earlier.isFound = false → later.isFound = true → outcome = later
  neither : earlier.isFound = false → later.isFound = false → earlier.Merged later outcome

/-- Only the second tier has a response, and the first one has room for it. -/
def Backfills (tiers : TwoTier) (key : String) (earlier later : Outcome) : Prop :=
  earlier.isFound = false ∧ ∃ stored, later = .found stored ∧
    key.utf8ByteSize + stored.size < tiers.limit.getD 0xFFFFFFFFFFFFFFFF

variable {tiers : TwoTier} {key : String} {earlier later : Outcome}

theorem joins_join (earlier later : Outcome) :
    Joins earlier later (if earlier.isFound then earlier else join earlier later) where
  first found := if_pos found
  second missed found := by
    rw [if_neg (Bool.eq_false_iff.mp missed)]
    cases later with
    | found stored => rfl
    | missed failure stale => cases found
  neither missed missedToo := by
    rw [if_neg (Bool.eq_false_iff.mp missed)]
    cases later with
    | found stored => cases missedToo
    | missed failure stale => exact Outcome.merged_combine earlier (.missed failure stale)

theorem refill_eq_some {content : Bytes} :
    tiers.refill key earlier later = some content ↔
      tiers.Backfills key earlier later ∧ ∃ stored, later = .found stored ∧
        stored.encoded = content := by
  unfold refill Backfills
  cases found : earlier.isFound with
  | true => simp
  | false =>
      rw [if_neg Bool.false_ne_true, backfill_eq_some]
      simp only [fits, decide_eq_true_eq, true_and]
      constructor
      · rintro ⟨stored, rfl, fits, encoded⟩
        exact ⟨⟨stored, rfl, fits⟩, stored, rfl, encoded⟩
      · rintro ⟨⟨stored, rfl, fits⟩, _, ⟨⟩, encoded⟩
        exact ⟨stored, rfl, fits, encoded⟩

end TwoTier

namespace Depot

variable {depot : Depot} {index layer first second : Nat} {cache : ResponseCache} {tiers : TwoTier}
  {key : String} {hooks : Hooks}

theorem find_single (front : depot.session.front? index = some (.single cache layer))
    (quick : depot.slow layer = false) (kept : depot.losses = []) :
    ∃ session, depot.operate index (.find key hooks) =
      ({ depot with session }, .outcome (ResponseCache.verdict cache.policy depot.session.now key
        hooks.checks (depot.shelves layer key))) := by
  have judged : ResponseCache.verdict cache.bare.policy depot.session.now key hooks.checks
      (depot.lose.shelves layer key) = ResponseCache.verdict cache.policy depot.session.now key
        hooks.checks (depot.shelves layer key) := by
    rw [lose_of_nil kept]
    rfl
  obtain ⟨session, _, ran⟩ := operate_find_single (bare_single front) quick judged
  rw [lose_of_nil kept] at ran
  exact ⟨session, ran⟩

/-- The answer of a layer, whenever it comes, is turned into what it is worth, and nothing else comes of
it. So a lookup in one cache that is answered at once yields what the entry of the key is worth, and
changes nothing. A lookup in two tiers that answer at once yields what their two entries are worth
together. It writes to the first tier exactly if only the second one has a response, which is small
enough; then the first tier has the entry of the second. -/
theorem find_merges (depot : Depot) (index : Nat) (key : String) (hooks : Hooks)
    (kept : depot.losses = []) :
    let now := depot.session.now
    let after := depot.operate index (.find key hooks)
    (∀ (session : Session) place cache layer next lookup,
      session.cache? place = some (cache, layer) →
      ∃ outcome, (session.resolve place key hooks next lookup).2 = [.conclude next outcome] ∧
        ResponseCache.Worth cache.policy session.now key hooks.checks lookup.value? outcome) ∧
    (∀ cache layer, depot.session.front? index = some (.single cache layer) →
      depot.slow layer = false →
      ∃ outcome, after.2 = .outcome outcome ∧
        ResponseCache.Worth cache.policy now key hooks.checks (depot.shelves layer key) outcome ∧
        after.1.shelves = depot.shelves) ∧
    ∀ tiers first second, depot.session.front? index = some (.tiered tiers first second) →
      depot.slow first = false → depot.slow second = false →
      ∃ earlier later outcome, after.2 = .outcome outcome ∧
        ResponseCache.Worth tiers.first.policy now key hooks.checks (depot.shelves first key)
          earlier ∧
        ResponseCache.Worth tiers.second.policy now key hooks.checks (depot.shelves second key)
          later ∧
        TwoTier.Joins earlier later outcome ∧
        (tiers.Backfills key earlier later → ∀ layer name, after.1.shelves layer name =
          if layer = first ∧ name = key then depot.shelves second key
          else depot.shelves layer name) ∧
        (¬tiers.Backfills key earlier later → after.1.shelves = depot.shelves) := by
  intro now after
  refine ⟨?_, ?_, ?_⟩
  · intro session place cache layer next lookup present
    refine ⟨_, ?_, ResponseCache.worth_verdict ..⟩
    simp only [Session.resolve, present, ResponseCache.resolve_outcome]
  · intro cache layer front quick
    obtain ⟨session, ran⟩ := @find_single depot index layer cache key hooks front quick kept
    refine ⟨_, congrArg Prod.snd ran, ResponseCache.worth_verdict .., ?_⟩
    rw [show after = _ from ran]
  · intro tiers first second front quick quickSecond
    generalize judged : ResponseCache.verdict tiers.first.policy now key hooks.checks
      (depot.shelves first key) = earlier
    generalize judgedSecond : ResponseCache.verdict tiers.second.policy now key hooks.checks
      (depot.shelves second key) = later
    obtain ⟨session, ran⟩ : ∃ session, after = ({ depot.write first key
        (tiers.refill key earlier later) with session }, _) :=
      operate_find_tiered (bare_front front) quick quickSecond kept judged judgedSecond
    refine ⟨earlier, later, _, congrArg Prod.snd ran, judged ▸ ResponseCache.worth_verdict ..,
      judgedSecond ▸ ResponseCache.worth_verdict .., TwoTier.joins_join earlier later, ?_, ?_⟩
    · intro backfills layer name
      obtain ⟨stored, found, _⟩ := backfills.2
      have written : tiers.refill key earlier later = some stored.encoded :=
        TwoTier.refill_eq_some.mpr ⟨backfills, stored, found, rfl⟩
      rw [found] at judgedSecond
      rw [(ResponseCache.encoded_of_found judgedSecond).1, show after = _ from ran, written]
      exact shelves_write (keeps_of_nil kept layer) first key name (some stored.encoded)
    · intro spared
      have nothing : tiers.refill key earlier later = none :=
        Option.eq_none_iff_forall_ne_some.mpr fun content written =>
          spared (TwoTier.refill_eq_some.mp written).1
      rw [show after = _ from ran, nothing]
      rfl

/-- Octets that are no entry in the first tier make way for the response that the second one has. -/
theorem find_merges_over_unreadable :
    let dated : Head := { sampleHead with freshness := some ⟨0, .ofSeconds 300, true⟩ }
    let entry := (Stored.encode dated [118]).toOption.map (·.encoded)
    let depot := behind (.tiered (.ofPolicy {} none) 0 1) 0
      (fun layer _ => if layer = 0 then some [1] else entry) (fun _ => false) []
    depot.losses = [] ∧
      ∃ stored, stored.head = dated ∧ stored.body = [118] ∧
        (depot.operate 0 (.find "k" {})).2 = .outcome (.found stored) ∧
        (depot.operate 0 (.find "k" {})).1.shelves 0 "k" = entry ∧
        (depot.operate 0 (.find "k" {})).1.shelves 0 "other" = some [1] := by
  intro dated entry depot
  obtain ⟨stored, encodes⟩ : ∃ stored, Stored.encode dated [118] = .ok stored :=
    ⟨_, if_pos (by decide +kernel)⟩
  have held : entry = some stored.encoded := by
    simp only [entry, encodes]
    rfl
  obtain ⟨earlier, later, outcome, reply, first, second, joins, fills, -⟩ :=
    (find_merges depot 0 "k" {} rfl).2.2 (.ofPolicy {} none) 0 1 rfl rfl rfl
  obtain ⟨head, body⟩ := Stored.encode_ok encodes
  have unread : earlier = .notFound := by
    apply first.unreadable
    rintro other ⟨_, ⟨⟩, decodes⟩
    cases decodes
  have found : later.response? = some stored := by
    apply (second.response stored).mpr
    refine ⟨⟨stored.encoded, held, Stored.decode_encoded encodes⟩, ?_, .inl ?_, rfl⟩
    · rw [ResponseCache.isResponse_iff, head]
      rfl
    · rw [head]
      exact ⟨_, rfl, by decide⟩
  cases later with
  | missed failure stale => cases found
  | found response =>
      cases found
      subst unread
      have backfills : (TwoTier.ofPolicy {} none).Backfills "k" .notFound (.found stored) := by
        refine ⟨rfl, stored, rfl, ?_⟩
        have small : (Stored.encode dated [118]).toOption.all (1 + ·.size < 0xFFFFFFFFFFFFFFFF) =
          true := by decide +kernel
        rw [encodes] at small
        exact of_decide_eq_true small
      have own := fills backfills 0 "k"
      have other := fills backfills 0 "other"
      have far : depot.shelves 1 "k" = entry := rfl
      have near : depot.shelves 0 "other" = some [1] := rfl
      rw [if_pos ⟨rfl, rfl⟩] at own
      rw [if_neg (by decide)] at other
      rw [joins.second rfl rfl] at reply
      exact ⟨rfl, stored, head, body, reply, own.trans far, other.trans near⟩

end Depot

end TieredCache
