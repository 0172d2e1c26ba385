import TieredCache.Front.TwoTier
import TieredCache.Proofs.Response.RoundTrip

/-!
What decides the outcome of a lookup, its counts and signals aside. Main statements: `resolve_outcome`,
and which entries give a caller a response or something to fall back to.
-/

namespace TieredCache

/-! ### Lookups -/

theorem Lookup.value?_ofOption (entry : Option Bytes) : (Lookup.ofOption entry).value? = entry := by
  cases entry <;> rfl

namespace ResponseCache

/-- What the entry of a layer is worth to a caller. -/
def verdict (policy : Policy) (now : Millis) (key : String) (checks : Checks)
    (entry : Option Bytes) : Outcome :=
  match entry with
  | none => .notFound
  | some encoded =>
      match Stored.decode encoded with
      | .error _ => .notFound
      | .ok stored =>
          match FailureKind.ofStatus? stored.head.status with
          | some kind => if isCurrent stored.head now then .recentFailure kind else .notFound
          | none =>
              if (isCurrent stored.head now || policy.force) && checks.accepts key stored.head then
                .found stored
              else .fallback stored

theorem judge_outcome (cache : ResponseCache) (now : Millis) (key : String) (checks : Checks)
    {encoded : Bytes} {stored : Stored} (decodes : Stored.decode encoded = .ok stored) :
    (cache.judge now key checks stored).outcome =
      verdict cache.policy now key checks (some encoded) := by
  simp only [judge, verdict, decodes]
  cases FailureKind.ofStatus? stored.head.status with
  | some kind => rfl
  | none =>
      cases isCurrent stored.head now <;> cases cache.policy.force <;>
        cases checks.accepts key stored.head <;> rfl

theorem resolve_outcome (cache : ResponseCache) (now : Millis) (key : String) (checks : Checks)
    (lookup : Lookup) : (cache.resolve now key checks lookup).outcome =
      verdict cache.policy now key checks lookup.value? := by
  unfold resolve
  cases lookup.value? with
  | none => rfl
  | some encoded =>
      cases decodes : Stored.decode encoded with
      | error fault => simp only [verdict, decodes]
      | ok stored =>
          simp only [decodes]
          exact judge_outcome _ now key checks decodes

/-- An entry that is found is the one that was decoded. -/
theorem encoded_of_found {policy : Policy} {now : Millis} {key : String} {checks : Checks}
    {entry : Option Bytes} {stored : Stored}
    (found : verdict policy now key checks entry = .found stored) :
    entry = some stored.encoded ∧ Stored.decode stored.encoded = .ok stored ∧
      FailureKind.ofStatus? stored.head.status = none := by
  unfold verdict at found
  cases entry with
  | none => cases found
  | some encoded =>
      cases decodes : Stored.decode encoded with
      | error fault => simp [decodes, Outcome.notFound] at found
      | ok response =>
          simp only [decodes] at found
          cases status : FailureKind.ofStatus? response.head.status with
          | some kind =>
              simp only [status] at found
              split at found <;> cases found
          | none =>
              simp only [status] at found
              split at found
              · cases found
                have same := Stored.encoded_of_decode decodes
                exact ⟨congrArg some same.symm, same.symm ▸ decodes, status⟩
              · cases found

def Offers (entry : Option Bytes) : Prop :=
  ∃ encoded stored, entry = some encoded ∧ Stored.decode encoded = .ok stored ∧
    FailureKind.ofStatus? stored.head.status = none

/-- A response, or something to fall back to, is had of such entries and of no others. -/
theorem offers_iff (policy : Policy) (now : Millis) (key : String) (checks : Checks)
    (entry : Option Bytes) : Offers entry ↔
      ((verdict policy now key checks entry).isFound = true ∨
        (verdict policy now key checks entry).stale?.isSome = true) := by
  constructor
  · rintro ⟨encoded, stored, rfl, decodes, status⟩
    simp only [verdict, decodes, status]
    split
    · exact .inl rfl
    · exact .inr rfl
  · intro offered
    cases entry with
    | none => simp [verdict, Outcome.notFound, Outcome.isFound, Outcome.stale?] at offered
    | some encoded =>
        cases decodes : Stored.decode encoded with
        | error fault =>
            simp [verdict, decodes, Outcome.notFound, Outcome.isFound, Outcome.stale?] at offered
        | ok stored =>
            cases status : FailureKind.ofStatus? stored.head.status with
            | none => exact ⟨encoded, stored, rfl, decodes, status⟩
            | some kind =>
                simp only [verdict, decodes, status] at offered
                split at offered <;>
                  simp [Outcome.recentFailure, Outcome.notFound, Outcome.isFound, Outcome.stale?]
                    at offered

/-! ### Counts aside -/

def bare (cache : ResponseCache) : ResponseCache := { cache with counts := {} }

theorem bare_judge (cache : ResponseCache) (now : Millis) (key : String) (checks : Checks)
    (stored : Stored) : (cache.judge now key checks stored).cache.bare = cache.bare := by
  unfold judge
  simp only
  repeat' split
  all_goals rfl

theorem bare_resolve (cache : ResponseCache) (now : Millis) (key : String) (checks : Checks)
    (lookup : Lookup) : (cache.resolve now key checks lookup).cache.bare = cache.bare := by
  unfold resolve
  split
  · rfl
  · simp only
    split
    · exact bare_judge _ now key checks _
    · rfl

def sentinel (cache : ResponseCache) (now : Millis) (kind : FailureKind) : Option Bytes :=
  (cache.remember now kind).map (·.content)

theorem sentinel_bare (cache : ResponseCache) (now : Millis) (kind : FailureKind) :
    cache.bare.sentinel now kind = cache.sentinel now kind := by
  unfold sentinel remember
  change Option.map _ (if cache.ignoresFailures = true then _ else _) = _
  cases cache.ignoresFailures with
  | true => rfl
  | false =>
      change Option.map _ (match Stored.encode (failureHead kind now
        (cache.policy.failureLifetime kind)) [] with | .error _ => none | .ok stored => some _) = _
      cases Stored.encode (failureHead kind now (cache.policy.failureLifetime kind)) [] <;> rfl

theorem bare_remember (cache : ResponseCache) (now : Millis) (kind : FailureKind) :
    ((cache.remember now kind).elim cache (·.cache)).bare = cache.bare := by
  unfold remember
  repeat' split
  all_goals rfl

end ResponseCache

namespace TwoTier

def bare (tiers : TwoTier) : TwoTier :=
  { tiers with first := tiers.first.bare, second := tiers.second.bare, counts := {} }

def backfill (tiers : TwoTier) (key : String) : Outcome → Option Bytes
  | .found stored => if tiers.fits key stored then some stored.encoded else none
  | .missed _ _ => none

theorem backfill_eq_some {tiers : TwoTier} {key : String} {outcome : Outcome} {content : Bytes} :
    tiers.backfill key outcome = some content ↔
      ∃ stored, outcome = .found stored ∧ tiers.fits key stored = true ∧ stored.encoded = content := by
  cases outcome with
  | missed failure stale => simp [backfill]
  | found stored =>
      by_cases fits : tiers.fits key stored = true
      · simp [backfill, fits]
      · simp [backfill, fits]

def refill (tiers : TwoTier) (key : String) (earlier later : Outcome) : Option Bytes :=
  if earlier.isFound then none else tiers.backfill key later

def join (first : Outcome) : Outcome → Outcome
  | .found stored => .found stored
  | .missed failure stale => first.combine (.missed failure stale)

theorem bare_complete (tiers : TwoTier) (key : String) (first second : Outcome) :
    (tiers.complete key first second).tiers.bare = tiers.bare := by
  unfold complete
  repeat' split
  all_goals rfl

theorem complete_outcome (tiers : TwoTier) (key : String) (first second : Outcome) :
    (tiers.complete key first second).outcome = join first second := by
  cases second with
  | found stored => simp only [complete]; split <;> rfl
  | missed failure stale => rfl

theorem complete_backfill (tiers : TwoTier) (key : String) (first second : Outcome) :
    (tiers.complete key first second).backfill = tiers.backfill key second := by
  cases second with
  | found stored => simp only [complete, backfill]; split <;> rfl
  | missed failure stale => rfl

theorem bare_store (tiers : TwoTier) (key : String) (stored : Stored) :
    (tiers.store key stored).tiers.bare = tiers.bare := by
  unfold store
  repeat' split
  all_goals rfl

theorem store_first (tiers : TwoTier) (key : String) (stored : Stored) :
    (tiers.store key stored).first = tiers.backfill key (.found stored) := by
  simp only [store, backfill]
  split <;> rfl

theorem store_second (tiers : TwoTier) (key : String) (stored : Stored) :
    (tiers.store key stored).second = some stored.encoded := by
  unfold store
  repeat' split
  all_goals rfl

theorem bare_remember (tiers : TwoTier) (now : Millis) (kind : FailureKind) :
    (tiers.remember now kind).tiers.bare = tiers.bare := by
  simp only [remember, bare, ResponseCache.bare_remember]

end TwoTier

end TieredCache
