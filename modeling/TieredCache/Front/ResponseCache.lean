import TieredCache.Digest.Sha256
import TieredCache.Front.Counts
import TieredCache.Front.Outcome
import TieredCache.Layer.Lookup
import TieredCache.Response.Lifetime
import TieredCache.Response.Refusal
import TieredCache.Settings.Basic
import TieredCache.Signal

/-!
A cache of responses in front of a layer of stacked caches. It decides which responses are stored,
and which stored responses may still be used. The layer itself is not part of it: writing a response
yields the octets to put, and resolving a lookup starts from the layer's answer.
-/

namespace TieredCache

structure ResponseCache where
  name : String
  policy : Policy := {}
  ignoresFailures : Bool := false
  counts : Counts := {}

namespace ResponseCache

/-! ### Lookups -/

/-- The outcome of a lookup, with the checks that were made on the way. -/
structure Resolution where
  cache : ResponseCache
  outcome : Outcome
  consulted : List Consultation := []
  signals : List Signal := []

def countWith (cache : ResponseCache) (change : Counts → Counts) : ResponseCache :=
  { cache with counts := change cache.counts }

def unreadable (key : String) (fault : Fault) : Signal :=
  .log ⟨.debug, .responses, "Dropping unreadable cache entry",
    [("error", .shown fault.message), ("key", .quoted key)]⟩

/-- Whether a response has a freshness that is not over. -/
def isCurrent (head : Head) (now : Millis) : Bool :=
  head.freshness.any (·.isCurrent now)

/-- Notes a response that may not be used but that the caller may fall back to. -/
def fallBack (cache : ResponseCache) (stored : Stored) (metric : String)
    (consulted : List Consultation) : Resolution where
  cache := cache.countWith fun counts =>
    { counts with misses := counts.misses + 1, fallbacks := counts.fallbacks + 1 }
  outcome := .fallback stored
  consulted := consulted
  signals := [.count metric cache.name]

/-- Judges a response that the layer had. -/
def judge (cache : ResponseCache) (now : Millis) (key : String) (checks : Checks)
    (stored : Stored) : Resolution :=
  let head := stored.head
  let current := isCurrent head now
  match FailureKind.ofStatus? head.status with
  | some kind =>
      { cache := cache.countWith fun counts => { counts with misses := counts.misses + 1 }
        outcome := if current then .recentFailure kind else .notFound }
  | none =>
      if !current && !cache.policy.force then
        (cache.countWith fun counts => { counts with expirations := counts.expirations + 1 }).fallBack
          stored "http_cache.expired" []
      else if !checks.accepts key head then
        cache.fallBack stored "http_cache.invalidated" [.acceptance key head.status]
      else
        let unfresh : List Signal :=
          if checks.isFresh head then [] else [.count "http_cache.hit_not_fresh" cache.name]
        { cache := cache.countWith fun counts => { counts with hits := counts.hits + 1 }
          outcome := .found stored
          consulted := [.acceptance key head.status, .freshness head.status]
          signals := unfresh ++ [.count "http_cache.hit" cache.name] }

/-- Turns the layer's answer into the outcome of a lookup. -/
def resolve (cache : ResponseCache) (now : Millis) (key : String) (checks : Checks)
    (lookup : Lookup) : Resolution :=
  match lookup.value? with
  | none =>
      { cache := cache.countWith fun counts =>
          { counts with backendMisses := counts.backendMisses + 1, misses := counts.misses + 1 }
        outcome := .notFound }
  | some encoded =>
      let seen := cache.countWith fun counts => { counts with backendHits := counts.backendHits + 1 }
      match Stored.decode encoded with
      | .ok stored => seen.judge now key checks stored
      | .error fault =>
          { cache := seen.countWith fun counts => { counts with misses := counts.misses + 1 }
            outcome := .notFound
            signals := [unreadable key fault] }

/-! ### Storing -/

/-- A weak entity tag made from a digest of the body. -/
def entityTag (body : Bytes) : String :=
  "W/\"PSA-" ++ Bytes.hex ((Digest.sha256 body).take 9) ++ "\""

def isSecure (key : String) : Bool := "https://".toList.isPrefixOf key.toList

/-- What a stored head looks like: no cookies, and an entity tag. -/
def storedHead (head : Head) (body : Bytes) : Head :=
  let stripped := head.stripCookies
  if stripped.has "etag" then stripped else stripped.add "ETag" (entityTag body)

/-- The head with its freshness, or why the response may not be stored. -/
def permit (policy : Policy) (now : Millis) (head : Head) : Except Refusal Head :=
  let implicit := policy.implicitLifetime.toMillis
  let computed := head.withFreshness now implicit
  if policy.force then
    .ok { computed with freshness := computed.freshness.or (some ⟨now, implicit, false⟩) }
  else if !head.isStorable then .error .forbidden
  else if !head.hasAcceptableVary then .error .vary
  else
    match computed.freshness with
    | none => .error (.status head.status)
    | some freshness =>
        if head.hasCookies && !freshness.explicit then .error .cookies
        else if freshness.expiration ≤ now then .error .expired
        else .ok computed

def exceeds (policy : Policy) (size : Nat) : Bool :=
  policy.maximumSize.any (· < size)

/-- Checks whether a response may be stored, and encodes it. -/
def prepare (cache : ResponseCache) (now : Millis) (key : String) (head : Head) (body : Bytes) :
    Except Refusal Stored := do
  let policy := cache.policy
  if head.status = 0 then throw .missingStatus
  if policy.refuseHtmlOverHttps && isSecure key && head.isHtml then throw .htmlOverHttps
  if exceeds policy (head.contentLength?.getD 0) || exceeds policy body.length then throw .tooLarge
  let permitted ← permit policy now head
  match Stored.encode (storedHead permitted body) body with
  | .error _ => throw .encoding
  | .ok stored => if exceeds policy stored.size then throw .tooLarge else return stored

/-- A change of the cache that puts something into the layer. -/
structure Write where
  cache : ResponseCache
  content : Bytes
  signals : List Signal

/-- Writes a prepared response; `again` tells that it takes the place of a stale one. -/
def store (cache : ResponseCache) (stored : Stored) (again : Bool) : Write where
  cache := cache.countWith fun counts =>
    if again then { counts with reinserts := counts.reinserts + 1 }
    else { counts with inserts := counts.inserts + 1 }
  content := stored.encoded
  signals := [.count "http_cache.insert" cache.name]

def refused (key : String) (reason : Refusal) : List Signal :=
  [.log ⟨.trace, .responses, "Not caching response",
      [("key", .quoted key), ("reason", .shown reason.message)]⟩,
    .metric (.count "http_cache.uncacheable" 1 [("reason", reason.name)])]

/-- The head that stands for a remembered failure. -/
def failureHead (kind : FailureKind) (now : Millis) (lifetime : Span) : Head :=
  { Head.ofStatus kind.status with freshness := some ⟨now, lifetime.toMillis, true⟩ }

/-- Remembers a failure, unless failures are ignored. -/
def remember (cache : ResponseCache) (now : Millis) (kind : FailureKind) : Option Write :=
  if cache.ignoresFailures then none
  else
    match Stored.encode (failureHead kind now (cache.policy.failureLifetime kind)) [] with
    | .error _ => none
    | .ok stored =>
        some {
          cache := cache.countWith fun counts =>
            { counts with failurePuts := counts.failurePuts + 1 }
          content := stored.encoded
          signals := [.metric (.count "http_cache.failure_put" 1 [("kind", kind.name)])] }

def countDelete (cache : ResponseCache) : ResponseCache :=
  cache.countWith fun counts => { counts with deletes := counts.deletes + 1 }

def ignoreFailures (cache : ResponseCache) : ResponseCache :=
  { cache with ignoresFailures := true }

def changePolicy (cache : ResponseCache) (change : Policy → Policy) : ResponseCache :=
  { cache with policy := change cache.policy }

end ResponseCache

end TieredCache
