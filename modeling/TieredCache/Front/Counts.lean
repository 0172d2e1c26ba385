/-! What the response caches count. -/

namespace TieredCache

structure Counts where
  hits : Nat := 0
  misses : Nat := 0
  /-- Lookups for which the layer behind had a value. -/
  backendHits : Nat := 0
  backendMisses : Nat := 0
  /-- Lookups that gave a stale response to fall back to. -/
  fallbacks : Nat := 0
  expirations : Nat := 0
  inserts : Nat := 0
  /-- Inserts in place of a stale response. -/
  reinserts : Nat := 0
  deletes : Nat := 0
  failurePuts : Nat := 0
  deriving DecidableEq

namespace Counts

def add (left right : Counts) : Counts where
  hits := left.hits + right.hits
  misses := left.misses + right.misses
  backendHits := left.backendHits + right.backendHits
  backendMisses := left.backendMisses + right.backendMisses
  fallbacks := left.fallbacks + right.fallbacks
  expirations := left.expirations + right.expirations
  inserts := left.inserts + right.inserts
  reinserts := left.reinserts + right.reinserts
  deletes := left.deletes + right.deletes
  failurePuts := left.failurePuts + right.failurePuts

instance : Add Counts := ⟨add⟩

end Counts

/-- What the composition of two tiers counts on top of them. -/
structure TierCounts where
  firstHits : Nat := 0
  secondHits : Nat := 0
  misses : Nat := 0
  /-- Hits of the second tier that were written back into the first. -/
  backfills : Nat := 0
  deriving DecidableEq

end TieredCache
