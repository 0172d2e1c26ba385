import TieredCache.Front.ResponseCache

/-!
Two response caches as one: a fast first tier in front of a slow second one. A lookup goes to the
second tier only if the first has no response, and a response found there is written back into the
first. Writes go to both, but an entry that reaches the size limit stays out of the first tier.
-/

namespace TieredCache

structure TwoTier where
  first : ResponseCache
  second : ResponseCache
  /-- Entries of the first tier are smaller than this. -/
  limit : Option Nat := none
  counts : TierCounts := {}

namespace TwoTier

def ofPolicy (policy : Policy) (limit : Option Nat) : TwoTier where
  first := { name := "tier1", policy }
  second := { name := "tier2", policy }
  limit := limit

/-- The sizes that fit are those below the limit, or below the largest number of 64 bits. -/
def fits (tiers : TwoTier) (key : String) (stored : Stored) : Bool :=
  key.utf8ByteSize + stored.size < tiers.limit.getD 0xFFFFFFFFFFFFFFFF

/-- Counts a lookup that the first tier could serve. -/
def countFirstHit (tiers : TwoTier) : TwoTier :=
  { tiers with counts := { tiers.counts with firstHits := tiers.counts.firstHits + 1 } }

/-- The end of a lookup that went to both tiers. -/
structure Completion where
  tiers : TwoTier
  outcome : Outcome
  /-- What is written back into the first tier. -/
  backfill : Option Bytes := none
  signals : List Signal := []

/-- Completes a lookup that the first tier could not serve. -/
def complete (tiers : TwoTier) (key : String) (first second : Outcome) : Completion :=
  match second with
  | .found stored =>
      let counted : TierCounts := { tiers.counts with secondHits := tiers.counts.secondHits + 1 }
      if tiers.fits key stored then
        let write := tiers.first.store stored first.stale?.isSome
        { tiers := { tiers with
            first := write.cache
            counts := { counted with backfills := counted.backfills + 1 } }
          outcome := second
          backfill := some write.content
          signals := write.signals }
      else { tiers := { tiers with counts := counted }, outcome := second }
  | .missed _ _ =>
      { tiers := { tiers with counts := { tiers.counts with misses := tiers.counts.misses + 1 } }
        outcome := first.combine second }

/-- A change that puts something into the layers of the tiers. -/
structure Write where
  tiers : TwoTier
  first : Option Bytes
  second : Option Bytes
  signals : List Signal

/-- Writes a response that the second tier has prepared. -/
def store (tiers : TwoTier) (key : String) (stored : Stored) : Write :=
  let second := tiers.second.store stored false
  let written := { tiers with second := second.cache }
  if tiers.fits key stored then
    let first := tiers.first.store stored false
    ⟨{ written with first := first.cache }, some first.content, some second.content,
      second.signals ++ first.signals⟩
  else ⟨written, none, some second.content, second.signals⟩

/-- Remembers a failure in both tiers. -/
def remember (tiers : TwoTier) (now : Millis) (kind : FailureKind) : Write :=
  let first := tiers.first.remember now kind
  let second := tiers.second.remember now kind
  { tiers := { tiers with
      first := first.elim tiers.first (·.cache)
      second := second.elim tiers.second (·.cache) }
    first := first.map (·.content)
    second := second.map (·.content)
    signals := first.elim [] (·.signals) ++ second.elim [] (·.signals) }

def countDelete (tiers : TwoTier) : TwoTier :=
  { tiers with first := tiers.first.countDelete, second := tiers.second.countDelete }

def ignoreFailures (tiers : TwoTier) : TwoTier :=
  { tiers with first := tiers.first.ignoreFailures, second := tiers.second.ignoreFailures }

def changePolicy (tiers : TwoTier) (change : Policy → Policy) : TwoTier :=
  { tiers with first := tiers.first.changePolicy change, second := tiers.second.changePolicy change }

def totals (tiers : TwoTier) : Counts := tiers.first.counts + tiers.second.counts

end TwoTier

end TieredCache
