import TieredCache.Remote.Store

/-!
Waiting until no upload and no removal is under way. Whoever waits listens for the call that the last
of them has ended before looking at their number, so that no call is missed.
-/

namespace TieredCache

/-- Someone who waits. -/
inductive Flush where
  | starting
  /-- Listens and is about to look; `called` tells whether the call has come since. -/
  | listening (called : Bool)
  /-- Has seen writes under way. -/
  | asleep (called : Bool)
  | ended
  deriving DecidableEq

namespace Flush

/-- What someone does next while so many writes are under way. -/
def step (writes : Nat) : Flush → Flush
  | starting => listening false
  | listening called => if writes = 0 then ended else asleep called
  | asleep true => starting
  | asleep false => asleep false
  | ended => ended

/-- The last write has ended, which everyone hears who listens or sleeps. -/
def call : Flush → Flush
  | listening _ => listening true
  | asleep _ => asleep true
  | other => other

end Flush

/-- Whether the last write has ended between two states. -/
def RemoteStore.endsWrites {ρ : Type} (before after : RemoteStore ρ) : Bool :=
  before.writes ≠ 0 && after.writes = 0

end TieredCache
