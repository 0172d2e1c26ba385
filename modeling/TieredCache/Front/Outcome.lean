import TieredCache.Response.Failure
import TieredCache.Response.Stored

/-!
What a lookup for a response yields: a response that may be used, or none. In the second case a
failure may be remembered, and there may be a stale response to fall back to. The caller checks what was
found before it is used.
-/

namespace TieredCache

inductive Outcome where
  | found (response : Stored)
  | missed (failure : Option FailureKind) (stale : Option Stored)
  deriving DecidableEq

namespace Outcome

def notFound : Outcome := .missed none none

def recentFailure (kind : FailureKind) : Outcome := .missed (some kind) none

def fallback (stale : Stored) : Outcome := .missed none (some stale)

def isFound : Outcome → Bool
  | found _ => true
  | missed _ _ => false

def response? : Outcome → Option Stored
  | found response => some response
  | missed _ _ => none

def failure? : Outcome → Option FailureKind
  | found _ => none
  | missed failure _ => failure

def stale? : Outcome → Option Stored
  | found _ => none
  | missed _ stale => stale

/-- The date of a response; one without any comes before all others. -/
def dateOf (response : Stored) : Millis :=
  response.head.freshness.elim Millis.least (·.date)

/-- Of two fallbacks the one with the later date, the first if they are equal. -/
def freshest (first second : Option Stored) : Option Stored :=
  match first, second with
  | some left, some right => if dateOf left < dateOf right then some right else some left
  | left, right => left.or right

/-- What two lookups that found nothing yield together; the failure of the second counts first. -/
def combine (first second : Outcome) : Outcome :=
  .missed (second.failure?.or first.failure?) (freshest first.stale? second.stale?)

end Outcome

/-- The caller's own checks of a response that was found. -/
structure Checks where
  /-- Whether the response may be used for the key at all. -/
  accepts : String → Head → Bool := fun _ _ => true
  /-- Whether the caller calls it fresh; this only matters to metrics. -/
  isFresh : Head → Bool := fun _ => true

/-- A check that was made. -/
inductive Consultation where
  | acceptance (key : String) (status : UInt16)
  | freshness (status : UInt16)
  deriving DecidableEq

end TieredCache
