import TieredCache.Response.Directives
import TieredCache.Time.MailDate

/-!
The freshness of a response. A shared maximum age comes before a maximum age, which comes before an
expiry date; without any of them some statuses stay fresh for an implicit lifetime.
-/

namespace TieredCache.Head

/-- Statuses that stay fresh without a declared lifetime. -/
def implicitStatuses : List UInt16 := [200, 203, 300, 301, 410]

/-- The moment of the only Date field, or `now` if there is no such moment. -/
def dateOr (head : Head) (now : Millis) : Millis :=
  ((head.soleValue? "date").bind MailDate.read?).getD now

/-- The declared lifetime of a response generated at `date`. -/
def declaredLifetime? (head : Head) (date : Millis) : Option Millis :=
  match (head.maxAge? "s-maxage").or (head.maxAge? "max-age") with
  | some seconds => some (Millis.ofSeconds seconds)
  | none =>
      (head.soleValue? "expires").map fun expires =>
        (((MailDate.read? expires).getD date) - date).atLeastZero

def freshness? (head : Head) (now implicitLifetime : Millis) : Option Freshness :=
  let date := head.dateOr now
  match head.declaredLifetime? date with
  | some lifetime => some ⟨date, lifetime, true⟩
  | none =>
      if head.status ∈ implicitStatuses then some ⟨date, implicitLifetime, false⟩ else none

/-- Computes the freshness and records it in the head. -/
def withFreshness (head : Head) (now implicitLifetime : Millis) : Head :=
  { head with freshness := head.freshness? now implicitLifetime }

end TieredCache.Head
