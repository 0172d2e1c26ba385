/-!
The kinds of failure to produce a response that are remembered for a while. A remembered failure is
stored as a response with a status that no real response has.
-/

namespace TieredCache

inductive FailureKind where
  | fetchFailed
  | notCacheable
  | dropped
  deriving DecidableEq

namespace FailureKind

def all : List FailureKind := [.fetchFailed, .notCacheable, .dropped]

def status : FailureKind → UInt16
  | .fetchFailed => 10001
  | .notCacheable => 10002
  | .dropped => 10003

def ofStatus? (status : UInt16) : Option FailureKind :=
  all.find? (·.status = status)

def name : FailureKind → String
  | .fetchFailed => "fetch_failed"
  | .notCacheable => "not_cacheable"
  | .dropped => "dropped"

def ofName? (name : String) : Option FailureKind :=
  all.find? (·.name = name)

theorem ofStatus?_status (kind : FailureKind) : ofStatus? kind.status = some kind := by
  cases kind <;> decide

end FailureKind

end TieredCache
