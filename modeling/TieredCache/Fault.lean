import TieredCache.Time.Clock

/-!
Why an entry could not be read or written. None of these reaches a user of the caches: a layer
notes the fault and reports a miss instead.
-/

namespace TieredCache

/-- What a stored entry lacks. -/
inductive Defect where
  | empty
  | unknownMarker (octet : UInt8)
  | truncatedLength
  | truncatedHead
  | unreadableHead
  | other (text : String)
  deriving DecidableEq

namespace Defect

def octetText (octet : UInt8) : String :=
  "0x" ++ String.ofList (Nat.toDigits 16 octet.toNat)

def text : Defect → String
  | .empty => "empty value"
  | .unknownMarker octet => "unknown marker " ++ octetText octet
  | .truncatedLength => "truncated header length"
  | .truncatedHead => "truncated headers"
  | .unreadableHead => "unreadable headers"
  | .other text => text

end Defect

inductive Fault where
  | notFound
  | timeout (limit : Span)
  | remote (text : String)
  | malformed (defect : Defect)
  | internal
  deriving DecidableEq

namespace Fault

def kindName : Fault → String
  | .notFound => "not_found"
  | .timeout _ => "timeout"
  | .remote _ => "remote"
  | .malformed _ => "malformed"
  | .internal => "internal"

def message : Fault → String
  | .notFound => "not found"
  | .timeout limit => "cache request timed out after " ++ limit.text
  | .remote text => "remote cache failed: " ++ text
  | .malformed defect => "malformed: " ++ defect.text
  | .internal => "internal error"

end Fault

end TieredCache
