import TieredCache.Text.Basic
import TieredCache.Time.Millis

/-!
The head of a response: its status, its fields in order, and its freshness once that is known.
Field names keep their letters but are looked up without regard to case.
-/

namespace TieredCache

/-- How long a response stays fresh. -/
structure Freshness where
  date : Millis
  lifetime : Millis
  explicit : Bool
  deriving DecidableEq

namespace Freshness

def expiration (freshness : Freshness) : Millis :=
  freshness.date + freshness.lifetime

def isCurrent (freshness : Freshness) (now : Millis) : Bool :=
  now < freshness.expiration

end Freshness

structure Field where
  name : String
  value : String
  deriving DecidableEq, Inhabited

namespace Field

def hasName (field : Field) (name : String) : Bool :=
  Text.equalIgnoringCase field.name.toList name.toList

end Field

structure Head where
  status : UInt16
  fields : List Field
  freshness : Option Freshness
  deriving DecidableEq, Inhabited

namespace Head

def ofStatus (status : UInt16) : Head := ⟨status, [], none⟩

def add (head : Head) (name value : String) : Head :=
  { head with fields := head.fields ++ [⟨name, value⟩] }

def ofFields (status : UInt16) (fields : List Field) : Head := ⟨status, fields, none⟩

def has (head : Head) (name : String) : Bool :=
  head.fields.any (·.hasName name)

def removeAll (head : Head) (name : String) : Head :=
  { head with fields := head.fields.filter fun field => !field.hasName name }

/-- Leaves a single field of that name, at the end. -/
def replace (head : Head) (name value : String) : Head :=
  (head.removeAll name).add name value

/-- The values of all fields of that name, in order. -/
def values (head : Head) (name : String) : List String :=
  (head.fields.filter (·.hasName name)).map (·.value)

/-- The value of a field that occurs exactly once. -/
def soleValue? (head : Head) (name : String) : Option String :=
  match head.values name with
  | [value] => some value
  | _ => none

def cookieNames : List String := ["set-cookie", "set-cookie2"]

def hasCookies (head : Head) : Bool :=
  cookieNames.any head.has

def stripCookies (head : Head) : Head :=
  cookieNames.foldl removeAll head

/-- Whether some content type names an HTML document, parameters aside. -/
def isHtml (head : Head) : Bool :=
  (head.values "content-type").any fun value =>
    let kind := Text.trim ((Text.splitAt ';' value.toList).headD [])
    Text.equalIgnoringCase kind "text/html".toList ||
      Text.equalIgnoringCase kind "application/xhtml+xml".toList

def contentLength? (head : Head) : Option Nat :=
  (head.soleValue? "content-length").bind fun value => Text.word64? (Text.trim value.toList)

end Head

end TieredCache
