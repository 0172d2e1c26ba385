import TieredCache.Response.Head

/-!
The directives of the Cache-Control fields, and what they and related fields say about storing a
response. Several fields of one name read like one field whose values are joined by commas.
-/

namespace TieredCache

/-- One directive; its name is in lower case. -/
structure Directive where
  name : List Char
  argument : Option (List Char)
  deriving DecidableEq

namespace Directive

/-- An element of a directive list; an empty element is none. -/
def ofElement? (element : List Char) : Option Directive :=
  let text := Text.trim element
  if text.isEmpty then none
  else
    match Text.splitOnce '=' text with
    | some (name, argument) =>
        some ⟨Text.lowerAscii (Text.trim name), some (Text.trimMatches '"' (Text.trim argument))⟩
    | none => some ⟨Text.lowerAscii text, none⟩

/-- The seconds that a directive declares: a missing, malformed or negative number counts as zero. -/
def seconds (directive : Directive) : Nat :=
  (((directive.argument.bind Text.integer?).bind Millis.ofInt?).map (·.value.toNat)).getD 0

def ofList (elements : List (List Char)) : List Directive :=
  elements.filterMap ofElement?

end Directive

namespace Head

/-- The elements of a field whose values are comma separated lists, over all its lines. -/
def elements (head : Head) (name : String) : List (List Char) :=
  (head.values name).flatMap fun value => Text.splitAt ',' value.toList

def directives (head : Head) : List Directive :=
  Directive.ofList (head.elements "cache-control")

def hasDirective (head : Head) (name : String) : Bool :=
  head.directives.any (·.name = name.toList)

def forbidsStoring (directive : Directive) : Bool :=
  directive.name = "no-store".toList || directive.name = "no-cache".toList ||
    directive.name = "private".toList

/-- Whether a shared cache may store the response at all. -/
def isStorable (head : Head) : Bool :=
  !head.directives.any forbidsStoring &&
    !(head.values "pragma").any fun value =>
      Text.equalIgnoringCase (Text.trim value.toList) "no-cache".toList

/-- Whether the response varies with nothing but the accepted encoding. -/
def hasAcceptableVary (head : Head) : Bool :=
  ((head.elements "vary").map Text.trim).all fun name =>
    name.isEmpty || Text.equalIgnoringCase name "accept-encoding".toList

/-- The lifetime in seconds given by the first directive of that name. -/
def maxAge? (head : Head) (name : String) : Option Nat :=
  (head.directives.find? (·.name = name.toList)).map Directive.seconds

end Head

end TieredCache
