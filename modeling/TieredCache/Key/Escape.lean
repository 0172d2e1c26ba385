import TieredCache.Bytes

/-!
Paths, which are rows of names, and keys as relative paths. A slash of the key separates directories, an unsafe octet becomes a comma
and two hexadecimal digits, an empty segment becomes a comma, and a segment too long for one name
is continued in a further directory. A final comma keeps the name of a file apart from the names
of directories.
-/

namespace TieredCache

abbrev Name := Bytes

/-- A place in a tree: the names from the top. -/
abbrev FilePath := List Name

namespace FilePath

def slash : UInt8 := 47

/-- The names between the slashes of a text; there is always at least one. -/
def names : Bytes → List Name
  | [] => [[]]
  | octet :: rest =>
      if octet = slash then [] :: names rest
      else
        match names rest with
        | [] => [[octet]]
        | name :: further => (octet :: name) :: further

end FilePath

namespace Key
open FilePath

def comma : UInt8 := 44
def hyphen : UInt8 := 45
def dot : UInt8 := 46

/-- The longest name that a segment fills, before a continuation or the final comma. -/
def segmentLimit : Nat := 128

def isAlphanumeric (octet : UInt8) : Bool :=
  (48 ≤ octet && octet ≤ 57) || (65 ≤ octet && octet ≤ 90) || (97 ≤ octet && octet ≤ 122)

/-- Octets that stand for themselves; a dot does so only after the start of a segment. -/
def isPlain (first : Bool) (octet : UInt8) : Bool :=
  isAlphanumeric octet || octet = 95 || octet = hyphen || (octet = dot && !first)

def upperHexDigit (value : UInt8) : UInt8 :=
  if value < 10 then 48 + value else 55 + value

def octetForm (first : Bool) (octet : UInt8) : Bytes :=
  if isPlain first octet then [octet]
  else [comma, upperHexDigit (octet / 16), upperHexDigit (octet % 16)]

def continuation : Bytes := [comma, hyphen, slash]

/-- Escapes octets when `written` octets of the present name are already in use. -/
def escapeFrom (first : Bool) (written : Nat) : Bytes → Bytes
  | [] => []
  | octet :: rest =>
      let form := octetForm first octet
      if written + form.length > segmentLimit then
        continuation ++ form ++ escapeFrom false form.length rest
      else form ++ escapeFrom false (written + form.length) rest

def escapeSegment (segment : Bytes) : Bytes :=
  if segment.isEmpty then [comma] else escapeFrom true 0 segment

def escapeBytes (key : Bytes) : Bytes :=
  ([slash].intercalate ((names key).map escapeSegment)) ++ [comma]

def escape (key : String) : Bytes :=
  escapeBytes (Text.bytes key)

end Key

end TieredCache
