import TieredCache.Url.Name.Direction
import TieredCache.Url.Name.Form
import TieredCache.Url.Name.Joining
import TieredCache.Url.Name.Punycode

/-!
Domain names: labels between dots. A name is brought to its common form first; labels with characters
outside of ASCII then get their ASCII form, and labels that are written in that form have to stand for
a label in common form.
-/

namespace TieredCache.Url.Name
open Text

/-- Characters that no domain name holds. -/
def isForbidden (character : Char) : Bool :=
  character.toNat ≤ 32 || character.toNat = 127 || " #/:<>?@[\\]^|%".toList.contains character

def isAscii (label : List Char) : Bool := label.all fun character => character.toNat < 128

/-- A text in its common form; nothing if it holds what may not stand in a name. -/
def commonForm? (text : List Char) : Option (List Char) := do
  let forms ← text.mapM fun character => formOf? character.toNat
  return (composed forms.flatten).map Char.ofNat

/-- A label as it is shown, and the label it stands for. -/
structure Label where
  shown : List Char
  meaning : List Char

/-- What the ASCII form of a label starts with. -/
def asciiMark : List Char := "xn--".toList

/-- The longest label that gets an ASCII form, and the longest form that is read. -/
def writtenLimit : Nat := 1000
def readLimit : Nat := 2000

def isCommon (label : List Char) : Bool :=
  let codes := label.map Char.toNat
  codes.all isOwnForm && composed codes = codes

/-- A label in ASCII form. -/
def readLabel? (text : List Char) : Option Label := do
  let form := text.drop asciiMark.length
  guard (isAscii form && text.getLast? ≠ some '-' && form.length ≤ readLimit)
  let meaning ← decodeLabel? form
  guard (isCommon meaning && !meaning.any fun character => character = '.' || isForbidden character)
  guard (isWellJoined (meaning.map Char.toNat))
  return ⟨text, meaning⟩

def label? (text : List Char) : Option Label :=
  if asciiMark.isPrefixOf text then readLabel? text
  else if isAscii text then some ⟨text, text⟩
  else if text.length ≤ writtenLimit && isWellJoined (text.map Char.toNat) then
    some ⟨asciiMark ++ encodeLabel text, text⟩
  else none

/-- The ASCII form of a name. -/
def domain? (text : List Char) : Option (List Char) := do
  let name ← commonForm? text
  guard !(name.any isForbidden)
  let labels ← (splitAt '.' name).mapM label?
  guard (labelsAgree (labels.map fun label => label.meaning.map Char.toNat))
  return ['.'].intercalate (labels.map (·.shown))

end TieredCache.Url.Name
