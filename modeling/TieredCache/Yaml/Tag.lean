import TieredCache.Text.Basic
import TieredCache.Yaml.Block

/-!
Names and tags of nodes, and the lines in front of a document that give its version and the handles of its
tags. A tag is a handle and octets after it; an octet of zero ends it.
-/

namespace TieredCache.Yaml

structure Tag where
  handle : List Char
  octets : Bytes
  deriving DecidableEq

/-- The octets before the first zero. -/
def beforeZero (octets : Bytes) : Bytes := octets.takeWhile (· ≠ 0)

/-- Reads a name behind its mark; only some characters may follow it. -/
def name? (start : Cursor) : Option (List Char × Cursor) := do
  let name := (start.rest.drop 1).takeWhile isNamePart
  let after := start.forward (1 + name.length)
  guard !name.isEmpty
  guard (endsWord after.rest || after.rest.head?.any "?:,]\x7d%@\x60".toList.contains)
  return (name, after)

/-- Reads an exclamation mark and the name after it, with a second mark if one follows at once. -/
def handle? (start : Cursor) : Option (List Char × Cursor) := do
  guard (start.rest.head? = some '!')
  let name := (start.rest.drop 1).takeWhile isNamePart
  let after := start.forward (1 + name.length)
  if after.rest.head? = some '!' then return ('!' :: name ++ ['!'], after.forward 1)
  else return ('!' :: name, after)

/-- Characters of a tag; the last three stand in it between angle brackets and in directives only. -/
def isTagPart (verbatim : Bool) (character : Char) : Bool :=
  isNamePart character || ";/?:@&=+$.%!~*'()".toList.contains character ||
    (verbatim && ",[]".toList.contains character)

def octet? : List Char → Option UInt8
  | '%' :: high :: low :: _ => do return UInt8.ofNat (16 * (← hexDigit? high) + (← hexDigit? low))
  | _ => none

/-- The length of a character in octets, by the first of them. -/
def sequenceLength? (first : UInt8) : Option Nat :=
  if first < 0x80 then some 1
  else if first &&& 0xE0 = 0xC0 then some 2
  else if first &&& 0xF0 = 0xE0 then some 3
  else if first &&& 0xF8 = 0xF0 then some 4
  else none

/-- Reads the octets of one character, each of them written after a percent sign. -/
def octets? (cursor : Cursor) : Option (Bytes × Cursor) := do
  let first ← octet? cursor.rest
  let length ← sequenceLength? first
  let further ← (List.range (length - 1)).mapM fun index => octet? (cursor.rest.drop (3 * index + 3))
  guard (further.all (· &&& 0xC0 = 0x80))
  return (first :: further, cursor.forward (3 * length))

/-- Reads the characters of a tag. -/
def tagText? (verbatim : Bool) (start : Cursor) : Option (Bytes × Cursor) :=
  go (start.rest.length + 1) [] start
where
  go : Nat → Bytes → Cursor → Option (Bytes × Cursor)
    | 0, octets, cursor => some (octets, cursor)
    | budget + 1, octets, cursor =>
        match cursor.rest with
        | [] => some (octets, cursor)
        | character :: _ =>
            if character = '%' then do
              let (more, after) ← octets? cursor
              go budget (octets ++ more) after
            else if isTagPart verbatim character then
              go budget (octets ++ String.utf8EncodeChar character) (cursor.forward 1)
            else some (octets, cursor)

/-- Reads the characters of a tag, of which there has to be one. -/
def someTagText? (verbatim : Bool) (start : Cursor) : Option (Bytes × Cursor) := do
  let (octets, after) ← tagText? verbatim start
  guard (after.rest.length < start.rest.length)
  return (beforeZero octets, after)

/-- Reads a tag: between angle brackets, or after a handle, or after a single mark, which alone is a tag
too. -/
def tag? (inFlow : Bool) (start : Cursor) : Option (Tag × Cursor) := do
  let (tag, after) ←
    if "!<".toList.isPrefixOf start.rest then do
      let (octets, after) ← someTagText? true (start.forward 2)
      guard (after.rest.head? = some '>')
      pure (Tag.mk [] octets, after.forward 1)
    else do
      let (handle, behind) ← handle? start
      if handle.length > 1 && handle.getLast? = some '!' then
        let (octets, after) ← someTagText? false behind
        pure (Tag.mk handle octets, after)
      else
        let (octets, after) ← tagText? false behind
        let whole := beforeZero (Text.bytes (String.ofList handle.tail) ++ octets)
        pure (if whole.isEmpty then Tag.mk [] [33] else Tag.mk ['!'] whole, after)
  guard (endsWord after.rest || (inFlow && after.rest.head? = some ','))
  return (tag, after)

/-! ### Directives -/

inductive Directive where
  | version (major minor : Nat)
  | handle (name : List Char) (octets : Bytes)
  deriving DecidableEq

/-- A number of a version has nine digits at most. -/
def versionNumber? (cursor : Cursor) : Option (Nat × Cursor) := do
  let digits := cursor.rest.takeWhile Char.isDigit
  guard (digits.length ≤ 9)
  return (← Text.decimal? digits, cursor.forward digits.length)

/-- Reads a directive and the rest of its line. -/
def directive? (start : Cursor) : Option (Directive × Cursor) := do
  let name := (start.rest.drop 1).takeWhile isNamePart
  let behind := start.forward (1 + name.length)
  guard (endsWord behind.rest)
  let value := behind.passWhile isSpacing
  if name = "YAML".toList then
    let (major, point) ← versionNumber? value
    guard (point.rest.head? = some '.')
    let (minor, after) ← versionNumber? (point.forward 1)
    return (.version major minor, ← lineEnd? after)
  else if name = "TAG".toList then
    let (handle, afterHandle) ← handle? value
    guard (handle = ['!'] || handle.getLast? = some '!')
    guard (afterHandle.rest.head?.any isSpacing)
    let (octets, after) ← someTagText? true (afterHandle.passWhile isSpacing)
    guard (endsWord after.rest)
    return (.handle handle octets, ← lineEnd? after)
  else none

end TieredCache.Yaml
