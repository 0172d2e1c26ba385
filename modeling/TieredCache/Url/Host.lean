import TieredCache.Url.Name.Domain
import TieredCache.Url.Percent

/-!
Hosts: domain names in lower case with labels in ASCII form, IPv4 addresses in any of their
notations, and IPv6 addresses between brackets.
-/

namespace TieredCache.Url
open Text

/-! ### Addresses -/

/-- A part of an IPv4 address: decimal, or octal after `0`, or hexadecimal after `0x`. -/
def addressPart? (part : List Char) : Option Nat :=
  let inBase (base : Nat) (digits : List Char) : Option Nat :=
    digits.foldlM (fun value digit =>
      (hexDigit? digit).bind fun weight => if weight < base then some (base * value + weight) else none) 0
  match part with
  | '0' :: 'x' :: digits => inBase 16 digits
  | '0' :: 'X' :: digits => inBase 16 digits
  | '0' :: digit :: digits => inBase 8 (digit :: digits)
  | [] => none
  | digits => inBase 10 digits

/-- The parts of a name between dots, without an empty last one. -/
def nameParts (name : List Char) : List (List Char) :=
  let parts := splitAt '.' name
  if parts.length > 1 && parts.getLast? = some [] then parts.dropLast else parts

/-- A name whose last part is a number can only be an address. -/
def endsInNumber (name : List Char) : Bool :=
  match (nameParts name).getLast? with
  | none => false
  | some [] => false
  | some last => last.all Char.isDigit || (addressPart? last).isSome

/-- An address of version 4: its four octets in decimal. -/
def ipv4Text (address : Nat) : List Char :=
  let octets := [address / 16777216, address / 65536 % 256, address / 256 % 256, address % 256]
  ['.'].intercalate (octets.map fun octet => (toString octet).toList)

def ipv4? (name : List Char) : Option (List Char) := do
  let parts := nameParts name
  guard (parts.length ≤ 4)
  let numbers ← parts.mapM addressPart?
  let last ← numbers.getLast?
  let front := numbers.dropLast
  guard (front.all (· ≤ 255))
  guard (last < Nat.pow 256 (5 - numbers.length))
  return ipv4Text <|
    front.zipIdx.foldl (fun address (number, index) => address + number * Nat.pow 256 (3 - index)) last

/-- Groups of up to four hexadecimal digits, the last of which may be an IPv4 address. -/
def ipv6Groups? (parts : List (List Char)) : Option (List Nat) :=
  match parts with
  | [] => some []
  | [part] =>
      if part.contains '.' then do
        let octets ← (splitAt '.' part).mapM fun octet => do
          guard (octet = ['0'] || octet.head? ≠ some '0')
          let value ← decimal? octet
          guard (value ≤ 255)
          return value
        guard (octets.length = 4)
        return [256 * octets.getD 0 0 + octets.getD 1 0, 256 * octets.getD 2 0 + octets.getD 3 0]
      else (group? part).map ([·])
  | part :: rest => do
      let first ← group? part
      return first :: (← ipv6Groups? rest)
where
  group? (part : List Char) : Option Nat := do
    guard (1 ≤ part.length && part.length ≤ 4)
    part.foldlM (fun value digit => (hexDigit? digit).map (16 * value + ·)) 0

/-- The text on both sides of the first pair of colons. -/
def splitDoubleColon : List Char → Option (List Char × List Char)
  | ':' :: ':' :: rest => some ([], rest)
  | character :: rest => (splitDoubleColon rest).map fun (before, after) => (character :: before, after)
  | [] => none

def ipv6? (text : List Char) : Option (List Nat) := do
  let groups (side : List Char) : Option (List Nat) :=
    if side.isEmpty then some [] else ipv6Groups? (splitAt ':' side)
  match splitDoubleColon text with
  | none =>
      let all ← groups text
      guard (all.length = 8)
      return all
  | some (before, after) =>
      guard !(before.contains '.')
      let front ← groups before
      let back ← groups after
      guard (front.length + back.length ≤ 7)
      return front ++ List.replicate (8 - front.length - back.length) 0 ++ back

/-- The start and length of the first longest row of zero groups. -/
def longestZeros (groups : List Nat) : Nat × Nat :=
  let runs := (List.range groups.length).map fun start =>
    (start, ((groups.drop start).takeWhile (· = 0)).length)
  runs.foldl (fun best run => if run.2 > best.2 then run else best) (0, 0)

def ipv6Text (groups : List Nat) : List Char :=
  let shown (part : List Nat) : List Char := [':'].intercalate (part.map (Nat.toDigits 16))
  let (start, length) := longestZeros groups
  let body :=
    if length < 2 then shown groups
    else shown (groups.take start) ++ "::".toList ++ shown (groups.drop (start + length))
  '[' :: body ++ [']']

/-! ### Hosts -/

/-- The host of a scheme with rules of its own: a name, or an address if it ends in a number. -/
def domain? (text : List Char) : Option (List Char) := do
  let decoded ← Text.ofBytes? (decode text)
  let name ← Name.domain? decoded.toList
  guard !name.isEmpty
  if endsInNumber name then ipv4? name else return name

/-- Hosts of schemes without rules of their own are kept, with controls encoded. -/
def opaqueHost? (text : List Char) : Option (List Char) := do
  guard !(text.any fun character => character.toNat = 0 || character = '\t' || character = '\n' ||
    character = '\r' || " #/:<>?@[\\]^|".toList.contains character)
  return encode isControl text

def host? (special : Bool) (text : List Char) : Option (List Char) :=
  match text with
  | '[' :: rest =>
      if rest.getLast? = some ']' then (ipv6? rest.dropLast).map ipv6Text else none
  | _ => if special then domain? text else opaqueHost? text

end TieredCache.Url
