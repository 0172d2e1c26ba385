import TieredCache.Text.Basic
import TieredCache.Url.Host

/-!
The address that metrics are sent to: a host, a colon and a port. A host is an address of version 4 in
any of its notations, an address of version 6 with or without brackets, or the name of this machine;
other names cannot be looked up here.
-/

namespace TieredCache.Command
open Text

inductive AddressError where
  | noPort
  | invalidPort
  /-- A host that is no address cannot be looked up. -/
  | unknownHost
  /-- No host has a zero octet in its name. -/
  | zeroOctet
  deriving DecidableEq

namespace AddressError

def message : AddressError → String
  | noPort => "invalid socket address"
  | invalidPort => "invalid port value"
  | unknownHost => "failed to lookup address information: Temporary failure in name resolution"
  | zeroOctet => "file name contained an unexpected NUL byte"

end AddressError

/-- The host and the port of an address, split at the last colon. -/
def splitPort? (text : List Char) : Option (List Char × List Char) :=
  (splitOnce ':' text.reverse).map fun (port, host) => (host.reverse, port.reverse)

/-- A number in base 10, in base 8 after a zero, or in base 16 after a zero and an x. -/
def markedNumber? (text : List Char) : Option Nat :=
  let inBase (base : Nat) (digits : List Char) : Option Nat :=
    if digits.isEmpty then none
    else digits.foldlM (fun value digit =>
      (Url.hexDigit? digit).bind fun weight =>
        if weight < base then some (base * value + weight) else none) 0
  match text with
  | '0' :: 'x' :: digits => inBase 16 digits
  | '0' :: 'X' :: digits => inBase 16 digits
  | '0' :: digits => inBase 8 ('0' :: digits)
  | digits => inBase 10 digits

/-- An address of version 4 as one to four numbers, the last of which fills the remaining octets. -/
def looseAddress? (host : List Char) : Option Nat := do
  let numbers ← (splitAt '.' host).mapM markedNumber?
  let last ← numbers.getLast?
  let front := numbers.dropLast
  guard (front.length ≤ 3 && front.all (· ≤ 255))
  guard (last < Nat.pow 256 (4 - front.length))
  return front.zipIdx.foldl
    (fun address (number, place) => address + number * Nat.pow 256 (3 - place)) last

/-- An address of version 6 as it is shown: one that stands for an address of version 4 ends in
that. -/
def groupsText (groups : List Nat) : List Char :=
  match groups with
  | [0, 0, 0, 0, 0, 0xFFFF, high, low] =>
      "[::ffff:".toList ++ Url.ipv4Text (65536 * high + low) ++ [']']
  | _ => Url.ipv6Text groups

/-- Puts the number of a zone into an address between brackets, unless it is zero. -/
def zoned (zone : Nat) (shown : List Char) : List Char :=
  if zone = 0 then shown else shown.dropLast ++ '%' :: (toString zone).toList ++ [']']

/-- An address of version 6, perhaps with the number of a zone. -/
def address6? (host : List Char) : Option (List Char) :=
  match splitOnce '%' host with
  | none => (Url.ipv6? host).map groupsText
  | some (address, zone) => do
      let number ← (decimal? zone).filter (· < 0x100000000)
      return zoned number (groupsText (← Url.ipv6? address))

/-- The normal form of a host that needs no lookup. -/
def literalHost? (host : List Char) : Option (List Char) :=
  ((looseAddress? host).map Url.ipv4Text).or <|
    (address6? host).or <|
      if lowerAscii host = "localhost".toList then some "127.0.0.1".toList else none

/-- An address of version 6 between brackets; its port is digits alone. -/
def bracketed? (host portText : List Char) : Option (List Char) :=
  match host with
  | '[' :: rest =>
      if rest.getLast? = some ']' && portText.all Char.isDigit then address6? rest.dropLast else none
  | _ => none

/-- The address that is in use, as it is shown. -/
def collectorAddress (text : String) : Except AddressError String :=
  match splitPort? text.toList with
  | none => .error .noPort
  | some (host, portText) =>
      match (natural? portText).filter (· < 65536) with
      | none => .error .invalidPort
      | some port =>
          if host.contains '\x00' then .error .zeroOctet
          else
            match (bracketed? host portText).or (literalHost? host) with
            | some shown => .ok (String.ofList shown ++ ":" ++ toString port)
            | none => .error .unknownHost

end TieredCache.Command
