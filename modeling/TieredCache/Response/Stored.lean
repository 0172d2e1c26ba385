import TieredCache.Fault
import TieredCache.Response.HeadText

/-!
A response as a cache holds it: a marker octet, the length of the head's text as four octets, the
text, and the body.
-/

namespace TieredCache

structure Stored where
  head : Head
  body : Bytes
  /-- What is held by a cache. -/
  encoded : Bytes
  deriving DecidableEq

namespace Stored

def marker : UInt8 := 104

/-- Octets in front of the head's text. -/
def frameLength : Nat := 5

def lengthOctets (length : Nat) : Bytes :=
  [UInt8.ofNat (length / 16777216), UInt8.ofNat (length / 65536), UInt8.ofNat (length / 256),
    UInt8.ofNat length]

def lengthOf (octets : Bytes) : Nat :=
  octets.foldl (fun length octet => 256 * length + octet.toNat) 0

/-- Encodes a response; the text of its head has to be shorter than 2 ^ 32 octets. -/
def encode (head : Head) (body : Bytes) : Except Fault Stored :=
  let text := head.write
  if text.length < 0x100000000 then
    .ok ⟨head, body, marker :: lengthOctets text.length ++ text ++ body⟩
  else .error (.malformed (.other "headers too large"))

def decode (encoded : Bytes) : Except Fault Stored :=
  match encoded with
  | [] => .error (.malformed .empty)
  | first :: rest =>
      if first ≠ marker then .error (.malformed (.unknownMarker first))
      else if rest.length < 4 then .error (.malformed .truncatedLength)
      else
        let length := lengthOf (rest.take 4)
        let content := rest.drop 4
        if content.length < length then .error (.malformed .truncatedHead)
        else
          match Head.read? (content.take length) with
          | none => .error (.malformed .unreadableHead)
          | some head => .ok ⟨head, content.drop length, encoded⟩

def size (stored : Stored) : Nat := stored.encoded.length

end Stored

end TieredCache
