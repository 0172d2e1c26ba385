import TieredCache.Bytes

/-! Percent encoding: an octet that may not stand for itself is written with two hexadecimal digits
after a percent sign. Each part of a URL has its own set of such octets. -/

namespace TieredCache.Url

def upperHexChar (value : Nat) : Char :=
  if value < 10 then Char.ofNat (48 + value) else Char.ofNat (55 + value)

def percentOctet (octet : UInt8) : List Char :=
  ['%', upperHexChar (octet.toNat / 16), upperHexChar (octet.toNat % 16)]

/-- Octets that are encoded in every part: controls and octets above 126. -/
def isControl (octet : UInt8) : Bool :=
  octet < 32 || octet > 126

/-- Controls and the listed characters. -/
def controlsAnd (marks : String) (octet : UInt8) : Bool :=
  isControl octet || marks.toList.any fun mark => mark.toNat = octet.toNat

def inFragment : UInt8 → Bool := controlsAnd " \"<>`"
def inQuery : UInt8 → Bool := controlsAnd " \"#<>"
def inSpecialQuery : UInt8 → Bool := controlsAnd " \"#<>'"
def inPath : UInt8 → Bool := controlsAnd " \"<>`#?\x7b\x7d"
def inUserinfo : UInt8 → Bool := controlsAnd " \"<>`#?\x7b\x7d/:;=@[\\]^|"
def inSegment : UInt8 → Bool := controlsAnd " \"<>`#?\x7b\x7d/%"
def inSpecialSegment : UInt8 → Bool := controlsAnd " \"<>`#?\x7b\x7d/%\\"

def encodeOctet (encoded : UInt8 → Bool) (octet : UInt8) : List Char :=
  if encoded octet then percentOctet octet else [Char.ofNat octet.toNat]

def encode (encoded : UInt8 → Bool) (text : List Char) : List Char :=
  (Text.bytes (String.ofList text)).flatMap (encodeOctet encoded)

def hexDigit? (digit : Char) : Option Nat :=
  if '0' ≤ digit ∧ digit ≤ '9' then some (digit.toNat - 48)
  else if 'a' ≤ digit ∧ digit ≤ 'f' then some (digit.toNat - 87)
  else if 'A' ≤ digit ∧ digit ≤ 'F' then some (digit.toNat - 55)
  else none

/-- Octets of a text with percent signs resolved; others stand for themselves. -/
def decode : List Char → Bytes
  | '%' :: high :: low :: rest =>
      match hexDigit? high, hexDigit? low with
      | some first, some second => UInt8.ofNat (16 * first + second) :: decode rest
      | _, _ => 37 :: decode (high :: low :: rest)
  | character :: rest => String.utf8EncodeChar character ++ decode rest
  | [] => []

end TieredCache.Url
