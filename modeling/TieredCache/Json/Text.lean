import TieredCache.Bytes
import TieredCache.Text.Basic

/-!
Quoted text as octets. Quotation marks, backslashes and control characters are escaped when text is
written; reading accepts every escape of the notation and checks that the result is text.
-/

namespace TieredCache.Json

def quote : UInt8 := 34
def backslash : UInt8 := 92

/-- Short escapes, as the octet meant and the octet written after the backslash. -/
def shortEscapes : List (UInt8 × UInt8) :=
  [(quote, quote), (backslash, backslash), (8, 98), (9, 116), (10, 110), (12, 102), (13, 114)]

def lowerHexDigit (value : UInt8) : UInt8 :=
  if value < 10 then 48 + value else 87 + value

def escapedOctet (octet : UInt8) : Bytes :=
  match shortEscapes.lookup octet with
  | some letter => [backslash, letter]
  | none =>
      if octet < 32 then
        [backslash, 117, 48, 48, lowerHexDigit (octet / 16), lowerHexDigit (octet % 16)]
      else [octet]

def quoted (text : String) : Bytes :=
  quote :: (Text.bytes text).flatMap escapedOctet ++ [quote]

/-- Quoted text; escapes keep it text. -/
def quotedText (text : String) : String :=
  (Text.ofBytes? (quoted text)).getD ""

def hexValue? (octet : UInt8) : Option Nat :=
  if 48 ≤ octet && octet ≤ 57 then some (octet.toNat - 48)
  else if 65 ≤ octet && octet ≤ 70 then some (octet.toNat - 55)
  else if 97 ≤ octet && octet ≤ 102 then some (octet.toNat - 87)
  else none

/-- The unit written by four hexadecimal digits. -/
def unit? : Bytes → Option (Nat × Bytes)
  | first :: second :: third :: fourth :: rest => do
      let value := 4096 * (← hexValue? first) + 256 * (← hexValue? second) +
        16 * (← hexValue? third) + (← hexValue? fourth)
      return (value, rest)
  | _ => none

/-- The octet meant by the letter of a short escape, when reading. -/
def shortEscape? (letter : UInt8) : Option UInt8 :=
  if letter = 47 then some 47
  else (shortEscapes.find? (·.2 = letter)).map (·.1)

/-- The character that begins with the unit `high`; a high surrogate takes the low surrogate that
has to follow it. -/
def character? (high : Nat) (rest : Bytes) : Option (Char × Bytes) :=
  if 0xDC00 ≤ high ∧ high ≤ 0xDFFF then none
  else if 0xD800 ≤ high ∧ high ≤ 0xDBFF then
    match rest with
    | 92 :: 117 :: following => do
        let (low, after) ← unit? following
        guard (0xDC00 ≤ low ∧ low ≤ 0xDFFF)
        return (Char.ofNat (0x10000 + (high - 0xD800) * 1024 + (low - 0xDC00)), after)
    | _ => none
  else some (Char.ofNat high, rest)

/-- Reads the octets of a text whose opening mark was passed; `budget` bounds the escapes. -/
def textOctets? : Nat → Bytes → Option (Bytes × Bytes)
  | 0, _ => none
  | _ + 1, [] => none
  | budget + 1, octet :: rest =>
      if octet = quote then some ([], rest)
      else if octet = backslash then
        match rest with
        | 117 :: digits => do
            let (high, afterUnit) ← unit? digits
            let (character, after) ← character? high afterUnit
            let (octets, remaining) ← textOctets? budget after
            return (String.utf8EncodeChar character ++ octets, remaining)
        | letter :: after => do
            let meant ← shortEscape? letter
            let (octets, remaining) ← textOctets? budget after
            return (meant :: octets, remaining)
        | [] => none
      else if octet < 32 then none
      else do
        let (octets, remaining) ← textOctets? budget rest
        return (octet :: octets, remaining)

/-- Reads a text whose opening mark was passed. -/
def text? (input : Bytes) : Option (String × Bytes) := do
  let (octets, rest) ← textOctets? (input.length + 1) input
  return (← Text.ofBytes? octets, rest)

end TieredCache.Json
