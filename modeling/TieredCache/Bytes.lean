/-!
Byte strings. Keys, stored entries and message bodies are lists of octets; a text stands for its
UTF-8 octets. `ofBytes?` accepts exactly the byte strings that some text stands for.
-/

namespace TieredCache

abbrev Bytes := List UInt8

namespace Bytes

def hexDigit (value : Nat) : Char :=
  if value < 10 then Char.ofNat (48 + value) else Char.ofNat (87 + value)

/-- Two lower case digits for each octet. -/
def hexChars (bytes : Bytes) : List Char :=
  bytes.flatMap fun byte => [hexDigit (byte.toNat / 16), hexDigit (byte.toNat % 16)]

def hex (bytes : Bytes) : String :=
  String.ofList (hexChars bytes)

def sum (bytes : Bytes) : Nat :=
  bytes.foldl (fun total byte => total + byte.toNat) 0

/-- What holds of all numbers below 256 holds of all octets. -/
theorem of_all_octets {property : UInt8 → Prop}
    (all : ∀ number < 256, property (UInt8.ofNat number)) (octet : UInt8) : property octet := by
  rw [← @UInt8.ofNat_toNat octet]
  exact all _ octet.toNat_lt

end Bytes

namespace Text

def bytes (text : String) : Bytes :=
  text.toUTF8.data.toList

def ofBytes? (bytes : Bytes) : Option String :=
  String.fromUTF8? ⟨bytes.toArray⟩

theorem ofBytes?_bytes (text : String) : ofBytes? (bytes text) = some text := by
  have valid : (ByteArray.mk text.toByteArray.data).IsValidUTF8 := text.isValidUTF8
  simp [ofBytes?, bytes, String.fromUTF8?, String.fromUTF8, valid]

theorem bytes_inj {left right : String} (same : bytes left = bytes right) : left = right := by
  have read := ofBytes?_bytes left
  rw [same, ofBytes?_bytes right] at read
  exact (Option.some.inj read).symm

theorem bytes_ofList (letters : List Char) :
    bytes (String.ofList letters) = letters.flatMap String.utf8EncodeChar := by
  simp [bytes, List.utf8Encode]

end Text

end TieredCache
