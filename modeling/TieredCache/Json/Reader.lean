import TieredCache.Json.Skim

/-!
Writing and reading the parts of typed values: whole numbers, flags, texts and the members of an
object. A reader takes its value from the front of the input, after white space.
-/

namespace TieredCache.Json

/-- The decimal digits of a number. -/
def digits (number : Nat) : Bytes :=
  if number < 10 then [UInt8.ofNat (48 + number)]
  else digits (number / 10) ++ [UInt8.ofNat (48 + number % 10)]

def decimal : Int → Bytes
  | .ofNat magnitude => digits magnitude
  | .negSucc magnitude => 45 :: digits (magnitude + 1)

def writeFlag (flag : Bool) : Bytes :=
  Text.bytes (if flag then "true" else "false")

/-- Reads a value of some type from the front of the input. -/
abbrev ValueReader (α : Type) := Bytes → Option (α × Bytes)

/-- Whether a minus stands in front, and what follows it. -/
def splitSign (input : Bytes) : Bool × Bytes :=
  match input with
  | 45 :: rest => (true, rest)
  | _ => (false, input)

/-- A whole number in the notation's plain form; minus zero is not one. -/
def integer? : ValueReader Int := fun input => do
  let (negative, digits) := splitSign (skipSpace input)
  let rest ← skimWhole? digits
  guard !((rest.head?.map fun octet => octet = 46 || octet = 101 || octet = 69).getD false)
  let taken := digits.take (digits.length - rest.length)
  let magnitude : Nat := taken.foldl (fun value octet => 10 * value + (octet.toNat - 48)) 0
  guard !(negative && magnitude = 0)
  return (if negative then -(magnitude : Int) else magnitude, rest)

/-- A whole number below a limit. -/
def naturalBelow? (limit : Nat) : ValueReader Nat := fun input => do
  let (number, rest) ← integer? input
  guard (0 ≤ number ∧ number < limit)
  return (number.toNat, rest)

def flag? : ValueReader Bool := fun input =>
  match skipSpace input with
  | 116 :: rest => (literal? [114, 117, 101] rest).map (true, ·)
  | 102 :: rest => (literal? [97, 108, 115, 101] rest).map (false, ·)
  | _ => none

def string? : ValueReader String := fun input => do
  text? (← expect? quote input)

/-- Reads the members of an object into a record of what was seen so far. -/
def members? {record : Type} (member : String → record → ValueReader record) :
    Nat → Bool → record → ValueReader record
  | 0, _, _, _ => none
  | budget + 1, first, seen, input =>
      match skipSpace input with
      | 125 :: rest => some (seen, rest)
      | octet :: rest => do
          let start ← if first then some (octet :: rest) else if octet = 44 then some rest else none
          let (name, afterName) ← string? start
          let (extended, after) ← member name seen (← expect? 58 afterName)
          members? member budget false extended after
      | [] => none

/-- Fills a member's place, which has to be empty. -/
def once {record value : Type} (place : Option value) (reader : ValueReader value)
    (fill : value → record) : ValueReader record := fun input =>
  if place.isSome then none else (reader input).map fun (value, rest) => (fill value, rest)

def pass {record : Type} (seen : record) : ValueReader record := fun input =>
  (skimValue? input).map (seen, ·)

/-- Reads a value from an input that holds nothing else. -/
def whole? {value : Type} (reader : ValueReader value) (input : Bytes) : Option value := do
  let (value, rest) ← reader input
  guard (skipSpace rest).isEmpty
  return value

end TieredCache.Json
