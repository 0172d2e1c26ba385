/-!
Tables of characters in writing. A row names a character or a range by code, in base 16, and then says
something of it: a mark, codes between dots, or both.
-/

namespace TieredCache.Url.Name

structure Row where
  first : Nat
  last : Nat
  /-- What stands right after the range, if anything does. -/
  mark : Option Char := none
  codes : List Nat := []
  deriving DecidableEq, Repr

namespace Row

def covers (row : Row) (code : Nat) : Bool := row.first ≤ code && code ≤ row.last

def digit? (character : Char) : Option Nat :=
  if '0' ≤ character ∧ character ≤ '9' then some (character.toNat - 48)
  else if 'A' ≤ character ∧ character ≤ 'F' then some (character.toNat - 55)
  else none

/-- Reads a number in base 16, going on from the digits read so far. -/
def readNumber (value : Nat) : List Char → Nat × List Char
  | [] => (value, [])
  | character :: rest =>
      match digit? character with
      | some weight => readNumber (16 * value + weight) rest
      | none => (value, character :: rest)

/-- Reads numbers with a dot between them. -/
def readCodes : Nat → List Char → List Nat
  | 0, _ => []
  | _, [] => []
  | budget + 1, text =>
      let (code, rest) := readNumber 0 text
      code :: readCodes budget rest.tail

def read (text : List Char) : Row :=
  let (first, afterFirst) := readNumber 0 text
  let (last, rest) := match afterFirst with
    | '-' :: digits => readNumber 0 digits
    | other => (first, other)
  ⟨first, last, rest.head?, readCodes rest.length rest.tail⟩

example : read "2000-200A=20.3C".toList = ⟨0x2000, 0x200A, some '=', [0x20, 0x3C]⟩ := by
  decide +kernel

example : read "AD/".toList = ⟨0xAD, 0xAD, some '/', []⟩ := by decide +kernel

/-- The words of a line. -/
def words : List Char → List (List Char)
  | [] => [[]]
  | character :: rest =>
      if character = ' ' then [] :: words rest
      else
        match words rest with
        | [] => [[character]]
        | word :: further => (character :: word) :: further

/-- The rows of a table, some on each line. -/
def readAll (lines : List String) : List Row :=
  lines.flatMap fun line => (words line.toList).map read

end Row

/-- The row that covers a code. -/
def rowOf? (rows : List Row) (code : Nat) : Option Row :=
  rows.find? (·.covers code)

end TieredCache.Url.Name
