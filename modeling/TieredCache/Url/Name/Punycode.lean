import TieredCache.Text.Basic

/-!
Labels in ASCII. The ASCII characters of a label come first, and after a hyphen digits in base 36 say
which other characters go where, in the order of their codes.
-/

namespace TieredCache.Url.Name
open Text

def punycodeDigit (value : Nat) : Char :=
  if value < 26 then Char.ofNat (97 + value) else Char.ofNat (22 + value)

def threshold (position bias : Nat) : Nat :=
  if position ≤ bias then 1 else if bias + 26 ≤ position then 26 else position - bias

def reduceDelta : Nat → Nat → Nat → Nat × Nat
  | 0, delta, steps => (delta, steps)
  | budget + 1, delta, steps =>
      if delta > 455 then reduceDelta budget (delta / 35) (steps + 36) else (delta, steps)

def adaptBias (delta count : Nat) (first : Bool) : Nat :=
  let scaled := if first then delta / 700 else delta / 2
  let (rest, steps) := reduceDelta 64 (scaled + scaled / count) 0
  steps + 36 * rest / (rest + 38)

/-! ### Writing -/

/-- A number in digits whose weights depend on their position and the bias. -/
def variableDigits : Nat → Nat → Nat → Nat → List Char
  | 0, _, _, _ => []
  | budget + 1, position, bias, number =>
      let limit := threshold position bias
      if number < limit then [punycodeDigit number]
      else
        punycodeDigit (limit + (number - limit) % (36 - limit)) ::
          variableDigits budget (position + 36) bias ((number - limit) / (36 - limit))

structure LabelState where
  code : Nat
  delta : Nat
  bias : Nat
  handled : Nat
  /-- Last first. -/
  output : List Char

/-- Inserts all occurrences of the next larger code point of the label. -/
def insertCode (label : List Nat) (basics : Nat) (state : LabelState) (code : Nat) : LabelState :=
  let start := { state with delta := state.delta + (code - state.code) * (state.handled + 1) }
  let inserted := label.foldl (fun current point =>
    if point < code then { current with delta := current.delta + 1 }
    else if point = code then
      { current with
        output := (variableDigits 64 36 current.bias current.delta).reverse ++ current.output
        bias := adaptBias current.delta (current.handled + 1) (current.handled = basics)
        delta := 0
        handled := current.handled + 1 }
    else current) start
  { inserted with delta := inserted.delta + 1, code := code + 1 }

def insertSorted (code : Nat) : List Nat → List Nat
  | [] => [code]
  | first :: rest =>
      if code < first then code :: first :: rest
      else if code = first then first :: rest
      else first :: insertSorted code rest

/-- The ASCII form of a label with other characters. -/
def encodeLabel (label : List Char) : List Char :=
  let codes := label.map Char.toNat
  let basic := label.filter fun character => character.toNat < 128
  let others := (codes.filter (128 ≤ ·)).foldr insertSorted []
  let shown := if basic.isEmpty then [] else '-' :: basic.reverse
  let start : LabelState := ⟨128, 0, 72, basic.length, shown⟩
  (others.foldl (insertCode codes basic.length) start).output.reverse

/-! ### Reading -/

def digitValue? (character : Char) : Option Nat :=
  if 'a' ≤ character ∧ character ≤ 'z' then some (character.toNat - 97)
  else if '0' ≤ character ∧ character ≤ '9' then some (character.toNat - 22)
  else none

/-- Numbers while reading fit in 32 bits. -/
def word? (number : Nat) : Option Nat := if number < 0x100000000 then some number else none

/-- Adds a number written in digits to another one; the digits after it are given back. -/
def addDigits? (bias : Nat) : Nat → Nat → Nat → List Char → Option (Nat × List Char)
  | _, _, _, [] => none
  | position, weight, number, character :: rest => do
      let digit ← digitValue? character
      let sum ← word? (number + (← word? (digit * weight)))
      let limit := threshold position bias
      if digit < limit then return (sum, rest)
      addDigits? bias (position + 36) (← word? (weight * (36 - limit))) sum rest

theorem addDigits?_length {bias position weight number sum : Nat} {digits rest : List Char}
    (read : addDigits? bias position weight number digits = some (sum, rest)) :
    rest.length < digits.length := by
  induction digits generalizing position weight number with
  | nil => simp [addDigits?] at read
  | cons character further ih =>
      simp only [addDigits?, Option.bind_eq_bind, Option.bind_eq_some_iff] at read
      obtain ⟨digit, _, product, _, total, _, read⟩ := read
      split at read
      · cases read
        exact Nat.lt_succ_self _
      · simp only [Option.bind_eq_some_iff] at read
        obtain ⟨next, _, read⟩ := read
        exact Nat.lt_succ_of_lt (ih read)

/-- The code that a number stands for, unless it is half of a pair. -/
def character? (code : Nat) : Option Char :=
  if code.isValidChar then some (Char.ofNat code) else none

def insertAt (label : List Char) (place : Nat) (character : Char) : List Char :=
  label.take place ++ character :: label.drop place

/-- Puts in the characters that digits stand for, from the given code and place on. -/
def putIn? (label : List Char) (code bias place : Nat) (digits : List Char) : Option (List Char) :=
  match digits with
  | [] => some label
  | first :: further =>
      match _ : addDigits? bias 36 1 place (first :: further) with
      | none => none
      | some (sum, rest) =>
          let count := label.length + 1
          match word? (code + sum / count) with
          | none => none
          | some next =>
              match character? next with
              | none => none
              | some character =>
                  putIn? (insertAt label (sum % count) character) next
                    (adaptBias (sum - place) count (place = 0)) (sum % count + 1) rest
termination_by digits.length
decreasing_by exact addDigits?_length (by assumption)

/-- The label that an ASCII form stands for. -/
def decodeLabel? (form : List Char) : Option (List Char) :=
  match splitOnce '-' form.reverse with
  | some (digits, first :: before) => putIn? (first :: before).reverse 128 72 0 digits.reverse
  | _ => putIn? [] 128 72 0 form

example : decodeLabel? "mnchen-3ya".toList = some "m\u00fcnchen".toList := by decide +kernel

example : encodeLabel "m\u00fcnchen".toList = "mnchen-3ya".toList := by decide +kernel

end TieredCache.Url.Name
