import TieredCache.Text.Basic
import TieredCache.Time.Clock

/-!
Spans written as counts of units, such as `1h 30m`: one or more numbers, each with a unit after it.
Blanks may stand anywhere except inside a unit's name.
-/

namespace TieredCache.SpanPhrase
open Text

inductive TimeUnit where
  | nanosecond | microsecond | millisecond | second | minute | hour | day | week | month | year
  deriving DecidableEq

namespace TimeUnit

def names : TimeUnit → List String
  | nanosecond => ["nanos", "nsec", "ns"]
  | microsecond => ["usec", "us", "µs"]
  | millisecond => ["millis", "msec", "ms"]
  | second => ["seconds", "second", "secs", "sec", "s"]
  | minute => ["minutes", "minute", "min", "mins", "m"]
  | hour => ["hours", "hour", "hr", "hrs", "h"]
  | day => ["days", "day", "d"]
  | week => ["weeks", "week", "wk", "wks", "w"]
  | month => ["months", "month", "M"]
  | year => ["years", "year", "yr", "yrs", "y"]

def all : List TimeUnit :=
  [nanosecond, microsecond, millisecond, second, minute, hour, day, week, month, year]

def ofName? (name : String) : Option TimeUnit :=
  all.find? fun unit => unit.names.contains name

/-- Units below a second count nanoseconds, the others seconds. -/
def size : TimeUnit → Nat
  | nanosecond => 1
  | microsecond => 1000
  | millisecond => 1000000
  | second => 1
  | minute => 60
  | hour => 3600
  | day => 86400
  | week => 604800
  | month => 2630016
  | year => 31557600

def belowSecond : TimeUnit → Bool
  | nanosecond | microsecond | millisecond => true
  | _ => false

/-- What a fraction of the unit is measured in: its size, and whether that counts nanoseconds. A
fraction of a nanosecond is none. -/
def fractionSize? : TimeUnit → Option (Nat × Bool)
  | nanosecond => none
  | microsecond => some (1000, true)
  | millisecond => some (1000000, true)
  | second => some (1000000000, true)
  | minute => some (60000000000, true)
  | unit => some (unit.size, false)

end TimeUnit

def word (number : Nat) : Option Nat :=
  if number < 0x10000000000000000 then some number else none

/-- Extends a number by a decimal digit within 64 bits. -/
def extend? (value digit : Nat) : Option Nat := word (10 * value + digit)

/-- Adds seconds and nanoseconds; the sum has to fit in 64 bits of seconds. -/
def add? (total : Span) (seconds nanoseconds : Nat) : Option Span := do
  let nanos ← word (total.subsecond + nanoseconds)
  let carried ← word (seconds + nanos / 1000000000)
  let whole ← word (total.seconds + carried)
  return Span.ofParts whole (nanos % 1000000000)

def addCount? (total : Span) (count : Nat) (inNanoseconds : Bool) : Option Span :=
  if inNanoseconds then add? total 0 count else add? total count 0

/-- A decimal fraction as numerator and denominator. -/
abbrev Fraction := Nat × Nat

/-- Adds a number of units; a fraction has to come out even. -/
def addUnits? (total : Span) (count : Nat) (fraction : Option Fraction) (unit : TimeUnit) :
    Option Span := do
  let sum ← addCount? total (← word (count * unit.size)) unit.belowSecond
  match fraction with
  | none => return sum
  | some (numerator, denominator) =>
      let (size, inNanoseconds) ← unit.fractionSize?
      let product ← word (numerator * size)
      guard (product % denominator = 0)
      addCount? sum (product / denominator) inNanoseconds

def isUnitLetter (character : Char) : Bool :=
  character.isAlpha || character = 'µ'

/-- Reads the digits after a decimal point, up to the unit. -/
def fraction? : Fraction → List Char → Option (Fraction × List Char)
  | (numerator, denominator), [] => if denominator = 1 then none else some ((numerator, denominator), [])
  | (numerator, denominator), character :: rest =>
      match decimalDigit? character with
      | some digit => do
          fraction? (← extend? numerator digit, ← word (denominator * 10)) rest
      | none =>
          if isBlank character then fraction? (numerator, denominator) rest
          else if isUnitLetter character && denominator ≠ 1 then
            some ((numerator, denominator), character :: rest)
          else none

/-- Reads the digits of a number and of its fraction, up to the unit. -/
def number? : Nat → List Char → Option (Nat × Option Fraction × List Char)
  | value, [] => some (value, none, [])
  | value, character :: rest =>
      match decimalDigit? character with
      | some digit => (extend? value digit).bind (number? · rest)
      | none =>
          if isBlank character then number? value rest
          else if character = '.' then
            (fraction? (0, 1) rest).map fun (fraction, after) => (value, some fraction, after)
          else if isUnitLetter character then some (value, none, character :: rest)
          else none

/-- Reads the numbers and units that are left; `budget` bounds their count. -/
def parts? : Nat → Span → List Char → Option Span
  | 0, _, _ => none
  | budget + 1, total, text =>
      match trimStart text with
      | [] => none
      | first :: rest => do
          let (count, fraction, afterNumber) ← number? (← decimalDigit? first) rest
          let name := afterNumber.takeWhile isUnitLetter
          let after := afterNumber.drop name.length
          let unit ← TimeUnit.ofName? (String.ofList name)
          let sum ← addUnits? total count fraction unit
          match after with
          | [] => return sum
          | next :: _ =>
              guard (isBlank next || (decimalDigit? next).isSome)
              if (trimStart after).isEmpty then return sum
              parts? budget sum after

def read? (text : String) : Option Span :=
  if text = "0" then some ⟨0⟩ else parts? (text.length + 1) ⟨0⟩ text.toList

end TieredCache.SpanPhrase
