import TieredCache.Json.Text

/-!
Passing over a value without keeping it. Only the notation matters: texts may stand for anything,
numbers may be out of any range, and values nest without limit.
-/

namespace TieredCache.Json

def isSpace (octet : UInt8) : Bool :=
  octet = 32 || octet = 9 || octet = 10 || octet = 13

def skipSpace (input : Bytes) : Bytes :=
  input.dropWhile isSpace

def isDigit (octet : UInt8) : Bool :=
  48 ≤ octet && octet ≤ 57

/-- Passes one expected octet after white space. -/
def expect? (octet : UInt8) (input : Bytes) : Option Bytes :=
  match skipSpace input with
  | first :: rest => if first = octet then some rest else none
  | [] => none

def literal? (expected input : Bytes) : Option Bytes :=
  if expected.isPrefixOf input then some (input.drop expected.length) else none

/-- Passes the rest of a text whose opening mark was passed. -/
def skimText? : Bytes → Option Bytes
  | [] => none
  | 34 :: rest => some rest
  | 92 :: 117 :: first :: second :: third :: fourth :: rest =>
      if [first, second, third, fourth].all fun octet => (hexValue? octet).isSome then skimText? rest
      else none
  | 92 :: letter :: rest => if (shortEscape? letter).isSome then skimText? rest else none
  | octet :: rest => if octet < 32 || octet = backslash then none else skimText? rest

/-- One or more digits. -/
def skimDigits? (input : Bytes) : Option Bytes :=
  match input with
  | octet :: rest => if isDigit octet then some (rest.dropWhile isDigit) else none
  | [] => none

/-- The digits of a whole number, without needless zeros in front. -/
def skimWhole? (input : Bytes) : Option Bytes :=
  match input with
  | 48 :: rest => if (rest.head?.map isDigit).getD false then none else some rest
  | _ => skimDigits? input

def skimFraction? (input : Bytes) : Option Bytes :=
  match input with
  | 46 :: rest => skimDigits? rest
  | _ => some input

def skimExponent? (input : Bytes) : Option Bytes :=
  match input with
  | octet :: rest =>
      if octet = 101 || octet = 69 then
        match rest with
        | sign :: digits =>
            if sign = 43 || sign = 45 then skimDigits? digits else skimDigits? rest
        | [] => none
      else some input
  | [] => some input

def skimNumber? (input : Bytes) : Option Bytes := do
  let whole := match input with
    | 45 :: rest => rest
    | _ => input
  skimExponent? (← skimFraction? (← skimWhole? whole))

/-- A collection that is still open. -/
inductive Open where
  | list
  | object
  deriving DecidableEq

def Open.closing : Open → UInt8
  | .list => 93
  | .object => 125

/-- Passes a member's name and the colon after it. -/
def skimName? (input : Bytes) : Option Bytes := do
  expect? 58 (← skimText? (← expect? quote input))

/-- What comes next while skimming: a value, the end or a comma, or what an opening bracket allows. -/
inductive Expecting where
  | value
  | more
  | first

/-- Passes the rest of the open collections, innermost first. -/
def skim? : Nat → Expecting → List Open → Bytes → Option Bytes
  | 0, _, _, _ => none
  | budget + 1, .value, stack, input =>
      match skipSpace input with
      | [] => none
      | octet :: rest =>
          if octet = 91 then skim? budget .first (.list :: stack) rest
          else if octet = 123 then skim? budget .first (.object :: stack) rest
          else do
            let after ←
              if octet = quote then skimText? rest
              else if octet = 110 then literal? [117, 108, 108] rest
              else if octet = 116 then literal? [114, 117, 101] rest
              else if octet = 102 then literal? [97, 108, 115, 101] rest
              else if octet = 45 || isDigit octet then skimNumber? (octet :: rest)
              else none
            skim? budget .more stack after
  | _ + 1, .more, [], input => some input
  | budget + 1, .more, frame :: stack, input =>
      match skipSpace input with
      | [] => none
      | octet :: rest =>
          if octet = frame.closing then skim? budget .more stack rest
          else if octet = 44 then
            match frame with
            | .list => skim? budget .value (frame :: stack) rest
            | .object => (skimName? rest).bind (skim? budget .value (frame :: stack))
          else none
  | _ + 1, .first, [], _ => none
  | budget + 1, .first, frame :: stack, input =>
      match skipSpace input with
      | [] => none
      | octet :: rest =>
          if octet = frame.closing then skim? budget .more stack rest
          else
            match frame with
            | .list => skim? budget .value (frame :: stack) (octet :: rest)
            | .object => (skimName? (octet :: rest)).bind (skim? budget .value (frame :: stack))

/-- Passes one value. -/
def skimValue? (input : Bytes) : Option Bytes :=
  skim? (3 * input.length + 3) .value [] input

end TieredCache.Json
