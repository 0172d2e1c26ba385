import TieredCache.Text.Basic
import TieredCache.Time.Calendar
import TieredCache.Time.Millis

/-!
The date format of mail and HTTP headers, such as `Tue, 15 Nov 1994 08:12:31 GMT`: an optional day
of the week, the date, the time of day and a zone, followed by comments in parentheses.
-/

namespace TieredCache.MailDate
open Text

/-- A reader takes a value from the front of a text, or refuses it. -/
abbrev Reader := StateT (List Char) Option

def skipBlanks : Reader Unit := modify trimStart

/-- One or more blanks. -/
def blanks : Reader Unit := do
  match ← get with
  | character :: rest => if isBlank character then set (trimStart rest) else failure
  | [] => failure

def mark (expected : Char) : Reader Unit := do
  match ← get with
  | character :: rest => if character = expected then set rest else failure
  | [] => failure

/-- Between `least` and `most` digits. -/
def digits (least most : Nat) : Reader (Nat × Nat) := do
  let taken := ((← get).takeWhile (fun character => (decimalDigit? character).isSome)).take most
  if taken.length < least then failure
  set ((← get).drop taken.length)
  let value ← liftM (decimal? taken)
  return (value, taken.length)

def weekdayNames : List (List Char) :=
  ["mon", "tue", "wed", "thu", "fri", "sat", "sun"].map String.toList

def monthNames : List (List Char) :=
  ["jan", "feb", "mar", "apr", "may", "jun", "jul", "aug", "sep", "oct", "nov", "dec"].map
    String.toList

/-- The position in `names` of the three letters at the front of the text. -/
def nameAt? (names : List (List Char)) (text : List Char) : Option Nat :=
  let name := lowerAscii (text.take 3)
  names.findIdx? (· = name)

/-- A day of the week counts only when a comma follows it at once. -/
def weekday : Reader (Option Nat) := do
  match nameAt? weekdayNames (← get) with
  | none => return none
  | some index =>
      modify (List.drop 3)
      mark ','
      return some index

def month : Reader Nat := do
  let index ← liftM (nameAt? monthNames (← get))
  modify (List.drop 3)
  return index + 1

/-- Years of two digits belong to 1950–2049, years of three digits count from 1900. -/
def year : Reader Nat := do
  let (value, width) ← digits 2 (← get).length
  if width = 2 then return if value < 50 then value + 2000 else value + 1900
  else if width = 3 then return value + 1900
  else return value

/-- Hours east of Greenwich of a zone known by its name. -/
def zoneHours? (name : String) : Option Int :=
  match name with
  | "gmt" | "ut" => some 0
  | "edt" => some (-4)
  | "est" | "cdt" => some (-5)
  | "cst" | "mdt" => some (-6)
  | "mst" | "pdt" => some (-7)
  | "pst" => some (-8)
  | "j" => none
  | _ => if name.length = 1 then some 0 else none

/-- The zone's offset in seconds. -/
def zone : Reader Int := do
  let letters := (← get).takeWhile Char.isAlpha
  if letters.isEmpty then
    let sign : Int ← match ← get with
      | '+' :: rest => set rest; pure 1
      | '-' :: rest => set rest; pure (-1)
      | _ => failure
    let (hours, _) ← digits 2 2
    let (minutes, _) ← digits 2 2
    if hours ≥ 24 ∨ minutes ≥ 60 then failure
    return sign * ((hours * 60 + minutes) * 60 : Nat)
  else
    set ((← get).drop letters.length)
    let hours ← liftM (zoneHours? (String.ofList (lowerAscii letters)))
    return hours * 3600

/-- What follows a comment whose parenthesis is open to the given depth. -/
def afterComment? : Nat → List Char → Option (List Char)
  | _, [] => none
  | depth, '(' :: rest => afterComment? (depth + 1) rest
  | depth, ')' :: rest => if depth ≤ 1 then some rest else afterComment? (depth - 1) rest
  | depth, '\\' :: _ :: rest => afterComment? depth rest
  | depth, _ :: rest => afterComment? depth rest

/-- Whether only blanks and comments make up the text, up to `count` comments. -/
def onlyComments : Nat → List Char → Bool
  | 0, text => text.isEmpty
  | count + 1, text =>
      text.isEmpty ||
        match trimStart text with
        | '(' :: rest =>
            match afterComment? 1 rest with
            | some after => onlyComments count after
            | none => false
        | _ => false

structure Parts where
  weekday : Option Nat
  date : Calendar.Date
  hour : Nat
  minute : Nat
  second : Nat
  offset : Int

def parts : Reader Parts := do
  let weekday ← weekday
  skipBlanks
  let (day, _) ← digits 1 2
  blanks
  let month ← month
  blanks
  let year ← year
  blanks
  let (hour, _) ← digits 2 2
  skipBlanks
  mark ':'
  skipBlanks
  let (minute, _) ← digits 2 2
  let second ← match trimStart (← get) with
    | ':' :: rest => do
        set rest
        let (second, _) ← digits 2 2
        pure second
    | _ => pure 0
  blanks
  let offset ← zone
  return { weekday, date := ⟨year, month, day⟩, hour, minute, second, offset }

/-- The last year that a date may name, or fall into once its zone is taken off. -/
def lastYear : Int := 262142

/-- The moment that the parts name; a second numbered 60 is the one after second 59. -/
def Parts.moment? (parts : Parts) : Option Millis := do
  guard (parts.date.isValid ∧ parts.date.year ≤ lastYear)
  guard (parts.hour < 24 ∧ parts.minute < 60 ∧ parts.second ≤ 60)
  guard (parts.weekday.all (· = Calendar.weekday parts.date))
  let minutes := (parts.hour * 60 + parts.minute : Nat)
  let before := Calendar.dayNumber parts.date * 86400 + minutes * 60 - parts.offset
  guard (before < (Calendar.dayNumber ⟨lastYear, 12, 31⟩ + 1) * 86400)
  Millis.ofInt? ((before + parts.second) * 1000)

def read? (text : String) : Option Millis := do
  let (parts, rest) ← parts.run (trim text.toList)
  guard (onlyComments rest.length rest)
  parts.moment?

end TieredCache.MailDate
