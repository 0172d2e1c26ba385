import TieredCache.Time.Calendar
import TieredCache.Time.Millis

/-! A moment as a date and a time of day in universal time, as log records carry it. -/

namespace TieredCache.Stamp

/-- A number with zeros in front up to a width. -/
def padded (width number : Nat) : List Char :=
  let digits := Nat.toDigits 10 number
  List.replicate (width - digits.length) '0' ++ digits

/-- A part of a second without the zeros at its end; there is nothing for a whole second. -/
def fraction (milliseconds : Nat) : List Char :=
  let digits := ((padded 3 milliseconds).reverse.dropWhile (· = '0')).reverse
  if digits.isEmpty then [] else '.' :: digits

def date (date : Calendar.Date) : List Char :=
  padded 4 date.year.toNat ++ '-' :: padded 2 date.month ++ '-' :: padded 2 date.day

/-- The time of day after some milliseconds of a day. -/
def timeOfDay (milliseconds : Nat) : List Char :=
  let seconds := milliseconds / 1000
  padded 2 (seconds / 3600) ++ ':' :: padded 2 (seconds / 60 % 60) ++ ':' :: padded 2 (seconds % 60) ++
    fraction (milliseconds % 1000)

def text (moment : Millis) : String :=
  let dayNumber := moment.value.fdiv 86400000
  let milliseconds := (moment.value - dayNumber * 86400000).toNat
  String.ofList (date (Calendar.ofDayNumber dayNumber) ++ 'T' :: timeOfDay milliseconds ++ ['Z'])

example : text (Millis.clamp 951868799120) = "2000-02-29T23:59:59.12Z" := by decide +kernel

end TieredCache.Stamp
