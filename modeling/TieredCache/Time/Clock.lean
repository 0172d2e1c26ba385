import TieredCache.Time.Millis

/-!
Lengths of time in nanoseconds, and the short text that shows one: the largest of seconds,
milliseconds, microseconds and nanoseconds that the span reaches, without trailing zeros. A clock moves
by such lengths, and only when told to.
-/

namespace TieredCache

/-- A length of time. -/
structure Span where
  nanoseconds : Nat
  deriving DecidableEq, Inhabited

namespace Span

def ofMilliseconds (count : Nat) : Span := ⟨count * 1000000⟩

def ofSeconds (count : Nat) : Span := ⟨count * 1000000000⟩

def ofParts (seconds nanoseconds : Nat) : Span := ⟨seconds * 1000000000 + nanoseconds⟩

def seconds (span : Span) : Nat := span.nanoseconds / 1000000000

def subsecond (span : Span) : Nat := span.nanoseconds % 1000000000

def milliseconds (span : Span) : Nat := span.nanoseconds / 1000000

/-- Whole milliseconds; a span that does not fit becomes the longest that does. -/
def toMillis (span : Span) : Millis := Millis.clamp span.milliseconds

/-- The digits of `part` as a fraction with `width` places, without trailing zeros. -/
def fractionText (part width : Nat) : String :=
  let digits := (Nat.toDigits 10 part).leftpad width '0'
  let kept := (digits.reverse.dropWhile (· = '0')).reverse
  if kept.isEmpty then "" else "." ++ String.ofList kept

private def unitText (nanoseconds unit width : Nat) (symbol : String) : String :=
  toString (nanoseconds / unit) ++ fractionText (nanoseconds % unit) width ++ symbol

def text (span : Span) : String :=
  let count := span.nanoseconds
  if 1000000000 ≤ count then unitText count 1000000000 9 "s"
  else if 1000000 ≤ count then unitText count 1000000 6 "ms"
  else if 1000 ≤ count then unitText count 1000 3 "µs"
  else unitText count 1 0 "ns"

end Span

/-- Moving a clock past the last millisecond wraps around. -/
structure Clock where
  now : Millis
  deriving Inhabited

namespace Clock

def set (_clock : Clock) (time : Millis) : Clock := ⟨time⟩

def advance (clock : Clock) (span : Span) : Clock :=
  ⟨Millis.wrap (clock.now.value + span.milliseconds)⟩

end Clock

end TieredCache
