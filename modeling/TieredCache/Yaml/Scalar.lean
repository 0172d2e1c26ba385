import TieredCache.Yaml.Cursor

/-!
Plain text, and text in single or double quotes. Text may go on over several lines; a single line break
then reads as a blank, and further ones as themselves.
-/

namespace TieredCache.Yaml

/-- How the text of a scalar is written. -/
inductive ScalarStyle where
  | plain
  | quoted
  | literal
  | folded
  deriving DecidableEq, Inhabited

/-- What a line break reads as. -/
def breakText (character : Char) : Char :=
  if character = '\u2028' || character = '\u2029' then character else '\n'

/-- Blanks and line breaks between two words; blanks count only in front of the first break. -/
structure Gap where
  blanks : List Char
  breaks : List Char
  after : Cursor

/-- Passes blanks and line breaks. In a later line a tab before column `indent` is refused, and all of it
is a later line if `started` holds. -/
def gap? (indent : Int) (started : Bool) (start : Cursor) : Option Gap :=
  go (start.rest.length + 1) started ⟨[], [], start⟩
where
  go : Nat → Bool → Gap → Option Gap
    | 0, _, gap => some gap
    | budget + 1, later, gap =>
        match gap.after.rest with
        | [] => some gap
        | character :: _ =>
            if isBreak character then
              go budget true ⟨[], gap.breaks ++ [breakText character], gap.after.passBreak⟩
            else if isSpacing character then
              if later then
                if character = '\t' && gap.after.column < indent then none
                else go budget true { gap with after := gap.after.forward 1 }
              else go budget false ⟨gap.blanks ++ [character], [], gap.after.forward 1⟩
            else some gap

/-- What a gap between two words reads as. -/
def Gap.text (gap : Gap) : List Char :=
  match gap.breaks with
  | [] => gap.blanks
  | ['\n'] => [' ']
  | '\n' :: further => further
  | breaks => breaks

/-! ### Plain text -/

def isFlowMark (character : Char) : Bool :=
  character = ',' || character = '[' || character = ']' || character = '{' || character = '}'

/-- The characters up to the end of a plain word; between brackets a colon may not touch a mark. -/
def plainWord? (inFlow : Bool) : List Char → Option (List Char)
  | [] => some []
  | character :: rest =>
      if isSpacing character || isBreak character then some []
      else if character = ':' && inFlow && rest.head?.any fun next => isFlowMark next || next = '?' then none
      else if (character = ':' && endsWord rest) || (inFlow && isFlowMark character) then some []
      else (plainWord? inFlow rest).map (character :: ·)

/-- Whether plain text may start with these characters. -/
def startsPlain (inFlow : Bool) : List Char → Bool
  | [] => false
  | character :: rest =>
      if character = '-' then !endsWord rest
      else if character = '?' || character = ':' then !inFlow && !endsWord rest
      else !isSpacing character && !isBreak character &&
        !(",[]\x7b\x7d#&*!|>'\"%@\x60".toList.contains character)

/-- Reads plain text whose later lines are indented to column `indent` at least, and gives the gap that
follows it. -/
def plain? (inFlow : Bool) (indent : Int) (start : Cursor) : Option (List Char × Gap) :=
  go (start.rest.length + 1) [] ⟨[], [], start⟩
where
  go : Nat → List Char → Gap → Option (List Char × Gap)
    | 0, text, gap => some (text, gap)
    | budget + 1, text, gap =>
        if gap.after.atMarker || gap.after.rest.head? = some '#' then some (text, gap)
        else do
          let word ← plainWord? inFlow gap.after.rest
          if word.isEmpty then return (text, gap)
          let read := text ++ gap.text ++ word
          let wordEnd := gap.after.forward word.length
          let next ← gap? indent false wordEnd
          let isLast := next.after.rest.length = wordEnd.rest.length ||
            (!inFlow && next.after.column < indent)
          if isLast then return (read, next) else go budget read next

/-! ### Text in quotes -/

/-- Reads the rest of a text in single quotes. -/
def singleQuoted? : Nat → Cursor → Option (List Char × Cursor)
  | 0, _ => none
  | budget + 1, cursor =>
      if cursor.atMarker then none
      else
        match cursor.rest with
        | [] => none
        | '\'' :: '\'' :: _ => (singleQuoted? budget (cursor.forward 2)).map fun (text, after) =>
            ('\'' :: text, after)
        | '\'' :: _ => some ([], cursor.forward 1)
        | character :: _ =>
            if isSpacing character || isBreak character then do
              let gap ← gap? 0 false cursor
              let (text, after) ← singleQuoted? budget gap.after
              return (gap.text ++ text, after)
            else (singleQuoted? budget (cursor.forward 1)).map fun (text, after) =>
              (character :: text, after)

/-- The character that a one letter escape stands for. -/
def escape? (letter : Char) : Option Char :=
  [('0', '\x00'), ('a', '\x07'), ('b', '\x08'), ('t', '\t'), ('\t', '\t'), ('n', '\n'),
    ('v', '\x0b'), ('f', '\x0c'), ('r', '\r'), ('e', '\x1b'), (' ', ' '), ('"', '"'), ('/', '/'),
    ('\\', '\\'), ('N', '\u0085'), ('_', '\u00a0'), ('L', '\u2028'), ('P', '\u2029')].lookup letter

def hexDigit? (digit : Char) : Option Nat :=
  if '0' ≤ digit ∧ digit ≤ '9' then some (digit.toNat - 48)
  else if 'a' ≤ digit ∧ digit ≤ 'f' then some (digit.toNat - 87)
  else if 'A' ≤ digit ∧ digit ≤ 'F' then some (digit.toNat - 55)
  else none

/-- The number of digits that follow a numeric escape. -/
def escapeWidth? (letter : Char) : Option Nat :=
  [('x', 2), ('u', 4), ('U', 8)].lookup letter

def numericEscape? (digits : List Char) (width : Nat) : Option Char := do
  guard (digits.length = width)
  let code ← digits.foldlM (fun value digit => (hexDigit? digit).map (16 * value + ·)) 0
  if code.isValidChar then some (Char.ofNat code) else none

/-- The character that an escape after a backslash stands for, and its length. -/
def escaped? (letter : Char) (digits : List Char) : Option (Char × Nat) :=
  match escapeWidth? letter with
  | some width => (numericEscape? (digits.take width) width).map (·, 1 + width)
  | none => (escape? letter).map (·, 1)

/-- Reads the rest of a text in double quotes. A break behind a backslash is dropped. -/
def doubleQuoted? : Nat → Cursor → Option (List Char × Cursor)
  | 0, _ => none
  | budget + 1, cursor =>
      if cursor.atMarker then none
      else
        match cursor.rest with
        | [] => none
        | '"' :: _ => some ([], cursor.forward 1)
        | '\\' :: letter :: digits =>
            if isBreak letter then do
              let gap ← gap? 0 true (cursor.forward 1).passBreak
              let (text, after) ← doubleQuoted? budget gap.after
              return (gap.breaks ++ text, after)
            else do
              let (character, length) ← escaped? letter digits
              let (text, after) ← doubleQuoted? budget (cursor.forward (1 + length))
              return (character :: text, after)
        | character :: _ =>
            if isSpacing character || isBreak character then do
              let gap ← gap? 0 false cursor
              let (text, after) ← doubleQuoted? budget gap.after
              return (gap.text ++ text, after)
            else (doubleQuoted? budget (cursor.forward 1)).map fun (text, after) =>
              (character :: text, after)

/-- Reads a text in quotes of one kind. -/
def quoted? (isSingle : Bool) (cursor : Cursor) : Option (List Char × Cursor) :=
  let budget := cursor.rest.length + 1
  if isSingle then singleQuoted? budget (cursor.forward 1) else doubleQuoted? budget (cursor.forward 1)

end TieredCache.Yaml
