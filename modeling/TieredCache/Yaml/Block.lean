import TieredCache.Yaml.Scalar

/-!
Text in indented lines. Literal text keeps its line breaks; in folded text a break between two lines that
start with no blank reads as a blank. What is kept of the breaks at the end is chosen in front of the text.
-/

namespace TieredCache.Yaml

/-- What is kept of the line breaks at the end. -/
inductive Chomp where
  | strip
  | clip
  | keep
  deriving DecidableEq

def Chomp.ofMark? : Char → Option Chomp
  | '-' => some .strip
  | '+' => some .keep
  | _ => none

/-- The marks in front of a block: what is kept at the end, and how far the lines are indented at least
beyond the block around them. -/
structure BlockMarks where
  chomp : Chomp := .clip
  increment : Option Nat := none

/-- Reads up to two marks, one of each kind in any order; zero is no indentation. -/
def blockMarks? (cursor : Cursor) : Option (BlockMarks × Cursor) :=
  let chomp? (cursor : Cursor) : Option (Chomp × Cursor) :=
    (cursor.rest.head?.bind Chomp.ofMark?).map (·, cursor.forward 1)
  let digit? (cursor : Cursor) : Option (Nat × Cursor) :=
    (cursor.rest.head?.filter Char.isDigit).map fun digit => (digit.toNat - 48, cursor.forward 1)
  let (marks, after) : BlockMarks × Cursor :=
    match chomp? cursor with
    | some (chomp, after) =>
        match digit? after with
        | some (increment, after) => (⟨chomp, some increment⟩, after)
        | none => (⟨chomp, none⟩, after)
    | none =>
        match digit? cursor with
        | some (increment, after) =>
            match chomp? after with
            | some (chomp, after) => (⟨chomp, some increment⟩, after)
            | none => (⟨.clip, some increment⟩, after)
        | none => ({}, cursor)
  if marks.increment = some 0 then none else some (marks, after)

/-- Passes blanks and a comment up to the end of the line, and the line break. -/
def lineEnd? (cursor : Cursor) : Option Cursor :=
  let finish := (cursor.passWhile isSpacing).skipComment
  if endsLine finish.rest then some finish.passBreak else none

/-- Empty lines, the widest row of blanks in front of a line end or of text, and the position after. -/
structure Margin where
  breaks : List Char
  widest : Nat
  after : Cursor

/-- Passes indentation, up to a column if it is known, and empty lines. No tab may stand in it. -/
def margin? (column : Option Nat) (start : Cursor) : Option Margin :=
  go (start.rest.length + 1) ⟨[], 0, start⟩
where
  go : Nat → Margin → Option Margin
    | 0, margin => some margin
    | budget + 1, margin =>
        let blanks := (margin.after.rest.takeWhile (· = ' ')).length
        let here := margin.after.forward (column.elim blanks fun last => min blanks (last - margin.after.column))
        let widest := max margin.widest here.column
        match here.rest with
        | [] => some ⟨margin.breaks, widest, here⟩
        | character :: _ =>
            if character = '\t' && column.all (here.column < ·) then none
            else if isBreak character then
              go budget ⟨margin.breaks ++ [breakText character], widest, here.passBreak⟩
            else some ⟨margin.breaks, widest, here⟩

/-- Lines that were read: their text, the break of the last one, and whether that starts with a blank. -/
structure BlockText where
  text : List Char := []
  lastBreak : List Char := []
  startsBlank : Bool := false

/-- What the break between two lines reads as, with the empty lines that follow it. -/
def BlockText.joint (block : BlockText) (isFolded startsBlank : Bool) (empty : List Char) : List Char :=
  if isFolded && block.lastBreak = ['\n'] && !block.startsBlank && !startsBlank then
    if empty.isEmpty then [' '] else empty
  else block.lastBreak ++ empty

def BlockText.finish (block : BlockText) (chomp : Chomp) (empty : List Char) : List Char :=
  match chomp with
  | .strip => block.text
  | .clip => block.text ++ block.lastBreak
  | .keep => block.text ++ block.lastBreak ++ empty

/-- Reads the lines that start at a column. -/
def blockLines? (isFolded : Bool) (column : Nat) : Nat → BlockText → Margin → Option (BlockText × Margin)
  | 0, block, margin => some (block, margin)
  | budget + 1, block, margin =>
      let line := margin.after.rest.takeWhile fun character => !isBreak character
      if margin.after.column ≠ column || margin.after.rest.isEmpty then some (block, margin)
      else do
        let startsBlank := margin.after.rest.head?.any isSpacing
        let lineEnd := margin.after.forward line.length
        let next : BlockText :=
          { text := block.text ++ block.joint isFolded startsBlank margin.breaks ++ line
            lastBreak := (lineEnd.rest.take 1).map breakText
            startsBlank := startsBlank }
        blockLines? isFolded column budget next (← margin? (some column) lineEnd.passBreak)

/-- Reads a block of text inside a block whose column is `indent`. Without a mark the column of the text is
the widest one in front of its first line, and at least one more than that of the block around it. -/
def block? (isFolded : Bool) (indent : Int) (start : Cursor) : Option (List Char × Cursor) := do
  let (marks, afterMarks) ← blockMarks? (start.forward 1)
  let body ← lineEnd? afterMarks
  let chosen := marks.increment.map fun increment => indent.toNat + increment
  let margin ← margin? chosen body
  let column := chosen.getD (max margin.widest (max (indent + 1).toNat 1))
  let (block, rest) ← blockLines? isFolded column (body.rest.length + 1) {} margin
  return (block.finish marks.chomp rest.breaks, rest.after)

end TieredCache.Yaml
