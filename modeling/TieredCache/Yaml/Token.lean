import TieredCache.Yaml.Tag

/-!
The tokens of a YAML text. Blocks open and close with the columns in which their lines start, and a key
needs no mark of its own if a colon follows it in the same line; its token is put in when the colon is
seen.
-/

namespace TieredCache.Yaml

inductive Token where
  | documentStart
  | documentEnd
  | directive (content : Directive)
  | blockList
  | blockMap
  | blockEnd
  | listOpen
  | listClose
  | mapOpen
  | mapClose
  | comma
  | item
  | key
  | value
  | alias (name : List Char)
  | anchor (name : List Char)
  | tag (content : Tag)
  | scalar (text : List Char) (style : ScalarStyle)
  deriving DecidableEq

/-- The most octets from the start of a key without a mark to its colon. -/
def keyLimit : Nat := 1024

/-- A place where a key without a mark may have started, and the number of tokens before it. It has to be a
key if it stands in the column of the block around it. -/
structure KeyPlace where
  number : Nat
  line : Nat
  column : Nat
  offset : Nat
  required : Bool

/-- A colon can no longer make a key of what starts here. -/
def KeyPlace.isPast (cursor : Cursor) (place : KeyPlace) : Bool :=
  place.line < cursor.line || place.offset + keyLimit < cursor.offset

/-- A text that is read up to a cursor: the tokens so far, the columns of the open blocks, and the place of
a key for the text and for each open bracket. -/
structure Layout where
  cursor : Cursor
  tokens : Array Token := #[]
  indent : Int := -1
  outer : List Int := []
  key : Option KeyPlace := none
  outerKeys : List (Option KeyPlace) := []
  keyAllowed : Bool := true

namespace Layout

def inFlow (layout : Layout) : Bool := !layout.outerKeys.isEmpty

def emit (token : Token) (layout : Layout) : Layout :=
  { layout with tokens := layout.tokens.push token }

/-- Passes an indicator of the given length. -/
def indicator (token : Token) (length : Nat) (layout : Layout) : Layout :=
  { layout with
    cursor := layout.cursor.forward length
    tokens := layout.tokens.push token }

/-! ### Keys -/

/-- Gives up the place of a key. -/
def dropKey? (layout : Layout) : Option Layout :=
  if layout.key.any (·.required) then none else some { layout with key := none }

/-- Marks the place of a key, where one is allowed; what follows cannot be another one. -/
def markKey? (layout : Layout) : Option Layout :=
  if layout.keyAllowed then do
    let free ← layout.dropKey?
    let cursor := layout.cursor
    let place : KeyPlace :=
      { number := layout.tokens.size
        line := cursor.line
        column := cursor.column
        offset := cursor.offset
        required := !layout.inFlow && layout.indent = cursor.column }
    return { free with key := some place, keyAllowed := false }
  else some layout

/-- Gives up the places that are too far back. -/
def dropPastKeys? (layout : Layout) : Option Layout :=
  let isPast := KeyPlace.isPast layout.cursor
  if (layout.key :: layout.outerKeys).any (·.any fun place => isPast place && place.required) then none
  else some
    { layout with
      key := layout.key.filter (!isPast ·)
      outerKeys := layout.outerKeys.map (·.filter (!isPast ·)) }

/-! ### Blocks -/

/-- Leaves the blocks whose columns are behind the given one. -/
def unwind (column : Int) : Int → List Int → Array Token → Int × List Int × Array Token
  | indent, [], tokens => (indent, [], tokens)
  | indent, next :: outer, tokens =>
      if column < indent then unwind column next outer (tokens.push .blockEnd)
      else (indent, next :: outer, tokens)

def closeBlocks (column : Int) (layout : Layout) : Layout :=
  if layout.inFlow then layout
  else
    let (indent, outer, tokens) := unwind column layout.indent layout.outer layout.tokens
    { layout with indent := indent, outer := outer, tokens := tokens }

/-- Opens a block in a column behind that of the block around it; `number` tokens stand before it. -/
def openBlock (token : Token) (column number : Nat) (layout : Layout) : Layout :=
  if layout.inFlow || column ≤ layout.indent then layout
  else
    { layout with
      indent := column
      outer := layout.indent :: layout.outer
      tokens := layout.tokens.insertIdxIfInBounds number token }

/-- Opens a block at the cursor, unless between brackets; it has to stand where a key may. -/
def openHere? (token : Token) (layout : Layout) : Option Layout :=
  if layout.inFlow then some layout
  else if layout.keyAllowed then
    some (layout.openBlock token layout.cursor.column layout.tokens.size)
  else none

/-! ### Tokens one by one -/

/-- Goes on to the next token and leaves the blocks that end before it. -/
def settle? (layout : Layout) : Option Layout := do
  let (cursor, keyAllowed) := layout.cursor.toToken layout.inFlow layout.keyAllowed
  let arrived ← { layout with cursor := cursor, keyAllowed := keyAllowed }.dropPastKeys?
  return arrived.closeBlocks cursor.column

/-- Ends what is open, in front of a mark between documents or a directive. -/
def endDocument? (layout : Layout) : Option Layout := do
  return { ← (layout.closeBlocks (-1)).dropKey? with keyAllowed := false }

def openBracket? (token : Token) (layout : Layout) : Option Layout := do
  let marked ← layout.markKey?
  let inside := { marked with key := none, outerKeys := marked.key :: marked.outerKeys, keyAllowed := true }
  return inside.indicator token 1

def closeBracket? (token : Token) (layout : Layout) : Option Layout := do
  let free ← layout.dropKey?
  let outside := match free.outerKeys with
    | [] => free
    | key :: outerKeys => { free with key := key, outerKeys := outerKeys }
  return { outside with keyAllowed := false }.indicator token 1

def comma? (layout : Layout) : Option Layout := do
  return { ← layout.dropKey? with keyAllowed := true }.indicator .comma 1

def item? (layout : Layout) : Option Layout := do
  return { ← (← layout.openHere? .blockList).dropKey? with keyAllowed := true }.indicator .item 1

def markedKey? (layout : Layout) : Option Layout := do
  let free ← (← layout.openHere? .blockMap).dropKey?
  return { free with keyAllowed := !layout.inFlow }.indicator .key 1

/-- A colon: it makes a key of what started at the marked place, or follows a key with its own mark. -/
def value? (layout : Layout) : Option Layout := do
  let opened ← match layout.key with
    | some place =>
        let keyed := { layout with tokens := layout.tokens.insertIdxIfInBounds place.number .key }
        let inside := keyed.openBlock .blockMap place.column place.number
        pure { inside with key := none, keyAllowed := false }
    | none => do
        pure { ← layout.openHere? .blockMap with keyAllowed := !layout.inFlow }
  return opened.indicator .value 1

/-- Puts in what was read from the cursor on. -/
def accept (token : Token) (after : Cursor) (layout : Layout) : Layout :=
  { layout.emit token with cursor := after }

def name? (token : List Char → Token) (layout : Layout) : Option Layout := do
  let (name, after) ← Yaml.name? layout.cursor
  return (← layout.markKey?).accept (token name) after

def tag? (layout : Layout) : Option Layout := do
  let (tag, after) ← Yaml.tag? layout.inFlow layout.cursor
  return (← layout.markKey?).accept (.tag tag) after

def quoted? (isSingle : Bool) (layout : Layout) : Option Layout := do
  let (text, after) ← Yaml.quoted? isSingle layout.cursor
  return (← layout.markKey?).accept (.scalar text .quoted) after

def block? (isFolded : Bool) (layout : Layout) : Option Layout := do
  let (text, after) ← Yaml.block? isFolded layout.indent layout.cursor
  let style := if isFolded then .folded else .literal
  return { ← layout.dropKey? with keyAllowed := true }.accept (.scalar text style) after

/-- Plain text; behind a line break a key may start. -/
def plain? (layout : Layout) : Option Layout := do
  let (text, gap) ← Yaml.plain? layout.inFlow (layout.indent + 1) layout.cursor
  let marked ← layout.markKey?
  let keyAllowed := marked.keyAllowed || !gap.breaks.isEmpty
  return { marked with keyAllowed := keyAllowed }.accept (.scalar text .plain) gap.after

/-- Reads one token. -/
def next? (layout : Layout) : Option Layout := do
  let first ← layout.cursor.rest.head?
  let ends := endsWord layout.cursor.rest.tail
  if layout.cursor.column = 0 && first = '%' then
    let (directive, after) ← Yaml.directive? layout.cursor
    return (← layout.endDocument?).accept (.directive directive) after
  if layout.cursor.startsWith "---" then return (← layout.endDocument?).indicator .documentStart 3
  if layout.cursor.startsWith "..." then return (← layout.endDocument?).indicator .documentEnd 3
  if first = '-' && ends then return ← layout.item?
  if first = '?' && (layout.inFlow || ends) then return ← layout.markedKey?
  if first = ':' && (layout.inFlow || ends) then return ← layout.value?
  if first = '|' && !layout.inFlow then return ← layout.block? false
  if first = '>' && !layout.inFlow then return ← layout.block? true
  match first with
  | '[' => layout.openBracket? .listOpen
  | ']' => layout.closeBracket? .listClose
  | '{' => layout.openBracket? .mapOpen
  | '}' => layout.closeBracket? .mapClose
  | ',' => layout.comma?
  | '*' => layout.name? .alias
  | '&' => layout.name? .anchor
  | '!' => layout.tag?
  | '\'' => layout.quoted? true
  | '"' => layout.quoted? false
  | _ => if startsPlain layout.inFlow layout.cursor.rest then layout.plain? else none

/-- Reads all tokens. -/
def tokens? : Nat → Layout → Option (Array Token)
  | 0, _ => none
  | budget + 1, layout => do
      let settled ← layout.settle?
      if settled.cursor.rest.isEmpty then return (← settled.endDocument?).tokens
      else tokens? budget (← settled.next?)

end Layout

def tokens? (text : List Char) : Option (List Token) :=
  if text.all isPrintable then
    (Layout.tokens? (text.length + 1) { cursor := Cursor.start text }).map Array.toList
  else none

end TieredCache.Yaml
