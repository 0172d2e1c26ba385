import TieredCache.Bytes

/-!
A position in a YAML text, with its line, its column and the octets before it, and what may be passed over
between tokens: blanks, comments and line breaks.
-/

namespace TieredCache.Yaml

def isBreak (character : Char) : Bool :=
  character = '\n' || character = '\r' || character = '\u0085' || character = '\u2028' ||
    character = '\u2029'

def isSpacing (character : Char) : Bool :=
  character = ' ' || character = '\t'

/-- Whether a text ends here, or goes on with a blank or a line break. -/
def endsWord : List Char → Bool
  | [] => true
  | character :: _ => isSpacing character || isBreak character

/-- Whether a line ends here. -/
def endsLine : List Char → Bool
  | [] => true
  | character :: _ => isBreak character

/-- Characters that a YAML text may hold. -/
def isPrintable (character : Char) : Bool :=
  let code := character.toNat
  code = 9 || code = 10 || code = 13 || (32 ≤ code && code ≤ 126) || code = 0x85 ||
    (0xA0 ≤ code && code ≤ 0xFFFD) || 0x10000 ≤ code

/-- Letters, digits and the two marks of which names are made. -/
def isNamePart (character : Char) : Bool :=
  character.isAlphanum || character = '_' || character = '-'

/-- The octets that a row of characters takes. -/
def octetCount (text : List Char) : Nat :=
  text.foldl (fun count character => count + character.utf8Size) 0

structure Cursor where
  rest : List Char
  line : Nat
  column : Nat
  offset : Nat

namespace Cursor

def start (text : List Char) : Cursor := ⟨text, 0, 0, 0⟩

/-- Passes characters of the present line. -/
def forward (cursor : Cursor) (count : Nat) : Cursor :=
  ⟨cursor.rest.drop count, cursor.line, cursor.column + count,
    cursor.offset + octetCount (cursor.rest.take count)⟩

/-- Passes one line break; a carriage return and a line feed are one. -/
def passBreak (cursor : Cursor) : Cursor :=
  match cursor.rest with
  | [] => cursor
  | '\r' :: '\n' :: rest => ⟨rest, cursor.line + 1, 0, cursor.offset + 2⟩
  | character :: rest => ⟨rest, cursor.line + 1, 0, cursor.offset + character.utf8Size⟩

/-- Passes characters of the present line as long as they are in a class. -/
def passWhile (test : Char → Bool) (cursor : Cursor) : Cursor :=
  cursor.forward (cursor.rest.takeWhile test).length

def skipLine (cursor : Cursor) : Cursor :=
  cursor.passWhile fun character => !isBreak character

/-- Passes a comment, if one starts here. -/
def skipComment (cursor : Cursor) : Cursor :=
  if cursor.rest.head? = some '#' then cursor.skipLine else cursor

/-- Passes the mark of the order of octets at the start of a text. -/
def skipOrderMark (cursor : Cursor) : Cursor :=
  if cursor.offset = 0 && cursor.rest.head? = some '\ufeff' then cursor.forward 1 else cursor

/-- Goes on to the next token, and tells whether a key may start there: a new line of a block allows it.
A tab may not stand where a key may. -/
def toToken (cursor : Cursor) (inFlow keyAllowed : Bool) : Cursor × Bool :=
  go (cursor.rest.length + 1) cursor.skipOrderMark keyAllowed
where
  go : Nat → Cursor → Bool → Cursor × Bool
    | 0, cursor, keyAllowed => (cursor, keyAllowed)
    | budget + 1, cursor, keyAllowed =>
        let passed (character : Char) : Bool :=
          character = ' ' || ((inFlow || !keyAllowed) && character = '\t')
        let token := (cursor.passWhile passed).skipComment
        if !token.rest.isEmpty && endsLine token.rest then
          go budget token.passBreak (keyAllowed || !inFlow)
        else (token, keyAllowed)

/-- Whether a line starts here with a mark that stands between documents. -/
def startsWith (cursor : Cursor) (mark : String) : Bool :=
  cursor.column = 0 && mark.toList.isPrefixOf cursor.rest && endsWord (cursor.rest.drop 3)

def atMarker (cursor : Cursor) : Bool :=
  cursor.startsWith "---" || cursor.startsWith "..."

end Cursor

end TieredCache.Yaml
