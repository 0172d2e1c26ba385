import TieredCache.Yaml.Token

/-!
The tree of a YAML document: scalars, lists, maps and references to nodes that an anchor names.
-/

namespace TieredCache.Yaml

inductive Node where
  | scalar (text : String) (style : ScalarStyle) (tag : Option Bytes)
  | list (items : List Node)
  | map (entries : List (Node × Node))
  | reference (number : Nat)
  deriving Inhabited

def Node.empty : Node := .scalar "" .plain none

/-- A tree, and the nodes that its references stand for. -/
structure Document where
  root : Node
  anchored : List (Nat × Node)

def Document.resolve (document : Document) : Node → Node
  | .reference number => (document.anchored.lookup number).getD .empty
  | node => node

/-! ### Anchors

The number of an anchor is the count of the names before it. A name that is used again gets a new number,
after which the next name gets that number too, and references to it stand for the later node. -/

structure Anchors where
  names : List (List Char × Nat) := []
  /-- The numbers of all anchors in the order of the text. -/
  order : List Nat := []
  /-- The nodes that were read, by their place in that order. -/
  nodes : List (Nat × Node) := []

/-- The anchors with one more, and its place among them. -/
def Anchors.add (anchors : Anchors) (name : List Char) : Anchors × Nat :=
  let number := anchors.names.length
  ({ anchors with
      names := (name, number) :: anchors.names.filter (·.1 ≠ name)
      order := anchors.order ++ [number] },
    anchors.order.length)

/-- The nodes by number. -/
def Anchors.byNumber (anchors : Anchors) : List (Nat × Node) :=
  anchors.order.zipIdx.reverse.filterMap fun (number, place) =>
    (anchors.nodes.lookup place).map (number, ·)

/-! ### Nodes from tokens -/

/-- What is left to be read, with the octets that handles of tags stand for. -/
structure Reading where
  tokens : List Token
  handles : List (List Char × Bytes)
  anchors : Anchors := {}

/-- What stands in front of a node. -/
structure Properties where
  place : Option Nat := none
  tag : Option Bytes := none

namespace Reading

def drop (reading : Reading) (count : Nat) : Reading :=
  { reading with tokens := reading.tokens.drop count }

def atAny (reading : Reading) (tokens : List Token) : Bool :=
  reading.tokens.head?.any tokens.contains

def isAt (reading : Reading) (token : Token) : Bool := reading.tokens.head? = some token

/-- The octets of a tag with those that its handle stands for. -/
def tag? (reading : Reading) (tag : Tag) : Option Bytes :=
  if tag.handle.isEmpty then some tag.octets
  else (reading.handles.lookup tag.handle).map (· ++ tag.octets)

def anchor (reading : Reading) (name : List Char) : Reading × Nat :=
  let (anchors, place) := reading.anchors.add name
  ({ reading with anchors := anchors }, place)

/-- Reads an anchor and a tag, in any order. -/
def properties? (reading : Reading) : Option (Properties × Reading) :=
  match reading.tokens with
  | .anchor name :: .tag tag :: _ => do
      let octets ← reading.tag? tag
      let (next, place) := (reading.drop 2).anchor name
      return (⟨some place, some octets⟩, next)
  | .tag tag :: .anchor name :: _ => do
      let octets ← reading.tag? tag
      let (next, place) := (reading.drop 2).anchor name
      return (⟨some place, some octets⟩, next)
  | .anchor name :: _ =>
      let (next, place) := (reading.drop 1).anchor name
      some (⟨some place, none⟩, next)
  | .tag tag :: _ => do return (⟨none, some (← reading.tag? tag)⟩, reading.drop 1)
  | _ => some ({}, reading)

/-- A node without text; it has to have properties. -/
def bare (properties : Properties) (reading : Reading) : Option (Node × Reading) :=
  if properties.place.isNone && properties.tag.isNone then none
  else some (.scalar "" .plain properties.tag, reading)

/-- Notes the node that an anchor stands in front of. -/
def note (place : Option Nat) (node : Node) (reading : Reading) : Reading :=
  match place with
  | none => reading
  | some place =>
      { reading with anchors := { reading.anchors with nodes := (place, node) :: reading.anchors.nodes } }

mutual

/-- Reads a node. Blocks are refused between brackets, and a list whose items stand in the column of the map
around it is read as a value of that map only. -/
def node? : Nat → Bool → Bool → Reading → Option (Node × Reading)
  | 0, _, _, _ => none
  | budget + 1, inBlock, inMap, reading =>
      match reading.tokens with
      | .alias name :: _ => do return (.reference (← reading.anchors.names.lookup name), reading.drop 1)
      | _ => do
          let (properties, start) ← reading.properties?
          let (node, after) ← content? budget inBlock inMap properties start
          return (node, after.note properties.place node)

/-- Reads what follows the properties of a node; a node that has any may be without text. -/
def content? : Nat → Bool → Bool → Properties → Reading → Option (Node × Reading)
  | 0, _, _, _, _ => none
  | budget + 1, inBlock, inMap, properties, reading =>
      let blockOnly (found : Option (Node × Reading)) : Option (Node × Reading) :=
        if inBlock then found else bare properties reading
      match reading.tokens with
      | .scalar text style :: _ =>
          some (.scalar (String.ofList text) style (properties.tag.filter (· ≠ [33])), reading.drop 1)
      | .listOpen :: _ =>
          (flowItems? budget true (reading.drop 1)).map fun (items, after) => (.list items, after)
      | .mapOpen :: _ =>
          (flowEntries? budget true (reading.drop 1)).map fun (entries, after) => (.map entries, after)
      | .blockList :: _ =>
          blockOnly ((items? budget (reading.drop 1)).map fun (items, after) => (.list items, after))
      | .blockMap :: _ =>
          blockOnly ((entries? budget (reading.drop 1)).map fun (entries, after) => (.map entries, after))
      | .item :: _ =>
          if inMap then (hangingItems? budget reading).map fun (items, after) => (.list items, after)
          else bare properties reading
      | _ => bare properties reading

/-- Reads a node, or nothing in front of the given tokens. -/
def nodeUnless? : Nat → Bool → Bool → List Token → Reading → Option (Node × Reading)
  | 0, _, _, _, _ => none
  | budget + 1, inBlock, inMap, stops, reading =>
      if reading.atAny stops then some (.empty, reading) else node? budget inBlock inMap reading

/-- Reads the items of a block up to its end. -/
def items? : Nat → Reading → Option (List Node × Reading)
  | 0, _ => none
  | budget + 1, reading =>
      if reading.isAt .blockEnd then some ([], reading.drop 1)
      else if reading.isAt .item then do
        let (item, after) ← nodeUnless? budget true false [.item, .blockEnd] (reading.drop 1)
        let (items, finish) ← items? budget after
        return (item :: items, finish)
      else none

/-- Reads the items of a list that has no column of its own. -/
def hangingItems? : Nat → Reading → Option (List Node × Reading)
  | 0, _ => none
  | budget + 1, reading =>
      if reading.isAt .item then do
        let stops : List Token := [.item, .key, .value, .blockEnd]
        let (item, after) ← nodeUnless? budget true false stops (reading.drop 1)
        let (items, finish) ← hangingItems? budget after
        return (item :: items, finish)
      else some ([], reading)

/-- Reads the entries of a block up to its end. -/
def entries? : Nat → Reading → Option (List (Node × Node) × Reading)
  | 0, _ => none
  | budget + 1, reading =>
      if reading.isAt .blockEnd then some ([], reading.drop 1)
      else if reading.isAt .key then do
        let stops : List Token := [.key, .value, .blockEnd]
        let (key, afterKey) ← nodeUnless? budget true true stops (reading.drop 1)
        let (value, after) ←
          if afterKey.isAt .value then nodeUnless? budget true true stops (afterKey.drop 1)
          else some (.empty, afterKey)
        let (entries, finish) ← entries? budget after
        return ((key, value) :: entries, finish)
      else none

/-- Reads the value after a colon between brackets; colon and value may be left out. -/
def flowValue? : Nat → List Token → Reading → Option (Node × Reading)
  | 0, _, _ => none
  | budget + 1, stops, reading =>
      if reading.isAt .value then nodeUnless? budget false false stops (reading.drop 1)
      else some (.empty, reading)

/-- Reads the items of a list up to its closing bracket. A map of one entry is an item that starts with a
key; an empty key takes the token after it along. -/
def flowItems? : Nat → Bool → Reading → Option (List Node × Reading)
  | 0, _, _ => none
  | budget + 1, isFirst, reading =>
      if reading.isAt .listClose then some ([], reading.drop 1)
      else if isFirst || reading.isAt .comma then do
        let start := if isFirst then reading else reading.drop 1
        if start.isAt .listClose then return ([], start.drop 1)
        let (item, after) ←
          if start.isAt .key then do
            let stops : List Token := [.value, .comma, .listClose]
            let (key, afterKey) ←
              if (start.drop 1).atAny stops then some (.empty, start.drop 2)
              else node? budget false false (start.drop 1)
            let (value, after) ← flowValue? budget [.comma, .listClose] afterKey
            some (.map [(key, value)], after)
          else node? budget false false start
        let (items, finish) ← flowItems? budget false after
        return (item :: items, finish)
      else none

/-- Reads the entries of a map up to its closing brace. -/
def flowEntries? : Nat → Bool → Reading → Option (List (Node × Node) × Reading)
  | 0, _, _ => none
  | budget + 1, isFirst, reading =>
      if reading.isAt .mapClose then some ([], reading.drop 1)
      else if isFirst || reading.isAt .comma then do
        let start := if isFirst then reading else reading.drop 1
        if start.isAt .mapClose then return ([], start.drop 1)
        let (key, value, after) ←
          if start.isAt .key then do
            let stops : List Token := [.value, .comma, .mapClose]
            let (key, afterKey) ← nodeUnless? budget false false stops (start.drop 1)
            let (value, after) ← flowValue? budget [.comma, .mapClose] afterKey
            some (key, value, after)
          else do
            let (key, after) ← node? budget false false start
            some (key, .empty, after)
        let (entries, finish) ← flowEntries? budget false after
        return ((key, value) :: entries, finish)
      else none

end

end Reading

/-! ### Documents -/

/-- The handles that need no directive. -/
def usualHandles : List (List Char × Bytes) :=
  [(['!'], Text.bytes "!"), (['!', '!'], Text.bytes "tag:yaml.org,2002:")]

/-- Reads the directives in front of a document; each of them may be given once. -/
def handles? : Bool → List (List Char × Bytes) → List Token → Option (List (List Char × Bytes) × List Token)
  | hasVersion, handles, .directive (.version major minor) :: rest =>
      if hasVersion || major ≠ 1 || (minor ≠ 1 && minor ≠ 2) then none else handles? true handles rest
  | hasVersion, handles, .directive (.handle name octets) :: rest =>
      if (handles.lookup name).isSome then none else handles? hasVersion ((name, octets) :: handles) rest
  | _, handles, tokens => some (handles ++ usualHandles, tokens)

/-- Reads a text that holds at most one document; a text without any gives none. -/
def document? (text : String) : Option (Option Document) := do
  let tokens ← tokens? text.toList
  if tokens.isEmpty then return none
  let (handles, body) ← handles? false [] tokens
  let start : Reading := { tokens := body, handles := handles }
  let isMarked := start.isAt .documentStart
  guard (isMarked || body.length = tokens.length)
  let content := if isMarked then start.drop 1 else start
  let (root, after) ←
    if isMarked && (content.tokens.isEmpty || content.isAt .documentEnd) then some (.empty, content)
    else Reading.node? (5 * tokens.length + 5) true false content
  guard (after.tokens.all (· = .documentEnd))
  return some ⟨root, after.anchors.byNumber⟩

end TieredCache.Yaml
