import TieredCache.Key.Path

/-!
Routes to files. A route is a text that says how to get there, and it is kept as it was written: slashes
may be doubled, a dot stays where it is and two dots go up. Main statement: the parent of a route is never
longer than the route.
-/

namespace TieredCache

namespace FilePath

def toBytes (path : FilePath) : Bytes :=
  [slash].intercalate path

def absolute (path : FilePath) : Bytes :=
  path.flatMap (slash :: ·)

/-- Octets that stand only for a text are shown; others are not. -/
def text (path : FilePath) : String :=
  (Text.ofBytes? path.absolute).getD ""

/-- Whether the second path lies strictly below the first. -/
def isAbove (path other : FilePath) : Bool :=
  path.isPrefixOf other && path.length < other.length

end FilePath

/-- The name that leads up. -/
def Name.up : Name := [46, 46]

/-- The name that stays where it is. -/
def Name.here : Name := [46]

/-- A text to be followed from the top, or from a directory if it does not start with a slash. -/
structure Route where
  text : Bytes
  start : FilePath := []
  deriving DecidableEq

/-- What comes after the last name of a route. -/
inductive Route.Ending where
  | plain | slash | dot
  deriving DecidableEq

namespace Route
open FilePath

def ofPlace (place : FilePath) : Route := ⟨place.absolute, []⟩

/-- The route from a place on to one below it. -/
def between (start place : FilePath) : Route := ⟨toBytes (place.drop start.length), start⟩

def isAbsolute (text : Bytes) : Bool := text.head? = some slash

/-- Where following the route begins. -/
def origin (route : Route) : FilePath := if isAbsolute route.text then [] else route.start

/-- The names that are followed. -/
def names (route : Route) : List Name :=
  (FilePath.names route.text).filter fun name => !name.isEmpty && name ≠ Name.here

def ending (route : Route) : Ending :=
  if ((FilePath.names route.text).reverse.dropWhile List.isEmpty).head? = some Name.here then .dot
  else if route.text.getLast? = some slash then .slash
  else .plain

/-- Goes on from the end of a route; a text with a slash in front starts at the top. -/
def join (route : Route) (relative : Bytes) : Route :=
  if isAbsolute relative then { route with text := relative }
  else { route with text := Key.join route.text relative }

/-- Drops slashes and dots after the last name; the text is given last octet first. -/
def trimmed : Bytes → Bytes
  | octet :: rest =>
      if octet = slash then trimmed rest
      else if octet = 46 && rest.head? = some slash then trimmed rest
      else octet :: rest
  | [] => []

/-- The route without its last name. -/
def parent (route : Route) : Route :=
  let above := trimmed ((trimmed route.text.reverse).dropWhile (· ≠ slash))
  { route with
    text := if above.isEmpty && isAbsolute route.text then [slash] else above.reverse }

theorem length_trimmed_le (text : Bytes) : (trimmed text).length ≤ text.length := by
  induction text with
  | nil => simp [trimmed]
  | cons octet rest ih =>
      rw [trimmed]
      split
      · exact Nat.le_succ_of_le ih
      · split
        · exact Nat.le_succ_of_le ih
        · exact Nat.le_refl _

/-- Going up makes no route longer. -/
theorem length_parent_le (route : Route) : route.parent.text.length ≤ route.text.length := by
  have up : (trimmed ((trimmed route.text.reverse).dropWhile (· ≠ slash))).length ≤
      route.text.length := by
    refine Nat.le_trans (length_trimmed_le _) ?_
    refine Nat.le_trans (List.dropWhile_sublist _).length_le ?_
    simpa using length_trimmed_le route.text.reverse
  unfold parent
  dsimp only
  split
  · rename_i top
    simp only [Bool.and_eq_true] at top
    have started := top.2
    cases written : route.text with
    | nil => simp [isAbsolute, written] at started
    | cons first rest => simp
  · simpa using up

/-- The route and those above it, as many as there are names. -/
def ancestors (route : Route) : List Route :=
  above route.names.length route
where
  above : Nat → Route → List Route
    | 0, _ => []
    | count + 1, route => route :: above count route.parent

/-- The places that following the route passes, if nothing stands in the way. -/
def passed (route : Route) : List FilePath :=
  walk route.origin route.names
where
  walk : FilePath → List Name → List FilePath
    | place, [] => [place]
    | place, name :: rest =>
        place :: walk (if name = Name.up then place.dropLast else place ++ [name]) rest

/-- Octets that stand only for a text are shown; others are not. -/
def shown (route : Route) : String := (Text.ofBytes? route.text).getD ""

end Route

end TieredCache
