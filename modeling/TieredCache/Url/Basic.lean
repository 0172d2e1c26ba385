import TieredCache.Url.Host
import TieredCache.Url.Segments

/-!
URLs in normal form. A URL has a scheme, an authority or none, a path, and a query and a fragment
or none. The path is a row of segments, unless the scheme gives it no structure.
-/

namespace TieredCache

inductive UrlPath where
  | unstructured (text : List Char)
  | segments (names : List (List Char))
  deriving DecidableEq

structure UrlAuthority where
  username : List Char
  password : List Char
  host : List Char
  port : Option Nat
  deriving DecidableEq

/-- A path without an authority that begins with an empty segment would read as an authority; it is
`dotted` then, which is written as `/.` in front of it. -/
structure Url where
  scheme : List Char
  authority : Option UrlAuthority
  dotted : Bool
  path : UrlPath
  query : Option (List Char)
  fragment : Option (List Char)
  deriving DecidableEq

namespace Url
open Text

/-- Schemes with rules of their own, and their usual ports. -/
def specialSchemes : List (String × Option Nat) :=
  [("http", some 80), ("https", some 443), ("ws", some 80), ("wss", some 443), ("ftp", some 21),
    ("file", none)]

def isSpecialScheme (scheme : List Char) : Bool :=
  specialSchemes.any (·.1.toList = scheme)

def isSpecial (url : Url) : Bool := isSpecialScheme url.scheme

def UrlAuthority.text (authority : UrlAuthority) : List Char :=
  let credentials :=
    if authority.username.isEmpty && authority.password.isEmpty then []
    else
      authority.username ++
        (if authority.password.isEmpty then [] else ':' :: authority.password) ++ ['@']
  credentials ++ authority.host ++
    (authority.port.elim [] fun port => ':' :: (toString port).toList)

def UrlPath.text : UrlPath → List Char
  | .unstructured text => text
  | .segments names => names.flatMap ('/' :: ·)

def text (url : Url) : String :=
  String.ofList <|
    url.scheme ++ ':' ::
      (match url.authority with
        | some authority => '/' :: '/' :: UrlAuthority.text authority
        | none => if url.dotted then ['/', '.'] else []) ++
      UrlPath.text url.path ++
      (url.query.elim [] ('?' :: ·)) ++ (url.fragment.elim [] ('#' :: ·))

/-! ### Reading -/

/-- The scheme in front of the first colon. -/
def scheme? (text : List Char) : Option (List Char × List Char) := do
  let (scheme, rest) ← splitOnce ':' text
  let first ← scheme.head?
  guard first.isAlpha
  guard (scheme.all fun character =>
    character.isAlphanum || character = '+' || character = '-' || character = '.')
  return (lowerAscii scheme, rest)

def endsAuthority (special : Bool) (character : Char) : Bool :=
  character = '/' || (special && character = '\\')

/-- The encoded segments of a text without a slash in front. -/
def segmentsOf (special : Bool) (text : List Char) : List (List Char) :=
  (splitAt '/' (text.map fun character => if endsAuthority special character then '/' else character)).map
    (encode inPath)

/-- The path after an authority; a special URL has at least one segment. -/
def pathSegments (special : Bool) (text : List Char) : List (List Char) :=
  match text with
  | [] => if special then [[]] else []
  | first :: rest =>
      extend false [] (segmentsOf special (if endsAuthority special first then rest else text))

/-- A port up to the path; the usual port of a scheme is left out. -/
def port? (scheme text : List Char) : Option (Option Nat × List Char) := do
  let digits := text.takeWhile Char.isDigit
  let path := text.drop digits.length
  guard (path.head?.all fun character => character = '/' || character = '\\')
  if digits.isEmpty then return (none, path)
  let number ← decimal? digits
  guard (number < 65536)
  let usual := specialSchemes.any fun (name, port) => name.toList = scheme && port = some number
  return (if usual then none else some number, path)

/-- The parts of a text before and after its last occurrence of `mark`. -/
def splitLast (mark : Char) (text : List Char) : Option (List Char × List Char) :=
  (splitOnce mark text.reverse).map fun (after, before) => (before.reverse, after.reverse)

/-- The host and what follows it; a colon between brackets belongs to the host. -/
def splitHost (special : Bool) : Bool → List Char → List Char × List Char
  | _, [] => ([], [])
  | bracketed, character :: rest =>
      if endsAuthority special character || (character = ':' && !bracketed) then ([], character :: rest)
      else
        let within := if character = '[' then true else if character = ']' then false else bracketed
        let (host, after) := splitHost special within rest
        (character :: host, after)

/-- Reads an authority and leaves the path behind it; `lastPart` tells that neither a query nor a
fragment follows the text. -/
def authority? (scheme text : List Char) (lastPart : Bool) : Option (UrlAuthority × List Char) := do
  let special := isSpecialScheme scheme
  let front := text.takeWhile fun character => !endsAuthority special character
  let (credentials, location) := match splitLast '@' front with
    | some (before, after) => (some before, after ++ text.drop front.length)
    | none => (none, text)
  guard !(credentials = some [] && location.head?.elim (!lastPart) (endsAuthority special))
  let named := credentials.getD []
  let (username, password) := (splitOnce ':' named).getD (named, [])
  let (hostText, rest) := splitHost special false location
  guard !(hostText.isEmpty && (special || username ≠ [] || password ≠ [] || rest.head? = some ':'))
  let host ← if hostText.isEmpty then some [] else host? special hostText
  let (port, path) ← match rest with
    | ':' :: digits => port? scheme digits
    | _ => some (none, rest)
  return (⟨encode inUserinfo username, encode inUserinfo password, host, port⟩, path)

/-- Splits off what follows the first occurrence of `mark`. -/
def cut (mark : Char) (text : List Char) : List Char × Option (List Char) :=
  match splitOnce mark text with
  | some (before, after) => (before, some after)
  | none => (text, none)

/-- A place among files; all of them are on this host if the path opens with a drive. -/
def place (host : List Char) (segments : List (List Char)) : UrlAuthority × UrlPath :=
  let held := segments.head?.any isDrive
  let path := opened true segments
  (⟨[], [], if held then [] else host, none⟩, .segments path)

/-- Reads what follows the scheme of files. A drive in the place of the host belongs to the path. -/
def filePlace? (text : List Char) : Option (UrlAuthority × UrlPath) :=
  let row (rest : List Char) : List (List Char) := resolve true [] (segmentsOf true rest)
  match text.map fun character => if character = '\\' then '/' else character with
  | '/' :: '/' :: rest => do
      let name := rest.takeWhile (· ≠ '/')
      let after := rest.drop name.length
      if isDrive name then return place [] (row rest)
      if name.isEmpty then return place [] (row after)
      let host ← host? true name
      if host = "localhost".toList then return place [] (row after)
      return place host (row (after.drop 1))
  | '/' :: rest => some (place [] (row rest))
  | rest => some (place [] (row rest))

/-- Reads the part between the scheme and the query; `lastPart` tells that nothing follows it. -/
def hierarchy? (scheme text : List Char) (lastPart : Bool) : Option (Option UrlAuthority × UrlPath) :=
  let special := isSpecialScheme scheme
  let after (rest : List Char) : Option (Option UrlAuthority × UrlPath) := do
    let (authority, path) ← authority? scheme rest lastPart
    return (some authority, .segments (pathSegments special path))
  if scheme = "file".toList then
    (filePlace? text).map fun (authority, path) => (some authority, path)
  else if special then after (text.dropWhile (endsAuthority true))
  else
    match text with
    | '/' :: '/' :: rest => after rest
    | '/' :: _ => some (none, .segments (pathSegments false text))
    | _ => some (none, .unstructured (encode isControl text))

/-- Whether a path would read as an authority if it stood behind the scheme. -/
def UrlPath.opensTwice : UrlPath → Bool
  | .segments ([] :: _ :: _) => true
  | _ => false

def isDropped (character : Char) : Bool :=
  character = '\t' || character = '\n' || character = '\r'

def read? (text : String) : Option Url := do
  let isEdge (character : Char) : Bool := character.toNat ≤ 32
  let cleaned := (dropEndWhile isEdge (text.toList.dropWhile isEdge)).filter (!isDropped ·)
  let (scheme, rest) ← scheme? cleaned
  let (beforeFragment, fragment) := cut '#' rest
  let (hierarchical, query) := cut '?' beforeFragment
  let lastPart := query.isNone && fragment.isNone
  let (authority, path) ← hierarchy? scheme hierarchical lastPart
  let dotted := authority.isNone && UrlPath.opensTwice path
  let querySet := if isSpecialScheme scheme then inSpecialQuery else inQuery
  return ⟨scheme, authority, dotted, path, query.map (encode querySet), fragment.map (encode inFragment)⟩

/-! ### Objects below a base -/

/-- Takes away an empty last segment, unless it is the only one. -/
def dropEmptyLast (segments : List (List Char)) : List (List Char) :=
  if segments.length > 1 && segments.getLast? = some [] then segments.dropLast else segments

/-- The scheme of files, whose paths may open with a drive. -/
def isFile (url : Url) : Bool := url.scheme = "file".toList

/-- The row of a base with one segment more. Dots alone are left out, and tabs and line ends inside are
dropped. -/
def pushSegment (base : Url) (segments : List (List Char)) (name : List Char) : List (List Char) :=
  if name = ['.'] || name = ['.', '.'] then segments
  else
    let front := if segments = [[]] then [] else segments
    let kept := name.filter (!isDropped ·)
    extend base.isFile front [encode (if base.isSpecial then inSpecialSegment else inSegment) kept]

/-- The URL of an object: one segment more than the base; a URL without segments has no objects. -/
def object? (base : Url) (name : String) : Option Url :=
  match base.path with
  | .unstructured _ => none
  | .segments segments =>
      some { base with path := .segments (pushSegment base (dropEmptyLast segments) name.toList) }

/-! ### Requests -/

def isText (text : List Char) : Bool := (Text.ofBytes? (decode text)).isSome

/-- The authority without the name and the password, if those can be read as text. -/
def UrlAuthority.withoutCredentials (authority : UrlAuthority) : UrlAuthority :=
  if isText authority.username && (!authority.username.isEmpty || isText authority.password) then
    { authority with username := [], password := [] }
  else authority

def withoutCredentials (url : Url) : Url :=
  { url with authority := url.authority.map UrlAuthority.withoutCredentials }

/-- The longest URL that a request can be sent to. -/
def requestLimit : Nat := 65534

/-- Whether a request can be sent to a URL. -/
def isRequestable (url : Url) : Bool :=
  ["http", "https"].any (·.toList = url.scheme) && url.text.utf8ByteSize ≤ requestLimit &&
    url.authority.any fun authority =>
      authority.host.all fun character => !"\"\x60\x7b\x7d".toList.contains character

/-- What a request names: the path and the query, but not the fragment. -/
def target (url : Url) : String :=
  String.ofList (UrlPath.text url.path ++ url.query.elim [] ('?' :: ·))

end Url

end TieredCache
