import TieredCache.Front.Outcome
import TieredCache.Json.Text
import TieredCache.Signal
import TieredCache.Text.Quoted
import TieredCache.Time.Stamp

/-! What the command line prints: what was found for a key, and the records of the log. -/

namespace TieredCache.Command

/-- One piece of output, in the order it is written. -/
inductive Output where
  | line (text : String)
  | record (record : LogRecord)
  deriving DecidableEq

def flagText (value : Bool) : String := if value then "true" else "false"

def verdict (outcome : Outcome) : String :=
  match outcome with
  | .found _ => "found"
  | .missed none _ => "not found"
  | .missed (some kind) _ => "recent failure (" ++ kind.name ++ ")"

def freshnessLine (freshness : Freshness) : String :=
  "  (date " ++ toString freshness.date.value ++ " ms, ttl " ++ toString freshness.lifetime.value ++
    " ms, explicit: " ++ flagText freshness.explicit ++ ")"

/-- A response under a label: its status, the size of its body, its fields and its freshness. -/
def responseLines (label : String) (response : Stored) : List String :=
  let head := response.head
  (label ++ ": HTTP " ++ toString head.status.toNat ++ ", " ++ toString response.body.length ++
    " body bytes") ::
  (head.fields.map fun field => "  " ++ field.name ++ ": " ++ field.value) ++
  head.freshness.toList.map freshnessLine

/-- What was found for a key. -/
def inspection (key : String) (outcome : Outcome) : List String :=
  (key ++ ": " ++ verdict outcome) ::
    outcome.response?.toList.flatMap (responseLines "value") ++
    outcome.stale?.toList.flatMap (responseLines "stale")

/-! ### Log lines -/

def valueText : LogValue → String
  | .number value => toString value
  | .flag value => flagText value
  | .shown text => text
  | .quoted text => Text.quoted text

def levelText (level : LogLevel) : String := level.name.map Char.toUpper

/-- A character of a message; controls that a terminal acts on are written as escapes. -/
def messageCharacter (character : Char) : List Char :=
  let code := character.toNat
  let digits := Nat.toDigits 16 code
  if code = 7 || code = 8 || code = 12 then '\\' :: 'x' :: '0' :: digits
  else if code = 27 || code = 127 then '\\' :: 'x' :: digits
  else if 0x80 ≤ code && code ≤ 0x9F then ['\\', 'u', '\x7b'] ++ digits ++ ['\x7d']
  else [character]

def messageText (message : String) : String :=
  String.ofList (message.toList.flatMap messageCharacter)

/-- A record as one line, without the time. -/
def recordLine (record : LogRecord) : String :=
  levelText record.level ++ " " ++ record.source.target ++ ": " ++ messageText record.message ++
    String.join (record.fields.map fun (name, value) => " " ++ name ++ "=" ++ valueText value)

/-- A value in the notation of an object. -/
def valueJson : LogValue → String
  | .number value => toString value
  | .flag value => flagText value
  | .shown text | .quoted text => Json.quotedText text

/-- A record as an object on one line. -/
def recordJson (moment : Millis) (record : LogRecord) : String :=
  let members := [
    ("timestamp", .shown (Stamp.text moment)),
    ("level", .shown (levelText record.level)),
    ("message", .shown record.message)] ++ record.fields ++
    [("target", .shown record.source.target)]
  "\x7b" ++ ",".intercalate (members.map fun (name, value) =>
    Json.quotedText name ++ ":" ++ valueJson value) ++ "\x7d"

/-- A record as a line of the log. -/
def stampedRecord (format : LogFormat) (moment : Millis) (record : LogRecord) : String :=
  match format with
  | .json => recordJson moment record
  | _ => Stamp.text moment ++ " " ++ recordLine record

/-- What is written for a piece of output. -/
def Output.text (format : LogFormat) (moment : Millis) : Output → String
  | .line text => text
  | .record entry => stampedRecord format moment entry

def rank : LogLevel → Nat
  | .off => 0
  | .error => 1
  | .warn => 2
  | .info => 3
  | .debug => 4
  | .trace => 5

/-- Whether a level lets a record through; errors are never held back. -/
def admits (level : LogLevel) (record : LogRecord) : Bool :=
  rank record.level ≤ max (rank level) 1

end TieredCache.Command
