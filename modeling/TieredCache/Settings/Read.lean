import TieredCache.Settings.Basic
import TieredCache.Time.SpanPhrase
import TieredCache.Yaml.Node

/-!
Reading the settings from a document. Members that are not known are passed over, members that are
known may occur once, and sections that are empty leave everything at its default. A tag matters where a
value may be missing, for a format, and for numbers and flags in literal text.
-/

namespace TieredCache

inductive SettingsError where
  | empty
  | notText
  | malformed
  deriving DecidableEq

def SettingsError.message : SettingsError → String
  | .empty => "config file empty"
  | .notText => "failed reading config file"
  | .malformed => "failed to parse config YAML"

namespace SettingsReader
open Yaml (Node Document ScalarStyle)

/-- Reads a value of some type from a node, or refuses the node. -/
abbrev NodeReader (α : Type) := Node → Option α

/-- The text of any scalar. -/
def string : NodeReader String
  | .scalar text _ _ => some text
  | _ => none

/-- A tag of the usual kinds. -/
def usualTag (kind : String) : Bytes := Text.bytes ("tag:yaml.org,2002:" ++ kind)

/-- Whether a plain text is a name of the missing value. -/
def isNull (text : String) : Bool := ["~", "null", "Null", "NULL"].contains text

/-- A value that may be missing: it is if there is no text, or a name of the missing value. With the tag of
that value there has to be a name, and with any other tag there is a value. -/
def optional {α : Type} (reader : NodeReader α) : NodeReader (Option α) := fun node =>
  match node with
  | .scalar text .plain none =>
      if text.isEmpty || isNull text then some none else (reader node).map some
  | .scalar text .plain (some tag) =>
      if tag ≠ usualTag "null" then (reader node).map some
      else if isNull text then some none
      else none
  | _ => (reader node).map some

/-- The text of a value that is not just text: plain, or literal with the tag of its kind. -/
def valueText (kind : String) : NodeReader String
  | .scalar text .plain _ => some text
  | .scalar text .literal tag => if tag = some (usualTag kind) then some text else none
  | _ => none

def flag : NodeReader Bool := fun node => do
  let text ← valueText "bool" node
  if ["true", "True", "TRUE"].contains text then some true
  else if ["false", "False", "FALSE"].contains text then some false
  else none

def digitsInBase? (base : Nat) (digits : List Char) : Option Nat :=
  if digits.isEmpty then none
  else digits.foldlM (fun value digit =>
    (Yaml.hexDigit? digit).bind fun weight =>
      if weight < base then some (base * value + weight) else none) 0

/-- A number of 64 bits, in base 16, 8 or 2 after a mark; zeros in front make it a text. -/
def number : NodeReader Nat := fun node => do
  let text ← valueText "int" node
  let unsigned := match text.toList with
    | '+' :: rest => rest
    | characters => characters
  let value := match unsigned with
    | '0' :: 'x' :: digits => digitsInBase? 16 digits
    | '0' :: 'o' :: digits => digitsInBase? 8 digits
    | '0' :: 'b' :: digits => digitsInBase? 2 digits
    | '0' :: _ :: _ => none
    | digits => digitsInBase? 10 digits
  value.filter (· < 0x10000000000000000)

def duration : NodeReader Span := fun node => (string node).bind SpanPhrase.read?

def url : NodeReader Url := fun node => (string node).bind Url.read?

def level : NodeReader LogLevel := fun node => (string node).bind LogLevel.ofName?

/-- The name that a tag gives after a single mark. -/
def tagName? : Bytes → Option String
  | 33 :: name => if name.isEmpty then none else Text.ofBytes? name
  | _ => none

/-- A format is given by its name, or by a tag of that name on a missing value. -/
def format : NodeReader LogFormat
  | .scalar text style tag =>
      match tag.bind tagName? with
      | some name =>
          if style = .plain && (text.isEmpty || isNull text) then LogFormat.ofName? name else none
      | none => LogFormat.ofName? text
  | _ => none

section Sections

variable (document : Document)

/-- The entries of a map, or of a node without any text. -/
def entries : NodeReader (List (Node × Node))
  | .map entries => some (entries.map fun (key, value) => (document.resolve key, document.resolve value))
  | .scalar text .plain _ => if text.isEmpty then some [] else none
  | _ => none

/-- A member of a section: its name and how its value changes the section. -/
structure Member (α : Type) where
  name : String
  apply : α → NodeReader α

def member {α value : Type} (name : String) (reader : NodeReader value) (fill : α → value → α) :
    Member α :=
  ⟨name, fun record node => (reader node).map (fill record)⟩

/-- Fills a record from the entries of a section; a known name may occur once. -/
def fill {α : Type} (members : List (Member α)) :
    List String → α → List (Node × Node) → Option α
  | _, record, [] => some record
  | seen, record, (key, value) :: rest => do
      let name ← string key
      match members.find? (·.name = name) with
      | none => fill members seen record rest
      | some known => do
          guard !(seen.contains name)
          fill members (name :: seen) (← known.apply record value) rest

def filled? {α : Type} (members : List (Member α)) (start : α) : NodeReader α := fun node => do
  fill members [] start (← entries document node)

/-- Puts an entry into a list sorted by name; an entry of that name gives way. -/
def insertTag (name value : String) : List (String × String) → List (String × String)
  | [] => [(name, value)]
  | (first, held) :: rest =>
      if name = first then (name, value) :: rest
      else if name < first then (name, value) :: (first, held) :: rest
      else (first, held) :: insertTag name value rest

def tags : NodeReader (List (String × String)) := fun node => do
  (← entries document node).foldlM (fun held (name, value) => do
    return insertTag (← string name) (← string value) held) []

def logging : NodeReader LoggingSettings :=
  filled? document [
    member "level" level fun record value => { record with level := value },
    member "format" format fun record value => { record with format := value },
    member "enable_backtraces" flag fun record value => { record with backtraces := value }] {}

def metrics : NodeReader MetricSettings :=
  filled? document [
    member "statsd" (optional string) fun record value => { record with statsd := value },
    member "prefix" string fun record value => { record with stem := value },
    member "hostname_tag" (optional string) fun record value => { record with hostnameTag := value },
    member "custom_tags" (tags document) fun record value => { record with customTags := value }] {}

def memory : NodeReader MemorySettings :=
  filled? document [member "capacity" number fun _ value => ⟨value⟩] {}

def disk : NodeReader DiskSettings :=
  filled? document [
    member "target_size" number fun record value => { record with targetSize := value },
    member "target_inode_count" (optional number) fun record value =>
      { record with targetInodes := value },
    member "clean_interval" duration fun record value => { record with cleanInterval := value },
    member "clean_lock_timeout" duration fun record value => { record with lockTimeout := value }] {}

def policy : NodeReader Policy :=
  filled? document [
    member "fetch_failed_ttl" duration fun record value =>
      { record with fetchFailedLifetime := value },
    member "not_cacheable_ttl" duration fun record value =>
      { record with notCacheableLifetime := value },
    member "dropped_ttl" duration fun record value => { record with droppedLifetime := value },
    member "implicit_ttl" duration fun record value => { record with implicitLifetime := value },
    member "max_cacheable_size" (optional number) fun record value =>
      { record with maximumSize := value },
    member "force_caching" flag fun record value => { record with force := value },
    member "disable_html_caching_on_https" flag fun record value =>
      { record with refuseHtmlOverHttps := value }] {}

def firstTierLimit : NodeReader (Option Nat) :=
  filled? document [member "tier1_max_size" (optional number) fun _ value => value] none

def admission : NodeReader AdmissionSettings :=
  filled? document [
    member "max_parallel_lookups" number fun record value => { record with maximumParallel := value },
    member "max_queue_size" number fun record value => { record with maximumQueue := value }] {}

/-- The remote section as far as it was read; it needs a base. -/
structure RemoteParts where
  base : Option Url := none
  connectTimeout : Span := .ofMilliseconds 500
  storeTimeout : Span := .ofSeconds 60

def remote : NodeReader RemoteSettings := fun node => do
  let parts ← filled? document [
    member "base_url" url fun record value => { record with base := some value },
    member "connect_timeout" duration fun record value => { record with connectTimeout := value },
    member "store_timeout" duration fun record value => { record with storeTimeout := value }]
    ({} : RemoteParts) node
  return ⟨← parts.base, parts.connectTimeout, parts.storeTimeout⟩

def ofNode? : NodeReader Settings :=
  filled? document [
    member "cache_dir" (optional string) fun record value => { record with directory := value },
    member "logging" (logging document) fun record value => { record with logging := value },
    member "metrics" (metrics document) fun record value => { record with metrics := value },
    member "memory" (memory document) fun record value => { record with memory := value },
    member "file_cache" (disk document) fun record value => { record with disk := value },
    member "http_cache" (policy document) fun record value => { record with policy := value },
    member "write_through" (firstTierLimit document) fun record value => { record with firstTierLimit := value },
    member "batcher" (admission document) fun record value => { record with admission := value },
    member "remote" (optional (remote document)) fun record value => { record with remote := value }] {}

end Sections

end SettingsReader

namespace Settings

/-- Reads settings from the octets of a document. -/
def read (document : Bytes) : Except SettingsError Settings :=
  match Text.ofBytes? document with
  | none => .error .notText
  | some text =>
      if (Text.trim text.toList).isEmpty then .error .empty
      else
        match Yaml.document? text with
        | none => .error .malformed
        | some none => .ok {}
        | some (some document) =>
            match SettingsReader.ofNode? document (document.resolve document.root) with
            | some settings => .ok settings
            | none => .error .malformed

end Settings

end TieredCache
