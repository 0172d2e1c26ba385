import TieredCache.Json.Reader
import TieredCache.Response.Head

/-!
The stored text of a head. It is written without white space as an object; it is read from an
object, whose unknown members are passed over, or from a list of the members' values in order.
-/

namespace TieredCache.Head
open Json

def writeField (field : Field) : Bytes :=
  91 :: quoted field.name ++ 44 :: quoted field.value ++ [93]

def writeFreshness (freshness : Freshness) : Bytes :=
  123 :: quoted "date_ms" ++ 58 :: decimal freshness.date.value ++
    44 :: quoted "ttl_ms" ++ 58 :: decimal freshness.lifetime.value ++
    44 :: quoted "explicit" ++ 58 :: writeFlag freshness.explicit ++ [125]

def write (head : Head) : Bytes :=
  123 :: quoted "status_code" ++ 58 :: decimal head.status.toNat ++
    44 :: quoted "headers" ++ 58 :: 91 :: [44].intercalate (head.fields.map writeField) ++ 93 ::
    (match head.freshness with
      | none => []
      | some freshness => 44 :: quoted "caching" ++ 58 :: writeFreshness freshness) ++ [125]

def status? : ValueReader UInt16 := fun input =>
  (naturalBelow? 65536 input).map fun (number, rest) => (UInt16.ofNat number, rest)

def millis? : ValueReader Millis := fun input => do
  let (number, rest) ← integer? input
  return (← Millis.ofInt? number, rest)

def field? : ValueReader Field := fun input => do
  let (name, afterName) ← string? (← expect? 91 input)
  let (value, afterValue) ← string? (← expect? 44 afterName)
  return (⟨name, value⟩, ← expect? 93 afterValue)

/-- The fields after the first one, up to the closing bracket. -/
def moreFields? : Nat → ValueReader (List Field)
  | 0, _ => none
  | budget + 1, input =>
      match skipSpace input with
      | 93 :: rest => some ([], rest)
      | 44 :: rest => do
          let (field, afterField) ← field? rest
          let (fields, after) ← moreFields? budget afterField
          return (field :: fields, after)
      | _ => none

def fields? : ValueReader (List Field) := fun input => do
  let opened ← expect? 91 input
  match skipSpace opened with
  | 93 :: rest => return ([], rest)
  | _ =>
      let (field, afterField) ← field? opened
      let (fields, after) ← moreFields? opened.length afterField
      return (field :: fields, after)

structure FreshnessParts where
  date : Option Millis := none
  lifetime : Option Millis := none
  explicit : Option Bool := none

def freshnessMember (name : String) (seen : FreshnessParts) : ValueReader FreshnessParts :=
  match name with
  | "date_ms" => once seen.date millis? fun date => { seen with date := some date }
  | "ttl_ms" => once seen.lifetime millis? fun lifetime => { seen with lifetime := some lifetime }
  | "explicit" => once seen.explicit flag? fun explicit => { seen with explicit := some explicit }
  | _ => pass seen

def freshnessObject? : ValueReader Freshness := fun input =>
  match skipSpace input with
  | 123 :: rest => do
      let (seen, after) ← members? freshnessMember (rest.length + 1) true {} rest
      return (⟨← seen.date, ← seen.lifetime, ← seen.explicit⟩, after)
  | 91 :: rest => do
      let (date, afterDate) ← millis? rest
      let (lifetime, afterLifetime) ← millis? (← expect? 44 afterDate)
      let (explicit, afterExplicit) ← flag? (← expect? 44 afterLifetime)
      return (⟨date, lifetime, explicit⟩, ← expect? 93 afterExplicit)
  | _ => none

/-- A freshness, or nothing for a null. -/
def optionalFreshness? : ValueReader (Option Freshness) := fun input =>
  match skipSpace input with
  | 110 :: rest => (literal? [117, 108, 108] rest).map (none, ·)
  | _ => (freshnessObject? input).map fun (freshness, rest) => (some freshness, rest)

structure HeadParts where
  status : Option UInt16 := none
  fields : Option (List Field) := none
  freshness : Option (Option Freshness) := none

def headMember (name : String) (seen : HeadParts) : ValueReader HeadParts :=
  match name with
  | "status_code" => once seen.status status? fun status => { seen with status := some status }
  | "headers" => once seen.fields fields? fun fields => { seen with fields := some fields }
  | "caching" => once seen.freshness optionalFreshness? fun freshness =>
      { seen with freshness := some freshness }
  | _ => pass seen

def headValue? : ValueReader Head := fun input =>
  match skipSpace input with
  | 123 :: rest => do
      let (seen, after) ← members? headMember (rest.length + 1) true {} rest
      return (⟨← seen.status, ← seen.fields, seen.freshness.getD none⟩, after)
  | 91 :: rest => do
      let (status, afterStatus) ← status? rest
      let (fields, afterFields) ← fields? (← expect? 44 afterStatus)
      match skipSpace afterFields with
      | 93 :: after => return (⟨status, fields, none⟩, after)
      | 44 :: more => do
          let (freshness, afterFreshness) ← optionalFreshness? more
          return (⟨status, fields, freshness⟩, ← expect? 93 afterFreshness)
      | _ => none
  | _ => none

/-- Reads a head from a text that holds nothing else. -/
def read? (input : Bytes) : Option Head :=
  whole? headValue? input

end TieredCache.Head
