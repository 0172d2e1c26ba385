import TieredCache.Bytes

/-! Lookups of keys: one that is still to be answered, the answer of a layer, and how often layers are
used. -/

namespace TieredCache

inductive KeyState where
  | available | inTransit | notFound
  deriving DecidableEq

def KeyState.name : KeyState → String
  | .available => "available"
  | .inTransit => "in_transit"
  | .notFound => "not_found"

structure Lookup where
  state : KeyState
  value : Option Bytes
  deriving DecidableEq

namespace Lookup

def found (value : Bytes) : Lookup := ⟨.available, some value⟩

def notFound : Lookup := ⟨.notFound, none⟩

def isFound (lookup : Lookup) : Bool :=
  lookup.state = .available && lookup.value.isSome

/-- The value, if the key is available. -/
def value? (lookup : Lookup) : Option Bytes :=
  if lookup.state = .available then lookup.value else none

def ofOption : Option Bytes → Lookup
  | some value => found value
  | none => notFound

end Lookup

/-- A lookup that is still to be answered: the key, and who receives the answer. -/
structure Request (ρ : Type) where
  key : String
  receiver : ρ

/-- How often a layer was used. -/
structure Uses where
  gets : Nat := 0
  /-- Lookups of keys that were available. -/
  hits : Nat := 0
  puts : Nat := 0
  deletes : Nat := 0
  deriving DecidableEq

end TieredCache
