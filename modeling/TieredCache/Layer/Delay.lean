import TieredCache.Layer.Lookup

/-!
A layer that keeps back the answers for chosen keys until they are released. The lookup itself is
made at once, so a released answer may be old.
-/

namespace TieredCache

/-- An answer that is kept back. -/
structure Postponed (ρ : Type) where
  key : String
  lookup : Lookup
  receiver : ρ

/-- A lookup in progress whose answer is to be kept back. -/
structure Capture where
  number : Nat
  answer : Option Lookup
  deriving DecidableEq

/-- In which order a table of keys is emptied. That may be another one each time. -/
structure KeyOrder where
  arrange : Nat → List String → List String
  perm : ∀ time keys, (arrange time keys).Perm keys

def KeyOrder.arrival : KeyOrder := ⟨fun _ keys => keys, fun _ keys => .refl keys⟩

structure Delay (ρ : Type) where
  delayed : List String := []
  pending : List (Postponed ρ) := []
  captures : List Capture := []
  fresh : Nat := 0
  /-- How many keys each batch had. -/
  batchSizes : List Nat := []
  order : KeyOrder := .arrival

namespace Delay

variable {ρ : Type}

def delays (delay : Delay ρ) (key : String) : Bool := delay.delayed.contains key

def delayKey (delay : Delay ρ) (key : String) : Delay ρ :=
  if delay.delays key then delay else { delay with delayed := key :: delay.delayed }

def beginCapture (delay : Delay ρ) : Delay ρ × Nat :=
  ({ delay with captures := ⟨delay.fresh, none⟩ :: delay.captures, fresh := delay.fresh + 1 },
    delay.fresh)

/-- Notes the answer of a lookup in progress; a later answer is lost. -/
def capture (delay : Delay ρ) (number : Nat) (lookup : Lookup) : Delay ρ :=
  { delay with
    captures := delay.captures.map fun held =>
      if held.number = number then { held with answer := some lookup } else held }

/-- Keeps back what was captured; a lookup without an answer counts as a miss. -/
def hold (delay : Delay ρ) (number : Nat) (key : String) (receiver : ρ) : Delay ρ :=
  let answer := ((delay.captures.find? (·.number = number)).bind (·.answer)).getD .notFound
  { delay with
    captures := delay.captures.filter (·.number ≠ number)
    pending := delay.pending ++ [⟨key, answer, receiver⟩] }

/-- Delays a key no longer; its answers are given back in the order of the lookups. -/
def release (delay : Delay ρ) (key : String) : Delay ρ × List (Postponed ρ) :=
  ({ delay with
      delayed := delay.delayed.filter (· ≠ key)
      pending := delay.pending.filter (·.key ≠ key) },
    delay.pending.filter (·.key = key))

/-- All that is kept back, key by key; what is kept for one key stands in the order of the lookups. -/
def grouped (delay : Delay ρ) : List (Postponed ρ) :=
  (delay.order.arrange delay.fresh (delay.pending.map (·.key)).eraseDups).flatMap fun key =>
    delay.pending.filter (·.key = key)

/-- Delays nothing any more; all receivers are given back. -/
def close (delay : Delay ρ) : Delay ρ × List (Postponed ρ) :=
  ({ delay with delayed := [], pending := [] }, delay.grouped)

def noteBatch (delay : Delay ρ) (size : Nat) : Delay ρ :=
  { delay with batchSizes := delay.batchSizes ++ [size] }

end Delay

end TieredCache
