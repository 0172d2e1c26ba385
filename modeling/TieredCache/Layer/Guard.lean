import TieredCache.Layer.Lookup

/-!
A guard lets one caller at a time into the layer behind it. While a lookup is inside, its answer is
kept back; it is handed to its receiver when the guard is free again. An answer that comes later
goes to the receiver at once.
-/

namespace TieredCache

/-- A lookup that went through the guard and was not yet handed its answer. -/
structure Ticket (ρ : Type) where
  number : Nat
  receiver : ρ
  /-- Whether the lookup is still inside. -/
  inside : Bool
  /-- The answer that came while the lookup was inside. -/
  kept : Option Lookup

structure Guard (ρ : Type) where
  /-- Whether a caller is inside. -/
  held : Bool := false
  tickets : List (Ticket ρ) := []
  fresh : Nat := 0

namespace Guard

variable {ρ : Type}

def take (guarded : Guard ρ) : Guard ρ := { guarded with held := true }

def free (guarded : Guard ρ) : Guard ρ := { guarded with held := false }

/-- A ticket for a lookup that goes inside. -/
def issue (guarded : Guard ρ) (receiver : ρ) : Guard ρ × Nat :=
  ({ guarded with
      tickets := ⟨guarded.fresh, receiver, true, none⟩ :: guarded.tickets
      fresh := guarded.fresh + 1 },
    guarded.fresh)

def find? (guarded : Guard ρ) (number : Nat) : Option (Ticket ρ) :=
  guarded.tickets.find? (·.number = number)

def without (guarded : Guard ρ) (number : Nat) : Guard ρ :=
  { guarded with tickets := guarded.tickets.filter (·.number ≠ number) }

def update (guarded : Guard ρ) (ticket : Ticket ρ) : Guard ρ :=
  { guarded with tickets := ticket :: (guarded.without ticket.number).tickets }

/-- An answer arrives: it is kept while the lookup is inside, and else handed out. -/
def answer (guarded : Guard ρ) (number : Nat) (lookup : Lookup) : Guard ρ × Option ρ :=
  match guarded.find? number with
  | none => (guarded, none)
  | some ticket =>
      if ticket.inside then (guarded.update { ticket with kept := some lookup }, none)
      else (guarded.without number, some ticket.receiver)

/-- A lookup is no longer inside: an answer that was kept back is handed out. -/
def leave (guarded : Guard ρ) (number : Nat) : Guard ρ × Option (ρ × Lookup) :=
  match guarded.find? number with
  | none => (guarded, none)
  | some ticket =>
      match ticket.kept with
      | some lookup => (guarded.without number, some (ticket.receiver, lookup))
      | none => (guarded.update { ticket with inside := false }, none)

end Guard

end TieredCache
