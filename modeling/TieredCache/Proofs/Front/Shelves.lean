import Mathlib.Logic.Function.Basic
import TieredCache.Proofs.Front.Writes

/-!
What the layers hold after they were used. A layer may lose entries at every use; one that is known
to keep them holds exactly what was put into it, any other at most that.
-/

namespace TieredCache.Depot

variable {depot : Depot} {layer other : Nat} {key : String}

/-! ### Entries that one layer shares with another -/

def Within (left right : String → Option Bytes) : Prop :=
  ∀ key content, left key = some content → right key = some content

theorem Within.trans {left middle right : String → Option Bytes} (inner : Within left middle)
    (outer : Within middle right) : Within left right :=
  fun key content held => outer key content (inner key content held)

theorem Within.update {left right : String → Option Bytes} (within : Within left right)
    (key : String) (entry : Option Bytes) :
    Within (Function.update left key entry) (Function.update right key entry) := by
  intro name content held
  by_cases same : name = key
  · subst same
    rwa [Function.update_self] at held ⊢
  · rw [Function.update_of_ne same] at held ⊢
    exact within name content held

/-- Putting an entry back that is held on the right anyway. -/
theorem Within.restore {left right : String → Option Bytes} (within : Within left right)
    {content : Bytes} (held : right key = some content) :
    Within (Function.update left key (some content)) right := by
  have restored := within.update key (some content)
  rwa [← held, Function.update_eq_self, held] at restored

/-! ### Losses -/

def Keeps (depot : Depot) (layer : Nat) : Prop :=
  ∀ loss ∈ depot.losses, ∀ key, loss layer key = false

theorem keeps_of_nil (kept : depot.losses = []) (layer : Nat) : depot.Keeps layer := by
  intro loss member
  rw [kept] at member
  cases member

theorem Keeps.lose (keeps : depot.Keeps layer) : depot.lose.Keeps layer := by
  intro loss member
  unfold Depot.lose at member
  split at member
  · exact keeps loss member
  · rename_i first rest losses
    exact keeps loss (losses ▸ List.mem_cons_of_mem first member)

theorem Keeps.shelves_lose (keeps : depot.Keeps layer) :
    depot.lose.shelves layer = depot.shelves layer := by
  unfold Depot.lose
  split
  · rfl
  · rename_i first rest losses
    funext key
    simp only [keeps first (losses ▸ List.mem_cons_self), Bool.false_eq_true, if_false]

theorem within_lose (depot : Depot) (layer : Nat) :
    Within (depot.lose.shelves layer) (depot.shelves layer) := by
  intro key content held
  unfold Depot.lose at held
  split at held
  · exact held
  · simp only at held
    split at held
    · cases held
    · exact held

/-! ### Filling a shelf -/

theorem shelves_fill_self (depot : Depot) (layer : Nat) (key : String) (entry : Option Bytes) :
    (depot.fill layer key entry).shelves layer = Function.update (depot.shelves layer) key entry := by
  funext name
  simp only [fill, true_and, Function.update_apply]

theorem shelves_fill_of_ne (depot : Depot) (apart : other ≠ layer) (key : String)
    (entry : Option Bytes) : (depot.fill layer key entry).shelves other = depot.shelves other := by
  funext name
  simp only [fill, apart, false_and, if_false]

@[simp] theorem session_write (depot : Depot) (layer : Nat) (key : String)
    (entry : Option Bytes) : (depot.write layer key entry).session = depot.session := by
  cases entry with
  | none => rfl
  | some content => exact session_lose depot

@[simp] theorem slow_write (depot : Depot) (layer : Nat) (key : String) (entry : Option Bytes) :
    (depot.write layer key entry).slow = depot.slow := by
  cases entry with
  | none => rfl
  | some content => exact slow_lose depot

@[simp] theorem waiting_write (depot : Depot) (layer : Nat) (key : String) (entry : Option Bytes) :
    (depot.write layer key entry).waiting = depot.waiting := by
  cases entry with
  | none => rfl
  | some content => exact waiting_lose depot

theorem losses_write (kept : depot.losses = []) (layer : Nat) (key : String)
    (entry : Option Bytes) : (depot.write layer key entry).losses = [] := by
  cases entry with
  | none => exact kept
  | some content =>
      rw [write, lose_of_nil kept]
      exact kept

/-- A shelf after a write, when its layer loses nothing. -/
theorem shelves_write (keeps : depot.Keeps other) (layer : Nat) (key name : String)
    (entry : Option Bytes) :
    (depot.write layer key entry).shelves other name =
      if other = layer ∧ name = key then entry.or (depot.shelves other name)
      else depot.shelves other name := by
  cases entry with
  | none => simp only [write, Option.none_or, ite_self]
  | some content =>
      rw [write, Option.some_or, ← keeps.shelves_lose]
      rfl

end TieredCache.Depot
