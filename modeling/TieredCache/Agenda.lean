/-!
Running a machine whose steps leave further work behind. The work that a step leaves is done before
all other work, as calls inside a call are.
-/

namespace TieredCache.Agenda

/-- Does the work on the list, first things first, for at most so many steps; gives back the number
of steps left over and the state. -/
def run {State Work : Type} (perform : State → Work → State × List Work) :
    Nat → State → List Work → Nat × State
  | steps, state, [] => (steps, state)
  | 0, state, _ :: _ => (0, state)
  | steps + 1, state, work :: rest =>
      let (next, more) := perform state work
      run perform steps next (more ++ rest)

theorem run_nil {State Work : Type} (perform : State → Work → State × List Work) (steps : Nat)
    (state : State) : run perform steps state [] = (steps, state) := by
  cases steps <;> rfl

theorem run_cons {State Work : Type} (perform : State → Work → State × List Work) (steps : Nat)
    (state : State) (work : Work) (rest : List Work) :
    run perform (steps + 1) state (work :: rest) =
      run perform steps (perform state work).1 ((perform state work).2 ++ rest) := rfl

/-- What every step keeps is kept by a run. -/
theorem run_keeps {State Work : Type} {perform : State → Work → State × List Work}
    {keeps : State → List Work → Prop}
    (kept : ∀ state work rest, keeps state (work :: rest) →
      keeps (perform state work).1 ((perform state work).2 ++ rest))
    (steps : Nat) (state : State) (work : List Work) (start : keeps state work) :
    ∃ left, keeps (run perform steps state work).2 left := by
  induction steps generalizing state work with
  | zero =>
      cases work with
      | nil => exact ⟨_, start⟩
      | cons first rest => exact ⟨_, start⟩
  | succ steps ih =>
      cases work with
      | nil => exact ⟨_, start⟩
      | cons first rest => exact ih _ _ (kept state first rest start)

end TieredCache.Agenda
