import Mathlib.Data.List.Perm.Basic

/-!
Calls that are under way side by side: a row of lists, each with what one call has left to do. They
are gone on with in any order, one piece of work at a time. Main statement: `returns`, that they all
come to an end if every piece of work leaves less to do.
-/

namespace TieredCache.Calls

variable {State Account Piece : Type}

/-- A call that goes on leaves the other work as it is, in whatever order that is looked at. -/
theorem flatten_perm {calls : List (List Piece)} {position : Nat} {piece : Piece}
    {rest : List Piece} (call : calls[position]? = some (piece :: rest)) :
    ∃ others, calls.flatten.Perm (piece :: others) ∧
      ∀ more, (calls.set position (more ++ rest)).flatten.Perm (more ++ others) := by
  obtain ⟨inside, own⟩ := List.getElem?_eq_some_iff.mp call
  refine ⟨rest ++ (calls.eraseIdx position).flatten, ?_, fun more => ?_⟩
  · have first := (List.set_perm_cons_eraseIdx inside (piece :: rest)).flatten
    rwa [← own, List.set_getElem_self inside, own] at first
  · rw [← List.append_assoc]
    exact (List.set_perm_cons_eraseIdx inside (more ++ rest)).flatten

theorem exists_of_flatten_ne_nil {calls : List (List Piece)} (left : calls.flatten ≠ []) :
    ∃ (position : Nat) (piece : Piece) (rest : List Piece),
      calls[position]? = some (piece :: rest) := by
  obtain ⟨call, member, unfinished⟩ : ∃ call ∈ calls, call ≠ [] := by
    simpa [List.flatten_eq_nil_iff] using left
  obtain ⟨position, present⟩ := List.getElem?_of_mem member
  obtain ⟨piece, rest, rfl⟩ := List.exists_cons_of_ne_nil unfinished
  exact ⟨position, piece, rest, present⟩

/-- Whatever calls are under way, they can all be gone on with until they have returned. An account of
a state is what is known of it besides; the burden is what bounds the work that is left. -/
theorem returns {calls : State → List (List Piece)} {work : State → Nat → State}
    {kept : State → Account → Prop} {burden : State → Account → Nat}
    (worked : ∀ {state account position piece rest}, kept state account →
      (calls state)[position]? = some (piece :: rest) →
        ∃ later, kept (work state position) later ∧
          burden (work state position) later < burden state account)
    {state : State} {account : Account} (holds : kept state account) :
    ∃ positions : List Nat, (calls (positions.foldl work state)).flatten = [] := by
  generalize size : burden state account = bound
  induction bound using Nat.strongRecOn generalizing state account with
  | ind bound ih =>
      by_cases rest : (calls state).flatten = []
      · exact ⟨[], rest⟩
      · obtain ⟨position, piece, others, call⟩ := exists_of_flatten_ne_nil rest
        obtain ⟨later, after, less⟩ := worked holds call
        obtain ⟨positions, returned⟩ := ih _ (size ▸ less) after rfl
        exact ⟨position :: positions, returned⟩

end TieredCache.Calls
