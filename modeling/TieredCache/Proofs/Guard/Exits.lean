import TieredCache.Proofs.Decorators.Roots

/-!
What a piece of work does to one guard, whatever the other layers are. A call that is let in leaves its
way out behind: it frees the guard, and after that it hands out the answers that were kept back.
-/

namespace TieredCache

variable {α : Type}

/-- Part of a call's way out of a guard. -/
inductive Exit where
  | free
  | handOut (tickets : List Nat)

def Exit.tickets : Exit → List Nat
  | free => []
  | handOut tickets => tickets

namespace Work

def exit? (index : Nat) : Work α → Option Exit
  | .freeGuard layer => if layer = index then some .free else none
  | .handOut layer tickets => if layer = index then some (.handOut tickets) else none
  | _ => none

def callee? : Work α → Option Nat
  | .ask index _ _ | .askMany index _ | .put index _ _ | .delete index _ | .shutDown index => some index
  | _ => none

theorem exit?_of_callee? {work : Work α} {index other : Nat} (called : work.callee? = some other) :
    work.exit? index = none := by
  cases work <;> first | rfl | cases called

end Work

def exitsOf (index : Nat) (works : List (Work α)) : List Exit := works.filterMap (Work.exit? index)

theorem exitsOf_eq_nil {index : Nat} {works : List (Work α)}
    (foreign : ∀ work ∈ works, work.exit? index = none) : exitsOf index works = [] :=
  List.filterMap_eq_nil_iff.mpr foreign

theorem exitsOf_append (index : Nat) (first second : List (Work α)) :
    exitsOf index (first ++ second) = exitsOf index first ++ exitsOf index second :=
  List.filterMap_append

theorem exitsOf_answerAll (index : Nat) (receivers : List (Receiver α)) (lookup : Lookup) :
    exitsOf index (Stack.answerAll receivers lookup) = [] :=
  exitsOf_eq_nil (List.forall_mem_map.mpr fun _ _ => rfl)

theorem exitsOf_askEach (index other : Nat) (requests : List (Request (Receiver α))) :
    exitsOf index (Stack.askEach other requests) = [] :=
  exitsOf_eq_nil (List.forall_mem_map.mpr fun _ _ => rfl)

inductive Guard.Effect (index : Nat) (guarded : Guard (Receiver α)) :
    Work α → Guard (Receiver α) → List Exit → Prop where
  | enter (key : String) (receiver : Receiver α) (free : guarded.held = false) :
      Effect index guarded (.ask index key receiver) (guarded.take.issue receiver).1
        [.free, .handOut [guarded.fresh]]
  | enterAll (requests : List (Request (Receiver α))) (free : guarded.held = false) :
      Effect index guarded (.askMany index requests) (Stack.issueAll index guarded.take requests).1
        [.free, .handOut (Stack.issueAll index guarded.take requests).2.2]
  | take {work : Work α} (called : work.callee? = some index) (free : guarded.held = false) :
      Effect index guarded work guarded.take [.free]
  | free : Effect index guarded (.freeGuard index) guarded.free []
  | leave (number : Nat) (rest : List Nat) :
      Effect index guarded (.handOut index (number :: rest)) (guarded.leave number).1 [.handOut rest]
  | done : Effect index guarded (.handOut index []) guarded []
  | answer (number : Nat) (lookup : Lookup) :
      Effect index guarded (.answer (.ticket index number) lookup) (guarded.answer number lookup).1 []
  | lose (number : Nat) :
      Effect index guarded (.lose (.ticket index number)) (guarded.without number) []
  | aside {work : Work α} (foreign : work.exit? index = none) : Effect index guarded work guarded []

namespace Stack

variable {stack next : Stack α} {index other inner : Nat} {guarded : Guard (Receiver α)}
  {work : Work α} {more : List (Work α)}

/-! ### Work for other layers -/

structure Spares (index : Nat) (stack : Stack α) (result : Stack α × List (Work α)) : Prop where
  layer? : result.1.layer? index = stack.layer? index
  exits : exitsOf index result.2 = []

theorem Spares.of_layers (same : next.layers = stack.layers) (exits : exitsOf index more = []) :
    Spares index stack (next, more) :=
  ⟨congrArg (·[index]?) same, exits⟩

theorem Spares.of_set {layer : Layer α} (different : other ≠ index)
    (changed : next.layers = stack.layers.set other layer) (exits : exitsOf index more = []) :
    Spares index stack (next, more) :=
  ⟨(congrArg (·[index]?) changed).trans (List.getElem?_set_ne different), exits⟩

/-- Work for the way out of one guard is none for that of another. -/
theorem exitsOf_guard (different : other ≠ index) (first : Work α) (own : first.exit? index = none)
    (tickets : List Nat) :
    exitsOf index [first, .freeGuard other, .handOut other tickets] = [] :=
  exitsOf_eq_nil (List.forall_mem_cons.mpr ⟨own, List.forall_mem_cons.mpr
    ⟨if_neg different, List.forall_mem_singleton.mpr (if_neg different)⟩⟩)

theorem exitsOf_taken (different : other ≠ index) (first : Work α) (own : first.exit? index = none) :
    exitsOf index [first, .freeGuard other] = [] :=
  exitsOf_eq_nil (List.forall_mem_cons.mpr
    ⟨own, List.forall_mem_singleton.mpr (if_neg different)⟩)

theorem exitsOf_answers_concat (receivers : List (Receiver α)) (lookup : Lookup) {last : Work α}
    (own : last.exit? index = none) :
    exitsOf index (answerAll receivers lookup ++ [last]) = [] := by
  rw [exitsOf_append, exitsOf_answerAll]
  exact exitsOf_eq_nil (List.forall_mem_singleton.mpr own)

private theorem layers_scheduleCheck (stack : Stack α) (index : Nat) :
    (stack.scheduleCheck index).layers = stack.layers := by
  unfold scheduleCheck
  split <;> rfl

private theorem ask_spares (different : other ≠ index) (key : String) (receiver : Receiver α) :
    Spares index stack (stack.ask other key receiver) := by
  unfold ask
  split
  · exact .of_layers rfl rfl
  · exact .of_layers rfl rfl
  · exact .of_layers rfl rfl
  · split
    · exact .of_set different rfl rfl
    · exact .of_layers rfl rfl
  · rename_i admission _
    generalize admission.arrive ⟨key, receiver⟩ = arrived
    obtain ⟨state, arrival⟩ := arrived
    cases arrival <;> exact .of_set different rfl rfl
  · split
    · exact .of_layers rfl rfl
    · exact .of_set different rfl (exitsOf_guard different _ rfl _)
  · exact .of_set different rfl rfl
  · split
    · exact .of_set different rfl rfl
    · exact .of_layers rfl rfl
  · exact .of_layers rfl rfl

private theorem askMany_spares (different : other ≠ index) (requests : List (Request (Receiver α))) :
    Spares index stack (stack.askMany other requests) := by
  unfold askMany
  split
  · split
    · exact .of_layers rfl rfl
    · exact .of_set different rfl (exitsOf_guard different _ rfl _)
  · exact .of_set different rfl (exitsOf_askEach index other requests)
  · exact .of_layers rfl (exitsOf_askEach index other requests)

private theorem put_spares (different : other ≠ index) (key : String) (value : Bytes) :
    Spares index stack (stack.put other key value) := by
  unfold put
  split
  · exact .of_set different rfl rfl
  · dsimp only
    split
    · exact .of_set different (layers_scheduleCheck _ other) rfl
    · exact .of_set different rfl rfl
  · split
    · exact .of_set different rfl rfl
    · exact .of_layers rfl rfl
  · exact .of_set different rfl rfl
  · split
    · exact .of_layers rfl rfl
    · exact .of_set different rfl (exitsOf_taken different _ rfl)
  · exact .of_layers rfl rfl
  · exact .of_layers rfl rfl
  · exact .of_layers rfl rfl
  · exact .of_layers rfl rfl

private theorem delete_spares (different : other ≠ index) (key : String) :
    Spares index stack (stack.delete other key) := by
  unfold delete
  split
  · exact .of_set different rfl rfl
  · exact .of_layers rfl rfl
  · split
    · exact .of_set different rfl rfl
    · exact .of_layers rfl rfl
  · exact .of_set different rfl rfl
  · split
    · exact .of_layers rfl rfl
    · exact .of_set different rfl (exitsOf_taken different _ rfl)
  all_goals exact .of_layers rfl rfl

private theorem shutDown_spares (different : other ≠ index) :
    Spares index stack (stack.shutDown other) := by
  unfold shutDown
  split
  · exact .of_set different rfl rfl
  · exact .of_set different rfl rfl
  · exact .of_set different rfl (exitsOf_answerAll index _ _)
  · exact .of_set different rfl (exitsOf_answers_concat _ _ rfl)
  · split
    · exact .of_layers rfl rfl
    · exact .of_set different rfl (exitsOf_taken different _ rfl)
  · exact .of_layers rfl rfl
  · exact .of_set different rfl (exitsOf_answers_concat _ _ rfl)
  · exact .of_layers rfl rfl
  · exact .of_layers rfl rfl

/-! ### Work that is for no layer, or for a layer of another kind -/

theorem ne_of_layer? {layer : Layer α} (placed : stack.layer? index = some (.guarded inner guarded))
    (there : stack.layer? other = some layer) (kind : layer.isGuard = false) : other ≠ index := by
  rintro rfl
  cases placed.symm.trans there
  cases kind

private theorem answer_spares (placed : stack.layer? index = some (.guarded inner guarded))
    (receiver : Receiver α) (lookup : Lookup) (different : ∀ number, receiver ≠ .ticket index number) :
    Spares index stack (stack.answer receiver lookup) := by
  unfold answer
  split
  · exact .of_layers rfl rfl
  · exact .of_layers rfl rfl
  · exact .of_layers rfl rfl
  · rename_i other number
    have apart : other ≠ index := fun same => different number (same ▸ rfl)
    split
    · exact .of_set apart rfl (exitsOf_answerAll index _ _)
    · exact .of_layers rfl rfl
  · split
    · rename_i there
      exact .of_set (ne_of_layer? placed there rfl) rfl rfl
    · exact .of_layers rfl rfl

private theorem lose_spares (receiver : Receiver α)
    (different : ∀ number, receiver ≠ .ticket index number) :
    Spares index stack (stack.lose receiver) := by
  unfold lose
  split
  · exact .of_layers rfl rfl
  · exact .of_layers rfl rfl
  · exact .of_layers rfl rfl
  · rename_i other number
    have apart : other ≠ index := fun same => different number (same ▸ rfl)
    split
    · exact .of_set apart rfl (exitsOf_eq_nil (List.forall_mem_map.mpr fun _ _ => rfl))
    · exact .of_layers rfl rfl
  · exact .of_layers rfl rfl

private theorem handOut_spares (different : other ≠ index) (tickets : List Nat) :
    Spares index stack (stack.handOut other tickets) := by
  unfold handOut
  split
  · exact .of_layers rfl rfl
  · split
    · refine .of_set different rfl (exitsOf_eq_nil (List.forall_mem_append.mpr
        ⟨List.forall_mem_map.mpr fun _ _ => rfl, List.forall_mem_singleton.mpr (if_neg different)⟩))
    · exact .of_layers rfl rfl

private theorem freeGuard_spares (different : other ≠ index) :
    Spares index stack (stack.freeGuard other, []) := by
  unfold freeGuard
  split
  · exact .of_set different rfl rfl
  · exact .of_layers rfl rfl

/-- Whatever is neither a call nor told to a ticket or part of a way out. -/
private theorem perform_spares (placed : stack.layer? index = some (.guarded inner guarded))
    (uncalled : work.callee? = none) (inward : work.exit? index = none)
    (untold : ∀ number lookup, work ≠ .answer (.ticket index number) lookup)
    (kept : ∀ number, work ≠ .lose (.ticket index number)) :
    Spares index stack (stack.perform work) := by
  unfold perform
  split
  · exact .of_layers rfl rfl
  · cases work with
    | ask | askMany | put | delete | shutDown => cases uncalled
    | answer receiver lookup =>
        exact answer_spares placed receiver lookup fun number same => untold number lookup (same ▸ rfl)
    | lose receiver => exact lose_spares receiver fun number same => kept number (same ▸ rfl)
    | hold other number key receiver =>
        dsimp only [hold]
        split
        · rename_i there
          exact .of_set (ne_of_layer? placed there rfl) rfl rfl
        · exact .of_layers rfl rfl
    | freeGuard other => exact freeGuard_spares fun same => by simp [Work.exit?, same] at inward
    | handOut other tickets =>
        exact handOut_spares (fun same => by simp [Work.exit?, same] at inward) tickets
    | freePlace other =>
        dsimp only [freePlace]
        split
        · rename_i there
          split
          · exact .of_set (ne_of_layer? placed there rfl) rfl rfl
          · exact .of_set (ne_of_layer? placed there rfl) rfl rfl
        · exact .of_layers rfl rfl
    | countMember other batch =>
        dsimp only [countMember]
        split
        · rename_i there
          refine .of_set (ne_of_layer? placed there rfl) rfl ?_
          split <;> rfl
        · exact .of_layers rfl rfl
    | release other key =>
        dsimp only [release]
        split
        · rename_i there
          exact .of_set (ne_of_layer? placed there rfl) rfl
            (exitsOf_eq_nil (List.forall_mem_map.mpr fun _ _ => rfl))
        · exact .of_layers rfl rfl
    | arrive departure response =>
        dsimp only [arrive]
        split
        · rename_i there
          exact .of_set (ne_of_layer? placed there rfl) rfl
            (exitsOf_eq_nil (List.forall_mem_map.mpr fun _ _ => rfl))
        · exact .of_layers rfl rfl
    | inform | forget => exact .of_layers rfl rfl

/-! ### Work for the guard -/

private theorem exitsOf_enter {first : Work α} (own : first.exit? index = none) (tickets : List Nat) :
    exitsOf index [first, .freeGuard index, .handOut index tickets] =
      [.free, .handOut tickets] := by
  rw [exitsOf, List.filterMap_cons_none own]
  simp [Work.exit?]

private theorem exitsOf_take {first : Work α} (own : first.exit? index = none) :
    exitsOf index [first, .freeGuard index] = [.free] := by
  rw [exitsOf, List.filterMap_cons_none own]
  simp [Work.exit?]

/-- Who calls a guard that is held waits for it, and nobody else does. -/
theorem stuck_of_call (placed : stack.layer? index = some (.guarded inner guarded))
    (moving : stack.stuck = false) (called : work.callee? = some index) :
    (stack.perform work).1.stuck = guarded.held := by
  cases work with
  | ask | askMany | put | delete | shutDown =>
      cases called
      simp only [perform, moving, Bool.false_eq_true, if_false, ask, askMany, put, delete, shutDown,
        placed]
      cases guarded.held with
      | true => rfl
      | false => exact moving
  | _ => cases called

/-- A call that is let in is to free the guard when the layer behind is done. -/
theorem freeGuard_mem_of_call (placed : stack.layer? index = some (.guarded inner guarded))
    (moving : stack.stuck = false) (called : work.callee? = some index)
    (free : guarded.held = false) : .freeGuard index ∈ (stack.perform work).2 := by
  cases work with
  | ask | askMany | put | delete | shutDown =>
      cases called
      simp only [perform, moving, free, Bool.false_eq_true, if_false, ask, askMany, put, delete,
        shutDown, placed]
      exact List.mem_cons_of_mem _ List.mem_cons_self
  | _ => cases called

/-- What a call that is let in does to the guard. -/
private theorem call_effect (placed : stack.layer? index = some (.guarded inner guarded))
    (moving : stack.stuck = false) (called : work.callee? = some index)
    (free : guarded.held = false) :
    ∃ changed, (stack.perform work).1.layer? index = some (.guarded inner changed) ∧
      guarded.Effect index work changed (exitsOf index (stack.perform work).2) := by
  cases work with
  | ask other key receiver =>
      cases called
      simp only [perform, moving, free, Bool.false_eq_true, if_false, ask, placed]
      rw [exitsOf_enter rfl]
      exact ⟨_, layer?_setLayer_self placed, .enter key receiver free⟩
  | askMany other requests =>
      cases called
      simp only [perform, moving, free, Bool.false_eq_true, if_false, askMany, placed]
      rw [exitsOf_enter rfl]
      exact ⟨_, layer?_setLayer_self placed, .enterAll requests free⟩
  | put | delete | shutDown =>
      cases called
      simp only [perform, moving, free, Bool.false_eq_true, if_false, put, delete, shutDown, placed]
      rw [exitsOf_take rfl]
      exact ⟨_, layer?_setLayer_self placed, .take rfl free⟩
  | _ => cases called

private theorem call_spares (moving : stack.stuck = false) (called : work.callee? = some other)
    (different : other ≠ index) : Spares index stack (stack.perform work) := by
  rw [perform.eq_def, if_neg (by rw [moving]; decide)]
  cases work with
  | ask _ key receiver => cases called; exact ask_spares different key receiver
  | askMany _ requests => cases called; exact askMany_spares different requests
  | put _ key value => cases called; exact put_spares different key value
  | delete _ key => cases called; exact delete_spares different key
  | shutDown => cases called; exact shutDown_spares different
  | _ => cases called

theorem Spares.effect {result : Stack α × List (Work α)} (spares : Spares index stack result)
    (placed : stack.layer? index = some (.guarded inner guarded)) (foreign : work.exit? index = none) :
    ∃ changed, result.1.layer? index = some (.guarded inner changed) ∧
      guarded.Effect index work changed (exitsOf index result.2) := by
  rw [spares.exits]
  exact ⟨guarded, spares.layer?.trans placed, .aside foreign⟩

/-- What work for the way out does to the guard. -/
private theorem exit_effect (placed : stack.layer? index = some (.guarded inner guarded))
    (moving : stack.stuck = false) {exit : Exit} (inward : work.exit? index = some exit) :
    ∃ changed, (stack.perform work).1.layer? index = some (.guarded inner changed) ∧
      guarded.Effect index work changed (exitsOf index (stack.perform work).2) := by
  cases work with
  | freeGuard other =>
      obtain ⟨rfl, -⟩ := Option.ite_none_right_eq_some.mp inward
      simp only [perform, moving, Bool.false_eq_true, if_false, freeGuard, placed]
      exact ⟨_, layer?_setLayer_self placed, .free⟩
  | handOut other tickets =>
      obtain ⟨rfl, -⟩ := Option.ite_none_right_eq_some.mp inward
      simp only [perform, moving, Bool.false_eq_true, if_false]
      cases tickets with
      | nil => exact ⟨guarded, placed, .done⟩
      | cons number rest =>
          have last : exitsOf other [(.handOut other rest : Work α)] = [.handOut rest] := by
            simp [exitsOf, Work.exit?]
          simp only [handOut, placed]
          rw [exitsOf_append, exitsOf_eq_nil (List.forall_mem_map.mpr fun _ _ => rfl), last]
          exact ⟨_, layer?_setLayer_self placed, .leave number rest⟩
  | _ => cases inward

/-- Work that leaves nobody waiting has one of the effects. -/
theorem guard_effect (placed : stack.layer? index = some (.guarded inner guarded)) (work : Work α)
    (moving : (stack.perform work).1.stuck = false) :
    ∃ changed, (stack.perform work).1.layer? index = some (.guarded inner changed) ∧
      guarded.Effect index work changed (exitsOf index (stack.perform work).2) := by
  have before : stack.stuck = false := by
    refine Bool.eq_false_iff.mpr fun stuck => ?_
    rw [perform.eq_def, if_pos stuck, stuck] at moving
    cases moving
  cases called : work.callee? with
  | some other =>
      by_cases same : other = index
      · cases same
        exact call_effect placed before called ((stuck_of_call placed before called).symm.trans moving)
      · exact (call_spares before called same).effect placed (Work.exit?_of_callee? called)
  | none =>
      cases inward : work.exit? index with
      | some exit => exact exit_effect placed before inward
      | none =>
          by_cases told : ∃ number lookup, work = .answer (.ticket index number) lookup
          · obtain ⟨number, lookup, rfl⟩ := told
            simp only [perform, before, Bool.false_eq_true, if_false, answer, placed]
            rw [exitsOf_answerAll]
            exact ⟨_, layer?_setLayer_self placed, .answer number lookup⟩
          · by_cases lost : ∃ number, work = .lose (.ticket index number)
            · obtain ⟨number, rfl⟩ := lost
              simp only [perform, before, Bool.false_eq_true, if_false, lose, placed]
              rw [exitsOf_eq_nil (List.forall_mem_map.mpr fun _ _ => rfl)]
              exact ⟨_, layer?_setLayer_self placed, .lose number⟩
            · refine (perform_spares placed called inward ?_ ?_).effect placed inward
              · exact fun number lookup same => told ⟨number, lookup, same⟩
              · exact fun number same => lost ⟨number, same⟩

end Stack

end TieredCache
