import TieredCache.Proofs.Decorators.Roots

/-!
Lookups that are inside of a guard or of a delay. Their visits end with work that is still to be done,
and a ticket without an answer is named by the receiver of a lookup behind the guard. So once nothing
is left to do, and no lookup waits below, no ticket is left.
-/

namespace TieredCache

variable {α : Type}

def Layer.Awaits (number : Nat) : Layer α → Prop
  | .guarded _ state => ∃ ticket ∈ state.tickets, ticket.number = number ∧ ticket.kept = none
  | _ => False

def Layer.Visited (number : Nat) : Layer α → Prop
  | .guarded _ state => ∃ ticket ∈ state.tickets, ticket.number = number ∧ ticket.inside = true
  | .delayed _ state => ∃ capture ∈ state.captures, capture.number = number
  | _ => False

def visitsOf (works : List (Work α)) : List (Nat × Nat) := works.flatMap Work.visits

@[simp] theorem visitsOf_nil : visitsOf ([] : List (Work α)) = [] := rfl

@[simp] theorem visitsOf_cons (work : Work α) (works : List (Work α)) :
    visitsOf (work :: works) = work.visits ++ visitsOf works := rfl

@[simp] theorem visitsOf_append (left right : List (Work α)) :
    visitsOf (left ++ right) = visitsOf left ++ visitsOf right := List.flatMap_append

variable {index number : Nat} {found : String → Lookup} {before after : Layer α} {work : Work α}
  {more rest : List (Work α)} {stack next : Stack α}

/-! ### One layer -/

theorem Act.index_of_visits (act : Act index found before work after more) {layer number : Nat}
    (ends : (layer, number) ∈ work.visits) : layer = index := by
  cases act with
  | hold | skip | deliver | leave =>
      simp only [Work.visits, List.mem_map, List.mem_singleton, Prod.mk.injEq] at ends
      first
        | exact ends.1
        | (obtain ⟨_, _, same, _⟩ := ends; exact same.symm)
  | _ => cases ends

theorem Act.index_of_spent (act : Act index found before work after more) {layer number : Nat}
    (used : .ticket layer number ∈ work.spent) : layer = index := by
  cases act with
  | keep | handBack =>
      cases List.mem_singleton.mp used
      rfl
  | capture => cases List.mem_singleton.mp used
  | _ => cases used

theorem Act.awaits (act : Act index found before work after more)
    (awaits : after.Awaits number) :
    before.Awaits number ∧ .ticket index number ∉ work.spent ∨
      .ticket index number ∈ rootsOf more := by
  cases act with
  | @enter inner guarded key receiver free =>
      obtain ⟨ticket, member, rfl, kept⟩ := awaits
      rcases List.mem_cons.mp member with fresh | old
      · rw [fresh]
        exact .inr List.mem_cons_self
      · exact .inl ⟨⟨ticket, old, rfl, kept⟩, List.not_mem_nil⟩
  | @enterAll inner guarded requests free =>
      obtain ⟨ticket, member, rfl, kept⟩ := awaits
      rcases Guard.mem_issueAll member with old | ⟨issued, -, -⟩
      · exact .inl ⟨⟨ticket, old, rfl, kept⟩, List.not_mem_nil⟩
      · right
        have receivers := Guard.receivers_issueAll index guarded.take requests
        have named : Receiver.ticket index ticket.number ∈
            (Stack.issueAll index guarded.take requests).2.1.map (·.receiver) := by
          rw [receivers]
          exact List.mem_map_of_mem issued
        exact List.mem_append_left _ (List.mem_map.mpr ⟨_, named, rfl⟩)
  | @keep inner guarded ticket other lookup known inside =>
      obtain ⟨waiting, member, rfl, kept⟩ := awaits
      rcases Guard.mem_update member with here | ⟨old, different⟩
      · rw [here] at kept
        cases kept
      · refine .inl ⟨⟨waiting, old, rfl, kept⟩, fun used => different ?_⟩
        cases List.mem_singleton.mp used
        exact (Guard.number_eq known).symm
  | handBack other lookup known outside =>
      obtain ⟨ticket, member, rfl, kept⟩ := awaits
      obtain ⟨old, different⟩ := Guard.mem_without member
      refine .inl ⟨⟨ticket, old, rfl, kept⟩, fun used => different ?_⟩
      cases List.mem_singleton.mp used
      rfl
  | deliver other tickets known kept =>
      obtain ⟨ticket, member, rfl, empty⟩ := awaits
      exact .inl ⟨⟨ticket, (Guard.mem_without member).1, rfl, empty⟩, List.not_mem_nil⟩
  | @leave inner guarded ticket other tickets known empty =>
      obtain ⟨waiting, member, rfl, kept⟩ := awaits
      rcases Guard.mem_update member with here | ⟨old, -⟩
      · rw [here]
        exact .inl ⟨⟨ticket, List.mem_of_find?_eq_some known, rfl, empty⟩, List.not_mem_nil⟩
      · exact .inl ⟨⟨waiting, old, rfl, kept⟩, List.not_mem_nil⟩
  | spread requests unguarded =>
      cases before with
      | guarded => cases unguarded
      | _ => exact awaits.elim
  | closeBottom bottom =>
      cases before with
      | memory store | disk store => exact awaits.elim
      | _ => cases bottom
  | read | freeGuard | skip | closeGuard => exact .inl ⟨awaits, List.not_mem_nil⟩
  | _ => exact awaits.elim

theorem Act.visited (act : Act index found before work after more)
    (visited : after.Visited number) :
    before.Visited number ∧ ((index, number) ∈ work.visits → (index, number) ∈ visitsOf more) ∨
      (index, number) ∈ visitsOf more := by
  cases act with
  | @enter inner guarded key receiver free =>
      obtain ⟨ticket, member, rfl, inside⟩ := visited
      rcases List.mem_cons.mp member with fresh | old
      · rw [fresh]
        exact .inr List.mem_cons_self
      · exact .inl ⟨⟨ticket, old, rfl, inside⟩, fun ends => nomatch ends⟩
  | @enterAll inner guarded requests free =>
      obtain ⟨ticket, member, rfl, inside⟩ := visited
      rcases Guard.mem_issueAll member with old | ⟨issued, -, -⟩
      · exact .inl ⟨⟨ticket, old, rfl, inside⟩, fun ends => nomatch ends⟩
      · right
        simpa [Work.visits] using issued
  | @postpone inner delay key receiver delays =>
      obtain ⟨capture, member, rfl⟩ := visited
      rcases List.mem_cons.mp member with fresh | old
      · rw [fresh]
        right
        simp [Work.visits]
      · exact .inl ⟨⟨capture, old, rfl⟩, fun ends => nomatch ends⟩
  | @keep inner guarded ticket other lookup known inside =>
      obtain ⟨visitor, member, rfl, within⟩ := visited
      refine .inl ⟨?_, fun ends => nomatch ends⟩
      rcases Guard.mem_update member with here | ⟨old, -⟩
      · rw [here]
        exact ⟨ticket, List.mem_of_find?_eq_some known, rfl, inside⟩
      · exact ⟨visitor, old, rfl, within⟩
  | handBack other lookup known outside =>
      obtain ⟨ticket, member, rfl, inside⟩ := visited
      exact .inl ⟨⟨ticket, (Guard.mem_without member).1, rfl, inside⟩, fun ends => nomatch ends⟩
  | capture other lookup =>
      obtain ⟨capture, member, rfl⟩ := visited
      obtain ⟨old, there, same⟩ := List.mem_map.mp member
      refine .inl ⟨⟨old, there, ?_⟩, fun ends => nomatch ends⟩
      rw [← same]
      split <;> rfl
  | hold other key receiver =>
      obtain ⟨capture, member, rfl⟩ := visited
      obtain ⟨old, different⟩ := List.mem_filter.mp member
      refine .inl ⟨⟨capture, old, rfl⟩, fun ends => ?_⟩
      have same : capture.number = other := by simpa [Work.visits] using ends
      simp [same] at different
  | skip other tickets unknown =>
      obtain ⟨ticket, member, rfl, inside⟩ := visited
      have different : ticket.number ≠ other := by
        simpa using List.find?_eq_none.mp unknown ticket member
      refine .inl ⟨⟨ticket, member, rfl, inside⟩, fun ends => ?_⟩
      simpa [Work.visits, different] using ends
  | deliver other tickets known kept =>
      obtain ⟨ticket, member, rfl, inside⟩ := visited
      obtain ⟨old, different⟩ := Guard.mem_without member
      refine .inl ⟨⟨ticket, old, rfl, inside⟩, fun ends => ?_⟩
      simpa [Work.visits, different] using ends
  | @leave inner guarded ticket other tickets known empty =>
      obtain ⟨visitor, member, rfl, inside⟩ := visited
      rcases Guard.mem_update member with here | ⟨old, different⟩
      · rw [here] at inside
        cases inside
      · have apart : visitor.number ≠ other := fun same =>
          different (same.trans (Guard.number_eq known).symm)
        refine .inl ⟨⟨visitor, old, rfl, inside⟩, fun ends => ?_⟩
        simpa [Work.visits, apart] using ends
  | spread requests unguarded =>
      cases before with
      | guarded => cases unguarded
      | delayed inner state => exact .inl ⟨visited, fun ends => nomatch ends⟩
      | _ => exact visited.elim
  | closeBottom bottom =>
      cases before with
      | memory store | disk store => exact visited.elim
      | _ => cases bottom
  | read | passOn | freeGuard | closeGuard | closeDelay | release =>
      exact .inl ⟨visited, fun ends => nomatch ends⟩
  | _ => exact visited.elim

/-! ### Whole stacks -/

/-- What is held below a guard names tickets of the guard. -/
theorem Receiver.Above.lt {receiver : Receiver α} (above : receiver.Above index) {layer : Nat}
    (same : receiver.root = .ticket layer number) : index < layer := by
  induction receiver with
  | client callback => cases same
  | place other next ih | member other batch next ih => exact ih above.2 same
  | ticket other own =>
      cases same
      exact above
  | capture other own => cases same

theorem flatMap_set_perm {β γ : Type} (items : List β) {place : Nat} {old : β}
    (there : items[place]? = some old) (new : β) (parts : β → List γ) :
    ((items.set place new).flatMap parts ++ parts old).Perm (items.flatMap parts ++ parts new) := by
  induction items generalizing place with
  | nil => cases there
  | cons item rest ih =>
      cases place with
      | zero =>
          cases there
          rw [List.set_cons_zero, List.flatMap_cons, List.flatMap_cons, List.append_assoc,
            List.append_assoc]
          refine List.perm_append_comm.trans ?_
          rw [List.append_assoc]
          exact (List.perm_append_comm_assoc _ _ _).symm
      | succ place =>
          rw [List.set_cons_succ, List.flatMap_cons, List.flatMap_cons, List.append_assoc,
            List.append_assoc]
          have later : rest[place]? = some old := there
          exact (ih later).append_left _

private theorem perm_append_swap {β : Type} (first second third : List β) :
    (first ++ second ++ third).Perm (first ++ third ++ second) := by
  rw [List.append_assoc, List.append_assoc]
  exact List.perm_append_comm.append_left first

namespace Stack

def roots (stack : Stack α) : List (Receiver α) := stack.layers.flatMap Layer.roots

theorem mem_roots {root : Receiver α} :
    root ∈ stack.roots ↔ ∃ index layer, stack.layer? index = some layer ∧ root ∈ layer.roots := by
  rw [roots, List.mem_flatMap]
  constructor
  · rintro ⟨layer, member, holds⟩
    obtain ⟨index, there⟩ := List.mem_iff_getElem?.mp member
    exact ⟨index, layer, there, holds⟩
  · rintro ⟨index, layer, there, holds⟩
    exact ⟨layer, List.mem_of_getElem? there, holds⟩

theorem Effect.roots_perm (effect : Effect stack work next more) (regular : stack.Regular) :
    ∃ made : List (Receiver α), (∀ root ∈ made, root.callbacks = []) ∧
      (next.roots ++ (rootsOf more ++ work.spent)).Perm (stack.roots ++ (work.roots ++ made)) := by
  cases effect with
  | @act index before after _ _ _ placed act altered =>
      obtain ⟨made, silent, perm⟩ := act.roots_perm (regular _ _ placed)
      refine ⟨made, silent, ?_⟩
      have changed : (next.roots ++ before.roots).Perm (stack.roots ++ after.roots) := by
        rw [roots, roots, altered.layers]
        exact flatMap_set_perm stack.layers placed after Layer.roots
      refine (List.perm_append_right_iff before.roots).mp ?_
      calc (next.roots ++ (rootsOf more ++ work.spent)) ++ before.roots
        _ |>.Perm ((next.roots ++ before.roots) ++ (rootsOf more ++ work.spent)) :=
            perm_append_swap _ _ _
        _ |>.Perm ((stack.roots ++ after.roots) ++ (rootsOf more ++ work.spent)) :=
            changed.append_right _
        _ |>.Perm (stack.roots ++ (before.roots ++ (work.roots ++ made))) := by
            rw [List.append_assoc]
            exact perm.append_left _
        _ |>.Perm ((stack.roots ++ (work.roots ++ made)) ++ before.roots) := by
            rw [← List.append_assoc]
            exact perm_append_swap _ _ _
  | pass passage =>
      refine ⟨[], by simp, ?_⟩
      cases passage <;> exact .refl _
  | idle nothing ended passed unknown =>
      refine ⟨[], by simp, ?_⟩
      have same : work.roots = work.spent := by
        rw [Work.roots, nothing]
        unfold Work.spent
        split <;> rfl
      rw [same]
      simp

/-- The work of a stack in which every visit comes to an end. -/
structure Tracked (stack : Stack α) (works : List (Work α)) : Prop where
  awaited : ∀ index layer number, stack.layer? index = some layer → layer.Awaits number →
    .ticket index number ∈ stack.roots ++ rootsOf works
  visited : ∀ index layer number, stack.layer? index = some layer → layer.Visited number →
    (index, number) ∈ visitsOf works

/-- A ticket that was named and is not used up is still named. -/
theorem Effect.named (effect : Effect stack work next more) (regular : stack.Regular)
    {layer number : Nat} (unused : .ticket layer number ∉ work.spent)
    (member : .ticket layer number ∈ stack.roots ++ rootsOf (work :: rest)) :
    .ticket layer number ∈ next.roots ++ rootsOf (more ++ rest) := by
  obtain ⟨made, -, perm⟩ := effect.roots_perm regular
  rw [rootsOf_cons, ← List.append_assoc] at member
  rw [rootsOf_append, ← List.append_assoc]
  rcases List.mem_append.mp member with old | later
  · have kept := perm.symm.subset (List.mem_append.mpr ((List.mem_append.mp old).imp_right
      fun own => List.mem_append_left made own))
    rcases List.mem_append.mp kept with stored | passed
    · exact List.mem_append_left _ (List.mem_append_left _ stored)
    · rcases List.mem_append.mp passed with left | spent
      · exact List.mem_append_left _ (List.mem_append_right _ left)
      · exact absurd spent unused
  · exact List.mem_append_right _ later

theorem Effect.awaited (effect : Effect stack work next more) (regular : stack.Regular)
    (tracked : stack.Tracked (work :: rest)) :
    ∀ index layer number, next.layer? index = some layer → layer.Awaits number →
      .ticket index number ∈ next.roots ++ rootsOf (more ++ rest) := by
  intro other layer number there
  have named {place ticket : Nat} (unused : .ticket place ticket ∉ work.spent)
      (member : .ticket place ticket ∈ stack.roots ++ rootsOf (work :: rest)) :
      .ticket place ticket ∈ next.roots ++ rootsOf (more ++ rest) := effect.named regular unused member
  cases effect with
  | @act index before after _ _ _ placed act altered =>
      refine altered.each (fun place layer => layer.Awaits number →
        .ticket place number ∈ next.roots ++ rootsOf (more ++ rest)) placed ?_ ?_ other layer there
      · intro awaits
        rcases act.awaits awaits with ⟨old, used⟩ | left
        · exact named used (tracked.awaited index before number placed old)
        · rw [rootsOf_append]
          exact List.mem_append_right _ (List.mem_append_left _ left)
      · intro place layer different known awaits
        exact named (fun used => different (act.index_of_spent used))
          (tracked.awaited place layer number known awaits)
  | pass passage =>
      intro awaits
      refine named ?_ (tracked.awaited other layer number there awaits)
      cases passage <;> exact List.not_mem_nil
  | idle nothing ended passed unknown =>
      intro awaits
      refine named (fun used => ?_) (tracked.awaited other layer number there awaits)
      cases layer with
      | guarded inner state =>
          obtain ⟨ticket, member, same, -⟩ := awaits
          have absent := unknown other number used inner state there
          exact absurd same (by simpa using List.find?_eq_none.mp absent ticket member)
      | _ => exact awaits.elim

theorem Effect.visited (effect : Effect stack work next more)
    (tracked : stack.Tracked (work :: rest)) :
    ∀ index layer number, next.layer? index = some layer → layer.Visited number →
      (index, number) ∈ visitsOf (more ++ rest) := by
  intro other layer number there
  rw [visitsOf_append]
  cases effect with
  | @act index before after _ _ _ placed act altered =>
      refine altered.each (fun place layer => layer.Visited number →
        (place, number) ∈ visitsOf more ++ visitsOf rest) placed ?_ ?_ other layer there
      · intro visited
        rcases act.visited visited with ⟨old, ends⟩ | left
        · rcases List.mem_append.mp (tracked.visited index before number placed old) with own | later
          · exact List.mem_append_left _ (ends own)
          · exact List.mem_append_right _ later
        · exact List.mem_append_left _ left
      · intro place layer different known visited
        rcases List.mem_append.mp (tracked.visited place layer number known visited) with own | later
        · exact absurd (act.index_of_visits own) different
        · exact List.mem_append_right _ later
  | pass passage =>
      intro visited
      have before := tracked.visited other layer number there visited
      cases passage <;> exact before
  | idle nothing ended passed unknown =>
      intro visited
      have before := tracked.visited other layer number there visited
      rw [visitsOf_cons, ended] at before
      exact before

theorem Effect.tracked (effect : Effect stack work next more) (regular : stack.Regular)
    (tracked : stack.Tracked (work :: rest)) : next.Tracked (more ++ rest) where
  awaited := effect.awaited regular tracked
  visited := effect.visited tracked

/-- Where nothing is left to do, and only guards may hold receivers, there are none. -/
theorem Tracked.roots_eq_nil (tracked : stack.Tracked []) (regular : stack.Regular)
    (above : ∀ index layer, stack.layer? index = some layer →
      ∀ receiver ∈ layer.receivers, receiver.Above index)
    (settled : ∀ index layer, stack.layer? index = some layer →
      layer.isGuard = true ∨ layer.receivers = []) : stack.roots = [] := by
  have empty : ∀ index layer, stack.layer? index = some layer → layer.receivers = [] := by
    -- The lookup of a ticket waits further below, where there is no ticket by induction.
    intro index
    induction index using Nat.strongRecOn with
    | ind index below =>
        intro layer placed
        rcases settled index layer placed with guards | done
        · cases layer with
          | guarded inner state =>
              refine List.map_eq_nil_iff.mpr (List.eq_nil_iff_forall_not_mem.mpr ?_)
              intro ticket member
              have outside : ticket.inside = false := by
                refine Bool.eq_false_iff.mpr fun inside => ?_
                exact List.not_mem_nil
                  (tracked.visited index _ ticket.number placed ⟨ticket, member, rfl, inside⟩)
              have kept := ((regular index _ placed).2 ticket member).2 outside
              have named := tracked.awaited index _ ticket.number placed ⟨ticket, member, rfl, kept⟩
              rw [rootsOf_nil, List.append_nil] at named
              obtain ⟨lower, holder, there, root⟩ := mem_roots.mp named
              obtain ⟨receiver, held, same⟩ := List.mem_map.mp root
              rw [below lower ((above lower holder there receiver held).lt same) holder there] at held
              cases held
          | _ => cases guards
        · exact done
  refine List.flatMap_eq_nil_iff.mpr fun layer member => ?_
  obtain ⟨index, placed⟩ := List.mem_iff_getElem?.mp member
  rw [Layer.roots, empty index layer placed]
  rfl

end Stack

end TieredCache
