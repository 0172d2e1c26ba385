import TieredCache.Proofs.Decorators.Calls

/-!
Shutting a stack of decorators down from the top. The lookups that a layer gives back rise through
layers that are closed already, so nothing new is asked; the layers behind are shut down after that.
In a stack that is closed all the way nothing waits.
-/

namespace TieredCache

variable {α : Type}

def Layer.Closed : Layer α → Prop
  | .memory store => store.closed = true
  | .disk store => store.closed = true
  | .admission _ state => state.closed = true ∧ state.queue = []
  | .delayed _ state => state.delayed = [] ∧ state.pending = []
  | _ => True

theorem Layer.guarded_of_isHeld {layer : Layer α} (held : layer.isHeld = true) :
    ∃ inner guarded, layer = .guarded inner guarded := by
  cases layer with
  | guarded inner state => exact ⟨inner, state, rfl⟩
  | _ => cases held

def Work.holds : Work α → Bool
  | .hold _ _ _ _ => true
  | _ => false

/-- Work that carries answers up, over a position. -/
inductive Work.Rises (index : Nat) : Work α → Prop where
  | answer {receiver : Receiver α} (lookup : Lookup) (above : receiver.Above index) :
      Rises index (.answer receiver lookup)
  | freePlace {place : Nat} (higher : index < place) : Rises index (.freePlace place)
  | countMember {place : Nat} (batch : Nat) (higher : index < place) :
      Rises index (.countMember place batch)
  | inform (callback : α) (lookup : Lookup) : Rises index (.inform callback lookup)

/-- What a closed layer does leaves it closed, and it keeps nothing back any more. -/
theorem Act.closed {index : Nat} {found : String → Lookup} {before after : Layer α} {work : Work α}
    {more : List (Work α)} (act : Act index found before work after more) (closed : before.Closed)
    (prompt : work.holds = false) :
    after.Closed ∧ ∀ follower ∈ more, follower.holds = false := by
  cases act with
  | postpone key receiver delays =>
      rw [Delay.delays, closed.1] at delays
      cases delays
  | queue key receiver opened taken => exact absurd closed.1 (by rw [opened]; decide)
  | issue key receiver opened free => exact absurd closed.1 (by rw [opened]; decide)
  | hold => cases prompt
  | flush waiting => exact absurd closed.2 waiting
  | spread requests unguarded =>
      refine ⟨?_, by simp [Stack.askEach, Work.holds]⟩
      cases before <;> exact closed
  | closeBottom bottom =>
      refine ⟨?_, by simp⟩
      cases before <;> first | rfl | cases bottom
  | member number batches last =>
      refine ⟨closed, ?_⟩
      cases last <;> simp [Work.holds]
  | release key =>
      refine ⟨?_, by simp [Work.holds]⟩
      rw [Layer.Closed, Delay.release, closed.1, closed.2]
      exact ⟨rfl, rfl⟩
  | closeAdmission | closeDelay =>
      refine ⟨⟨rfl, rfl⟩, fun follower member => ?_⟩
      rcases List.mem_append.mp member with waiting | own
      · obtain ⟨receiver, -, rfl⟩ := List.mem_map.mp waiting
        rfl
      · rw [List.mem_singleton.mp own]
        rfl
  | _ => exact ⟨closed, by simp [Work.holds]⟩

/-- What rises to a closed layer rises on from there. -/
theorem Act.rises {terms : Terms α} {book : Book α} {index place : Nat} {found : String → Lookup}
    {before after : Layer α} {work : Work α} {more : List (Work α)}
    (act : Act place found before work after more) (closed : before.Closed)
    (sound : before.Sound terms book place) (rises : work.Rises index) :
    index < place ∧ after.isHeld = before.isHeld ∧ ∀ follower ∈ more, follower.Rises index := by
  cases rises with
  | answer lookup above =>
      cases act with
      | keep => exact ⟨above, rfl, by simp⟩
      | capture => exact ⟨above, rfl, by simp⟩
      | handBack _ _ known outside =>
          refine ⟨above, rfl, fun follower member => ?_⟩
          rw [List.mem_singleton.mp member]
          have own := (sound _ (List.mem_of_find?_eq_some known)).1
          exact .answer lookup (own.mono (Nat.le_of_lt above))
  | freePlace higher =>
      cases act with
      | vacate => exact ⟨higher, rfl, by simp⟩
      | flush waiting => exact absurd closed.2 waiting
  | countMember batch higher =>
      cases act with
      | member number batches last =>
          refine ⟨higher, rfl, ?_⟩
          cases last with
          | true => simpa using .freePlace higher
          | false => simp
  | inform callback lookup => cases act

theorem Passage.rises {index : Nat} {work : Work α} {more : List (Work α)}
    (passage : Passage work more) (rises : work.Rises index) :
    ∀ follower ∈ more, follower.Rises index := by
  cases rises with
  | answer lookup above =>
      cases passage with
      | client callback => simpa using .inform callback lookup
      | place layer next => simpa using ⟨.answer lookup above.2, .freePlace above.1⟩
      | member layer batch next =>
          simpa using ⟨.answer lookup above.2, .countMember batch above.1⟩
  | freePlace | countMember | inform => cases passage

namespace Stack

variable {terms : Terms α} {stack next : Stack α} {index : Nat} {work : Work α}
  {more works : List (Work α)}

def Closed (stack : Stack α) : Prop :=
  ∀ place layer, stack.layer? place = some layer → layer.Closed

def ClosedOver (stack : Stack α) (index : Nat) : Prop :=
  ∀ place layer, index < place → stack.layer? place = some layer → layer.Closed

theorem ClosedOver.under {before after : Layer α} {lower : Nat} (closed : stack.ClosedOver index)
    (altered : stack.Altered next index after) (placed : stack.layer? index = some before)
    (shut : after.Closed) (between : index = lower + 1) : next.ClosedOver lower :=
  fun place layer above there =>
    altered.each (fun place layer => lower < place → layer.Closed) placed (fun _ => shut)
      (fun place layer apart there above => closed place layer (by omega) there) place layer there above

theorem Closed.found (closed : stack.Closed) (key : String) : stack.found key = .notFound := by
  rw [Stack.found]
  cases placed : stack.layer? 0 with
  | none => rfl
  | some layer =>
      have shut := closed 0 layer placed
      cases layer with
      | memory store =>
          have done : store.closed = true := shut
          simp [Layer.found, MemoryStore.get, done]
      | disk store =>
          have done : store.closed = true := shut
          simp [Layer.found, DiskStore.get, done]
      | _ => rfl

theorem Effect.closed (effect : Effect stack work next more) (closed : stack.Closed)
    (prompt : work.holds = false) : next.Closed ∧ ∀ follower ∈ more, follower.holds = false := by
  cases effect with
  | act placed act altered =>
      obtain ⟨shut, left⟩ := act.closed (closed _ _ placed) prompt
      exact ⟨altered.each (fun _ layer => layer.Closed) placed shut
        fun place layer _ there => closed place layer there, left⟩
  | pass passage =>
      refine ⟨closed, ?_⟩
      cases passage <;> simp [Work.holds]
  | idle => exact ⟨closed, by simp⟩

/-- In a closed stack that has nothing to do nobody waits. -/
theorem Orderly.roots_eq_nil (orderly : stack.Orderly terms []) (closed : stack.Closed) :
    stack.roots = [] := by
  obtain ⟨book, sound, -⟩ := orderly.honest
  refine orderly.tracked.roots_eq_nil orderly.steady.regular (fun index layer placed => ?_)
    fun index layer placed => ?_
  · have own := sound.layers index layer placed
    intro receiver held
    cases layer with
    | admission inner state =>
        obtain ⟨request, queued, rfl⟩ := List.mem_map.mp held
        exact (own request queued).2
    | guarded inner state =>
        obtain ⟨ticket, member, rfl⟩ := List.mem_map.mp held
        exact (own ticket member).1
    | delayed inner state =>
        obtain ⟨postponed, pending, rfl⟩ := List.mem_map.mp held
        exact (own.1 postponed pending).1
    | _ => cases held
  · have shut := closed index layer placed
    cases layer with
    | admission inner state => exact .inr (List.map_eq_nil_iff.mpr shut.2)
    | guarded inner state => exact .inl rfl
    | delayed inner state => exact .inr (List.map_eq_nil_iff.mpr shut.2)
    | _ => exact .inr rfl

/-! ### Rising -/

def SameHolds (stack next : Stack α) : Prop :=
  ∀ place, (next.layer? place).map Layer.isHeld = (stack.layer? place).map Layer.isHeld

theorem SameHolds.trans {last : Stack α} (first : SameHolds stack next)
    (second : SameHolds next last) : SameHolds stack last :=
  fun place => (second place).trans (first place)

theorem Altered.sameHolds {before after : Layer α} (altered : stack.Altered next index after)
    (placed : stack.layer? index = some before) (held : after.isHeld = before.isHeld) :
    SameHolds stack next := by
  intro place
  by_cases here : index = place
  · rw [← here, altered.layer?_self placed, placed, Option.map_some, Option.map_some, held]
  · rw [altered.layer?_of_ne here]

structure Risen (index : Nat) (stack next : Stack α) : Prop where
  closed : next.ClosedOver index
  under : ∀ place ≤ index, next.layer? place = stack.layer? place
  holds : SameHolds stack next

theorem Risen.trans {last : Stack α} (first : Risen index stack next)
    (second : Risen index next last) : Risen index stack last where
  closed := second.closed
  under := fun place le => (second.under place le).trans (first.under place le)
  holds := first.holds.trans second.holds

theorem ClosedOver.risen_self (closed : stack.ClosedOver index) : Risen index stack stack :=
  ⟨closed, fun _ _ => rfl, fun _ => rfl⟩

theorem Effect.rises {book : Book α} (effect : Effect stack work next more)
    (closed : stack.ClosedOver index) (sound : stack.Sound terms book) (rises : work.Rises index) :
    Risen index stack next ∧ ∀ follower ∈ more, follower.Rises index := by
  cases effect with
  | @act place before after _ _ _ placed act altered =>
      have higher : index < place := by
        cases rises with
        | answer lookup above => cases act <;> exact above
        | freePlace higher | countMember batch higher => cases act <;> exact higher
        | inform callback lookup => cases act
      have shut := closed place before higher placed
      obtain ⟨-, held, left⟩ := act.rises shut (sound.layers place before placed) rises
      have prompt : work.holds = false := by cases rises <;> rfl
      refine ⟨⟨fun other layer above there => ?_, fun other le => altered.layer?_of_ne (by omega),
        altered.sameHolds placed held⟩, left⟩
      exact altered.each (fun other layer => index < other → layer.Closed) placed
        (fun _ => (act.closed shut prompt).1)
        (fun other layer _ there above => closed other layer above there) other layer there above
  | pass passage => exact ⟨closed.risen_self, passage.rises rises⟩
  | idle => exact ⟨closed.risen_self, by simp⟩

end Stack

namespace Session

variable {terms : Terms Callback} {session : Session} {index : Nat} {rising rest : List (Work Callback)}

/-- What rises through closed layers comes to its end before all else. -/
theorem rising_leads (inOrder : session.InOrder terms (rising ++ rest))
    (closed : session.stack.ClosedOver index) (rises : ∀ work ∈ rising, work.Rises index) :
    ∃ last, Leads (session, rising ++ rest) (last, rest) ∧
      Stack.Risen index session.stack last.stack := by
  induction bound : session.stack.toll + tollOf (rising ++ rest) using Nat.strongRecOn
    generalizing session rising with
  | ind toll ih =>
      cases rising with
      | nil => exact ⟨session, .refl, closed.risen_self⟩
      | cons work others =>
          have later : ∀ other ∈ others, other.Rises index :=
            fun other member => rises other (List.mem_cons_of_mem _ member)
          by_cases telling : ∃ callback lookup, work = .inform callback lookup
          · obtain ⟨callback, lookup, rfl⟩ := telling
            have plain := inOrder.plain callback lookup inOrder.orderly.told.2
            have turn : Turn (session, .inform callback lookup :: (others ++ rest))
                ((session.inform callback lookup).1, others ++ rest) := .tell _ plain
            have less := turn.toll_lt inOrder.orderly.steady
            have same : (session.inform callback lookup).1.stack = session.stack := inform_stack plain
            obtain ⟨last, leads, risen⟩ := ih _ (bound ▸ less) (turn.inOrder inOrder)
              (same ▸ closed) later rfl
            exact ⟨last, .head turn leads, same ▸ risen⟩
          · have quiet : ∀ callback lookup, work ≠ .inform callback lookup :=
              fun callback lookup same => telling ⟨callback, lookup, same⟩
            have own := rises work List.mem_cons_self
            obtain ⟨next, more, effect, turn⟩ := inOrder.orderly.steady.turn
              (inOrder.orderly.expected work List.mem_cons_self) quiet fun place layer enters => by
                cases own <;> cases enters
            obtain ⟨book, sound, -⟩ := inOrder.orderly.honest
            obtain ⟨first, onward⟩ := effect.rises closed sound own
            have moved : Turn (session, work :: (others ++ rest))
                ({ session with stack := next }, more ++ (others ++ rest)) := .work (turn _)
            have less := moved.toll_lt inOrder.orderly.steady
            have again := moved.inOrder inOrder
            rw [← List.append_assoc] at moved less again
            obtain ⟨last, leads, risen⟩ := ih _ (bound ▸ less) again first.closed
              (fun other member => (List.mem_append.mp member).elim (onward other) (later other)) rfl
            exact ⟨last, .head moved leads, first.trans risen⟩

def Closes (terms : Terms Callback) (index : Nat) : Prop :=
  ∀ ⦃session : Session⦄ ⦃rest : List (Work Callback)⦄,
    session.InOrder terms (.shutDown index :: rest) → session.stack.FreeTo index →
    session.stack.ClosedOver index →
    ∃ last, Leads (session, .shutDown index :: rest) (last, rest) ∧ last.stack.Closed ∧
      Stack.SameHolds session.stack last.stack

/-- The lookups that were given back rise before the layer behind is shut down. -/
theorem Closes.after (closes : Closes terms index)
    (inOrder : session.InOrder terms (rising ++ .shutDown index :: rest))
    (free : session.stack.FreeTo index) (closed : session.stack.ClosedOver index)
    (rises : ∀ work ∈ rising, work.Rises index) :
    ∃ last, Leads (session, rising ++ .shutDown index :: rest) (last, rest) ∧ last.stack.Closed ∧
      Stack.SameHolds session.stack last.stack := by
  obtain ⟨middle, leads, risen⟩ := rising_leads inOrder closed rises
  obtain ⟨last, final, done, holds⟩ := closes (Leads.inOrder leads inOrder)
    (fun place le layer there => free place le layer (risen.under place le ▸ there)) risen.closed
  exact ⟨last, leads.trans final, done, risen.holds.trans holds⟩

/-- When the layers above are closed, a layer and those behind it are shut down before all else. -/
theorem closes (terms : Terms Callback) (index : Nat) : Closes terms index := by
  induction index using Nat.strongRecOn with
  | ind index below =>
      intro session rest inOrder free closed
      have steady := inOrder.orderly.steady
      obtain ⟨next, more, effect, turn⟩ := steady.turn
        (inOrder.orderly.expected _ List.mem_cons_self) (fun _ _ same => nomatch same)
        fun place layer enters placed => by
          cases enters
          exact free index (Nat.le_refl _) layer placed
      have moved : Turn (session, .shutDown index :: rest)
          ({ session with stack := next }, more ++ rest) := .work (turn rest)
      have again := moved.inOrder inOrder
      obtain ⟨before, after, placed, act, altered⟩ := effect.act_of_entered rfl
      obtain ⟨book, sound, -⟩ := inOrder.orderly.honest
      have own := sound.layers index before placed
      have onward {inner : Nat} (onto : before.inner? = some inner) (shut : after.Closed)
          (held : after.isHeld = before.isHeld) {rising : List (Work Callback)}
          (split : more = rising ++ [.shutDown inner]) (rises : ∀ work ∈ rising, work.Rises inner) :
          ∃ last, Leads (session, .shutDown index :: rest) (last, rest) ∧ last.stack.Closed ∧
            Stack.SameHolds session.stack last.stack := by
        have between := steady.decorated.inner_eq placed onto
        rw [split, List.append_assoc] at moved again
        obtain ⟨last, leads, done, holds⟩ := (below inner (by omega)).after again
          (free.below altered (by omega) (by omega)) (closed.under altered placed shut between) rises
        exact ⟨last, .head moved leads, done, (altered.sameHolds placed held).trans holds⟩
      cases act with
      | closeBottom bottom =>
          have first := (steady.decorated.isBottom_of_inner? placed
            (Layer.inner?_of_isBottom bottom)).1
          refine ⟨{ session with stack := next }, .single moved, ?_, altered.sameHolds placed ?_⟩
          · refine altered.each (fun _ layer => layer.Closed) placed ?_ fun place layer apart there =>
              closed place layer (by omega) there
            cases before <;> first | rfl | cases bottom
          · cases before <;> rfl
      | closeAdmission =>
          refine onward rfl ⟨rfl, rfl⟩ rfl rfl fun work member => ?_
          obtain ⟨receiver, held, rfl⟩ := List.mem_map.mp member
          obtain ⟨request, queued, rfl⟩ := List.mem_map.mp held
          have between := steady.decorated.inner_eq placed rfl
          exact .answer _ ((own request queued).2.mono (by omega))
      | closeDelay =>
          refine onward rfl ⟨rfl, rfl⟩ rfl rfl fun work member => ?_
          obtain ⟨receiver, held, rfl⟩ := List.mem_map.mp member
          obtain ⟨postponed, pending, rfl⟩ := List.mem_map.mp held
          have between := steady.decorated.inner_eq placed rfl
          have held := (Delay.grouped_perm _).mem_iff.mp pending
          exact .answer _ ((own.1 postponed held).1.mono (by omega))
      | closeCounted => exact onward rfl trivial rfl (List.nil_append _).symm (by simp)
      | @closeGuard inner guarded vacant =>
          have between := steady.decorated.inner_eq placed rfl
          obtain ⟨last, leads, done, holds⟩ := below inner (by omega) again
            (free.below altered (by omega) (by omega)) (closed.under altered placed trivial between)
          have taken := holds index
          rw [altered.layer?_self placed] at taken
          obtain ⟨layer, there, held⟩ := Option.map_eq_some_iff.mp taken
          obtain ⟨lower, state, rfl⟩ := Layer.guarded_of_isHeld held
          obtain ⟨finished, freed, freeing⟩ :=
            (Leads.inOrder leads again).orderly.steady.unlock there
          refine ⟨{ last with stack := finished }, .head moved (leads.tail (.work (freeing rest))),
            freed.each (fun _ layer => layer.Closed) there trivial
              fun place layer _ known => done place layer known, fun place => ?_⟩
          by_cases here : index = place
          · rw [← here, freed.layer?_self there, placed]
            exact congrArg some vacant.symm
          · rw [freed.layer?_of_ne here, holds place, altered.layer?_of_ne here]

end Session

end TieredCache
