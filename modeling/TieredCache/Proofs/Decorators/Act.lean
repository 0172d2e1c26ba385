import Mathlib.Data.List.Basic
import TieredCache.Layer.Stack
import TieredCache.Proofs.Disk.Access

/-!
What a piece of work can do to decorators over a memory or a disk layer. Every statement about such
stacks starts from the cases listed here.
-/

namespace TieredCache

variable {α : Type}

/-! ### Answers that are held back -/

namespace Delay

/-- Taken key by key, in the order in which the keys first came, everything is there. -/
theorem keyed_perm (pending : List (Postponed α)) :
    ((pending.map (·.key)).eraseDups.flatMap fun key => pending.filter (·.key = key)).Perm
      pending := by
  induction size : pending.length using Nat.strongRecOn generalizing pending with
  | ind number ih =>
      cases pending with
      | nil => exact .refl _
      | cons first rest =>
          let others := rest.filter fun held => !held.key == first.key
          have keys : (rest.map (·.key)).filter (fun key => !key == first.key) =
              others.map (·.key) := List.filter_map
          have fewer : others.length < number := by
            rw [← size]
            exact Nat.lt_succ_of_le (List.length_filter_le _ _)
          have apart : (others.map (·.key)).eraseDups.flatMap
                (fun key => (first :: rest).filter (·.key = key)) =
              (others.map (·.key)).eraseDups.flatMap fun key => others.filter (·.key = key) := by
            refine List.flatMap_congr fun key member => ?_
            obtain ⟨held, own, rfl⟩ := List.mem_map.mp (List.mem_eraseDups.mp member)
            have differs : held.key ≠ first.key := by simpa using (List.mem_filter.mp own).2
            rw [List.filter_cons_of_neg (by simpa using fun same => differs same.symm),
              List.filter_filter]
            refine List.filter_congr fun other _ => ?_
            by_cases same : other.key = held.key <;> simp [same, differs]
          have whole := List.filter_append_perm (fun held => decide (held.key = first.key))
            (first :: rest)
          rw [List.map_cons, List.eraseDups_cons, keys, List.flatMap_cons, apart]
          refine ((ih _ fewer others rfl).append_left _).trans (.trans (.of_eq ?_) whole)
          congr 1
          rw [List.filter_cons_of_neg (by simp)]
          exact List.filter_congr fun held _ => rfl

/-- A delay that is closed gives back all that it held, in whatever order the keys come. -/
theorem grouped_perm (delay : Delay α) : delay.grouped.Perm delay.pending :=
  ((delay.order.perm _ _).flatMap_right _).trans (keyed_perm delay.pending)

end Delay

/-! ### Layers -/

namespace Layer

def isBottom : Layer α → Bool
  | .memory _ | .disk _ => true
  | _ => false

def isGuard : Layer α → Bool
  | .guarded _ _ => true
  | _ => false

def isHeld : Layer α → Bool
  | .guarded _ state => state.held
  | _ => false

def found (tree : FileTree) (present : FileTime) (key : String) : Layer α → Lookup
  | .memory store => (store.get key).1
  | .disk store => (store.get tree key present).2.1
  | _ => .notFound

def noteBatch (size : Nat) : Layer α → Layer α
  | .delayed inner delay => .delayed inner (delay.noteBatch size)
  | layer => layer

theorem isHeld_noteBatch (layer : Layer α) (size : Nat) :
    (layer.noteBatch size).isHeld = layer.isHeld := by
  cases layer <;> rfl

def shut : Layer α → Layer α
  | .memory store => .memory store.shutDown
  | .disk store => .disk store.shutDown
  | layer => layer

theorem inner?_of_isBottom {layer : Layer α} (bottom : layer.isBottom = true) :
    layer.inner? = none := by
  cases layer <;> first | rfl | cases bottom

end Layer

/-! ### Who is told -/

namespace Receiver

def root : Receiver α → Receiver α
  | .place _ next | .member _ _ next => next.root
  | receiver => receiver

def Above (index : Nat) : Receiver α → Prop
  | .client _ => True
  | .place layer next | .member layer _ next => index < layer ∧ next.Above index
  | .ticket layer _ | .capture layer _ => index < layer

theorem Above.mono {receiver : Receiver α} {index lower : Nat} (above : receiver.Above index)
    (le : lower ≤ index) : receiver.Above lower := by
  induction receiver with
  | client callback => trivial
  | place layer next ih | member layer batch next ih =>
      exact ⟨Nat.lt_of_le_of_lt le above.1, ih above.2⟩
  | ticket layer number | capture layer number => exact Nat.lt_of_le_of_lt le above

end Receiver

namespace Work

def receivers : Work α → List (Receiver α)
  | .ask _ _ receiver | .answer receiver _ | .lose receiver | .hold _ _ _ receiver => [receiver]
  | .askMany _ requests => requests.map (·.receiver)
  | .inform callback _ | .forget callback => [.client callback]
  | _ => []

def entered? : Work α → Option Nat
  | .ask index _ _ | .askMany index _ | .shutDown index => some index
  | _ => none

def visits : Work α → List (Nat × Nat)
  | .handOut layer tickets => tickets.map (layer, ·)
  | .hold layer number _ _ => [(layer, number)]
  | _ => []

def spent : Work α → List (Receiver α)
  | .answer (.ticket layer number) _ => [.ticket layer number]
  | .answer (.capture layer number) _ => [.capture layer number]
  | _ => []

end Work

namespace Layer

def receivers : Layer α → List (Receiver α)
  | .admission _ state => state.queue.map (·.receiver)
  | .guarded _ state => state.tickets.map (·.receiver)
  | .delayed _ state => state.pending.map (·.receiver)
  | _ => []

end Layer

theorem Guard.number_eq {guarded : Guard (Receiver α)} {ticket : Ticket (Receiver α)} {number : Nat}
    (known : guarded.find? number = some ticket) : ticket.number = number := by
  simpa using List.find?_some known

/-! ### What work does -/

def Admission.members (index : Nat) (admission : Admission (Receiver α)) :
    List (Request (Receiver α)) :=
  admission.queue.map fun request =>
    ⟨request.key, .member index admission.freshBatch request.receiver⟩

/-- From a layer and a piece of work that is meant for it to what the layer becomes and the work that
is left behind; `found` is what the layer at the bottom answers. -/
inductive Act (index : Nat) (found : String → Lookup) :
    Layer α → Work α → Layer α → List (Work α) → Prop where
  | read {layer : Layer α} (key : String) (receiver : Receiver α)
      (bottom : layer.isBottom = true) :
      Act index found layer (.ask index key receiver) layer [.answer receiver (found key)]
  | refuse {inner : Nat} {admission : Admission (Receiver α)} (key : String)
      (receiver : Receiver α) (dropped : Nat)
      (busy : admission.closed = true ∨ admission.limit ≤ admission.inFlight) :
      Act index found (.admission inner admission) (.ask index key receiver)
        (.admission inner { admission with dropped }) [.answer receiver .notFound]
  | issue {inner : Nat} {admission : Admission (Receiver α)} (key : String)
      (receiver : Receiver α) (opened : admission.closed = false)
      (free : admission.inFlight < admission.limit) :
      Act index found (.admission inner admission) (.ask index key receiver)
        (.admission inner { admission with inFlight := admission.inFlight + 1 })
        [.ask inner key (.place index receiver)]
  | queue {inner : Nat} {admission : Admission (Receiver α)} (key : String)
      (receiver : Receiver α) (opened : admission.closed = false)
      (taken : admission.limit ≤ admission.inFlight) :
      Act index found (.admission inner admission) (.ask index key receiver)
        (.admission inner { admission with queue := admission.queue ++ [⟨key, receiver⟩] }) []
  | enter {inner : Nat} {guarded : Guard (Receiver α)} (key : String) (receiver : Receiver α)
      (free : guarded.held = false) :
      Act index found (.guarded inner guarded) (.ask index key receiver)
        (.guarded inner (guarded.take.issue receiver).1)
        [.ask inner key (.ticket index guarded.fresh), .freeGuard index,
          .handOut index [guarded.fresh]]
  | count {inner : Nat} {uses : Uses} (key : String) (receiver : Receiver α) (hits : Nat) :
      Act index found (.counted inner uses) (.ask index key receiver)
        (.counted inner { uses with gets := uses.gets + 1, hits }) [.ask inner key receiver]
  | postpone {inner : Nat} {delay : Delay (Receiver α)} (key : String) (receiver : Receiver α)
      (delays : delay.delays key = true) :
      Act index found (.delayed inner delay) (.ask index key receiver)
        (.delayed inner delay.beginCapture.1)
        [.ask inner key (.capture index delay.fresh), .hold index delay.fresh key receiver]
  | passOn {inner : Nat} {delay : Delay (Receiver α)} (key : String) (receiver : Receiver α)
      (prompt : delay.delays key = false) :
      Act index found (.delayed inner delay) (.ask index key receiver) (.delayed inner delay)
        [.ask inner key receiver]
  | spread {layer : Layer α} (requests : List (Request (Receiver α)))
      (unguarded : layer.isGuard = false) :
      Act index found layer (.askMany index requests) (layer.noteBatch requests.length)
        (Stack.askEach index requests)
  | enterAll {inner : Nat} {guarded : Guard (Receiver α)}
      (requests : List (Request (Receiver α))) (free : guarded.held = false) :
      Act index found (.guarded inner guarded) (.askMany index requests)
        (.guarded inner (Stack.issueAll index guarded.take requests).1)
        [.askMany inner (Stack.issueAll index guarded.take requests).2.1, .freeGuard index,
          .handOut index (Stack.issueAll index guarded.take requests).2.2]
  | keep {inner : Nat} {guarded : Guard (Receiver α)} {ticket : Ticket (Receiver α)}
      (number : Nat) (lookup : Lookup) (known : guarded.find? number = some ticket)
      (inside : ticket.inside = true) :
      Act index found (.guarded inner guarded) (.answer (.ticket index number) lookup)
        (.guarded inner (guarded.update { ticket with kept := some lookup })) []
  | handBack {inner : Nat} {guarded : Guard (Receiver α)} {ticket : Ticket (Receiver α)}
      (number : Nat) (lookup : Lookup) (known : guarded.find? number = some ticket)
      (outside : ticket.inside = false) :
      Act index found (.guarded inner guarded) (.answer (.ticket index number) lookup)
        (.guarded inner (guarded.without number)) [.answer ticket.receiver lookup]
  | capture {inner : Nat} {delay : Delay (Receiver α)} (number : Nat) (lookup : Lookup) :
      Act index found (.delayed inner delay) (.answer (.capture index number) lookup)
        (.delayed inner (delay.capture number lookup)) []
  | hold {inner : Nat} {delay : Delay (Receiver α)} (number : Nat) (key : String)
      (receiver : Receiver α) :
      Act index found (.delayed inner delay) (.hold index number key receiver)
        (.delayed inner (delay.hold number key receiver)) []
  | freeGuard {inner : Nat} {guarded : Guard (Receiver α)} :
      Act index found (.guarded inner guarded) (.freeGuard index) (.guarded inner guarded.free) []
  | skip {inner : Nat} {guarded : Guard (Receiver α)} (number : Nat) (tickets : List Nat)
      (unknown : guarded.find? number = none) :
      Act index found (.guarded inner guarded) (.handOut index (number :: tickets))
        (.guarded inner guarded) [.handOut index tickets]
  | deliver {inner : Nat} {guarded : Guard (Receiver α)} {ticket : Ticket (Receiver α)}
      {lookup : Lookup} (number : Nat) (tickets : List Nat)
      (known : guarded.find? number = some ticket) (kept : ticket.kept = some lookup) :
      Act index found (.guarded inner guarded) (.handOut index (number :: tickets))
        (.guarded inner (guarded.without number))
        [.answer ticket.receiver lookup, .handOut index tickets]
  | leave {inner : Nat} {guarded : Guard (Receiver α)} {ticket : Ticket (Receiver α)}
      (number : Nat) (tickets : List Nat) (known : guarded.find? number = some ticket)
      (empty : ticket.kept = none) :
      Act index found (.guarded inner guarded) (.handOut index (number :: tickets))
        (.guarded inner (guarded.update { ticket with inside := false }))
        [.handOut index tickets]
  | vacate {inner : Nat} {admission : Admission (Receiver α)} (empty : admission.queue = []) :
      Act index found (.admission inner admission) (.freePlace index)
        (.admission inner { admission with inFlight := admission.inFlight - 1 }) []
  | flush {inner : Nat} {admission : Admission (Receiver α)} (waiting : admission.queue ≠ []) :
      Act index found (.admission inner admission) (.freePlace index)
        (.admission inner { admission with
          queue := []
          lastBatch := admission.queue.length
          batches := ⟨admission.freshBatch, admission.queue.length⟩ :: admission.batches
          freshBatch := admission.freshBatch + 1 })
        [.askMany inner (admission.members index)]
  | member {inner : Nat} {admission : Admission (Receiver α)} (number : Nat)
      (batches : List Batch) (last : Bool) :
      Act index found (.admission inner admission) (.countMember index number)
        (.admission inner { admission with batches }) (if last then [.freePlace index] else [])
  | closeBottom {layer : Layer α} (bottom : layer.isBottom = true) :
      Act index found layer (.shutDown index) layer.shut []
  | closeAdmission {inner : Nat} {admission : Admission (Receiver α)} :
      Act index found (.admission inner admission) (.shutDown index)
        (.admission inner { admission with closed := true, queue := [] })
        (Stack.answerAll (admission.queue.map (·.receiver)) .notFound ++ [.shutDown inner])
  | closeGuard {inner : Nat} {guarded : Guard (Receiver α)} (free : guarded.held = false) :
      Act index found (.guarded inner guarded) (.shutDown index) (.guarded inner guarded.take)
        [.shutDown inner, .freeGuard index]
  | closeCounted {inner : Nat} {uses : Uses} :
      Act index found (.counted inner uses) (.shutDown index) (.counted inner uses)
        [.shutDown inner]
  | closeDelay {inner : Nat} {delay : Delay (Receiver α)} :
      Act index found (.delayed inner delay) (.shutDown index)
        (.delayed inner { delay with delayed := [], pending := [] })
        (Stack.answerAll (delay.grouped.map (·.receiver)) .notFound ++ [.shutDown inner])
  | release {inner : Nat} {delay : Delay (Receiver α)} (key : String) :
      Act index found (.delayed inner delay) (.release index key)
        (.delayed inner (delay.release key).1)
        ((delay.release key).2.map fun held => .answer held.receiver held.lookup)

inductive Passage : Work α → List (Work α) → Prop where
  | client (callback : α) (lookup : Lookup) :
      Passage (.answer (.client callback) lookup) [.inform callback lookup]
  | place (layer : Nat) (next : Receiver α) (lookup : Lookup) :
      Passage (.answer (.place layer next) lookup) [.answer next lookup, .freePlace layer]
  | member (layer batch : Nat) (next : Receiver α) (lookup : Lookup) :
      Passage (.answer (.member layer batch next) lookup)
        [.answer next lookup, .countMember layer batch]

namespace Stack

def found (stack : Stack α) (key : String) : Lookup :=
  ((stack.layer? 0).map (Layer.found stack.tree stack.present key)).getD .notFound

/-- A memory or a disk layer under decorators, each over the one before. -/
structure Decorated (stack : Stack α) : Prop where
  bottom : ∃ layer, stack.layer? 0 = some layer ∧ layer.isBottom = true
  onto : ∀ index layer, stack.layer? (index + 1) = some layer → layer.inner? = some index

variable {stack next : Stack α} {index : Nat} {layer before after : Layer α} {work : Work α}

theorem Decorated.isBottom_of_inner? (decorated : stack.Decorated)
    (placed : stack.layer? index = some layer) (single : layer.inner? = none) :
    index = 0 ∧ layer.isBottom = true := by
  cases index with
  | zero =>
      obtain ⟨bottom, first, holds⟩ := decorated.bottom
      cases placed.symm.trans first
      exact ⟨rfl, holds⟩
  | succ below =>
      rw [decorated.onto below layer placed] at single
      cases single

theorem Decorated.inner_eq (decorated : stack.Decorated) {inner : Nat}
    (placed : stack.layer? index = some layer) (onto : layer.inner? = some inner) :
    index = inner + 1 := by
  cases index with
  | zero =>
      obtain ⟨bottom, first, holds⟩ := decorated.bottom
      cases placed.symm.trans first
      rw [Layer.inner?_of_isBottom holds] at onto
      cases onto
  | succ below =>
      rw [decorated.onto below layer placed] at onto
      cases onto
      rfl

structure Altered (stack next : Stack α) (index : Nat) (layer : Layer α) : Prop where
  layers : next.layers = stack.layers.set index layer
  moving : next.stuck = false
  departures : next.departures = stack.departures
  found : ∀ key, next.found key = stack.found key ∨ next.found key = .notFound

inductive Effect (stack : Stack α) : Work α → Stack α → List (Work α) → Prop where
  | act {index : Nat} {before after : Layer α} {work : Work α} {more : List (Work α)}
      {next : Stack α} (placed : stack.layer? index = some before)
      (act : Act index stack.found before work after more)
      (altered : stack.Altered next index after) : Effect stack work next more
  | pass {work : Work α} {more : List (Work α)} (passage : Passage work more) :
      Effect stack work stack more
  | idle {work : Work α} (nothing : work.receivers = work.spent) (ended : work.visits = [])
      (passed : work.entered? = none)
      (unknown : ∀ index number, .ticket index number ∈ work.spent → ∀ inner guarded,
        stack.layer? index = some (.guarded inner guarded) → guarded.find? number = none) :
      Effect stack work stack []

inductive Expected (stack : Stack α) : Work α → Prop where
  | ask {index : Nat} (key : String) (receiver : Receiver α)
      (inside : index < stack.layers.length) : Expected stack (.ask index key receiver)
  | askMany {index : Nat} (requests : List (Request (Receiver α)))
      (inside : index < stack.layers.length) : Expected stack (.askMany index requests)
  | answer (receiver : Receiver α) (lookup : Lookup) : Expected stack (.answer receiver lookup)
  | hold {index inner : Nat} {delay : Delay (Receiver α)} (number : Nat) (key : String)
      (receiver : Receiver α) (placed : stack.layer? index = some (.delayed inner delay)) :
      Expected stack (.hold index number key receiver)
  | freeGuard (index : Nat) : Expected stack (.freeGuard index)
  | handOut {index inner : Nat} {guarded : Guard (Receiver α)} (tickets : List Nat)
      (placed : stack.layer? index = some (.guarded inner guarded)) :
      Expected stack (.handOut index tickets)
  | freePlace (index : Nat) : Expected stack (.freePlace index)
  | countMember (index batch : Nat) : Expected stack (.countMember index batch)
  | shutDown {index : Nat} (inside : index < stack.layers.length) :
      Expected stack (.shutDown index)
  | release (index : Nat) (key : String) : Expected stack (.release index key)
  | inform (callback : α) (lookup : Lookup) : Expected stack (.inform callback lookup)

def Blocked (stack : Stack α) (work : Work α) : Prop :=
  ∃ index layer, work.entered? = some index ∧ stack.layer? index = some layer ∧
    layer.isHeld = true

private theorem found_of_eq (same : next.layer? 0 = stack.layer? 0) (tree : next.tree = stack.tree)
    (present : next.present = stack.present) (key : String) : next.found key = stack.found key := by
  rw [found, found, same, tree, present]

theorem Decorated.altered (decorated : stack.Decorated) (moving : stack.stuck = false)
    (placed : stack.layer? index = some before) (upper : before.isBottom = false)
    (signals : List Signal) :
    stack.Altered ((stack.setLayer index after).signal signals) index after where
  layers := rfl
  moving := moving
  departures := rfl
  found := by
    have above : index ≠ 0 := by
      intro same
      rw [same] at placed
      obtain ⟨bottom, first, holds⟩ := decorated.bottom
      cases placed.symm.trans first
      rw [upper] at holds
      cases holds
    exact fun key => .inl (found_of_eq (layer?_setLayer_of_ne above) rfl rfl key)

theorem set_of_layer? (placed : stack.layer? index = some layer) :
    stack.layers.set index layer = stack.layers := by
  obtain ⟨inside, same⟩ := List.getElem?_eq_some_iff.mp placed
  rw [← same]
  exact List.set_getElem_self inside

theorem altered_self (moving : stack.stuck = false) (placed : stack.layer? index = some layer) :
    stack.Altered stack index layer where
  layers := (set_of_layer? placed).symm
  moving := moving
  departures := rfl
  found := fun _ => .inl rfl

/-! ### Each kind of work has one of the effects -/

private theorem idle_effect (unanswering : work.spent = []) (nothing : work.receivers = [])
    (ended : work.visits = []) (passed : work.entered? = none) : Effect stack work stack [] :=
  .idle (nothing.trans unanswering.symm) ended passed fun _ _ member => by
    rw [unanswering] at member
    cases member

private theorem ask_bottom_effect (decorated : stack.Decorated) (moving : stack.stuck = false)
    (placed : stack.layer? index = some layer) (single : layer.inner? = none) (key : String)
    (receiver : Receiver α) :
    Effect stack (.ask index key receiver) (stack.ask index key receiver).1
      (stack.ask index key receiver).2 := by
  obtain ⟨rfl, bottom⟩ := decorated.isBottom_of_inner? placed single
  cases layer with
  | memory store =>
      have answered : stack.ask 0 key receiver =
          (stack.signal (store.get key).2, [.answer receiver (stack.found key)]) := by
        simp only [ask, found, placed, Option.map_some, Option.getD_some, Layer.found]
      rw [answered]
      exact .act placed (.read key receiver bottom)
        ⟨(set_of_layer? placed).symm, moving, rfl, fun _ => .inl rfl⟩
  | disk store =>
      have answered : stack.ask 0 key receiver =
          ({ stack with tree := (store.get stack.tree key stack.present).1 }.signal
              (store.get stack.tree key stack.present).2.2,
            [.answer receiver (stack.found key)]) := by
        simp only [ask, found, placed, Option.map_some, Option.getD_some, Layer.found]
      rw [answered]
      refine .act placed (.read key receiver bottom)
        ⟨(set_of_layer? placed).symm, moving, rfl, fun other => .inl ?_⟩
      have there : ({ stack with tree := (store.get stack.tree key stack.present).1 }.signal
          (store.get stack.tree key stack.present).2.2).layer? 0 = some (.disk store) := placed
      simp only [found, there, placed, Option.map_some, Option.getD_some, Layer.found]
      exact store.get_get stack.tree key other stack.present
  | _ => cases bottom

private theorem ask_admission_effect (decorated : stack.Decorated) (moving : stack.stuck = false)
    {inner : Nat} {admission : Admission (Receiver α)}
    (placed : stack.layer? index = some (.admission inner admission)) (key : String)
    (receiver : Receiver α) :
    Effect stack (.ask index key receiver) (stack.ask index key receiver).1
      (stack.ask index key receiver).2 := by
  have altered (changed : Admission (Receiver α)) (signals : List Signal) :
      stack.Altered ((stack.setLayer index (.admission inner changed)).signal signals) index
        (.admission inner changed) :=
    decorated.altered moving placed rfl signals
  simp only [ask, placed]
  by_cases closed : admission.closed = true
  · have arrived : admission.arrive ⟨key, receiver⟩ = (admission, .refused) := by
      rw [Admission.arrive, if_pos closed]
    simp only [arrived]
    exact .act placed (.refuse key receiver admission.dropped (.inl closed)) (altered admission [])
  · have opened : admission.closed = false := Bool.eq_false_iff.mpr closed
    by_cases free : admission.inFlight < admission.limit
    · have arrived : admission.arrive ⟨key, receiver⟩ =
          ({ admission with inFlight := admission.inFlight + 1 }, .issued) := by
        rw [Admission.arrive, if_neg closed, if_pos free]
      simp only [arrived]
      exact .act placed (.issue key receiver opened free) (altered _ [])
    · have taken : admission.limit ≤ admission.inFlight := Nat.le_of_not_lt free
      by_cases room : admission.queue.length < admission.settings.maximumQueue
      · have arrived : admission.arrive ⟨key, receiver⟩ =
            ({ admission with queue := admission.queue ++ [⟨key, receiver⟩] }, .queued) := by
          rw [Admission.arrive, if_neg closed, if_neg free, if_pos room]
        simp only [arrived]
        exact .act placed (.queue key receiver opened taken) (altered _ [])
      · have arrived : admission.arrive ⟨key, receiver⟩ =
            ({ admission with dropped := admission.dropped + 1 }, .dropped) := by
          rw [Admission.arrive, if_neg closed, if_neg free, if_neg room]
        simp only [arrived]
        exact .act placed (.refuse key receiver _ (.inr taken)) (altered _ _)

private theorem ask_effect (decorated : stack.Decorated) (moving : stack.stuck = false)
    (placed : stack.layer? index = some layer) (free : layer.isHeld = false) (key : String)
    (receiver : Receiver α) :
    Effect stack (.ask index key receiver) (stack.ask index key receiver).1
      (stack.ask index key receiver).2 := by
  cases layer with
  | admission inner admission => exact ask_admission_effect decorated moving placed key receiver
  | guarded inner guarded =>
      have outside : guarded.held = false := free
      simp only [ask, placed, outside, Bool.false_eq_true, if_false]
      exact .act placed (.enter key receiver outside) (decorated.altered moving placed rfl [])
  | counted inner uses =>
      simp only [ask, placed]
      exact .act placed (.count key receiver _) (decorated.altered moving placed rfl [])
  | delayed inner delay =>
      simp only [ask, placed]
      by_cases delays : delay.delays key = true
      · rw [if_pos delays]
        exact .act placed (.postpone key receiver delays) (decorated.altered moving placed rfl [])
      · rw [if_neg delays]
        exact .act placed (.passOn key receiver (Bool.eq_false_iff.mpr delays))
          (altered_self moving placed)
  | memory store | disk store | remote store | void =>
      exact ask_bottom_effect decorated moving placed rfl key receiver

private theorem askMany_effect (decorated : stack.Decorated) (moving : stack.stuck = false)
    (placed : stack.layer? index = some layer) (free : layer.isHeld = false)
    (requests : List (Request (Receiver α))) :
    Effect stack (.askMany index requests) (stack.askMany index requests).1
      (stack.askMany index requests).2 := by
  cases layer with
  | guarded inner guarded =>
      have outside : guarded.held = false := free
      simp only [askMany, placed, outside, Bool.false_eq_true, if_false]
      exact .act placed (.enterAll requests outside) (decorated.altered moving placed rfl [])
  | delayed inner delay =>
      simp only [askMany, placed]
      exact .act placed (.spread requests rfl) (decorated.altered moving placed rfl [])
  | _ =>
      simp only [askMany, placed]
      exact .act placed (.spread requests rfl) (altered_self moving placed)

private theorem answer_effect (decorated : stack.Decorated) (moving : stack.stuck = false)
    (receiver : Receiver α) (lookup : Lookup) :
    Effect stack (.answer receiver lookup) (stack.answer receiver lookup).1
      (stack.answer receiver lookup).2 := by
  cases receiver with
  | client callback => exact .pass (.client callback lookup)
  | place layer next => exact .pass (.place layer next lookup)
  | member layer batch next => exact .pass (.member layer batch next lookup)
  | ticket index number =>
      rw [answer]
      split
      · rename_i inner guarded placed
        cases known : guarded.find? number with
        | none =>
            simp only [Guard.answer, known]
            change Effect stack _ { stack with layers := stack.layers.set index _ } []
            rw [set_of_layer? placed]
            refine .idle rfl rfl rfl fun layer other member inner state there => ?_
            cases List.mem_singleton.mp member
            cases placed.symm.trans there
            exact known
        | some ticket =>
            simp only [Guard.answer, known]
            by_cases inside : ticket.inside = true
            · rw [if_pos inside]
              exact .act placed (.keep number lookup known inside)
                (decorated.altered moving placed rfl [])
            · rw [if_neg inside]
              exact .act placed (.handBack number lookup known (Bool.eq_false_iff.mpr inside))
                (decorated.altered moving placed rfl [])
      · rename_i other
        refine .idle rfl rfl rfl fun layer number member inner state there => ?_
        cases List.mem_singleton.mp member
        exact absurd there (other inner state)
  | capture index number =>
      rw [answer]
      split
      · rename_i inner delay placed
        exact .act placed (.capture number lookup) (decorated.altered moving placed rfl [])
      · refine .idle rfl rfl rfl fun layer number member => ?_
        cases List.mem_singleton.mp member

private theorem handOut_effect (decorated : stack.Decorated) (moving : stack.stuck = false)
    {inner : Nat} {guarded : Guard (Receiver α)}
    (placed : stack.layer? index = some (.guarded inner guarded)) (tickets : List Nat) :
    Effect stack (.handOut index tickets) (stack.handOut index tickets).1
      (stack.handOut index tickets).2 := by
  cases tickets with
  | nil => exact idle_effect rfl rfl rfl rfl
  | cons number rest =>
      rw [handOut, placed]
      cases known : guarded.find? number with
      | none =>
          simp only [Guard.leave, known]
          exact .act placed (.skip number rest known) (decorated.altered moving placed rfl [])
      | some ticket =>
          cases kept : ticket.kept with
          | none =>
              have left : guarded.leave number =
                  (guarded.update { ticket with inside := false }, none) := by
                rw [Guard.leave, known]
                split
                · rename_i missing
                  cases missing
                · rename_i same
                  cases same
                  rw [kept]
              simp only [left]
              exact .act placed (.leave number rest known kept)
                (decorated.altered moving placed rfl [])
          | some lookup =>
              simp only [Guard.leave, known, kept]
              exact .act placed (.deliver number rest known kept)
                (decorated.altered moving placed rfl [])

private theorem freePlace_effect (decorated : stack.Decorated) (moving : stack.stuck = false)
    (index : Nat) :
    Effect stack (.freePlace index) (stack.freePlace index).1 (stack.freePlace index).2 := by
  rw [freePlace]
  split
  · rename_i inner admission placed
    by_cases empty : admission.queue = []
    · have finished : admission.finish =
          ({ admission with inFlight := admission.inFlight - 1 }, none) := by
        rw [Admission.finish, if_pos (List.isEmpty_iff.mpr empty)]
      simp only [finished]
      exact .act placed (.vacate empty) (decorated.altered moving placed rfl [])
    · have waiting : ¬admission.queue.isEmpty = true := fun same => empty (List.isEmpty_iff.mp same)
      simp only [Admission.finish, if_neg waiting]
      exact .act placed (.flush empty) (decorated.altered moving placed rfl _)
  · exact idle_effect rfl rfl rfl rfl

private theorem countMember_effect (decorated : stack.Decorated) (moving : stack.stuck = false)
    (index batch : Nat) :
    Effect stack (.countMember index batch) (stack.countMember index batch).1
      (stack.countMember index batch).2 := by
  rw [countMember]
  split
  · rename_i inner admission placed
    obtain ⟨batches, last, counted⟩ : ∃ batches last,
        admission.memberDone batch = ({ admission with batches }, last) := by
      rw [Admission.memberDone]
      split
      · exact ⟨admission.batches, false, rfl⟩
      · split
        · exact ⟨_, true, rfl⟩
        · exact ⟨_, false, rfl⟩
    simp only [counted]
    exact .act placed (.member batch batches last) (decorated.altered moving placed rfl [])
  · exact idle_effect rfl rfl rfl rfl

private theorem shutDown_effect (decorated : stack.Decorated) (moving : stack.stuck = false)
    (placed : stack.layer? index = some layer) (free : layer.isHeld = false) :
    Effect stack (.shutDown index) (stack.shutDown index).1 (stack.shutDown index).2 := by
  cases layer with
  | admission inner admission =>
      simp only [shutDown, placed, Admission.close]
      exact .act placed .closeAdmission (decorated.altered moving placed rfl [])
  | guarded inner guarded =>
      have outside : guarded.held = false := free
      simp only [shutDown, placed, outside, Bool.false_eq_true, if_false]
      exact .act placed (.closeGuard outside) (decorated.altered moving placed rfl [])
  | counted inner uses =>
      simp only [shutDown, placed]
      exact .act placed .closeCounted (altered_self moving placed)
  | delayed inner delay =>
      simp only [shutDown, placed, Delay.close]
      exact .act placed .closeDelay (decorated.altered moving placed rfl [])
  | memory store =>
      obtain ⟨rfl, bottom⟩ := decorated.isBottom_of_inner? placed rfl
      simp only [shutDown, placed]
      refine .act placed (.closeBottom bottom) ⟨rfl, moving, rfl, fun key => .inr ?_⟩
      rw [found, layer?_setLayer_self placed]
      simp [Layer.found, MemoryStore.shutDown, MemoryStore.get]
  | disk store =>
      obtain ⟨rfl, bottom⟩ := decorated.isBottom_of_inner? placed rfl
      simp only [shutDown, placed]
      refine .act placed (.closeBottom bottom) ⟨rfl, moving, rfl, fun key => .inr ?_⟩
      rw [found, layer?_setLayer_self placed]
      simp [Layer.found, DiskStore.shutDown, DiskStore.get]
  | remote store | void => cases (decorated.isBottom_of_inner? placed rfl).2

private theorem release_effect (decorated : stack.Decorated) (moving : stack.stuck = false)
    (index : Nat) (key : String) :
    Effect stack (.release index key) (stack.release index key).1 (stack.release index key).2 := by
  rw [release]
  split
  · rename_i inner delay placed
    exact .act placed (.release key) (decorated.altered moving placed rfl [])
  · exact idle_effect rfl rfl rfl rfl

/-- Work that can be met with, and that waits for no guard, has one of the effects. -/
theorem Decorated.effect (decorated : stack.Decorated) (moving : stack.stuck = false)
    (expected : Expected stack work) (quiet : ∀ callback lookup, work ≠ .inform callback lookup)
    (unblocked : ¬Blocked stack work) :
    Effect stack work (stack.perform work).1 (stack.perform work).2 := by
  have entered {index : Nat} (inside : index < stack.layers.length)
      (goes : work.entered? = some index) :
      ∃ layer, stack.layer? index = some layer ∧ layer.isHeld = false := by
    refine ⟨_, List.getElem?_eq_getElem inside, Bool.eq_false_iff.mpr fun held => unblocked ?_⟩
    exact ⟨index, _, goes, List.getElem?_eq_getElem inside, held⟩
  cases expected with
  | ask key receiver inside =>
      obtain ⟨layer, placed, free⟩ := entered inside rfl
      simp only [perform, moving, Bool.false_eq_true, if_false]
      exact ask_effect decorated moving placed free key receiver
  | askMany requests inside =>
      obtain ⟨layer, placed, free⟩ := entered inside rfl
      simp only [perform, moving, Bool.false_eq_true, if_false]
      exact askMany_effect decorated moving placed free requests
  | answer receiver lookup =>
      simp only [perform, moving, Bool.false_eq_true, if_false]
      exact answer_effect decorated moving receiver lookup
  | hold number key receiver placed =>
      simp only [perform, moving, Bool.false_eq_true, if_false, Stack.hold, placed]
      exact .act placed (.hold number key receiver) (decorated.altered moving placed rfl [])
  | freeGuard index =>
      simp only [perform, moving, Bool.false_eq_true, if_false]
      rw [freeGuard]
      split
      · rename_i inner guarded placed
        exact .act placed .freeGuard (decorated.altered moving placed rfl [])
      · exact idle_effect rfl rfl rfl rfl
  | handOut tickets placed =>
      simp only [perform, moving, Bool.false_eq_true, if_false]
      exact handOut_effect decorated moving placed tickets
  | freePlace index =>
      simp only [perform, moving, Bool.false_eq_true, if_false]
      exact freePlace_effect decorated moving index
  | countMember index batch =>
      simp only [perform, moving, Bool.false_eq_true, if_false]
      exact countMember_effect decorated moving index batch
  | shutDown inside =>
      obtain ⟨layer, placed, free⟩ := entered inside rfl
      simp only [perform, moving, Bool.false_eq_true, if_false]
      exact shutDown_effect decorated moving placed free
  | release index key =>
      simp only [perform, moving, Bool.false_eq_true, if_false]
      exact release_effect decorated moving index key
  | inform callback lookup => exact absurd rfl (quiet callback lookup)

/-! ### What every effect keeps -/

end Stack

inductive Layer.Alike : Layer α → Layer α → Prop where
  | admission (inner : Nat) (left right : Admission (Receiver α)) :
      Alike (.admission inner left) (.admission inner right)
  | guarded (inner : Nat) (left right : Guard (Receiver α)) :
      Alike (.guarded inner left) (.guarded inner right)
  | counted (inner : Nat) (left right : Uses) : Alike (.counted inner left) (.counted inner right)
  | delayed (inner : Nat) (left right : Delay (Receiver α)) :
      Alike (.delayed inner left) (.delayed inner right)
  | bottom {left right : Layer α} (before : left.isBottom = true) (after : right.isBottom = true) :
      Alike left right

theorem Layer.Alike.inner?_eq {left right : Layer α} (alike : left.Alike right) :
    right.inner? = left.inner? := by
  cases alike with
  | bottom before after =>
      rw [inner?_of_isBottom before, inner?_of_isBottom after]
  | _ => rfl

theorem Layer.Alike.isBottom_eq {left right : Layer α} (alike : left.Alike right) :
    right.isBottom = left.isBottom := by
  cases alike with
  | bottom before after => rw [before, after]
  | _ => rfl

theorem Layer.alike_of_bottom_or_inner? {layer : Layer α}
    (known : layer.isBottom = true ∨ layer.inner?.isSome = true) : layer.Alike layer := by
  cases layer with
  | memory store | disk store => exact .bottom rfl rfl
  | admission inner state => exact .admission inner state state
  | guarded inner state => exact .guarded inner state state
  | counted inner state => exact .counted inner state state
  | delayed inner state => exact .delayed inner state state
  | remote store | void => rcases known with known | known <;> cases known

theorem Layer.isBottom_shut {layer : Layer α} (bottom : layer.isBottom = true) :
    layer.shut.isBottom = true := by
  cases layer <;> first | rfl | cases bottom

theorem Act.alike {index : Nat} {found : String → Lookup} {before after : Layer α} {work : Work α}
    {more : List (Work α)} (act : Act index found before work after more)
    (known : before.isBottom = true ∨ before.inner?.isSome = true) : before.Alike after := by
  cases act with
  | read key receiver bottom => exact .bottom bottom bottom
  | closeBottom bottom => exact .bottom bottom (Layer.isBottom_shut bottom)
  | spread requests unguarded =>
      cases before with
      | delayed inner state => exact .delayed inner _ _
      | _ => exact Layer.alike_of_bottom_or_inner? known
  | _ => constructor

namespace Stack

variable {stack next : Stack α} {index : Nat} {layer before after : Layer α} {work : Work α}
  {more : List (Work α)}

structure Alike (stack next : Stack α) : Prop where
  length_eq : next.layers.length = stack.layers.length
  layers : ∀ index layer, stack.layer? index = some layer →
    ∃ changed, next.layer? index = some changed ∧ layer.Alike changed

theorem Decorated.known (decorated : stack.Decorated) (placed : stack.layer? index = some layer) :
    layer.isBottom = true ∨ layer.inner?.isSome = true := by
  cases index with
  | zero =>
      obtain ⟨bottom, first, holds⟩ := decorated.bottom
      cases placed.symm.trans first
      exact .inl holds
  | succ below =>
      right
      rw [decorated.onto below layer placed]
      rfl

theorem Decorated.alike_self (decorated : stack.Decorated) : stack.Alike stack :=
  ⟨rfl, fun _ layer placed => ⟨layer, placed, Layer.alike_of_bottom_or_inner? (decorated.known placed)⟩⟩

theorem Alike.layer?_back (alike : stack.Alike next) {changed : Layer α}
    (placed : next.layer? index = some changed) :
    ∃ layer, stack.layer? index = some layer ∧ layer.Alike changed := by
  have inside : index < stack.layers.length := by
    rw [← alike.length_eq]
    exact (List.getElem?_eq_some_iff.mp placed).1
  have there : stack.layer? index = some stack.layers[index] := List.getElem?_eq_getElem inside
  obtain ⟨other, same, like⟩ := alike.layers index _ there
  cases placed.symm.trans same
  exact ⟨_, there, like⟩

theorem Alike.decorated (alike : stack.Alike next) (decorated : stack.Decorated) :
    next.Decorated where
  bottom := by
    obtain ⟨bottom, first, holds⟩ := decorated.bottom
    obtain ⟨changed, placed, like⟩ := alike.layers 0 bottom first
    exact ⟨changed, placed, like.isBottom_eq.trans holds⟩
  onto := by
    intro below changed placed
    obtain ⟨layer, there, like⟩ := alike.layer?_back placed
    rw [like.inner?_eq]
    exact decorated.onto below layer there

theorem Alike.expected (alike : stack.Alike next) (expected : Expected stack work) :
    Expected next work := by
  cases expected with
  | ask key receiver inside => exact .ask key receiver (alike.length_eq ▸ inside)
  | askMany requests inside => exact .askMany requests (alike.length_eq ▸ inside)
  | shutDown inside => exact .shutDown (alike.length_eq ▸ inside)
  | answer receiver lookup => exact .answer receiver lookup
  | hold number key receiver placed =>
      obtain ⟨changed, there, like⟩ := alike.layers _ _ placed
      cases like with
      | bottom before after => cases before
      | delayed inner left right => exact .hold number key receiver there
  | handOut tickets placed =>
      obtain ⟨changed, there, like⟩ := alike.layers _ _ placed
      cases like with
      | bottom before after => cases before
      | guarded inner left right => exact .handOut tickets there
  | freeGuard index => exact .freeGuard index
  | freePlace index => exact .freePlace index
  | countMember index batch => exact .countMember index batch
  | release index key => exact .release index key
  | inform callback lookup => exact .inform callback lookup

theorem Altered.layer?_self (altered : stack.Altered next index after)
    (placed : stack.layer? index = some before) : next.layer? index = some after := by
  have inside : index < stack.layers.length := (List.getElem?_eq_some_iff.mp placed).1
  rw [layer?, altered.layers, List.getElem?_set_self inside]

theorem Altered.layer?_of_ne (altered : stack.Altered next index after) {other : Nat}
    (different : index ≠ other) : next.layer? other = stack.layer? other := by
  rw [layer?, altered.layers, List.getElem?_set_ne different]
  rfl

theorem Altered.alike (altered : stack.Altered next index after) (decorated : stack.Decorated)
    (placed : stack.layer? index = some before) (like : before.Alike after) :
    stack.Alike next where
  length_eq := by rw [altered.layers, List.length_set]
  layers := by
    intro other layer there
    by_cases same : index = other
    · cases same
      cases placed.symm.trans there
      exact ⟨after, altered.layer?_self placed, like⟩
    · exact ⟨layer, (altered.layer?_of_ne same).trans there,
        Layer.alike_of_bottom_or_inner? (decorated.known there)⟩

theorem Effect.alike (effect : Effect stack work next more) (decorated : stack.Decorated) :
    stack.Alike next := by
  cases effect with
  | act placed act altered =>
      exact altered.alike decorated placed (act.alike (decorated.known placed))
  | pass | idle => exact decorated.alike_self

theorem Effect.act_of_entered (effect : Effect stack work next more)
    (enters : work.entered? = some index) : ∃ before after, stack.layer? index = some before ∧
      Act index stack.found before work after more ∧ stack.Altered next index after := by
  cases effect with
  | @act other before after _ _ _ placed act altered =>
      have same : other = index := by
        cases act <;> cases enters <;> rfl
      cases same
      exact ⟨before, after, placed, act, altered⟩
  | pass passage => cases passage <;> cases enters
  | idle nothing ended passed =>
      rw [passed] at enters
      cases enters

theorem Effect.moving (effect : Effect stack work next more) (moving : stack.stuck = false) :
    next.stuck = false := by
  cases effect with
  | act placed act altered => exact altered.moving
  | pass | idle => exact moving

/-- The work that a layer leaves behind can be met with in a stack with what the layer becomes. -/
theorem Act.expected {found : String → Lookup} (act : Act index found before work after more)
    (placed : next.layer? index = some after)
    (inner : ∀ below, before.inner? = some below → below < next.layers.length) :
    ∀ follower ∈ more, Expected next follower := by
  have nothing : ∀ follower ∈ ([] : List (Work α)), Expected next follower := List.forall_mem_nil _
  cases act with
  | read | refuse | handBack => exact List.forall_mem_singleton.mpr (.answer _ _)
  | issue | count | passOn => exact List.forall_mem_singleton.mpr (.ask _ _ (inner _ rfl))
  | enter =>
      exact List.forall_mem_cons.mpr ⟨.ask _ _ (inner _ rfl), List.forall_mem_cons.mpr
        ⟨.freeGuard index, List.forall_mem_singleton.mpr (.handOut _ placed)⟩⟩
  | postpone =>
      exact List.forall_mem_cons.mpr
        ⟨.ask _ _ (inner _ rfl), List.forall_mem_singleton.mpr (.hold _ _ _ placed)⟩
  | spread requests unguarded =>
      have inside := (List.getElem?_eq_some_iff.mp placed).1
      exact List.forall_mem_map.mpr fun request _ => .ask _ _ inside
  | enterAll =>
      exact List.forall_mem_cons.mpr ⟨.askMany _ (inner _ rfl), List.forall_mem_cons.mpr
        ⟨.freeGuard index, List.forall_mem_singleton.mpr (.handOut _ placed)⟩⟩
  | skip | leave => exact List.forall_mem_singleton.mpr (.handOut _ placed)
  | deliver =>
      exact List.forall_mem_cons.mpr
        ⟨.answer _ _, List.forall_mem_singleton.mpr (.handOut _ placed)⟩
  | flush => exact List.forall_mem_singleton.mpr (.askMany _ (inner _ rfl))
  | member number batches last =>
      cases last with
      | true => exact List.forall_mem_singleton.mpr (.freePlace index)
      | false => exact nothing
  | closeAdmission | closeDelay =>
      exact List.forall_mem_append.mpr ⟨List.forall_mem_map.mpr fun receiver _ => .answer _ _,
        List.forall_mem_singleton.mpr (.shutDown (inner _ rfl))⟩
  | closeGuard =>
      exact List.forall_mem_cons.mpr
        ⟨.shutDown (inner _ rfl), List.forall_mem_singleton.mpr (.freeGuard index)⟩
  | closeCounted => exact List.forall_mem_singleton.mpr (.shutDown (inner _ rfl))
  | release key => exact List.forall_mem_map.mpr fun held _ => .answer _ _
  | keep | capture | hold | freeGuard | vacate | closeBottom | queue => exact nothing

theorem Effect.expected (effect : Effect stack work next more) (decorated : stack.Decorated)
    (expected : Expected stack work) : ∀ follower ∈ more, Expected next follower := by
  have alike := effect.alike decorated
  cases effect with
  | pass passage =>
      cases passage with
      | client callback lookup => exact List.forall_mem_singleton.mpr (.inform callback lookup)
      | place layer rest lookup =>
          exact List.forall_mem_cons.mpr
            ⟨.answer rest lookup, List.forall_mem_singleton.mpr (.freePlace layer)⟩
      | member layer batch rest lookup =>
          exact List.forall_mem_cons.mpr
            ⟨.answer rest lookup, List.forall_mem_singleton.mpr (.countMember layer batch)⟩
  | idle => exact List.forall_mem_nil _
  | act placed act altered =>
      refine Act.expected act (altered.layer?_self placed) fun below onto => ?_
      have inside := (List.getElem?_eq_some_iff.mp placed).1
      rw [decorated.inner_eq placed onto] at inside
      rw [alike.length_eq]
      omega

end Stack

end TieredCache
