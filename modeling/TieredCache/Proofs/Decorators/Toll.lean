import Mathlib.Algebra.Order.BigOperators.Group.List
import Mathlib.Algebra.Order.Ring.Nat
import TieredCache.Proofs.Decorators.Act

/-!
How much work is left in a stack of decorators. What a layer holds back counts as well, so that what
a callback sets free is paid for when it was handed in.
-/

namespace TieredCache

variable {α : Type}

def Receiver.toll : Receiver α → Nat
  | .client _ => 2
  | .place _ next => next.toll + 2
  | .member _ _ next => next.toll + 3
  | .ticket _ _ | .capture _ _ => 1

def descent (index : Nat) : Nat := 5 * index + 1

theorem descent_succ (index : Nat) : descent (index + 1) = descent index + 5 := by
  unfold descent
  omega

def batchToll (index : Nat) (requests : List (Request (Receiver α))) : Nat :=
  (requests.map fun request => descent index + request.receiver.toll).sum

def Work.toll : Work α → Nat
  | .ask index _ receiver => descent index + receiver.toll
  | .askMany index requests => batchToll index requests + 1 + if requests = [] then 3 * index else 0
  | .answer receiver _ | .lose receiver => receiver.toll
  | .hold _ _ _ receiver => receiver.toll + 1
  | .handOut _ tickets => tickets.length + 1
  | .countMember _ _ => 2
  | .put index _ _ | .delete index _ | .shutDown index => 2 * index + 1
  | .freeGuard _ | .freePlace _ | .release _ _ | .arrive _ _ | .inform _ _ | .forget _ => 1

def Layer.toll : Layer α → Nat
  | .admission inner state =>
      (state.queue.map fun request => descent inner + request.receiver.toll + 4).sum
  | .guarded _ state => (state.tickets.map (·.receiver.toll)).sum
  | .delayed _ state => (state.pending.map (·.receiver.toll)).sum
  | _ => 0

def tollOf (works : List (Work α)) : Nat := (works.map Work.toll).sum

def Stack.toll (stack : Stack α) : Nat := (stack.layers.map Layer.toll).sum

@[simp] theorem tollOf_nil : tollOf ([] : List (Work α)) = 0 := rfl

@[simp] theorem tollOf_cons (work : Work α) (works : List (Work α)) :
    tollOf (work :: works) = work.toll + tollOf works := rfl

@[simp] theorem tollOf_append (left right : List (Work α)) :
    tollOf (left ++ right) = tollOf left + tollOf right := by
  rw [tollOf, List.map_append, List.sum_append]
  rfl

theorem tollOf_answerAll (receivers : List (Receiver α)) (lookup : Lookup) :
    tollOf (Stack.answerAll receivers lookup) = (receivers.map Receiver.toll).sum := by
  rw [tollOf, Stack.answerAll, List.map_map]
  rfl

theorem tollOf_askEach (index : Nat) (requests : List (Request (Receiver α))) :
    tollOf (Stack.askEach index requests) = batchToll index requests := by
  rw [tollOf, Stack.askEach, List.map_map]
  rfl

theorem Receiver.toll_pos (receiver : Receiver α) : 0 < receiver.toll := by
  cases receiver <;> simp only [toll] <;> omega

theorem Work.toll_pos (work : Work α) : 0 < work.toll := by
  cases work with
  | ask index key receiver | answer receiver lookup | lose receiver | hold index number key receiver =>
      have positive := receiver.toll_pos
      simp only [toll]
      omega
  | _ =>
      simp only [toll]
      omega

/-! ### Parts of a list -/

theorem sum_filter_add_filter {β : Type} (weight : β → Nat) (keeps : β → Bool) (items : List β) :
    ((items.filter keeps).map weight).sum + ((items.filter fun item => !keeps item).map weight).sum =
      (items.map weight).sum := by
  induction items with
  | nil => rfl
  | cons item rest ih =>
      rw [List.filter_cons, List.filter_cons]
      cases keeps item <;> simp only [Bool.not_true, Bool.not_false, Bool.false_eq_true, if_true,
        if_false, List.map_cons, List.sum_cons] <;> omega

theorem sum_map_add_const {β : Type} (weight : β → Nat) (extra : Nat) (items : List β) :
    (items.map fun item => weight item + extra).sum = (items.map weight).sum + items.length * extra := by
  induction items with
  | nil => simp
  | cons item rest ih =>
      rw [List.map_cons, List.sum_cons, ih, List.map_cons, List.sum_cons, List.length_cons,
        Nat.succ_mul]
      omega

theorem sum_set {β : Type} (weight : β → Nat) {items : List β} {index : Nat} {before : β}
    (placed : items[index]? = some before) (after : β) :
    ((items.set index after).map weight).sum + weight before =
      (items.map weight).sum + weight after := by
  induction items generalizing index with
  | nil => cases placed
  | cons item rest ih =>
      cases index with
      | zero =>
          cases placed
          simp only [List.set_cons_zero, List.map_cons, List.sum_cons]
          omega
      | succ index =>
          have there : rest[index]? = some before := placed
          have later := ih there
          simp only [List.set_cons_succ, List.map_cons, List.sum_cons]
          omega

/-! ### Guards -/

namespace Guard

variable {guarded : Guard (Receiver α)} {ticket : Ticket (Receiver α)} {number : Nat}

theorem toll_without (known : guarded.find? number = some ticket) :
    ((guarded.without number).tickets.map (·.receiver.toll)).sum + ticket.receiver.toll ≤
      (guarded.tickets.map (·.receiver.toll)).sum := by
  have apart := sum_filter_add_filter (fun ticket : Ticket (Receiver α) => ticket.receiver.toll)
    (fun ticket => decide (ticket.number ≠ number)) guarded.tickets
  have here : ticket ∈ guarded.tickets.filter fun other => !decide (other.number ≠ number) := by
    refine List.mem_filter.mpr ⟨List.mem_of_find?_eq_some known, ?_⟩
    simp [number_eq known]
  have share := List.le_sum_of_mem
    (List.mem_map_of_mem (f := fun ticket : Ticket (Receiver α) => ticket.receiver.toll) here)
  rw [← apart]
  exact Nat.add_le_add_left share _

theorem toll_update (changed : Ticket (Receiver α)) (known : guarded.find? number = some ticket)
    (number_eq : changed.number = number) (receiver_eq : changed.receiver = ticket.receiver) :
    ((guarded.update changed).tickets.map (·.receiver.toll)).sum ≤
      (guarded.tickets.map (·.receiver.toll)).sum := by
  have less := toll_without known
  rw [update, number_eq, List.map_cons, List.sum_cons, receiver_eq]
  omega

theorem toll_issueAll (index : Nat) (guarded : Guard (Receiver α))
    (requests : List (Request (Receiver α))) :
    ((Stack.issueAll index guarded requests).1.tickets.map (·.receiver.toll)).sum =
      (guarded.tickets.map (·.receiver.toll)).sum + (requests.map (·.receiver.toll)).sum := by
  induction requests generalizing guarded with
  | nil => rfl
  | cons request rest ih =>
      have later := ih (guarded.issue request.receiver).1
      simp only [issue, List.map_cons, List.sum_cons] at later
      rw [Stack.issueAll, List.map_cons, List.sum_cons]
      simp only [issue]
      omega

theorem toll_wrapped (index inner : Nat) (guarded : Guard (Receiver α))
    (requests : List (Request (Receiver α))) :
    batchToll inner (Stack.issueAll index guarded requests).2.1 =
      requests.length * (descent inner + 1) := by
  induction requests generalizing guarded with
  | nil => simp [Stack.issueAll, batchToll]
  | cons request rest ih =>
      have later := ih (guarded.issue request.receiver).1
      rw [Stack.issueAll, List.length_cons, Nat.succ_mul, ← later, batchToll, List.map_cons,
        List.sum_cons, Nat.add_comm]
      rfl

end Guard

theorem Stack.length_wrapped (index : Nat) (guarded : Guard (Receiver α))
    (requests : List (Request (Receiver α))) :
    (issueAll index guarded requests).2.1.length = requests.length := by
  induction requests generalizing guarded with
  | nil => rfl
  | cons request rest ih => exact congrArg Nat.succ (ih _)

theorem Stack.length_tickets (index : Nat) (guarded : Guard (Receiver α))
    (requests : List (Request (Receiver α))) :
    (issueAll index guarded requests).2.2.length = requests.length := by
  induction requests generalizing guarded with
  | nil => rfl
  | cons request rest ih => exact congrArg Nat.succ (ih _)

theorem Stack.wrapped_eq_nil (index : Nat) (guarded : Guard (Receiver α))
    (requests : List (Request (Receiver α))) :
    (issueAll index guarded requests).2.1 = [] ↔ requests = [] := by
  rw [← List.length_eq_zero_iff, length_wrapped, List.length_eq_zero_iff]

theorem batchToll_eq (index : Nat) (requests : List (Request (Receiver α))) :
    batchToll index requests =
      (requests.map (·.receiver.toll)).sum + requests.length * descent index := by
  rw [batchToll, ← sum_map_add_const]
  congr 1
  exact List.map_congr_left fun request _ => Nat.add_comm _ _

/-! ### Queues and answers that are kept back -/

theorem Admission.batchToll_members (inner index : Nat) (admission : Admission (Receiver α)) :
    batchToll inner (admission.members index) + admission.queue.length =
      (admission.queue.map fun request => descent inner + request.receiver.toll + 4).sum := by
  have one := sum_map_add_const (fun request : Request (Receiver α) =>
    descent inner + request.receiver.toll + 3) 1 admission.queue
  rw [Nat.mul_one] at one
  rw [batchToll, members, List.map_map]
  exact one.symm

theorem Admission.toll_missed_le (inner : Nat) (admission : Admission (Receiver α)) :
    tollOf (Stack.answerAll (admission.queue.map (·.receiver)) .notFound) ≤
      (admission.queue.map fun request => descent inner + request.receiver.toll + 4).sum := by
  rw [tollOf_answerAll, List.map_map]
  refine List.sum_le_sum fun request _ => ?_
  rw [Function.comp_apply]
  omega

theorem Delay.toll_release (delay : Delay (Receiver α)) (key : String) :
    ((delay.release key).1.pending.map (·.receiver.toll)).sum +
        tollOf ((delay.release key).2.map fun held => Work.answer held.receiver held.lookup) =
      (delay.pending.map (·.receiver.toll)).sum := by
  rw [← sum_filter_add_filter _ (fun held => decide (held.key ≠ key)) delay.pending, tollOf,
    List.map_map, release]
  congr 3
  exact List.filter_congr fun held _ => by simp

/-! ### Every piece of work makes it less -/

theorem Act.toll_lt {index : Nat} {found : String → Lookup} {before after : Layer α}
    {work : Work α} {more : List (Work α)} (act : Act index found before work after more)
    (onto : ∀ inner, before.inner? = some inner → index = inner + 1) :
    after.toll + tollOf more < before.toll + work.toll := by
  cases act with
  | read key receiver bottom =>
      simp only [tollOf_cons, tollOf_nil, Work.toll, descent]
      omega
  | refuse key receiver dropped busy =>
      simp only [tollOf_cons, tollOf_nil, Work.toll, descent, Layer.toll]
      omega
  | issue key receiver opened free =>
      rw [onto _ rfl]
      simp only [tollOf_cons, tollOf_nil, Work.toll, descent_succ, Layer.toll, Receiver.toll]
      omega
  | queue key receiver opened taken =>
      rw [onto _ rfl]
      simp only [tollOf_nil, Work.toll, descent_succ, Layer.toll, List.map_append, List.sum_append,
        List.map_cons, List.map_nil, List.sum_cons, List.sum_nil]
      omega
  | enter key receiver free =>
      rw [onto _ rfl]
      simp only [tollOf_cons, tollOf_nil, Work.toll, descent_succ, Layer.toll, Receiver.toll,
        Guard.issue, Guard.take, List.map_cons, List.sum_cons, List.length_cons, List.length_nil]
      omega
  | count key receiver hits | passOn key receiver prompt =>
      rw [onto _ rfl]
      simp only [tollOf_cons, tollOf_nil, Work.toll, descent_succ, Layer.toll]
      omega
  | postpone key receiver delays =>
      rw [onto _ rfl]
      simp only [tollOf_cons, tollOf_nil, Work.toll, descent_succ, Layer.toll, Receiver.toll,
        Delay.beginCapture]
      omega
  | spread requests unguarded =>
      have same : (before.noteBatch requests.length).toll = before.toll := by
        cases before <;> rfl
      rw [same, tollOf_askEach, Work.toll]
      omega
  | @enterAll inner guarded requests free =>
      rw [onto _ rfl]
      have stored := Guard.toll_issueAll (inner + 1) guarded.take requests
      have wrapped := Guard.toll_wrapped (inner + 1) inner guarded.take requests
      have tickets := Stack.length_tickets (inner + 1) guarded.take requests
      have batch := batchToll_eq (inner + 1) requests
      have same : guarded.take.tickets = guarded.tickets := rfl
      simp only [tollOf_cons, tollOf_nil, Work.toll, Layer.toll, stored, wrapped, tickets, batch, same,
        descent_succ, Stack.wrapped_eq_nil, Nat.mul_add]
      split
      · omega
      · rename_i filled
        have positive := List.length_pos_of_ne_nil filled
        omega
  | @keep _ _ ticket number lookup known inside =>
      have same := Guard.number_eq known
      have less := Guard.toll_update { ticket with kept := some lookup } known same rfl
      simp only [tollOf_nil, Work.toll, Layer.toll, Receiver.toll]
      omega
  | handBack number lookup known outside =>
      have less := Guard.toll_without known
      simp only [tollOf_cons, tollOf_nil, Work.toll, Layer.toll, Receiver.toll]
      omega
  | capture number lookup =>
      simp only [tollOf_nil, Work.toll, Layer.toll, Receiver.toll, Delay.capture]
      omega
  | hold number key receiver =>
      simp only [tollOf_nil, Work.toll, Layer.toll, Delay.hold, List.map_append, List.sum_append,
        List.map_cons, List.map_nil, List.sum_cons, List.sum_nil]
      omega
  | freeGuard =>
      simp only [tollOf_nil, Work.toll, Layer.toll, Guard.free]
      omega
  | skip number tickets unknown =>
      simp only [tollOf_cons, tollOf_nil, Work.toll, Layer.toll, List.length_cons]
      omega
  | deliver number tickets known kept =>
      have less := Guard.toll_without known
      simp only [tollOf_cons, tollOf_nil, Work.toll, Layer.toll, List.length_cons]
      omega
  | @leave _ _ ticket number tickets known empty =>
      have same := Guard.number_eq known
      have less := Guard.toll_update { ticket with inside := false } known same rfl
      simp only [tollOf_cons, tollOf_nil, Work.toll, Layer.toll, List.length_cons]
      omega
  | vacate empty =>
      simp only [tollOf_nil, Work.toll, Layer.toll]
      omega
  | @flush inner admission waiting =>
      have some := List.length_pos_iff.mpr waiting
      have members : admission.members index ≠ [] := by
        simpa [Admission.members] using waiting
      have batch := admission.batchToll_members inner index
      simp only [tollOf_cons, tollOf_nil, Work.toll, Layer.toll, if_neg members, List.map_nil,
        List.sum_nil]
      omega
  | member number batches last =>
      cases last <;> simp only [Bool.false_eq_true, if_true, if_false, tollOf_cons, tollOf_nil,
        Work.toll, Layer.toll] <;> omega
  | closeBottom bottom =>
      have same : before.shut.toll = before.toll := by
        cases before <;> rfl
      simp only [same, tollOf_nil, Work.toll]
      omega
  | @closeAdmission inner admission =>
      rw [onto _ rfl]
      have missed := admission.toll_missed_le inner
      simp only [tollOf_append, tollOf_cons, tollOf_nil, Work.toll, Layer.toll, List.map_nil,
        List.sum_nil]
      omega
  | closeGuard free =>
      rw [onto _ rfl]
      simp only [tollOf_cons, tollOf_nil, Work.toll, Layer.toll, Guard.take]
      omega
  | closeCounted =>
      rw [onto _ rfl]
      simp only [tollOf_cons, tollOf_nil, Work.toll, Layer.toll]
      omega
  | @closeDelay inner delay =>
      rw [onto _ rfl]
      have all := (delay.grouped_perm.map (·.receiver.toll)).sum_nat
      simp only [tollOf_append, tollOf_answerAll, tollOf_cons, tollOf_nil, Work.toll, Layer.toll,
        List.map_map, List.map_nil, List.sum_nil]
      simp only [Function.comp_def]
      omega
  | @release inner delay key =>
      have all := delay.toll_release key
      simp only [Work.toll, Layer.toll]
      omega

theorem Passage.toll_lt {work : Work α} {more : List (Work α)} (passage : Passage work more) :
    tollOf more < work.toll := by
  cases passage with
  | client callback lookup => exact Nat.lt_succ_self 1
  | place layer next lookup =>
      simp only [tollOf_cons, tollOf_nil, Work.toll, Receiver.toll]
      omega
  | member layer batch next lookup =>
      simp only [tollOf_cons, tollOf_nil, Work.toll, Receiver.toll]
      omega

namespace Stack

variable {stack next : Stack α} {work : Work α} {more : List (Work α)}

theorem Effect.toll_lt (effect : Effect stack work next more) (decorated : stack.Decorated) :
    next.toll + tollOf more < stack.toll + work.toll := by
  cases effect with
  | @act _ _ after _ _ _ placed act altered =>
      have less := act.toll_lt fun inner onto => decorated.inner_eq placed onto
      have changed := sum_set Layer.toll placed after
      rw [Stack.toll, Stack.toll, altered.layers]
      omega
  | pass passage => exact Nat.add_lt_add_left passage.toll_lt _
  | idle nothing ended passed unknown => exact Nat.add_lt_add_left work.toll_pos _

end Stack

end TieredCache
