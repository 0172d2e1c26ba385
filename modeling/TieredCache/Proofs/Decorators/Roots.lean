import TieredCache.Proofs.Admission.Traffic
import TieredCache.Proofs.Decorators.Act

/-!
Who waits for an answer. No receiver gets lost: what a piece of work takes from a layer or from its
caller is in the layer or in the work that is left, or it has been used up. A ticket that a guard holds
is named by a receiver below the guard, so a stack that holds nothing else holds no tickets.
-/

namespace TieredCache

variable {α : Type}

def Layer.Regular : Layer α → Prop
  | .admission _ state => state.inFlight < state.limit → state.queue = []
  | .guarded _ state => (state.tickets.map (·.number)).Nodup ∧
      ∀ ticket ∈ state.tickets, ticket.number < state.fresh ∧
        (ticket.inside = false → ticket.kept = none)
  | _ => True

def Layer.roots (layer : Layer α) : List (Receiver α) := layer.receivers.map Receiver.root

def Work.roots (work : Work α) : List (Receiver α) := work.receivers.map Receiver.root

def rootsOf (works : List (Work α)) : List (Receiver α) := works.flatMap Work.roots

@[simp] theorem rootsOf_nil : rootsOf ([] : List (Work α)) = [] := rfl

@[simp] theorem rootsOf_cons (work : Work α) (works : List (Work α)) :
    rootsOf (work :: works) = work.roots ++ rootsOf works := rfl

@[simp] theorem rootsOf_append (left right : List (Work α)) :
    rootsOf (left ++ right) = rootsOf left ++ rootsOf right := List.flatMap_append

theorem rootsOf_askEach (index : Nat) (requests : List (Request (Receiver α))) :
    rootsOf (Stack.askEach index requests) = requests.map (·.receiver.root) := by
  rw [rootsOf, Stack.askEach, List.flatMap_map, List.map_eq_flatMap]
  rfl

theorem rootsOf_answerAll (receivers : List (Receiver α)) (lookup : Lookup) :
    rootsOf (Stack.answerAll receivers lookup) = receivers.map Receiver.root := by
  rw [rootsOf, Stack.answerAll, List.flatMap_map, List.map_eq_flatMap]
  rfl

/-! ### Guards -/

theorem perm_cons_filter {β : Type} {items : List β} {number : β → Nat} {wanted : Nat} {item : β}
    (distinct : (items.map number).Nodup)
    (found : items.find? (fun other => number other = wanted) = some item) :
    items.Perm (item :: items.filter fun other => number other ≠ wanted) := by
  induction items with
  | nil => cases found
  | cons first rest ih =>
      rw [List.map_cons, List.nodup_cons] at distinct
      rw [List.find?_cons] at found
      by_cases same : number first = wanted
      · simp only [same, decide_true, Option.some.injEq] at found
        have others : rest.filter (fun other => number other ≠ wanted) = rest := by
          refine List.filter_eq_self.mpr fun other member => ?_
          have apart : number other ≠ wanted := fun equal =>
            distinct.1 (List.mem_map.mpr ⟨other, member, equal.trans same.symm⟩)
          simpa using apart
        rw [List.filter_cons_of_neg (by simpa using same), others, found]
      · simp only [same, decide_false] at found
        rw [List.filter_cons_of_pos (by simpa using same)]
        exact ((ih distinct.2 found).cons first).trans (.swap item first _)

namespace Guard

variable {guarded : Guard (Receiver α)} {ticket changed : Ticket (Receiver α)} {number : Nat}

theorem perm_without (distinct : (guarded.tickets.map (·.number)).Nodup)
    (known : guarded.find? number = some ticket) :
    guarded.tickets.Perm (ticket :: (guarded.without number).tickets) :=
  perm_cons_filter distinct known

theorem numbers_update (distinct : (guarded.tickets.map (·.number)).Nodup)
    (known : guarded.find? number = some ticket) (same : changed.number = number) :
    ((guarded.update changed).tickets.map (·.number)).Perm (guarded.tickets.map (·.number)) := by
  have apart := (perm_without distinct known).map (·.number)
  rw [List.map_cons, number_eq known] at apart
  rw [update, List.map_cons, same]
  exact apart.symm

theorem roots_update (changed : Ticket (Receiver α)) (distinct : (guarded.tickets.map (·.number)).Nodup)
    (known : guarded.find? number = some ticket) (same : changed.number = number)
    (receiver : changed.receiver = ticket.receiver) :
    ((guarded.update changed).tickets.map (·.receiver.root)).Perm
      (guarded.tickets.map (·.receiver.root)) := by
  have apart := (perm_without distinct known).map (·.receiver.root)
  rw [List.map_cons] at apart
  rw [update, List.map_cons, same, receiver]
  exact apart.symm

theorem roots_without (distinct : (guarded.tickets.map (·.number)).Nodup)
    (known : guarded.find? number = some ticket) (others : List (Receiver α)) :
    ((guarded.without number).tickets.map (·.receiver.root) ++ ticket.receiver.root :: others).Perm
      (guarded.tickets.map (·.receiver.root) ++ others) := by
  have apart := (perm_without distinct known).map (·.receiver.root)
  exact List.perm_middle.trans (apart.symm.append_right others)

theorem mem_update (member : ticket ∈ (guarded.update changed).tickets) :
    ticket = changed ∨ ticket ∈ guarded.tickets ∧ ticket.number ≠ changed.number := by
  rcases List.mem_cons.mp member with first | later
  · exact .inl first
  · obtain ⟨there, other⟩ := List.mem_filter.mp later
    exact .inr ⟨there, by simpa using other⟩

theorem mem_without (member : ticket ∈ (guarded.without number).tickets) :
    ticket ∈ guarded.tickets ∧ ticket.number ≠ number := by
  obtain ⟨there, other⟩ := List.mem_filter.mp member
  exact ⟨there, by simpa using other⟩

theorem roots_issueAll (index : Nat) (guarded : Guard (Receiver α))
    (requests : List (Request (Receiver α))) :
    ((Stack.issueAll index guarded requests).1.tickets.map (·.receiver.root)).Perm
      (guarded.tickets.map (·.receiver.root) ++ requests.map (·.receiver.root)) := by
  induction requests generalizing guarded with
  | nil => rw [List.map_nil, List.append_nil]; exact .refl _
  | cons request rest ih =>
      have later := ih (guarded.issue request.receiver).1
      rw [Stack.issueAll, List.map_cons]
      exact later.trans List.perm_middle.symm

/-- The tickets of a batch are numbered from the next fresh number on. -/
theorem tickets_issueAll (index : Nat) (guarded : Guard (Receiver α))
    (requests : List (Request (Receiver α))) :
    (Stack.issueAll index guarded requests).2.2 = List.range' guarded.fresh requests.length := by
  induction requests generalizing guarded with
  | nil => rfl
  | cons request rest ih =>
      rw [Stack.issueAll, List.length_cons, List.range'_succ]
      exact congrArg _ (ih _)

theorem receivers_issueAll (index : Nat) (guarded : Guard (Receiver α))
    (requests : List (Request (Receiver α))) :
    (Stack.issueAll index guarded requests).2.1.map (·.receiver) =
      (Stack.issueAll index guarded requests).2.2.map (.ticket index ·) := by
  induction requests generalizing guarded with
  | nil => rfl
  | cons request rest ih => exact congrArg _ (ih _)

theorem named_issueAll {index : Nat} {requests : List (Request (Receiver α))} :
    ∀ request ∈ (Stack.issueAll index guarded requests).2.1,
      ∃ number ∈ (Stack.issueAll index guarded requests).2.2,
        request.receiver = .ticket index number := by
  intro request member
  have named : request.receiver ∈
      (Stack.issueAll index guarded requests).2.1.map fun request => request.receiver :=
    List.mem_map.mpr ⟨request, member, rfl⟩
  rw [receivers_issueAll] at named
  obtain ⟨number, listed, same⟩ := List.mem_map.mp named
  exact ⟨number, listed, same.symm⟩

theorem mem_issueAll {index : Nat} {requests : List (Request (Receiver α))}
    (member : ticket ∈ (Stack.issueAll index guarded requests).1.tickets) :
    ticket ∈ guarded.tickets ∨ ticket.number ∈ (Stack.issueAll index guarded requests).2.2 ∧
      ticket.inside = true ∧ ∃ request ∈ requests, ticket.receiver = request.receiver := by
  induction requests generalizing guarded with
  | nil => exact .inl member
  | cons request rest ih =>
      rcases ih member with old | ⟨issued, inside, other, asked, same⟩
      · rcases List.mem_cons.mp old with fresh | old
        · rw [fresh]
          exact .inr ⟨List.mem_cons_self, rfl, request, List.mem_cons_self, rfl⟩
        · exact .inl old
      · exact .inr ⟨List.mem_cons_of_mem _ issued, inside, other, List.mem_cons_of_mem _ asked, same⟩

theorem find?_without (guarded : Guard (Receiver α)) (number other : Nat) :
    (guarded.without number).find? other =
      if other = number then none else guarded.find? other := by
  rw [without, find?, List.find?_filter]
  split
  · rename_i same
    refine List.find?_eq_none.mpr fun ticket _ => ?_
    simp [same]
  · rename_i different
    rw [find?]
    congr 1
    funext ticket
    by_cases wanted : ticket.number = other
    · simp [wanted, different]
    · simp [wanted]

theorem find?_update (guarded : Guard (Receiver α)) (changed : Ticket (Receiver α)) (number : Nat) :
    (guarded.update changed).find? number =
      if number = changed.number then some changed else guarded.find? number := by
  rw [find?, update, List.find?_cons]
  by_cases same : number = changed.number
  · simp [same]
  · have apart : ¬changed.number = number := fun equal => same equal.symm
    simp only [apart, decide_false, if_neg same]
    exact (guarded.find?_without changed.number number).trans (if_neg same)

end Guard

theorem Layer.Regular.issue {inner : Nat} {guarded : Guard (Receiver α)}
    (regular : (Layer.guarded inner guarded).Regular) (receiver : Receiver α) :
    (Layer.guarded inner (guarded.issue receiver).1).Regular := by
  obtain ⟨distinct, numbered⟩ := regular
  refine ⟨?_, ?_⟩
  · rw [Guard.issue, List.map_cons, List.nodup_cons]
    refine ⟨?_, distinct⟩
    intro used
    obtain ⟨ticket, member, same⟩ := List.mem_map.mp used
    exact absurd (numbered ticket member).1 (by rw [same]; exact Nat.lt_irrefl _)
  · intro ticket member
    rcases List.mem_cons.mp member with fresh | old
    · rw [fresh]
      exact ⟨Nat.lt_succ_self _, fun outside => nomatch outside⟩
    · exact ⟨Nat.lt_succ_of_lt (numbered ticket old).1, (numbered ticket old).2⟩

theorem Layer.Regular.issueAll {inner : Nat} {guarded : Guard (Receiver α)}
    (regular : (Layer.guarded inner guarded).Regular) (index : Nat)
    (requests : List (Request (Receiver α))) :
    (Layer.guarded inner (Stack.issueAll index guarded requests).1).Regular := by
  induction requests generalizing guarded with
  | nil => exact regular
  | cons request rest ih => exact ih (regular.issue request.receiver)

theorem Layer.Regular.update {inner : Nat} {guarded : Guard (Receiver α)}
    {ticket changed : Ticket (Receiver α)} {number : Nat}
    (regular : (Layer.guarded inner guarded).Regular)
    (known : guarded.find? number = some ticket) (same : changed.number = number)
    (settled : changed.inside = false → changed.kept = none) :
    (Layer.guarded inner (guarded.update changed)).Regular := by
  obtain ⟨distinct, numbered⟩ := regular
  refine ⟨(Guard.numbers_update distinct known same).nodup_iff.mpr distinct, ?_⟩
  intro other member
  rcases Guard.mem_update member with here | ⟨old, -⟩
  · rw [here, same, ← Guard.number_eq known]
    exact ⟨(numbered ticket (List.mem_of_find?_eq_some known)).1, settled⟩
  · exact numbered other old

theorem Layer.Regular.without {inner : Nat} {guarded : Guard (Receiver α)}
    (regular : (Layer.guarded inner guarded).Regular) (number : Nat) :
    (Layer.guarded inner (guarded.without number)).Regular := by
  obtain ⟨distinct, numbered⟩ := regular
  refine ⟨distinct.sublist (List.filter_sublist.map _), ?_⟩
  intro ticket member
  exact numbered ticket (Guard.mem_without member).1

theorem Act.regular {index : Nat} {found : String → Lookup} {before after : Layer α}
    {work : Work α} {more : List (Work α)} (act : Act index found before work after more)
    (regular : before.Regular) : after.Regular := by
  cases act with
  | read => exact regular
  | refuse => exact regular
  | issue key receiver opened free =>
      intro
      exact regular free
  | queue key receiver opened taken =>
      intro free
      exact absurd free (Nat.not_lt.mpr taken)
  | @enter inner guarded key receiver free =>
      have taken : (Layer.guarded inner guarded.take).Regular := regular
      exact taken.issue receiver
  | count | postpone | passOn | capture | hold | closeCounted | closeDelay | release => trivial
  | spread requests unguarded =>
      cases before with
      | delayed inner state => trivial
      | _ => exact regular
  | @enterAll inner guarded requests free =>
      have taken : (Layer.guarded inner guarded.take).Regular := regular
      exact taken.issueAll index requests
  | keep number lookup known inside =>
      have same := Guard.number_eq known
      exact regular.update known same fun outside => absurd (inside.symm.trans outside) (by decide)
  | handBack number lookup known outside => exact regular.without number
  | freeGuard => exact regular
  | skip => exact regular
  | deliver number tickets known kept => exact regular.without number
  | leave number tickets known empty =>
      have same := Guard.number_eq known
      exact regular.update known same fun _ => empty
  | vacate empty =>
      intro
      exact empty
  | flush waiting =>
      intro
      rfl
  | member => exact regular
  | closeBottom bottom =>
      cases before with
      | memory store | disk store => trivial
      | _ => cases bottom
  | closeAdmission =>
      intro
      rfl
  | closeGuard => exact regular

namespace Stack

variable {stack next : Stack α} {index : Nat} {before after : Layer α} {work : Work α}
  {more : List (Work α)}

def Regular (stack : Stack α) : Prop :=
  ∀ index layer, stack.layer? index = some layer → layer.Regular

theorem Altered.each (altered : stack.Altered next index after) (keeps : Nat → Layer α → Prop)
    (placed : stack.layer? index = some before) (changed : keeps index after)
    (others : ∀ other layer, other ≠ index → stack.layer? other = some layer → keeps other layer) :
    ∀ other layer, next.layer? other = some layer → keeps other layer := by
  intro other layer there
  by_cases same : index = other
  · cases same
    cases (altered.layer?_self placed).symm.trans there
    exact changed
  · rw [altered.layer?_of_ne same] at there
    exact others other layer (Ne.symm same) there

theorem Effect.regular (effect : Effect stack work next more) (regular : stack.Regular) :
    next.Regular := by
  cases effect with
  | act placed act altered =>
      exact altered.each (fun _ layer => layer.Regular) placed
        (act.regular (regular _ _ placed)) fun other layer _ there => regular other layer there
  | pass | idle => exact regular

end Stack

/-! ### No receiver gets lost -/

theorem roots_members (index : Nat) (admission : Admission (Receiver α)) :
    (admission.members index).map (·.receiver.root) = admission.queue.map (·.receiver.root) := by
  rw [Admission.members, List.map_map]
  rfl

theorem Delay.roots_release (delay : Delay (Receiver α)) (key : String) :
    ((delay.release key).1.pending.map (·.receiver.root) ++
        rootsOf ((delay.release key).2.map fun held => .answer held.receiver held.lookup)).Perm
      (delay.pending.map (·.receiver.root)) := by
  have apart := (List.filter_append_perm (fun held : Postponed (Receiver α) =>
    decide (held.key ≠ key)) delay.pending).map (·.receiver.root)
  have answers : rootsOf ((delay.release key).2.map fun held => .answer held.receiver held.lookup) =
      (delay.pending.filter fun held => !decide (held.key ≠ key)).map (·.receiver.root) := by
    rw [rootsOf, List.flatMap_map, List.map_eq_flatMap, release]
    congr 1
    exact List.filter_congr fun held _ => by simp
  rw [List.map_append] at apart
  rw [answers]
  exact apart

/-- What is asked of the layers behind in a ticket's place is made anew; all else was there before. -/
theorem Act.roots_perm {index : Nat} {found : String → Lookup} {before after : Layer α}
    {work : Work α} {more : List (Work α)} (act : Act index found before work after more)
    (regular : before.Regular) :
    ∃ made : List (Receiver α), (∀ root ∈ made, root.callbacks = []) ∧
      (after.roots ++ (rootsOf more ++ work.spent)).Perm (before.roots ++ (work.roots ++ made)) := by
  have unmade (moved : (after.roots ++ (rootsOf more ++ work.spent)).Perm
      (before.roots ++ work.roots)) : ∃ made : List (Receiver α),
        (∀ root ∈ made, root.callbacks = []) ∧
        (after.roots ++ (rootsOf more ++ work.spent)).Perm (before.roots ++ (work.roots ++ made)) :=
    ⟨[], List.forall_mem_nil _, by rwa [List.append_nil]⟩
  cases act with
  | read | refuse | issue | count | passOn => exact unmade (.refl _)
  | queue key receiver opened taken =>
      refine unmade ?_
      simp [Layer.roots, Layer.receivers, Work.roots, Work.receivers, Work.spent]
  | @enter inner guarded key receiver free =>
      refine ⟨[.ticket index guarded.fresh], by simp [Receiver.callbacks], ?_⟩
      simp only [Layer.roots, Layer.receivers, Guard.issue, Guard.take, rootsOf_cons, rootsOf_nil,
        Work.roots, Work.receivers, Work.spent, List.map_cons, List.map_nil, List.append_nil,
        List.cons_append, List.nil_append, Receiver.root]
      exact List.perm_middle.symm
  | @postpone inner delay key receiver delays =>
      refine ⟨[.capture index delay.fresh], by simp [Receiver.callbacks], ?_⟩
      exact List.Perm.append_left _ (.swap receiver.root (.capture index delay.fresh) [])
  | spread requests unguarded =>
      have same : (before.noteBatch requests.length).roots = before.roots := by
        cases before <;> rfl
      have spent : (Work.askMany index requests).spent = [] := rfl
      refine unmade ?_
      rw [same, rootsOf_askEach, spent, List.append_nil, Work.roots, Work.receivers, List.map_map]
      exact .refl _
  | @enterAll inner guarded requests free =>
      let issued := Stack.issueAll index guarded.take requests
      refine ⟨issued.2.2.map (.ticket index ·), by simp [Receiver.callbacks], ?_⟩
      have stored := Guard.roots_issueAll index guarded.take requests
      have wrapped : rootsOf [.askMany inner issued.2.1, .freeGuard index,
          .handOut index issued.2.2] = issued.2.2.map (.ticket index ·) := by
        have receivers := Guard.receivers_issueAll index guarded.take requests
        simp only [rootsOf_cons, rootsOf_nil, Work.roots, Work.receivers, List.map_nil,
          List.append_nil, receivers, List.map_map, issued]
        rfl
      have spent : (Work.askMany index requests).spent = [] := rfl
      rw [wrapped, spent, List.append_nil, ← List.append_assoc]
      refine List.Perm.append_right _ ?_
      simp only [Layer.roots, Layer.receivers, Work.roots, Work.receivers, List.map_map]
      exact stored
  | @keep inner guarded ticket number lookup known inside =>
      have number_eq := Guard.number_eq known
      have same := Guard.roots_update { ticket with kept := some lookup } regular.1 known number_eq rfl
      simp only [Layer.roots, Layer.receivers, List.map_map] at unmade ⊢
      exact unmade (same.append_right _)
  | handBack number lookup known outside =>
      have moved := Guard.roots_without regular.1 known [.ticket index number]
      simp only [Layer.roots, Layer.receivers, List.map_map] at unmade ⊢
      exact unmade moved
  | capture number lookup => exact unmade (.refl _)
  | hold number key receiver =>
      refine unmade ?_
      simp [Layer.roots, Layer.receivers, Work.roots, Work.receivers, Work.spent, Delay.hold]
  | freeGuard | skip | vacate | closeGuard | closeCounted => exact unmade (.refl _)
  | deliver number tickets known kept =>
      have moved := Guard.roots_without regular.1 known []
      simp only [Layer.roots, Layer.receivers, List.map_map] at unmade ⊢
      exact unmade moved
  | @leave inner guarded ticket number tickets known empty =>
      have number_eq := Guard.number_eq known
      have same := Guard.roots_update { ticket with inside := false } regular.1 known number_eq rfl
      simp only [Layer.roots, Layer.receivers, List.map_map] at unmade ⊢
      exact unmade (same.append_right _)
  | @flush inner admission waiting =>
      refine unmade ?_
      simp only [Layer.roots, Layer.receivers, rootsOf_cons, rootsOf_nil, Work.roots, Work.receivers,
        Work.spent, List.map_map, List.map_nil, List.append_nil, List.nil_append]
      exact List.Perm.of_eq (roots_members index admission)
  | member number batches last =>
      refine unmade ?_
      cases last <;> exact .refl _
  | closeBottom bottom =>
      have same : before.shut.roots = before.roots := by
        cases before <;> rfl
      refine unmade ?_
      rw [same]
      exact .refl _
  | closeAdmission =>
      refine unmade ?_
      simp [Layer.roots, Layer.receivers, rootsOf_answerAll, Work.roots, Work.receivers, Work.spent]
  | @closeDelay inner delay =>
      have moved := delay.grouped_perm.map (·.receiver.root)
      refine unmade ?_
      simpa [Layer.roots, Layer.receivers, rootsOf_answerAll, Work.roots, Work.receivers, Work.spent,
        Function.comp_def] using moved
  | @release inner delay key =>
      have moved := delay.roots_release key
      refine unmade ?_
      simpa only [Layer.roots, Layer.receivers, Work.roots, Work.receivers, Work.spent, List.map_map,
        List.map_nil, List.append_nil, Function.comp_def] using moved

end TieredCache
