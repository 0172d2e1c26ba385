import TieredCache.Proofs.Admission.Traffic

/-!
What a piece of work can do to an admission control and to what happened around it. Every statement
about runs starts from the cases listed here.
-/

namespace TieredCache.Traffic

inductive Given (keys : List String) : Request (Receiver Nat) → Prop where
  | single {key : String} {callback : Nat} (own : keys[callback]? = some key) :
      Given keys ⟨key, .place control (.client callback)⟩
  | member {key : String} {callback : Nat} (batch : Nat) (own : keys[callback]? = some key) :
      Given keys ⟨key, .member control batch (.client callback)⟩

inductive Queued (keys : List String) : Request (Receiver Nat) → Prop where
  | waiting {key : String} {callback : Nat} (own : keys[callback]? = some key) :
      Queued keys ⟨key, .client callback⟩

inductive Expected (keys : List String) : Work Nat → Prop where
  | arrival {key : String} {callback : Nat} (own : keys[callback]? = some key) :
      Expected keys (.ask control key (.client callback))
  | single {key : String} {receiver : Receiver Nat} (given : Given keys ⟨key, receiver⟩) :
      Expected keys (.ask behind key receiver)
  | batch {requests : List (Request (Receiver Nat))}
      (given : ∀ request ∈ requests, Given keys request) :
      Expected keys (.askMany behind requests)
  | fromSingle (callback : Nat) (lookup : Lookup) :
      Expected keys (.answer (.place control (.client callback)) lookup)
  | fromMember (batch callback : Nat) (lookup : Lookup) :
      Expected keys (.answer (.member control batch (.client callback)) lookup)
  | reply (callback : Nat) (lookup : Lookup) : Expected keys (.answer (.client callback) lookup)
  | inform (callback : Nat) (lookup : Lookup) : Expected keys (.inform callback lookup)
  | freePlace : Expected keys (.freePlace control)
  | countMember (batch : Nat) : Expected keys (.countMember control batch)
  | shutDown : Expected keys (.shutDown control)
  | shutDownBehind : Expected keys (.shutDown behind)

def membersFor (batch : Nat) (queue : List (Request (Receiver Nat))) :
    List (Request (Receiver Nat)) :=
  queue.map fun request => ⟨request.key, .member control batch request.receiver⟩

def missAll (queue : List (Request (Receiver Nat))) : List (Work Nat) :=
  queue.map fun request => .answer request.receiver .notFound

/-- From an admission control, a record and a piece of work to what they become, and the work that
is left behind. -/
inductive Effect (admission : Admission (Receiver Nat)) (record : Record) :
    Work Nat → Admission (Receiver Nat) → Record → List (Work Nat) → Prop where
  | refuse (key : String) (callback : Nat) (closed : admission.closed = true) :
      Effect admission record (.ask control key (.client callback))
        admission record [.answer (.client callback) .notFound]
  | issue (key : String) (callback : Nat) (opened : admission.closed = false)
      (free : admission.inFlight < admission.limit) :
      Effect admission record (.ask control key (.client callback))
        { admission with inFlight := admission.inFlight + 1 } record
        [.ask behind key (.place control (.client callback))]
  | queue (key : String) (callback : Nat) (opened : admission.closed = false)
      (taken : admission.limit ≤ admission.inFlight)
      (room : admission.queue.length < admission.settings.maximumQueue) :
      Effect admission record (.ask control key (.client callback))
        { admission with queue := admission.queue ++ [⟨key, .client callback⟩] } record []
  | drop (key : String) (callback : Nat) (full : admission.isFull = true) :
      Effect admission record (.ask control key (.client callback))
        { admission with dropped := admission.dropped + 1 }
        { record with turnedAway := callback :: record.turnedAway }
        [.answer (.client callback) .notFound]
  | handOver {work : Work Nat} {requests : List (Request (Receiver Nat))}
      (handed : handedOver? work = some requests) :
      Effect admission record work
        admission { record with outstanding := requests ++ record.outstanding } []
  | passSingle (callback : Nat) (lookup : Lookup) :
      Effect admission record (.answer (.place control (.client callback)) lookup)
        admission record [.answer (.client callback) lookup, .freePlace control]
  | passMember (batch callback : Nat) (lookup : Lookup) :
      Effect admission record (.answer (.member control batch (.client callback)) lookup)
        admission record [.answer (.client callback) lookup, .countMember control batch]
  | reply (callback : Nat) (lookup : Lookup) :
      Effect admission record (.answer (.client callback) lookup)
        admission record [.inform callback lookup]
  | inform (callback : Nat) (lookup : Lookup) :
      Effect admission record (.inform callback lookup)
        admission { record with told := (callback, lookup) :: record.told } []
  | release (empty : admission.queue = []) :
      Effect admission record (.freePlace control)
        { admission with inFlight := admission.inFlight - 1 } record []
  | flush (waiting : admission.queue ≠ []) :
      Effect admission record (.freePlace control)
        { admission with
          queue := []
          lastBatch := admission.queue.length
          batches := ⟨admission.freshBatch, admission.queue.length⟩ :: admission.batches
          freshBatch := admission.freshBatch + 1 } record
        [.askMany behind (membersFor admission.freshBatch admission.queue)]
  | count (number : Nat) {batch : Batch}
      (known : admission.batches.find? (·.number = number) = some batch)
      (more : 1 < batch.unfinished) :
      Effect admission record (.countMember control number)
        { admission with
          batches := ⟨number, batch.unfinished - 1⟩ ::
            admission.batches.filter (·.number ≠ number) } record []
  | complete (number : Nat) {batch : Batch}
      (known : admission.batches.find? (·.number = number) = some batch)
      (last : batch.unfinished ≤ 1) :
      Effect admission record (.countMember control number)
        { admission with batches := admission.batches.filter (·.number ≠ number) } record
        [.freePlace control]
  | overcount (number : Nat)
      (unknown : admission.batches.find? (·.number = number) = none) :
      Effect admission record (.countMember control number) admission record []
  | close :
      Effect admission record (.shutDown control)
        { admission with closed := true, queue := [] } record
        (missAll admission.queue ++ [.shutDown behind])

theorem Effect.settings_eq {admission changed : Admission (Receiver Nat)} {record later : Record}
    {work : Work Nat} {more : List (Work Nat)}
    (effect : Effect admission record work changed later more) :
    changed.settings = admission.settings := by
  cases effect <;> rfl

theorem Effect.keys_eq {admission changed : Admission (Receiver Nat)} {record later : Record}
    {work : Work Nat} {more : List (Work Nat)}
    (effect : Effect admission record work changed later more) : later.keys = record.keys := by
  cases effect <;> rfl

theorem Effect.answers_eq {admission changed : Admission (Receiver Nat)} {record later : Record}
    {work : Work Nat} {more : List (Work Nat)}
    (effect : Effect admission record work changed later more) :
    later.answers = record.answers := by
  cases effect <;> rfl

structure Holds (traffic : Traffic) (admission : Admission (Receiver Nat)) : Prop where
  moving : traffic.stack.stuck = false
  placed : traffic.stack.layer? control = some (.admission behind admission)

theorem Holds.admission?_eq {traffic : Traffic} {admission : Admission (Receiver Nat)}
    (holds : traffic.Holds admission) : traffic.admission? = some admission := by
  simp only [admission?, holds.placed]

theorem Holds.setLayer {traffic : Traffic} {admission : Admission (Receiver Nat)}
    (holds : traffic.Holds admission) (changed : Admission (Receiver Nat)) (record : Record)
    (signals : List Signal) :
    Holds { traffic with
      stack := (traffic.stack.setLayer control (.admission behind changed)).signal signals
      record } changed where
  moving := holds.moving
  placed := Stack.layer?_setLayer_self holds.placed

private theorem control_ne_behind : control ≠ behind := by decide

private theorem ask_effect {traffic : Traffic} {admission : Admission (Receiver Nat)}
    (holds : traffic.Holds admission) (key : String) (callback : Nat) :
    ∃ changed, Holds (traffic.act (.ask control key (.client callback))).1 changed ∧
      Effect admission traffic.record (.ask control key (.client callback)) changed
        (traffic.act (.ask control key (.client callback))).1.record
        (traffic.act (.ask control key (.client callback))).2 := by
  have full : traffic.admission?.any (·.isFull) = admission.isFull := by
    rw [holds.admission?_eq]
    rfl
  have acted : traffic.act (.ask control key (.client callback)) =
      ({ traffic with
          stack := (traffic.stack.ask control key (.client callback)).1
          record.turnedAway := if admission.isFull then callback :: traffic.record.turnedAway
            else traffic.record.turnedAway },
        (traffic.stack.ask control key (.client callback)).2) := by
    simp [act, handedOver?, control_ne_behind, Stack.perform, holds.moving, turnedAwayAfter, ← full]
  rw [acted]
  by_cases closed : admission.closed = true
  · have arrived : admission.arrive ⟨key, .client callback⟩ = (admission, .refused) := by
      simp only [Admission.arrive, closed, if_true]
    have notFull : admission.isFull = false := by simp [Admission.isFull, closed]
    simp only [Stack.ask, holds.placed, arrived, notFull, Bool.false_eq_true, if_false]
    exact ⟨admission, holds.setLayer admission traffic.record [], .refuse key callback closed⟩
  · by_cases free : admission.inFlight < admission.limit
    · have arrived : admission.arrive ⟨key, .client callback⟩ =
          ({ admission with inFlight := admission.inFlight + 1 }, .issued) := by
        rw [Admission.arrive, if_neg closed, if_pos free]
      have notFull : admission.isFull = false := by simp [Admission.isFull, Nat.not_le_of_lt free]
      simp only [Stack.ask, holds.placed, arrived, notFull, Bool.false_eq_true, if_false]
      exact ⟨_, holds.setLayer _ traffic.record [],
        .issue key callback (Bool.eq_false_iff.mpr closed) free⟩
    · have taken : admission.limit ≤ admission.inFlight := Nat.le_of_not_lt free
      by_cases room : admission.queue.length < admission.settings.maximumQueue
      · have arrived : admission.arrive ⟨key, .client callback⟩ =
            ({ admission with queue := admission.queue ++ [⟨key, .client callback⟩] }, .queued) := by
          rw [Admission.arrive, if_neg closed, if_neg free, if_pos room]
        have notFull : admission.isFull = false := by simp [Admission.isFull, room]
        simp only [Stack.ask, holds.placed, arrived, notFull, Bool.false_eq_true, if_false]
        exact ⟨_, holds.setLayer _ traffic.record [],
          .queue key callback (Bool.eq_false_iff.mpr closed) taken room⟩
      · have arrived : admission.arrive ⟨key, .client callback⟩ =
            ({ admission with dropped := admission.dropped + 1 }, .dropped) := by
          rw [Admission.arrive, if_neg closed, if_neg free, if_neg room]
        have isFull : admission.isFull = true := by
          simp [Admission.isFull, closed, taken, Nat.le_of_not_lt room]
        simp only [Stack.ask, holds.placed, arrived, isFull, if_true]
        exact ⟨_, holds.setLayer _ _ [Admission.droppedSignal], .drop key callback isFull⟩

private theorem freePlace_effect {traffic : Traffic} {admission : Admission (Receiver Nat)}
    (holds : traffic.Holds admission) :
    ∃ changed, Holds (traffic.act (.freePlace control)).1 changed ∧
      Effect admission traffic.record (.freePlace control) changed
        (traffic.act (.freePlace control)).1.record (traffic.act (.freePlace control)).2 := by
  simp only [act, handedOver?, Stack.perform, holds.moving, Bool.false_eq_true, if_false,
    Stack.freePlace, holds.placed, turnedAwayAfter]
  by_cases empty : admission.queue = []
  · have finished : admission.finish =
        ({ admission with inFlight := admission.inFlight - 1 }, none) := by
      rw [Admission.finish, if_pos (List.isEmpty_iff.mpr empty)]
    simp only [finished]
    exact ⟨_, holds.setLayer _ traffic.record [], .release empty⟩
  · have waiting : ¬admission.queue.isEmpty = true := fun same => empty (List.isEmpty_iff.mp same)
    simp only [Admission.finish, if_neg waiting]
    exact ⟨_, holds.setLayer _ traffic.record [_], .flush empty⟩

private theorem countMember_effect {traffic : Traffic} {admission : Admission (Receiver Nat)}
    (holds : traffic.Holds admission) (number : Nat) :
    ∃ changed, Holds (traffic.act (.countMember control number)).1 changed ∧
      Effect admission traffic.record (.countMember control number) changed
        (traffic.act (.countMember control number)).1.record
        (traffic.act (.countMember control number)).2 := by
  simp only [act, handedOver?, Stack.perform, holds.moving, Bool.false_eq_true, if_false,
    Stack.countMember, holds.placed, turnedAwayAfter]
  cases known : admission.batches.find? (·.number = number) with
  | none =>
      have counted : admission.memberDone number = (admission, false) := by
        simp only [Admission.memberDone, known]
      simp only [counted, Bool.false_eq_true, if_false]
      exact ⟨_, holds.setLayer _ traffic.record [], .overcount number known⟩
  | some batch =>
      by_cases last : batch.unfinished ≤ 1
      · have counted : admission.memberDone number =
            ({ admission with batches := admission.batches.filter (·.number ≠ number) }, true) := by
          simp only [Admission.memberDone, known, if_pos last]
        simp only [counted, if_true]
        exact ⟨_, holds.setLayer _ traffic.record [], .complete number known last⟩
      · have counted : admission.memberDone number =
            ({ admission with
              batches := ⟨number, batch.unfinished - 1⟩ ::
                admission.batches.filter (·.number ≠ number) }, false) := by
          simp only [Admission.memberDone, known, if_neg last]
        simp only [counted, Bool.false_eq_true, if_false]
        exact ⟨_, holds.setLayer _ traffic.record [], .count number known (Nat.lt_of_not_le last)⟩

private theorem shutDown_effect {traffic : Traffic} {admission : Admission (Receiver Nat)}
    (holds : traffic.Holds admission) :
    ∃ changed, Holds (traffic.act (.shutDown control)).1 changed ∧
      Effect admission traffic.record (.shutDown control) changed
        (traffic.act (.shutDown control)).1.record (traffic.act (.shutDown control)).2 := by
  have misses : Stack.answerAll (admission.queue.map (·.receiver)) .notFound =
      missAll admission.queue := by
    rw [Stack.answerAll, List.map_map]
    rfl
  simp only [act, handedOver?, control_ne_behind, if_false, Stack.perform, holds.moving,
    Bool.false_eq_true, Stack.shutDown, holds.placed, Admission.close, turnedAwayAfter, misses]
  exact ⟨_, holds.setLayer _ traffic.record [], .close⟩

private theorem answer_effect {traffic : Traffic} {admission : Admission (Receiver Nat)}
    (holds : traffic.Holds admission) {receiver : Receiver Nat} {lookup : Lookup}
    {more : List (Work Nat)}
    (passes : traffic.stack.answer receiver lookup = (traffic.stack, more))
    (effect : Effect admission traffic.record (.answer receiver lookup) admission traffic.record
      more) :
    ∃ changed, Holds (traffic.act (.answer receiver lookup)).1 changed ∧
      Effect admission traffic.record (.answer receiver lookup) changed
        (traffic.act (.answer receiver lookup)).1.record
        (traffic.act (.answer receiver lookup)).2 := by
  simp only [act, handedOver?, Stack.perform, holds.moving, Bool.false_eq_true, if_false, passes,
    turnedAwayAfter]
  exact ⟨admission, ⟨holds.moving, holds.placed⟩, effect⟩

private theorem handOver_effect {traffic : Traffic} {admission : Admission (Receiver Nat)}
    (holds : traffic.Holds admission) {work : Work Nat} {requests : List (Request (Receiver Nat))}
    (handed : handedOver? work = some requests) :
    ∃ changed, Holds (traffic.act work).1 changed ∧
      Effect admission traffic.record work changed (traffic.act work).1.record
        (traffic.act work).2 := by
  simp only [act, handed]
  exact ⟨admission, ⟨holds.moving, holds.placed⟩, .handOver handed⟩

/-- Work that can be expected has one of the effects. -/
theorem act_effect {traffic : Traffic} {admission : Admission (Receiver Nat)}
    (holds : traffic.Holds admission) {keys : List String} {work : Work Nat}
    (expected : Expected keys work) :
    ∃ changed, Holds (traffic.act work).1 changed ∧
      Effect admission traffic.record work changed (traffic.act work).1.record
        (traffic.act work).2 := by
  cases expected with
  | arrival own => exact ask_effect holds _ _
  | single given => exact handOver_effect holds rfl
  | batch given => exact handOver_effect holds rfl
  | fromSingle callback lookup => exact answer_effect holds rfl (.passSingle callback lookup)
  | fromMember batch callback lookup =>
      exact answer_effect holds rfl (.passMember batch callback lookup)
  | reply callback lookup => exact answer_effect holds rfl (.reply callback lookup)
  | inform callback lookup =>
      exact ⟨admission, ⟨holds.moving, holds.placed⟩, .inform callback lookup⟩
  | freePlace => exact freePlace_effect holds
  | countMember batch => exact countMember_effect holds batch
  | shutDown => exact shutDown_effect holds
  | shutDownBehind => exact handOver_effect holds rfl

end TieredCache.Traffic
