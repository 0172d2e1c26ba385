import Mathlib.Algebra.Ring.Nat
import TieredCache.Proofs.Admission.Ledger

/-!
The places of an admission control. Main statements: every place is held by one single lookup or one
batch, a batch holds its place until its last member is done, and lookups only wait in the queue
while all places are taken.
-/

namespace TieredCache

def Admission.unfinished {ρ : Type} (admission : Admission ρ) (number : Nat) : Nat :=
  (admission.batches.find? (·.number = number)).elim 0 (·.unfinished)

namespace Traffic

variable {admission changed : Admission (Receiver Nat)} {record later : Record} {work : Work Nat}
  {more others pool : List (Work Nat)}

/-! ### Batches by number -/

private theorem find?_filter_of_ne (batches : List Batch) {number other : Nat}
    (different : other ≠ number) :
    (batches.filter (·.number ≠ number)).find? (·.number = other) =
      batches.find? (·.number = other) := by
  induction batches with
  | nil => rfl
  | cons batch rest ih =>
      by_cases same : batch.number = number
      · have skipped : ¬batch.number = other := fun equal => different (equal.symm.trans same)
        rw [List.filter_cons_of_neg (by simpa using same),
          List.find?_cons_of_neg (by simpa using skipped)]
        exact ih
      · rw [List.filter_cons_of_pos (by simpa using same), List.find?_cons, List.find?_cons, ih]

private theorem find?_filter_self (batches : List Batch) (number : Nat) :
    (batches.filter (·.number ≠ number)).find? (·.number = number) = none := by
  rw [List.find?_eq_none]
  intro batch member
  have differs := (List.mem_filter.mp member).2
  simpa using differs

private theorem length_filter_of_known {batches : List Batch} {number : Nat} {batch : Batch}
    (distinct : (batches.map (·.number)).Nodup)
    (known : batches.find? (·.number = number) = some batch) :
    (batches.filter (·.number ≠ number)).length + 1 = batches.length := by
  induction batches with
  | nil => cases known
  | cons first rest ih =>
      have parts := List.nodup_cons.mp distinct
      by_cases same : first.number = number
      · have kept : rest.filter (·.number ≠ number) = rest := by
          rw [List.filter_eq_self]
          intro other member
          have apart : other.number ≠ number := by
            intro equal
            exact parts.1 (List.mem_map.mpr ⟨other, member, equal.trans same.symm⟩)
          simpa using apart
        rw [List.filter_cons_of_neg (by simpa using same), kept, List.length_cons]
      · rw [List.find?_cons_of_neg (by simpa using same)] at known
        rw [List.filter_cons_of_pos (by simpa using same), List.length_cons, List.length_cons,
          ih parts.2 known]

private theorem unfinished_filter (batches : List Batch) (number other : Nat) :
    ((batches.filter (·.number ≠ number)).find? (·.number = other)).elim 0 (·.unfinished) =
      if other = number then 0 else (batches.find? (·.number = other)).elim 0 (·.unfinished) := by
  by_cases same : other = number
  · subst same
    rw [find?_filter_self, if_pos rfl]
    rfl
  · rw [find?_filter_of_ne batches same, if_neg same]

/-! ### Places and members -/

theorem places_of_handedOver {requests : List (Request (Receiver Nat))}
    (handed : handedOver? work = some requests) :
    work.places = requests.countP (·.receiver.isSingle) := by
  cases work with
  | ask layer key receiver =>
      obtain ⟨_, ⟨⟩⟩ := Option.ite_none_right_eq_some.mp handed
      rw [List.countP_cons, List.countP_nil, Nat.zero_add]
      rfl
  | askMany layer requests =>
      obtain ⟨_, ⟨⟩⟩ := Option.ite_none_right_eq_some.mp handed
      rfl
  | shutDown layer =>
      obtain ⟨_, ⟨⟩⟩ := Option.ite_none_right_eq_some.mp handed
      rfl
  | _ => cases handed

theorem membersOf_of_handedOver {requests : List (Request (Receiver Nat))}
    (handed : handedOver? work = some requests) (number : Nat) :
    work.membersOf number = requests.countP (·.receiver.batch? = some number) := by
  cases work with
  | ask layer key receiver =>
      obtain ⟨_, ⟨⟩⟩ := Option.ite_none_right_eq_some.mp handed
      rw [List.countP_cons, List.countP_nil, Nat.zero_add]
      simp [Work.membersOf]
  | askMany layer requests =>
      obtain ⟨_, ⟨⟩⟩ := Option.ite_none_right_eq_some.mp handed
      rfl
  | shutDown layer =>
      obtain ⟨_, ⟨⟩⟩ := Option.ite_none_right_eq_some.mp handed
      rfl
  | _ => cases handed

private theorem singles_membersFor (batch : Nat) (queue : List (Request (Receiver Nat))) :
    (membersFor batch queue).countP (·.receiver.isSingle) = 0 := by
  rw [membersFor, List.countP_map, List.countP_eq_zero]
  intro request member
  exact Bool.false_ne_true

private theorem members_membersFor (batch number : Nat) (queue : List (Request (Receiver Nat))) :
    (membersFor batch queue).countP (·.receiver.batch? = some number) =
      if number = batch then queue.length else 0 := by
  rw [membersFor, List.countP_map]
  by_cases same : number = batch
  · rw [if_pos same, List.countP_eq_length]
    intro request member
    simp [Receiver.batch?, same]
  · rw [if_neg same, List.countP_eq_zero]
    intro request member
    simpa [Receiver.batch?] using fun equal => same equal.symm

private theorem idle_missAll {keys : List String} {queue : List (Request (Receiver Nat))}
    (queued : ∀ request ∈ queue, Queued keys request) (number : Nat) :
    ((missAll queue).map (·.places)).sum = 0 ∧
      ((missAll queue).map (·.membersOf number)).sum = 0 := by
  induction queue with
  | nil => exact ⟨rfl, rfl⟩
  | cons request rest ih =>
      obtain ⟨places, members⟩ := ih fun other member => queued other (List.mem_cons_of_mem _ member)
      cases queued request List.mem_cons_self with
      | waiting own =>
          constructor
          · simpa [missAll, Work.places, Receiver.isSingle] using places
          · simpa [missAll, Work.membersOf, Receiver.batch?] using members

structure Balance (admission : Admission (Receiver Nat)) (record : Record)
    (pool : List (Work Nat)) : Prop where
  places : admission.inFlight = record.outstanding.countP (·.receiver.isSingle) +
    (pool.map (·.places)).sum + admission.batches.length
  members : ∀ number, admission.unfinished number =
    record.outstanding.countP (·.receiver.batch? = some number) +
      (pool.map (·.membersOf number)).sum
  positive : ∀ batch ∈ admission.batches, 1 ≤ batch.unfinished
  distinct : (admission.batches.map (·.number)).Nodup
  earlier : ∀ batch ∈ admission.batches, batch.number < admission.freshBatch

/-- What moves between the layer behind and the calls keeps the balance. -/
theorem Balance.move (balance : Balance admission record others)
    (places : later.outstanding.countP (·.receiver.isSingle) + (pool.map (·.places)).sum =
      record.outstanding.countP (·.receiver.isSingle) + (others.map (·.places)).sum)
    (members : ∀ number, later.outstanding.countP (·.receiver.batch? = some number) +
        (pool.map (·.membersOf number)).sum =
      record.outstanding.countP (·.receiver.batch? = some number) +
        (others.map (·.membersOf number)).sum) :
    Balance admission later pool where
  places := by
    rw [places]
    exact balance.places
  members := by
    intro number
    rw [members number]
    exact balance.members number
  positive := balance.positive
  distinct := balance.distinct
  earlier := balance.earlier

/-- Work that holds no place and finishes no member does not matter. -/
theorem Balance.cons_idle (balance : Balance admission record pool)
    (same : later.outstanding = record.outstanding) (places : work.places = 0)
    (members : ∀ number, work.membersOf number = 0) : Balance admission later (work :: pool) := by
  refine balance.move ?_ ?_
  · rw [same, List.map_cons, List.sum_cons, places, Nat.zero_add]
  · intro number
    rw [same, List.map_cons, List.sum_cons, members, Nat.zero_add]

/-- Work that leaves the batches alone keeps the balance if it keeps the sums. -/
private theorem Balance.keep (balance : Balance admission record (work :: others))
    (batches : changed.batches = admission.batches)
    (fresh : changed.freshBatch = admission.freshBatch)
    (places : changed.inFlight + work.places + record.outstanding.countP (·.receiver.isSingle) =
      admission.inFlight + (more.map (·.places)).sum +
        later.outstanding.countP (·.receiver.isSingle))
    (members : ∀ number, work.membersOf number +
        record.outstanding.countP (·.receiver.batch? = some number) =
      (more.map (·.membersOf number)).sum +
        later.outstanding.countP (·.receiver.batch? = some number)) :
    Balance changed later (more ++ others) where
  places := by
    have before := balance.places
    rw [List.map_cons, List.sum_cons] at before
    rw [batches, List.map_append, List.sum_append]
    omega
  members := by
    intro number
    have before := balance.members number
    rw [List.map_cons, List.sum_cons] at before
    have change := members number
    rw [Admission.unfinished] at before ⊢
    rw [batches, List.map_append, List.sum_append]
    omega
  positive := by
    rw [batches]
    exact balance.positive
  distinct := by
    rw [batches]
    exact balance.distinct
  earlier := by
    rw [batches, fresh]
    exact balance.earlier

/-- A batch that goes out takes over a place. -/
private theorem Balance.flush (balance : Balance admission record (.freePlace control :: others))
    (waiting : admission.queue ≠ []) :
    Balance { admission with
      queue := []
      lastBatch := admission.queue.length
      batches := ⟨admission.freshBatch, admission.queue.length⟩ :: admission.batches
      freshBatch := admission.freshBatch + 1 } record
      (.askMany behind (membersFor admission.freshBatch admission.queue) :: others) where
  places := by
    have before := balance.places
    have none := singles_membersFor admission.freshBatch admission.queue
    rw [List.map_cons, List.sum_cons] at before ⊢
    change _ = _ + (1 + _) + _ at before
    change admission.inFlight = _ + (List.countP _ _ + _) + (admission.batches.length + 1)
    omega
  members := by
    intro number
    have before := balance.members number
    rw [List.map_cons, List.sum_cons] at before ⊢
    change _ = _ + (0 + _) at before
    change _ = _ + (List.countP _ _ + _)
    rw [members_membersFor]
    rw [Admission.unfinished] at before ⊢
    by_cases same : number = admission.freshBatch
    · -- The number is fresh, so none of its members can be on their way yet.
      have unknown : admission.batches.find? (·.number = number) = none := by
        rw [List.find?_eq_none]
        intro batch member
        have older := balance.earlier batch member
        simp only [decide_eq_true_eq]
        omega
      rw [unknown, Option.elim_none] at before
      rw [List.find?_cons_of_pos (by simpa using same.symm), if_pos same]
      change admission.queue.length = _
      omega
    · rw [List.find?_cons_of_neg (by simpa using fun equal => same equal.symm), if_neg same]
      exact before
  positive := by
    intro batch member
    rcases List.mem_cons.mp member with rfl | old
    · exact List.length_pos_iff.mpr waiting
    · exact balance.positive batch old
  distinct := by
    rw [List.map_cons]
    refine List.nodup_cons.mpr ⟨?_, balance.distinct⟩
    intro known
    obtain ⟨batch, member, same⟩ := List.mem_map.mp known
    exact Nat.ne_of_lt (balance.earlier batch member) same
  earlier := by
    intro batch member
    rcases List.mem_cons.mp member with rfl | old
    · exact Nat.lt_succ_self _
    · exact Nat.lt_succ_of_lt (balance.earlier batch old)

/-- What a member that is done held, and the work that is left. -/
private theorem Balance.members_of_countMember {number : Nat} {batch : Batch}
    (balance : Balance admission record (.countMember control number :: others))
    (known : admission.batches.find? (·.number = number) = some batch) (other : Nat) :
    (if other = number then batch.unfinished
      else (admission.batches.find? (·.number = other)).elim 0 (·.unfinished)) =
      record.outstanding.countP (·.receiver.batch? = some other) +
        ((if other = number then 1 else 0) + (others.map (·.membersOf other)).sum) := by
  have before := balance.members other
  rw [List.map_cons, List.sum_cons, Admission.unfinished] at before
  change _ = _ + ((if number = other then 1 else 0) + _) at before
  by_cases same : other = number
  · subst same
    rw [known, if_pos rfl] at before
    rw [if_pos rfl, if_pos rfl]
    exact before
  · rw [if_neg (fun equal => same equal.symm)] at before
    rw [if_neg same, if_neg same]
    exact before

/-- A member that is done and is not the last one of its batch. -/
private theorem Balance.count {number : Nat} {batch : Batch}
    (balance : Balance admission record (.countMember control number :: others))
    (known : admission.batches.find? (·.number = number) = some batch)
    (still : 1 < batch.unfinished) :
    Balance { admission with
      batches := ⟨number, batch.unfinished - 1⟩ ::
        admission.batches.filter (·.number ≠ number) } record others where
  places := by
    have before := balance.places
    have length := length_filter_of_known balance.distinct known
    rw [List.map_cons, List.sum_cons] at before
    change _ = _ + (0 + _) + _ at before
    rw [List.length_cons]
    change admission.inFlight = _
    omega
  members := by
    intro other
    have before := balance.members_of_countMember known other
    rw [Admission.unfinished]
    by_cases same : other = number
    · rw [if_pos same, if_pos same] at before
      rw [List.find?_cons_of_pos (by simpa using same.symm)]
      change batch.unfinished - 1 = _
      omega
    · rw [if_neg same, if_neg same] at before
      rw [List.find?_cons_of_neg (by simpa using fun equal => same equal.symm), unfinished_filter,
        if_neg same]
      omega
  positive := by
    intro other member
    rcases List.mem_cons.mp member with rfl | old
    · exact Nat.le_sub_one_of_lt still
    · exact balance.positive other (List.mem_filter.mp old).1
  distinct := by
    rw [List.map_cons]
    refine List.nodup_cons.mpr ⟨?_, (List.filter_sublist.map _).nodup balance.distinct⟩
    intro present
    obtain ⟨other, kept, same⟩ := List.mem_map.mp present
    have differs := (List.mem_filter.mp kept).2
    simp [same] at differs
  earlier := by
    intro other member
    rcases List.mem_cons.mp member with rfl | old
    · have same : batch.number = number := by simpa using List.find?_some known
      have older := balance.earlier batch (List.mem_of_find?_eq_some known)
      rw [same] at older
      exact older
    · exact balance.earlier other (List.mem_filter.mp old).1

/-- The last member of a batch that is done gives the place of the batch back. -/
private theorem Balance.complete {number : Nat} {batch : Batch}
    (balance : Balance admission record (.countMember control number :: others))
    (known : admission.batches.find? (·.number = number) = some batch)
    (last : batch.unfinished ≤ 1) :
    Balance { admission with batches := admission.batches.filter (·.number ≠ number) } record
      (.freePlace control :: others) where
  places := by
    have before := balance.places
    have length := length_filter_of_known balance.distinct known
    rw [List.map_cons, List.sum_cons] at before ⊢
    change _ = _ + (0 + _) + _ at before
    change admission.inFlight = _ + (1 + _) + (admission.batches.filter (·.number ≠ number)).length
    omega
  members := by
    intro other
    have before := balance.members_of_countMember known other
    rw [List.map_cons, List.sum_cons, Admission.unfinished, unfinished_filter]
    change _ = _ + (0 + _)
    by_cases same : other = number
    · rw [if_pos same, if_pos same] at before
      rw [if_pos same]
      omega
    · rw [if_neg same, if_neg same] at before
      rw [if_neg same]
      exact before
  positive := fun other member => balance.positive other (List.mem_filter.mp member).1
  distinct := (List.filter_sublist.map _).nodup balance.distinct
  earlier := fun other member => balance.earlier other (List.mem_filter.mp member).1

theorem Balance.effect (balance : Balance admission record (work :: others))
    (queued : ∀ request ∈ admission.queue, Queued record.keys request)
    (effect : Effect admission record work changed later more) :
    Balance changed later (more ++ others) := by
  cases effect with
  | flush waiting => exact balance.flush waiting
  | count number known still => exact balance.count known still
  | complete number known last => exact balance.complete known last
  | overcount number unknown =>
      have counted := balance.members number
      rw [Admission.unfinished, unknown, List.map_cons, List.sum_cons] at counted
      change 0 = _ + ((if number = number then 1 else 0) + _) at counted
      rw [if_pos rfl] at counted
      omega
  | handOver handed =>
      refine Balance.keep balance rfl rfl ?_ ?_
      · rw [places_of_handedOver handed, List.countP_append, List.map_nil, List.sum_nil]
        omega
      · intro number
        rw [membersOf_of_handedOver handed, List.countP_append, List.map_nil, List.sum_nil]
        omega
  | release empty =>
      have before := balance.places
      rw [List.map_cons, List.sum_cons] at before
      change _ = _ + (1 + _) + _ at before
      refine Balance.keep balance rfl rfl ?_ ?_
      · change admission.inFlight - 1 + 1 + _ = admission.inFlight + 0 + _
        omega
      · intro number
        rfl
  | close =>
      have idle := idle_missAll queued
      refine Balance.keep balance rfl rfl ?_ ?_
      · rw [List.map_append, List.sum_append, (idle 0).1]
        rfl
      · intro number
        rw [List.map_append, List.sum_append, (idle number).2]
        rfl
  | _ =>
      refine Balance.keep balance rfl rfl ?_ ?_
      · simp [Work.places, Receiver.isSingle]
      · intro number
        simp [Work.membersOf, Receiver.batch?]

/-! ### Limits -/

structure Limits (admission : Admission (Receiver Nat)) : Prop where
  limited : admission.inFlight ≤ admission.limit
  bounded : admission.queue.length ≤ admission.settings.maximumQueue
  busy : admission.queue ≠ [] → admission.inFlight = admission.limit
  shut : admission.closed = true → admission.queue = []

theorem Limits.effect (limits : Limits admission)
    (effect : Effect admission record work changed later more) : Limits changed := by
  cases effect with
  | issue key callback opened free =>
      refine ⟨free, limits.bounded, ?_, limits.shut⟩
      intro waiting
      exact absurd (limits.busy waiting) (Nat.ne_of_lt free)
  | queue key callback opened taken room =>
      refine ⟨limits.limited, ?_, ?_, ?_⟩
      · rw [List.length_append]
        exact room
      · intro _
        exact Nat.le_antisymm limits.limited taken
      · intro closed
        exact absurd (closed.symm.trans opened) Bool.noConfusion
  | release empty =>
      exact ⟨Nat.le_trans (Nat.sub_le _ _) limits.limited, limits.bounded,
        fun waiting => absurd empty waiting, limits.shut⟩
  | flush waiting =>
      exact ⟨limits.limited, Nat.zero_le _, fun none => absurd rfl none, fun _ => rfl⟩
  | close => exact ⟨limits.limited, Nat.zero_le _, fun none => absurd rfl none, fun _ => rfl⟩
  | _ => exact ⟨limits.limited, limits.bounded, limits.busy, limits.shut⟩

end Traffic

end TieredCache
