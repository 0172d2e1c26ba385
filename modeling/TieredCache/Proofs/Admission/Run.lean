import Mathlib.Data.List.Dedup
import TieredCache.Proofs.Admission.Accounts
import TieredCache.Proofs.Calls

/-!
Runs of an admission control, with calls inside of calls and answers in any order. Main statement:
`run_accounts`.
-/

namespace TieredCache.Traffic

variable {settings : AdmissionSettings} {admission changed : Admission (Receiver Nat)}
  {record later : Record} {work : Work Nat} {more others pool : List (Work Nat)}
  {traffic : Traffic}

/-! ### What calls have left to do -/

/-- A bound on the pieces of work that follow from one, itself included. -/
def weight : Work Nat → Nat
  | .inform _ _ => 1
  | .answer (.client _) _ => 2
  | .answer (.place _ _) _ => 5
  | .answer _ _ => 6
  | .freePlace _ => 2
  | .countMember _ _ => 3
  | .ask layer _ _ => if layer = control then 4 else 1
  | .shutDown layer => if layer = control then 2 else 1
  | _ => 1

def burden (admission : Admission (Receiver Nat)) (pool : List (Work Nat)) : Nat :=
  2 * admission.queue.length + (pool.map weight).sum

private theorem behind_ne_control : behind ≠ control := by decide

theorem weight_pos (work : Work Nat) : 0 < weight work := by
  unfold weight
  split <;> (try split) <;> omega

private theorem weight_missAll {keys : List String} {queue : List (Request (Receiver Nat))}
    (queued : ∀ request ∈ queue, Queued keys request) :
    ((missAll queue).map weight).sum = 2 * queue.length := by
  induction queue with
  | nil => rfl
  | cons request rest ih =>
      have after := ih fun other member => queued other (List.mem_cons_of_mem _ member)
      cases queued request List.mem_cons_self with
      | waiting own =>
          rw [missAll, List.map_cons, List.map_cons, List.sum_cons, List.length_cons]
          change 2 + ((missAll rest).map weight).sum = _
          omega

theorem Effect.burden_lt (effect : Effect admission record work changed later more)
    (queued : ∀ request ∈ admission.queue, Queued record.keys request)
    (others : List (Work Nat)) :
    burden changed (more ++ others) < burden admission (work :: others) := by
  simp only [burden, List.map_append, List.map_cons, List.sum_append, List.sum_cons]
  generalize (others.map weight).sum = rest
  cases effect with
  | handOver handed =>
      have positive := weight_pos work
      rw [List.map_nil, List.sum_nil]
      omega
  | flush waiting =>
      have some := List.length_pos_iff.mpr waiting
      simp only [List.map_cons, List.map_nil, List.sum_cons, List.sum_nil, weight, List.length_nil]
      omega
  | close =>
      rw [List.map_append, List.sum_append, weight_missAll queued]
      change 2 * 0 + (_ + 1 + rest) < _ + (2 + rest)
      omega
  | _ =>
      simp only [List.map_cons, List.map_nil, List.sum_cons, List.sum_nil, weight, if_true,
        if_neg behind_ne_control, List.length_append, List.length_singleton]
      omega

theorem burden_perm {left right : List (Work Nat)} (same : left.Perm right) :
    burden admission left = burden admission right := by
  rw [burden, burden, (same.map weight).sum_nat]

/-! ### Steps -/

/-- What a run keeps of an admission control in use. -/
structure Kept (settings : AdmissionSettings) (traffic : Traffic)
    (admission : Admission (Receiver Nat)) : Prop where
  holds : traffic.Holds admission
  sound : Sound settings admission traffic.record traffic.calls.flatten

theorem Kept.opened (settings : AdmissionSettings) :
    Kept settings (Traffic.opened settings) { settings } :=
  ⟨⟨rfl, rfl⟩, Sound.opened settings⟩

/-- A call goes on with a piece of work. The invariant does not depend on the order of work, so that
the piece may be taken from the front. -/
theorem Kept.effect {position : Nat} {rest : List (Work Nat)} (kept : Kept settings traffic admission)
    (call : traffic.calls[position]? = some (work :: rest)) :
    ∃ changed, Kept settings (traffic.next (.work position)) changed ∧
      Effect admission traffic.record work changed (traffic.act work).1.record
        (traffic.act work).2 ∧
      burden changed (traffic.next (.work position)).calls.flatten <
        burden admission traffic.calls.flatten := by
  obtain ⟨others, first, last⟩ := Calls.flatten_perm call
  have sound := kept.sound.perm first
  obtain ⟨changed, holds, effect⟩ :=
    act_effect kept.holds (sound.shape.expected work List.mem_cons_self)
  have stepped : traffic.next (.work position) =
      { (traffic.act work).1 with
        calls := traffic.calls.set position ((traffic.act work).2 ++ rest) } := by
    simp only [next, call]
  rw [stepped]
  refine ⟨changed, ⟨⟨holds.moving, holds.placed⟩, (sound.effect effect).perm (last _).symm⟩,
    effect, ?_⟩
  rw [burden_perm (last _), burden_perm first]
  exact effect.burden_lt sound.shape.queued _

theorem Kept.worked {position : Nat} {rest : List (Work Nat)} (kept : Kept settings traffic admission)
    (call : traffic.calls[position]? = some (work :: rest)) :
    ∃ changed, Kept settings (traffic.next (.work position)) changed ∧
      burden changed (traffic.next (.work position)).calls.flatten <
        burden admission traffic.calls.flatten :=
  have ⟨changed, after, _, less⟩ := kept.effect call
  ⟨changed, after, less⟩

def ShutsDown (traffic : Traffic) (move : Move) : Prop :=
  ∃ position rest, move = .work position ∧
    traffic.calls[position]? = some (.shutDown control :: rest)

theorem shutsDown_work {position : Nat} : traffic.ShutsDown (.work position) ↔
    ∃ rest, traffic.calls[position]? = some (.shutDown control :: rest) := by
  constructor
  · rintro ⟨_, rest, ⟨⟩, started⟩
    exact ⟨rest, started⟩
  · rintro ⟨rest, started⟩
    exact ⟨position, rest, rfl, started⟩

/-- Whether a run shuts the admission control down, by its first move and the others. -/
theorem shutsDown_cons (traffic : Traffic) (move : Move) (rest : List Move) :
    (∃ earlier other later, move :: rest = earlier ++ other :: later ∧
        (traffic.run earlier).ShutsDown other) ↔
      traffic.ShutsDown move ∨ ∃ earlier other later, rest = earlier ++ other :: later ∧
        ((traffic.next move).run earlier).ShutsDown other := by
  constructor
  · rintro ⟨earlier, other, later, split, performed⟩
    cases earlier with
    | nil =>
        cases split
        exact .inl performed
    | cons first front =>
        cases split
        exact .inr ⟨front, other, later, rfl, performed⟩
  · rintro (own | ⟨earlier, other, later, rfl, performed⟩)
    · exact ⟨[], move, rest, rfl, own⟩
    · exact ⟨move :: earlier, other, later, rfl, performed⟩

theorem Effect.closed_iff (effect : Effect admission record work changed later more) :
    changed.closed = true ↔ admission.closed = true ∨ work = .shutDown control := by
  cases effect with
  | close => simp
  | handOver handed =>
      refine ⟨.inl, fun either => either.resolve_right ?_⟩
      rintro rfl
      cases handed
  | _ => simp

theorem Kept.next (kept : Kept settings traffic admission) (move : Move) :
    ∃ changed, Kept settings (traffic.next move) changed ∧
      (changed.closed = true ↔ admission.closed = true ∨ traffic.ShutsDown move) := by
  have idle (other : ¬traffic.ShutsDown move) :
      admission.closed = true ↔ admission.closed = true ∨ traffic.ShutsDown move :=
    (or_iff_left other).symm
  cases move with
  | get key =>
      exact ⟨admission, ⟨⟨kept.holds.moving, kept.holds.placed⟩, kept.sound.get key⟩,
        idle fun ⟨_, _, same, _⟩ => nomatch same⟩
  | shutDown =>
      exact ⟨admission, ⟨⟨kept.holds.moving, kept.holds.placed⟩, kept.sound.shutDown⟩,
        idle fun ⟨_, _, same, _⟩ => nomatch same⟩
  | answer position lookup =>
      refine ⟨admission, ?_, idle fun ⟨_, _, same, _⟩ => nomatch same⟩
      cases present : traffic.record.outstanding[position]? with
      | none =>
          simp only [Traffic.next, present]
          exact kept
      | some request =>
          simp only [Traffic.next, present]
          exact ⟨⟨kept.holds.moving, kept.holds.placed⟩, kept.sound.answer present lookup⟩
  | work position =>
      cases call : traffic.calls[position]? with
      | none =>
          exact ⟨admission, by simpa only [Traffic.next, call] using kept,
            idle (by simp [shutsDown_work, call])⟩
      | some left =>
          cases left with
          | nil =>
              exact ⟨admission, by simpa only [Traffic.next, call] using kept,
                idle (by simp [shutsDown_work, call])⟩
          | cons work rest =>
              obtain ⟨changed, after, effect, -⟩ := kept.effect call
              refine ⟨changed, after, effect.closed_iff.trans (or_congr_right ?_)⟩
              simp [shutsDown_work, call]

theorem Kept.run (kept : Kept settings traffic admission) (moves : List Move) :
    ∃ changed, Kept settings (traffic.run moves) changed ∧
      (changed.closed = true ↔ admission.closed = true ∨ ∃ earlier move later,
        moves = earlier ++ move :: later ∧ (traffic.run earlier).ShutsDown move) := by
  induction moves generalizing traffic admission with
  | nil =>
      refine ⟨admission, kept, .inl, fun either => either.resolve_right ?_⟩
      rintro ⟨earlier, move, later, none, -⟩
      cases earlier <;> cases none
  | cons move rest ih =>
      obtain ⟨changed, after, now⟩ := kept.next move
      obtain ⟨last, kept, since⟩ := ih after
      refine ⟨last, kept, ?_⟩
      rw [since, now, or_assoc, shutsDown_cons]

/-- An admission control is closed once a call has shut it down, and not before. -/
theorem closed_iff_shutsDown (settings : AdmissionSettings) (moves : List Move)
    {admission : Admission (Receiver Nat)}
    (known : ((opened settings).run moves).admission? = some admission) :
    admission.closed = true ↔ ∃ earlier move later,
      moves = earlier ++ move :: later ∧ ((opened settings).run earlier).ShutsDown move := by
  obtain ⟨last, kept, closed⟩ := (Kept.opened settings).run moves
  rw [kept.holds.admission?_eq] at known
  cases known
  exact closed.trans (or_iff_right Bool.false_ne_true)

/-- Whatever calls are under way, they can all be gone on with until they have returned. -/
theorem Kept.returns (kept : Kept settings traffic admission) :
    ∃ positions : List Nat, (traffic.run (positions.map .work)).AtRest := by
  obtain ⟨positions, returned⟩ := @Calls.returns _ _ _ Traffic.calls
    (fun traffic position => traffic.next (.work position)) (Kept settings)
    (fun traffic admission => burden admission traffic.calls.flatten) Kept.worked _ _ kept
  refine ⟨positions, ?_⟩
  rw [AtRest, Traffic.run, List.foldl_map]
  exact returned

/-! ### Places, counted from outside -/

/-- The single lookups that hold a place: at the layer behind, or in the hands of a call. -/
def singles (record : Record) (pool : List (Work Nat)) : Nat :=
  record.outstanding.countP (·.receiver.isSingle) + (pool.map (·.places)).sum

/-- The batches with members at the layer behind or in the hands of a call. -/
def openBatches (record : Record) (pool : List (Work Nat)) : List Nat :=
  (record.outstanding.filterMap (·.receiver.batch?) ++ pool.flatMap (·.batches)).dedup

theorem mem_filterMap_batch? {requests : List (Request (Receiver Nat))} {number : Nat} :
    number ∈ requests.filterMap (·.receiver.batch?) ↔
      0 < requests.countP (·.receiver.batch? = some number) := by
  rw [List.mem_filterMap, List.countP_pos_iff]
  simp only [decide_eq_true_eq]

theorem mem_batches {number : Nat} : number ∈ work.batches ↔ 0 < work.membersOf number := by
  cases work with
  | ask layer key receiver =>
      by_cases same : receiver.batch? = some number <;> simp [Work.batches, Work.membersOf, same]
  | answer receiver lookup =>
      by_cases same : receiver.batch? = some number <;> simp [Work.batches, Work.membersOf, same]
  | askMany layer requests => exact mem_filterMap_batch?
  | countMember layer other =>
      by_cases same : other = number
      · simp [Work.batches, Work.membersOf, same]
      · simp [Work.batches, Work.membersOf, same, Ne.symm same]
  | _ => simp [Work.batches, Work.membersOf]

theorem mem_openBatches {number : Nat} : number ∈ openBatches record pool ↔
    0 < record.outstanding.countP (·.receiver.batch? = some number) +
      (pool.map (·.membersOf number)).sum := by
  rw [openBatches, List.mem_dedup, List.mem_append, mem_filterMap_batch?, Nat.add_pos_iff_pos_or_pos]
  refine or_congr_right ?_
  induction pool with
  | nil => simp
  | cons work rest ih =>
      rw [List.flatMap_cons, List.mem_append, mem_batches, ih, List.map_cons, List.sum_cons,
        Nat.add_pos_iff_pos_or_pos]

/-- The batches that the admission control knows of are those with members that are not done. -/
theorem Balance.batches_perm (balance : Balance admission record pool) :
    (admission.batches.map (·.number)).Perm (openBatches record pool) := by
  have distinct : (openBatches record pool).Nodup := List.nodup_dedup _
  refine (List.perm_ext_iff_of_nodup balance.distinct distinct).mpr ?_
  intro number
  rw [mem_openBatches, ← balance.members number, Admission.unfinished]
  constructor
  · intro known
    obtain ⟨batch, member, same⟩ := List.mem_map.mp known
    cases found : admission.batches.find? (·.number = number) with
    | none => exact absurd same (by simpa using List.find?_eq_none.mp found batch member)
    | some first => exact balance.positive first (List.mem_of_find?_eq_some found)
  · intro positive
    cases found : admission.batches.find? (·.number = number) with
    | none =>
        rw [found] at positive
        exact absurd positive (Nat.lt_irrefl 0)
    | some first =>
        have same : first.number = number := by simpa using List.find?_some found
        exact List.mem_map.mpr ⟨first, List.mem_of_find?_eq_some found, same⟩

theorem Balance.held (balance : Balance admission record pool) :
    admission.inFlight = singles record pool + (openBatches record pool).length := by
  rw [← balance.batches_perm.length_eq, List.length_map]
  exact balance.places

/-! ### What can be relied on -/

/-- What an admission control owes to its callers and to the layer behind it, when calls have `pool`
left to do. -/
structure Accounts (settings : AdmissionSettings) (admission : Admission (Receiver Nat))
    (record : Record) (pool : List (Work Nat)) : Prop where
  held : admission.inFlight = singles record pool + (openBatches record pool).length
  limited : admission.inFlight ≤ max 1 settings.maximumParallel
  bounded : admission.queue.length ≤ settings.maximumQueue
  busy : admission.queue ≠ [] → admission.inFlight = max 1 settings.maximumParallel
  /-- No lookup is stranded, and no place is lost. -/
  idle : singles record pool = 0 → openBatches record pool = [] →
    admission.queue = [] ∧ admission.inFlight = 0
  /-- Every callback is in one place. -/
  once : (whereabouts admission record pool).Perm (List.range record.keys.length)
  /-- Answers of the layer behind are for one callback, that asked for this key. -/
  answered : ∀ request lookup, (request, lookup) ∈ record.answers → ∃ callback,
    request.receiver.callbacks = [callback] ∧ record.keys[callback]? = some request.key ∧
      (callback, lookup) ∈ announced record pool
  told : ∀ telling ∈ announced record pool, OwnMiss admission record telling ∨
    ∃ request, (request, telling.2) ∈ record.answers ∧
      request.receiver.callbacks = [telling.1] ∧ record.keys[telling.1]? = some request.key
  dropped : admission.dropped = record.turnedAway.length
  droppedOnce : record.turnedAway.Nodup
  missed : ∀ callback ∈ record.turnedAway, (callback, .notFound) ∈ announced record pool

theorem Given.callbacks_eq {keys : List String} {request : Request (Receiver Nat)}
    (given : Given keys request) : ∃ callback, request.receiver.callbacks = [callback] ∧
      keys[callback]? = some request.key := by
  cases given with
  | single own => exact ⟨_, rfl, own⟩
  | member batch own => exact ⟨_, rfl, own⟩

theorem Sound.accounts (sound : Sound settings admission record pool) :
    Accounts settings admission record pool where
  held := sound.balance.held
  limited := by
    have limited := sound.limits.limited
    rw [Admission.limit, sound.settings_eq, Nat.max_comm] at limited
    exact limited
  bounded := by
    have bounded := sound.limits.bounded
    rw [sound.settings_eq] at bounded
    exact bounded
  busy := by
    intro waiting
    have busy := sound.limits.busy waiting
    rw [Admission.limit, sound.settings_eq, Nat.max_comm] at busy
    exact busy
  idle := by
    intro single batches
    have free : admission.inFlight = 0 := by
      rw [sound.balance.held, single, batches]
      rfl
    refine ⟨?_, free⟩
    by_contra waiting
    have taken := sound.limits.busy waiting
    rw [free, Admission.limit] at taken
    omega
  once := sound.once
  answered := by
    intro request lookup member
    obtain ⟨callback, only, own⟩ := (sound.shape.answered _ member).callbacks_eq
    refine ⟨callback, only, own, ?_⟩
    exact sound.told.passedOn _ member callback (only ▸ List.mem_singleton_self callback)
  told := by
    intro telling known
    refine (sound.told.sourced telling known).imp_right ?_
    rintro ⟨request, answered, own⟩
    obtain ⟨callback, only, key⟩ := (sound.shape.answered _ answered).callbacks_eq
    rw [only] at own
    rw [List.mem_singleton.mp own]
    exact ⟨request, answered, only, key⟩
  dropped := sound.told.counted
  droppedOnce := sound.told.distinct
  missed := sound.told.missed

/-- Once no call is under way and the layer behind owes no answer, every callback was told. -/
theorem Accounts.settled (accounts : Accounts settings admission record [])
    (answered : record.outstanding = []) :
    admission.queue = [] ∧ admission.inFlight = 0 ∧
      (record.told.map (·.1)).Perm (List.range record.keys.length) := by
  have single : singles record [] = 0 := by simp [singles, answered]
  have batches : openBatches record [] = [] := by simp [openBatches, answered]
  obtain ⟨empty, free⟩ := accounts.idle single batches
  have once := accounts.once
  rw [whereabouts, empty, answered] at once
  exact ⟨empty, free, once⟩

/-- After any lookups, shutdowns and answers, in any order, and with any calls still under way, the
accounts are in order. All calls can be gone on with until they have returned; what then holds a
place or waits for an answer is at the layer behind. -/
theorem run_accounts (settings : AdmissionSettings) (moves : List Move) :
    ∃ admission, ((opened settings).run moves).admission? = some admission ∧
      Accounts settings admission ((opened settings).run moves).record
        ((opened settings).run moves).calls.flatten ∧
      (((opened settings).run moves).AtRest →
        ((opened settings).run moves).record.outstanding = [] →
          admission.queue = [] ∧ admission.inFlight = 0 ∧
            (((opened settings).run moves).record.told.map (·.1)).Perm
              (List.range ((opened settings).run moves).record.keys.length)) ∧
      ∃ positions : List Nat, (((opened settings).run moves).run (positions.map .work)).AtRest := by
  obtain ⟨admission, kept, -⟩ := (Kept.opened settings).run moves
  have accounts := kept.sound.accounts
  refine ⟨admission, kept.holds.admission?_eq, accounts, ?_, kept.returns⟩
  intro rest answered
  rw [rest] at accounts
  exact accounts.settled answered

private def threeLookups : List Move :=
  [.get "a", .work 0, .work 0, .get "b", .work 0, .get "c", .work 0, .work 0, .work 0,
    .answer 0 .notFound, .work 0, .work 0, .work 0, .work 0, .work 0]

theorem run_accounts_of_three :
    let settings : AdmissionSettings := { maximumParallel := 1, maximumQueue := 1 }
    let traffic := (opened settings).run threeLookups
    traffic.record.told.map (·.1) = [0, 2] ∧ traffic.record.turnedAway = [2] ∧
      traffic.record.outstanding.map (·.receiver.batch?) = [some 0] ∧
      ∃ admission, traffic.admission? = some admission ∧
        Accounts settings admission traffic.record traffic.calls.flatten := by
  intro settings traffic
  obtain ⟨admission, known, accounts, -⟩ := run_accounts settings threeLookups
  exact ⟨by decide, by decide, by decide, admission, known, accounts⟩

end TieredCache.Traffic
