import TieredCache.Proofs.Admission.Effect

/-!
Where the callbacks of an admission control are, and what they are told. Main statements: work moves
callbacks from place to place but neither loses nor copies any, answers of the layer behind stay on
their way until they are told, and all other answers are misses.
-/

namespace TieredCache.Traffic

variable {admission changed : Admission (Receiver Nat)} {record later : Record} {work : Work Nat}
  {more others pool : List (Work Nat)}

/-! ### The form of requests and work -/

structure Shape (admission : Admission (Receiver Nat)) (record : Record)
    (pool : List (Work Nat)) : Prop where
  expected : ∀ work ∈ pool, Expected record.keys work
  queued : ∀ request ∈ admission.queue, Queued record.keys request
  given : ∀ request ∈ record.outstanding, Given record.keys request
  answered : ∀ entry ∈ record.answers, Given record.keys entry.1

theorem Expected.given_of_handedOver {keys : List String}
    {requests : List (Request (Receiver Nat))} (expected : Expected keys work)
    (handed : handedOver? work = some requests) : ∀ request ∈ requests, Given keys request := by
  cases expected with
  | single given =>
      cases handed
      intro request member
      rw [List.mem_singleton.mp member]
      exact given
  | batch given =>
      cases handed
      exact given
  | shutDownBehind =>
      cases handed
      intro request member
      cases member
  | _ => cases handed

theorem Queued.given_member {keys : List String} {request : Request (Receiver Nat)}
    (queued : Queued keys request) (batch : Nat) :
    Given keys ⟨request.key, .member control batch request.receiver⟩ := by
  cases queued with
  | waiting own => exact .member batch own

/-- Work leaves work of the same form behind. -/
theorem Shape.effect (shape : Shape admission record (work :: others))
    (effect : Effect admission record work changed later more) :
    Shape changed later (more ++ others) := by
  have current := shape.expected work List.mem_cons_self
  have rest : ∀ work ∈ others, Expected record.keys work :=
    fun work member => shape.expected work (List.mem_cons_of_mem _ member)
  have only : ∀ {fresh : List (Work Nat)}, (∀ work ∈ fresh, Expected record.keys work) →
      ∀ work ∈ fresh ++ others, Expected record.keys work := by
    intro fresh allowed work member
    rcases List.mem_append.mp member with new | old
    · exact allowed work new
    · exact rest work old
  cases effect with
  | refuse key callback closed =>
      exact ⟨only (by simpa using .reply callback .notFound), shape.queued, shape.given,
        shape.answered⟩
  | issue key callback opened free =>
      cases current with
      | arrival own =>
          exact ⟨only (by simpa using .single (.single own)), shape.queued, shape.given,
            shape.answered⟩
  | queue key callback opened taken room =>
      cases current with
      | arrival own =>
          refine ⟨rest, ?_, shape.given, shape.answered⟩
          intro request member
          rcases List.mem_append.mp member with old | new
          · exact shape.queued request old
          · rw [List.mem_singleton.mp new]
            exact .waiting own
  | drop key callback full =>
      exact ⟨only (by simpa using .reply callback .notFound), shape.queued, shape.given,
        shape.answered⟩
  | handOver handed =>
      refine ⟨rest, shape.queued, ?_, shape.answered⟩
      intro request member
      rcases List.mem_append.mp member with new | old
      · exact current.given_of_handedOver handed request new
      · exact shape.given request old
  | passSingle callback lookup =>
      exact ⟨only (by simpa using ⟨.reply callback lookup, .freePlace⟩), shape.queued, shape.given,
        shape.answered⟩
  | passMember batch callback lookup =>
      exact ⟨only (by simpa using ⟨.reply callback lookup, .countMember batch⟩), shape.queued,
        shape.given, shape.answered⟩
  | reply callback lookup =>
      exact ⟨only (by simpa using .inform callback lookup), shape.queued, shape.given,
        shape.answered⟩
  | inform callback lookup => exact ⟨rest, shape.queued, shape.given, shape.answered⟩
  | release empty => exact ⟨rest, shape.queued, shape.given, shape.answered⟩
  | flush waiting =>
      refine ⟨only ?_, by simp, shape.given, shape.answered⟩
      intro work member
      rw [List.mem_singleton.mp member]
      refine .batch fun request present => ?_
      obtain ⟨waiter, queued, rfl⟩ := List.mem_map.mp present
      exact (shape.queued waiter queued).given_member _
  | count number known still => exact ⟨rest, shape.queued, shape.given, shape.answered⟩
  | complete number known last =>
      exact ⟨only (by simpa using .freePlace), shape.queued, shape.given, shape.answered⟩
  | overcount number unknown => exact ⟨rest, shape.queued, shape.given, shape.answered⟩
  | close =>
      refine ⟨only ?_, by simp, shape.given, shape.answered⟩
      intro work member
      rcases List.mem_append.mp member with missed | last
      · obtain ⟨request, queued, rfl⟩ := List.mem_map.mp missed
        obtain ⟨key, receiver⟩ := request
        cases shape.queued _ queued with
        | waiting own => exact .reply _ .notFound
      · rw [List.mem_singleton.mp last]
        exact .shutDownBehind

/-! ### Callbacks -/

/-- Every place where a callback can be: in the queue, at the layer behind, in the hands of a call,
or told. -/
def whereabouts (admission : Admission (Receiver Nat)) (record : Record)
    (pool : List (Work Nat)) : List Nat :=
  admission.queue.flatMap (·.receiver.callbacks) ++
    record.outstanding.flatMap (·.receiver.callbacks) ++
    pool.flatMap (·.callbacks) ++ record.told.map (·.1)

theorem callbacks_membersFor (batch : Nat) (queue : List (Request (Receiver Nat))) :
    (membersFor batch queue).flatMap (·.receiver.callbacks) =
      queue.flatMap (·.receiver.callbacks) := by
  rw [membersFor, List.flatMap_map]
  rfl

theorem callbacks_missAll (queue : List (Request (Receiver Nat))) :
    (missAll queue).flatMap (·.callbacks) = queue.flatMap (·.receiver.callbacks) := by
  rw [missAll, List.flatMap_map]
  rfl

theorem callbacks_of_handedOver {requests : List (Request (Receiver Nat))}
    (handed : handedOver? work = some requests) :
    work.callbacks = requests.flatMap (·.receiver.callbacks) := by
  cases work with
  | ask layer key receiver =>
      obtain ⟨_, ⟨⟩⟩ := Option.ite_none_right_eq_some.mp handed
      exact (List.append_nil _).symm
  | askMany layer requests =>
      obtain ⟨_, ⟨⟩⟩ := Option.ite_none_right_eq_some.mp handed
      rfl
  | shutDown layer =>
      obtain ⟨_, ⟨⟩⟩ := Option.ite_none_right_eq_some.mp handed
      rfl
  | _ => cases handed

/-- Work moves callbacks but neither loses nor copies any. -/
theorem Effect.whereabouts_perm (effect : Effect admission record work changed later more)
    (others : List (Work Nat)) :
    (whereabouts changed later (more ++ others)).Perm
      (whereabouts admission record (work :: others)) := by
  rw [List.perm_iff_count]
  intro callback
  simp only [whereabouts, List.flatMap_append, List.flatMap_cons, List.count_append]
  generalize (others.flatMap (·.callbacks)).count callback = rest
  cases effect with
  | handOver handed =>
      simp only [callbacks_of_handedOver handed, List.flatMap_append, List.count_append,
        List.flatMap_nil, List.count_nil]
      omega
  | flush waiting =>
      simp only [Work.callbacks, List.flatMap_cons, List.flatMap_nil, List.append_nil,
        callbacks_membersFor, List.count_nil]
      omega
  | close =>
      rw [List.flatMap_append, callbacks_missAll, List.count_append]
      simp only [Work.callbacks, List.flatMap_cons, List.flatMap_nil, List.append_nil,
        List.count_nil]
      omega
  | _ =>
      simp [Work.callbacks, Receiver.callbacks, List.count_cons]
      try omega

/-! ### Answers -/

/-- What callbacks were told, and what is on its way to them. -/
def announced (record : Record) (pool : List (Work Nat)) : List (Nat × Lookup) :=
  record.told ++ pool.flatMap (·.tellings)

theorem tellings_of_handedOver {requests : List (Request (Receiver Nat))}
    (handed : handedOver? work = some requests) : work.tellings = [] := by
  cases work with
  | ask layer key receiver => rfl
  | askMany layer requests => rfl
  | shutDown layer => rfl
  | _ => cases handed

theorem Effect.announced_mono (effect : Effect admission record work changed later more)
    {telling : Nat × Lookup} (known : telling ∈ announced record (work :: others)) :
    telling ∈ announced later (more ++ others) := by
  simp only [announced, List.flatMap_append, List.flatMap_cons, List.mem_append] at known ⊢
  generalize others.flatMap (·.tellings) = rest at known ⊢
  cases effect with
  | handOver handed =>
      rw [tellings_of_handedOver handed] at known
      simpa using known
  | _ =>
      simp only [Work.tellings, Receiver.callbacks, List.map_cons, List.map_nil, List.mem_cons,
        List.not_mem_nil, List.flatMap_cons, List.flatMap_nil, List.mem_append] at known ⊢
      grind

/-- Whether an answer is a miss that the admission control itself gives: for a lookup that it turned
away, or once it is shut down. -/
def OwnMiss (admission : Admission (Receiver Nat)) (record : Record) (telling : Nat × Lookup) : Prop :=
  telling.2 = .notFound ∧ (telling.1 ∈ record.turnedAway ∨ admission.closed = true)

theorem Effect.ownMiss_mono (effect : Effect admission record work changed later more)
    {telling : Nat × Lookup} (miss : OwnMiss admission record telling) :
    OwnMiss changed later telling := by
  obtain ⟨missed, turned | closed⟩ := miss
  · cases effect with
    | drop key callback full => exact ⟨missed, .inl (List.mem_cons_of_mem _ turned)⟩
    | _ => exact ⟨missed, .inl turned⟩
  · cases effect with
    | close => exact ⟨missed, .inr rfl⟩
    | _ => exact ⟨missed, .inr closed⟩

/-- Work makes up no answers but misses. -/
theorem Effect.announced_source (effect : Effect admission record work changed later more)
    {telling : Nat × Lookup} (known : telling ∈ announced later (more ++ others)) :
    telling ∈ announced record (work :: others) ∨ OwnMiss changed later telling := by
  simp only [announced, List.flatMap_append, List.flatMap_cons, List.mem_append] at known ⊢
  generalize others.flatMap (·.tellings) = rest at known ⊢
  cases effect with
  | close =>
      rcases known with told | fresh | rest
      · exact .inl (.inl told)
      · obtain ⟨work, left, present⟩ := List.mem_flatMap.mp fresh
        rcases List.mem_append.mp left with missing | last
        · obtain ⟨request, _, rfl⟩ := List.mem_map.mp missing
          obtain ⟨callback, _, rfl⟩ := List.mem_map.mp present
          exact .inr ⟨rfl, .inr rfl⟩
        · rw [List.mem_singleton.mp last] at present
          cases present
      · exact .inl (.inr (.inr rest))
  | refuse key callback closed =>
      rcases known with told | miss | rest
      · exact .inl (.inl told)
      · rw [List.mem_singleton.mp miss]
        exact .inr ⟨rfl, .inr closed⟩
      · exact .inl (.inr (.inr rest))
  | drop key callback full =>
      rcases known with told | miss | rest
      · exact .inl (.inl told)
      · rw [List.mem_singleton.mp miss]
        exact .inr ⟨rfl, .inl List.mem_cons_self⟩
      · exact .inl (.inr (.inr rest))
  | _ =>
      simp only [Work.tellings, Receiver.callbacks, List.map_cons, List.map_nil, List.mem_cons,
        List.not_mem_nil, List.flatMap_cons, List.flatMap_nil, List.mem_append] at known ⊢
      grind

theorem callbacks_of_tellings {telling : Nat × Lookup} (known : telling ∈ work.tellings) :
    telling.1 ∈ work.callbacks := by
  cases work with
  | answer receiver lookup =>
      obtain ⟨callback, present, rfl⟩ := List.mem_map.mp known
      exact present
  | inform callback lookup =>
      rw [List.mem_singleton.mp known]
      exact List.mem_cons_self
  | _ => cases known

theorem whereabouts_of_announced {telling : Nat × Lookup} (known : telling ∈ announced record pool) :
    telling.1 ∈ pool.flatMap (·.callbacks) ++ record.told.map (·.1) := by
  rcases List.mem_append.mp known with told | underWay
  · exact List.mem_append_right _ (List.mem_map.mpr ⟨telling, told, rfl⟩)
  · obtain ⟨work, present, telling⟩ := List.mem_flatMap.mp underWay
    exact List.mem_append_left _ (List.mem_flatMap.mpr ⟨work, present, callbacks_of_tellings telling⟩)

/-- Answers of the layer behind reach the callbacks that they are for. A callback hears nothing else
but a miss of the admission control. Lookups that were turned away are counted, and are misses. -/
structure Told (admission : Admission (Receiver Nat)) (record : Record)
    (pool : List (Work Nat)) : Prop where
  passedOn : ∀ entry ∈ record.answers, ∀ callback ∈ entry.1.receiver.callbacks,
    (callback, entry.2) ∈ announced record pool
  sourced : ∀ telling ∈ announced record pool, OwnMiss admission record telling ∨
    ∃ request, (request, telling.2) ∈ record.answers ∧ telling.1 ∈ request.receiver.callbacks
  missed : ∀ callback ∈ record.turnedAway, (callback, .notFound) ∈ announced record pool
  counted : admission.dropped = record.turnedAway.length
  distinct : record.turnedAway.Nodup

theorem Told.fresh {key : String} {callback : Nat}
    (told : Told admission record (.ask control key (.client callback) :: others))
    (once : (whereabouts admission record
      (.ask control key (.client callback) :: others)).Nodup) :
    callback ∉ record.turnedAway := by
  intro before
  have known : (callback, Lookup.notFound) ∈ announced record others :=
    told.missed callback before
  rw [whereabouts, List.append_assoc] at once
  have separate : (callback :: (others.flatMap (·.callbacks) ++ record.told.map (·.1))).Nodup :=
    (List.nodup_append.mp once).2.1
  exact (List.nodup_cons.mp separate).1 (whereabouts_of_announced known)

theorem Told.effect (told : Told admission record (work :: others))
    (once : (whereabouts admission record (work :: others)).Nodup)
    (effect : Effect admission record work changed later more) :
    Told changed later (more ++ others) := by
  have same := effect.answers_eq
  have passedOn : ∀ entry ∈ later.answers, ∀ callback ∈ entry.1.receiver.callbacks,
      (callback, entry.2) ∈ announced later (more ++ others) := by
    intro entry answered callback waiting
    rw [same] at answered
    exact effect.announced_mono (told.passedOn entry answered callback waiting)
  have sourced : ∀ telling ∈ announced later (more ++ others), OwnMiss changed later telling ∨
      ∃ request, (request, telling.2) ∈ later.answers ∧
        telling.1 ∈ request.receiver.callbacks := by
    intro telling known
    rw [same]
    rcases effect.announced_source known with old | miss
    · exact (told.sourced telling old).imp_left effect.ownMiss_mono
    · exact .inl miss
  have missed : ∀ callback ∈ record.turnedAway,
      (callback, .notFound) ∈ announced later (more ++ others) :=
    fun callback before => effect.announced_mono (told.missed callback before)
  cases effect with
  | drop key callback full =>
      refine ⟨passedOn, sourced, ?_, congrArg (· + 1) told.counted,
        List.nodup_cons.mpr ⟨told.fresh once, told.distinct⟩⟩
      intro other turned
      rcases List.mem_cons.mp turned with rfl | before
      · exact List.mem_append_right _ (List.mem_append_left _ List.mem_cons_self)
      · exact missed other before
  | _ => exact ⟨passedOn, sourced, missed, told.counted, told.distinct⟩

end TieredCache.Traffic
