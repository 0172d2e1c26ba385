import TieredCache.Proofs.Decorators.Roots
import TieredCache.Proofs.Remote.Outlook

/-!
What is kept by every piece of work of a remote layer. Main statements: requests that were sent are
finished once, and uploads and writes are counted while they are not (`Books`); a callback is in one
place (`Lookups`), and is told a miss or the object of its own key (`Told`).
-/

namespace TieredCache.Correspondence

variable {outlook next : Outlook} {work : Work Nat} {more others pool : List (Work Nat)}

/-! ### Requests -/

def arriving (pool : List (Work Nat)) : List RemoteRequest :=
  pool.flatMap fun work => (finishedBy work).map (·.1)

def Outlook.unfinished (outlook : Outlook) (pool : List (Work Nat)) : List RemoteRequest :=
  outlook.departures.map (·.request) ++ arriving pool

theorem arriving_cons (work : Work Nat) (pool : List (Work Nat)) :
    arriving (work :: pool) = (finishedBy work).map (·.1) ++ arriving pool := rfl

theorem arriving_append (left right : List (Work Nat)) :
    arriving (left ++ right) = arriving left ++ arriving right :=
  List.flatMap_append

theorem arriving_answers (told : List (Receiver Nat × Lookup)) :
    arriving (told.map fun (receiver, lookup) => .answer receiver lookup) = [] := by
  rw [arriving, List.flatMap_map]
  exact List.flatMap_eq_nil_iff.mpr fun _ _ => rfl

theorem arriving_answerAll (receivers : List (Receiver Nat)) (lookup : Lookup) :
    arriving (Stack.answerAll receivers lookup) = [] := by
  rw [arriving, Stack.answerAll, List.flatMap_map]
  exact List.flatMap_eq_nil_iff.mpr fun _ _ => rfl

theorem unfinished_of_quiet (finishes : finishedBy work = []) :
    outlook.unfinished (work :: others) = outlook.unfinished others := by
  rw [Outlook.unfinished, arriving_cons, finishes]
  rfl

theorem unfinished_arrive (outlook : Outlook) (request : RemoteRequest) (response : ServiceAnswer)
    (others : List (Work Nat)) :
    (outlook.unfinished (.arrive ⟨remote, request⟩ response :: others)).Perm
      (request :: outlook.unfinished others) :=
  List.perm_middle

theorem unfinished_depart (outlook : Outlook) (store : RemoteStore (Receiver Nat))
    (request : RemoteRequest) (others : List (Work Nat)) :
    ((outlook.depart store request).unfinished others).Perm
      (request :: outlook.unfinished others) := by
  change (List.map _ (outlook.departures ++ [⟨remote, request⟩]) ++ _).Perm _
  rw [List.map_append, List.append_assoc]
  exact List.perm_middle

theorem unfinished_of_answers (outlook : Outlook) (answers : arriving more = []) :
    outlook.unfinished (more ++ others) = outlook.unfinished others := by
  rw [Outlook.unfinished, arriving_append, answers]
  rfl

/-- What a remote layer knows of its requests. -/
structure Books (outlook : Outlook) (pool : List (Work Nat)) : Prop where
  sent : outlook.post.sent.Perm (outlook.post.answered.map (·.1) ++ outlook.unfinished pool)
  writes : outlook.store.writes = (outlook.unfinished pool).countP (·.isWrite)
  uploads : ∀ key, outlook.store.uploads.count key =
    (outlook.unfinished pool).countP (·.isUploadOf key)

theorem Books.depart (books : Books outlook (work :: others)) (finishes : finishedBy work = [])
    {store : RemoteStore (Receiver Nat)} {request : RemoteRequest}
    (writes : store.writes = outlook.store.writes + if request.isWrite then 1 else 0)
    (uploads : ∀ key, store.uploads.count key =
      outlook.store.uploads.count key + if request.isUploadOf key then 1 else 0) :
    Books (outlook.depart store request) others := by
  have after := unfinished_depart outlook store request others
  obtain ⟨sent, written, uploaded⟩ := books
  rw [unfinished_of_quiet finishes] at sent written uploaded
  refine ⟨?_, ?_, fun key => ?_⟩
  · refine (sent.append_right [request]).trans ?_
    rw [List.append_assoc]
    exact ((List.perm_append_singleton _ _).trans after.symm).append_left _
  · rw [after.countP_eq, List.countP_cons, ← written]
    exact writes
  · rw [after.countP_eq, List.countP_cons, ← uploaded]
    exact uploads key

theorem writes_receive {request : RemoteRequest} {response : ServiceAnswer} {count : Nat}
    (before : outlook.store.writes = count + if request.isWrite then 1 else 0) :
    (outlook.receive request response).store.writes = count := by
  simp only [Outlook.receive, RemoteStore.receive]
  cases purpose : request.purpose with
  | lookup number =>
      have own : request.isWrite = false := by simp only [RemoteRequest.isWrite, purpose]
      rw [own] at before
      exact before
  | upload key content =>
      have own : request.isWrite = true := by simp only [RemoteRequest.isWrite, purpose]
      rw [own] at before
      exact Nat.sub_eq_of_eq_add before
  | removal =>
      have own : request.isWrite = true := by simp only [RemoteRequest.isWrite, purpose]
      rw [own] at before
      exact Nat.sub_eq_of_eq_add before

theorem uploads_receive {request : RemoteRequest} {response : ServiceAnswer} {key : String}
    {count : Nat}
    (before : outlook.store.uploads.count key = count + if request.isUploadOf key then 1 else 0) :
    (outlook.receive request response).store.uploads.count key = count := by
  simp only [Outlook.receive, RemoteStore.receive]
  cases purpose : request.purpose with
  | upload other content =>
      have own : request.isUploadOf key = decide (other = key) := by
        simp only [RemoteRequest.isUploadOf, purpose]
      rw [own] at before
      change (outlook.store.uploads.erase other).count key = _
      rw [List.count_erase, before]
      by_cases same : other = key <;> simp [same]
  | _ =>
      have own : request.isUploadOf key = false := by
        simp only [RemoteRequest.isUploadOf, purpose]
      rw [own] at before
      exact before

theorem Books.receive {request : RemoteRequest} {response : ServiceAnswer}
    (books : Books outlook (.arrive ⟨remote, request⟩ response :: others))
    (answers : arriving more = []) :
    Books (outlook.receive request response) (more ++ others) := by
  have before := unfinished_arrive outlook request response others
  have after : (outlook.receive request response).unfinished (more ++ others) =
      outlook.unfinished others := unfinished_of_answers outlook answers
  refine ⟨?_, ?_, fun key => ?_⟩
  · rw [after]
    exact books.sent.trans ((before.append_left _).trans List.perm_middle)
  · rw [after]
    exact writes_receive (by rw [books.writes, before.countP_eq, List.countP_cons])
  · rw [after]
    exact uploads_receive (by rw [books.uploads, before.countP_eq, List.countP_cons])

theorem Books.effect (books : Books outlook (work :: others))
    (effect : outlook.Effect work next more) : Books next (more ++ others) := by
  cases effect with
  | look key callback opened object =>
      exact books.depart rfl rfl fun key => rfl
  | upload key value object =>
      refine books.depart rfl rfl fun other => ?_
      rw [List.count_cons]
      simp only [RemoteRequest.isUploadOf, beq_iff_eq, decide_eq_true_eq]
  | remove key object => exact books.depart rfl rfl fun key => rfl
  | close =>
      have still := @unfinished_of_answers _ others outlook
        (arriving_answerAll (outlook.store.pending.map (·.receiver)) .notFound)
      obtain ⟨sent, written, uploaded⟩ := books
      refine ⟨sent.trans (.of_eq (congrArg _ still.symm)), ?_, fun key => ?_⟩
      · exact written.trans (congrArg (List.countP _) still.symm)
      · exact (uploaded key).trans (congrArg (List.countP _) still.symm)
  | arrive request response => exact books.receive (arriving_answers _)
  | _ => exact ⟨books.sent, books.writes, books.uploads⟩

/-! ### Callbacks -/

def Outlook.whereabouts (outlook : Outlook) (pool : List (Work Nat)) : List Nat :=
  outlook.store.pending.flatMap (·.receiver.callbacks) ++ pool.flatMap (·.callbacks) ++
    outlook.post.told.map (·.1)

def Outlook.Waits (outlook : Outlook) (pool : List (Work Nat))
    (lookup : PendingLookup (Receiver Nat)) : Prop :=
  ∃ callback key, lookup.receiver = .client callback ∧ outlook.post.keys[callback]? = some key ∧
    ∀ request ∈ outlook.unfinished pool, request.purpose = .lookup lookup.number →
      outlook.store.base.object? key = some request.url

structure Lookups (outlook : Outlook) (pool : List (Work Nat)) : Prop where
  once : (outlook.whereabouts pool).Perm (List.range outlook.post.keys.length)
  distinct : (outlook.store.pending.map (·.number)).Nodup
  older : ∀ lookup ∈ outlook.store.pending, lookup.number < outlook.store.fresh
  numbered : ∀ request ∈ outlook.unfinished pool, ∀ number, request.purpose = .lookup number →
    number < outlook.store.fresh
  waits : ∀ lookup ∈ outlook.store.pending, outlook.Waits pool lookup

theorem receive_lookup {request : RemoteRequest} {number : Nat} (response : ServiceAnswer)
    (purpose : request.purpose = .lookup number) (store : RemoteStore (Receiver Nat)) :
    (store.receive request response).store =
        { store.noteHealth response with
          pending := store.pending.filter (·.number ≠ number) } ∧
      (store.receive request response).answered =
        (store.pending.find? (·.number = number)).map fun lookup => (lookup.receiver,
          .ofOption (response.fetched store.timeout request.destination).toOption) := by
  simp only [RemoteStore.receive, purpose, RemoteStore.complete, RemoteStore.noteHealth,
    Option.map_map]
  exact ⟨trivial, rfl⟩

/-- An answer to a lookup settles who waits for it, and any other answer concerns nobody who waits. -/
theorem receive_cases (request : RemoteRequest) (response : ServiceAnswer)
    (store : RemoteStore (Receiver Nat)) :
    (∃ number, request.purpose = .lookup number ∧
      (store.receive request response).store.pending =
        store.pending.filter (·.number ≠ number) ∧
      (store.receive request response).answered =
        (store.pending.find? (·.number = number)).map fun lookup => (lookup.receiver,
          .ofOption (response.fetched store.timeout request.destination).toOption)) ∨
      (store.receive request response).store.pending = store.pending ∧
        (store.receive request response).answered = none := by
  cases purpose : request.purpose with
  | lookup number =>
      obtain ⟨after, answered⟩ := receive_lookup response purpose store
      exact .inl ⟨number, rfl, congrArg (·.pending) after, answered⟩
  | _ =>
      unfold RemoteStore.receive
      rw [purpose]
      exact .inr ⟨rfl, rfl⟩

theorem receive_rest (request : RemoteRequest) (response : ServiceAnswer)
    (store : RemoteStore (Receiver Nat)) :
    (store.receive request response).store.base = store.base ∧
      (store.receive request response).store.fresh = store.fresh ∧
      (store.receive request response).store.closed = store.closed := by
  unfold RemoteStore.receive
  cases request.purpose <;> exact ⟨rfl, rfl, rfl⟩

theorem callbacks_answerAll (pending : List (PendingLookup (Receiver Nat))) (lookup : Lookup) :
    (Stack.answerAll (pending.map (·.receiver)) lookup).flatMap (·.callbacks) =
      pending.flatMap (·.receiver.callbacks) := by
  rw [Stack.answerAll, List.map_map, List.flatMap_map]
  rfl

/-- Work moves callbacks but neither loses nor copies any. -/
theorem Lookups.whereabouts_perm (lookups : Lookups outlook (work :: others))
    (effect : outlook.Effect work next more) :
    (next.whereabouts (more ++ others)).Perm (outlook.whereabouts (work :: others)) := by
  rw [List.perm_iff_count]
  intro callback
  simp only [Outlook.whereabouts, List.flatMap_append, List.flatMap_cons, List.count_append]
  generalize (others.flatMap (·.callbacks)).count callback = rest
  cases effect with
  | look key callback opened object =>
      simp only [Outlook.depart, List.flatMap_append, List.flatMap_cons, List.flatMap_nil,
        List.append_nil, List.count_append, List.count_nil, Work.callbacks]
      omega
  | close =>
      rw [callbacks_answerAll]
      simp only [RemoteStore.shutDown, List.flatMap_nil, List.count_nil, Work.callbacks]
      omega
  | arrive request response =>
      simp only [Outlook.receive, Work.callbacks, List.count_nil]
      rcases receive_cases request response outlook.store with
        ⟨number, -, pending, answered⟩ | ⟨pending, answered⟩
      · rw [pending, answered]
        cases known : outlook.store.pending.find? (·.number = number) with
        | none =>
            have all : outlook.store.pending.filter (·.number ≠ number) =
                outlook.store.pending := by
              refine List.filter_eq_self.mpr fun lookup member => ?_
              simpa using List.find?_eq_none.mp known lookup member
            rw [all]
            simp
        | some lookup =>
            have moved := (perm_cons_filter lookups.distinct known).flatMap_right
              (·.receiver.callbacks)
            rw [moved.count_eq, List.flatMap_cons, List.count_append]
            simp only [Option.map_some, Option.toList_some, List.map_cons, List.map_nil,
              List.flatMap_cons, List.flatMap_nil, List.append_nil]
            omega
      · rw [pending, answered]
        simp
  | _ =>
      simp [Outlook.depart, Work.callbacks, Receiver.callbacks, List.count_cons]
      try omega

theorem Outlook.Effect.keys_eq (effect : outlook.Effect work next more) :
    next.post.keys = outlook.post.keys := by
  cases effect <;> rfl

theorem Outlook.Effect.base_eq (effect : outlook.Effect work next more) :
    next.store.base = outlook.store.base := by
  cases effect with
  | arrive request response => exact (receive_rest request response outlook.store).1
  | _ => rfl

/-- Only a lookup that is started asks for an object anew, under a number of its own. -/
theorem Outlook.Effect.unfinished_lookup (effect : outlook.Effect work next more)
    {request : RemoteRequest} {number : Nat} (purpose : request.purpose = .lookup number)
    (member : request ∈ next.unfinished (more ++ others)) :
    request ∈ outlook.unfinished (work :: others) ∨
      number = outlook.store.fresh ∧ next.store.fresh = outlook.store.fresh + 1 := by
  cases effect with
  | look key callback opened object =>
      rcases List.mem_cons.mp ((unfinished_depart _ _ _ _).subset member) with new | old
      · subst new
        cases purpose
        exact .inr ⟨rfl, rfl⟩
      · exact .inl old
  | upload key value object =>
      rcases List.mem_cons.mp ((unfinished_depart _ _ _ _).subset member) with new | old
      · subst new
        cases purpose
      · exact .inl old
  | remove key object =>
      rcases List.mem_cons.mp ((unfinished_depart _ _ _ _).subset member) with new | old
      · subst new
        cases purpose
      · exact .inl old
  | close =>
      have still := @unfinished_of_answers _ others outlook
        (arriving_answerAll (outlook.store.pending.map (·.receiver)) .notFound)
      exact .inl ((congrArg (request ∈ ·) still).mp member)
  | arrive arrived response =>
      refine .inl ((unfinished_arrive outlook arrived response others).symm.subset
        (List.mem_cons_of_mem _ ?_))
      have still := @unfinished_of_answers _ others outlook (arriving_answers
        (outlook.store.receive arrived response).answered.toList)
      exact (congrArg (request ∈ ·) still).mp member
  | _ => exact .inl member

/-- A lookup goes on waiting for what it waited for. -/
theorem Outlook.Waits.effect {lookup : PendingLookup (Receiver Nat)}
    (waits : outlook.Waits (work :: others) lookup) (older : lookup.number < outlook.store.fresh)
    (effect : outlook.Effect work next more) : next.Waits (more ++ others) lookup := by
  obtain ⟨callback, key, receiver, own, asks⟩ := waits
  refine ⟨callback, key, receiver, effect.keys_eq ▸ own, fun request member purpose => ?_⟩
  rw [effect.base_eq]
  rcases effect.unfinished_lookup purpose member with old | ⟨new, _⟩
  · exact asks request old purpose
  · exact absurd new (Nat.ne_of_lt older)

theorem Outlook.Effect.fresh_le (effect : outlook.Effect work next more) :
    outlook.store.fresh ≤ next.store.fresh := by
  cases effect with
  | look key callback opened object => exact Nat.le_succ _
  | arrive request response => exact Nat.le_of_eq (receive_rest request response _).2.1.symm
  | _ => exact Nat.le_refl _

theorem Lookups.effect (lookups : Lookups outlook (work :: others))
    (expected : Expected outlook.post.keys work) (effect : outlook.Effect work next more) :
    Lookups next (more ++ others) := by
  have once : (next.whereabouts (more ++ others)).Perm (List.range next.post.keys.length) := by
    rw [effect.keys_eq]
    exact (lookups.whereabouts_perm effect).trans lookups.once
  have numbered : ∀ request ∈ next.unfinished (more ++ others), ∀ number,
      request.purpose = .lookup number → number < next.store.fresh := by
    intro request member number purpose
    rcases effect.unfinished_lookup purpose member with old | ⟨new, counted⟩
    · exact Nat.lt_of_lt_of_le (lookups.numbered request old number purpose) effect.fresh_le
    · omega
  have still : ∀ lookup ∈ outlook.store.pending, next.Waits (more ++ others) lookup :=
    fun lookup member => (lookups.waits lookup member).effect (lookups.older lookup member) effect
  have older : ∀ lookup ∈ outlook.store.pending, lookup.number < next.store.fresh :=
    fun lookup member => Nat.lt_of_lt_of_le (lookups.older lookup member) effect.fresh_le
  suffices pending : (next.store.pending.map (·.number)).Nodup ∧
      ∀ lookup ∈ next.store.pending, lookup.number < next.store.fresh ∧
        next.Waits (more ++ others) lookup from
    ⟨once, pending.1, fun lookup member => (pending.2 lookup member).1, numbered,
      fun lookup member => (pending.2 lookup member).2⟩
  have kept : ∀ {fewer : List (PendingLookup (Receiver Nat))},
      fewer.Sublist outlook.store.pending → (fewer.map (·.number)).Nodup ∧
        ∀ lookup ∈ fewer, lookup.number < next.store.fresh ∧
          next.Waits (more ++ others) lookup :=
    fun fewer => ⟨lookups.distinct.sublist (fewer.map _), fun lookup member =>
      ⟨older lookup (fewer.subset member), still lookup (fewer.subset member)⟩⟩
  cases effect with
  | look key callback opened object =>
      cases expected with
      | ask own =>
          constructor
          · simp only [Outlook.depart, List.map_append, List.map_cons, List.map_nil]
            refine List.nodup_append.mpr ⟨lookups.distinct, List.pairwise_singleton _ _, ?_⟩
            intro number member other new same
            obtain ⟨lookup, waiting, rfl⟩ := List.mem_map.mp member
            rw [List.mem_singleton.mp new] at same
            exact absurd same (Nat.ne_of_lt (lookups.older lookup waiting))
          · intro lookup member
            rcases List.mem_append.mp member with old | new
            · exact ⟨older lookup old, still lookup old⟩
            · rw [List.mem_singleton.mp new]
              refine ⟨Nat.lt_succ_self _, callback, key, rfl, own, fun request asks purpose => ?_⟩
              rcases List.mem_cons.mp ((unfinished_depart _ _ _ _).subset asks) with this | old
              · rw [this]
                exact object
              · exact absurd (lookups.numbered request old _ purpose) (Nat.lt_irrefl _)
  | close => exact kept (List.nil_sublist _)
  | arrive request response =>
      rcases receive_cases request response outlook.store with
        ⟨number, -, pending, -⟩ | ⟨pending, -⟩
      · simp only [Outlook.receive, pending] at kept ⊢
        exact kept List.filter_sublist
      · simp only [Outlook.receive, pending] at kept ⊢
        exact kept (List.Sublist.refl _)
  | _ => exact kept (List.Sublist.refl _)

/-! ### Answers -/

def Outlook.announced (outlook : Outlook) (pool : List (Work Nat)) : List (Nat × Lookup) :=
  outlook.post.told ++ pool.flatMap (·.tellings)

def Outlook.Fetched (outlook : Outlook) (telling : Nat × Lookup) : Prop :=
  ∃ key request status content, outlook.post.keys[telling.1]? = some key ∧
    outlook.store.base.object? key = some request.url ∧ request.exchange = .fetch ∧
    (request, .answered status (some content)) ∈ outlook.post.answered ∧
    ServiceAnswer.isSuccess status = true ∧ telling.2 = .found content

def Told (outlook : Outlook) (pool : List (Work Nat)) : Prop :=
  ∀ telling ∈ outlook.announced pool, telling.2 = .notFound ∨ outlook.Fetched telling

theorem Outlook.Effect.answered_subset (effect : outlook.Effect work next more) :
    outlook.post.answered ⊆ next.post.answered := by
  cases effect with
  | arrive request response => exact List.subset_cons_self _ _
  | _ => exact List.Subset.refl _

theorem Outlook.Fetched.effect {telling : Nat × Lookup} (fetched : outlook.Fetched telling)
    (effect : outlook.Effect work next more) : next.Fetched telling := by
  obtain ⟨key, request, status, content, own, object, fetches, answered, found⟩ := fetched
  exact ⟨key, request, status, content, effect.keys_eq ▸ own, effect.base_eq ▸ object, fetches,
    effect.answered_subset answered, found⟩

/-- A lookup of a key is a miss unless the object store gave the object. -/
theorem found_of_fetched {limit : Span} {url : Url} {response : ServiceAnswer} {content : Bytes}
    (fetched : response.fetched limit url = .ok content) :
    ∃ status, response = .answered status (some content) ∧
      ServiceAnswer.isSuccess status = true := by
  cases response with
  | answered status body =>
      simp only [ServiceAnswer.fetched] at fetched
      by_cases missing : status = 404
      · rw [if_pos missing] at fetched
        cases fetched
      rw [if_neg missing] at fetched
      by_cases success : ServiceAnswer.isSuccess status = true
      · rw [if_pos success] at fetched
        cases body with
        | none => cases fetched
        | some given =>
            cases fetched
            exact ⟨status, rfl, success⟩
      · rw [if_neg success] at fetched
        cases fetched
  | _ => cases fetched

theorem tellings_answerAll (pending : List (PendingLookup (Receiver Nat))) {telling : Nat × Lookup}
    (known : telling ∈ (Stack.answerAll (pending.map (·.receiver)) .notFound).flatMap
      (·.tellings)) : telling.2 = .notFound := by
  obtain ⟨work, left, present⟩ := List.mem_flatMap.mp known
  obtain ⟨receiver, _, rfl⟩ := List.mem_map.mp left
  obtain ⟨callback, _, rfl⟩ := List.mem_map.mp present
  rfl

/-- Work makes up no answers but misses. -/
theorem Told.effect (told : Told outlook (work :: others))
    (lookups : Lookups outlook (work :: others)) (effect : outlook.Effect work next more) :
    Told next (more ++ others) := by
  intro telling known
  have old : telling ∈ outlook.announced (work :: others) →
      telling.2 = .notFound ∨ next.Fetched telling :=
    fun before => (told telling before).imp_right (·.effect effect)
  simp only [Outlook.announced, List.flatMap_append, List.flatMap_cons, List.mem_append]
    at known old
  cases effect with
  | close =>
      rcases known with before | fresh | rest
      · exact old (.inl before)
      · exact .inl (tellings_answerAll _ fresh)
      · exact old (.inr (.inr rest))
  | arrive request response =>
      rcases known with before | fresh | rest
      · exact old (.inl before)
      · rcases receive_cases request response outlook.store with
          ⟨number, purpose, -, answered⟩ | ⟨-, answered⟩
        · rw [answered] at fresh
          cases found : outlook.store.pending.find? (·.number = number) with
          | none =>
              rw [found] at fresh
              cases fresh
          | some lookup =>
              obtain ⟨callback, key, receiver, own, object⟩ :=
                lookups.waits lookup (List.mem_of_find?_eq_some found)
              have same : lookup.number = number := by simpa using List.find?_some found
              have asked := object request ((unfinished_arrive outlook request response
                others).symm.subset List.mem_cons_self) (same ▸ purpose)
              rw [found] at fresh
              simp only [Option.map_some, Option.toList_some, List.map_cons, List.map_nil,
                List.flatMap_cons, List.flatMap_nil, List.append_nil, Work.tellings, receiver,
                Receiver.callbacks, List.mem_singleton] at fresh
              subst fresh
              cases fetched : response.fetched outlook.store.timeout request.destination with
              | error fault => exact .inl rfl
              | ok content =>
                  obtain ⟨status, rfl, success⟩ := found_of_fetched fetched
                  refine .inr ⟨key, request, status, content, own, ?_, ?_, List.mem_cons_self,
                    success, rfl⟩
                  · exact (receive_rest request _ outlook.store).1.symm ▸ asked
                  · simp only [RemoteRequest.exchange, purpose]
        · rw [answered] at fresh
          cases fresh
      · exact old (.inr (.inr rest))
  | refuse key callback refused =>
      rcases known with before | miss | rest
      · exact old (.inl before)
      · rw [List.mem_singleton.mp miss]
        exact .inl rfl
      · exact old (.inr (.inr rest))
  | _ =>
      refine old ?_
      simp only [Outlook.depart, Work.tellings, Receiver.callbacks, List.map_cons, List.map_nil,
        List.mem_cons, List.not_mem_nil, List.flatMap_cons, List.flatMap_nil, List.mem_append]
        at known ⊢
      grind

end TieredCache.Correspondence
