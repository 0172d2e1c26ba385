import TieredCache.Proofs.Remote.Runs

/-!
What those who use a remote layer can rely on: each callback is told once, a shutdown leaves nobody
waiting, and whoever waits for writes waits until there are none. Main statement: `run_assured`.
-/

namespace TieredCache.Correspondence

variable {outlook : Outlook} {work : Work Nat} {more pool : List (Work Nat)}
  {correspondence : Correspondence} {store : RemoteStore (Receiver Nat)}

/-! ### Calls that are gone on with at once -/

/-- What work does that sends nothing and ends no write. -/
private theorem act_of_perform {stack : Stack Nat} {later : RemoteStore (Receiver Nat)}
    (told : ∀ callback lookup, work ≠ .inform callback lookup)
    (performed : correspondence.stack.perform work = (stack, more))
    (departures : stack.departures = correspondence.stack.departures)
    (before : correspondence.stack.layer? remote = some (.remote store))
    (after : stack.layer? remote = some (.remote later)) (writes : store.writes ≤ later.writes) :
    correspondence.act work =
      ({ correspondence with
          stack
          post.answered := finishedBy work ++ correspondence.post.answered }, more) := by
  cases work with
  | inform callback lookup => exact absurd rfl (told callback lookup)
  | _ =>
      simp only [act, performed, departures, List.drop_length, List.map_nil, List.append_nil,
        endsWrites, store?, before, after, endsWrites_of_le writes, Bool.false_eq_true, if_false]

/-- The call that came last does its next piece of work. -/
private theorem next_front {after : Correspondence} {rest : List (Work Nat)}
    {others : List (List (Work Nat))} (call : correspondence.calls = (work :: rest) :: others)
    (acted : correspondence.act work = (after, more)) :
    correspondence.next (.work 0) = { after with calls := (more ++ rest) :: others } := by
  simp only [Correspondence.next, call, List.getElem?_cons_zero, acted, List.set_cons_zero]

theorem run_tell (shows : correspondence.Shows outlook) {callback : Nat} {lookup : Lookup}
    {rest : List (Work Nat)} {others : List (List (Work Nat))}
    (call : correspondence.calls = (.answer (.client callback) lookup :: rest) :: others) :
    correspondence.run [.work 0, .work 0] =
      { correspondence with
        calls := rest :: others
        post.told := (callback, lookup) :: correspondence.post.told } := by
  have performed : correspondence.stack.perform (.answer (.client callback) lookup) =
      (correspondence.stack, [.inform callback lookup]) := by
    rw [Stack.perform, shows.moving, if_neg Bool.false_ne_true]
    rfl
  have acted := act_of_perform (by rintro _ _ ⟨⟩) performed rfl shows.layer? shows.layer?
    (Nat.le_refl _)
  have first : correspondence.next (.work 0) =
      { correspondence with calls := (.inform callback lookup :: rest) :: others } :=
    next_front call acted
  rw [run, List.foldl_cons, first]
  rfl

/-- A call that has nothing but a row of answers to give. -/
theorem run_tellAll (shows : correspondence.Shows outlook) (lookup : Lookup)
    {waiting : List Nat} {others : List (List (Work Nat))}
    (call : correspondence.calls = Stack.answerAll (waiting.map .client) lookup :: others) :
    correspondence.run (List.replicate (2 * waiting.length) (.work 0)) =
      { correspondence with
        calls := [] :: others
        post.told := (waiting.map (·, lookup)).reverse ++ correspondence.post.told } := by
  induction waiting generalizing correspondence outlook with
  | nil =>
      obtain ⟨stack, calls, flushes, post⟩ := correspondence
      cases call
      rfl
  | cons callback rest ih =>
      have split : List.replicate (2 * (callback :: rest).length) (Dealing.work 0) =
          [.work 0, .work 0] ++ List.replicate (2 * rest.length) (.work 0) := by
        rw [List.length_cons, Nat.mul_succ, Nat.add_comm, List.replicate_add]
        rfl
      rw [split, run, List.foldl_append]
      change (correspondence.run [.work 0, .work 0]).run _ = _
      rw [run_tell shows call]
      have told : Shows
          { correspondence with
            calls := Stack.answerAll (rest.map .client) lookup :: others
            post.told := (callback, lookup) :: correspondence.post.told }
          { outlook with post.told := (callback, lookup) :: outlook.post.told } :=
        ⟨shows.moving, shows.layers, shows.departures, shows.flushes, by rw [shows.post]⟩
      refine (ih told rfl).trans ?_
      rw [List.map_cons, List.reverse_cons, List.append_assoc]
      rfl

/-- A call that shuts down and is not interrupted: it returns once everyone who waited was told. -/
theorem run_shutDown (shows : correspondence.Shows outlook) {waiting : List Nat}
    (receivers : outlook.store.pending.map (·.receiver) = waiting.map .client) :
    correspondence.run (.shutDown :: List.replicate (1 + 2 * waiting.length) (.work 0)) =
      { correspondence with
        stack := correspondence.stack.setLayer remote (.remote outlook.store.shutDown.1)
        calls := [] :: correspondence.calls
        post.told := (waiting.map (·, .notFound)).reverse ++ correspondence.post.told
        post.closing := true } := by
  have performed : correspondence.stack.perform (.shutDown remote) =
      (correspondence.stack.setLayer remote (.remote outlook.store.shutDown.1),
        Stack.answerAll (waiting.map .client) .notFound) := by
    rw [Stack.perform, shows.moving, if_neg Bool.false_ne_true, ← receivers]
    simp only [Stack.shutDown, shows.layer?]
    rfl
  have acted : (correspondence.next .shutDown).act (.shutDown remote) = _ :=
    act_of_perform (by rintro _ _ ⟨⟩) performed rfl shows.layer?
      (congrArg (·[remote]?) (shows.setLayer outlook.store.shutDown.1)) (Nat.le_refl _)
  have closed : (correspondence.next .shutDown).next (.work 0) =
      { correspondence with
        stack := correspondence.stack.setLayer remote (.remote outlook.store.shutDown.1)
        calls := Stack.answerAll (waiting.map .client) .notFound :: correspondence.calls
        post.closing := true } := by
    rw [next_front rfl acted, List.append_nil]
    rfl
  have after : Shows ((correspondence.next .shutDown).next (.work 0))
      { outlook with store := outlook.store.shutDown.1, post.closing := true } := by
    rw [closed]
    exact ⟨shows.moving, shows.setLayer _, shows.departures, shows.flushes, by rw [shows.post]⟩
  rw [List.replicate_add, run, List.foldl_cons, List.foldl_append]
  change ((correspondence.next .shutDown).next (.work 0)).run _ = _
  rw [run_tellAll after .notFound (congrArg calls closed), closed]

/-- A lookup that comes too late is answered at once, and nothing else comes of it. -/
theorem run_get (shows : correspondence.Shows outlook) (closed : outlook.store.closed = true)
    (key : String) :
    correspondence.run [.get key, .work 0, .work 0, .work 0] =
      { correspondence with
        calls := [] :: correspondence.calls
        post.keys := correspondence.post.keys ++ [key]
        post.told := (correspondence.post.keys.length, .notFound) :: correspondence.post.told } := by
  have performed : correspondence.stack.perform
      (.ask remote key (.client correspondence.post.keys.length)) =
      (correspondence.stack, [.answer (.client correspondence.post.keys.length) .notFound]) := by
    rw [Stack.perform, shows.moving, if_neg Bool.false_ne_true]
    simp only [Stack.ask, shows.layer?, RemoteStore.get, closed, if_true]
  have acted : (correspondence.next (.get key)).act
      (.ask remote key (.client correspondence.post.keys.length)) = _ :=
    act_of_perform (by rintro _ _ ⟨⟩) performed rfl shows.layer? shows.layer? (Nat.le_refl _)
  have refused : (correspondence.next (.get key)).next (.work 0) =
      { correspondence with
        calls := [.answer (.client correspondence.post.keys.length) .notFound] ::
          correspondence.calls
        post.keys := correspondence.post.keys ++ [key] } := by
    rw [next_front rfl acted]
    rfl
  have after : Shows ((correspondence.next (.get key)).next (.work 0))
      { outlook with post.keys := outlook.post.keys ++ [key] } := by
    rw [refused]
    exact ⟨shows.moving, shows.layers, shows.departures, shows.flushes, by rw [shows.post]⟩
  change ((correspondence.next (.get key)).next (.work 0)).run [.work 0, .work 0] = _
  rw [run_tell after (congrArg calls refused), refused]

/-- A call has sent a request and returned; the store has taken note of it. -/
def sending (correspondence : Correspondence) (store : RemoteStore (Receiver Nat))
    (request : RemoteRequest) : Correspondence :=
  { correspondence with
    stack := (correspondence.stack.setLayer remote (.remote store)).depart remote request
    calls := [] :: correspondence.calls
    post.sent := correspondence.post.sent ++ [request] }

/-- A call that does nothing but send a request. -/
private theorem run_send (shows : correspondence.Shows outlook) {request : RemoteRequest}
    {later : RemoteStore (Receiver Nat)} {dealing : Dealing}
    (performed : correspondence.stack.perform work =
      ((correspondence.stack.setLayer remote (.remote later)).depart remote request, []))
    (told : ∀ callback lookup, work ≠ .inform callback lookup) (finishes : finishedBy work = [])
    (calls : (correspondence.next dealing).calls = [work] :: correspondence.calls)
    (stack : (correspondence.next dealing).stack = correspondence.stack)
    (writes : outlook.store.writes ≤ later.writes) :
    correspondence.run [dealing, .work 0] =
      { correspondence.next dealing with
        stack := (correspondence.stack.setLayer remote (.remote later)).depart remote request
        calls := [] :: correspondence.calls
        post.sent := (correspondence.next dealing).post.sent ++ [request] } := by
  have news : ((correspondence.stack.setLayer remote (.remote later)).depart remote
      request).departures.drop correspondence.stack.departures.length = [⟨remote, request⟩] :=
    List.drop_left
  have after : ((correspondence.stack.setLayer remote (.remote later)).depart remote
      request).layer? remote = some (.remote later) :=
    congrArg (·[remote]?) (shows.setLayer later)
  have acted : (correspondence.next dealing).act work =
      ({ correspondence.next dealing with
          stack := (correspondence.stack.setLayer remote (.remote later)).depart remote request
          post.sent := (correspondence.next dealing).post.sent ++ [request] }, []) := by
    cases work with
    | inform callback lookup => exact absurd rfl (told callback lookup)
    | _ =>
        simp only [act, stack, performed, news, finishes, endsWrites, store?, shows.layer?, after,
          endsWrites_of_le writes, Bool.false_eq_true, if_false, List.map_cons, List.map_nil,
          List.nil_append]
  exact next_front calls acted

/-- A lookup sends a request before a shutdown, if its key has an object. -/
theorem run_fetch (shows : correspondence.Shows outlook) (opened : outlook.store.closed = false)
    {key : String} {url : Url} (object : outlook.store.base.object? key = some url) :
    correspondence.run [.get key, .work 0] = sending
      { correspondence with post.keys := correspondence.post.keys ++ [key] }
      { outlook.store with
        pending := outlook.store.pending ++
          [⟨outlook.store.fresh, .client correspondence.post.keys.length⟩]
        fresh := outlook.store.fresh + 1 }
      ⟨url, .lookup outlook.store.fresh⟩ := by
  have performed (receiver : Receiver Nat) : correspondence.stack.perform (.ask remote key receiver) =
      correspondence.stack.ask remote key receiver := by
    rw [Stack.perform, shows.moving, if_neg Bool.false_ne_true]
  refine run_send shows ((performed _).trans ?_) (by rintro _ _ ⟨⟩) rfl rfl rfl (Nat.le_refl _)
  simp only [Stack.ask, shows.layer?, RemoteStore.get, opened, Bool.false_eq_true, if_false, object,
    Option.map_some]

/-- A write is sent before a shutdown, if its key has an object. -/
theorem run_put (shows : correspondence.Shows outlook) (opened : outlook.store.closed = false)
    {key : String} {url : Url} (object : outlook.store.base.object? key = some url)
    (value : Bytes) :
    correspondence.run [.put key value, .work 0] = correspondence.sending
      { outlook.store with
        uploads := key :: outlook.store.uploads
        writes := outlook.store.writes + 1 }
      ⟨url, .upload key value⟩ := by
  have performed : correspondence.stack.perform (.put remote key value) =
      correspondence.stack.put remote key value := by
    rw [Stack.perform, shows.moving, if_neg Bool.false_ne_true]
  refine run_send shows (performed.trans ?_) (by rintro _ _ ⟨⟩) rfl rfl rfl (Nat.le_succ _)
  simp only [Stack.put, shows.layer?, RemoteStore.put, opened, Bool.false_eq_true, if_false, object,
    Option.map_some]

/-- A removal is sent, if its key has an object, whether there was a shutdown or not. -/
theorem run_delete (shows : correspondence.Shows outlook) {key : String} {url : Url}
    (object : outlook.store.base.object? key = some url) :
    correspondence.run [.delete key, .work 0] = correspondence.sending
      { outlook.store with writes := outlook.store.writes + 1 } ⟨url, .removal⟩ := by
  have performed : correspondence.stack.perform (.delete remote key) =
      correspondence.stack.delete remote key := by
    rw [Stack.perform, shows.moving, if_neg Bool.false_ne_true]
  refine run_send shows (performed.trans ?_) (by rintro _ _ ⟨⟩) rfl rfl rfl (Nat.le_succ _)
  simp only [Stack.delete, shows.layer?, RemoteStore.delete, object, Option.map_some]

/-- The answer to a lookup that a shutdown has answered before: it is noted that the object store is
there or not, which cannot be seen any more. -/
theorem act_late (shows : correspondence.Shows outlook) (empty : outlook.store.pending = [])
    {request : RemoteRequest} {number : Nat} (purpose : request.purpose = .lookup number)
    (response : ServiceAnswer) :
    ∃ signals, correspondence.act (.arrive ⟨remote, request⟩ response) =
      ({ correspondence with
          stack := (correspondence.stack.setLayer remote
            (.remote (outlook.store.noteHealth response))).signal signals
          post.answered := (request, response) :: correspondence.post.answered }, []) := by
  obtain ⟨received, answered⟩ := receive_lookup response purpose outlook.store
  have performed : correspondence.stack.perform (.arrive ⟨remote, request⟩ response) =
      ((correspondence.stack.setLayer remote (.remote (outlook.store.noteHealth response))).signal
        (outlook.store.receive request response).signals, []) := by
    rw [Stack.perform, shows.moving, if_neg Bool.false_ne_true]
    simp only [Stack.arrive, shows.layer?, received, answered, empty, List.find?_nil,
      List.filter_nil]
    rw [← empty]
    rfl
  exact ⟨_, act_of_perform (by rintro _ _ ⟨⟩) performed rfl shows.layer?
    (congrArg (·[remote]?) (shows.setLayer _)) (Nat.le_refl _)⟩

/-! ### What can be relied on -/

/-- The requests that were sent and are not finished. -/
def unfinished (correspondence : Correspondence) : List RemoteRequest :=
  correspondence.stack.departures.map (·.request) ++ arriving correspondence.calls.flatten

def waiting (store : RemoteStore (Receiver Nat)) : List Nat :=
  store.pending.flatMap (·.receiver.callbacks)

/-- The callbacks in the hands of calls that are under way. -/
def inHand (correspondence : Correspondence) : List Nat :=
  correspondence.calls.flatten.flatMap (·.callbacks)

def informed (correspondence : Correspondence) : List Nat := correspondence.post.told.map (·.1)

/-- What a remote layer owes to those who use it. -/
structure Assured (correspondence : Correspondence) (store : RemoteStore (Receiver Nat)) :
    Prop where
  /-- Every callback waits for an answer, is in the hands of a call, or was told, and that once. -/
  once : (waiting store ++ correspondence.inHand ++ correspondence.informed).Perm
    (List.range correspondence.post.keys.length)
  pending : store.pending.length = (waiting store).length
  /-- Callbacks hear of misses and of their own objects only. -/
  told : ∀ callback lookup, (callback, lookup) ∈ correspondence.post.told → lookup = .notFound ∨
    ∃ key request status content, correspondence.post.keys[callback]? = some key ∧
      store.base.object? key = some request.url ∧ request.exchange = .fetch ∧
      (request, .answered status (some content)) ∈ correspondence.post.answered ∧
      ServiceAnswer.isSuccess status = true ∧ lookup = .found content
  /-- A shutdown that is not interrupted returns once it has told everyone who waited. -/
  shutDown : correspondence.run
      (.shutDown :: List.replicate (1 + 2 * (waiting store).length) (.work 0)) =
    { correspondence with
      stack := correspondence.stack.setLayer remote (.remote store.shutDown.1)
      calls := [] :: correspondence.calls
      post.told := ((waiting store).map (·, .notFound)).reverse ++ correspondence.post.told
      post.closing := true }
  closed : store.closed = true → store.pending = []
  /-- However a shutdown is interrupted: once no call is under way, every callback was told. -/
  returned : correspondence.post.closing = true → correspondence.AtRest →
    store.closed = true ∧ correspondence.informed.Perm (List.range correspondence.post.keys.length)
  refused : store.closed = true → ∀ key,
    correspondence.run [.get key, .work 0, .work 0, .work 0] =
      { correspondence with
        calls := [] :: correspondence.calls
        post.keys := correspondence.post.keys ++ [key]
        post.told := (correspondence.post.keys.length, .notFound) :: correspondence.post.told }
  late : store.closed = true → ∀ request number response, request.purpose = .lookup number →
    (store.noteHealth response).isHealthy = store.isHealthy ∧
      ∃ signals, correspondence.act (.arrive ⟨remote, request⟩ response) =
        ({ correspondence with
            stack := (correspondence.stack.setLayer remote
              (.remote (store.noteHealth response))).signal signals
            post.answered := (request, response) :: correspondence.post.answered }, [])
  /-- A lookup that comes before a shutdown sends a request for its object. -/
  fetches : store.closed = false → ∀ key url, store.base.object? key = some url →
    correspondence.run [.get key, .work 0] = sending
      { correspondence with post.keys := correspondence.post.keys ++ [key] }
      { store with
        pending := store.pending ++ [⟨store.fresh, .client correspondence.post.keys.length⟩]
        fresh := store.fresh + 1 }
      ⟨url, .lookup store.fresh⟩
  uploads : store.closed = false → ∀ key value url, store.base.object? key = some url →
    correspondence.run [.put key value, .work 0] = correspondence.sending
      { store with uploads := key :: store.uploads, writes := store.writes + 1 }
      ⟨url, .upload key value⟩
  removals : ∀ key url, store.base.object? key = some url →
    correspondence.run [.delete key, .work 0] = correspondence.sending
      { store with writes := store.writes + 1 } ⟨url, .removal⟩
  /-- Every request is finished once, or not yet. -/
  sent : correspondence.post.sent.Perm
    (correspondence.post.answered.map (·.1) ++ correspondence.unfinished)
  inTransit : ∀ key, correspondence.stack.query remote key = .inTransit ↔
    correspondence.post.answered.countP (·.1.isUploadOf key) <
      correspondence.post.sent.countP (·.isUploadOf key)
  writes : store.writes = correspondence.unfinished.countP (·.isWrite) ∧
    correspondence.post.sent.countP (·.isWrite) =
      correspondence.post.answered.countP (·.1.isWrite) + store.writes
  /-- Nobody who waits for writes is done while one is under way. -/
  flush : ∀ (dealing : Dealing) (position : Nat),
    correspondence.flushes[position]? ≠ some Flush.ended →
      (correspondence.next dealing).flushes[position]? = some Flush.ended → store.writes = 0
  /-- Nobody waits for writes in vain. -/
  flushed : store.writes = 0 → ∀ position < correspondence.flushes.length,
    (correspondence.run (List.replicate 3 (.wait position))).flushes[position]? = some Flush.ended
  returns : ∃ positions : List Nat, (correspondence.run (positions.map .work)).AtRest

theorem Lookups.receivers (lookups : Lookups outlook pool) :
    outlook.store.pending.map (·.receiver) = (waiting outlook.store).map .client := by
  have own : ∀ lookup ∈ outlook.store.pending,
      lookup.receiver = lookup.receiver ∧ [lookup.receiver] =
        lookup.receiver.callbacks.map .client := by
    intro lookup member
    obtain ⟨callback, key, receiver, _⟩ := lookups.waits lookup member
    rw [receiver]
    exact ⟨rfl, rfl⟩
  rw [waiting, List.map_flatMap, List.map_eq_flatMap]
  exact List.flatMap_congr fun lookup member => (own lookup member).2

/-- A piece of work wakes everyone or nobody. -/
theorem act_flushes (correspondence : Correspondence) (work : Work Nat) :
    (correspondence.act work).1.flushes = correspondence.flushes ∨
      (correspondence.act work).1.flushes = correspondence.flushes.map .call := by
  cases work with
  | inform callback lookup => exact .inl rfl
  | _ =>
      simp only [act]
      split
      · exact .inr rfl
      · exact .inl rfl

theorem Flush.call_ended {flush : Flush} (done : flush.call = .ended) : flush = .ended := by
  cases flush <;> first | rfl | cases done

theorem Flush.step_ended {writes : Nat} {flush : Flush} (waits : flush ≠ .ended)
    (done : flush.step writes = .ended) : writes = 0 := by
  cases flush with
  | listening called =>
      by_contra under
      rw [Flush.step, if_neg under] at done
      cases done
  | asleep called => cases called <;> cases done
  | starting => cases done
  | ended => exact absurd rfl waits

theorem Flush.step_thrice (flush : Flush) (quiet : flush ≠ .asleep false) :
    ((flush.step 0).step 0).step 0 = .ended := by
  cases flush with
  | asleep called =>
      cases called with
      | false => exact absurd rfl quiet
      | true => rfl
  | _ => rfl

theorem next_wait (known : correspondence.store? = some store) (position : Nat) :
    (correspondence.next (.wait position)).flushes[position]? =
      correspondence.flushes[position]?.map (.step store.writes) := by
  simp only [Correspondence.next, known, Option.elim_some, List.getElem?_modify_eq]
  rfl

theorem Kept.flush (kept : Kept correspondence outlook) (dealing : Dealing) (position : Nat)
    (waits : correspondence.flushes[position]? ≠ some Flush.ended)
    (done : (correspondence.next dealing).flushes[position]? = some Flush.ended) :
    outlook.store.writes = 0 := by
  cases dealing with
  | flush =>
      rcases Nat.lt_or_ge position correspondence.flushes.length with inside | outside
      · exact absurd ((List.getElem?_append_left inside).symm.trans done) waits
      · rw [Correspondence.next, List.getElem?_append_right outside] at done
        cases List.mem_singleton.mp (List.mem_of_getElem? done)
  | answer other response =>
      cases present : correspondence.stack.departures[other]? <;>
        simp only [Correspondence.next, present] at done <;> exact absurd done waits
  | work other =>
      cases call : correspondence.calls[other]? with
      | none =>
          simp only [Correspondence.next, call] at done
          exact absurd done waits
      | some left =>
          cases left with
          | nil =>
              simp only [Correspondence.next, call] at done
              exact absurd done waits
          | cons work rest =>
              simp only [Correspondence.next, call] at done
              rcases act_flushes correspondence work with same | called
              · exact absurd (same ▸ done) waits
              · rw [called, List.getElem?_map, Option.map_eq_some_iff] at done
                obtain ⟨flush, present, ended⟩ := done
                exact absurd (Flush.call_ended ended ▸ present) waits
  | wait other =>
      by_cases same : other = position
      · subst same
        rw [next_wait kept.shows.store?, Option.map_eq_some_iff] at done
        obtain ⟨flush, present, ended⟩ := done
        refine Flush.step_ended (fun before => waits ?_) ended
        rw [present, before]
      · simp only [Correspondence.next, List.getElem?_modify_ne _ _ same] at done
        exact absurd done waits
  | _ => exact absurd done waits

theorem Kept.flushed (kept : Kept correspondence outlook) (ended : outlook.store.writes = 0)
    (position : Nat) (inside : position < correspondence.flushes.length) :
    (correspondence.run (List.replicate 3 (.wait position))).flushes[position]? =
      some Flush.ended := by
  have known := kept.shows.store?
  have quiet : correspondence.flushes[position] ≠ .asleep false := by
    intro sleeps
    exact kept.sound.heard (kept.shows.flushes ▸ sleeps ▸ List.getElem_mem inside) ended
  have second : (correspondence.next (.wait position)).store? = some outlook.store := known
  have third : ((correspondence.next (.wait position)).next (.wait position)).store? =
      some outlook.store := known
  refine (next_wait third position).trans ?_
  rw [next_wait second, next_wait known, List.getElem?_eq_getElem inside, ended]
  exact congrArg some (Flush.step_thrice _ quiet)

theorem query_inTransit (store : RemoteStore (Receiver Nat)) (key : String) :
    store.query key = .inTransit ↔ 0 < store.uploads.count key := by
  rw [List.count_pos_iff, RemoteStore.query]
  by_cases uploads : key ∈ store.uploads
  · simp [uploads]
  · simp [uploads]

theorem Kept.assured (kept : Kept correspondence outlook) :
    Assured correspondence outlook.store where
  once := by
    simp only [inHand, informed, kept.shows.post]
    exact kept.sound.lookups.once
  pending := by
    rw [← List.length_map (·.receiver), kept.sound.lookups.receivers, List.length_map]
  told := by
    intro callback lookup known
    rw [kept.shows.post] at known ⊢
    exact kept.sound.told (callback, lookup) (List.mem_append_left _ known)
  shutDown := run_shutDown kept.shows kept.sound.lookups.receivers
  closed := kept.sound.closed
  returned := by
    intro closing rest
    rw [kept.shows.post] at closing
    have closed : outlook.store.closed = true := by
      refine (kept.sound.closing closing).resolve_right fun due => ?_
      rw [rest] at due
      cases due
    have once := kept.sound.lookups.once
    rw [rest, Outlook.whereabouts, kept.sound.closed closed] at once
    rw [informed, kept.shows.post]
    exact ⟨closed, once⟩
  refused := run_get kept.shows
  late := by
    intro closed request number response purpose
    refine ⟨?_, act_late kept.shows (kept.sound.closed closed) purpose response⟩
    simp only [RemoteStore.isHealthy, RemoteStore.noteHealth, closed, Bool.not_true,
      Bool.false_and]
  fetches := fun opened _ _ object => run_fetch kept.shows opened object
  uploads := fun opened _ value _ object => run_put kept.shows opened object value
  removals := fun _ _ object => run_delete kept.shows object
  sent := by
    rw [unfinished, kept.shows.post, kept.shows.departures]
    exact kept.sound.books.sent
  inTransit := by
    intro key
    have query : correspondence.stack.query remote key = outlook.store.query key := by
      rw [Stack.query, Stack.queryFrom, kept.shows.layer?]
    have started := kept.sound.books.sent.countP_eq (·.isUploadOf key)
    rw [List.countP_append, List.countP_map, ← kept.sound.books.uploads] at started
    rw [query, kept.shows.post, started, query_inTransit]
    exact Nat.lt_add_right_iff_pos.symm
  writes := by
    have sent := kept.sound.books.sent.countP_eq (·.isWrite)
    rw [List.countP_append, List.countP_map, ← kept.sound.books.writes] at sent
    rw [unfinished, kept.shows.departures, kept.shows.post]
    exact ⟨kept.sound.books.writes, sent⟩
  flush := kept.flush
  flushed := kept.flushed
  returns := kept.returns

/-- After any lookups, writes and shutdowns, with the answers of the object store in any order and
with any calls still under way, a remote layer does all that it owes. -/
theorem run_assured (name : String) (base : Url) (timeout : Span) (dealings : List Dealing) :
    ∃ store, ((opened name base timeout).run dealings).store? = some store ∧
      Assured ((opened name base timeout).run dealings) store := by
  obtain ⟨outlook, kept⟩ := (Kept.opened name base timeout).run dealings
  exact ⟨outlook.store, kept.shows.store?, kept.assured⟩

private def server : Url := ⟨['h'], some ⟨[], [], ['s'], none⟩, false, .segments [[]], none, none⟩

private def crossing : List Dealing :=
  [.get "a", .work 0, .put "b" [1], .work 0, .put "b" [2], .work 0, .flush, .wait 0, .wait 0,
    .shutDown, .work 0, .work 0, .work 0, .answer 0 (.answered 200 (some [5])), .work 0,
    .answer 1 .timedOut, .work 0, .wait 0]

theorem run_assured_of_crossing :
    let after := (opened "r" server ⟨0⟩).run crossing
    after.post.sent.length = 3 ∧ after.post.told = [(0, .notFound)] ∧
      after.flushes = [.asleep false] ∧ after.stack.query remote "b" = .inTransit ∧
      ∃ store, after.store? = some store ∧ Assured after store :=
  ⟨by decide +kernel, by decide +kernel, by decide +kernel, by decide +kernel,
    run_assured "r" server ⟨0⟩ crossing⟩

end TieredCache.Correspondence
