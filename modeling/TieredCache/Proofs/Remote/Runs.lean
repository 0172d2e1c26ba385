import Mathlib.Algebra.Ring.Nat
import TieredCache.Proofs.Calls
import TieredCache.Proofs.Remote.Books

/-!
What every run of a remote layer keeps, with calls inside of calls and answers in any order, also after
a shutdown. Main statements: `Kept.run`, and `Kept.returns`, that all calls can come to an end.
-/

namespace TieredCache.Correspondence

variable {outlook next : Outlook} {work : Work Nat} {more others pool : List (Work Nat)}
  {correspondence : Correspondence}

/-! ### What a run keeps -/

structure Sound (outlook : Outlook) (pool : List (Work Nat)) : Prop where
  expected : ∀ work ∈ pool, Expected outlook.post.keys work
  own : ∀ departure ∈ outlook.departures, departure.layer = remote
  books : Books outlook pool
  lookups : Lookups outlook pool
  told : Told outlook pool
  closed : outlook.store.closed = true → outlook.store.pending = []
  closing : outlook.post.closing = true →
    outlook.store.closed = true ∨ .shutDown remote ∈ pool
  heard : .asleep false ∈ outlook.flushes → outlook.store.writes ≠ 0

theorem arriving_perm {left right : List (Work Nat)} (same : left.Perm right) :
    (arriving left).Perm (arriving right) :=
  same.flatMap_right _

/-- The same requests and callbacks, with the work of calls and the requests in flight in other
places. -/
theorem Sound.rearrange (sound : Sound outlook pool) {departures : List Departure}
    (expected : ∀ work ∈ others, Expected outlook.post.keys work)
    (own : ∀ departure ∈ departures, departure.layer = remote)
    (unfinished : (outlook.unfinished pool).Perm
      (Outlook.unfinished { outlook with departures } others))
    (callbacks : (others.flatMap (·.callbacks)).Perm (pool.flatMap (·.callbacks)))
    (tellings : others.flatMap (·.tellings) ⊆ pool.flatMap (·.tellings))
    (shuts : .shutDown remote ∈ pool → .shutDown remote ∈ others) :
    Sound { outlook with departures } others where
  expected := expected
  own := own
  books := {
    sent := sound.books.sent.trans (unfinished.append_left _)
    writes := sound.books.writes.trans (unfinished.countP_eq _)
    uploads := fun key => (sound.books.uploads key).trans (unfinished.countP_eq _) }
  lookups := {
    once := ((callbacks.append_left _).append_right _).trans sound.lookups.once
    distinct := sound.lookups.distinct
    older := sound.lookups.older
    numbered := fun request member =>
      sound.lookups.numbered request (unfinished.symm.subset member)
    waits := by
      intro lookup waiting
      obtain ⟨callback, key, receiver, own, asks⟩ := sound.lookups.waits lookup waiting
      exact ⟨callback, key, receiver, own, fun request member =>
        asks request (unfinished.symm.subset member)⟩ }
  told := by
    intro telling known
    rcases List.mem_append.mp known with before | left
    · exact sound.told telling (List.mem_append_left _ before)
    · exact sound.told telling (List.mem_append_right _ (tellings left))
  closed := sound.closed
  closing := fun closing => (sound.closing closing).imp_right shuts
  heard := sound.heard

theorem Sound.perm (sound : Sound outlook pool) (same : pool.Perm others) :
    Sound outlook others :=
  sound.rearrange (fun work member => sound.expected work (same.symm.subset member)) sound.own
    ((arriving_perm same).append_left _) (same.symm.flatMap_right _)
    (same.symm.flatMap_right _).subset (same.subset ·)

/-! ### Pieces of work -/

/-- What a piece of work leaves to do can be expected again. -/
theorem Outlook.Effect.expected (effect : outlook.Effect work next more)
    (lookups : Lookups outlook pool) : ∀ work ∈ more, Expected next.post.keys work := by
  have answers : ∀ lookup ∈ outlook.store.pending, ∀ told,
      Expected next.post.keys (.answer lookup.receiver told) := by
    intro lookup waiting told
    obtain ⟨callback, key, receiver, _⟩ := lookups.waits lookup waiting
    rw [receiver]
    exact .reply callback told
  intro left member
  cases effect with
  | refuse key callback refused =>
      rw [List.mem_singleton.mp member]
      exact .reply callback .notFound
  | close =>
      obtain ⟨receiver, waiting, rfl⟩ := List.mem_map.mp member
      obtain ⟨lookup, known, rfl⟩ := List.mem_map.mp waiting
      exact answers lookup known .notFound
  | arrive request response =>
      obtain ⟨⟨receiver, told⟩, answered, rfl⟩ := List.mem_map.mp member
      rcases receive_cases request response outlook.store with ⟨number, -, -, known⟩ | ⟨-, known⟩
      · rw [known, Option.mem_toList, Option.map_eq_some_iff] at answered
        obtain ⟨lookup, found, same⟩ := answered
        cases same
        exact answers lookup (List.mem_of_find?_eq_some found) _
      · rw [known] at answered
        cases answered
  | reply callback lookup =>
      rw [List.mem_singleton.mp member]
      exact .inform callback lookup
  | _ => cases member

theorem Outlook.Effect.own (effect : outlook.Effect work next more)
    (own : ∀ departure ∈ outlook.departures, departure.layer = remote) :
    ∀ departure ∈ next.departures, departure.layer = remote := by
  intro departure member
  cases effect with
  | look | upload | remove =>
      rcases List.mem_append.mp member with old | new
      · exact own departure old
      · rw [List.mem_singleton.mp new]
  | _ => exact own departure member

theorem Outlook.Effect.closed (effect : outlook.Effect work next more)
    (closed : outlook.store.closed = true) : next.store.closed = true := by
  cases effect with
  | close => rfl
  | arrive request response =>
      exact (receive_rest request response outlook.store).2.2.trans closed
  | _ => exact closed

theorem Outlook.Effect.pending_nil (effect : outlook.Effect work next more)
    (before : outlook.store.closed = true → outlook.store.pending = [])
    (closed : next.store.closed = true) : next.store.pending = [] := by
  cases effect with
  | look key callback opened object => exact absurd (opened.symm.trans closed) Bool.false_ne_true
  | close => rfl
  | arrive request response =>
      have empty := before ((receive_rest request response outlook.store).2.2.symm.trans closed)
      rcases receive_cases request response outlook.store with
        ⟨number, -, pending, -⟩ | ⟨pending, -⟩
      · exact pending.trans (by rw [empty, List.filter_nil])
      · exact pending.trans empty
  | _ => exact before closed

/-- When the last write ends, everyone who sleeps is called. -/
theorem Outlook.Effect.heard (effect : outlook.Effect work next more)
    (heard : .asleep false ∈ outlook.flushes → outlook.store.writes ≠ 0)
    (sleeps : .asleep false ∈ next.flushes) : next.store.writes ≠ 0 := by
  cases effect with
  | upload | remove => exact Nat.succ_ne_zero _
  | arrive request response =>
      intro ended
      change _ ∈ if outlook.store.endsWrites (outlook.receive request response).store then _
        else _ at sleeps
      simp only [RemoteStore.endsWrites, ended, decide_true, Bool.and_true] at sleeps
      by_cases before : outlook.store.writes = 0
      · rw [decide_eq_false (not_not_intro before), if_neg Bool.false_ne_true] at sleeps
        exact heard sleeps before
      · rw [decide_eq_true before, if_pos rfl] at sleeps
        obtain ⟨flush, _, called⟩ := List.mem_map.mp sleeps
        cases flush <;> cases called
  | _ => exact heard sleeps

/-- A piece of work keeps what runs rely on. -/
theorem Sound.effect (sound : Sound outlook (work :: others))
    (effect : outlook.Effect work next more) : Sound next (more ++ others) where
  expected left member := by
    rcases List.mem_append.mp member with fresh | rest
    · exact effect.expected sound.lookups left fresh
    · rw [effect.keys_eq]
      exact sound.expected left (List.mem_cons_of_mem _ rest)
  own := effect.own sound.own
  books := sound.books.effect effect
  lookups := sound.lookups.effect (sound.expected work List.mem_cons_self) effect
  told := sound.told.effect sound.lookups effect
  closed := effect.pending_nil sound.closed
  closing := by
    intro closing
    have before : outlook.post.closing = true := by
      cases effect <;> exact closing
    rcases sound.closing before with closed | due
    · exact .inl (effect.closed closed)
    · rcases List.mem_cons.mp due with now | rest
      · subst now
        cases effect
        exact .inl rfl
      · exact .inr (List.mem_append_right _ rest)
  heard := effect.heard sound.heard

/-! ### Calls -/

theorem Expected.append {keys : List String} (expected : Expected keys work) (key : String) :
    Expected (keys ++ [key]) work := by
  cases expected with
  | ask own => exact .ask (List.getElem?_append_left (List.getElem?_eq_some_iff.mp own).1 ▸ own)
  | put key value => exact .put key value
  | delete key => exact .delete key
  | shutDown => exact .shutDown
  | arrive request response => exact .arrive request response
  | reply callback lookup => exact .reply callback lookup
  | inform callback lookup => exact .inform callback lookup

/-- A call that has nothing to do with any callback. -/
theorem Sound.call (sound : Sound outlook pool) (expected : Expected outlook.post.keys work)
    (finishes : finishedBy work = []) (callbacks : work.callbacks = [])
    (tellings : work.tellings = []) : Sound outlook (work :: pool) := by
  refine sound.rearrange (List.forall_mem_cons.mpr ⟨expected, sound.expected⟩) sound.own
    (.of_eq (unfinished_of_quiet finishes).symm) ?_ ?_ (List.mem_cons_of_mem _)
  · rw [List.flatMap_cons, callbacks]
    exact .refl _
  · rw [List.flatMap_cons, tellings]
    exact List.Subset.refl _

theorem Sound.closes (sound : Sound outlook pool) :
    Sound { outlook with post.closing := true } (.shutDown remote :: pool) := by
  have called := sound.call .shutDown rfl rfl rfl
  exact ⟨called.expected, called.own, ⟨called.books.sent, called.books.writes,
    called.books.uploads⟩, ⟨called.lookups.once, called.lookups.distinct, called.lookups.older,
    called.lookups.numbered, called.lookups.waits⟩, called.told, called.closed,
    fun _ => .inr List.mem_cons_self, called.heard⟩

/-- A lookup that is started: its callback is new. -/
theorem Sound.get (sound : Sound outlook pool) (key : String) :
    Sound { outlook with post.keys := outlook.post.keys ++ [key] }
      (.ask remote key (.client outlook.post.keys.length) :: pool) where
  expected := List.forall_mem_cons.mpr ⟨.ask List.getElem?_concat_length,
    fun work member => (sound.expected work member).append key⟩
  own := sound.own
  books := ⟨sound.books.sent, sound.books.writes, sound.books.uploads⟩
  lookups := by
    refine ⟨?_, sound.lookups.distinct, sound.lookups.older, sound.lookups.numbered, ?_⟩
    · rw [List.length_append, List.length_singleton, List.range_succ]
      refine .trans ?_ (sound.lookups.once.append_right [_])
      simp only [List.perm_iff_count, Outlook.whereabouts, List.flatMap_cons, List.count_append,
        Work.callbacks, Receiver.callbacks]
      omega
    · intro lookup waiting
      obtain ⟨callback, own, receiver, known, asks⟩ := sound.lookups.waits lookup waiting
      exact ⟨callback, own, receiver,
        List.getElem?_append_left (List.getElem?_eq_some_iff.mp known).1 ▸ known, asks⟩
  told := by
    intro telling known
    refine (sound.told telling known).imp_right ?_
    rintro ⟨own, request, status, content, known, rest⟩
    exact ⟨own, request, status, content,
      List.getElem?_append_left (List.getElem?_eq_some_iff.mp known).1 ▸ known, rest⟩
  closed := sound.closed
  closing := fun closing => (sound.closing closing).imp_right (List.mem_cons_of_mem _)
  heard := sound.heard

theorem Sound.answer (sound : Sound outlook pool) {position : Nat} {departure : Departure}
    (present : outlook.departures[position]? = some departure) (response : ServiceAnswer) :
    Sound { outlook with departures := outlook.departures.eraseIdx position }
      (.arrive departure response :: pool) := by
  obtain ⟨inside, taken⟩ := List.getElem?_eq_some_iff.mp present
  obtain ⟨layer, request⟩ := departure
  cases sound.own _ (List.mem_of_getElem? present)
  refine sound.rearrange (List.forall_mem_cons.mpr ⟨.arrive request response, sound.expected⟩)
    (fun other left => sound.own other (List.mem_of_mem_eraseIdx left)) ?_ (.refl _)
    (List.Subset.refl _) (List.mem_cons_of_mem _)
  have first := List.getElem_cons_eraseIdx_perm inside
  rw [taken] at first
  exact ((first.symm.map (·.request)).append_right _).trans List.perm_middle.symm

/-- What those who wait do is their own affair, if nobody falls asleep who will not be called. -/
theorem Sound.flushes (sound : Sound outlook pool) {flushes : List Flush}
    (heard : .asleep false ∈ flushes → outlook.store.writes ≠ 0) :
    Sound { outlook with flushes } pool :=
  ⟨sound.expected, sound.own, ⟨sound.books.sent, sound.books.writes, sound.books.uploads⟩,
    ⟨sound.lookups.once, sound.lookups.distinct, sound.lookups.older, sound.lookups.numbered,
      sound.lookups.waits⟩, sound.told, sound.closed, sound.closing, heard⟩

theorem Flush.step_asleep {writes : Nat} {flush : Flush}
    (sleeps : flush.step writes = .asleep false) : flush = .asleep false ∨ writes ≠ 0 := by
  cases flush with
  | listening called =>
      refine .inr fun none => ?_
      rw [Flush.step, if_pos none] at sleeps
      cases sleeps
  | asleep called => cases called <;> simp_all [Flush.step]
  | starting | ended => cases sleeps

/-! ### Runs -/

/-- A bound on the pieces of work that follow from one, itself included. -/
def weight : Work Nat → Nat
  | .ask _ _ _ | .arrive _ _ => 3
  | .answer _ _ => 2
  | _ => 1

def burden (outlook : Outlook) (pool : List (Work Nat)) : Nat :=
  2 * outlook.store.pending.length + (pool.map weight).sum

theorem burden_perm {left right : List (Work Nat)} (same : left.Perm right) :
    burden outlook left = burden outlook right := by
  rw [burden, burden, (same.map weight).sum_nat]

theorem weight_answerAll (pending : List (PendingLookup (Receiver Nat))) (lookup : Lookup) :
    ((Stack.answerAll (pending.map (·.receiver)) lookup).map weight).sum = 2 * pending.length := by
  rw [Stack.answerAll, List.map_map, List.map_map]
  change (pending.map fun _ => 2).sum = _
  rw [List.map_const', List.sum_replicate_nat, Nat.mul_comm]

theorem Outlook.Effect.burden_lt (effect : outlook.Effect work next more)
    (others : List (Work Nat)) : burden next (more ++ others) < burden outlook (work :: others) := by
  simp only [burden, List.map_append, List.map_cons, List.sum_append, List.sum_cons]
  generalize (others.map weight).sum = rest
  cases effect with
  | close =>
      rw [weight_answerAll]
      change 2 * 0 + (_ + rest) < _ + (1 + rest)
      omega
  | arrive request response =>
      rcases receive_cases request response outlook.store with
        ⟨number, -, pending, answered⟩ | ⟨pending, answered⟩
      · have fewer := outlook.store.pending.length_filter_le (·.number ≠ number)
        simp only [Outlook.receive, pending, answered]
        cases outlook.store.pending.find? (·.number = number) with
        | none =>
            change 2 * _ + (0 + rest) < _ + (3 + rest)
            omega
        | some lookup =>
            change 2 * _ + (2 + rest) < _ + (3 + rest)
            omega
      · simp only [Outlook.receive, pending, answered]
        change _ + (0 + rest) < _ + (3 + rest)
        omega
  | _ =>
      simp only [Outlook.depart, List.length_append, List.length_singleton, List.map_cons,
        List.map_nil, List.sum_cons, List.sum_nil, weight]
      omega

structure Kept (correspondence : Correspondence) (outlook : Outlook) : Prop where
  shows : correspondence.Shows outlook
  sound : Sound outlook correspondence.calls.flatten

def Outlook.opened (name : String) (base : Url) (timeout : Span) : Outlook where
  store := { name, base, timeout }
  departures := []
  flushes := []
  post := {}

theorem Kept.opened (name : String) (base : Url) (timeout : Span) :
    Kept (.opened name base timeout) (.opened name base timeout) where
  shows := ⟨rfl, rfl, rfl, rfl, rfl⟩
  sound := by
    change Sound _ []
    exact ⟨List.forall_mem_nil _, List.forall_mem_nil _, ⟨.refl _, rfl, fun _ => rfl⟩,
      ⟨.refl _, List.nodup_nil, List.forall_mem_nil _, List.forall_mem_nil _,
        List.forall_mem_nil _⟩, List.forall_mem_nil _, fun _ => rfl,
      fun closing => absurd closing Bool.false_ne_true, fun sleeps => absurd sleeps List.not_mem_nil⟩

theorem Kept.worked {position : Nat} {rest : List (Work Nat)}
    (kept : Kept correspondence outlook)
    (call : correspondence.calls[position]? = some (work :: rest)) :
    ∃ next, Kept (correspondence.next (.work position)) next ∧
      burden next (correspondence.next (.work position)).calls.flatten <
        burden outlook correspondence.calls.flatten := by
  -- The invariant does not depend on the order of work: the piece may be taken from the front.
  obtain ⟨others, first, last⟩ := Calls.flatten_perm call
  have sound := kept.sound.perm first
  obtain ⟨next, effect, shows⟩ :=
    act_effect kept.shows (sound.expected work List.mem_cons_self)
  have stepped : correspondence.next (.work position) =
      { (correspondence.act work).1 with
        calls := correspondence.calls.set position ((correspondence.act work).2 ++ rest) } := by
    simp only [Correspondence.next, call]
  rw [stepped]
  refine ⟨next, ⟨⟨shows.moving, shows.layers, shows.departures, shows.flushes, shows.post⟩,
    (sound.effect effect).perm (last _).symm⟩, ?_⟩
  rw [burden_perm (last _), burden_perm first]
  exact effect.burden_lt _

theorem Kept.step (kept : Kept correspondence outlook) (dealing : Dealing) :
    ∃ next, Kept (correspondence.next dealing) next := by
  obtain ⟨⟨moving, layers, departures, flushes, post⟩, sound⟩ := kept
  cases dealing with
  | get key =>
      refine ⟨{ outlook with post.keys := outlook.post.keys ++ [key] },
        ⟨moving, layers, departures, flushes, ?_⟩, ?_⟩
      · simp only [Correspondence.next, post]
      · simp only [Correspondence.next, post]
        exact sound.get key
  | put key value => exact ⟨outlook, ⟨moving, layers, departures, flushes, post⟩,
      sound.call (.put key value) rfl rfl rfl⟩
  | delete key => exact ⟨outlook, ⟨moving, layers, departures, flushes, post⟩,
      sound.call (.delete key) rfl rfl rfl⟩
  | shutDown =>
      refine ⟨{ outlook with post.closing := true },
        ⟨moving, layers, departures, flushes, ?_⟩, sound.closes⟩
      simp only [Correspondence.next, post]
  | flush =>
      refine ⟨{ outlook with flushes := outlook.flushes ++ [.starting] },
        ⟨moving, layers, departures, ?_, post⟩, sound.flushes fun sleeps => ?_⟩
      · simp only [Correspondence.next, flushes]
      rcases List.mem_append.mp sleeps with old | new
      · exact sound.heard old
      · cases List.mem_singleton.mp new
  | answer position response =>
      cases present : correspondence.stack.departures[position]? with
      | none =>
          simp only [Correspondence.next, present]
          exact ⟨outlook, ⟨moving, layers, departures, flushes, post⟩, sound⟩
      | some departure =>
          simp only [Correspondence.next, present]
          rw [departures] at present
          refine ⟨{ outlook with departures := outlook.departures.eraseIdx position },
            ⟨moving, layers, ?_, flushes, post⟩, sound.answer present response⟩
          rw [departures]
  | work position =>
      cases call : correspondence.calls[position]? with
      | none =>
          simp only [Correspondence.next, call]
          exact ⟨outlook, ⟨moving, layers, departures, flushes, post⟩, sound⟩
      | some left =>
          cases left with
          | nil =>
              simp only [Correspondence.next, call]
              exact ⟨outlook, ⟨moving, layers, departures, flushes, post⟩, sound⟩
          | cons work rest =>
              have kept : Kept correspondence outlook :=
                ⟨⟨moving, layers, departures, flushes, post⟩, sound⟩
              obtain ⟨next, after, _⟩ := kept.worked call
              exact ⟨next, after⟩
  | wait position =>
      have known : correspondence.store? = some outlook.store :=
        Shows.store? ⟨moving, layers, departures, flushes, post⟩
      refine ⟨{ outlook with flushes := outlook.flushes.modify position (.step outlook.store.writes) },
        ⟨moving, layers, departures, ?_, post⟩, sound.flushes fun sleeps => ?_⟩
      · simp only [Correspondence.next, known, Option.elim_some, flushes]
      obtain ⟨other, inside, taken⟩ := List.getElem_of_mem sleeps
      rw [List.getElem_modify] at taken
      split at taken
      · rcases Flush.step_asleep taken with old | some
        · exact sound.heard (old ▸ List.getElem_mem _)
        · exact some
      · exact sound.heard (taken ▸ List.getElem_mem _)

theorem Kept.run (kept : Kept correspondence outlook) (dealings : List Dealing) :
    ∃ next, Kept (correspondence.run dealings) next := by
  induction dealings generalizing correspondence outlook with
  | nil => exact ⟨outlook, kept⟩
  | cons dealing rest ih =>
      obtain ⟨next, after⟩ := kept.step dealing
      exact ih after

/-- Whatever calls are under way, they can all be gone on with until they have returned. -/
theorem Kept.returns (kept : Kept correspondence outlook) :
    ∃ positions : List Nat, (correspondence.run (positions.map .work)).AtRest := by
  obtain ⟨positions, returned⟩ := @Calls.returns _ _ _ Correspondence.calls
    (fun correspondence position => correspondence.next (.work position)) Kept
    (fun correspondence outlook => burden outlook correspondence.calls.flatten) Kept.worked _ _ kept
  refine ⟨positions, ?_⟩
  rw [AtRest, Correspondence.run, List.foldl_map]
  exact returned

end TieredCache.Correspondence
