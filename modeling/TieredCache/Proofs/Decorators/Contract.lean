import Mathlib.Data.List.Forall2
import Mathlib.Data.List.Induction
import TieredCache.Proofs.Decorators.Unused

/-!
The contract of caches with those who hand callbacks in, for every stack of decorators. Main statement:
over any run of operations a callback is told once at most, what it is told is a miss or what the tier had
for its key, and when the stack is shut down nobody is left waiting.
-/

namespace TieredCache

/-! ### Runs -/

/-- Whether a stack is shut down, with no key delayed after that. -/
def ShutsDown (operations : List StackOperation) : Prop :=
  ∃ earlier later, operations = earlier ++ .shutDown :: later ∧
    ∀ operation ∈ later, operation.delays = false

namespace History

variable {history : History} {operation : StackOperation}

theorem Distinct.unique (distinct : history.Distinct) {callback : Callback} {left right : Nat}
    {first second : Moment} {key other : String} (there : history.moments[left]? = some first)
    (again : history.moments[right]? = some second) (handed : (callback, key) ∈ first.handed)
    (also : (callback, other) ∈ second.handed) : left = right ∧ key = other := by
  have single := distinct.single
  rw [History.handed, List.map_flatMap, List.nodup_flatMap] at single
  obtain ⟨each, apart⟩ := single
  obtain ⟨inside, rfl⟩ := List.getElem?_eq_some_iff.mp there
  obtain ⟨within, rfl⟩ := List.getElem?_eq_some_iff.mp again
  have mine : callback ∈ history.moments[left].handed.map Prod.fst := List.mem_map.mpr ⟨_, handed, rfl⟩
  have theirs : callback ∈ history.moments[right].handed.map Prod.fst := List.mem_map.mpr ⟨_, also, rfl⟩
  have same : left = right := by
    rcases Nat.lt_trichotomy left right with before | same | after
    · exact absurd theirs (List.pairwise_iff_getElem.mp apart left right inside within before mine)
    · exact same
    · exact absurd mine (List.pairwise_iff_getElem.mp apart right left within inside after theirs)
  subst same
  refine ⟨rfl, ?_⟩
  have equal := List.inj_on_of_nodup_map (each _ (List.getElem_mem inside)) handed also rfl
  exact congrArg Prod.snd equal

theorem Kept.callbacks_eq_nil (kept : history.Kept) (closed : history.session.stack.Closed) :
    history.session.stack.callbacks [] = [] := by
  obtain ⟨former, orderly, alongside⟩ := kept.resting.orderly
  have renewed : history.session.stack.Orderly
      ⟨(termsOf history.moments).wants, fun _ _ => True⟩ [] :=
    orderly.renew alongside ⟨fun _ _ => id, fun _ _ _ => trivial⟩ (fun _ _ _ => trivial)
      fun _ _ _ => trivial
  rw [Stack.callbacks, renewed.roots_eq_nil closed]
  rfl

theorem Kept.closed_next (kept : history.Kept)
    (either : operation = .shutDown ∨ operation.delays = false ∧ history.session.stack.Closed) :
    (history.next operation).session.stack.Closed := by
  obtain ⟨after, -, -⟩ := kept.take operation
  obtain ⟨-, closed⟩ := kept.run operation
  change (history.moment operation).after.stack.Closed
  rw [after]
  exact (Session.upkeep_finished _ _).closed
    (closed (either.imp id fun ⟨prompt, shut⟩ => history.closed_begun prompt shut))

/-- Where the stack is closed, callbacks are told that nothing was found before the call returns. -/
theorem Kept.prompt (kept : history.Kept) (distinct : (history.next operation).Distinct)
    (closed : history.session.stack.Closed) (prompt : operation.delays = false) :
    (history.moment operation).told.Perm
      ((history.moment operation).handed.map fun (callback, _) => (callback, .notFound)) := by
  have after := kept.closed_next (.inr ⟨prompt, closed⟩)
  have accounts := kept.accounts_moment operation
  have nobody : (history.moment operation).after.stack.callbacks [] = [] :=
    (kept.next operation).callbacks_eq_nil after
  rw [nobody, kept.callbacks_eq_nil closed, List.append_nil, List.nil_append] at accounts
  have latest := history.latest_next operation
  have missed : ∀ pair ∈ (history.moment operation).told, pair = (pair.1, Lookup.notFound) := by
    rintro ⟨callback, lookup⟩ member
    have told : (callback, lookup) ∈ (history.next operation).told := by
      rw [told_next]
      exact List.mem_append_right _ member
    obtain ⟨start, moment, key, there, handed, answers⟩ := (kept.next operation).answered _ told
    obtain ⟨⟨_, other⟩, own, same⟩ :=
      List.mem_map.mp (accounts.subset (List.mem_map.mpr ⟨_, member, rfl⟩))
    change _ = callback at same
    subst same
    obtain ⟨rfl, -⟩ := distinct.unique there latest handed own
    rcases answers with miss | ⟨place, later, since, known, read⟩
    · exact congrArg _ miss
    · have inside := (List.getElem?_eq_some_iff.mp known).1
      rw [length_next] at inside
      obtain rfl : place = history.moments.length := by omega
      cases latest.symm.trans known
      exact congrArg _ (read.trans (closed.found key))
  have whole : (history.moment operation).told =
      ((history.moment operation).told.map Prod.fst).map fun callback => (callback, .notFound) := by
    rw [List.map_map]
    exact (List.map_id'' (fun _ => rfl) _).symm.trans (List.map_congr_left missed)
  rw [whole]
  refine (accounts.map _).trans ?_
  rw [List.map_map]
  exact .refl _

/-! ### Promises -/

/-- A promise that was kept is an answer for the key that it was made for. -/
theorem Kept.answers_promise (kept : history.Kept) (distinct : history.Distinct) {start number : Nat}
    {moment : Moment} {key : String} {lookup : Lookup} (there : history.moments[start]? = some moment)
    (handed : (.promise number, key) ∈ moment.handed)
    (settled : history.session.lookups.lookup number = some lookup) :
    Answers history.moments start key lookup := by
  have told : (.promise number, lookup) ∈ history.told := by
    refine (kept.promises number lookup).mpr ?_
    obtain ⟨before, after, same, -⟩ := List.lookup_eq_some_iff.mp settled
    rw [same]
    exact List.mem_append_right _ List.mem_cons_self
  obtain ⟨first, made, other, placed, own, answers⟩ := kept.answered _ told
  obtain ⟨rfl, rfl⟩ := distinct.unique placed there own handed
  exact answers

theorem Kept.isSome_promise (kept : history.Kept) (closed : history.session.stack.Closed)
    {number : Nat} {key : String} (handed : (.promise number, key) ∈ history.handed) :
    (history.session.lookups.lookup number).isSome = true := by
  have accounts := kept.accounts
  rw [kept.callbacks_eq_nil closed, List.append_nil] at accounts
  obtain ⟨⟨callback, lookup⟩, told, same⟩ :=
    List.mem_map.mp (accounts.symm.subset (List.mem_map.mpr ⟨_, handed, rfl⟩))
  change callback = _ at same
  subst same
  refine List.lookup_isSome_iff.mpr ⟨_, (kept.promises number lookup).mp told, ?_⟩
  exact beq_self_eq_true number

end History

/-- Reading all of some things gives what reading each of them gives, in order. -/
theorem forall₂_of_mapM {α β : Type} {read : α → Option β} {items : List α} {values : List β}
    (all : items.mapM read = some values) :
    List.Forall₂ (fun item value => read item = some value) items values := by
  induction items generalizing values with
  | nil =>
      cases all
      exact .nil
  | cons item rest ih =>
      rw [List.mapM_cons] at all
      obtain ⟨value, first, others⟩ := Option.bind_eq_some_iff.mp all
      obtain ⟨later, each, same⟩ := Option.bind_eq_some_iff.mp others
      cases same
      exact .cons first (ih each)

theorem mapM_ne_none {α β : Type} {read : α → Option β} {items : List α}
    (each : ∀ item ∈ items, (read item).isSome = true) : items.mapM read ≠ none := by
  induction items with
  | nil => exact fun none => nomatch none
  | cons item rest ih =>
      obtain ⟨value, first⟩ := Option.isSome_iff_exists.mp (each item List.mem_cons_self)
      have later := ih fun other member => each other (List.mem_cons_of_mem _ member)
      obtain ⟨values, others⟩ := Option.ne_none_iff_exists'.mp later
      rw [List.mapM_cons, first, others]
      exact fun none => nomatch none

/-- The answers to a batch that is awaited, as far as they have come. -/
theorem History.Kept.ordered {history asked : History} (kept : history.Kept)
    (distinct : history.Distinct) {start : Nat} {keys : List String}
    (there : history.moments[start]? = some (asked.moment (.lookupMany keys))) :
    let reply := (asked.moment (.lookupMany keys)).started.reply history.session
    (reply = .pending ∧ ¬history.session.stack.Closed) ∨ ∃ values, reply = .lookups values ∧
      List.Forall₂ (Answers history.moments start) keys values := by
  intro reply
  have read : reply = Session.lookupsReply
      (List.range' asked.session.freshPromise keys.length) history.session := rfl
  have handed : ∀ place (inside : place < keys.length),
      (.promise (asked.session.freshPromise + place), keys[place]) ∈
        (asked.moment (.lookupMany keys)).handed := by
    intro place inside
    rw [asked.handed_moment, History.pool, StackOperation.pool, List.flatMap_singleton,
      StackOperation.handed_requests]
    exact List.mem_mapIdx.mpr ⟨place, inside, rfl⟩
  rw [read, Session.lookupsReply]
  cases all : (List.range' asked.session.freshPromise keys.length).mapM
      fun number => history.session.lookups.lookup number with
  | none =>
      refine .inl ⟨rfl, fun closed => mapM_ne_none (fun number member => ?_) all⟩
      obtain ⟨place, inside, rfl⟩ := List.mem_range'.mp member
      have own := handed place inside
      rw [Nat.one_mul]
      exact kept.isSome_promise closed
        (List.mem_flatMap.mpr ⟨_, List.mem_of_getElem? there, own⟩)
  | some values =>
      refine .inr ⟨values, rfl, ?_⟩
      obtain ⟨same, each⟩ := List.forall₂_iff_get.mp (forall₂_of_mapM all)
      rw [List.length_range'] at same
      refine List.forall₂_iff_get.mpr ⟨same, fun place inside within => ?_⟩
      have settled := each place (by rw [List.length_range']; exact inside) within
      rw [List.get_eq_getElem, List.getElem_range', Nat.one_mul] at settled
      exact kept.answers_promise distinct there (handed place inside) settled

/-! ### The contract -/

namespace Session

variable {leaf : Leaf} {decorators : List Decorator} {tree : FileTree} {now : Millis}

theorem length_play (session : Session) (operations : List StackOperation) :
    (session.play operations).moments.length = operations.length := by
  induction operations using List.reverseRecOn with
  | nil => rfl
  | append_singleton operations operation ih =>
      rw [play_concat, History.length_next, ih, List.length_append]
      rfl

/-- What was done stays done. -/
theorem moments_play (session : Session) (operations more : List StackOperation) :
    ∃ rest, (session.play (operations ++ more)).moments = (session.play operations).moments ++ rest := by
  induction more using List.reverseRecOn with
  | nil => exact ⟨[], by rw [List.append_nil, List.append_nil]⟩
  | append_singleton more operation ih =>
      obtain ⟨rest, same⟩ := ih
      rw [← List.append_assoc, play_concat, History.next, same, List.append_assoc]
      exact ⟨_, rfl⟩

theorem moment_play (session : Session) (earlier later : List StackOperation)
    (operation : StackOperation) :
    (session.play (earlier ++ operation :: later)).moments[earlier.length]? =
      some ((session.play earlier).moment operation) := by
  obtain ⟨rest, same⟩ := session.moments_play (earlier ++ [operation]) later
  rw [List.append_assoc, List.singleton_append] at same
  have latest := (session.play earlier).latest_next operation
  rw [length_play, ← play_concat] at latest
  rw [same, List.getElem?_append_left (List.getElem?_eq_some_iff.mp latest).1, latest]

theorem kept_play (leaf : Leaf) (decorators : List Decorator) (tree : FileTree) (now : Millis)
    (operations : List StackOperation) :
    ((decorated leaf decorators tree now).play operations).Kept ∧
      ((decorated leaf decorators tree now).play operations).Distinct := by
  induction operations using List.reverseRecOn with
  | nil => exact ⟨kept_decorated leaf decorators tree now, distinct_decorated leaf decorators tree now⟩
  | append_singleton operations operation ih =>
      rw [play_concat]
      exact ⟨ih.1.next operation, ih.2.next ih.1 operation⟩

theorem closed_play {operations : List StackOperation} (closes : ShutsDown operations) :
    ((decorated leaf decorators tree now).play operations).session.stack.Closed := by
  obtain ⟨earlier, later, rfl, prompt⟩ := closes
  induction later using List.reverseRecOn with
  | nil =>
      rw [play_concat]
      exact (kept_play leaf decorators tree now earlier).1.closed_next (.inl rfl)
  | append_singleton later operation ih =>
      have shut := ih fun other member => prompt other (List.mem_append_left _ member)
      rw [← List.cons_append, ← List.append_assoc, play_concat]
      exact (kept_play leaf decorators tree now _).1.closed_next
        (.inr ⟨prompt operation (List.mem_append_right _ (List.mem_singleton_self _)), shut⟩)

end Session

/-- What a stack promises to those who hand callbacks in, over all runs of operations. -/
structure CallbackContract (first : Session) : Prop where
  /-- No callback is told twice. -/
  once : ∀ operations, ((first.play operations).handed.map Prod.fst).Nodup ∧
    ((first.play operations).told.map Prod.fst).Subperm
      ((first.play operations).handed.map Prod.fst)
  /-- A callback is told a miss, or what the tier had for its key since it was handed in. -/
  answered : ∀ operations callback lookup, (callback, lookup) ∈ (first.play operations).told →
    ∃ start moment key, (first.play operations).moments[start]? = some moment ∧
      (callback, key) ∈ moment.handed ∧ Answers (first.play operations).moments start key lookup
  /-- When the stack was shut down, every callback has been told. -/
  complete : ∀ operations, ShutsDown operations →
    ((first.play operations).told.map Prod.fst).Perm ((first.play operations).handed.map Prod.fst)
  /-- From then on callbacks are told that nothing was found, before the call returns. -/
  prompt : ∀ operations operation, ShutsDown operations → operation.delays = false →
    ((first.play operations).moment operation).told.Perm
      (((first.play operations).moment operation).handed.map fun (callback, _) =>
        (callback, .notFound))
  /-- A batch that is awaited yields at once what has come by the end of the call. -/
  reported : ∀ operations keys,
    let moment := (first.play operations).moment (.lookupMany keys)
    moment.report.reply = moment.started.reply moment.after
  /-- The answers to a batch that is awaited stand in the order of its keys, once there are all. -/
  ordered : ∀ earlier keys later,
    let operations := earlier ++ .lookupMany keys :: later
    let reply := ((first.play earlier).moment (.lookupMany keys)).started.reply
      (first.play operations).session
    (reply = .pending ∧ ¬ShutsDown operations) ∨ ∃ values, reply = .lookups values ∧
      List.Forall₂ (Answers (first.play operations).moments earlier.length) keys values

/-- Every stack of decorators over a tier keeps the contract, whatever is done with it. -/
theorem callbackContract_decorated (leaf : Leaf) (decorators : List Decorator) (tree : FileTree)
    (now : Millis) : CallbackContract (Session.decorated leaf decorators tree now) where
  once := by
    intro operations
    obtain ⟨kept, distinct⟩ := Session.kept_play leaf decorators tree now operations
    exact ⟨distinct.single, (List.sublist_append_left _ _).subperm.trans kept.accounts.subperm⟩
  answered := fun operations callback lookup member =>
    (Session.kept_play leaf decorators tree now operations).1.answered (callback, lookup) member
  complete := by
    intro operations closes
    have kept := (Session.kept_play leaf decorators tree now operations).1
    have accounts := kept.accounts
    rw [kept.callbacks_eq_nil (Session.closed_play closes), List.append_nil] at accounts
    exact accounts
  prompt := by
    intro operations operation closes quiet
    have after := (Session.kept_play leaf decorators tree now (operations ++ [operation])).2
    rw [Session.play_concat] at after
    exact (Session.kept_play leaf decorators tree now operations).1.prompt after
      (Session.closed_play closes) quiet
  reported := by
    intro operations keys moment
    obtain ⟨after, -, reply⟩ :=
      (Session.kept_play leaf decorators tree now operations).1.take (.lookupMany keys)
    rw [after]
    exact reply
  ordered := by
    intro earlier keys later operations reply
    obtain ⟨kept, distinct⟩ := Session.kept_play leaf decorators tree now operations
    have there := (Session.decorated leaf decorators tree now).moment_play earlier later
      (.lookupMany keys)
    exact (kept.ordered distinct there).imp
      (fun ⟨pending, waits⟩ => ⟨pending, fun closes => waits (Session.closed_play closes)⟩) id

private def fourLayers : Session :=
  Session.decorated (.memory { name := "memory", capacity := 100 })
    [.admission { maximumParallel := 1, maximumQueue := 4 }, .guarded,
      .delayed ⟨fun _ keys => keys.reverse, fun _ keys => List.reverse_perm keys⟩] {} 0

private def heldBack : List StackOperation :=
  [.put "a" [1], .delayKey 3 "b", .lookupMany ["a", "b"], .delayKey 3 "a", .get "a", .shutDown,
    .get "a"]

theorem callbackContract_of_fourLayers : CallbackContract fourLayers ∧
    (fourLayers.play heldBack).told.map Prod.snd = [.found [1], .notFound, .notFound, .notFound] :=
  ⟨callbackContract_decorated _ _ _ _, by decide +kernel⟩

end TieredCache
