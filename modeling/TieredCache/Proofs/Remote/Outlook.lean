import TieredCache.Proofs.Remote.Correspondence

/-!
What a piece of work can do to a remote layer and to what happened around it. Every statement about
runs starts from the cases listed here.
-/

namespace TieredCache.Correspondence

/-- All that is known of a correspondence, the calls that are under way aside. -/
structure Outlook where
  store : RemoteStore (Receiver Nat)
  departures : List Departure
  flushes : List Flush
  post : Post

inductive Expected (keys : List String) : Work Nat → Prop where
  | ask {key : String} {callback : Nat} (own : keys[callback]? = some key) :
      Expected keys (.ask remote key (.client callback))
  | put (key : String) (value : Bytes) : Expected keys (.put remote key value)
  | delete (key : String) : Expected keys (.delete remote key)
  | shutDown : Expected keys (.shutDown remote)
  | arrive (request : RemoteRequest) (response : ServiceAnswer) :
      Expected keys (.arrive ⟨remote, request⟩ response)
  | reply (callback : Nat) (lookup : Lookup) : Expected keys (.answer (.client callback) lookup)
  | inform (callback : Nat) (lookup : Lookup) : Expected keys (.inform callback lookup)

namespace Outlook

def depart (outlook : Outlook) (store : RemoteStore (Receiver Nat)) (request : RemoteRequest) :
    Outlook :=
  { outlook with
    store
    departures := outlook.departures ++ [⟨remote, request⟩]
    post.sent := outlook.post.sent ++ [request] }

def receive (outlook : Outlook) (request : RemoteRequest) (response : ServiceAnswer) : Outlook :=
  let store := (outlook.store.receive request response).store
  { outlook with
    store
    flushes := if outlook.store.endsWrites store then outlook.flushes.map .call else outlook.flushes
    post.answered := (request, response) :: outlook.post.answered }

inductive Effect (outlook : Outlook) : Work Nat → Outlook → List (Work Nat) → Prop where
  | refuse (key : String) (callback : Nat)
      (refused : outlook.store.get key (.client callback) = none) :
      Effect outlook (.ask remote key (.client callback)) outlook
        [.answer (.client callback) .notFound]
  | look (key : String) (callback : Nat) {url : Url} (opened : outlook.store.closed = false)
      (object : outlook.store.base.object? key = some url) :
      Effect outlook (.ask remote key (.client callback))
        (outlook.depart
          { outlook.store with
            pending := outlook.store.pending ++ [⟨outlook.store.fresh, .client callback⟩]
            fresh := outlook.store.fresh + 1 }
          ⟨url, .lookup outlook.store.fresh⟩) []
  | skipPut (key : String) (value : Bytes) (refused : outlook.store.put key value = none) :
      Effect outlook (.put remote key value) outlook []
  | upload (key : String) (value : Bytes) {url : Url}
      (object : outlook.store.base.object? key = some url) :
      Effect outlook (.put remote key value)
        (outlook.depart
          { outlook.store with
            uploads := key :: outlook.store.uploads
            writes := outlook.store.writes + 1 }
          ⟨url, .upload key value⟩) []
  | skipDelete (key : String) (refused : outlook.store.delete key = none) :
      Effect outlook (.delete remote key) outlook []
  | remove (key : String) {url : Url} (object : outlook.store.base.object? key = some url) :
      Effect outlook (.delete remote key)
        (outlook.depart { outlook.store with writes := outlook.store.writes + 1 } ⟨url, .removal⟩) []
  | close :
      Effect outlook (.shutDown remote) { outlook with store := outlook.store.shutDown.1 }
        (Stack.answerAll (outlook.store.pending.map (·.receiver)) .notFound)
  | arrive (request : RemoteRequest) (response : ServiceAnswer) :
      Effect outlook (.arrive ⟨remote, request⟩ response) (outlook.receive request response)
        ((outlook.store.receive request response).answered.toList.map fun (receiver, lookup) =>
          .answer receiver lookup)
  | reply (callback : Nat) (lookup : Lookup) :
      Effect outlook (.answer (.client callback) lookup) outlook [.inform callback lookup]
  | inform (callback : Nat) (lookup : Lookup) :
      Effect outlook (.inform callback lookup)
        { outlook with post.told := (callback, lookup) :: outlook.post.told } []

end Outlook

structure Shows (correspondence : Correspondence) (outlook : Outlook) : Prop where
  moving : correspondence.stack.stuck = false
  layers : correspondence.stack.layers = [.remote outlook.store]
  departures : correspondence.stack.departures = outlook.departures
  flushes : correspondence.flushes = outlook.flushes
  post : correspondence.post = outlook.post

variable {correspondence : Correspondence} {outlook : Outlook} {keys : List String}
  {work : Work Nat}

theorem Shows.layer? (shows : correspondence.Shows outlook) :
    correspondence.stack.layer? remote = some (.remote outlook.store) := by
  rw [Stack.layer?, shows.layers]
  rfl

theorem Shows.store? (shows : correspondence.Shows outlook) :
    correspondence.store? = some outlook.store := by
  simp only [Correspondence.store?, shows.layer?]

theorem Shows.setLayer (shows : correspondence.Shows outlook)
    (store : RemoteStore (Receiver Nat)) :
    (correspondence.stack.setLayer remote (.remote store)).layers = [.remote store] := by
  change correspondence.stack.layers.set remote _ = _
  rw [shows.layers]
  rfl

/-- What work shows that becomes known by what the stack does. -/
private theorem shows_act (shows : correspondence.Shows outlook) {stack : Stack Nat}
    {store : RemoteStore (Receiver Nat)} {more : List (Work Nat)} (news : List RemoteRequest)
    (told : ∀ callback lookup, work ≠ .inform callback lookup)
    (performed : correspondence.stack.perform work = (stack, more))
    (moving : stack.stuck = false) (layers : stack.layers = [.remote store])
    (departures : stack.departures = outlook.departures ++ news.map (⟨remote, ·⟩)) :
    (correspondence.act work).2 = more ∧
      (correspondence.act work).1.Shows
        { outlook with
          store
          departures := outlook.departures ++ news.map (⟨remote, ·⟩)
          flushes :=
            if outlook.store.endsWrites store then outlook.flushes.map .call else outlook.flushes
          post.sent := outlook.post.sent ++ news
          post.answered := finishedBy work ++ outlook.post.answered } := by
  have fresh : (stack.departures.drop correspondence.stack.departures.length).map (·.request) =
      news := by
    rw [departures, shows.departures, List.drop_left, List.map_map]
    exact List.map_id'' (fun _ => rfl) news
  have ends : ∀ acted : Correspondence, acted.stack = stack →
      correspondence.endsWrites acted = outlook.store.endsWrites store := by
    intro acted same
    have after : acted.store? = some store := by
      simp only [Correspondence.store?, Stack.layer?, same, layers]
      rfl
    simp only [endsWrites, shows.store?, after]
  have acted : correspondence.act work =
      ({ correspondence with
          stack
          flushes :=
            if outlook.store.endsWrites store then outlook.flushes.map .call else outlook.flushes
          post.sent := outlook.post.sent ++ news
          post.answered := finishedBy work ++ outlook.post.answered }, more) := by
    cases work with
    | inform callback lookup => exact absurd rfl (told callback lookup)
    | _ =>
        simp only [act, performed, fresh, ends, shows.post, shows.flushes]
        split <;> simp only [← shows.flushes]
  rw [acted]
  refine ⟨rfl, moving, layers, departures, rfl, ?_⟩
  simp only [shows.post]

theorem endsWrites_of_le {before after : RemoteStore (Receiver Nat)}
    (more : before.writes ≤ after.writes) : before.endsWrites after = false := by
  unfold RemoteStore.endsWrites
  by_cases none : after.writes = 0
  · have earlier : before.writes = 0 := by omega
    simp [earlier]
  · simp [none]

private theorem effect_of_shows {next : Outlook} {more : List (Work Nat)}
    (effect : outlook.Effect work next more) (done : (correspondence.act work).2 = more ∧
      (correspondence.act work).1.Shows next) :
    ∃ next, outlook.Effect work next (correspondence.act work).2 ∧
      (correspondence.act work).1.Shows next :=
  ⟨next, done.1.symm ▸ effect, done.2⟩

/-- Work that sends nothing and ends no write. -/
private theorem quiet_effect (shows : correspondence.Shows outlook) {stack : Stack Nat}
    {store : RemoteStore (Receiver Nat)} {more : List (Work Nat)}
    (told : ∀ callback lookup, work ≠ .inform callback lookup) (finishes : finishedBy work = [])
    (performed : correspondence.stack.perform work = (stack, more)) (moving : stack.stuck = false)
    (layers : stack.layers = [.remote store]) (departures : stack.departures = outlook.departures)
    (writes : outlook.store.writes ≤ store.writes)
    (effect : outlook.Effect work { outlook with store } more) :
    ∃ next, outlook.Effect work next (correspondence.act work).2 ∧
      (correspondence.act work).1.Shows next := by
  have done := shows_act shows [] told performed moving layers
    (by rw [List.map_nil, List.append_nil]; exact departures)
  simp only [endsWrites_of_le writes, Bool.false_eq_true, if_false, finishes, List.map_nil,
    List.append_nil, List.nil_append] at done
  exact effect_of_shows effect done

private theorem still_effect (shows : correspondence.Shows outlook) {more : List (Work Nat)}
    (told : ∀ callback lookup, work ≠ .inform callback lookup) (finishes : finishedBy work = [])
    (performed : correspondence.stack.perform work = (correspondence.stack, more))
    (effect : outlook.Effect work outlook more) :
    ∃ next, outlook.Effect work next (correspondence.act work).2 ∧
      (correspondence.act work).1.Shows next :=
  quiet_effect shows told finishes performed shows.moving shows.layers shows.departures
    (Nat.le_refl _) effect

/-- Work that sends a request. -/
private theorem depart_effect (shows : correspondence.Shows outlook)
    {store : RemoteStore (Receiver Nat)} {request : RemoteRequest}
    (told : ∀ callback lookup, work ≠ .inform callback lookup) (finishes : finishedBy work = [])
    (performed : correspondence.stack.perform work =
      ((correspondence.stack.setLayer remote (.remote store)).depart remote request, []))
    (writes : outlook.store.writes ≤ store.writes)
    (effect : outlook.Effect work (outlook.depart store request) []) :
    ∃ next, outlook.Effect work next (correspondence.act work).2 ∧
      (correspondence.act work).1.Shows next := by
  have departures : correspondence.stack.departures ++ [⟨remote, request⟩] =
      outlook.departures ++ [request].map (⟨remote, ·⟩) := by
    rw [shows.departures]
    rfl
  have done := shows_act shows [request] told performed shows.moving (shows.setLayer store)
    departures
  simp only [endsWrites_of_le writes, Bool.false_eq_true, if_false, finishes, List.nil_append]
    at done
  exact effect_of_shows effect done

private theorem ask_effect (shows : correspondence.Shows outlook) (key : String)
    (callback : Nat) :
    ∃ next, outlook.Effect (.ask remote key (.client callback)) next
        (correspondence.act (.ask remote key (.client callback))).2 ∧
      (correspondence.act (.ask remote key (.client callback))).1.Shows next := by
  have performed : correspondence.stack.perform (.ask remote key (.client callback)) =
      correspondence.stack.ask remote key (.client callback) := by
    rw [Stack.perform, shows.moving, if_neg Bool.false_ne_true]
  simp only [Stack.ask, shows.layer?] at performed
  cases refused : outlook.store.get key (.client callback) with
  | none =>
      rw [refused] at performed
      exact still_effect shows nofun rfl performed (.refuse key callback refused)
  | some started =>
      rw [refused] at performed
      unfold RemoteStore.get at refused
      obtain ⟨opened, mapped⟩ := Option.ite_none_left_eq_some.mp refused
      obtain ⟨url, object, rfl⟩ := Option.map_eq_some_iff.mp mapped
      exact depart_effect shows nofun rfl performed (Nat.le_refl _)
        (.look key callback (Bool.eq_false_iff.mpr opened) object)

private theorem put_effect (shows : correspondence.Shows outlook) (key : String)
    (value : Bytes) :
    ∃ next, outlook.Effect (.put remote key value) next
        (correspondence.act (.put remote key value)).2 ∧
      (correspondence.act (.put remote key value)).1.Shows next := by
  have performed : correspondence.stack.perform (.put remote key value) =
      correspondence.stack.put remote key value := by
    rw [Stack.perform, shows.moving, if_neg Bool.false_ne_true]
  simp only [Stack.put, shows.layer?] at performed
  cases refused : outlook.store.put key value with
  | none =>
      rw [refused] at performed
      exact still_effect shows nofun rfl performed (.skipPut key value refused)
  | some started =>
      rw [refused] at performed
      unfold RemoteStore.put at refused
      obtain ⟨opened, mapped⟩ := Option.ite_none_left_eq_some.mp refused
      obtain ⟨url, object, rfl⟩ := Option.map_eq_some_iff.mp mapped
      exact depart_effect shows nofun rfl performed (Nat.le_succ _)
        (.upload key value object)

private theorem delete_effect (shows : correspondence.Shows outlook) (key : String) :
    ∃ next, outlook.Effect (.delete remote key) next
        (correspondence.act (.delete remote key)).2 ∧
      (correspondence.act (.delete remote key)).1.Shows next := by
  have performed : correspondence.stack.perform (.delete remote key) =
      correspondence.stack.delete remote key := by
    rw [Stack.perform, shows.moving, if_neg Bool.false_ne_true]
  simp only [Stack.delete, shows.layer?] at performed
  cases refused : outlook.store.delete key with
  | none =>
      rw [refused] at performed
      exact still_effect shows nofun rfl performed (.skipDelete key refused)
  | some started =>
      rw [refused] at performed
      unfold RemoteStore.delete at refused
      obtain ⟨url, object, rfl⟩ := Option.map_eq_some_iff.mp refused
      exact depart_effect shows nofun rfl performed (Nat.le_succ _)
        (.remove key object)

private theorem arrive_effect (shows : correspondence.Shows outlook) (request : RemoteRequest)
    (response : ServiceAnswer) :
    ∃ next, outlook.Effect (.arrive ⟨remote, request⟩ response) next
        (correspondence.act (.arrive ⟨remote, request⟩ response)).2 ∧
      (correspondence.act (.arrive ⟨remote, request⟩ response)).1.Shows next := by
  have performed : correspondence.stack.perform (.arrive ⟨remote, request⟩ response) =
      correspondence.stack.arrive ⟨remote, request⟩ response := by
    rw [Stack.perform, shows.moving, if_neg Bool.false_ne_true]
  simp only [Stack.arrive, shows.layer?] at performed
  have done := shows_act shows [] (by rintro _ _ ⟨⟩) performed shows.moving
    (shows.setLayer _) (by rw [List.map_nil, List.append_nil]; exact shows.departures)
  simp only [finishedBy, List.map_nil, List.append_nil] at done
  exact effect_of_shows (.arrive request response) done

/-- Work that can be expected has one of the effects. -/
theorem act_effect (shows : correspondence.Shows outlook) (expected : Expected keys work) :
    ∃ next, outlook.Effect work next (correspondence.act work).2 ∧
      (correspondence.act work).1.Shows next := by
  have moving := shows.moving
  cases expected with
  | ask own => exact ask_effect shows _ _
  | put key value => exact put_effect shows key value
  | delete key => exact delete_effect shows key
  | shutDown =>
      have performed : correspondence.stack.perform (.shutDown remote) =
          correspondence.stack.shutDown remote := by
        rw [Stack.perform, shows.moving, if_neg Bool.false_ne_true]
      simp only [Stack.shutDown, shows.layer?] at performed
      exact quiet_effect shows nofun rfl performed shows.moving (shows.setLayer _) shows.departures
        (Nat.le_refl _) .close
  | arrive request response => exact arrive_effect shows request response
  | reply callback lookup =>
      have performed : correspondence.stack.perform (.answer (.client callback) lookup) =
          (correspondence.stack, [.inform callback lookup]) := by
        rw [Stack.perform, shows.moving, if_neg Bool.false_ne_true]
        rfl
      exact still_effect shows nofun rfl performed (.reply callback lookup)
  | inform callback lookup =>
      refine effect_of_shows (.inform callback lookup) ⟨rfl, moving, shows.layers,
        shows.departures, shows.flushes, ?_⟩
      simp only [act, shows.post]

end TieredCache.Correspondence
