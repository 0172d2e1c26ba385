import TieredCache.Session.Texts

/-! Steps that use a single layer. A lookup that is awaited is a promise, which may stay pending. -/

namespace TieredCache.Session

def lookupReply (number : Nat) (session : Session) : Reply :=
  (session.lookups.lookup number).elim .pending .lookup

def statistics (session : Session) (index : Nat) : Reply :=
  match session.stack.layer? index with
  | some (.memory store) => .memory store.entries.length store.totalWeight
  | some (.disk store) =>
      .disk store (session.stack.tree.entry store.root).toOption.isSome
        (!session.tiers.any (·.disk = some index))
  | some (.remote store) => .remote store.pending.length
  | some (.admission _ admission) =>
      .admission admission.dropped admission.lastBatch admission.inFlight admission.queue.length
  | some (.counted _ uses) => .uses uses
  | some (.delayed _ delay) => .batchSizes delay.batchSizes
  | _ => .nothing

def cleanNow (session : Session) (index : Nat) : Started :=
  match session.stack.layer? index with
  | some (.disk store) =>
      let cleaned := store.cleanNow session.stack.tree session.now session.stack.present
      let stack := ({ session.stack with tree := cleaned.tree }.setLayer index
        (.disk cleaned.store)).signal cleaned.signals
      { session with stack }.answered (.cleaned cleaned.result)
  | _ => session.answered .nothing

/-- One promise for each key, in the order of the keys. -/
def promiseAll (session : Session) (keys : List String) :
    Session × List (Request (Receiver Callback)) × List Nat :=
  let first := session.freshPromise
  ({ session with freshPromise := first + keys.length },
    keys.mapIdx fun place key => ⟨key, .client (.promise (first + place))⟩,
    List.range' first keys.length)

def lookupsReply (numbers : List Nat) (session : Session) : Reply :=
  ((numbers.mapM fun number => session.lookups.lookup number)).elim .pending .lookups

def startLayer (session : Session) (label : String) (further : List Step) (index : Nat)
    (action : LayerAction) : Started :=
  let does (work : Work Callback) : Started := ⟨session, [.work work], fun _ => .nothing⟩
  let tells (onward : Layer Callback → Option Nat) (reply : Reply) : Started :=
    if session.stack.isBarred onward index then
      { session with stack := { session.stack with stuck := true } }.answered .nothing
    else session.answered reply
  match action with
  | .get key => does (.ask index key (.client (.report label further)))
  | .getMany keys =>
      does (.askMany index (keys.mapIdx fun place key =>
        ⟨key, .client (.report (label ++ "#" ++ toString place) further)⟩))
  | .lookup key =>
      let (promised, number) := session.promise
      ⟨promised, [.work (.ask index key (.client (.promise number)))], lookupReply number⟩
  | .lookupMany keys =>
      let (promised, requests, numbers) := session.promiseAll keys
      ⟨promised, [.work (.askMany index requests)], lookupsReply numbers⟩
  | .lookupValue key =>
      let (promised, number) := session.promise
      ⟨promised, [.work (.ask index key (.client (.promise number)))], fun session =>
        (session.lookups.lookup number).elim .pending fun lookup => .content lookup.value?⟩
  | .put key value => does (.put index key value)
  | .delete key => does (.delete index key)
  | .query key => tells Layer.inner? (.state (session.stack.query index key))
  | .shutDown => does (.shutDown index)
  | .isHealthy => tells Layer.consulted? (.flag (session.stack.isHealthy index))
  | .name => tells Layer.inner? (.text (session.stack.name index))
  | .statistics =>
      let tidied := { session with stack := session.stack.tidyAt index }
      tidied.answered (tidied.statistics index)
  | .describe =>
      match session.stack.layer? index with
      | some (.admission _ _) => session.answered (.text (session.admissionText index))
      | _ => session.answered .nothing
  | .delayKey key => { session with stack := session.stack.delayKey index key }.answered .nothing
  | .releaseKey key => does (.release index key)
  | .clean => session.cleanNow index

end TieredCache.Session
