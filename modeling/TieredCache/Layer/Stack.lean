import TieredCache.Agenda
import TieredCache.Disk.Store
import TieredCache.Layer.Admission
import TieredCache.Layer.Delay
import TieredCache.Layer.Guard
import TieredCache.Layer.Memory
import TieredCache.Remote.Store

/-!
Stacks of layers. A layer stores entries itself or passes lookups on to a layer before it in the
list. A lookup carries the receiver of its answer through the layers; each layer may put its own
receiver around that of the caller, to see the answer pass.
-/

namespace TieredCache

/-- Who is told the answer to a lookup. -/
inductive Receiver (α : Type) where
  /-- Whoever uses the stack. -/
  | client (callback : α)
  /-- The next receiver; then a place of an admission control is free. -/
  | place (layer : Nat) (next : Receiver α)
  /-- The next receiver; then a member of a batch is done. -/
  | member (layer batch : Nat) (next : Receiver α)
  /-- The ticket of a guard. -/
  | ticket (layer number : Nat)
  /-- A lookup whose answer is to be kept back. -/
  | capture (layer number : Nat)

/-- A layer; `inner` is the position of the layer behind it. -/
inductive Layer (α : Type) where
  | memory (store : MemoryStore)
  | disk (store : DiskStore)
  | remote (store : RemoteStore (Receiver α))
  | admission (inner : Nat) (admission : Admission (Receiver α))
  | guarded (inner : Nat) (guarded : Guard (Receiver α))
  | counted (inner : Nat) (uses : Uses)
  | delayed (inner : Nat) (delay : Delay (Receiver α))
  /-- Loses every lookup and every write. -/
  | void

namespace Layer

variable {α : Type}

def inner? : Layer α → Option Nat
  | .admission inner _ | .guarded inner _ | .counted inner _ | .delayed inner _ => some inner
  | _ => none

/-- The layer behind that is asked whether it is healthy. -/
def consulted? : Layer α → Option Nat
  | .admission inner _ | .guarded inner _ => some inner
  | _ => none

def tidy : Layer α → Layer α
  | .memory store => .memory store.tidy
  | layer => layer

end Layer

/-- A request that a remote layer has under way. -/
structure Departure where
  layer : Nat
  request : RemoteRequest
  deriving DecidableEq

/-- The layers, and what they share. -/
structure Stack (α : Type) where
  layers : List (Layer α)
  tree : FileTree := {}
  now : Millis
  /-- The time that is noted for uses of files. -/
  present : FileTime := 0
  /-- Latest first. -/
  signals : List Signal := []
  /-- In the order they were sent. -/
  departures : List Departure := []
  /-- Layers for which a clean check is due, in order. -/
  checks : List Nat := []
  /-- Whether a caller waits for a guard that it holds itself. -/
  stuck : Bool := false

/-- What is left to do. -/
inductive Work (α : Type) where
  | ask (layer : Nat) (key : String) (receiver : Receiver α)
  | askMany (layer : Nat) (requests : List (Request (Receiver α)))
  | answer (receiver : Receiver α) (lookup : Lookup)
  /-- The receiver will not be told anything. -/
  | lose (receiver : Receiver α)
  /-- Keeps back what a lookup in progress was answered. -/
  | hold (layer number : Nat) (key : String) (receiver : Receiver α)
  | freeGuard (layer : Nat)
  /-- Hands out the answers that tickets of a guard kept back, one after the other. -/
  | handOut (layer : Nat) (tickets : List Nat)
  | freePlace (layer : Nat)
  /-- The receiver of a member of a batch is done with its answer. -/
  | countMember (layer batch : Nat)
  | put (layer : Nat) (key : String) (value : Bytes)
  | delete (layer : Nat) (key : String)
  | shutDown (layer : Nat)
  /-- Stops delaying a key. -/
  | release (layer : Nat) (key : String)
  /-- A remote layer gets the answer to a request. -/
  | arrive (departure : Departure) (response : ServiceAnswer)
  /-- A client is told an answer; what it does is its own affair. -/
  | inform (callback : α) (lookup : Lookup)
  /-- A client will not be told anything. -/
  | forget (callback : α)

namespace Stack

variable {α : Type}

def layer? (stack : Stack α) (index : Nat) : Option (Layer α) := stack.layers[index]?

def setLayer (stack : Stack α) (index : Nat) (layer : Layer α) : Stack α :=
  { stack with layers := stack.layers.set index layer }

theorem layer?_setLayer_self {stack : Stack α} {index : Nat} {before layer : Layer α}
    (placed : stack.layer? index = some before) :
    (stack.setLayer index layer).layer? index = some layer :=
  List.getElem?_set_self (List.getElem?_eq_some_iff.mp placed).1

theorem layer?_setLayer_of_ne {stack : Stack α} {index other : Nat} {layer : Layer α}
    (different : index ≠ other) :
    (stack.setLayer index layer).layer? other = stack.layer? other :=
  List.getElem?_set_ne different

def signal (stack : Stack α) (signals : List Signal) : Stack α :=
  { stack with signals := signals.reverse ++ stack.signals }

def depart (stack : Stack α) (layer : Nat) (request : RemoteRequest) : Stack α :=
  { stack with departures := stack.departures ++ [⟨layer, request⟩] }

def scheduleCheck (stack : Stack α) (layer : Nat) : Stack α :=
  if stack.checks.contains layer then stack
  else { stack with checks := stack.checks ++ [layer] }

/-! ### What a layer says of itself -/

/-- The state of a key; `depth` bounds how many layers lie behind. -/
def queryFrom (stack : Stack α) (key : String) : Nat → Nat → KeyState
  | 0, _ => .notFound
  | depth + 1, index =>
      match stack.layer? index with
      | none => .notFound
      | some (.memory store) => store.query key
      | some (.disk store) => store.query stack.tree key
      | some (.remote store) => store.query key
      | some .void => .inTransit
      | some layer => (layer.inner?.map (queryFrom stack key depth)).getD .notFound

def query (stack : Stack α) (index : Nat) (key : String) : KeyState :=
  stack.queryFrom key (index + 1) index

def nameFrom (stack : Stack α) : Nat → Nat → String
  | 0, _ => ""
  | depth + 1, index =>
      match stack.layer? index with
      | none => ""
      | some (.memory store) => "MemoryCache(" ++ store.name ++ ")"
      | some (.disk store) => "FileCache(" ++ store.name ++ ")"
      | some (.remote store) => "RemoteCache(" ++ store.name ++ ")"
      | some (.admission inner admission) => admission.name (nameFrom stack depth inner)
      | some (.guarded inner _) => "ThreadsafeCache(" ++ nameFrom stack depth inner ++ ")"
      | some (.counted inner _) => "CountingCache(" ++ nameFrom stack depth inner ++ ")"
      | some (.delayed inner _) => "DelayCache(" ++ nameFrom stack depth inner ++ ")"
      | some .void => "DropCache"

def name (stack : Stack α) (index : Nat) : String := stack.nameFrom (index + 1) index

def isHealthyFrom (stack : Stack α) : Nat → Nat → Bool
  | 0, _ => true
  | depth + 1, index =>
      match stack.layer? index with
      | some (.remote store) => store.isHealthy
      | some (.admission inner _) | some (.guarded inner _) => isHealthyFrom stack depth inner
      | some .void => false
      | _ => true

def isHealthy (stack : Stack α) (index : Nat) : Bool := stack.isHealthyFrom (index + 1) index

/-- Whether a question that goes down the layers comes to a guard that is held. -/
def isBarredFrom (stack : Stack α) (onward : Layer α → Option Nat) : Nat → Nat → Bool
  | 0, _ => false
  | depth + 1, index =>
      match stack.layer? index with
      | none => false
      | some layer =>
          (match layer with
            | .guarded _ guarded => guarded.held
            | _ => false) ||
            (onward layer).any (isBarredFrom stack onward depth)

/-- Whether who asks a layer about itself waits for a guard. -/
def isBarred (stack : Stack α) (onward : Layer α → Option Nat) (index : Nat) : Bool :=
  stack.isBarredFrom onward (index + 1) index

/-! ### Steps -/

/-- Asks for each key on its own. -/
def askEach (index : Nat) (requests : List (Request (Receiver α))) : List (Work α) :=
  requests.map fun request => .ask index request.key request.receiver

def answerAll (receivers : List (Receiver α)) (lookup : Lookup) : List (Work α) :=
  receivers.map fun receiver => .answer receiver lookup

def ask (stack : Stack α) (index : Nat) (key : String) (receiver : Receiver α) :
    Stack α × List (Work α) :=
  match stack.layer? index with
  | none => (stack, [.lose receiver])
  | some (.memory store) =>
      let (lookup, signals) := store.get key
      (stack.signal signals, [.answer receiver lookup])
  | some (.disk store) =>
      let (tree, lookup, signals) := store.get stack.tree key stack.present
      ({ stack with tree }.signal signals, [.answer receiver lookup])
  | some (.remote store) =>
      match store.get key receiver with
      | some (started, request) => ((stack.setLayer index (.remote started)).depart index request, [])
      | none => (stack, [.answer receiver .notFound])
  | some (.admission inner admission) =>
      let (next, arrival) := admission.arrive ⟨key, receiver⟩
      let arrived := stack.setLayer index (.admission inner next)
      match arrival with
      | .issued => (arrived, [.ask inner key (.place index receiver)])
      | .queued => (arrived, [])
      | .refused => (arrived, [.answer receiver .notFound])
      | .dropped => (arrived.signal [Admission.droppedSignal], [.answer receiver .notFound])
  | some (.guarded inner guarded) =>
      if guarded.held then ({ stack with stuck := true }, [])
      else
        let (issued, ticket) := guarded.take.issue receiver
        (stack.setLayer index (.guarded inner issued),
          [.ask inner key (.ticket index ticket), .freeGuard index, .handOut index [ticket]])
  | some (.counted inner uses) =>
      let hit := if stack.query inner key = .available then 1 else 0
      (stack.setLayer index (.counted inner { uses with gets := uses.gets + 1, hits := uses.hits + hit }),
        [.ask inner key receiver])
  | some (.delayed inner delay) =>
      if delay.delays key then
        let (started, number) := delay.beginCapture
        (stack.setLayer index (.delayed inner started),
          [.ask inner key (.capture index number), .hold index number key receiver])
      else (stack, [.ask inner key receiver])
  | some .void => (stack, [.lose receiver])

/-- Tickets for all receivers of a batch, in order. -/
def issueAll (index : Nat) :
    Guard (Receiver α) → List (Request (Receiver α)) →
      Guard (Receiver α) × List (Request (Receiver α)) × List Nat
  | guarded, [] => (guarded, [], [])
  | guarded, request :: rest =>
      let (issued, ticket) := guarded.issue request.receiver
      let (finished, requests, tickets) := issueAll index issued rest
      (finished, ⟨request.key, .ticket index ticket⟩ :: requests, ticket :: tickets)

def askMany (stack : Stack α) (index : Nat) (requests : List (Request (Receiver α))) :
    Stack α × List (Work α) :=
  match stack.layer? index with
  | some (.guarded inner guarded) =>
      if guarded.held then ({ stack with stuck := true }, [])
      else
        let (issued, wrapped, tickets) := issueAll index guarded.take requests
        (stack.setLayer index (.guarded inner issued),
          [.askMany inner wrapped, .freeGuard index, .handOut index tickets])
  | some (.delayed inner delay) =>
      (stack.setLayer index (.delayed inner (delay.noteBatch requests.length)),
        askEach index requests)
  | _ => (stack, askEach index requests)

/-- A receiver is told an answer. -/
def answer (stack : Stack α) (receiver : Receiver α) (lookup : Lookup) : Stack α × List (Work α) :=
  match receiver with
  | .client callback => (stack, [.inform callback lookup])
  | .place index next => (stack, [.answer next lookup, .freePlace index])
  | .member index batch next => (stack, [.answer next lookup, .countMember index batch])
  | .ticket index number =>
      match stack.layer? index with
      | some (.guarded inner guarded) =>
          let (next, receiver) := guarded.answer number lookup
          (stack.setLayer index (.guarded inner next), answerAll receiver.toList lookup)
      | _ => (stack, [])
  | .capture index number =>
      match stack.layer? index with
      | some (.delayed inner delay) =>
          (stack.setLayer index (.delayed inner (delay.capture number lookup)), [])
      | _ => (stack, [])

/-- A receiver that will not be told anything is lost; a guard then loses the caller's. -/
def lose (stack : Stack α) (receiver : Receiver α) : Stack α × List (Work α) :=
  match receiver with
  | .client callback => (stack, [.forget callback])
  | .place _ next | .member _ _ next => (stack, [.lose next])
  | .ticket index number =>
      match stack.layer? index with
      | some (.guarded inner guarded) =>
          (stack.setLayer index (.guarded inner (guarded.without number)),
            (guarded.find? number).toList.map fun ticket => .lose ticket.receiver)
      | _ => (stack, [])
  | .capture _ _ => (stack, [])

def handOut (stack : Stack α) (index : Nat) : List Nat → Stack α × List (Work α)
  | [] => (stack, [])
  | ticket :: rest =>
      match stack.layer? index with
      | some (.guarded inner guarded) =>
          let (next, answered) := guarded.leave ticket
          (stack.setLayer index (.guarded inner next),
            (answered.toList.map fun (receiver, lookup) => .answer receiver lookup) ++
              [.handOut index rest])
      | _ => (stack, [])

/-- A place of an admission control is free: the queue goes out as a batch. -/
def freePlace (stack : Stack α) (index : Nat) : Stack α × List (Work α) :=
  match stack.layer? index with
  | some (.admission inner admission) =>
      let (next, flush) := admission.finish
      let freed := stack.setLayer index (.admission inner next)
      match flush with
      | none => (freed, [])
      | some flush =>
          (freed.signal [Admission.batchSignal flush],
            [.askMany inner (flush.requests.map fun request =>
              ⟨request.key, .member index flush.batch request.receiver⟩)])
  | _ => (stack, [])

/-- The last member of a batch that is done frees the place of the batch. -/
def countMember (stack : Stack α) (index batch : Nat) : Stack α × List (Work α) :=
  match stack.layer? index with
  | some (.admission inner admission) =>
      let (counted, last) := admission.memberDone batch
      (stack.setLayer index (.admission inner counted), if last then [.freePlace index] else [])
  | _ => (stack, [])

def put (stack : Stack α) (index : Nat) (key : String) (value : Bytes) :
    Stack α × List (Work α) :=
  match stack.layer? index with
  | some (.memory store) => (stack.setLayer index (.memory (store.put key value)), [])
  | some (.disk store) =>
      let written := store.put stack.tree key value stack.now stack.present
      let next := ({ stack with tree := written.tree }.setLayer index (.disk written.store)).signal
        written.signals
      (if written.checks then next.scheduleCheck index else next, [])
  | some (.remote store) =>
      match store.put key value with
      | some (started, request) => ((stack.setLayer index (.remote started)).depart index request, [])
      | none => (stack, [])
  | some (.counted inner uses) =>
      (stack.setLayer index (.counted inner { uses with puts := uses.puts + 1 }), [.put inner key value])
  | some (.guarded inner guarded) =>
      if guarded.held then ({ stack with stuck := true }, [])
      else
        (stack.setLayer index (.guarded inner guarded.take), [.put inner key value, .freeGuard index])
  | some (.admission inner _) | some (.delayed inner _) => (stack, [.put inner key value])
  | some .void | none => (stack, [])

def delete (stack : Stack α) (index : Nat) (key : String) : Stack α × List (Work α) :=
  match stack.layer? index with
  | some (.memory store) => (stack.setLayer index (.memory (store.delete key)), [])
  | some (.disk store) =>
      let (tree, signals) := store.delete stack.tree key
      ({ stack with tree }.signal signals, [])
  | some (.remote store) =>
      match store.delete key with
      | some (started, request) => ((stack.setLayer index (.remote started)).depart index request, [])
      | none => (stack, [])
  | some (.counted inner uses) =>
      (stack.setLayer index (.counted inner { uses with deletes := uses.deletes + 1 }),
        [.delete inner key])
  | some (.guarded inner guarded) =>
      if guarded.held then ({ stack with stuck := true }, [])
      else (stack.setLayer index (.guarded inner guarded.take), [.delete inner key, .freeGuard index])
  | some (.admission inner _) | some (.delayed inner _) => (stack, [.delete inner key])
  | some .void | none => (stack, [])

/-- Shuts a layer down, and those behind it. Lookups that wait are answered as misses. -/
def shutDown (stack : Stack α) (index : Nat) : Stack α × List (Work α) :=
  match stack.layer? index with
  | some (.memory store) => (stack.setLayer index (.memory store.shutDown), [])
  | some (.disk store) => (stack.setLayer index (.disk store.shutDown), [])
  | some (.remote store) =>
      let (closed, pending) := store.shutDown
      (stack.setLayer index (.remote closed), answerAll (pending.map (·.receiver)) .notFound)
  | some (.admission inner admission) =>
      let (closed, queue) := admission.close
      (stack.setLayer index (.admission inner closed),
        answerAll (queue.map (·.receiver)) .notFound ++ [.shutDown inner])
  | some (.guarded inner guarded) =>
      if guarded.held then ({ stack with stuck := true }, [])
      else (stack.setLayer index (.guarded inner guarded.take), [.shutDown inner, .freeGuard index])
  | some (.counted inner _) => (stack, [.shutDown inner])
  | some (.delayed inner delay) =>
      let (closed, pending) := delay.close
      (stack.setLayer index (.delayed inner closed),
        answerAll (pending.map (·.receiver)) .notFound ++ [.shutDown inner])
  | some .void | none => (stack, [])

def delayKey (stack : Stack α) (index : Nat) (key : String) : Stack α :=
  match stack.layer? index with
  | some (.delayed inner delay) => stack.setLayer index (.delayed inner (delay.delayKey key))
  | _ => stack

def release (stack : Stack α) (index : Nat) (key : String) : Stack α × List (Work α) :=
  match stack.layer? index with
  | some (.delayed inner delay) =>
      let (released, postponed) := delay.release key
      (stack.setLayer index (.delayed inner released),
        postponed.map fun held => .answer held.receiver held.lookup)
  | _ => (stack, [])

def hold (stack : Stack α) (index number : Nat) (key : String) (receiver : Receiver α) :
    Stack α :=
  match stack.layer? index with
  | some (.delayed inner delay) =>
      stack.setLayer index (.delayed inner (delay.hold number key receiver))
  | _ => stack

def freeGuard (stack : Stack α) (index : Nat) : Stack α :=
  match stack.layer? index with
  | some (.guarded inner guarded) => stack.setLayer index (.guarded inner guarded.free)
  | _ => stack

def arrive (stack : Stack α) (departure : Departure) (response : ServiceAnswer) :
    Stack α × List (Work α) :=
  match stack.layer? departure.layer with
  | some (.remote store) =>
      let received := store.receive departure.request response
      ((stack.setLayer departure.layer (.remote received.store)).signal received.signals,
        received.answered.toList.map fun (receiver, lookup) => .answer receiver lookup)
  | _ => (stack, [])

/-- Does one piece of work; a stack that is stuck does nothing any more. -/
def perform (stack : Stack α) (work : Work α) : Stack α × List (Work α) :=
  if stack.stuck then (stack, [])
  else
    match work with
    | .ask index key receiver => stack.ask index key receiver
    | .askMany index requests => stack.askMany index requests
    | .answer receiver lookup => stack.answer receiver lookup
    | .lose receiver => stack.lose receiver
    | .hold index number key receiver => (stack.hold index number key receiver, [])
    | .freeGuard index => (stack.freeGuard index, [])
    | .handOut index tickets => stack.handOut index tickets
    | .freePlace index => stack.freePlace index
    | .countMember index batch => stack.countMember index batch
    | .put index key value => stack.put index key value
    | .delete index key => stack.delete index key
    | .shutDown index => stack.shutDown index
    | .release index key => stack.release index key
    | .arrive departure response => stack.arrive departure response
    | .inform _ _ | .forget _ => (stack, [])

/-! ### The disk between calls -/

/-- Runs the clean checks that are due. -/
def runChecks (stack : Stack α) : Stack α :=
  stack.checks.foldl (fun stack index =>
    match stack.layer? index with
    | some (.disk store) =>
        let (checked, tree, signals) := store.checkClean stack.tree stack.now stack.present
        ({ stack with tree }.setLayer index (.disk checked)).signal signals
    | _ => stack) { stack with checks := [] }

/-- Settles what was written to the memory layers. -/
def tidy (stack : Stack α) : Stack α :=
  { stack with layers := stack.layers.map Layer.tidy }

/-- Settles what was written to one layer. -/
def tidyAt (stack : Stack α) (index : Nat) : Stack α :=
  { stack with layers := stack.layers.modify index Layer.tidy }

end Stack

end TieredCache
