import TieredCache.Proofs.Admission.Traffic
import TieredCache.Remote.Flush

/-!
A remote layer in use. Its callers look keys up, write them, shut it down and wait for writes. The
object store is free: it answers each request once, with any answer, whenever and in whatever order
it likes, also after a shutdown. Calls that are under way go on one piece of work at a time, in any
order, so a callback may start further calls before the call that told it goes on. Callbacks are
numbered in the order of their lookups.
-/

namespace TieredCache

/-- What happened around a remote layer. -/
structure Post where
  /-- The keys of all lookups; the number of a callback is the place of its key. -/
  keys : List String := []
  /-- All requests, in the order they were sent. -/
  sent : List RemoteRequest := []
  /-- The requests that are finished, with their answers; latest first. -/
  answered : List (RemoteRequest × ServiceAnswer) := []
  /-- What callbacks were told; latest first. -/
  told : List (Nat × Lookup) := []
  /-- Whether a shutdown was asked for. -/
  closing : Bool := false

structure Correspondence where
  stack : Stack Nat
  /-- What each call has left to do; a call that has returned has nothing left. -/
  calls : List (List (Work Nat)) := []
  /-- Everyone who waits for writes or did so, in the order they came. -/
  flushes : List Flush := []
  post : Post := {}

/-- What can happen next. A position that does not exist stands for nothing. -/
inductive Dealing where
  | get (key : String)
  | put (key : String) (value : Bytes)
  | delete (key : String)
  | shutDown
  | flush
  /-- The answer to one of the requests in flight arrives. -/
  | answer (position : Nat) (response : ServiceAnswer)
  /-- A call does its next piece of work. -/
  | work (position : Nat)
  /-- Someone who waits for writes does the next thing. -/
  | wait (position : Nat)

namespace Correspondence

def remote : Nat := 0

def opened (name : String) (base : Url) (timeout : Span) : Correspondence where
  stack := { layers := [.remote { name, base, timeout }], now := 0 }

def store? (correspondence : Correspondence) : Option (RemoteStore (Receiver Nat)) :=
  match correspondence.stack.layer? remote with
  | some (.remote store) => some store
  | _ => none

/-- The request that a piece of work finishes, with its answer. -/
def finishedBy : Work Nat → List (RemoteRequest × ServiceAnswer)
  | .arrive departure response => [(departure.request, response)]
  | _ => []

def endsWrites (before after : Correspondence) : Bool :=
  match before.store?, after.store? with
  | some earlier, some later => earlier.endsWrites later
  | _, _ => false

/-- Does a piece of work; what it leaves to do comes before the rest of its call. -/
def act (correspondence : Correspondence) : Work Nat → Correspondence × List (Work Nat)
  | .inform callback lookup =>
      ({ correspondence with post.told := (callback, lookup) :: correspondence.post.told }, [])
  | work =>
      let (stack, more) := correspondence.stack.perform work
      let news := stack.departures.drop correspondence.stack.departures.length
      let acted : Correspondence :=
        { correspondence with
          stack
          post.sent := correspondence.post.sent ++ news.map (·.request)
          post.answered := finishedBy work ++ correspondence.post.answered }
      (if correspondence.endsWrites acted then
          { acted with flushes := correspondence.flushes.map .call }
        else acted, more)

def next (correspondence : Correspondence) : Dealing → Correspondence
  | .get key =>
      { correspondence with
        calls := [.ask remote key (.client correspondence.post.keys.length)] :: correspondence.calls
        post.keys := correspondence.post.keys ++ [key] }
  | .put key value => { correspondence with calls := [.put remote key value] :: correspondence.calls }
  | .delete key => { correspondence with calls := [.delete remote key] :: correspondence.calls }
  | .shutDown =>
      { correspondence with
        calls := [.shutDown remote] :: correspondence.calls
        post.closing := true }
  | .flush => { correspondence with flushes := correspondence.flushes ++ [.starting] }
  | .answer position response =>
      match correspondence.stack.departures[position]? with
      | none => correspondence
      | some departure =>
          { correspondence with
            stack := { correspondence.stack with
              departures := correspondence.stack.departures.eraseIdx position }
            calls := [.arrive departure response] :: correspondence.calls }
  | .work position =>
      match correspondence.calls[position]? with
      | some (work :: rest) =>
          let (acted, more) := correspondence.act work
          { acted with calls := correspondence.calls.set position (more ++ rest) }
      | _ => correspondence
  | .wait position =>
      let writes := correspondence.store?.elim 0 (·.writes)
      { correspondence with flushes := correspondence.flushes.modify position (.step writes) }

def run (correspondence : Correspondence) (dealings : List Dealing) : Correspondence :=
  dealings.foldl next correspondence

def AtRest (correspondence : Correspondence) : Prop := correspondence.calls.flatten = []

end Correspondence

namespace RemoteRequest

def isWrite (request : RemoteRequest) : Bool :=
  match request.purpose with
  | .lookup _ => false
  | .upload _ _ | .removal => true

def isUploadOf (key : String) (request : RemoteRequest) : Bool :=
  match request.purpose with
  | .upload other _ => other = key
  | _ => false

end RemoteRequest

end TieredCache
