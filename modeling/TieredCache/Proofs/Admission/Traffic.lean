import TieredCache.Layer.Stack

/-!
An admission control in use. Its callers start lookups and shut it down. The layer behind it is
free: it answers each lookup that it was given once, whenever and in whatever order it likes. Calls
that are under way go on one piece of work at a time, in any order, so a callback may start further
calls before the call that told it goes on. Callbacks are numbered in the order of their lookups.
-/

namespace TieredCache

def Admission.isFull {ρ : Type} (admission : Admission ρ) : Bool :=
  !admission.closed && admission.limit ≤ admission.inFlight &&
    admission.settings.maximumQueue ≤ admission.queue.length

/-- What happened outside of an admission control. -/
structure Record where
  /-- What the layer behind was asked and has not answered. -/
  outstanding : List (Request (Receiver Nat)) := []
  /-- The keys of all lookups; the number of a callback is the place of its key. -/
  keys : List String := []
  /-- What the layer behind answered. -/
  answers : List (Request (Receiver Nat) × Lookup) := []
  /-- What callbacks were told. -/
  told : List (Nat × Lookup) := []
  /-- Callbacks of lookups that found the admission control full. -/
  turnedAway : List Nat := []

structure Traffic where
  stack : Stack Nat
  /-- What each call has left to do; a call that has returned has nothing left. -/
  calls : List (List (Work Nat)) := []
  record : Record := {}

/-- What can happen next. A position that does not exist stands for nothing. -/
inductive Move where
  | get (key : String)
  | shutDown
  /-- The layer behind answers one of the lookups that it was given. -/
  | answer (position : Nat) (lookup : Lookup)
  /-- A call does its next piece of work. -/
  | work (position : Nat)

namespace Traffic

def behind : Nat := 0

def control : Nat := 1

def opened (settings : AdmissionSettings) : Traffic where
  stack := { layers := [.void, .admission behind { settings }], now := 0 }

def admission? (traffic : Traffic) : Option (Admission (Receiver Nat)) :=
  match traffic.stack.layer? control with
  | some (.admission _ admission) => some admission
  | _ => none

/-- The lookups that a piece of work hands over to the layer behind, if it is meant for it. -/
def handedOver? : Work Nat → Option (List (Request (Receiver Nat)))
  | .ask layer key receiver => if layer = behind then some [⟨key, receiver⟩] else none
  | .askMany layer requests => if layer = behind then some requests else none
  | .shutDown layer => if layer = behind then some [] else none
  | _ => none

/-- The callbacks turned away so far, once a piece of work is done. -/
def turnedAwayAfter (traffic : Traffic) : Work Nat → List Nat
  | .ask layer _ (.client callback) =>
      if layer = control && traffic.admission?.any (·.isFull) then
        callback :: traffic.record.turnedAway
      else traffic.record.turnedAway
  | _ => traffic.record.turnedAway

/-- Does a piece of work; what it leaves to do comes before the rest of its call. -/
def act (traffic : Traffic) (work : Work Nat) : Traffic × List (Work Nat) :=
  match handedOver? work with
  | some requests =>
      ({ traffic with record.outstanding := requests ++ traffic.record.outstanding }, [])
  | none =>
      match work with
      | .inform callback lookup =>
          ({ traffic with record.told := (callback, lookup) :: traffic.record.told }, [])
      | work =>
          let (stack, more) := traffic.stack.perform work
          ({ traffic with stack, record.turnedAway := traffic.turnedAwayAfter work }, more)

def next (traffic : Traffic) : Move → Traffic
  | .get key =>
      { traffic with
        calls := [.ask control key (.client traffic.record.keys.length)] :: traffic.calls
        record.keys := traffic.record.keys ++ [key] }
  | .shutDown => { traffic with calls := [.shutDown control] :: traffic.calls }
  | .answer position lookup =>
      match traffic.record.outstanding[position]? with
      | none => traffic
      | some request =>
          { traffic with
            calls := [.answer request.receiver lookup] :: traffic.calls
            record.outstanding := traffic.record.outstanding.eraseIdx position
            record.answers := (request, lookup) :: traffic.record.answers }
  | .work position =>
      match traffic.calls[position]? with
      | some (work :: rest) =>
          let (acted, more) := traffic.act work
          { acted with calls := traffic.calls.set position (more ++ rest) }
      | _ => traffic

def run (traffic : Traffic) (moves : List Move) : Traffic := moves.foldl next traffic

def AtRest (traffic : Traffic) : Prop := traffic.calls.flatten = []

end Traffic

/-! ### Who is told, and which places are held -/

namespace Receiver

variable {α : Type}

def callbacks : Receiver α → List α
  | .client callback => [callback]
  | .place _ next | .member _ _ next => next.callbacks
  | .ticket _ _ | .capture _ _ => []

def isSingle : Receiver α → Bool
  | .place _ _ => true
  | _ => false

def batch? : Receiver α → Option Nat
  | .member _ batch _ => some batch
  | _ => none

end Receiver

namespace Work

variable {α : Type}

def callbacks : Work α → List α
  | .ask _ _ receiver | .answer receiver _ => receiver.callbacks
  | .askMany _ requests => requests.flatMap (·.receiver.callbacks)
  | .inform callback _ => [callback]
  | _ => []

def tellings : Work α → List (α × Lookup)
  | .answer receiver lookup => receiver.callbacks.map (·, lookup)
  | .inform callback lookup => [(callback, lookup)]
  | _ => []

def places : Work α → Nat
  | .ask _ _ receiver | .answer receiver _ => if receiver.isSingle then 1 else 0
  | .askMany _ requests => requests.countP (·.receiver.isSingle)
  | .freePlace _ => 1
  | _ => 0

def membersOf (batch : Nat) : Work α → Nat
  | .ask _ _ receiver | .answer receiver _ => if receiver.batch? = some batch then 1 else 0
  | .askMany _ requests => requests.countP (·.receiver.batch? = some batch)
  | .countMember _ number => if number = batch then 1 else 0
  | _ => 0

def batches : Work α → List Nat
  | .ask _ _ receiver | .answer receiver _ => receiver.batch?.toList
  | .askMany _ requests => requests.filterMap (·.receiver.batch?)
  | .countMember _ number => [number]
  | _ => []

end Work

end TieredCache
