import TieredCache.Front.TwoTier
import TieredCache.Layer.Stack
import TieredCache.Session.Reply
import TieredCache.Session.Step

/-!
A session: a stack of layers, the fronts that use it, and the object store that its remote layers
talk to. A step leaves jobs behind, which are done in the order of nested calls: what a callback
starts is finished before whatever comes after the callback.
-/

namespace TieredCache

/-- Who is told the outcome of a lookup for a response. -/
inductive Conclusion where
  | report (label : String) (further : List Step)
  | promise (number : Nat)
  /-- A front of two tiers, which may have to ask its second tier. -/
  | firstTier (front : Nat) (key : String) (hooks : Hooks) (next : Conclusion)
  /-- A front of two tiers, which combines the outcomes of both. -/
  | bothTiers (front : Nat) (key : String) (first : Outcome) (next : Conclusion)

/-- Who is told the answer to a lookup. -/
inductive Callback where
  | report (label : String) (further : List Step)
  | promise (number : Nat)
  | front (place : FrontPlace) (key : String) (hooks : Hooks) (next : Conclusion)

/-- A response cache in front of a layer, or two tiers in front of two. -/
inductive Front where
  | single (cache : ResponseCache) (layer : Nat)
  | tiered (tiers : TwoTier) (first second : Nat)

/-- An object store, and what is under way to it. -/
structure Service where
  store : ObjectStore := {}
  /-- Where it can be reached, if it can. -/
  address : Option Url := none
  /-- Requests that are held back. -/
  waiting : List Departure := []
  /-- All requests received so far. -/
  received : List String := []

/-- Whether a URL leads to the object store. -/
def Service.isAt (service : Service) (url : Url) : Bool :=
  service.address.any fun address =>
    address.scheme = url.scheme &&
      address.authority.map (fun authority => (authority.host, authority.port)) =
        url.authority.map fun authority => (authority.host, authority.port)

/-- Where the layers and the front of assembled caches stand. -/
structure Tiers where
  memory : Nat
  disk : Option Nat
  remote : Option Nat
  front : Nat

structure Session where
  stack : Stack Callback
  fronts : List Front := []
  /-- The directory that steps name files in. -/
  home : FilePath := []
  service : Service := {}
  /-- Set if layers were assembled as the tiers of one cache. -/
  tiers : Option Tiers := none
  lookups : List (Nat × Lookup) := []
  outcomes : List (Nat × Outcome) := []
  freshPromise : Nat := 0
  /-- Latest first. -/
  events : List Event := []
  /-- How many pieces of work may still be done. -/
  credit : Nat := 0

inductive Job where
  | work (work : Work Callback)
  | find (place : FrontPlace) (key : String) (hooks : Hooks) (next : Conclusion)
  | conclude (next : Conclusion) (outcome : Outcome)
  /-- Takes a further step. -/
  | begin (label : String) (step : Step)
  /-- Reports that a further step is done. -/
  | finish (label : String) (reply : Session → Reply)

namespace Session

def now (session : Session) : Millis := session.stack.now

def withTree (session : Session) (tree : FileTree) : Session :=
  { session with stack := { session.stack with tree } }

def signal (session : Session) (signals : List Signal) : Session :=
  { session with stack := session.stack.signal signals }

def note (session : Session) (event : Event) : Session :=
  { session with events := event :: session.events }

def front? (session : Session) (index : Nat) : Option Front := session.fronts[index]?

def setFront (session : Session) (index : Nat) (front : Front) : Session :=
  { session with fronts := session.fronts.set index front }

/-- A single response cache of a front, and the layer behind it. -/
def cache? (session : Session) (place : FrontPlace) : Option (ResponseCache × Nat) :=
  match session.front? place.index, place.part with
  | some (.single cache layer), .whole => some (cache, layer)
  | some (.tiered tiers first _), .firstTier => some (tiers.first, first)
  | some (.tiered tiers _ second), .secondTier => some (tiers.second, second)
  | _, _ => none

def setCache (session : Session) (place : FrontPlace) (cache : ResponseCache) : Session :=
  match session.front? place.index, place.part with
  | some (.single _ layer), .whole => session.setFront place.index (.single cache layer)
  | some (.tiered tiers first second), .firstTier =>
      session.setFront place.index (.tiered { tiers with first := cache } first second)
  | some (.tiered tiers first second), .secondTier =>
      session.setFront place.index (.tiered { tiers with second := cache } first second)
  | _, _ => session

/-- The two tiers of a front that is used as a whole, and their layers. -/
def tiers? (session : Session) (place : FrontPlace) : Option (TwoTier × Nat × Nat) :=
  match session.front? place.index, place.part with
  | some (.tiered tiers first second), .whole => some (tiers, first, second)
  | _, _ => none

def promise (session : Session) : Session × Nat :=
  ({ session with freshPromise := session.freshPromise + 1 }, session.freshPromise)

def settleLookup (session : Session) (number : Nat) (lookup : Lookup) : Session :=
  { session with lookups := (number, lookup) :: session.lookups }

def settleOutcome (session : Session) (number : Nat) (outcome : Outcome) : Session :=
  { session with outcomes := (number, outcome) :: session.outcomes }

/-- A step that was started: what is left to do, and how its reply is read off the session. -/
structure Started where
  session : Session
  jobs : List Job := []
  reply : Session → Reply := fun _ => .nothing

def answered (session : Session) (reply : Reply) : Started where
  session := session
  reply := fun _ => reply

def works (work : List (Work Callback)) : List Job := work.map .work

end Session

end TieredCache
