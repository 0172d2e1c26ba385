import TieredCache.Layer.Lookup
import TieredCache.Remote.Exchange
import TieredCache.Signal

/-!
The networked tier: each key is one object below a base URL. Lookups and writes are under way until
their response arrives. A shut down answers the lookups that are under way, and their responses are
then of no effect.
-/

namespace TieredCache

/-- A lookup under way. -/
structure PendingLookup (ρ : Type) where
  number : Nat
  receiver : ρ

structure RemoteStore (ρ : Type) where
  name : String
  base : Url
  timeout : Span
  pending : List (PendingLookup ρ) := []
  fresh : Nat := 0
  /-- The keys of the uploads under way, once for each. -/
  uploads : List String := []
  /-- Uploads and removals under way. -/
  writes : Nat := 0
  reachable : Bool := true
  closed : Bool := false

/-- What a request under way is for. -/
inductive RemotePurpose where
  | lookup (number : Nat)
  | upload (key : String) (content : Bytes)
  | removal
  deriving DecidableEq

structure RemoteRequest where
  url : Url
  purpose : RemotePurpose
  deriving DecidableEq

namespace RemoteRequest

def exchange (request : RemoteRequest) : Exchange :=
  match request.purpose with
  | .lookup _ => .fetch
  | .upload _ content => .store content
  | .removal => .remove

/-- The URL that a request is sent to: names and passwords travel elsewhere. -/
def destination (request : RemoteRequest) : Url := request.url.withoutCredentials

/-- The request as the object store sees it. -/
def text (request : RemoteRequest) : String :=
  request.exchange.verb ++ " " ++ request.url.target ++ " " ++ toString request.exchange.bodyLength

end RemoteRequest

namespace RemoteStore

variable {ρ : Type}

/-- Starts a lookup; nothing is sent after a shut down or below a base that has no objects. -/
def get (store : RemoteStore ρ) (key : String) (receiver : ρ) :
    Option (RemoteStore ρ × RemoteRequest) :=
  if store.closed then none
  else
    (store.base.object? key).map fun url =>
      ({ store with
          pending := store.pending ++ [⟨store.fresh, receiver⟩]
          fresh := store.fresh + 1 },
        ⟨url, .lookup store.fresh⟩)

def put (store : RemoteStore ρ) (key : String) (value : Bytes) :
    Option (RemoteStore ρ × RemoteRequest) :=
  if store.closed then none
  else
    (store.base.object? key).map fun url =>
      ({ store with uploads := key :: store.uploads, writes := store.writes + 1 },
        ⟨url, .upload key value⟩)

/-- Starts a removal, also after a shut down. -/
def delete (store : RemoteStore ρ) (key : String) : Option (RemoteStore ρ × RemoteRequest) :=
  (store.base.object? key).map fun url =>
    ({ store with writes := store.writes + 1 }, ⟨url, .removal⟩)

def noteHealth (store : RemoteStore ρ) (response : ServiceAnswer) : RemoteStore ρ :=
  { store with reachable := response.health?.getD store.reachable }

/-- Resolves a lookup, unless a shut down has done so. -/
def complete (store : RemoteStore ρ) (number : Nat) : RemoteStore ρ × Option ρ :=
  ({ store with pending := store.pending.filter (·.number ≠ number) },
    (store.pending.find? (·.number = number)).map (·.receiver))

def fetchSignals (name : String) : Except Fault Bytes → List Signal
  | .ok _ => [.count "caches.remote.hit" name]
  | .error .notFound => [.count "caches.remote.miss" name]
  | .error fault =>
      [.count "caches.remote.error" name,
        .log ⟨.debug, .remote, "Remote cache lookup failed", [("error", .shown fault.message)]⟩]

def writeSignals (name key : String) : Except Fault Unit → List Signal
  | .ok _ => []
  | .error fault =>
      [.count "caches.remote.write_error" name,
        .log ⟨.error, .remote, "Failed to store entry in remote cache",
          [("error", .shown fault.message), ("key", .shown key)]⟩]

def removalSignals : Except Fault Unit → List Signal
  | .ok _ => []
  | .error fault =>
      [.log ⟨.error, .remote, "Failed to delete entry from remote cache",
        [("error", .shown fault.message)]⟩]

structure Received (ρ : Type) where
  store : RemoteStore ρ
  /-- The receiver of a lookup that was still under way, and its answer. -/
  answered : Option (ρ × Lookup) := none
  signals : List Signal

/-- The response to a request arrives. -/
def receive (store : RemoteStore ρ) (request : RemoteRequest) (response : ServiceAnswer) :
    Received ρ :=
  let noted := store.noteHealth response
  let url := request.destination
  match request.purpose with
  | .lookup number =>
      let result := response.fetched store.timeout url
      let (completed, receiver) := noted.complete number
      { store := completed
        answered := receiver.map fun receiver => (receiver, Lookup.ofOption result.toOption)
        signals := fetchSignals store.name result }
  | .upload key _ =>
      { store := { noted with uploads := noted.uploads.erase key, writes := noted.writes - 1 }
        signals := writeSignals store.name key (response.stored store.timeout url) }
  | .removal =>
      { store := { noted with writes := noted.writes - 1 }
        signals := removalSignals (response.removed store.timeout url) }

/-- A key whose upload is under way is in transit; nothing is known of others. -/
def query (store : RemoteStore ρ) (key : String) : KeyState :=
  if store.uploads.contains key then .inTransit else .notFound

/-- Takes no more lookups; the receivers of those under way are given back. -/
def shutDown (store : RemoteStore ρ) : RemoteStore ρ × List (PendingLookup ρ) :=
  ({ store with closed := true, pending := [] }, store.pending)

def isHealthy (store : RemoteStore ρ) : Bool := !store.closed && store.reachable

end RemoteStore

end TieredCache
