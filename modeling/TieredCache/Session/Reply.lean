import TieredCache.Disk.Store
import TieredCache.Front.TwoTier
import TieredCache.Layer.Lookup

/-! What a step yields at once, and what is reported while it runs. -/

namespace TieredCache

/-- A file of a listing; the time of access is left out for files that only serve the layer. -/
structure ListedFile where
  path : Bytes
  size : Nat
  accessed : Option FileTime

inductive Reply where
  | nothing
  | pending
  | flag (value : Bool)
  | flags (values : List Bool)
  | text (value : String)
  | time (value : Millis)
  | listing (files : List ListedFile) (directories : List Bytes)
  | content (value : Option Bytes)
  | objects (values : List (String × Bytes))
  | state (value : KeyState)
  | lookup (value : Lookup)
  | lookups (values : List Lookup)
  | memory (entries weight : Nat)
  | disk (store : DiskStore) (rootExists : Bool) (scheduled : Bool)
  | remote (pending : Nat)
  | admission (dropped lastBatch inFlight queued : Nat)
  | uses (value : Uses)
  | batchSizes (values : List Nat)
  | cleaned (result : Cleaning.Locked)
  | putResult (refusal : Option Refusal)
  | prepared (result : Except Refusal Stored)
  | outcome (value : Outcome)
  | counts (value : Counts)
  | tierCounts (first second : Counts) (own : TierCounts)
  | policy (value : Policy)

inductive Event where
  | lookup (label : String) (value : Lookup)
  | outcome (label : String) (value : Outcome)
  | consulted (consultation : Consultation)
  /-- A further step was taken. -/
  | further (label : String) (reply : Reply)

namespace Event

/-- The label of the lookup that an event belongs to. -/
def label : Event → String
  | lookup label _ | outcome label _ => label
  | consulted _ | further _ _ => ""

/-- Events in the order of their labels; those of one label keep their order. -/
def sorted (events : List Event) : List Event :=
  events.mergeSort fun left right => left.label ≤ right.label

end Event

/-- All that a step yields. -/
structure StepReport where
  reply : Reply
  events : List Event
  /-- What the object store received. -/
  requests : List String
  signals : List Signal

end TieredCache
