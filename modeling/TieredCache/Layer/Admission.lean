import TieredCache.Layer.Lookup
import TieredCache.Settings.Basic
import TieredCache.Signal

/-!
Admission control in front of a slow layer. A bounded number of lookups is outstanding at any time.
Lookups beyond that wait in a queue, and when an outstanding lookup completes the whole queue goes
out as one batch, which takes over the place of that lookup until its last member is done. When
the queue is full, lookups are dropped.
-/

namespace TieredCache

/-- A batch that is out, and how many of its members are not yet done. -/
structure Batch where
  number : Nat
  unfinished : Nat
  deriving DecidableEq

structure Admission (ρ : Type) where
  settings : AdmissionSettings
  queue : List (Request ρ) := []
  /-- Places taken by single lookups and by batches. -/
  inFlight : Nat := 0
  batches : List Batch := []
  freshBatch : Nat := 0
  closed : Bool := false
  dropped : Nat := 0
  lastBatch : Nat := 0

/-- What becomes of a lookup that arrives. -/
inductive Arrival where
  | refused | issued | queued | dropped
  deriving DecidableEq

namespace Admission

variable {ρ : Type}

/-- At least one lookup may be outstanding. -/
def limit (admission : Admission ρ) : Nat := max admission.settings.maximumParallel 1

def arrive (admission : Admission ρ) (request : Request ρ) : Admission ρ × Arrival :=
  if admission.closed then (admission, .refused)
  else if admission.inFlight < admission.limit then
    ({ admission with inFlight := admission.inFlight + 1 }, .issued)
  else if admission.queue.length < admission.settings.maximumQueue then
    ({ admission with queue := admission.queue ++ [request] }, .queued)
  else ({ admission with dropped := admission.dropped + 1 }, .dropped)

/-- The members of a batch that goes out, and its number. -/
structure Flush (ρ : Type) where
  batch : Nat
  requests : List (Request ρ)

/-- A place becomes free: the queue takes it over as one batch, if it holds anything. -/
def finish (admission : Admission ρ) : Admission ρ × Option (Flush ρ) :=
  if admission.queue.isEmpty then ({ admission with inFlight := admission.inFlight - 1 }, none)
  else
    let size := admission.queue.length
    ({ admission with
        queue := []
        lastBatch := size
        batches := ⟨admission.freshBatch, size⟩ :: admission.batches
        freshBatch := admission.freshBatch + 1 },
      some ⟨admission.freshBatch, admission.queue⟩)

/-- Counts a member that is done; whether it was the last one of its batch. -/
def memberDone (admission : Admission ρ) (number : Nat) : Admission ρ × Bool :=
  match admission.batches.find? (·.number = number) with
  | none => (admission, false)
  | some batch =>
      let others := admission.batches.filter (·.number ≠ number)
      if batch.unfinished ≤ 1 then ({ admission with batches := others }, true)
      else ({ admission with batches := ⟨number, batch.unfinished - 1⟩ :: others }, false)

/-- Takes no more lookups; those in the queue are given back. -/
def close (admission : Admission ρ) : Admission ρ × List (Request ρ) :=
  ({ admission with closed := true, queue := [] }, admission.queue)

def droppedSignal : Signal := .metric (.count "caches.batcher.dropped" 1 [])

def batchSignal (flush : Flush ρ) : Signal :=
  .metric ⟨"caches.batcher.batch_size", .timer, some flush.requests.length, []⟩

def name (admission : Admission ρ) (inner : String) : String :=
  "Batcher(cache=" ++ inner ++ ",parallelism=" ++ toString admission.limit ++ ",max=" ++
    toString admission.settings.maximumQueue ++ ")"

end Admission

end TieredCache
