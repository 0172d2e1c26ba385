import TieredCache.Entries
import TieredCache.Layer.Lookup
import TieredCache.Signal

/-!
The fast tier: entries held in memory. An entry weighs as much as its key and value. Entries stand
for lookups as soon as they are put; whether they fit is settled when the tier is tidied. Main
statements: what a lookup finds after an entry was put or deleted, and that a tidy tier is within
its capacity.
-/

namespace TieredCache

/-- A write whose weight is not accounted for yet. -/
inductive MemoryWrite where
  | put (key : String) (weight : Nat)
  | removal (key : String)
  deriving DecidableEq

/-- Whether a write puts an entry under the key. -/
def MemoryWrite.puts (key : String) : MemoryWrite → Bool
  | put other _ => other = key
  | removal _ => false

structure MemoryStore where
  name : String
  /-- Nothing is ever kept where there is no room at all. -/
  capacity : Nat
  entries : List (String × Bytes) := []
  /-- The keys that weigh on the tier, with their weights; the one written last stands last. -/
  settled : List (String × Nat) := []
  /-- The writes since the tier was tidied, in order. -/
  writes : List MemoryWrite := []
  closed : Bool := false

namespace MemoryStore

def weight (key : String) (value : Bytes) : Nat :=
  min (key.utf8ByteSize + value.length) 0xFFFFFFFF

def get (store : MemoryStore) (key : String) : Lookup × List Signal :=
  if store.closed then (.notFound, [])
  else
    match store.entries.lookup key with
    | some value => (.found value, [.count "caches.memory.hit" store.name])
    | none => (.notFound, [.count "caches.memory.miss" store.name])

def delete (store : MemoryStore) (key : String) : MemoryStore :=
  { store with
    entries := Entries.erase store.entries key
    writes := store.writes ++ [.removal key] }

def put (store : MemoryStore) (key : String) (value : Bytes) : MemoryStore :=
  if store.closed || store.capacity = 0 then store
  else
    { store with
      entries := Entries.insert store.entries key value
      writes := store.writes ++ [.put key (weight key value)] }

/-- What was put is found until the tier is tidied or closed. -/
theorem get_put_self (store : MemoryStore) (key : String) (value : Bytes)
    (opened : store.closed = false) (room : store.capacity ≠ 0) :
    ((store.put key value).get key).1 = .found value := by
  simp [put, get, opened, room, Entries.lookup_insert_self]

theorem get_put_of_ne (store : MemoryStore) {key other : String} (value : Bytes)
    (different : other ≠ key) : (store.put key value).get other = store.get other := by
  unfold put
  split
  · rfl
  · simp only [get, Entries.lookup_insert_of_ne _ value different]

theorem get_delete_self (store : MemoryStore) (key : String) :
    ((store.delete key).get key).1 = .notFound := by
  unfold get delete
  split
  · rfl
  · simp only [Entries.lookup_erase_self]

def query (store : MemoryStore) (key : String) : KeyState :=
  if !store.closed && (store.entries.lookup key).isSome then .available else .notFound

def shutDown (store : MemoryStore) : MemoryStore := { store with closed := true }

/-! ### Tidying -/

def weigh : List (String × Nat) → Nat
  | [] => 0
  | (_, weight) :: rest => weight + weigh rest

/-- The weight of the settled entries together. -/
def totalWeight (store : MemoryStore) : Nat := weigh store.settled

/-- Accounts for writes in order. A new entry without room goes away, unless a later write already
took its place; a settled entry that is written again stays settled with its new weight. -/
def settle (store : MemoryStore) : List MemoryWrite → MemoryStore
  | [] => { store with writes := [] }
  | .removal key :: rest => settle { store with settled := Entries.erase store.settled key } rest
  | .put key weight :: rest =>
      if (store.settled.lookup key).isSome then
        settle { store with settled := Entries.erase store.settled key ++ [(key, weight)] } rest
      else if store.totalWeight + weight ≤ store.capacity then
        settle { store with settled := store.settled ++ [(key, weight)] } rest
      else if rest.any (MemoryWrite.puts key) then settle store rest
      else settle { store with entries := Entries.erase store.entries key } rest

/-- Drops entries, the one written first before the others, until the rest fit. -/
def makeRoom (store : MemoryStore) : MemoryStore :=
  dropFrom store.settled store
where
  dropFrom : List (String × Nat) → MemoryStore → MemoryStore
    | [], store => store
    | (key, weight) :: rest, store =>
        if weight + weigh rest ≤ store.capacity then store
        else dropFrom rest { store with settled := rest, entries := Entries.erase store.entries key }

/-- Settles what was written and makes room for it. -/
def tidy (store : MemoryStore) : MemoryStore := (store.settle store.writes).makeRoom

theorem dropFrom_fits (rows : List (String × Nat)) (store : MemoryStore)
    (listed : store.settled = rows) :
    (makeRoom.dropFrom rows store).totalWeight ≤ (makeRoom.dropFrom rows store).capacity := by
  induction rows generalizing store with
  | nil => simp [makeRoom.dropFrom, totalWeight, weigh, listed]
  | cons row rest ih =>
      rw [makeRoom.dropFrom]
      split
      · rename_i fits
        simpa [totalWeight, weigh, listed] using fits
      · exact ih _ rfl

/-- A tidy tier is within its capacity. -/
theorem totalWeight_tidy_le (store : MemoryStore) :
    store.tidy.totalWeight ≤ store.tidy.capacity :=
  dropFrom_fits _ _ rfl

end MemoryStore

end TieredCache
