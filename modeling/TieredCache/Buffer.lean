import TieredCache.Bytes

/-!
Shared buffers: handles that name one block of octets together. A block may be changed only through
its last handle. Handles live in named slots, and filling a slot gives up what it held.
-/

namespace TieredCache

/-- Blocks that are in use, and the slots that hold a handle on one of them. -/
structure BufferSlots where
  blocks : List (Nat × Bytes) := []
  handles : List (String × Nat) := []
  fresh : Nat := 0

namespace BufferSlots

def handle? (slots : BufferSlots) (slot : String) : Option Nat :=
  slots.handles.lookup slot

def content (slots : BufferSlots) (block : Nat) : Bytes :=
  (slots.blocks.lookup block).getD []

/-- The number of handles on a block. -/
def sharers (slots : BufferSlots) (block : Nat) : Nat :=
  slots.handles.countP (·.2 = block)

/-- Empties a slot; a block without handles goes away. -/
def release (slots : BufferSlots) (slot : String) : BufferSlots :=
  let handles := slots.handles.filter (·.1 ≠ slot)
  { slots with handles, blocks := slots.blocks.filter fun (block, _) => handles.any (·.2 = block) }

/-- Fills a slot with the only handle on a new block. -/
def create (slots : BufferSlots) (slot : String) (bytes : Bytes) : BufferSlots :=
  let emptied := slots.release slot
  { blocks := (slots.fresh, bytes) :: emptied.blocks
    handles := (slot, slots.fresh) :: emptied.handles
    fresh := slots.fresh + 1 }

/-- Fills a slot with one more handle on a block in use. -/
def share (slots : BufferSlots) (slot : String) (block : Nat) : BufferSlots :=
  let bytes := slots.content block
  let emptied := slots.release slot
  { emptied with
    handles := (slot, block) :: emptied.handles
    blocks := (block, bytes) :: emptied.blocks.filter (·.1 ≠ block) }

/-- Appends to a block through its only handle, or refuses. -/
def append? (slots : BufferSlots) (block : Nat) (bytes : Bytes) : Option BufferSlots :=
  if slots.sharers block = 1 then
    some { slots with
      blocks := slots.blocks.map fun (other, held) =>
        if other = block then (other, held ++ bytes) else (other, held) }
  else none

def describe (slots : BufferSlots) (block : Nat) : String :=
  let length := (slots.content block).length
  let refs := slots.sharers block
  "SharedBuffer \x7b len: " ++ toString length ++ ", refs: " ++ toString refs ++ " \x7d"

end BufferSlots

end TieredCache
