/-!
Milliseconds since the epoch, kept within 64 signed bits. Sums, differences and products stay in
that range by moving to its nearer end.
-/

namespace TieredCache

/-- A signed 64 bit count of milliseconds. -/
structure Millis where
  value : Int
  lower : -0x8000000000000000 ≤ value := by omega
  upper : value < 0x8000000000000000 := by omega

namespace Millis

@[ext] theorem ext {left right : Millis} (same : left.value = right.value) : left = right := by
  cases left; cases right; simp_all

instance : DecidableEq Millis := fun left right =>
  decidable_of_iff (left.value = right.value) ⟨ext, fun same => same ▸ rfl⟩

instance : LE Millis := ⟨fun left right => left.value ≤ right.value⟩
instance : LT Millis := ⟨fun left right => left.value < right.value⟩
instance (left right : Millis) : Decidable (left ≤ right) :=
  inferInstanceAs (Decidable (left.value ≤ right.value))
instance (left right : Millis) : Decidable (left < right) :=
  inferInstanceAs (Decidable (left.value < right.value))

/-- The count nearest to `number`. -/
def clamp (number : Int) : Millis where
  value := max (-0x8000000000000000) (min number 0x7FFFFFFFFFFFFFFF)

/-- The count congruent to `number` modulo 2 ^ 64. -/
def wrap (number : Int) : Millis where
  value := Int.bmod number 0x10000000000000000
  lower := by have := Int.le_bmod (x := number) (m := 0x10000000000000000) (by decide); omega
  upper := by have := Int.bmod_lt (x := number) (m := 0x10000000000000000) (by decide); omega

def ofInt? (number : Int) : Option Millis :=
  if inside : -0x8000000000000000 ≤ number ∧ number < 0x8000000000000000 then
    some ⟨number, inside.1, inside.2⟩
  else none

instance : Inhabited Millis := ⟨clamp 0⟩

instance : OfNat Millis 0 := ⟨clamp 0⟩

def least : Millis := clamp (-0x8000000000000000)

def add (left right : Millis) : Millis := clamp (left.value + right.value)

def sub (left right : Millis) : Millis := clamp (left.value - right.value)

instance : Add Millis := ⟨add⟩
instance : Sub Millis := ⟨sub⟩

/-- The whole number of seconds as milliseconds. -/
def ofSeconds (seconds : Int) : Millis := clamp (1000 * seconds)

def atLeastZero (count : Millis) : Millis := clamp (max count.value 0)

theorem add_value (left right : Millis) :
    (left + right).value =
      max (-0x8000000000000000) (min (left.value + right.value) 0x7FFFFFFFFFFFFFFF) := rfl

end Millis

end TieredCache
