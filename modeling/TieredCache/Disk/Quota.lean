import TieredCache.Disk.FileTree
import TieredCache.Settings.Basic

/-!
How much a clean pass removes. Cleaning starts at five quarters of a target and goes down to three
quarters of it; the files that have not been used for the longest time go first.
-/

namespace TieredCache

/-- A number rounded to 53 binary digits, a half going to the even neighbour. -/
def roundBinary53 (number : Nat) : Nat :=
  if number < 0x20000000000000 then number
  else
    let unit := Nat.pow 2 (number.log2 - 52)
    let whole := number / unit
    let rest := number % unit
    if 2 * rest > unit ∨ (2 * rest = unit ∧ whole % 2 = 1) then (whole + 1) * unit else whole * unit

/-- So many quarters of a target, in arithmetic with 53 binary digits, cut off to a whole number of
64 bits. -/
def quarters (count target : Nat) : Nat :=
  min (roundBinary53 (roundBinary53 target * count) / 4) 0xFFFFFFFFFFFFFFFF

/-- Below two to the fiftieth power the arithmetic is exact. -/
theorem quarters_of_lt {count target : Nat} (small : target < 0x4000000000000) (few : count ≤ 5) :
    quarters count target = target * count / 4 := by
  have product : target * count ≤ target * 5 := Nat.mul_le_mul_left _ few
  have exact : roundBinary53 target = target := by
    unfold roundBinary53; rw [if_pos (by omega)]
  have exactProduct : roundBinary53 (target * count) = target * count := by
    unfold roundBinary53; rw [if_pos (by omega)]
  unfold quarters
  rw [exact, exactProduct]
  omega

/-- A file that a clean pass may remove. -/
structure Candidate where
  accessed : FileTime
  size : Nat
  path : FilePath
  deriving DecidableEq

namespace Candidate

/-- Earlier access first, then the smaller file, then the smaller path. -/
def precedes (left right : Candidate) : Bool :=
  left.accessed < right.accessed ||
    (left.accessed = right.accessed &&
      (left.size < right.size || (left.size = right.size && left.path < right.path)))

end Candidate

/-- What a clean pass has to free. -/
structure Demand where
  bytes : Nat
  files : Nat

/-- The candidates kept so far, the latest used first, and the sum of their sizes. -/
structure Selection where
  held : List Candidate
  bytes : Nat

namespace Selection

def empty : Selection := ⟨[], 0⟩

def insertSorted (candidate : Candidate) : List Candidate → List Candidate
  | [] => [candidate]
  | first :: rest =>
      if candidate.precedes first then first :: insertSorted candidate rest
      else candidate :: first :: rest

/-- Gives up the latest used candidates that the demand can do without. -/
def trim (demand : Demand) : List Candidate → Nat → Selection
  | [], bytes => ⟨[], bytes⟩
  | latest :: rest, bytes =>
      if bytes - latest.size < demand.bytes ∨ rest.length < demand.files then
        ⟨latest :: rest, bytes⟩
      else trim demand rest (bytes - latest.size)

def offer (demand : Demand) (selection : Selection) (candidate : Candidate) : Selection :=
  trim demand (insertSorted candidate selection.held) (selection.bytes + candidate.size)

def ofFiles (demand : Demand) (files : List Candidate) : Selection :=
  files.foldl (offer demand) empty

/-- The chosen files, the one longest unused first. -/
def oldestFirst (selection : Selection) : List Candidate :=
  selection.held.reverse

end Selection

end TieredCache
