/-!
Plain text operations: blanks, letter case, splitting and reading integers. Blank characters are
those with the Unicode property White_Space; letter case is that of ASCII letters only.
-/

namespace TieredCache.Text

/-- A character with the Unicode property White_Space. -/
def isBlank (character : Char) : Bool :=
  let code := character.toNat
  (9 ≤ code && code ≤ 13) || code = 0x20 || code = 0x85 || code = 0xA0 || code = 0x1680 ||
    (0x2000 ≤ code && code ≤ 0x200A) || code = 0x2028 || code = 0x2029 || code = 0x202F ||
    code = 0x205F || code = 0x3000

def dropEndWhile (test : Char → Bool) (text : List Char) : List Char :=
  (text.reverse.dropWhile test).reverse

def trimStart (text : List Char) : List Char :=
  text.dropWhile isBlank

def trimEnd (text : List Char) : List Char :=
  dropEndWhile isBlank text

def trim (text : List Char) : List Char :=
  trimEnd (trimStart text)

/-- Fills a text up to a width with blanks behind it. -/
def padEnd (width : Nat) (text : String) : String :=
  text ++ String.ofList (List.replicate (width - text.length) ' ')

/-- Removes every leading and trailing occurrence of one character. -/
def trimMatches (character : Char) (text : List Char) : List Char :=
  dropEndWhile (· = character) (text.dropWhile (· = character))

def lowerAscii (text : List Char) : List Char :=
  text.map Char.toLower

def equalIgnoringCase (left right : List Char) : Bool :=
  lowerAscii left = lowerAscii right

theorem toLower_cases (character : Char) : character.toLower = character ∨
    65 ≤ character.toNat ∧ character.toNat ≤ 90 ∧
      character.toLower.toNat = character.toNat + 32 := by
  unfold Char.toLower
  split
  · rename_i upper
    obtain ⟨low, high⟩ := upper
    have bound : character.val.toNat ≤ 90 := high
    have sum : (character.val + 32).toNat = character.val.toNat + 32 := by
      rw [UInt32.toNat_add]
      exact Nat.mod_eq_of_lt (Nat.lt_of_le_of_lt (Nat.add_le_add_right bound 32) (by decide))
    exact .inr ⟨low, bound, sum⟩
  · exact .inl rfl

/-- Marks and digits have no case. -/
theorem toLower_eq_iff {mark : Char} (low : mark.toNat < 65) {character : Char} :
    character.toLower = mark ↔ character = mark := by
  rcases toLower_cases character with same | ⟨upper, -, lower⟩
  · rw [same]
  · constructor
    · rintro rfl
      omega
    · rintro rfl
      omega

theorem isBlank_toLower (character : Char) : isBlank character.toLower = isBlank character := by
  rcases toLower_cases character with same | ⟨low, high, lower⟩
  · rw [same]
  · rw [Bool.eq_iff_iff]
    simp only [isBlank, lower, Bool.or_eq_true, Bool.and_eq_true, decide_eq_true_eq]
    omega

theorem toLower_toLower (character : Char) : character.toLower.toLower = character.toLower := by
  rcases toLower_cases character.toLower with same | ⟨low, high, -⟩
  · exact same
  · rcases toLower_cases character with same | ⟨upper, -, lower⟩
    · rw [same, same]
    · omega

theorem lowerAscii_lowerAscii (text : List Char) : lowerAscii (lowerAscii text) = lowerAscii text := by
  rw [lowerAscii, lowerAscii, List.map_map]
  exact List.map_congr_left fun character _ => toLower_toLower character

/-- The pieces between occurrences of `separator`; there is always at least one. -/
def splitAt (separator : Char) : List Char → List (List Char)
  | [] => [[]]
  | character :: rest =>
      if character = separator then [] :: splitAt separator rest
      else
        match splitAt separator rest with
        | [] => [[character]]
        | piece :: pieces => (character :: piece) :: pieces

/-- The text before and after the first occurrence of `separator`. -/
def splitOnce (separator : Char) : List Char → Option (List Char × List Char)
  | [] => none
  | character :: rest =>
      if character = separator then some ([], rest)
      else (splitOnce separator rest).map fun (before, after) => (character :: before, after)

theorem splitAt_ne_nil (separator : Char) (text : List Char) : splitAt separator text ≠ [] := by
  cases text with
  | nil => simp [splitAt]
  | cons character rest =>
      rw [splitAt]
      split
      · simp
      · split <;> simp

def decimalDigit? (character : Char) : Option Nat :=
  if '0' ≤ character ∧ character ≤ '9' then some (character.toNat - 48) else none

/-- The number written by a non-empty row of decimal digits. -/
def decimal? (text : List Char) : Option Nat :=
  if text.isEmpty then none
  else text.foldlM (fun value character => (decimalDigit? character).map (10 * value + ·)) 0

/-- Reads a natural number with an optional plus sign. -/
def natural? : List Char → Option Nat
  | '+' :: digits => decimal? digits
  | digits => decimal? digits

/-- Reads an integer with an optional sign. -/
def integer? : List Char → Option Int
  | '-' :: digits => (decimal? digits).map fun magnitude => -(magnitude : Int)
  | digits => (natural? digits).map fun magnitude => (magnitude : Int)

/-- Reads a natural number that fits in 64 bits. -/
def word64? (text : List Char) : Option Nat :=
  (natural? text).filter (· < 0x10000000000000000)

end TieredCache.Text
