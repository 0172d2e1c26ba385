import TieredCache.Url.Basic

/-!
Percent encoding is undone by decoding. Main statements: different texts have different encodings
(`encode_inj`), and the encoding of a segment of a URL is made of dots only if the segment is
(`isDots_encode_iff`).
-/

namespace TieredCache.Url

variable {encoded : UInt8 → Bool} {segment : List Char}

/-- A set of octets whose encoding can be undone: the percent sign is in it, and so is all that does not
stand for itself in a text. -/
structure Lossless (encoded : UInt8 → Bool) : Prop where
  percent : encoded 37 = true
  beyond : ∀ octet, encoded octet = false → octet < 128

theorem lossless_inSpecialSegment : Lossless inSpecialSegment where
  percent := by decide
  beyond := Bytes.of_all_octets (by decide +kernel)

/-! ### Decoding -/

theorem decode_percentOctet (octet : UInt8) (rest : List Char) :
    decode (percentOctet octet ++ rest) = octet :: decode rest := by
  have digits : ∀ octet : UInt8, hexDigit? (upperHexChar (octet.toNat / 16)) = some (octet.toNat / 16) ∧
      hexDigit? (upperHexChar (octet.toNat % 16)) = some (octet.toNat % 16) :=
    Bytes.of_all_octets (by decide +kernel)
  obtain ⟨high, low⟩ := digits octet
  change decode ('%' :: _ :: _ :: rest) = _
  rw [decode, high, low]
  simp only [Nat.div_add_mod, UInt8.ofNat_toNat]

theorem decode_cons_of_ne {character : Char} (other : character ≠ '%') (rest : List Char) :
    decode (character :: rest) = String.utf8EncodeChar character ++ decode rest :=
  decode.eq_2 character rest fun _ _ _ same _ => other same

theorem decode_encodeOctet (lossless : Lossless encoded) (octet : UInt8) (rest : List Char) :
    decode (encodeOctet encoded octet ++ rest) = octet :: decode rest := by
  have stands : ∀ octet : UInt8, octet < 128 → octet ≠ 37 →
      Char.ofNat octet.toNat ≠ '%' ∧ String.utf8EncodeChar (Char.ofNat octet.toNat) = [octet] :=
    Bytes.of_all_octets (by decide +kernel)
  unfold encodeOctet
  split
  · exact decode_percentOctet octet rest
  · rename_i plain
    rw [Bool.not_eq_true] at plain
    have other : octet ≠ 37 := by
      rintro rfl
      rw [lossless.percent] at plain
      cases plain
    obtain ⟨letter, own⟩ := stands octet (lossless.beyond octet plain) other
    change decode (_ :: rest) = _
    rw [decode_cons_of_ne letter, own]
    rfl

theorem decode_encode (lossless : Lossless encoded) (text : List Char) :
    decode (encode encoded text) = Text.bytes (String.ofList text) := by
  rw [encode]
  induction Text.bytes (String.ofList text) with
  | nil => rfl
  | cons octet rest ih => rw [List.flatMap_cons, decode_encodeOctet lossless, ih]

theorem eq_of_decode_encode (lossless : Lossless encoded) {text plain : List Char}
    (read : decode (encode encoded text) = Text.bytes (String.ofList plain)) : text = plain :=
  String.ofList_injective (Text.bytes_inj ((decode_encode lossless text).symm.trans read))

theorem encode_inj (lossless : Lossless encoded) {left right : List Char}
    (same : encode encoded left = encode encoded right) : left = right :=
  eq_of_decode_encode lossless ((congrArg decode same).trans (decode_encode lossless right))

/-! ### Segments -/

def marks : List Char := ['/', '\\', '?', '#']

theorem not_mem_encode_of_mark {mark : Char} (ends : mark ∈ marks) (text : List Char) :
    mark ∉ encode inSpecialSegment text := by
  have clean : ∀ octet : UInt8,
      marks.all fun mark => decide (mark ∉ encodeOctet inSpecialSegment octet) :=
    Bytes.of_all_octets (by decide +kernel)
  rw [encode, List.mem_flatMap]
  rintro ⟨octet, -, member⟩
  exact of_decide_eq_true (List.all_eq_true.mp (clean octet) mark ends) member

theorem toLower_eq_e {character : Char} (lower : character.toLower = 'e') :
    character = 'e' ∨ character = 'E' := by
  rcases Text.toLower_cases character with same | ⟨-, -, shifted⟩
  · exact .inl (same.symm.trans lower)
  · rw [lower] at shifted
    have upper : character.toNat = 'E'.toNat := Nat.add_right_cancel (shifted.symm : _ = 'E'.toNat + 32)
    exact .inr (Char.toNat_inj.mp upper)

def dotForms : List (List Char) := [['.'], ['%', '2', 'e']]

/-- A dot at the start reads as one, in whatever form and letter case it stands there. -/
theorem decode_of_dot {form : List Char} (dot : form ∈ dotForms) {rest : List Char}
    (lower : segment.map Char.toLower = form ++ rest) :
    ∃ more, more.map Char.toLower = rest ∧ decode segment = 46 :: decode more := by
  rw [dotForms, List.mem_cons, List.mem_singleton] at dot
  rcases dot with rfl | rfl
  · obtain ⟨first, more, rfl, plain, lower⟩ := List.map_eq_cons_iff.mp lower
    refine ⟨more, lower, ?_⟩
    rw [(Text.toLower_eq_iff (by decide)).mp plain, decode_cons_of_ne (by decide)]
    rfl
  · obtain ⟨first, tail, rfl, percent, lower⟩ := List.map_eq_cons_iff.mp lower
    obtain ⟨second, tail, rfl, two, lower⟩ := List.map_eq_cons_iff.mp lower
    obtain ⟨third, more, rfl, letter, lower⟩ := List.map_eq_cons_iff.mp lower
    refine ⟨more, lower, ?_⟩
    rw [(Text.toLower_eq_iff (by decide)).mp percent, (Text.toLower_eq_iff (by decide)).mp two]
    rcases toLower_eq_e letter with rfl | rfl <;> rfl

theorem decode_of_isSingleDot (single : isSingleDot segment = true) : decode segment = [46] := by
  have form : ∃ form ∈ dotForms, segment.map Char.toLower = form ++ [] := by
    simp only [isSingleDot, List.any_cons, List.any_nil, Bool.or_false, Bool.or_eq_true,
      decide_eq_true_eq] at single
    rcases single with same | same
    · exact ⟨['.'], by decide, same.symm⟩
    · exact ⟨['%', '2', 'e'], by decide, same.symm⟩
  obtain ⟨form, dot, lower⟩ := form
  obtain ⟨more, none, read⟩ := decode_of_dot dot lower
  rw [read, List.map_eq_nil_iff.mp none]
  rfl

theorem decode_of_isDoubleDot (double : isDoubleDot segment = true) : decode segment = [46, 46] := by
  have forms : ∃ first ∈ dotForms, ∃ second ∈ dotForms,
      segment.map Char.toLower = first ++ (second ++ []) := by
    simp only [isDoubleDot, List.any_cons, List.any_nil, Bool.or_false, Bool.or_eq_true,
      decide_eq_true_eq] at double
    rcases double with same | same | same | same
    · exact ⟨['.'], by decide, ['.'], by decide, same.symm⟩
    · exact ⟨['%', '2', 'e'], by decide, ['.'], by decide, same.symm⟩
    · exact ⟨['.'], by decide, ['%', '2', 'e'], by decide, same.symm⟩
    · exact ⟨['%', '2', 'e'], by decide, ['%', '2', 'e'], by decide, same.symm⟩
  obtain ⟨first, dot, second, again, lower⟩ := forms
  obtain ⟨rest, lower, read⟩ := decode_of_dot dot lower
  obtain ⟨more, none, readRest⟩ := decode_of_dot again lower
  rw [read, readRest, List.map_eq_nil_iff.mp none]
  rfl

theorem isDots_encode_iff (text : List Char) :
    isDots (encode inSpecialSegment text) = true ↔ text = ['.'] ∨ text = ['.', '.'] := by
  constructor
  · intro dots
    rcases (Bool.or_eq_true _ _).mp dots with single | double
    · exact .inl (eq_of_decode_encode lossless_inSpecialSegment
        ((decode_of_isSingleDot single).trans (by decide)))
    · exact .inr (eq_of_decode_encode lossless_inSpecialSegment
        ((decode_of_isDoubleDot double).trans (by decide)))
  · rintro (rfl | rfl) <;> decide

end TieredCache.Url
