import TieredCache.Proofs.Key.Names

/-!
Different keys have different paths. An escaped key is read back octet by octet; the path of a
digested key begins with a mark that no escaped key begins with.
-/

namespace TieredCache.Key
open FilePath

/-! ### Escaped keys -/

private def Behind (text : Bytes) : Prop := ∀ octet rest, text = octet :: rest → octet = slash

private theorem octetForm_not_behind {first : Bool} {octet : UInt8} {text rest : Bytes}
    (behind : Behind text) : text ≠ octetForm first octet ++ rest := by
  intro same
  obtain ⟨start, further, form⟩ := List.exists_cons_of_ne_nil (octetForm_shape first octet).1
  have clean := (octetForm_clean first octet).2.1
  rw [form] at clean same
  exact clean (behind start _ same ▸ List.mem_cons_self)

private theorem octetForm_not_continuation {first : Bool} {octet : UInt8} {rest beyond : Bytes} :
    octetForm first octet ++ rest ≠ continuation ++ beyond := by
  intro same
  rcases octetForm_cases first octet with ⟨plain, form⟩ | ⟨upper, lower, form, -⟩
  · rw [form] at same
    exact plain (List.cons.inj same).1
  · have other := (octetForm_shape first octet).2.2.2
    rw [form] at same other
    have second : upper = hyphen := (List.cons.inj (List.cons.inj same).2).1
    exact other (by rw [second]; rfl)

/-- The rest of a segment is found again, together with what stands behind it. -/
private theorem escapeFrom_inj {first : Bool} {written : Nat} {left right behind beyond : Bytes}
    (ends : Behind behind) (stops : Behind beyond)
    (same : escapeFrom first written left ++ behind = escapeFrom first written right ++ beyond) :
    left = right ∧ behind = beyond := by
  induction left generalizing first written right with
  | nil =>
      cases right with
      | nil => exact ⟨rfl, same⟩
      | cons octet rest =>
          exfalso
          rw [escapeFrom, escapeFrom, List.nil_append] at same
          split at same
          · rw [List.append_assoc, List.append_assoc] at same
            exact absurd (ends comma _ same) (by decide)
          · rw [List.append_assoc] at same
            exact octetForm_not_behind ends same
  | cons octet rest ih =>
      cases right with
      | nil =>
          exfalso
          rw [escapeFrom, escapeFrom, List.nil_append] at same
          split at same
          · rw [List.append_assoc, List.append_assoc] at same
            exact absurd (stops comma _ same.symm) (by decide)
          · rw [List.append_assoc] at same
            exact octetForm_not_behind stops same.symm
      | cons other further =>
          rw [escapeFrom, escapeFrom] at same
          split at same <;> split at same
          · simp only [List.append_assoc, List.append_cancel_left_eq] at same
            obtain ⟨rfl, later⟩ := octetForm_inj same
            obtain ⟨rfl, rfl⟩ := ih later
            exact ⟨rfl, rfl⟩
          · simp only [List.append_assoc] at same
            exact absurd same.symm octetForm_not_continuation
          · simp only [List.append_assoc] at same
            exact absurd same octetForm_not_continuation
          · simp only [List.append_assoc] at same
            obtain ⟨rfl, later⟩ := octetForm_inj same
            obtain ⟨rfl, rfl⟩ := ih later
            exact ⟨rfl, rfl⟩

/-- An empty segment is not taken for another: a form has more than a comma in it. -/
private theorem escapeSegment_ne_comma {octet : UInt8} {rest behind beyond : Bytes}
    (ends : Behind behind) : [comma] ++ behind ≠ escapeSegment (octet :: rest) ++ beyond := by
  intro same
  obtain ⟨-, short, -, -⟩ := octetForm_shape true octet
  have limit : segmentLimit = 128 := rfl
  rw [escapeSegment, List.isEmpty_cons, if_neg Bool.false_ne_true, escapeFrom, if_neg (by omega),
    List.append_assoc] at same
  rcases octetForm_cases true octet with ⟨plain, form⟩ | ⟨upper, lower, form, -⟩
  · rw [form] at same
    exact plain (List.cons.inj same).1.symm
  · have clean := (octetForm_clean true octet).2.1
    rw [form] at same clean
    have second := ends upper _ (List.cons.inj same).2
    rw [second] at clean
    exact clean (by simp)

private theorem escapeSegment_inj {left right behind beyond : Bytes} (ends : Behind behind)
    (stops : Behind beyond) (same : escapeSegment left ++ behind = escapeSegment right ++ beyond) :
    left = right ∧ behind = beyond := by
  cases left with
  | nil =>
      cases right with
      | nil => exact ⟨rfl, List.append_cancel_left same⟩
      | cons octet rest => exact absurd same (escapeSegment_ne_comma ends)
  | cons octet rest =>
      cases right with
      | nil => exact absurd same.symm (escapeSegment_ne_comma stops)
      | cons other further => exact escapeFrom_inj ends stops same

private theorem escapeSegments_inj {left right : List Bytes} (filled : left ≠ []) (other : right ≠ [])
    (same : [slash].intercalate (left.map escapeSegment) =
      [slash].intercalate (right.map escapeSegment)) : left = right := by
  have spread : ∀ (segment : Bytes) (further : List Bytes), ∃ behind, Behind behind ∧
      [slash].intercalate ((segment :: further).map escapeSegment) = escapeSegment segment ++ behind ∧
        (further = [] ∧ behind = [] ∨ further ≠ [] ∧
          behind = slash :: [slash].intercalate (further.map escapeSegment)) := by
    intro segment further
    cases further with
    | nil => exact ⟨[], by simp [Behind], by simp [List.intercalate], .inl ⟨rfl, rfl⟩⟩
    | cons next later =>
        refine ⟨slash :: [slash].intercalate ((next :: later).map escapeSegment), ?_, ?_,
          .inr ⟨List.cons_ne_nil _ _, rfl⟩⟩
        · intro octet rest split
          exact (List.cons.inj split).1.symm
        · rw [List.map_cons, List.map_cons, List.intercalate_cons_cons, List.append_assoc]
          rfl
  induction left generalizing right with
  | nil => exact absurd rfl filled
  | cons segment further ih =>
      cases right with
      | nil => exact absurd rfl other
      | cons next later =>
          obtain ⟨behind, ends, split, rest⟩ := spread segment further
          obtain ⟨beyond, stops, parts, tail⟩ := spread next later
          rw [split, parts] at same
          obtain ⟨rfl, rfl⟩ := escapeSegment_inj ends stops same
          rcases rest with ⟨rfl, empty⟩ | ⟨some_, whole⟩ <;>
            rcases tail with ⟨rfl, nothing⟩ | ⟨more, longer⟩
          · rfl
          · rw [empty] at longer
            cases longer
          · rw [nothing] at whole
            cases whole
          · rw [whole] at longer
            rw [ih some_ more (List.cons.inj longer).2]

theorem escapeBytes_inj {left right : Bytes} (same : escapeBytes left = escapeBytes right) :
    left = right := by
  have joined := List.append_cancel_right same
  have parts := escapeSegments_inj (names_ne_nil left) (names_ne_nil right) joined
  rw [← intercalate_names left, parts, intercalate_names]

/-! ### Digested keys -/

private theorem hexDigit_inj : ∀ left < 16, ∀ right < 16,
    Bytes.hexDigit left = Bytes.hexDigit right → left = right := by
  decide +kernel

theorem hexChars_inj {left right : Bytes} (same : Bytes.hexChars left = Bytes.hexChars right) :
    left = right := by
  induction left generalizing right with
  | nil =>
      cases right with
      | nil => rfl
      | cons octet rest => cases same
  | cons octet rest ih =>
      cases right with
      | nil => cases same
      | cons other further =>
          have octets := octet.toNat_lt
          have others := other.toNat_lt
          obtain ⟨upper, later⟩ := List.cons.inj same
          obtain ⟨lower, tail⟩ := List.cons.inj later
          have high := hexDigit_inj _ (by omega) _ (by omega) upper
          have low := hexDigit_inj _ (by omega) _ (by omega) lower
          have equal : octet = other := UInt8.toNat_inj.mp (by omega)
          rw [equal, ih tail]

theorem hashedName_inj {left right : String} (same : hashedName left = hashedName right) :
    Digest.sha256 (Text.bytes left) = Digest.sha256 (Text.bytes right) :=
  hexChars_inj (String.ofList_injective (Text.bytes_inj (List.append_cancel_left same)))

private theorem utf8EncodeChar_hexDigit : ∀ digit < 16, ∃ octet : UInt8,
    String.utf8EncodeChar (Bytes.hexDigit digit) = [octet] ∧ octet ≠ 0 ∧ octet ≠ slash := by
  have all : ∀ digit < 16, ∃ octet ∈ String.utf8EncodeChar (Bytes.hexDigit digit),
      String.utf8EncodeChar (Bytes.hexDigit digit) = [octet] ∧ octet ≠ 0 ∧ octet ≠ slash := by
    decide +kernel
  intro digit small
  obtain ⟨octet, -, form⟩ := all digit small
  exact ⟨octet, form⟩

/-- The text of a digest has two octets for each of the digest, and none that a path gives a
meaning. -/
private theorem bytes_hex (digest : Bytes) : (Text.bytes (Bytes.hex digest)).length =
      2 * digest.length ∧ 0 ∉ Text.bytes (Bytes.hex digest) ∧ slash ∉ Text.bytes (Bytes.hex digest) := by
  rw [Bytes.hex, Text.bytes_ofList]
  induction digest with
  | nil => exact ⟨rfl, List.not_mem_nil, List.not_mem_nil⟩
  | cons octet rest ih =>
      have octets := octet.toNat_lt
      obtain ⟨length, zeros, slashes⟩ := ih
      obtain ⟨upper, high, filled, named⟩ := utf8EncodeChar_hexDigit (octet.toNat / 16) (by omega)
      obtain ⟨lower, low, solid, calm⟩ := utf8EncodeChar_hexDigit (octet.toNat % 16) (by omega)
      have whole : (Bytes.hexChars (octet :: rest)).flatMap String.utf8EncodeChar =
          upper :: lower :: (Bytes.hexChars rest).flatMap String.utf8EncodeChar := by
        change List.flatMap _ (_ :: _ :: Bytes.hexChars rest) = _
        rw [List.flatMap_cons, List.flatMap_cons, high, low]
        rfl
      rw [whole]
      refine ⟨by simp only [List.length_cons]; omega, ?_, ?_⟩
      · simp [filled.symm, solid.symm, zeros]
      · simp [named.symm, calm.symm, slashes]

private theorem length_sha256 (message : Bytes) : (Digest.sha256 message).length = 32 := by
  simp [Digest.sha256, Digest.State.words, Digest.bytesOfWord]

private theorem hashedName_start (key : String) : ∃ rest, hashedName key = 33 :: rest :=
  ⟨_, rfl⟩

theorem filed_hashedName (key : String) : Filed (hashedName key) [] (hashedName key) := by
  obtain ⟨length, zeros, slashes⟩ := bytes_hex (Digest.sha256 (Text.bytes key))
  have mark : hashedMark.length = 8 ∧ 0 ∉ hashedMark ∧ slash ∉ hashedMark := by decide +kernel
  have plain : FilePath.slash ∉ hashedName key := by
    rw [hashedName, List.mem_append, not_or]
    exact ⟨mark.2.2, slashes⟩
  have file : isFileName (hashedName key) = true := by
    obtain ⟨rest, start⟩ := hashedName_start key
    rw [start]
    rfl
  refine ⟨⟨[], names_of_no_slash plain⟩, ?_, ?_, grounded_nil, by simp, file, ?_, ?_, ?_⟩
  · intro name member
    rw [names_of_no_slash plain] at member
    rw [List.mem_singleton.mp member]
    exact List.cons_ne_nil _ _
  · rw [leading_of_no_slash plain, if_pos (leads_of_isFileName file)]
    rfl
  · intro name member
    have bound : FileTree.nameBound = 255 := rfl
    rw [List.mem_singleton.mp (show name ∈ [hashedName key] from member), hashedName,
      List.length_append, mark.1, length, length_sha256]
    omega
  · obtain ⟨rest, start⟩ := hashedName_start key
    rw [start]
    rfl
  · rw [hashedName, List.mem_append, not_or]
    exact ⟨mark.2.1, zeros⟩

/-! ### All keys -/

theorem filed_relativePath (root : Bytes) (key : String) :
    ∃ folders leaf, Filed (relativePath root key) folders leaf := by
  rw [relativePath]
  split
  · exact filed_escapeBytes _
  · exact ⟨_, _, filed_hashedName key⟩

private theorem escape_ne_hashedName (key other : String) : escape key ≠ hashedName other := by
  obtain ⟨rest, start⟩ := hashedName_start other
  intro same
  have inside : (33 : UInt8) ∈ escape key := by
    rw [same, start]
    exact List.mem_cons_self
  exact (clean_escapeBytes _).2 inside

/-- No key has the file of a marker. -/
theorem Filed.not_marker {root : Bytes} {key : String} {folders : List Name} {leaf : Name}
    (filed : Filed (relativePath root key) folders leaf) :
    leaf ≠ cleanTimeName ∧ leaf ≠ cleanLockName := by
  have own : leaf ∈ leading (relativePath root key) := by
    rw [filed.split]
    exact List.mem_append_right _ (List.mem_singleton_self leaf)
  rw [relativePath] at own
  split at own
  · have clean : (33 : UInt8) ∉ leaf := fun inside =>
      (clean_escapeBytes _).2 (mem_of_mem_names (List.mem_filter.mp own).1 inside)
    have marks : (33 : UInt8) ∈ cleanTimeName ∧ (33 : UInt8) ∈ cleanLockName := by decide +kernel
    constructor
    · rintro rfl
      exact clean marks.1
    · rintro rfl
      exact clean marks.2
  · rw [(filed_hashedName key).split] at own
    have same : leaf = hashedName key := List.mem_singleton.mp own
    have start : (hashedName key).take 2 = hashedMark.take 2 :=
      List.take_append_of_le_length (by decide +kernel)
    rw [← same] at start
    constructor
    · rintro rfl
      exact absurd start (by decide +kernel)
    · rintro rfl
      exact absurd start (by decide +kernel)

/-- Two keys share a path only if they share a digest. -/
theorem relativePath_inj {root : Bytes} {left right : String}
    (apart : Digest.sha256 (Text.bytes left) = Digest.sha256 (Text.bytes right) → left = right)
    (same : relativePath root left = relativePath root right) : left = right := by
  rw [relativePath, relativePath] at same
  split at same <;> split at same
  · exact Text.bytes_inj (escapeBytes_inj same)
  · exact absurd same (escape_ne_hashedName left right)
  · exact absurd same.symm (escape_ne_hashedName right left)
  · exact apart (hashedName_inj same)

end TieredCache.Key
