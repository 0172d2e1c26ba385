import TieredCache.Proofs.Key.Distinct

/-!
What the names in the path of an escaped key look like. Main statement: `names_undotted_iff`. They are
short and of harmless octets, and they lead below the root; but a dot begins one of them exactly if it
stands behind octets of its segment that fill a name.
-/

namespace TieredCache.Key
open FilePath

def isNameOctet (octet : UInt8) : Bool :=
  isAlphanumeric octet || octet = 95 || octet = dot || octet = comma || octet = hyphen

/-- Octets of a segment behind which a further octet begins a name: escaped by themselves they end in
a name that has no room left. -/
def Full (front : Bytes) : Prop :=
  ∃ before last, names (escapeSegment front) = before ++ [last] ∧ last.length = segmentLimit

/-- No dot of a key begins a name. -/
def Sheltered (key : String) : Prop :=
  ∀ segment ∈ names (Text.bytes key), ∀ front back, segment = front ++ dot :: back → ¬Full front

/-! ### Room in a name -/

/-- How many octets of the present name are in use after some octets. -/
def fill (first : Bool) (written : Nat) : Bytes → Nat
  | [] => written
  | octet :: rest =>
      let length := (octetForm first octet).length
      fill false (if written + length > segmentLimit then length else written + length) rest

theorem length_octetForm_pos (first : Bool) (octet : UInt8) : 0 < (octetForm first octet).length :=
  List.length_pos_iff.mpr (octetForm_shape first octet).1

theorem names_escapeFrom_fill (first : Bool) (written : Nat) (segment : Bytes) : ∃ before last,
    names (escapeFrom first written segment) = before ++ [last] ∧
      fill first written segment = (if before = [] then written else 0) + last.length := by
  induction segment generalizing first written with
  | nil => exact ⟨[], [], rfl, rfl⟩
  | cons octet rest ih =>
      rw [names_escapeFrom_cons, fill]
      split
      · obtain ⟨before, last, split, filled⟩ := ih false (octetForm first octet).length
        rw [split, filled]
        cases before with
        | nil => exact ⟨[[comma, hyphen]], _, rfl, by simp⟩
        | cons name further =>
            exact ⟨[comma, hyphen] :: (octetForm first octet ++ name) :: further, last, rfl, by simp⟩
      · obtain ⟨before, last, split, filled⟩ := ih false (written + (octetForm first octet).length)
        rw [split, filled]
        cases before with
        | nil => exact ⟨[], _, rfl, by simp [Nat.add_assoc]⟩
        | cons name further => exact ⟨(octetForm first octet ++ name) :: further, last, rfl, by simp⟩

theorem full_iff (front : Bytes) : Full front ↔ fill true 0 front = segmentLimit := by
  cases front with
  | nil =>
      refine ⟨?_, fun none => absurd none (by decide)⟩
      rintro ⟨before, last, split, long⟩
      have single : [[comma]] = before ++ [last] := split
      rw [List.singleton_eq_append_iff] at single
      rcases single with ⟨-, same⟩ | ⟨-, same⟩
      · rw [(List.cons.inj same).1] at long
        exact absurd long (by decide)
      · cases same
  | cons octet rest =>
      obtain ⟨before, last, split, filled⟩ := names_escapeFrom_fill true 0 (octet :: rest)
      rw [filled, ite_self, Nat.zero_add]
      constructor
      · rintro ⟨others, final, whole, long⟩
        have same : before ++ [last] = others ++ [final] := split.symm.trans whole
        rwa [(List.append_singleton_inj.mp same).2]
      · exact fun long => ⟨before, last, split, long⟩

/-! ### Dots that begin a name -/

def Dotted (path : List Name) : Prop := ∃ name ∈ path, name.head? = some dot

theorem dotted_cons (name : Name) (path : List Name) :
    Dotted (name :: path) ↔ name.head? = some dot ∨ Dotted path := by
  simp [Dotted]

theorem dotted_append (front back : List Name) :
    Dotted (front ++ back) ↔ Dotted front ∨ Dotted back := by
  simp [Dotted, or_and_right, exists_or]

theorem head?_append_of_filled {front : Name} (filled : front ≠ []) (back : Name) :
    (front ++ back).head? = front.head? := by
  rw [List.head?_append, List.head?_eq_some_head filled, Option.some_or]

/-- A form begins with a dot only if it stands for one. -/
theorem head_octetForm_iff : ∀ octet : UInt8,
    (octetForm false octet).head? = some dot ↔ octet = dot :=
  Bytes.of_all_octets (by decide +kernel)

def Exposed (first : Bool) (written : Nat) (segment : Bytes) : Prop :=
  ∃ front back, segment = front ++ dot :: back ∧ fill first written front = segmentLimit

theorem exposed_cons (first : Bool) (written : Nat) (octet : UInt8) (rest : Bytes) :
    Exposed first written (octet :: rest) ↔ octet = dot ∧ written = segmentLimit ∨
      Exposed false (if written + (octetForm first octet).length > segmentLimit then
        (octetForm first octet).length else written + (octetForm first octet).length) rest := by
  constructor
  · rintro ⟨front, back, split, full⟩
    cases front with
    | nil => exact .inl ⟨(List.cons.inj split).1, full⟩
    | cons other further =>
        obtain ⟨rfl, same⟩ := List.cons.inj split
        exact .inr ⟨further, back, same, full⟩
  · rintro (⟨rfl, full⟩ | ⟨front, back, rfl, full⟩)
    · exact ⟨[], rest, rfl, full⟩
    · exact ⟨octet :: front, back, rfl, full⟩

/-- Of the names that a segment goes on in, one begins with a dot exactly if that dot stands behind
octets that fill the name before. -/
theorem dotted_tail_escapeFrom {written : Nat} (room : written ≤ segmentLimit) (segment : Bytes) :
    Dotted (names (escapeFrom false written segment)).tail ↔ Exposed false written segment := by
  induction segment generalizing written with
  | nil => simp [escapeFrom, names, Dotted, Exposed]
  | cons octet rest ih =>
      have limit : segmentLimit = 128 := rfl
      obtain ⟨filled, short, -, -⟩ := octetForm_shape false octet
      have long := length_octetForm_pos false octet
      rw [exposed_cons, names_escapeFrom_cons]
      split
      · rename_i overflow
        obtain ⟨name, further, split⟩ := List.exists_cons_of_ne_nil
          (names_ne_nil (escapeFrom false (octetForm false octet).length rest))
        have later := @ih (octetForm false octet).length (by omega)
        rw [split] at later ⊢
        have exact_fit : octet = dot → written = segmentLimit := by
          rintro rfl
          have single : (octetForm false dot).length = 1 := by decide
          omega
        change Dotted ((octetForm false octet ++ name) :: further) ↔ _
        rw [dotted_cons, head?_append_of_filled filled, head_octetForm_iff, ← later,
          and_iff_left_of_imp exact_fit]
        rfl
      · obtain ⟨name, further, split⟩ := List.exists_cons_of_ne_nil
          (names_ne_nil (escapeFrom false (written + (octetForm false octet).length) rest))
        have later := @ih (written + (octetForm false octet).length) (by omega)
        rw [split] at later ⊢
        have loose : ¬(octet = dot ∧ written = segmentLimit) := by omega
        rw [or_iff_right loose]
        exact later

theorem dotted_escapeSegment (segment : Bytes) : Dotted (names (escapeSegment segment)) ↔
    ∃ front back, segment = front ++ dot :: back ∧ Full front := by
  simp only [full_iff]
  change _ ↔ Exposed true 0 segment
  cases segment with
  | nil =>
      have undotted : ¬Dotted [[comma]] := by simp [Dotted, comma, dot]
      refine ⟨fun dotted => absurd dotted undotted, ?_⟩
      rintro ⟨front, back, split, -⟩
      simp at split
  | cons octet rest =>
      have limit : segmentLimit = 128 := rfl
      obtain ⟨filled, short, -, -⟩ := octetForm_shape true octet
      have fits : ¬0 + (octetForm true octet).length > segmentLimit := by omega
      obtain ⟨name, further, split⟩ := List.exists_cons_of_ne_nil
        (names_ne_nil (escapeFrom false (0 + (octetForm true octet).length) rest))
      have later := @dotted_tail_escapeFrom (0 + (octetForm true octet).length) (by omega) rest
      rw [exposed_cons, if_neg fits, ← later, split]
      change Dotted (names (escapeFrom true 0 (octet :: rest))) ↔ _
      rw [names_escapeFrom_cons, if_neg fits, split]
      change Dotted ((octetForm true octet ++ name) :: further) ↔ _
      rw [dotted_cons, head?_append_of_filled filled, or_iff_right (octetForm_start octet),
        or_iff_right (by omega)]
      rfl

/-- A comma behind a name does not change how it begins. -/
theorem dotted_escapeBytes (key : Bytes) : Dotted (names (escapeBytes key)) ↔
    ∃ segment ∈ names key, Dotted (names (escapeSegment segment)) := by
  obtain ⟨front, final, inner, last, parts, split, -, whole⟩ := names_escapeBytes key
  have filled : last ≠ [] := @filled_of_mem_names final last (by simp [split])
  have closed : Dotted [last ++ [comma]] ↔ Dotted [last] := by
    simp [Dotted, head?_append_of_filled filled]
  have early : Dotted (front.flatMap (names ∘ escapeSegment)) ↔
      ∃ segment ∈ front, Dotted (names (escapeSegment segment)) := by
    simp only [Dotted, List.mem_flatMap, Function.comp_apply]
    constructor
    · rintro ⟨name, ⟨segment, inside, member⟩, start⟩
      exact ⟨segment, inside, name, member, start⟩
    · rintro ⟨segment, inside, name, member, start⟩
      exact ⟨name, ⟨segment, inside, member⟩, start⟩
  rw [whole, dotted_append, dotted_append, closed, early, or_assoc, ← dotted_append, ← split, parts]
  simp [or_and_right, exists_or]

/-- A key is sheltered exactly if none of its names begins with a dot. -/
theorem sheltered_iff (key : String) :
    Sheltered key ↔ ∀ name ∈ names (escape key), name.head? ≠ some dot := by
  have undotted : (∀ name ∈ names (escape key), name.head? ≠ some dot) ↔
      ¬Dotted (names (escape key)) := by
    simp [Dotted]
  rw [undotted, escape, dotted_escapeBytes]
  simp only [dotted_escapeSegment, Sheltered]
  constructor
  · rintro sheltered ⟨segment, member, front, back, split, full⟩
    exact sheltered segment member front back split full
  · exact fun none segment member front back split full => none ⟨segment, member, front, back, split, full⟩

/-! ### All names -/

theorem octetForm_named (first : Bool) (octet : UInt8) :
    ∀ part ∈ octetForm first octet, isNameOctet part = true := by
  have all : ∀ octet : UInt8, (octetForm first octet).all isNameOctet = true := by
    cases first
    · exact Bytes.of_all_octets (by decide +kernel)
    · exact Bytes.of_all_octets (by decide +kernel)
  exact List.all_eq_true.mp (all octet)

theorem named_of_mem_names {key : Bytes} {name : Name} (member : name ∈ names (escapeBytes key)) :
    ∀ octet ∈ name, isNameOctet octet = true := by
  intro octet inside
  have kinds := @forall_mem_escapeBytes (fun part => isNameOctet part = true ∨ part = FilePath.slash)
    (fun first octet part member => .inl (octetForm_named first octet part member))
    (forall_mem_continuation.mpr (by decide)) key octet (mem_of_mem_names member inside)
  refine kinds.resolve_right ?_
  rintro rfl
  exact not_slash_of_mem_names member inside

theorem length_le_of_mem_names {key : Bytes} {name : Name} (member : name ∈ names (escapeBytes key)) :
    name.length ≤ 131 := by
  obtain ⟨front, final, inner, last, -, split, -, whole⟩ := names_escapeBytes key
  have limit : segmentLimit = 128 := rfl
  rw [whole, List.mem_append, List.mem_singleton, List.mem_append] at member
  rcases member with (early | inside) | rfl
  · obtain ⟨segment, -, own⟩ := List.mem_flatMap.mp early
    have short := length_names_escapeSegment segment name own
    omega
  · have short := length_names_escapeSegment final name (by simp [split, inside])
    omega
  · have short := length_names_escapeSegment final last (by simp [split])
    rw [List.length_append, List.length_singleton]
    omega

theorem follow_leading_escapeBytes (key : Bytes) (place : FilePath) :
    ∃ below, below ≠ [] ∧ follow place (leading (escapeBytes key)) = place ++ below := by
  obtain ⟨folders, leaf, filed⟩ := filed_escapeBytes key
  obtain ⟨further, forward⟩ := (filed.grounded place).1
  refine ⟨further ++ [leaf], by simp, ?_⟩
  rw [filed.split, follow_concat _ _ (ne_up_of_isFileName filed.file), forward, List.append_assoc]

/-- The names in the path of a key are not empty, have none but harmless octets and at most 131 of
them, and lead to a place below the root. None of them begins with a dot, and so none of them is a
relative step, exactly if the key has no dot behind octets of a segment that fill a name. -/
theorem names_undotted_iff (key : String) :
    (∀ name ∈ names (escape key), name ≠ [] ∧ (∀ octet ∈ name, isNameOctet octet = true) ∧
      name.length ≤ 131) ∧
    ((∀ name ∈ names (escape key), name ≠ Name.here ∧ name ≠ Name.up ∧ name.head? ≠ some dot) ↔
      Sheltered key) ∧
    (∀ place, ∃ below, below ≠ [] ∧ follow place (leading (escape key)) = place ++ below) ∧
    (Sheltered key → ∀ place, follow place (names (escape key)) = place ++ names (escape key)) := by
  obtain ⟨folders, leaf, filed⟩ := filed_escapeBytes (Text.bytes key)
  refine ⟨fun name member => ⟨filed.filled name member, named_of_mem_names member,
    length_le_of_mem_names member⟩, ?_, follow_leading_escapeBytes _, ?_⟩
  · rw [sheltered_iff]
    refine forall₂_congr fun name _ => ⟨fun plain => plain.2.2, fun undotted => ⟨?_, ?_, undotted⟩⟩
    · rintro rfl
      exact undotted rfl
    · rintro rfl
      exact undotted rfl
  · intro sheltered place
    refine follow_of_no_up (fun member => ?_) place
    exact (sheltered_iff key).mp sheltered _ member rfl

/-- Dots inside of names and at the start of segments do no harm, not even behind a full name and a
further octet. -/
theorem names_undotted_hidden :
    let key := "..a/.hidden/" ++ String.ofList (List.replicate 128 'x') ++ "y../z."
    Sheltered key ∧ ∀ place, follow place (names (escape key)) = place ++ names (escape key) := by
  intro key
  obtain ⟨-, undotted, -, forward⟩ := names_undotted_iff key
  have sheltered : Sheltered key := undotted.mp (by decide +kernel)
  exact ⟨sheltered, forward sheltered⟩

/-- Two dots behind 128 octets become a name of their own, which leads up. -/
theorem up_mem_names_of_long_segment :
    Name.up ∈ names (escape (String.ofList (List.replicate 128 'x') ++ "../foo")) := by
  decide +kernel

end TieredCache.Key
