import TieredCache.Key.Path
import TieredCache.Proofs.Disk.Walks

/-!
The names in the relative path of a key. Main statements: the names before the last are those of
directories and never lead above where they start, the last one is the name of a file, and different
keys have different paths, as long as their digests differ.
-/

namespace TieredCache

namespace FilePath

def extendFirst (front : Bytes) : List Name → List Name
  | [] => [front]
  | name :: further => (front ++ name) :: further

theorem names_append_of_no_slash {front : Bytes} (plain : slash ∉ front) (back : Bytes) :
    names (front ++ back) = extendFirst front (names back) := by
  obtain ⟨name, further, split⟩ := List.exists_cons_of_ne_nil (names_ne_nil back)
  rw [split]
  induction front with
  | nil => exact split
  | cons octet rest ih =>
      have other : octet ≠ slash := fun same => plain (same ▸ List.mem_cons_self)
      exact names_cons_of_ne other (ih fun member => plain (List.mem_cons_of_mem _ member))

theorem names_concat {text : Bytes} {octet : UInt8} (other : octet ≠ slash) {front : List Name}
    {last : Name} (split : names text = front ++ [last]) :
    names (text ++ [octet]) = front ++ [last ++ [octet]] := by
  induction text generalizing front last with
  | nil =>
      have parts := List.append_eq_singleton_iff.mp split.symm
      rcases parts with ⟨rfl, same⟩ | ⟨-, cut⟩
      · cases same
        exact names_of_no_slash (by simpa using other.symm)
      · cases cut
  | cons first rest ih =>
      by_cases same : first = slash
      · rw [names, if_pos same] at split
        rw [List.cons_append, names, if_pos same]
        cases front with
        | nil => exact absurd (List.cons.inj split).2 (names_ne_nil rest)
        | cons name further =>
            obtain ⟨rfl, later⟩ := List.cons.inj split
            rw [ih later]
            rfl
      · obtain ⟨name, further, parts⟩ := List.exists_cons_of_ne_nil (names_ne_nil rest)
        rw [names_cons_of_ne same parts] at split
        rw [List.cons_append]
        cases front with
        | nil =>
            obtain ⟨rfl, rfl⟩ := List.cons.inj split
            have longer : names (rest ++ [octet]) = [] ++ [name ++ [octet]] := ih parts
            exact names_cons_of_ne same longer
        | cons next later =>
            obtain ⟨rfl, rfl⟩ := List.cons.inj split
            have longer : names (rest ++ [octet]) = (name :: later) ++ [last ++ [octet]] := ih parts
            exact names_cons_of_ne same longer

def Grounded (path : List Name) : Prop :=
  ∀ place, (∃ further, follow place path = place ++ further) ∧
    ∀ other ∈ entered place path, ∃ front, ∃ name ∈ path, other = place ++ front ++ [name]

theorem Grounded.append {front back : List Name} (first : Grounded front) (second : Grounded back) :
    Grounded (front ++ back) := by
  intro place
  obtain ⟨⟨further, forward⟩, inside⟩ := first place
  obtain ⟨⟨later, onward⟩, beyond⟩ := second (follow place front)
  refine ⟨⟨further ++ later, ?_⟩, ?_⟩
  · rw [follow_append, onward, forward, List.append_assoc]
  · intro other member
    rw [entered_append] at member
    rcases List.mem_append.mp member with early | late
    · obtain ⟨between, name, own, same⟩ := inside other early
      exact ⟨between, name, List.mem_append_left _ own, same⟩
    · obtain ⟨between, name, own, same⟩ := beyond other late
      refine ⟨further ++ between, name, List.mem_append_right _ own, ?_⟩
      rw [same, forward]
      simp only [List.append_assoc]

theorem grounded_nil : Grounded [] := fun place =>
  ⟨⟨[], (List.append_nil place).symm⟩, fun _ member => absurd member List.not_mem_nil⟩

theorem grounded_singleton {name : Name} (forward : name ≠ Name.up) : Grounded [name] := by
  intro place
  refine ⟨⟨[name], follow_of_no_up (by simpa using forward.symm) place⟩, ?_⟩
  intro other member
  rw [entered, if_neg forward, entered, List.mem_singleton] at member
  exact ⟨[], name, List.mem_singleton_self _, by rw [member, List.append_nil]⟩

theorem grounded_of_no_up {path : List Name} (forward : Name.up ∉ path) : Grounded path := by
  induction path with
  | nil => exact grounded_nil
  | cons name rest ih =>
      have own : name ≠ Name.up := fun same => forward (same ▸ List.mem_cons_self)
      exact (grounded_singleton own).append (ih fun member => forward (List.mem_cons_of_mem _ member))

/-- One name up is within the names before it. -/
theorem grounded_concat_up {path : List Name} (filled : path ≠ []) (forward : Name.up ∉ path) :
    Grounded (path ++ [Name.up]) := by
  intro place
  have whole := follow_of_no_up forward place
  refine ⟨⟨path.dropLast, ?_⟩, ?_⟩
  · rw [follow_append, whole, follow, List.foldl_cons, if_pos rfl, List.foldl_nil,
      List.dropLast_append_of_ne_nil filled]
  · intro other member
    rw [entered_append, whole, entered, if_pos rfl, entered, List.append_nil] at member
    obtain ⟨front, name, own, same⟩ := (grounded_of_no_up forward place).2 other member
    exact ⟨front, name, List.mem_append_left _ own, same⟩

end FilePath

namespace Key
open FilePath

def isFileName (name : Name) : Bool :=
  name.head? = some 33 || (name.getLast? = some comma && name ≠ [comma])

/-! ### The forms of octets -/

/-- Octets that a form never has: those that end a text, separate names or mark other files. -/
theorem octetForm_clean (first : Bool) : ∀ octet : UInt8,
    0 ∉ octetForm first octet ∧ slash ∉ octetForm first octet ∧ 33 ∉ octetForm first octet := by
  cases first
  · exact Bytes.of_all_octets (by decide +kernel)
  · exact Bytes.of_all_octets (by decide +kernel)

theorem octetForm_shape (first : Bool) : ∀ octet : UInt8,
    octetForm first octet ≠ [] ∧ (octetForm first octet).length ≤ 3 ∧
      (octetForm first octet).getLast? ≠ some comma ∧
      (octetForm first octet).take 2 ≠ [comma, hyphen] := by
  cases first
  · exact Bytes.of_all_octets (by decide +kernel)
  · exact Bytes.of_all_octets (by decide +kernel)

theorem octetForm_start : ∀ octet : UInt8, (octetForm true octet).head? ≠ some dot :=
  Bytes.of_all_octets (by decide +kernel)

/-- A form is read back: it is the octet itself, or three octets that begin with a comma. -/
theorem octetForm_cases (first : Bool) : ∀ octet : UInt8,
    octet ≠ comma ∧ octetForm first octet = [octet] ∨
      ∃ upper lower, octetForm first octet = [comma, upper, lower] ∧
        octet = (if upper < 58 then upper - 48 else upper - 55) * 16 +
          (if lower < 58 then lower - 48 else lower - 55) := by
  have same : ∀ octet : UInt8, octet = (if upperHexDigit (octet / 16) < 58 then
      upperHexDigit (octet / 16) - 48 else upperHexDigit (octet / 16) - 55) * 16 +
        (if upperHexDigit (octet % 16) < 58 then upperHexDigit (octet % 16) - 48
          else upperHexDigit (octet % 16) - 55) := Bytes.of_all_octets (by decide +kernel)
  have plain : ∀ octet : UInt8, isPlain first octet = true → octet ≠ comma := by
    rintro octet stands rfl
    cases first <;> exact absurd stands (by decide)
  intro octet
  rw [octetForm]
  split
  · rename_i stands
    exact .inl ⟨plain octet stands, rfl⟩
  · exact .inr ⟨_, _, rfl, same octet⟩

theorem octetForm_inj {first : Bool} {left right : UInt8} {behind beyond : Bytes}
    (same : octetForm first left ++ behind = octetForm first right ++ beyond) :
    left = right ∧ behind = beyond := by
  rcases octetForm_cases first left with ⟨plain, form⟩ | ⟨upper, lower, form, own⟩ <;>
    rcases octetForm_cases first right with ⟨others, other⟩ | ⟨high, low, other, theirs⟩ <;>
    rw [form, other] at same
  · exact List.cons.inj same
  · exact absurd (List.cons.inj same).1 plain
  · exact absurd (List.cons.inj same).1.symm others
  · simp only [List.cons_append, List.cons.injEq, true_and, List.nil_append] at same
    obtain ⟨rfl, rfl, rest⟩ := same
    exact ⟨own.trans theirs.symm, rest⟩

/-! ### The names of a segment -/

def Continued (name : Name) : Prop := ∃ front, name = front ++ [comma, hyphen]

theorem Continued.leads {name : Name} (continued : Continued name) : leads name = true := by
  obtain ⟨front, rfl⟩ := continued
  have last : (front ++ [comma, hyphen]).getLast? = some hyphen := by simp
  rw [FilePath.leads, Bool.and_eq_true, decide_eq_true_eq]
  refine ⟨by simp, ?_⟩
  intro here
  rw [here] at last
  exact absurd last (by decide)

theorem Continued.ne_up {name : Name} (continued : Continued name) : name ≠ Name.up := by
  obtain ⟨front, rfl⟩ := continued
  intro up
  have last : (front ++ [comma, hyphen]).getLast? = some hyphen := by simp
  rw [up] at last
  exact absurd last (by decide)

/-- The names of one segment: all but the last are continued, and no name stands for nothing. -/
structure Spelled (path : List Name) (front : List Name) (last : Name) : Prop where
  split : path = front ++ [last]
  continued : ∀ name ∈ front, Continued name
  ends : last.getLast? ≠ some comma
  filled : front ≠ [] → last ≠ []

theorem Spelled.extendFirst {path front : List Name} {last : Name} (spelled : Spelled path front last)
    {form : Bytes} (some_ : form ≠ []) (ends : form.getLast? ≠ some comma) :
    ∃ further final, Spelled (extendFirst form path) further final ∧ final ≠ [] := by
  obtain ⟨rfl, continued, last_ends, filled⟩ := spelled
  cases front with
  | nil =>
      refine ⟨[], form ++ last, ⟨rfl, by simp, ?_, by simp⟩, by simp [some_]⟩
      rw [List.getLast?_append]
      cases empty : last.getLast? with
      | none => simpa using ends
      | some octet => simpa [empty] using last_ends
  | cons name further =>
      have own := filled (List.cons_ne_nil _ _)
      refine ⟨(form ++ name) :: further, last, ⟨rfl, ?_, last_ends, fun _ => own⟩, own⟩
      intro other member
      rcases List.mem_cons.mp member with rfl | later
      · obtain ⟨before, rfl⟩ := continued name List.mem_cons_self
        exact ⟨form ++ before, (List.append_assoc _ _ _).symm⟩
      · exact continued other (List.mem_cons_of_mem _ later)

theorem names_continuation (text : Bytes) :
    names (continuation ++ text) = [comma, hyphen] :: names text := by
  have cut : continuation ++ text = [comma, hyphen] ++ FilePath.slash :: text := rfl
  rw [cut, names_append_slash, names_of_no_slash (by decide)]
  rfl

/-- Escaping an octet either goes on with the present name or begins another. -/
theorem names_escapeFrom_cons (first : Bool) (written : Nat) (octet : UInt8) (rest : Bytes) :
    names (escapeFrom first written (octet :: rest)) =
      if written + (octetForm first octet).length > segmentLimit then
        [comma, hyphen] :: extendFirst (octetForm first octet)
          (names (escapeFrom false (octetForm first octet).length rest))
      else extendFirst (octetForm first octet)
        (names (escapeFrom false (written + (octetForm first octet).length) rest)) := by
  have plain := (octetForm_clean first octet).2.1
  rw [escapeFrom]
  split
  · rw [List.append_assoc, names_continuation, names_append_of_no_slash plain]
  · rw [names_append_of_no_slash plain]

theorem names_escapeFrom_spelled (first : Bool) (written : Nat) (segment : Bytes) :
    ∃ front last, Spelled (names (escapeFrom first written segment)) front last ∧
      (segment ≠ [] → last ≠ []) := by
  induction segment generalizing first written with
  | nil => exact ⟨[], [], ⟨rfl, by simp, by simp, by simp⟩, by simp⟩
  | cons octet rest ih =>
      obtain ⟨filled, -, ends, -⟩ := octetForm_shape first octet
      rw [names_escapeFrom_cons]
      split
      · obtain ⟨front, last, spelled, -⟩ := ih false (octetForm first octet).length
        obtain ⟨further, final, extended, own⟩ := spelled.extendFirst filled ends
        obtain ⟨split, continued, final_ends, -⟩ := extended
        refine ⟨[comma, hyphen] :: further, final, ⟨?_, ?_, final_ends, fun _ => own⟩, fun _ => own⟩
        · rw [split]
          rfl
        · intro name member
          rcases List.mem_cons.mp member with rfl | later
          · exact ⟨[], rfl⟩
          · exact continued name later
      · obtain ⟨front, last, spelled, -⟩ := ih false (written + (octetForm first octet).length)
        obtain ⟨further, final, extended, own⟩ := spelled.extendFirst filled ends
        exact ⟨further, final, extended, fun _ => own⟩

/-- No name grows longer than the limit and a continuation. -/
theorem length_names_escapeFrom (first : Bool) (written : Nat) (segment : Bytes)
    (room : written ≤ segmentLimit) : ∃ name further,
    names (escapeFrom first written segment) = name :: further ∧
      written + name.length ≤ segmentLimit + 2 ∧
      ∀ other ∈ further, other.length ≤ segmentLimit + 2 := by
  induction segment generalizing first written with
  | nil => exact ⟨[], [], rfl, by simpa using Nat.le_add_right_of_le room, by simp⟩
  | cons octet rest ih =>
      have short := (octetForm_shape first octet).2.1
      have limit : segmentLimit = 128 := rfl
      rw [names_escapeFrom_cons]
      split
      · obtain ⟨name, further, split, bound, bounds⟩ :=
          ih false (octetForm first octet).length (by omega)
        rw [split]
        refine ⟨[comma, hyphen], _, rfl, by simpa using room, ?_⟩
        intro other member
        rcases List.mem_cons.mp member with rfl | later
        · rw [List.length_append]
          exact bound
        · exact bounds other later
      · obtain ⟨name, further, split, bound, bounds⟩ :=
          ih false (written + (octetForm first octet).length) (by omega)
        rw [split]
        refine ⟨_, further, rfl, ?_, bounds⟩
        rw [List.length_append]
        omega

/-! ### Octets of escaped text -/

theorem forall_mem_continuation {property : UInt8 → Prop} :
    (∀ part ∈ continuation, property part) ↔ property comma ∧ property hyphen ∧ property slash := by
  simp [continuation]

section Octets

variable {property : UInt8 → Prop}
  (forms : ∀ first octet, ∀ part ∈ octetForm first octet, property part)
  (cut : ∀ part ∈ continuation, property part)

include forms cut

theorem forall_mem_escapeFrom (first : Bool) (written : Nat) (segment : Bytes) :
    ∀ part ∈ escapeFrom first written segment, property part := by
  induction segment generalizing first written with
  | nil => exact List.forall_mem_nil _
  | cons octet rest ih =>
      rw [escapeFrom]
      split
      · exact List.forall_mem_append.mpr
          ⟨List.forall_mem_append.mpr ⟨cut, forms first octet⟩, ih _ _⟩
      · exact List.forall_mem_append.mpr ⟨forms first octet, ih _ _⟩

theorem forall_mem_escapeSegment (segment : Bytes) :
    ∀ part ∈ escapeSegment segment, property part := by
  rw [escapeSegment]
  split
  · exact List.forall_mem_singleton.mpr (cut comma (by decide))
  · exact forall_mem_escapeFrom forms cut _ _ _

/-- What holds of the octets of forms and continuations holds of all octets of an escaped key. -/
theorem forall_mem_escapeBytes (key : Bytes) : ∀ part ∈ escapeBytes key, property part := by
  have joined : ∀ list : List Bytes,
      ∀ part ∈ [slash].intercalate (list.map escapeSegment), property part := by
    intro list
    induction list with
    | nil => exact List.forall_mem_nil _
    | cons segment further ih =>
        have own := forall_mem_escapeSegment forms cut segment
        cases further with
        | nil => simpa [List.intercalate] using own
        | cons next later =>
            rw [List.map_cons, List.map_cons, List.intercalate_cons_cons]
            have apart := List.forall_mem_singleton.mpr (cut slash (by decide))
            exact List.forall_mem_append.mpr ⟨List.forall_mem_append.mpr ⟨own, apart⟩, ih⟩
  exact List.forall_mem_append.mpr
    ⟨joined _, List.forall_mem_singleton.mpr (cut comma (by decide))⟩

end Octets

private theorem octetForm_unmarked (first : Bool) (octet : UInt8) :
    ∀ part ∈ octetForm first octet, part ≠ 0 ∧ part ≠ 33 := fun _ member =>
  ⟨fun zero => (octetForm_clean first octet).1 (zero ▸ member),
    fun marked => (octetForm_clean first octet).2.2 (marked ▸ member)⟩

private theorem continuation_unmarked : ∀ part ∈ continuation, part ≠ 0 ∧ part ≠ 33 :=
  forall_mem_continuation.mpr (by decide)

private theorem clean_escapeSegment (segment : Bytes) : 33 ∉ escapeSegment segment := fun inside =>
  (forall_mem_escapeSegment octetForm_unmarked continuation_unmarked segment 33 inside).2 rfl

theorem clean_escapeBytes (key : Bytes) : 0 ∉ escapeBytes key ∧ 33 ∉ escapeBytes key :=
  ⟨fun inside =>
      (forall_mem_escapeBytes octetForm_unmarked continuation_unmarked key 0 inside).1 rfl,
    fun inside =>
      (forall_mem_escapeBytes octetForm_unmarked continuation_unmarked key 33 inside).2 rfl⟩

/-- A segment starts with neither a dot nor a slash. -/
theorem escapeSegment_start (segment : Bytes) : ∃ octet rest,
    escapeSegment segment = octet :: rest ∧ octet ≠ dot ∧ octet ≠ slash := by
  rw [escapeSegment]
  cases segment with
  | nil => exact ⟨comma, [], rfl, by decide, by decide⟩
  | cons octet rest =>
      obtain ⟨filled, short, -, -⟩ := octetForm_shape true octet
      have clean := (octetForm_clean true octet).2.1
      have start := octetForm_start octet
      have limit : segmentLimit = 128 := rfl
      rw [List.isEmpty_cons, if_neg Bool.false_ne_true, escapeFrom, if_neg (by omega)]
      obtain ⟨first, further, form⟩ := List.exists_cons_of_ne_nil filled
      rw [form] at clean start ⊢
      refine ⟨first, _, rfl, fun same => start (by rw [same]; rfl), fun same => clean ?_⟩
      rw [same]
      exact List.mem_cons_self

/-! ### The names of a key -/

/-- The names of one segment lead nowhere but forward, and back at most once at its end. -/
theorem grounded_escapeSegment (segment : Bytes) : Grounded (leading (escapeSegment segment)) := by
  obtain ⟨octet, rest, text, undotted, other⟩ := escapeSegment_start segment
  obtain ⟨name, further, parts⟩ := List.exists_cons_of_ne_nil (names_ne_nil rest)
  have start : names (escapeSegment segment) = (octet :: name) :: further := by
    rw [text, names_cons_of_ne other parts]
  cases segment with
  | nil => exact grounded_of_no_up (by decide)
  | cons first others =>
      obtain ⟨front, last, spelled, -⟩ := names_escapeFrom_spelled true 0 (first :: others)
      have forward : Name.up ∉ front := fun member => (spelled.continued _ member).ne_up rfl
      have kept : front.filter leads = front :=
        List.filter_eq_self.mpr fun other member => (spelled.continued other member).leads
      have whole : leading (escapeSegment (first :: others)) = front ++ [last].filter leads := by
        change (names (escapeFrom true 0 (first :: others))).filter leads = _
        rw [spelled.split, List.filter_append, kept]
      rw [whole, List.filter_cons, List.filter_nil]
      split
      · by_cases up : last = Name.up
        · rw [up]
          refine grounded_concat_up ?_ forward
          rintro rfl
          change names (escapeFrom true 0 (first :: others)) = _ at start
          rw [spelled.split, up] at start
          exact undotted (List.cons.inj (List.cons.inj start).1).1.symm
        · refine grounded_of_no_up ?_
          rw [List.mem_append, List.mem_singleton]
          rintro (member | same)
          · exact forward member
          · exact up same.symm
      · rw [List.append_nil]
        exact grounded_of_no_up forward

theorem mem_of_mem_names {text : Bytes} {name : Name} {octet : UInt8} (member : name ∈ names text)
    (inside : octet ∈ name) : octet ∈ text := by
  induction text generalizing name with
  | nil =>
      rw [names, List.mem_singleton] at member
      exact absurd inside (member ▸ List.not_mem_nil)
  | cons first rest ih =>
      by_cases same : first = FilePath.slash
      · rw [names, if_pos same] at member
        rcases List.mem_cons.mp member with rfl | later
        · exact absurd inside List.not_mem_nil
        · exact List.mem_cons_of_mem _ (ih later inside)
      · obtain ⟨start, further, parts⟩ := List.exists_cons_of_ne_nil (names_ne_nil rest)
        rw [names_cons_of_ne same parts] at member
        rw [parts] at ih
        rcases List.mem_cons.mp member with rfl | later
        · rcases List.mem_cons.mp inside with rfl | later
          · exact List.mem_cons_self
          · exact List.mem_cons_of_mem _ (ih List.mem_cons_self later)
        · exact List.mem_cons_of_mem _ (ih (List.mem_cons_of_mem _ later) inside)

/-- A relative path that a key may have: directories that are entered one below the other, and a file
in the last of them. -/
structure Filed (relative : Bytes) (folders : List Name) (leaf : Name) : Prop where
  ends : ∃ before, names relative = before ++ [leaf]
  filled : ∀ name ∈ names relative, name ≠ []
  split : leading relative = folders ++ [leaf]
  grounded : Grounded folders
  folder : ∀ name ∈ folders, isFileName name = false
  file : isFileName leaf = true
  short : ∀ name ∈ folders ++ [leaf], name.length ≤ FileTree.nameBound
  below : Route.isAbsolute relative = false
  clean : 0 ∉ relative

theorem isFileName_concat_comma {name : Name} (filled : name ≠ []) :
    isFileName (name ++ [comma]) = true := by
  have longer : name ++ [comma] ≠ [comma] := by
    intro same
    exact filled (List.append_cancel_right (same.trans (List.nil_append _).symm))
  simp [isFileName, longer]

theorem isFileName_of_folder {name : Name} (clean : 33 ∉ name)
    (folder : name = [comma] ∨ name.getLast? ≠ some comma) : isFileName name = false := by
  have start : name.head? ≠ some 33 := fun same => clean (List.mem_of_head? same)
  rcases folder with rfl | ends
  · decide
  · simp [isFileName, start, ends]

theorem leads_of_isFileName {name : Name} (file : isFileName name = true) : leads name = true := by
  rw [leads, Bool.and_eq_true, decide_eq_true_eq]
  constructor
  · cases name with
    | nil => exact absurd file (by decide)
    | cons octet rest => rfl
  · rintro rfl
    exact absurd file (by decide)

theorem ne_up_of_isFileName {name : Name} (file : isFileName name = true) : name ≠ Name.up := by
  rintro rfl
  exact absurd file (by decide)

/-- The last name of a segment may become a file's name, the others are names of directories. -/
theorem names_escapeSegment (segment : Bytes) : ∃ front last,
    names (escapeSegment segment) = front ++ [last] ∧ (∀ name ∈ front, Continued name) ∧
      last ≠ [] ∧ (last = [comma] ∨ last.getLast? ≠ some comma) := by
  cases segment with
  | nil => exact ⟨[], [comma], rfl, by simp, by simp, .inl rfl⟩
  | cons octet rest =>
      obtain ⟨front, last, spelled, filled⟩ := names_escapeFrom_spelled true 0 (octet :: rest)
      exact ⟨front, last, spelled.split, spelled.continued, filled (List.cons_ne_nil _ _),
        .inr spelled.ends⟩

theorem length_names_escapeSegment (segment : Bytes) :
    ∀ name ∈ names (escapeSegment segment), name.length ≤ segmentLimit + 2 := by
  cases segment with
  | nil =>
      intro name member
      rw [List.mem_singleton.mp (show name ∈ [[comma]] from member)]
      decide
  | cons octet rest =>
      obtain ⟨first, further, split, bound, bounds⟩ :=
        length_names_escapeFrom true 0 (octet :: rest) (by decide)
      intro name member
      change name ∈ names (escapeFrom true 0 (octet :: rest)) at member
      rw [split] at member
      rcases List.mem_cons.mp member with rfl | later
      · omega
      · exact bounds name later

theorem Continued.folder {name : Name} (continued : Continued name) :
    name.getLast? ≠ some comma := by
  obtain ⟨front, rfl⟩ := continued
  rw [show front ++ [comma, hyphen] = (front ++ [comma]) ++ [hyphen] by simp, List.getLast?_concat]
  decide

theorem folder_of_mem_names {segment : Bytes} {name : Name}
    (member : name ∈ names (escapeSegment segment)) : isFileName name = false := by
  have clean : 33 ∉ name := fun inside => clean_escapeSegment segment (mem_of_mem_names member inside)
  obtain ⟨front, last, split, continued, -, folder⟩ := names_escapeSegment segment
  refine isFileName_of_folder clean ?_
  rw [split, List.mem_append, List.mem_singleton] at member
  rcases member with early | rfl
  · exact .inr (continued name early).folder
  · exact folder

theorem filled_of_mem_names {segment : Bytes} {name : Name}
    (member : name ∈ names (escapeSegment segment)) : name ≠ [] := by
  obtain ⟨front, last, split, continued, filled, -⟩ := names_escapeSegment segment
  rw [split, List.mem_append, List.mem_singleton] at member
  rcases member with early | rfl
  · rintro rfl
    exact absurd (continued [] early).leads (by decide)
  · exact filled

/-- An escaped key has the names of its segments, with a comma behind the last of them. -/
theorem names_escapeBytes (key : Bytes) : ∃ (front : List Bytes) (final : Bytes) (inner : List Name)
    (last : Name), names key = front ++ [final] ∧
      names (escapeSegment final) = inner ++ [last] ∧ (∀ name ∈ inner, Continued name) ∧
      names (escapeBytes key) =
        (front.flatMap (names ∘ escapeSegment) ++ inner) ++ [last ++ [comma]] := by
  obtain ⟨front, final, parts⟩ :=
    (List.eq_nil_or_concat (names key)).resolve_left (names_ne_nil key)
  rw [List.concat_eq_append] at parts
  obtain ⟨inner, last, split, continued, -⟩ := names_escapeSegment final
  have texts := @names_intercalate_flatMap ((names key).map escapeSegment)
    (by simpa using names_ne_nil key)
  refine ⟨front, final, inner, last, parts, split, continued,
    names_concat (by decide) (texts.trans ?_)⟩
  rw [parts, List.map_append, List.flatMap_append, List.flatMap_map, List.map_singleton,
    List.flatMap_singleton, split, List.append_assoc]
  rfl

theorem grounded_segments (front : List Bytes) :
    Grounded ((front.flatMap (names ∘ escapeSegment)).filter leads) := by
  induction front with
  | nil => exact grounded_nil
  | cons segment further ih =>
      rw [List.flatMap_cons, List.filter_append]
      exact (grounded_escapeSegment segment).append ih

theorem isAbsolute_escapeBytes (key : Bytes) : Route.isAbsolute (escapeBytes key) = false := by
  obtain ⟨first, further, list⟩ := List.exists_cons_of_ne_nil (names_ne_nil key)
  obtain ⟨octet, rest, text, -, other⟩ := escapeSegment_start first
  have start : (escapeBytes key).head? = some octet := by
    rw [escapeBytes, list, List.map_cons, text]
    cases further.map escapeSegment <;> simp [List.intercalate]
  rw [Route.isAbsolute, start]
  exact decide_eq_false fun same => other (Option.some.inj same)

theorem filed_escapeBytes (key : Bytes) : ∃ folders leaf, Filed (escapeBytes key) folders leaf := by
  obtain ⟨front, final, inner, last, -, split, continued, whole⟩ := names_escapeBytes key
  have own : ∀ name ∈ inner ++ [last], name ∈ names (escapeSegment final) :=
    fun name member => split ▸ member
  have filled := filled_of_mem_names (own last (by simp))
  have leaf := isFileName_concat_comma filled
  have kept : inner.filter leads = inner :=
    List.filter_eq_self.mpr fun name member => (continued name member).leads
  have inside : ∀ name ∈ front.flatMap (names ∘ escapeSegment) ++ inner,
      ∃ segment, name ∈ names (escapeSegment segment) := by
    intro name member
    rcases List.mem_append.mp member with early | late
    · obtain ⟨segment, -, own⟩ := List.mem_flatMap.mp early
      exact ⟨segment, own⟩
    · exact ⟨final, own name (List.mem_append_left _ late)⟩
  have folder : ∀ name ∈ (front.flatMap (names ∘ escapeSegment)).filter leads ++ inner,
      ∃ segment, name ∈ names (escapeSegment segment) := fun name member =>
    inside name ((List.filter_sublist.append (.refl inner)).subset member)
  have limit : segmentLimit = 128 := rfl
  have bound : FileTree.nameBound = 255 := rfl
  exact
    ⟨(front.flatMap (names ∘ escapeSegment)).filter leads ++ inner, last ++ [comma],
      { ends := ⟨_, whole⟩
        filled := by
          rw [whole]
          refine List.forall_mem_append.mpr ⟨fun name early => ?_, by simp⟩
          obtain ⟨segment, place⟩ := inside name early
          exact filled_of_mem_names place
        split := by
          rw [leading, whole, List.filter_append, List.filter_append, kept, List.filter_cons,
            if_pos (leads_of_isFileName leaf)]
          rfl
        grounded := (grounded_segments front).append
          (grounded_of_no_up fun member => (continued _ member).ne_up rfl)
        folder := fun name member => by
          obtain ⟨segment, place⟩ := folder name member
          exact folder_of_mem_names place
        file := leaf
        short := by
          refine List.forall_mem_append.mpr ⟨fun name early => ?_, List.forall_mem_singleton.mpr ?_⟩
          · obtain ⟨segment, place⟩ := folder name early
            have short := length_names_escapeSegment segment name place
            omega
          · have short := length_names_escapeSegment final last (own last (by simp))
            rw [List.length_append, List.length_singleton]
            omega
        below := isAbsolute_escapeBytes key
        clean := (clean_escapeBytes key).1 }⟩

end Key

end TieredCache
