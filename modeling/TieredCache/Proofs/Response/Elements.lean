import Mathlib.Data.List.DropRight
import TieredCache.Response.Directives

/-!
What the elements of list valued fields say, read off the fields themselves. Main statements:
`not_carries_of_isStorable` and `hasAcceptableVary_iff`.
-/

namespace TieredCache

namespace Text

variable {separator : Char} {text before after : List Char} {test : Char → Bool}

/-! ### Blanks at the ends -/

theorem trimEnd_append_of_blank {blanks : List Char}
    (blank : ∀ character ∈ blanks, isBlank character = true) (text : List Char) :
    trimEnd (text ++ blanks) = trimEnd text := by
  unfold trimEnd dropEndWhile
  rw [List.reverse_append, List.dropWhile_append_of_pos]
  intro character member
  exact blank character (List.mem_reverse.mp member)

/-- No part at the front of a text without leading blanks has any. -/
theorem trimStart_of_prefix (front : before <+: trimStart text) : trimStart before = before := by
  cases before with
  | nil => rfl
  | cons first rest =>
      obtain ⟨more, whole⟩ := front
      have again : trimStart (first :: (rest ++ more)) = first :: (rest ++ more) := by
        rw [← List.cons_append, whole]
        exact List.dropWhile_idempotent isBlank text
      have solid : ¬isBlank first = true :=
        List.dropWhile_eq_self_iff.mp again (Nat.succ_pos _)
      exact List.dropWhile_cons_of_neg solid

theorem trimStart_takeWhile (passes : ∀ character, isBlank character = true → test character = true)
    (text : List Char) : trimStart (text.takeWhile test) = (trimStart text).takeWhile test := by
  unfold trimStart
  induction text with
  | nil => rfl
  | cons first rest ih =>
      by_cases blank : isBlank first = true
      · rw [List.takeWhile_cons_of_pos (passes first blank), List.dropWhile_cons_of_pos blank,
          List.dropWhile_cons_of_pos blank]
        exact ih
      · rw [List.dropWhile_cons_of_neg blank]
        by_cases passed : test first = true
        · rw [List.takeWhile_cons_of_pos passed, List.dropWhile_cons_of_neg blank]
        · rw [List.takeWhile_cons_of_neg passed, List.dropWhile_nil]

theorem trimEnd_takeWhile (passes : ∀ character, isBlank character = true → test character = true)
    (text : List Char) :
    trimEnd ((trimEnd text).takeWhile test) = trimEnd (text.takeWhile test) := by
  have blank : ∀ character ∈ text.rtakeWhile isBlank, isBlank character = true :=
    fun character member => List.mem_rtakeWhile_imp member
  have parts : trimEnd text ++ text.rtakeWhile isBlank = text :=
    List.rdropWhile_append_rtakeWhile
  conv_rhs => rw [← parts, List.takeWhile_append]
  split
  · rename_i whole
    have all : (trimEnd text).takeWhile test = trimEnd text :=
      (List.takeWhile_prefix test).eq_of_length whole
    rw [all, List.takeWhile_eq_self_iff.mpr fun character member =>
      passes character (blank character member), trimEnd_append_of_blank blank]
  · rfl

/-- Blanks around a text make no difference to what stands in front of another character. -/
theorem trim_takeWhile (passes : ∀ character, isBlank character = true → test character = true)
    (text : List Char) : trim ((trim text).takeWhile test) = trim (text.takeWhile test) := by
  have stays : trimStart (trim text) = trim text :=
    trimStart_of_prefix (List.rdropWhile_prefix isBlank (trimStart text))
  rw [trim, trimStart_takeWhile passes, stays, trim, trimEnd_takeWhile passes,
    ← trimStart_takeWhile passes, trim]

theorem trim_trim (text : List Char) : trim (trim text) = trim text := by
  have whole : ∀ text : List Char, text.takeWhile (fun _ => true) = text :=
    fun text => List.takeWhile_eq_self_iff.mpr fun _ _ => rfl
  have same := @trim_takeWhile (fun _ => true) (fun _ _ => rfl) text
  rwa [whole, whole] at same

/-! ### In front of a separator -/

theorem takeWhile_of_splitOnce (splits : splitOnce separator text = some (before, after)) :
    text.takeWhile (· ≠ separator) = before := by
  induction text generalizing before with
  | nil => cases splits
  | cons first rest ih =>
      rw [splitOnce] at splits
      split at splits
      · rename_i own
        cases splits
        exact List.takeWhile_cons_of_neg (by simp [own])
      · rename_i other
        obtain ⟨⟨front, behind⟩, inner, same⟩ := Option.map_eq_some_iff.mp splits
        cases same
        rw [List.takeWhile_cons_of_pos (by simp [other]), ih inner]

theorem takeWhile_of_splitOnce_none (whole : splitOnce separator text = none) :
    text.takeWhile (· ≠ separator) = text := by
  induction text with
  | nil => rfl
  | cons first rest ih =>
      rw [splitOnce] at whole
      split at whole
      · cases whole
      · rename_i other
        rw [List.takeWhile_cons_of_pos (by simp [other]), ih (Option.map_eq_none_iff.mp whole)]

end Text

namespace Directive

variable {element : List Char} {directive : Directive}

def nameOf (element : List Char) : List Char :=
  Text.lowerAscii (Text.trim (element.takeWhile (· ≠ '=')))

theorem nameOf_trim (element : List Char) : nameOf (Text.trim element) = nameOf element := by
  unfold nameOf
  rw [Text.trim_takeWhile]
  intro character blank
  apply decide_eq_true
  rintro rfl
  exact absurd blank (by decide)

theorem name_ofElement? (reads : ofElement? element = some directive) :
    directive.name = nameOf element := by
  rw [← nameOf_trim, nameOf]
  unfold ofElement? at reads
  simp only at reads
  split at reads
  · cases reads
  · split at reads
    · rename_i splits
      cases reads
      rw [Text.takeWhile_of_splitOnce splits]
    · rename_i whole
      cases reads
      rw [Text.takeWhile_of_splitOnce_none whole]
      rw [Text.trim_trim]

theorem nameOf_of_ofElement?_none (empty : ofElement? element = none) : nameOf element = [] := by
  rw [← nameOf_trim]
  unfold ofElement? at empty
  simp only at empty
  split at empty
  · rename_i nothing
    rw [List.isEmpty_iff.mp nothing]
    rfl
  · split at empty <;> cases empty

end Directive

namespace Head

variable {head : Head} {name : String} {element : List Char}

theorem mem_elements : element ∈ head.elements name ↔
    ∃ field ∈ head.fields, field.hasName name = true ∧
      element ∈ Text.splitAt ',' field.value.toList := by
  simp only [elements, values, List.mem_flatMap, List.mem_map, List.mem_filter]
  constructor
  · rintro ⟨value, ⟨field, ⟨member, own⟩, rfl⟩, part⟩
    exact ⟨field, member, own, part⟩
  · rintro ⟨field, member, own, part⟩
    exact ⟨field.value, ⟨field, ⟨member, own⟩, rfl⟩, part⟩

/-- Whether some Cache-Control field has an element of that name, alone or with an argument. -/
def Carries (head : Head) (name : String) : Prop :=
  ∃ field ∈ head.fields, field.hasName "cache-control" = true ∧
    ∃ element ∈ Text.splitAt ',' field.value.toList, Directive.nameOf element = name.toList

theorem hasDirective_iff (named : name.toList ≠ []) :
    head.hasDirective name = true ↔ head.Carries name := by
  simp only [hasDirective, directives, Directive.ofList, List.any_eq_true, List.mem_filterMap,
    decide_eq_true_eq]
  constructor
  · rintro ⟨directive, ⟨element, member, reads⟩, own⟩
    obtain ⟨field, present, cacheControl, part⟩ := mem_elements.mp member
    exact ⟨field, present, cacheControl, element, part,
      (Directive.name_ofElement? reads).symm.trans own⟩
  · rintro ⟨field, present, cacheControl, element, part, own⟩
    have member := mem_elements.mpr ⟨field, present, cacheControl, part⟩
    cases reads : Directive.ofElement? element with
    | none => exact absurd (own.symm.trans (Directive.nameOf_of_ofElement?_none reads)) named
    | some directive =>
        exact ⟨directive, ⟨element, member, reads⟩, (Directive.name_ofElement? reads).trans own⟩

def forbiddingNames : List String := ["no-store", "no-cache", "private"]

theorem not_carries_of_isStorable (storable : head.isStorable = true)
    (forbidding : name ∈ forbiddingNames) : ¬head.Carries name := by
  have named : name.toList ≠ [] := by
    revert name
    decide
  intro carries
  have present := (hasDirective_iff named).mpr carries
  obtain ⟨directive, member, own⟩ := List.any_eq_true.mp present
  have forbids : forbidsStoring directive = true := by
    have same := of_decide_eq_true own
    simp only [forbidsStoring, same, Bool.or_eq_true, decide_eq_true_eq]
    simp only [forbiddingNames, List.mem_cons, List.not_mem_nil, or_false] at forbidding
    rcases forbidding with rfl | rfl | rfl
    · exact .inl (.inl rfl)
    · exact .inl (.inr rfl)
    · exact .inr rfl
  have forbidden : head.directives.any forbidsStoring = true :=
    List.any_eq_true.mpr ⟨directive, member, forbids⟩
  rw [isStorable, forbidden] at storable
  cases storable

/-- An acceptable Vary field names nothing but Accept-Encoding. -/
def VariesByEncoding (head : Head) : Prop :=
  ∀ field ∈ head.fields, field.hasName "vary" = true →
    ∀ element ∈ Text.splitAt ',' field.value.toList,
      Text.trim element = [] ∨
        Text.equalIgnoringCase (Text.trim element) "accept-encoding".toList = true

theorem hasAcceptableVary_iff : head.hasAcceptableVary = true ↔ head.VariesByEncoding := by
  simp only [hasAcceptableVary, List.all_map, List.all_eq_true, mem_elements, Function.comp_apply,
    Bool.or_eq_true, List.isEmpty_iff, VariesByEncoding]
  constructor
  · intro all field member own element part
    exact all element ⟨field, member, own, part⟩
  · rintro all element ⟨field, member, own, part⟩
    exact all field member own element part

end Head

end TieredCache
