import Mathlib.Logic.Relation
import TieredCache.Proofs.Response.Elements

/-!
The outline of a list: its elements, each cut at the equals signs into pieces without blanks around them
and in lower case. Main statements: two lists joined by a comma have both their outlines
(`outline_comma`), and the outline does not depend on the case of letters or on blanks around commas and
equals signs (`outline_of_restyled`).
-/

namespace TieredCache.Text

variable {separator mark : Char} {text more left right piece : List Char}

/-! ### Letter case -/

section

variable {test : Char → Bool}

theorem dropWhile_lowerAscii (caseless : ∀ character, test (Char.toLower character) = test character)
    (text : List Char) : (lowerAscii text).dropWhile test = lowerAscii (text.dropWhile test) := by
  have same : test ∘ Char.toLower = test := funext caseless
  rw [lowerAscii, List.dropWhile_map, same]
  rfl

theorem dropEndWhile_lowerAscii (caseless : ∀ character, test (Char.toLower character) = test character)
    (text : List Char) : dropEndWhile test (lowerAscii text) = lowerAscii (dropEndWhile test text) := by
  have mirrored (text : List Char) : (lowerAscii text).reverse = lowerAscii text.reverse :=
    List.map_reverse.symm
  rw [dropEndWhile, mirrored, dropWhile_lowerAscii caseless, mirrored]
  rfl

/-- What is not dropped at the ends of a text stays in it. -/
theorem mem_dropWhile (stays : test mark = false) : mark ∈ text.dropWhile test ↔ mark ∈ text := by
  refine ⟨fun member => (List.dropWhile_suffix test).subset member, fun member => ?_⟩
  rw [← List.takeWhile_append_dropWhile (p := test) (l := text), List.mem_append] at member
  rcases member with dropped | kept
  · rw [List.mem_takeWhile_imp dropped] at stays
    cases stays
  · exact kept

theorem mem_dropEndWhile (stays : test mark = false) : mark ∈ dropEndWhile test text ↔ mark ∈ text := by
  rw [dropEndWhile, List.mem_reverse, mem_dropWhile stays, List.mem_reverse]

end

theorem trim_lowerAscii (text : List Char) : trim (lowerAscii text) = lowerAscii (trim text) := by
  rw [trim, trimStart, dropWhile_lowerAscii isBlank_toLower, trimEnd,
    dropEndWhile_lowerAscii isBlank_toLower]
  rfl

theorem trimMatches_lowerAscii (low : mark.toNat < 65) (text : List Char) :
    trimMatches mark (lowerAscii text) = lowerAscii (trimMatches mark text) := by
  have caseless (character : Char) : decide (character.toLower = mark) = decide (character = mark) :=
    decide_eq_decide.mpr (toLower_eq_iff low)
  rw [trimMatches, dropWhile_lowerAscii caseless, dropEndWhile_lowerAscii caseless]
  rfl

theorem mem_trim (solid : isBlank mark = false) : mark ∈ trim text ↔ mark ∈ text := by
  rw [trim, trimEnd, mem_dropEndWhile solid, trimStart, mem_dropWhile solid]

theorem mem_lowerAscii (low : mark.toNat < 65) : mark ∈ lowerAscii text ↔ mark ∈ text := by
  rw [lowerAscii, List.mem_map]
  constructor
  · rintro ⟨character, member, same⟩
    rwa [← (toLower_eq_iff low).mp same]
  · exact fun member => ⟨mark, member, (toLower_eq_iff low).mpr rfl⟩

/-! ### Cutting a text into pieces -/

theorem splitAt_cons_of_ne {character : Char} (other : character ≠ separator)
    {first : List Char} {rest : List (List Char)} (cut : splitAt separator text = first :: rest) :
    splitAt separator (character :: text) = (character :: first) :: rest := by
  rw [splitAt, if_neg other, cut]

theorem splitAt_separator_cons (separator : Char) (text : List Char) :
    splitAt separator (separator :: text) = [] :: splitAt separator text := by
  rw [splitAt, if_pos rfl]

theorem splitAt_of_free (free : separator ∉ text) : splitAt separator text = [text] := by
  induction text with
  | nil => rfl
  | cons first rest ih =>
      rw [List.mem_cons, not_or] at free
      exact splitAt_cons_of_ne (Ne.symm free.1) (ih free.2)

theorem exists_first_piece (separator : Char) (text : List Char) :
    ∃ first rest, splitAt separator text = first :: rest :=
  List.exists_cons_of_ne_nil (splitAt_ne_nil separator text)

theorem exists_last_piece (separator : Char) (text : List Char) :
    ∃ front last, splitAt separator text = front ++ [last] :=
  ⟨_, _, (List.dropLast_append_getLast (splitAt_ne_nil separator text)).symm⟩

/-- Where two texts meet, the last piece of one and the first piece of the other are one. -/
theorem splitAt_append {front rest : List (List Char)} {last first : List Char}
    (ends : splitAt separator text = front ++ [last])
    (begins : splitAt separator more = first :: rest) :
    splitAt separator (text ++ more) = front ++ (last ++ first) :: rest := by
  induction text generalizing front last with
  | nil =>
      have alone : front ++ [last] = [[]] := ends.symm
      rw [List.append_eq_singleton_iff] at alone
      obtain ⟨rfl, same⟩ | ⟨-, impossible⟩ := alone
      · cases same
        exact begins
      · cases impossible
  | cons character text ih =>
      rw [List.cons_append]
      by_cases own : character = separator
      · subst own
        rw [splitAt_separator_cons] at ends ⊢
        cases front with
        | nil => exact absurd (List.cons.inj ends).2 (splitAt_ne_nil _ _)
        | cons empty front =>
            obtain ⟨rfl, behind⟩ := List.cons.inj ends
            rw [ih behind]
            rfl
      · obtain ⟨piece, pieces, cut⟩ := exists_first_piece separator text
        rw [splitAt_cons_of_ne own cut] at ends
        cases front with
        | nil =>
            obtain ⟨rfl, rfl⟩ := List.cons.inj ends
            have alone : splitAt separator text = [] ++ [piece] := cut
            exact splitAt_cons_of_ne own (ih alone)
        | cons whole front =>
            obtain ⟨rfl, rfl⟩ := List.cons.inj ends
            have longer : splitAt separator text = (piece :: front) ++ [last] := cut
            exact splitAt_cons_of_ne own (ih longer)

theorem splitAt_separator (separator : Char) (text more : List Char) :
    splitAt separator (text ++ separator :: more) =
      splitAt separator text ++ splitAt separator more := by
  obtain ⟨front, last, ends⟩ := exists_last_piece separator text
  rw [splitAt_append ends (splitAt_separator_cons separator more), ends, List.append_nil,
    List.append_assoc]
  rfl

theorem splitAt_lowerAscii (low : separator.toNat < 65) (text : List Char) :
    splitAt separator (lowerAscii text) = (splitAt separator text).map lowerAscii := by
  induction text with
  | nil => rfl
  | cons character rest ih =>
      change splitAt separator (character.toLower :: lowerAscii rest) = _
      by_cases own : character = separator
      · rw [(toLower_eq_iff low).mpr own, own, splitAt_separator_cons, splitAt_separator_cons, ih]
        rfl
      · obtain ⟨first, pieces, cut⟩ := exists_first_piece separator rest
        rw [cut] at ih
        rw [splitAt_cons_of_ne own cut, splitAt_cons_of_ne (mt (toLower_eq_iff low).mp own) ih]
        rfl

/-! ### Blanks around pieces -/

def Blank (text : List Char) : Prop := ∀ character ∈ text, isBlank character = true

theorem Blank.free {blanks : List Char} (blank : Blank blanks) (solid : isBlank separator = false) :
    separator ∉ blanks := by
  intro member
  rw [blank separator member] at solid
  cases solid

theorem trim_append_of_blank {blanks : List Char} (blank : Blank blanks) (text : List Char) :
    trim (text ++ blanks) = trim text := by
  unfold trim trimStart
  rw [List.dropWhile_append]
  split
  · rename_i nothing
    rw [List.isEmpty_iff.mp nothing, List.dropWhile_eq_nil_iff.mpr blank]
  · exact trimEnd_append_of_blank blank _

theorem trim_blank_append {blanks : List Char} (blank : Blank blanks) (text : List Char) :
    trim (blanks ++ text) = trim text := by
  rw [trim, trimStart, List.dropWhile_append_of_pos blank]
  rfl

section

variable {α : Type} {blanks : List Char} {form : List Char → α}

theorem map_splitAt_append_blank (solid : isBlank separator = false) (blank : Blank blanks)
    (keeps : ∀ piece, form (piece ++ blanks) = form piece) (text : List Char) :
    (splitAt separator (text ++ blanks)).map form = (splitAt separator text).map form := by
  obtain ⟨front, last, ends⟩ := exists_last_piece separator text
  rw [splitAt_append ends (splitAt_of_free (blank.free solid)), ends, List.map_append,
    List.map_append, List.map_singleton, List.map_singleton, keeps]

theorem map_splitAt_blank_append (solid : isBlank separator = false) (blank : Blank blanks)
    (keeps : ∀ piece, form (blanks ++ piece) = form piece) (text : List Char) :
    (splitAt separator (blanks ++ text)).map form = (splitAt separator text).map form := by
  obtain ⟨first, rest, begins⟩ := exists_first_piece separator text
  have alone : splitAt separator blanks = [] ++ [blanks] := splitAt_of_free (blank.free solid)
  rw [splitAt_append alone begins, begins, List.nil_append, List.map_cons, List.map_cons, keeps]

end

/-! ### Outlines -/

def shape (element : List Char) : List (List Char) :=
  (splitAt '=' element).map fun piece => lowerAscii (trim piece)

def outline (text : List Char) : List (List (List Char)) :=
  (splitAt ',' text).map shape

theorem shape_append_of_blank {blanks : List Char} (blank : Blank blanks) (element : List Char) :
    shape (element ++ blanks) = shape element :=
  map_splitAt_append_blank rfl blank (fun piece => by rw [trim_append_of_blank blank]) element

theorem shape_blank_append {blanks : List Char} (blank : Blank blanks) (element : List Char) :
    shape (blanks ++ element) = shape element :=
  map_splitAt_blank_append rfl blank (fun piece => by rw [trim_blank_append blank]) element

theorem outline_append_of_blank {blanks : List Char} (blank : Blank blanks) (text : List Char) :
    outline (text ++ blanks) = outline text :=
  map_splitAt_append_blank rfl blank (shape_append_of_blank blank) text

theorem outline_blank_append {blanks : List Char} (blank : Blank blanks) (text : List Char) :
    outline (blanks ++ text) = outline text :=
  map_splitAt_blank_append rfl blank (shape_blank_append blank) text

theorem shape_lowerAscii (element : List Char) : shape (lowerAscii element) = shape element := by
  rw [shape, splitAt_lowerAscii (by decide), List.map_map]
  refine List.map_congr_left fun piece _ => ?_
  change lowerAscii (trim (lowerAscii piece)) = _
  rw [trim_lowerAscii, lowerAscii_lowerAscii]

theorem outline_lowerAscii (text : List Char) : outline (lowerAscii text) = outline text := by
  rw [outline, splitAt_lowerAscii (by decide), List.map_map]
  exact List.map_congr_left fun element _ => shape_lowerAscii element

theorem shape_equals (text more : List Char) : shape (text ++ '=' :: more) = shape text ++ shape more := by
  rw [shape, splitAt_separator, List.map_append]
  rfl

theorem outline_comma (text more : List Char) :
    outline (text ++ ',' :: more) = outline text ++ outline more := by
  rw [outline, splitAt_separator, List.map_append]
  rfl

/-- An equals sign joins the elements on both sides of it. -/
theorem outline_equals {front rest : List (List (List Char))} {last first : List (List Char)}
    (ends : outline text = front ++ [last]) (begins : outline more = first :: rest) :
    outline (text ++ '=' :: more) = front ++ (last ++ first) :: rest := by
  obtain ⟨fronts, element, cut⟩ := exists_last_piece ',' text
  obtain ⟨other, others, cutMore⟩ := exists_first_piece ',' more
  rw [outline, cut, List.map_append, List.map_singleton] at ends
  rw [outline, cutMore, List.map_cons] at begins
  obtain ⟨rfl, same⟩ := List.append_inj' ends rfl
  obtain ⟨rfl, rfl⟩ := List.cons.inj begins
  cases same
  rw [outline, splitAt_append cut (splitAt_cons_of_ne (by decide) cutMore), List.map_append,
    List.map_cons, shape_equals]

theorem outline_ne_nil (text : List Char) : outline text ≠ [] :=
  mt List.map_eq_nil_iff.mp (splitAt_ne_nil ',' text)

theorem outline_congr {otherText otherMore : List Char} (separates : mark = ',' ∨ mark = '=')
    (ends : outline otherText = outline text) (begins : outline otherMore = outline more) :
    outline (otherText ++ mark :: otherMore) = outline (text ++ mark :: more) := by
  rcases separates with rfl | rfl
  · rw [outline_comma, outline_comma, ends, begins]
  · obtain ⟨first, rest, head⟩ := List.exists_cons_of_ne_nil (outline_ne_nil more)
    have tail := (List.dropLast_append_getLast (outline_ne_nil text)).symm
    rw [outline_equals tail head, outline_equals (ends.trans tail) (begins.trans head)]

/-! ### Other ways to write a list -/

/-- One change to the way in which a list is written: letters get another case, or blanks are put around a
comma or an equals sign. -/
inductive Restyles : List Char → List Char → Prop
  | letters {left right : List Char} (same : lowerAscii left = lowerAscii right) :
      Restyles left right
  | spaces (front back : List Char) {mark : Char} {before behind : List Char}
      (separates : mark = ',' ∨ mark = '=') (ahead : Blank before) (after : Blank behind) :
      Restyles (front ++ mark :: back) (front ++ before ++ mark :: (behind ++ back))

theorem Restyles.outline_eq (restyles : Restyles left right) : outline left = outline right := by
  cases restyles with
  | letters same => rw [← outline_lowerAscii left, same, outline_lowerAscii]
  | spaces front back separates ahead after =>
      exact (outline_congr separates (outline_append_of_blank ahead front)
        (outline_blank_append after back)).symm

/-- The same list after any number of such changes. -/
def Restyled : List Char → List Char → Prop := Relation.ReflTransGen Restyles

theorem outline_of_restyled (restyled : Restyled left right) : outline left = outline right := by
  induction restyled with
  | refl => rfl
  | tail _ last ih => exact ih.trans last.outline_eq

/-! ### Outlines of a single piece -/

theorem shape_of_free (free : '=' ∉ text) : shape text = [lowerAscii (trim text)] := by
  rw [shape, splitAt_of_free free, List.map_singleton]

theorem shape_ne_nil (text : List Char) : shape text ≠ [] :=
  mt List.map_eq_nil_iff.mp (splitAt_ne_nil '=' text)

theorem splitOnce_eq_none (whole : splitOnce separator text = none) : separator ∉ text := by
  intro member
  rw [← takeWhile_of_splitOnce_none whole] at member
  simpa using List.mem_takeWhile_imp member

theorem splitOnce_eq_some {before after : List Char}
    (splits : splitOnce separator text = some (before, after)) :
    separator ∉ before ∧ text = before ++ separator :: after := by
  induction text generalizing before with
  | nil => cases splits
  | cons first rest ih =>
      rw [splitOnce] at splits
      split at splits
      · rename_i own
        cases splits
        exact ⟨List.not_mem_nil, by rw [own, List.nil_append]⟩
      · rename_i other
        obtain ⟨⟨front, behind⟩, inner, same⟩ := Option.map_eq_some_iff.mp splits
        cases same
        obtain ⟨free, whole⟩ := ih inner
        refine ⟨?_, by rw [whole, List.cons_append]⟩
        rw [List.mem_cons, not_or]
        exact ⟨Ne.symm other, free⟩

theorem exists_splitOnce (member : separator ∈ text) :
    ∃ before after, splitOnce separator text = some (before, after) := by
  cases splits : splitOnce separator text with
  | none => exact absurd member (splitOnce_eq_none splits)
  | some parts => exact ⟨parts.1, parts.2, rfl⟩

/-- With an equals sign there are two pieces at least. -/
theorem exists_shape (member : '=' ∈ text) :
    ∃ first second rest, shape text = first :: second :: rest := by
  obtain ⟨before, after, splits⟩ := exists_splitOnce member
  obtain ⟨free, whole⟩ := splitOnce_eq_some splits
  obtain ⟨second, rest, behind⟩ := List.exists_cons_of_ne_nil (shape_ne_nil after)
  exact ⟨_, second, rest, by rw [whole, shape_equals, shape_of_free free, behind]; rfl⟩

theorem shape_eq_singleton_iff (plain : '=' ∉ piece) :
    shape text = [piece] ↔ lowerAscii (trim text) = piece := by
  by_cases member : '=' ∈ text
  · obtain ⟨first, second, rest, pieces⟩ := exists_shape member
    rw [pieces]
    refine ⟨nofun, ?_⟩
    rintro rfl
    exact absurd ((mem_lowerAscii (by decide)).mpr ((mem_trim rfl).mpr member)) plain
  · rw [shape_of_free member, List.singleton_inj]

theorem outline_of_free (free : ',' ∉ text) : outline text = [shape text] := by
  rw [outline, splitAt_of_free free, List.map_singleton]

theorem outline_eq_singleton_iff (whole : ',' ∉ piece) (plain : '=' ∉ piece) :
    outline text = [[piece]] ↔ lowerAscii (trim text) = piece := by
  by_cases member : ',' ∈ text
  · obtain ⟨before, after, splits⟩ := exists_splitOnce member
    obtain ⟨-, parts⟩ := splitOnce_eq_some splits
    constructor
    · intro same
      have pieces := congrArg List.length same
      have front := List.length_pos_of_ne_nil (outline_ne_nil before)
      have back := List.length_pos_of_ne_nil (outline_ne_nil after)
      rw [parts, outline_comma, List.length_append, List.length_singleton] at pieces
      omega
    · rintro rfl
      exact absurd ((mem_lowerAscii (by decide)).mpr ((mem_trim rfl).mpr member)) whole
  · rw [outline_of_free member, List.singleton_inj, shape_eq_singleton_iff plain]

theorem shape_trim (text : List Char) : shape (trim text) = shape text := by
  have blankStart : Blank (text.takeWhile isBlank) := fun _ member => List.mem_takeWhile_imp member
  have blankEnd : Blank ((trimStart text).rtakeWhile isBlank) :=
    fun _ member => List.mem_rtakeWhile_imp member
  have ends : trim text ++ (trimStart text).rtakeWhile isBlank = trimStart text :=
    List.rdropWhile_append_rtakeWhile
  rw [← shape_append_of_blank blankEnd, ends, ← shape_blank_append blankStart,
    trimStart, List.takeWhile_append_dropWhile]

end TieredCache.Text
