import TieredCache.Proofs.Response.Outline
import TieredCache.Proofs.Response.Precedence

/-!
Fields whose values are lists. What a response may do depends on the outlines of such fields only. Main
statement: neither the number of lines that a list is spread over nor the way in which it is written is
of any influence (`lists_read_alike`).
-/

namespace TieredCache

namespace Text

variable {text digits : List Char}

/-! ### Numbers -/

theorem decimalDigit?_toLower (character : Char) :
    decimalDigit? character.toLower = decimalDigit? character := by
  rcases toLower_cases character with same | ⟨low, -, lower⟩
  · rw [same]
  · have beyond (other : Char) (far : 65 ≤ other.toNat) : decimalDigit? other = none :=
      if_neg fun within => absurd (show other.toNat ≤ 57 from within.2) (by omega)
    rw [beyond character low, beyond character.toLower (by omega)]

theorem decimal?_lowerAscii (text : List Char) : decimal? (lowerAscii text) = decimal? text := by
  have empty : (lowerAscii text).isEmpty = text.isEmpty := List.isEmpty_map
  rw [decimal?, decimal?, empty, lowerAscii, List.foldlM_map]
  simp only [decimalDigit?_toLower]

theorem decimal?_of_odd {character : Char} (member : character ∈ text)
    (odd : decimalDigit? character = none) : decimal? text = none := by
  have stops (start : Nat) :
      text.foldlM (fun value digit => (decimalDigit? digit).map (10 * value + ·)) start = none := by
    induction text generalizing start with
    | nil => cases member
    | cons first rest ih =>
        rw [List.foldlM_cons]
        rcases List.mem_cons.mp member with rfl | later
        · rw [odd]
          rfl
        · cases decimalDigit? first with
          | none => rfl
          | some digit => exact ih later _
  rw [decimal?, stops]
  exact ite_self _

/-- A number is a row of digits behind a sign or none. -/
theorem integer?_cons (first : Char) (rest : List Char) : integer? (first :: rest) =
    if first = '-' then (decimal? rest).map fun magnitude => -(magnitude : Int)
    else if first = '+' then (decimal? rest).map fun magnitude => (magnitude : Int)
    else (decimal? (first :: rest)).map fun magnitude => (magnitude : Int) := by
  split
  · rename_i minus
    rw [minus, integer?]
  · rename_i other
    rw [integer?.eq_2 _ fun digits same => other (List.cons.inj same).1]
    split
    · rename_i plus
      rw [plus, natural?]
    · rename_i unsigned
      rw [natural?.eq_2 _ fun digits same => unsigned (List.cons.inj same).1]

theorem integer?_lowerAscii (text : List Char) : integer? (lowerAscii text) = integer? text := by
  cases text with
  | nil => rfl
  | cons first rest =>
      have whole := decimal?_lowerAscii (first :: rest)
      change integer? (first.toLower :: lowerAscii rest) = _
      change decimal? (first.toLower :: lowerAscii rest) = _ at whole
      rw [integer?_cons, integer?_cons, whole, decimal?_lowerAscii]
      simp only [toLower_eq_iff (show '-'.toNat < 65 by decide),
        toLower_eq_iff (show '+'.toNat < 65 by decide)]

theorem integer?_of_equals (member : '=' ∈ text) : integer? text = none := by
  have odd : decimalDigit? '=' = none := by decide
  cases text with
  | nil => cases member
  | cons first rest =>
      rw [integer?_cons, decimal?_of_odd member odd]
      rcases List.mem_cons.mp member with rfl | later
      · rfl
      · rw [decimal?_of_odd later odd]
        simp

end Text

namespace Directive
open Text

def gist (directive : Directive) : List Char × Nat := (directive.name, directive.seconds)

def gistOfShape? : List (List Char) → Option (List Char × Nat)
  | [] => none
  | [name] => if name = [] then none else some (name, 0)
  | [name, argument] => some (gist ⟨name, some (trimMatches '"' argument)⟩)
  | name :: _ => some (name, 0)

theorem gist_of_number {name : List Char} {argument other : Option (List Char)}
    (same : argument.bind integer? = other.bind integer?) :
    gist ⟨name, argument⟩ = gist ⟨name, other⟩ := by
  rw [gist, gist, seconds, seconds, same]

theorem gist_ofElement? (element : List Char) :
    (ofElement? element).map gist = gistOfShape? (shape element) := by
  rw [← shape_trim]
  unfold ofElement?
  by_cases empty : trim element = []
  · simp only [empty]
    rfl
  · have filled : (trim element).isEmpty = false := List.isEmpty_eq_false_iff.mpr empty
    simp only [filled]
    cases splits : splitOnce '=' (trim element) with
    | none =>
        have named : lowerAscii (trim element) ≠ [] := mt List.map_eq_nil_iff.mp empty
        rw [shape_of_free (splitOnce_eq_none splits), trim_trim]
        simp only [gistOfShape?, if_neg named]
        rfl
    | some parts =>
        obtain ⟨name, argument⟩ := parts
        obtain ⟨free, whole⟩ := splitOnce_eq_some splits
        rw [whole, shape_equals, shape_of_free free]
        by_cases more : '=' ∈ argument
        · -- a second equals sign belongs to the argument, which is no number then
          obtain ⟨first, second, rest, pieces⟩ := exists_shape more
          have odd : '=' ∈ trimMatches '"' (trim argument) := by
            rwa [trimMatches, mem_dropEndWhile (by decide), mem_dropWhile (by decide), mem_trim rfl]
          rw [pieces]
          refine congrArg some (@gist_of_number _ _ none ?_)
          exact integer?_of_equals odd
        · rw [shape_of_free more]
          refine congrArg some (gist_of_number ?_)
          rw [trimMatches_lowerAscii (by decide)]
          exact (integer?_lowerAscii _).symm

end Directive

namespace Field
open Text

variable {field : Field} {list name : String}

theorem hasName_of_hasName (own : field.hasName list = true) (name : String) :
    field.hasName name = equalIgnoringCase list.toList name.toList := by
  rw [hasName, equalIgnoringCase, equalIgnoringCase, of_decide_eq_true own]

def IsList (field : Field) : Prop :=
  ∃ list ∈ ["cache-control", "vary", "pragma"], field.hasName list = true

/-- The same field, its name in other letters; a list may be written in another way. -/
structure Restyled (left right : Field) : Prop where
  name : lowerAscii left.name.toList = lowerAscii right.name.toList
  value : left.value = right.value ∨ left.IsList ∧ Text.Restyled left.value.toList right.value.toList

variable {left right : Field}

theorem Restyled.hasName_eq (restyled : Restyled left right) (name : String) :
    left.hasName name = right.hasName name := by
  rw [hasName, hasName, equalIgnoringCase, equalIgnoringCase, restyled.name]

theorem Restyled.outline_eq (restyled : Restyled left right) :
    outline left.value.toList = outline right.value.toList := by
  rcases restyled.value with same | ⟨-, changed⟩
  · rw [same]
  · exact outline_of_restyled changed

theorem Restyled.value_eq (restyled : Restyled left right) (own : left.hasName name = true)
    (plain : ∀ list ∈ ["cache-control", "vary", "pragma"],
      equalIgnoringCase list.toList name.toList = false) : left.value = right.value := by
  rcases restyled.value with same | ⟨⟨list, listed, named⟩, -⟩
  · exact same
  · rw [hasName_of_hasName named, plain list listed] at own
    cases own

end Field

namespace Head
open Text

variable {left right : Head} {list name : String}

/-! ### What the rules depend on -/

def outlines (head : Head) (name : String) : List (List (List Char)) :=
  (head.values name).flatMap fun value => outline value.toList

theorem outlines_eq (head : Head) (name : String) :
    head.outlines name = (head.elements name).map shape := by
  rw [elements, List.map_flatMap]
  rfl

theorem gist_directives (head : Head) : head.directives.map Directive.gist =
    (head.outlines "cache-control").filterMap Directive.gistOfShape? := by
  rw [outlines_eq, directives, Directive.ofList, List.map_filterMap, List.filterMap_map]
  exact List.filterMap_congr fun element _ => Directive.gist_ofElement? element

def variesByEncoding (pieces : List (List Char)) : Bool :=
  pieces = [[]] || pieces = ["accept-encoding".toList]

theorem hasAcceptableVary_eq (head : Head) :
    head.hasAcceptableVary = (head.outlines "vary").all variesByEncoding := by
  rw [hasAcceptableVary, outlines_eq, List.all_map, List.all_map]
  refine congrArg _ (funext fun element => ?_)
  have empty : (trim element).isEmpty = decide (shape element = [[]]) := by
    rw [Bool.eq_iff_iff, List.isEmpty_iff, decide_eq_true_eq, shape_eq_singleton_iff List.not_mem_nil]
    exact List.map_eq_nil_iff.symm
  have named : equalIgnoringCase (trim element) "accept-encoding".toList =
      decide (shape element = ["accept-encoding".toList]) := by
    refine decide_eq_decide.mpr ?_
    rw [shape_eq_singleton_iff (by decide)]
    rfl
  simp only [Function.comp_apply, empty, named, variesByEncoding]

theorem pragma_eq (head : Head) : ((head.values "pragma").any fun value =>
      equalIgnoringCase (trim value.toList) "no-cache".toList) =
    ((head.values "pragma").map fun value => outline value.toList).any
      fun pieces => pieces = [["no-cache".toList]] := by
  rw [List.any_map]
  refine congrArg _ (funext fun value => decide_eq_decide.mpr ?_)
  rw [outline_eq_singleton_iff (by decide) (by decide)]
  rfl

structure Agree (left right : Head) : Prop where
  status : left.status = right.status
  directives : left.directives.map Directive.gist = right.directives.map Directive.gist
  vary : left.outlines "vary" = right.outlines "vary"
  pragma : ((left.values "pragma").map fun value => outline value.toList) =
    (right.values "pragma").map fun value => outline value.toList
  date : left.values "date" = right.values "date"
  expires : left.values "expires" = right.values "expires"

/-- Heads that the rules of storing do not tell apart. -/
structure TreatedAlike (left right : Head) : Prop where
  storable : left.isStorable = right.isStorable
  vary : left.hasAcceptableVary = right.hasAcceptableVary
  freshness : ∀ now implicitLifetime,
    left.freshness? now implicitLifetime = right.freshness? now implicitLifetime

theorem any_forbidsStoring (head : Head) : head.directives.any forbidsStoring =
    (head.directives.map Directive.gist).any fun gist => forbidsStoring ⟨gist.1, none⟩ := by
  rw [List.any_map]
  rfl

theorem maxAge?_eq (head : Head) (name : String) : head.maxAge? name =
    ((head.directives.map Directive.gist).find? (·.1 = name.toList)).map (·.2) := by
  rw [List.find?_map, Option.map_map]
  rfl

theorem Agree.treatedAlike (agree : Agree left right) : TreatedAlike left right := by
  have forbids : left.directives.any forbidsStoring = right.directives.any forbidsStoring := by
    rw [any_forbidsStoring, any_forbidsStoring, agree.directives]
  have declares (name : String) : left.maxAge? name = right.maxAge? name := by
    rw [maxAge?_eq, maxAge?_eq, agree.directives]
  have date : left.soleValue? "date" = right.soleValue? "date" := by
    rw [soleValue?, soleValue?, agree.date]
  have expires : left.soleValue? "expires" = right.soleValue? "expires" := by
    rw [soleValue?, soleValue?, agree.expires]
  refine ⟨?_, ?_, fun now implicitLifetime => ?_⟩
  · rw [isStorable, isStorable, forbids, pragma_eq, pragma_eq, agree.pragma]
  · rw [hasAcceptableVary_eq, hasAcceptableVary_eq, agree.vary]
  · rw [freshness?, freshness?, dateOr_congr date]
    simp only [declaredLifetime?, declares, expires, agree.status]

/-! ### Several lines -/

/-- Two lines of a field, with no other line of it between them, become one in the place of the first. -/
inductive Gathers (list : String) : Head → Head → Prop
  | lines {status : UInt16} {freshness : Option Freshness} (front between back : List Field)
      {first second one : Field} (opens : first.hasName list = true)
      (closes : second.hasName list = true) (apart : ∀ field ∈ between, field.hasName list = false)
      (own : one.hasName list = true) (joined : one.value = first.value ++ "," ++ second.value) :
      Gathers list ⟨status, front ++ first :: (between ++ second :: back), freshness⟩
        ⟨status, front ++ one :: (between ++ back), freshness⟩

theorem Gathers.status_eq (gathers : Gathers list left right) : left.status = right.status := by
  cases gathers with
  | lines => rfl

/-- Other fields are untouched. -/
theorem Gathers.values_eq (gathers : Gathers list left right)
    (other : equalIgnoringCase list.toList name.toList = false) :
    left.values name = right.values name := by
  cases gathers with
  | lines front between back opens closes apart own joined =>
      have foreign {field : Field} (named : field.hasName list = true) : field.hasName name = false :=
        (Field.hasName_of_hasName named name).trans other
      simp [values, foreign opens, foreign closes, foreign own]

/-- No element is lost, and none changes its place among the others. -/
theorem Gathers.elements_eq (gathers : Gathers list left right) (name : String) :
    left.elements name = right.elements name := by
  cases same : equalIgnoringCase list.toList name.toList with
  | false => rw [elements, elements, gathers.values_eq same]
  | true =>
      cases gathers with
      | @lines _ _ front between back first second one opens closes apart own joined =>
          have named {field : Field} (listed : field.hasName list = true) :
              field.hasName name = true :=
            (Field.hasName_of_hasName listed name).trans same
          have silent : between.filter (·.hasName name) = [] := by
            refine List.filter_eq_nil_iff.mpr fun field member present => ?_
            have alike : field.hasName list = true := by
              have equal := (of_decide_eq_true present).trans (of_decide_eq_true same).symm
              exact decide_eq_true equal
            rw [apart field member] at alike
            cases alike
          have whole : one.value.toList = first.value.toList ++ ',' :: second.value.toList := by
            simp [joined]
          simp only [elements, values, List.filter_append, List.filter_cons, named opens,
            named closes, named own, silent, if_true, List.nil_append, List.map_append, List.map_cons,
            List.flatMap_append, List.flatMap_cons, whole, splitAt_separator, List.append_assoc]

theorem Gathers.directives_eq (gathers : Gathers list left right) :
    left.directives = right.directives := by
  rw [directives, directives, gathers.elements_eq]

private theorem lists_apart : ∀ list ∈ ["cache-control", "vary"], ∀ name ∈ ["pragma", "date", "expires"],
    equalIgnoringCase list.toList name.toList = false := by
  decide

theorem Gathers.agree (gathers : Gathers list left right) (listed : list ∈ ["cache-control", "vary"]) :
    Agree left right := by
  have foreign (name : String) (plain : name ∈ ["pragma", "date", "expires"]) :
      left.values name = right.values name :=
    gathers.values_eq (lists_apart list listed name plain)
  refine ⟨gathers.status_eq, by rw [gathers.directives_eq], ?_, ?_, ?_, ?_⟩
  · rw [outlines_eq, outlines_eq, gathers.elements_eq]
  · rw [foreign "pragma" (by decide)]
  · exact foreign "date" (by decide)
  · exact foreign "expires" (by decide)

/-! ### Other ways to write a head -/

/-- The same head, with fields that are written in another way. -/
structure Restyled (left right : Head) : Prop where
  status : left.status = right.status
  fields : List.Forall₂ Field.Restyled left.fields right.fields

/-- The values of a name read alike if those of each pair of lines do. -/
theorem Restyled.map_values {β : Type} (restyled : Restyled left right) (reading : String → β)
    (same : ∀ field other : Field, field.hasName name = true → Field.Restyled field other →
      reading field.value = reading other.value) :
    (left.values name).map reading = (right.values name).map reading := by
  rw [values, values, List.map_map, List.map_map]
  have fields := restyled.fields
  generalize left.fields = before, right.fields = after at fields
  induction fields with
  | nil => rfl
  | @cons field other rest others restyled fields ih =>
      rw [List.filter_cons, List.filter_cons, ← restyled.hasName_eq]
      split
      · rename_i own
        rw [List.map_cons, List.map_cons, ih]
        exact congrArg (· :: _) (same field other own restyled)
      · exact ih

theorem Restyled.outline_values (restyled : Restyled left right) (name : String) :
    ((left.values name).map fun value => outline value.toList) =
      (right.values name).map fun value => outline value.toList :=
  restyled.map_values _ fun _ _ _ lines => lines.outline_eq

theorem Restyled.values_eq (restyled : Restyled left right)
    (plain : ∀ list ∈ ["cache-control", "vary", "pragma"],
      equalIgnoringCase list.toList name.toList = false) :
    left.values name = right.values name := by
  have same := restyled.map_values id fun _ _ own lines => lines.value_eq own plain
  rwa [List.map_id, List.map_id] at same

theorem Restyled.agree (restyled : Restyled left right) : Agree left right := by
  have outlined (name : String) : left.outlines name = right.outlines name := by
    rw [outlines, outlines, List.flatMap, List.flatMap, restyled.outline_values]
  refine ⟨restyled.status, ?_, outlined "vary", restyled.outline_values "pragma",
    restyled.values_eq (by decide), restyled.values_eq (by decide)⟩
  rw [gist_directives, gist_directives, outlined]

/-- A list may be spread over several lines and written in letters of any case, with blanks around its
commas and equals signs: the rules of storing treat the response alike, and the lines read like one. -/
theorem lists_read_alike :
    (∀ (list : String) (left right : Head), list ∈ ["cache-control", "vary"] →
      Gathers list left right → left.directives = right.directives ∧ TreatedAlike left right) ∧
    (∀ left right : Head, Restyled left right → TreatedAlike left right) :=
  ⟨fun _ _ _ listed gathers => ⟨gathers.directives_eq, (gathers.agree listed).treatedAlike⟩,
    fun _ _ restyled => restyled.agree.treatedAlike⟩

private def spread : Head :=
  .ofFields 404 [⟨"CACHE-control", "max-age=\"10,"⟩, ⟨"Vary", "Accept-Encoding"⟩,
    ⟨"Cache-Control", "S-MaxAge=20"⟩]

private def gathered : Head :=
  .ofFields 404 [⟨"Cache-Control", "max-age=\"10,,S-MaxAge=20"⟩, ⟨"Vary", "Accept-Encoding"⟩]

private def respelled : Head :=
  .ofFields 404 [⟨"cache-control", "MAX-AGE=\"10,,s-maxage = 20"⟩, ⟨"VARY", "accept-encoding"⟩]

private theorem gathers_spread : Gathers "cache-control" spread gathered :=
  .lines [] [⟨"Vary", "Accept-Encoding"⟩] [] (by decide) (by decide) (by decide) (by decide)
    (by decide)

private theorem restyled_gathered : Restyled gathered respelled := by
  have lettered : Restyles "max-age=\"10,,S-MaxAge=20".toList "MAX-AGE=\"10,,s-maxage=20".toList :=
    .letters (by decide)
  have blank : Blank " ".toList := List.all_eq_true.mp (by decide)
  have spaced : Restyles ("MAX-AGE=\"10,,s-maxage".toList ++ '=' :: "20".toList)
      ("MAX-AGE=\"10,,s-maxage".toList ++ " ".toList ++ '=' :: (" ".toList ++ "20".toList)) :=
    .spaces _ _ (.inr rfl) blank blank
  have lifetimes : Field.Restyled ⟨"Cache-Control", "max-age=\"10,,S-MaxAge=20"⟩
      ⟨"cache-control", "MAX-AGE=\"10,,s-maxage = 20"⟩ :=
    ⟨by decide, .inr ⟨⟨"cache-control", by decide, by decide⟩, .head lettered (.single spaced)⟩⟩
  have names : Field.Restyled ⟨"Vary", "Accept-Encoding"⟩ ⟨"VARY", "accept-encoding"⟩ :=
    ⟨by decide, .inr ⟨⟨"vary", by decide, by decide⟩, .single (.letters (by decide))⟩⟩
  exact ⟨rfl, .cons lifetimes (.cons names .nil)⟩

theorem lists_read_alike_quoted :
    Gathers "cache-control" spread gathered ∧ Restyled gathered respelled ∧
      spread.directives = gathered.directives ∧ TreatedAlike spread gathered ∧
      TreatedAlike gathered respelled ∧
      respelled.freshness? 0 0 = some ⟨0, .ofSeconds 20, true⟩ := by
  obtain ⟨lines, styles⟩ := lists_read_alike
  obtain ⟨directives, alike⟩ := lines "cache-control" spread gathered (by decide) gathers_spread
  exact ⟨gathers_spread, restyled_gathered, directives, alike, styles _ _ restyled_gathered,
    by decide +kernel⟩

end Head

end TieredCache
