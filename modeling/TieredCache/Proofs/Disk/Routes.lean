import TieredCache.Disk.Route

/-!
The names that routes are made of. Main statements: going on from a route adds the names of what is
joined, and going up takes the last name away.
-/

namespace TieredCache

namespace FilePath

variable {front back : Bytes}

theorem names_ne_nil (text : Bytes) : names text ≠ [] := by
  cases text with
  | nil => exact List.cons_ne_nil _ _
  | cons octet rest =>
      rw [names]
      split
      · exact List.cons_ne_nil _ _
      · split <;> exact List.cons_ne_nil _ _

theorem names_cons_of_ne {octet : UInt8} (other : octet ≠ slash) {rest : Bytes} {name : Name}
    {further : List Name} (split : names rest = name :: further) :
    names (octet :: rest) = (octet :: name) :: further := by
  rw [names, if_neg other, split]

theorem names_append_slash (front back : Bytes) :
    names (front ++ slash :: back) = names front ++ names back := by
  induction front with
  | nil =>
      change names (slash :: back) = [[]] ++ names back
      rw [names, if_pos rfl]
      rfl
  | cons octet rest ih =>
      rw [List.cons_append]
      by_cases same : octet = slash
      · rw [names, if_pos same, names, if_pos same, ih]
        rfl
      · obtain ⟨name, further, split⟩ := List.exists_cons_of_ne_nil (names_ne_nil rest)
        have whole : names (rest ++ slash :: back) = name :: (further ++ names back) := by
          rw [ih, split]
          rfl
        rw [names_cons_of_ne same split, names_cons_of_ne same whole]
        rfl

theorem names_of_no_slash {name : Name} (plain : slash ∉ name) : names name = [name] := by
  induction name with
  | nil => rfl
  | cons octet rest ih =>
      have other : octet ≠ slash := fun same => plain (same ▸ List.mem_cons_self)
      exact names_cons_of_ne other (ih fun member => plain (List.mem_cons_of_mem _ member))

theorem not_slash_of_mem_names {text : Bytes} {name : Name} (member : name ∈ names text) :
    slash ∉ name := by
  induction text generalizing name with
  | nil =>
      rw [List.mem_singleton.mp member]
      exact List.not_mem_nil
  | cons octet rest ih =>
      by_cases same : octet = slash
      · rw [names, if_pos same] at member
        rcases List.mem_cons.mp member with rfl | later
        · exact List.not_mem_nil
        · exact ih later
      · obtain ⟨first, further, split⟩ := List.exists_cons_of_ne_nil (names_ne_nil rest)
        rw [names_cons_of_ne same split] at member
        rw [split] at ih
        rcases List.mem_cons.mp member with rfl | later
        · intro inside
          rcases List.mem_cons.mp inside with equal | later
          · exact same equal.symm
          · exact ih List.mem_cons_self later
        · exact ih (List.mem_cons_of_mem _ later)

theorem intercalate_names (text : Bytes) : [slash].intercalate (names text) = text := by
  induction text with
  | nil => rfl
  | cons octet rest ih =>
      obtain ⟨first, further, split⟩ := List.exists_cons_of_ne_nil (names_ne_nil rest)
      rw [split] at ih
      by_cases same : octet = slash
      · rw [names, if_pos same, split, List.intercalate_cons_cons, ih, same]
        rfl
      · rw [names_cons_of_ne same split]
        cases further with
        | nil =>
            have whole : first = rest := by simpa [List.intercalate] using ih
            simp [List.intercalate, whole]
        | cons next later =>
            rw [List.intercalate_cons_cons] at ih ⊢
            rw [← ih]
            rfl

theorem names_intercalate_flatMap {texts : List Bytes} (filled : texts ≠ []) :
    names ([slash].intercalate texts) = texts.flatMap names := by
  induction texts with
  | nil => exact absurd rfl filled
  | cons text further ih =>
      cases further with
      | nil => simp [List.intercalate]
      | cons next later =>
          rw [List.intercalate_cons_cons, List.append_assoc, List.singleton_append,
            names_append_slash, ih (List.cons_ne_nil _ _)]
          rfl

theorem names_inj {left right : Bytes} (same : names left = names right) : left = right := by
  rw [← intercalate_names left, same, intercalate_names]

/-- A text of several names is the last one behind the text of the others. -/
theorem exists_front {text : Bytes} {before : List Name} {name : Name}
    (split : names text = before ++ [name]) (several : before ≠ []) :
    ∃ front, text = front ++ slash :: name ∧ names front = before := by
  have single : ∀ other ∈ before ++ [name], names other = [other] := fun other member =>
    names_of_no_slash (not_slash_of_mem_names (split ▸ member))
  have own : names ([slash].intercalate before) = before := by
    rw [names_intercalate_flatMap several]
    rw [List.flatMap_def, List.map_congr_left fun other member =>
      single other (List.mem_append_left _ member), ← List.flatMap_def, List.flatMap_singleton']
  refine ⟨[slash].intercalate before, names_inj ?_, own⟩
  rw [names_append_slash, own, split, single name (List.mem_append_right _ List.mem_cons_self)]

/-- Whether a name leads anywhere: it is neither empty nor a dot. -/
def leads (name : Name) : Bool := !name.isEmpty && name ≠ Name.here

def leading (text : Bytes) : List Name := (names text).filter leads

theorem leading_append_slash (front back : Bytes) :
    leading (front ++ slash :: back) = leading front ++ leading back := by
  rw [leading, names_append_slash, List.filter_append]
  rfl

theorem leading_of_no_slash {name : Name} (plain : slash ∉ name) :
    leading name = if leads name then [name] else [] := by
  rw [leading, names_of_no_slash plain, List.filter_cons, List.filter_nil]

end FilePath

namespace Route
open FilePath

variable {route : Route} {relative : Bytes}

theorem names_eq_leading (route : Route) : route.names = leading route.text := rfl

theorem text_ne_nil_of_names (filled : route.names ≠ []) : route.text ≠ [] := by
  intro empty
  apply filled
  rw [names_eq_leading, empty]
  rfl

/-! ### Going on -/

/-- What is joined stands behind a slash, or behind nothing. -/
theorem join_text_cases (root relative : Bytes) :
    (root = [] ∧ Key.join root relative = relative) ∨
      ∃ front, Key.join root relative = front ++ slash :: relative ∧
        (root = front ∨ root = front ++ [slash]) := by
  unfold Key.join
  split
  · rename_i closed
    rcases closed with empty | ends
    · have nothing : root = [] := List.isEmpty_iff.mp empty
      subst nothing
      exact .inl ⟨rfl, rfl⟩
    · obtain ⟨front, rfl⟩ := List.getLast?_eq_some_iff.mp ends
      refine .inr ⟨front, ?_, .inr rfl⟩
      rw [List.append_assoc]
      rfl
  · exact .inr ⟨root, rfl, .inl rfl⟩

theorem leading_join (root relative : Bytes) :
    leading (Key.join root relative) = leading root ++ leading relative := by
  rcases join_text_cases root relative with ⟨rfl, joined⟩ | ⟨front, joined, rfl | rfl⟩
  · rw [joined]
    rfl
  · rw [joined, leading_append_slash]
  · rw [joined, leading_append_slash, leading_append_slash]
    change _ = (leading front ++ []) ++ _
    rw [List.append_nil]

theorem names_join (below : isAbsolute relative = false) :
    (route.join relative).names = route.names ++ leading relative := by
  rw [join, below, if_neg Bool.false_ne_true]
  exact leading_join _ _

theorem join_text (below : isAbsolute relative = false) :
    (route.join relative).text = Key.join route.text relative := by
  rw [join, below, if_neg Bool.false_ne_true]

theorem length_le_join (below : isAbsolute relative = false) :
    relative.length ≤ (route.join relative).text.length := by
  rw [join_text below, Key.join]
  split <;> simp only [List.length_append, List.length_cons] <;> omega

theorem isAbsolute_join (below : isAbsolute relative = false) :
    isAbsolute (route.join relative).text = isAbsolute route.text := by
  rw [join_text below, Key.join]
  cases route.text with
  | nil => exact below
  | cons first rest => split <;> rfl

theorem origin_join (below : isAbsolute relative = false) :
    (route.join relative).origin = route.origin := by
  have start : (route.join relative).start = route.start := by
    rw [join, below, if_neg Bool.false_ne_true]
  rw [origin, origin, isAbsolute_join below, start]

theorem names_join_text (root relative : Bytes) :
    ∃ before, FilePath.names (Key.join root relative) = before ++ FilePath.names relative := by
  rcases join_text_cases root relative with ⟨-, joined⟩ | ⟨front, joined, -⟩
  · exact ⟨[], by rw [joined, List.nil_append]⟩
  · exact ⟨FilePath.names front, by rw [joined, names_append_slash]⟩

theorem mem_join_text {octet : UInt8} (other : octet ≠ slash) {root relative : Bytes}
    (member : octet ∈ Key.join root relative) : octet ∈ root ∨ octet ∈ relative := by
  rw [Key.join] at member
  split at member
  · exact List.mem_append.mp member
  · rcases List.mem_append.mp member with early | late
    · exact .inl early
    · exact .inr ((List.mem_cons.mp late).resolve_left other)

/-- A route that ends in a name asks for nothing else. -/
theorem ending_of_last {name : Name} {before : List Name}
    (split : FilePath.names route.text = before ++ [name])
    (leads : leads name = true) : route.ending = .plain := by
  have filled : name.isEmpty = false := by
    cases empty : name.isEmpty with
    | false => rfl
    | true => rw [FilePath.leads, empty] at leads; cases leads
  have other : name ≠ Name.here := by
    intro same
    rw [FilePath.leads, same] at leads
    exact absurd leads (by decide)
  have last : ((FilePath.names route.text).reverse.dropWhile List.isEmpty).head? = some name := by
    rw [split, List.reverse_concat, List.dropWhile_cons, filled]
    rfl
  have opened : route.text.getLast? ≠ some slash := by
    intro closed
    obtain ⟨front, text⟩ := List.getLast?_eq_some_iff.mp closed
    have ends := names_append_slash front []
    rw [← text, split] at ends
    have same := List.append_inj_right' ends rfl
    rw [(List.cons.inj same).1] at filled
    cases filled
  rw [ending, last, if_neg (by simpa using other), if_neg opened]

/-! ### Going up -/

theorem trimmed_cases (text : Bytes) :
    trimmed text = text ∧ (text = [] ∨ ∃ octet rest, text = octet :: rest ∧ octet ≠ slash ∧
        ¬(octet = 46 ∧ rest.head? = some slash)) ∨
      (∃ rest, text = slash :: rest ∧ trimmed text = trimmed rest) ∨
      ∃ rest, text = 46 :: slash :: rest ∧ trimmed text = trimmed (slash :: rest) := by
  cases text with
  | nil => exact .inl ⟨rfl, .inl rfl⟩
  | cons octet rest =>
      by_cases same : octet = slash
      · exact .inr (.inl ⟨rest, by rw [same], by rw [trimmed, if_pos same]⟩)
      · by_cases dotted : octet = 46 ∧ rest.head? = some slash
        · obtain ⟨rfl, first⟩ := dotted
          obtain ⟨below, rfl⟩ := List.head?_eq_some_iff.mp first
          refine .inr (.inr ⟨below, rfl, ?_⟩)
          rw [trimmed, if_neg same, if_pos (by simp)]
        · refine .inl ⟨?_, .inr ⟨octet, rest, rfl, same, dotted⟩⟩
          rw [trimmed, if_neg same, if_neg (by simpa using dotted)]

/-- Trimming takes away nothing that leads anywhere. -/
theorem leading_trimmed (text : Bytes) : leading (trimmed text).reverse = leading text.reverse := by
  induction size : text.length using Nat.strongRecOn generalizing text with
  | ind bound ih =>
      rcases trimmed_cases text with ⟨same, -⟩ | ⟨rest, rfl, same⟩ | ⟨rest, rfl, same⟩
      · rw [same]
      · rw [same, ih rest.length (by rw [← size]; exact Nat.lt_succ_self _) rest rfl,
          List.reverse_cons, leading_append_slash]
        exact (List.append_nil _).symm
      · rw [same, ih (rest.length + 1) (by rw [← size]; exact Nat.lt_succ_self _) _ rfl,
          List.reverse_cons, List.reverse_cons, List.reverse_cons, List.append_assoc,
          List.singleton_append, leading_append_slash, leading_append_slash]
        rfl

theorem trimmed_stops (text : Bytes) : trimmed text = [] ∨ ∃ octet rest,
    trimmed text = octet :: rest ∧ octet ≠ slash ∧ ¬(octet = 46 ∧ rest.head? = some slash) := by
  induction size : text.length using Nat.strongRecOn generalizing text with
  | ind bound ih =>
      rcases trimmed_cases text with ⟨same, stop⟩ | ⟨rest, rfl, same⟩ | ⟨rest, rfl, same⟩
      · rw [same]
        exact stop
      · rw [same]
        exact ih rest.length (by rw [← size]; exact Nat.lt_succ_self _) rest rfl
      · rw [same]
        exact ih (rest.length + 1) (by rw [← size]; exact Nat.lt_succ_self _) _ rfl

/-- A text, last octet first, is its last name and what is above it. -/
theorem names_dropWhile {text : Bytes} (stops : ∃ octet rest, text = octet :: rest ∧
      octet ≠ slash ∧ ¬(octet = 46 ∧ rest.head? = some slash))
    (filled : leading text.reverse ≠ []) :
    ∃ before name, FilePath.names text.reverse = before ++ [name] ∧ leads name = true ∧
      leading text.reverse = leading (text.dropWhile (· ≠ slash)).reverse ++ [name] := by
  obtain ⟨octet, rest, rfl, other, undotted⟩ := stops
  have parts := List.takeWhile_append_dropWhile (p := (· ≠ slash)) (l := octet :: rest)
  generalize names : ((octet :: rest).takeWhile (· ≠ slash)) = name at parts
  generalize tail : ((octet :: rest).dropWhile (· ≠ slash)) = above at parts ⊢
  have first : name = octet :: rest.takeWhile (· ≠ slash) := by
    rw [← names, List.takeWhile_cons, if_pos (by simpa using other)]
  have plain : slash ∉ name.reverse := by
    intro member
    rw [List.mem_reverse, ← names] at member
    have before := List.all_takeWhile (p := (· ≠ slash)) (l := octet :: rest)
    exact absurd (List.all_eq_true.mp before _ member) (by simp)
  have own : leading name.reverse = if leads name.reverse then [name.reverse] else [] :=
    leading_of_no_slash plain
  cases above with
  | nil =>
      have whole : octet :: rest = name := by rw [← parts, List.append_nil]
      rw [whole, own] at filled ⊢
      split
      · rename_i leading_name
        exact ⟨[], name.reverse, names_of_no_slash plain, leading_name, rfl⟩
      · rename_i idle
        rw [if_neg idle] at filled
        exact absurd rfl filled
  | cons next further =>
      have stop : next = slash := by
        have stopped := List.head?_dropWhile_not (p := (· ≠ slash)) (octet :: rest)
        rw [tail] at stopped
        simpa using stopped
      subst stop
      have whole : (octet :: rest).reverse = further.reverse ++ slash :: name.reverse := by
        rw [← parts, List.reverse_append, List.reverse_cons, List.append_assoc]
        rfl
      have leading_name : leads name.reverse = true := by
        rw [leads, Bool.and_eq_true, decide_eq_true_eq]
        constructor
        · rw [first]
          simp
        · -- A lone dot would have been trimmed together with the slash before it.
          intro here
          have lone : name = [46] := by simpa [Name.here] using congrArg List.reverse here
          rw [lone] at parts
          have inside := List.cons.inj parts
          exact undotted ⟨inside.1.symm, by rw [← inside.2]; rfl⟩
      refine ⟨FilePath.names further.reverse, name.reverse, ?_, leading_name, ?_⟩
      · rw [whole, names_append_slash, names_of_no_slash plain]
      · rw [whole, leading_append_slash, own, if_pos leading_name, List.reverse_cons,
          leading_append_slash, show leading [] = [] from rfl, List.append_nil]

/-- A trimmed text ends in a name, if any name is left. -/
theorem ending_of_trimmed {text : Bytes} (same : route.text = (trimmed text).reverse)
    (filled : route.names ≠ []) : route.ending = .plain := by
  have names : leading (trimmed text).reverse ≠ [] := by
    rw [← same]
    exact filled
  have stops := (trimmed_stops text).resolve_left
    (by intro empty; rw [empty] at names; exact names rfl)
  obtain ⟨before, name, split, own, -⟩ := names_dropWhile stops names
  rw [← same] at split
  exact ending_of_last split own

/-- Going up takes the last name away. -/
theorem names_parent (filled : route.names ≠ []) : route.parent.names = route.names.dropLast := by
  have whole : leading (trimmed route.text.reverse).reverse = route.names := by
    rw [leading_trimmed, List.reverse_reverse]
    rfl
  have stops := (trimmed_stops route.text.reverse).resolve_left
    (by intro empty; rw [empty] at whole; exact filled whole.symm)
  obtain ⟨-, name, -, -, split⟩ := names_dropWhile stops (by rw [whole]; exact filled)
  rw [whole, ← leading_trimmed] at split
  rw [split, List.dropLast_concat, names_eq_leading, parent]
  dsimp only
  split
  · rename_i top
    rw [Bool.and_eq_true, List.isEmpty_iff] at top
    rw [top.1]
    rfl
  · rfl

/-- Nothing is trimmed behind a name. -/
theorem trimmed_of_last {text : Bytes} {before : List Name} {name : Name}
    (split : FilePath.names text = before ++ [name]) (forward : leads name = true) :
    trimmed text.reverse = text.reverse := by
  have plain : slash ∉ name := not_slash_of_mem_names (by rw [split]; simp)
  rw [leads, Bool.and_eq_true, Bool.not_eq_true', decide_eq_true_eq] at forward
  obtain ⟨rest, octet, shape⟩ := (List.eq_nil_or_concat name).resolve_left
    fun empty => by simp [empty] at forward
  rw [List.concat_eq_append] at shape
  subst shape
  have ends : ∃ behind, text.reverse = octet :: (rest.reverse ++ behind) ∧
      (behind = [] ∨ behind.head? = some slash) := by
    by_cases single : before = []
    · rw [single] at split
      have only : text = rest ++ [octet] := names_inj (split.trans (names_of_no_slash plain).symm)
      exact ⟨[], by simp [only], .inl rfl⟩
    · obtain ⟨front, rfl, -⟩ := exists_front split single
      exact ⟨slash :: front.reverse, by simp, .inr rfl⟩
  obtain ⟨behind, whole, opened⟩ := ends
  have other : octet ≠ slash := fun same => plain (by simp [same])
  have undotted : ¬(octet = 46 ∧ (rest.reverse ++ behind).head? = some slash) := by
    rintro ⟨rfl, next⟩
    cases turned : rest.reverse with
    | nil =>
        rw [List.reverse_eq_nil_iff] at turned
        exact forward.2 (by rw [turned]; rfl)
    | cons first further =>
        rw [turned] at next
        have inside : first ∈ rest := List.mem_reverse.mp (turned ▸ List.mem_cons_self)
        cases next
        exact plain (List.mem_append_left _ inside)
  rw [whole, trimmed, if_neg other, if_neg (by simpa using undotted)]

/-- Going up from a name behind another one leaves the text before the slash between them. -/
theorem text_parent {front : Bytes} {before : List Name} {folder leaf : Name}
    (text : route.text = front ++ slash :: leaf)
    (split : FilePath.names route.text = before ++ [folder] ++ [leaf]) (forward : leads leaf = true)
    (above : leads folder = true) : route.parent.text = front := by
  have plain : slash ∉ leaf := not_slash_of_mem_names (by rw [split]; simp)
  have whole := trimmed_of_last split forward
  have turned : route.text.reverse = leaf.reverse ++ slash :: front.reverse := by
    rw [text]
    simp
  have dropped : (leaf.reverse ++ slash :: front.reverse).dropWhile (· ≠ slash) =
      slash :: front.reverse := by
    rw [List.dropWhile_append_of_pos, List.dropWhile_cons_of_neg (by simp)]
    intro octet member
    have other : octet ≠ slash := fun same => plain (same ▸ List.mem_reverse.mp member)
    simpa using other
  have names : FilePath.names front = before ++ [folder] := by
    rw [text, names_append_slash, names_of_no_slash plain] at split
    exact List.append_inj_left' split rfl
  have kept := trimmed_of_last names above
  have filled : front ≠ [] := by
    rintro rfl
    cases before with
    | nil =>
        cases names
        cases above
    | cons first rest => cases rest <;> cases names
  rw [parent]
  dsimp only
  rw [whole, turned, dropped, trimmed, if_pos rfl, kept, if_neg (by simp [filled]),
    List.reverse_reverse]

theorem ending_parent (filled : route.parent.names ≠ []) : route.parent.ending = .plain := by
  by_cases top : (trimmed ((trimmed route.text.reverse).dropWhile (· ≠ slash))).isEmpty &&
      isAbsolute route.text
  · have text : route.parent.text = [slash] := by
      rw [parent]
      dsimp only
      rw [if_pos top]
    rw [names_eq_leading, text] at filled
    exact absurd rfl filled
  · have text : route.parent.text =
        (trimmed ((trimmed route.text.reverse).dropWhile (· ≠ slash))).reverse := by
      rw [parent]
      dsimp only
      rw [if_neg top]
    exact ending_of_trimmed text filled

theorem parent_text_cases (route : Route) :
    (∃ behind, route.text = route.parent.text ++ behind) ∨ route.parent.text = [slash] := by
  rw [parent]
  dsimp only
  split
  · exact .inr rfl
  · refine .inl ?_
    have suffix : ∀ text : Bytes, trimmed text <:+ text := by
      intro text
      induction text with
      | nil => exact List.suffix_refl _
      | cons octet rest ih =>
          rw [trimmed]
          split
          · exact ih.trans (List.suffix_cons _ _)
          · split
            · exact ih.trans (List.suffix_cons _ _)
            · exact List.suffix_refl _
    have inside := (suffix _).trans ((List.dropWhile_suffix (fun octet => octet ≠ slash)).trans
      (suffix route.text.reverse))
    obtain ⟨behind, whole⟩ := inside
    refine ⟨behind.reverse, ?_⟩
    rw [← List.reverse_append, whole, List.reverse_reverse]

theorem isAbsolute_parent (route : Route) :
    isAbsolute route.parent.text = isAbsolute route.text := by
  by_cases empty : (trimmed ((trimmed route.text.reverse).dropWhile (· ≠ slash))).isEmpty
  · cases absolute : isAbsolute route.text with
    | true =>
        rw [parent]
        dsimp only
        rw [empty, absolute]
        rfl
    | false =>
        rw [parent]
        dsimp only
        rw [empty, absolute, List.isEmpty_iff.mp empty]
        rfl
  · have text : route.parent.text =
        (trimmed ((trimmed route.text.reverse).dropWhile (· ≠ slash))).reverse := by
      rw [parent]
      dsimp only
      rw [if_neg (by rw [Bool.and_eq_true]; exact fun top => empty top.1)]
    rcases parent_text_cases route with ⟨behind, whole⟩ | top
    · have filled : route.parent.text ≠ [] := by
        rw [text]
        simpa using empty
      obtain ⟨first, rest, split⟩ := List.exists_cons_of_ne_nil filled
      rw [whole, split]
      rfl
    · -- What is above the last name never starts with a slash when read from its end.
      exfalso
      rw [text] at top
      have lone := congrArg List.reverse top
      rw [List.reverse_reverse, List.reverse_singleton] at lone
      rcases trimmed_stops ((trimmed route.text.reverse).dropWhile (· ≠ slash)) with
        nothing | ⟨octet, rest, split, other, -⟩
      · rw [nothing] at lone
        cases lone
      · rw [split] at lone
        exact other (List.cons.inj lone).1

theorem origin_parent (route : Route) : route.parent.origin = route.origin := by
  have start : route.parent.start = route.start := rfl
  rw [origin, origin, isAbsolute_parent, start]

theorem not_mem_parent {octet : UInt8} (other : octet ≠ slash) (absent : octet ∉ route.text) :
    octet ∉ route.parent.text := by
  rcases parent_text_cases route with ⟨behind, whole⟩ | top
  · intro member
    apply absent
    rw [whole]
    exact List.mem_append_left _ member
  · rw [top, List.mem_singleton]
    exact other

end Route

end TieredCache
