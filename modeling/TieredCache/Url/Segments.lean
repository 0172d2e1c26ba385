/-!
Rows of segments. A segment of one dot stands for the place that it is in, one of two dots for the place
above; a drive is never left. Main statements: a resolved row is not empty, and none of its segments is
made of dots.
-/

namespace TieredCache.Url

/-- A segment that names a drive: a letter and a colon or a bar. -/
def isDrive : List Char → Bool
  | [letter, mark] => letter.isAlpha && (mark = ':' || mark = '|')
  | _ => false

def isDoubleDot (segment : List Char) : Bool :=
  ["..", "%2e.", ".%2e", "%2e%2e"].any (·.toList = segment.map Char.toLower)

def isSingleDot (segment : List Char) : Bool :=
  [".", "%2e"].any (·.toList = segment.map Char.toLower)

/-- The row above, the last segment standing first: a drive stays. -/
def above : List (List Char) → List (List Char)
  | [] => []
  | last :: front => if isDrive last then last :: front else front

/-- One more segment. A drive that opens the path of a file is written with a colon. -/
def placed (file : Bool) : List (List Char) → List Char → List (List Char)
  | [], [letter, mark] => if file && isDrive [letter, mark] then [[letter, ':']] else [[letter, mark]]
  | done, segment => segment :: done

/-- A row that ends in dots names a place, which an empty last segment shows. -/
def closed (rest done : List (List Char)) : List (List Char) :=
  if rest.isEmpty then [] :: done else done

/-- Resolves segments after those of `done`, the last of which stands first. -/
def resolve (file : Bool) : List (List Char) → List (List Char) → List (List Char)
  | done, [] => done.reverse
  | done, segment :: rest =>
      if isDoubleDot segment then resolve file (closed rest (above done)) rest
      else if isSingleDot segment then resolve file (closed rest done) rest
      else resolve file (placed file done segment) rest

theorem above_sublist (done : List (List Char)) : (above done).Sublist done := by
  cases done with
  | nil => exact .slnil
  | cons last front =>
      rw [above]
      split
      · exact .refl _
      · exact List.sublist_cons_self last front

theorem placed_unfiled (done : List (List Char)) (segment : List Char) :
    placed false done segment = segment :: done := by
  rw [placed.eq_def]
  split
  · rfl
  · rfl

def isDots (segment : List Char) : Bool := isSingleDot segment || isDoubleDot segment

theorem isDots_nil : isDots [] = false := by decide

theorem isDots_drive (letter : Char) : isDots [letter, ':'] = false := by
  simp [isDots, isSingleDot, isDoubleDot]

theorem isDots_of_mem_placed {file : Bool} {done : List (List Char)} {segment : List Char}
    (ordinary : isDots segment = false) (before : ∀ name ∈ done, isDots name = false) :
    ∀ name ∈ placed file done segment, isDots name = false := by
  intro name member
  rw [placed.eq_def] at member
  split at member
  · split at member
    · rw [List.mem_singleton.1 member]; exact isDots_drive _
    · rw [List.mem_singleton.1 member]; exact ordinary
  · rcases List.mem_cons.1 member with rfl | member
    · exact ordinary
    · exact before name member

theorem isDots_of_mem_closed {rest done : List (List Char)}
    (before : ∀ name ∈ done, isDots name = false) :
    ∀ name ∈ closed rest done, isDots name = false := by
  intro name member
  rw [closed] at member
  split at member
  · rcases List.mem_cons.1 member with rfl | member
    · exact isDots_nil
    · exact before name member
  · exact before name member

theorem isDots_of_mem_resolve {file : Bool} {done segments : List (List Char)}
    (before : ∀ name ∈ done, isDots name = false) :
    ∀ name ∈ resolve file done segments, isDots name = false := by
  induction segments generalizing done with
  | nil => simpa [resolve] using before
  | cons segment rest ih =>
      rw [resolve]
      split
      · exact ih (isDots_of_mem_closed fun name member => before name ((above_sublist done).subset member))
      · split
        · exact ih (isDots_of_mem_closed before)
        · rename_i double single
          exact ih (isDots_of_mem_placed (by simp [isDots, double, single]) before)

/-- The path of a file does not begin with empty segments, unless all of it is empty. -/
def opened (file : Bool) (segments : List (List Char)) : List (List Char) :=
  if file then
    match segments.dropWhile (·.isEmpty) with
    | [] => [[]]
    | kept => kept
  else segments

/-- The row that `more` leads to from `segments`. -/
def extend (file : Bool) (segments more : List (List Char)) : List (List Char) :=
  opened file (resolve file segments.reverse more)

theorem extend_of_undotted {segment : List Char} (undotted : isDots segment = false)
    (front : List (List Char)) : extend false front [segment] = front ++ [segment] := by
  obtain ⟨single, double⟩ := Bool.or_eq_false_iff.mp undotted
  simp [extend, opened, resolve, single, double, placed_unfiled]

/-- Dots lead to a place that is no further down, which an empty last segment shows. -/
theorem extend_of_dots {segment : List Char} (dots : isDots segment = true)
    (front : List (List Char)) :
    ∃ done : List (List Char), done.Sublist front ∧ extend false front [segment] = done ++ [[]] := by
  by_cases double : isDoubleDot segment
  · refine ⟨(above front.reverse).reverse, ?_, by simp [extend, opened, resolve, closed, double]⟩
    simpa only [List.reverse_reverse] using (above_sublist front.reverse).reverse
  · have single : isSingleDot segment = true := by simpa [isDots, double] using dots
    exact ⟨front, .refl _, by simp [extend, opened, resolve, closed, double, single]⟩

end TieredCache.Url
