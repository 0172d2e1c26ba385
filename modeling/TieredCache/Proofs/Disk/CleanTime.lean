import TieredCache.Proofs.Disk.Passes

/-!
The time of the next pass in its marker file. Main statements: what is written there is read back, and no
operation of a store changes it but a pass.
-/

namespace TieredCache

namespace Text

/-! ### Numbers that are written and read again -/

theorem decimalDigit?_of_isDigit {digit : Char} (isDigit : digit.isDigit = true) :
    decimalDigit? digit = some (digit.toNat - '0'.toNat) := by
  rw [Char.isDigit, Bool.and_eq_true, decide_eq_true_eq, decide_eq_true_eq] at isDigit
  rw [decimalDigit?, if_pos ⟨isDigit.1, isDigit.2⟩]
  rfl

theorem decimal?_of_digits {digits : List Char} (filled : digits ≠ [])
    (digit : ∀ character ∈ digits, character.isDigit = true) :
    decimal? digits = some (Nat.ofDigitChars 10 digits 0) := by
  have read (start : Nat) : digits.foldlM
      (fun value character => (decimalDigit? character).map (10 * value + ·)) start =
        some (Nat.ofDigitChars 10 digits start) := by
    clear filled
    induction digits generalizing start with
    | nil => rfl
    | cons first rest ih =>
        rw [List.foldlM_cons, decimalDigit?_of_isDigit (digit first List.mem_cons_self),
          Nat.ofDigitChars_cons]
        exact ih (fun other member => digit other (List.mem_cons_of_mem _ member)) _
  rw [decimal?, if_neg (by simpa using filled)]
  exact read 0

theorem decimal?_toDigits (number : Nat) : decimal? (Nat.toDigits 10 number) = some number := by
  rw [decimal?_of_digits Nat.toDigits_ne_nil fun _ =>
    Nat.isDigit_of_mem_toDigits (by decide) (by decide), Nat.ofDigitChars_ten_toDigits]

theorem trim_of_solid {text : List Char} (solid : ∀ character ∈ text, isBlank character = false) :
    trim text = text := by
  have whole {text : List Char} (solid : ∀ character ∈ text, isBlank character = false) :
      text.dropWhile isBlank = text := by
    cases text with
    | nil => rfl
    | cons first rest =>
        rw [List.dropWhile_cons_of_neg]
        rw [solid first List.mem_cons_self]
        exact Bool.false_ne_true
  rw [trim, trimStart, whole solid, trimEnd, dropEndWhile, whole, List.reverse_reverse]
  intro character member
  exact solid character (List.mem_reverse.mp member)

theorem isBlank_of_isDigit {digit : Char} (isDigit : digit.isDigit = true) :
    isBlank digit = false := by
  rw [Char.isDigit, Bool.and_eq_true, decide_eq_true_eq, decide_eq_true_eq] at isDigit
  have low : 48 ≤ digit.toNat := isDigit.1
  have high : digit.toNat ≤ 57 := isDigit.2
  simp only [isBlank, Bool.or_eq_false_iff, Bool.and_eq_false_iff, decide_eq_false_iff_not]
  omega

/-- A whole number that is written is read back. -/
theorem integer?_toString (number : Int) :
    integer? (trim (toString number).toList) = some number := by
  have digit (magnitude : Nat) : ∀ character ∈ Nat.toDigits 10 magnitude, character.isDigit = true :=
    fun _ => Nat.isDigit_of_mem_toDigits (by decide) (by decide)
  cases number with
  | ofNat magnitude =>
      have written : (toString (Int.ofNat magnitude)).toList = Nat.toDigits 10 magnitude :=
        Nat.toList_repr
      rw [written, trim_of_solid fun _ member => isBlank_of_isDigit (digit magnitude _ member)]
      have read := decimal?_toDigits magnitude
      have own := digit magnitude
      generalize Nat.toDigits 10 magnitude = digits at read own ⊢
      unfold integer? natural?
      split
      · exact absurd (own '-' List.mem_cons_self) (by decide)
      · split
        · exact absurd (own '+' List.mem_cons_self) (by decide)
        · rw [read]
          rfl
  | negSucc magnitude =>
      have written : (toString (Int.negSucc magnitude)).toList =
          '-' :: Nat.toDigits 10 (magnitude + 1) := by
        change ("-" ++ (magnitude + 1).repr).toList = _
        rw [String.toList_append, Nat.toList_repr]
        rfl
      rw [written, trim_of_solid]
      · rw [integer?, decimal?_toDigits]
        rfl
      · intro character member
        rcases List.mem_cons.mp member with rfl | later
        · decide
        · exact isBlank_of_isDigit (digit _ _ later)

end Text

theorem Millis.ofInt?_value (count : Millis) : Millis.ofInt? count.value = some count := by
  rw [Millis.ofInt?, dif_pos ⟨count.lower, count.upper⟩]

namespace DiskStore
open FilePath FileTree Cleaning

variable {store : DiskStore} {root : Route} {place : FilePath} {tree made next last : FileTree}

/-! ### The marker of the time -/

def timePlace (place : FilePath) : FilePath := place ++ [Key.cleanTimeName]

theorem timePlace_ne_nil (place : FilePath) : timePlace place ≠ [] :=
  List.append_ne_nil_of_right_ne_nil _ (List.cons_ne_nil _ _)

theorem isMarker_timePlace (place : FilePath) : isMarker place (timePlace place) = true :=
  MarkerName.isMarker_iff.mpr ⟨_, .inl rfl, rfl⟩

theorem isFileName_cleanTimeName : Key.isFileName Key.cleanTimeName = true := by decide +kernel

theorem timePlace_ne_concat {name : Name} (other : name ≠ Key.cleanTimeName) :
    timePlace place ≠ place ++ [name] := by
  intro same
  obtain ⟨-, names⟩ := List.append_inj' same rfl
  exact other (List.cons.inj names).1.symm

def Marked (place : FilePath) (tree : FileTree) (time : Millis) : Prop :=
  ∃ accessed modified, tree.find? (timePlace place) =
    some (.file (Text.bytes (toString time.value)) accessed modified)

/-- What was written into the marker is read back. -/
theorem Marked.persisted? {time : Millis} (marked : Marked place tree time)
    (anchored : Anchored root place tree) (reaches : Reaches root Key.cleanTimeName) :
    persisted? tree root = some time := by
  obtain ⟨accessed, modified, found⟩ := marked
  have there := arrive_of_fileTarget (anchored.marker (.inl rfl) reaches)
  rw [← timePlace, found] at there
  rw [Cleaning.persisted?, cleanTimePath, read_of_arrive there]
  simp only [Text.ofBytes?_bytes, Option.bind_some, Text.integer?_toString, Millis.ofInt?_value]

/-- Where no directory is in its place, the marker can be written. -/
theorem Anchored.persist (anchored : Anchored root place tree)
    (reaches : Reaches root Key.cleanTimeName) (free : tree.isDirectory (timePlace place) = false)
    (time : Millis) (present : FileTime) :
    Anchored root place (Cleaning.persist tree root time present).1 ∧
      Marked place (Cleaning.persist tree root time present).1 time := by
  have named : MarkerName Key.cleanTimeName := .inl rfl
  obtain ⟨used, writes⟩ : ∃ used, tree.write (cleanTimePath root)
      (Text.bytes (toString time.value)) present 0 = .ok (tree.insert (timePlace place)
        (.file (Text.bytes (toString time.value)) used 0)) :=
    write_of_free (anchored.marker named reaches) free
  rw [Cleaning.persist, writes]
  have replaced : Replaced tree _ (timePlace place)
      (some (.file (Text.bytes (toString time.value)) used 0)) :=
    replaced_insert (timePlace_ne_nil place) free
  refine ⟨anchored.mark named replaced (anchored.regular.listed.insert (timePlace_ne_nil place) _),
    used, 0, ?_⟩
  exact (replaced.find?_eq _).trans (if_pos rfl)

/-! ### What leaves the time as it was -/

/-- A change after which the root is where it was and the marker as it was. -/
structure Spared (root : Route) (place : FilePath) (tree next : FileTree) : Prop where
  anchored : Anchored root place next
  kept : next.find? (timePlace place) = tree.find? (timePlace place)

theorem Anchored.spared (anchored : Anchored root place tree) : Spared root place tree tree :=
  ⟨anchored, rfl⟩

theorem Spared.trans (first : Spared root place tree made) (second : Spared root place made next) :
    Spared root place tree next :=
  ⟨second.anchored, second.kept.trans first.kept⟩

theorem Anchored.spared_of_replaced (anchored : Anchored root place next) {path : FilePath}
    {after : Option Entry} (replaced : Replaced tree next path after)
    (other : timePlace place ≠ path) : Spared root place tree next :=
  ⟨anchored, (replaced.find?_eq _).trans (if_neg other)⟩

theorem Anchored.spared_of_grown (anchored : Anchored root place made) (grown : Grown tree made) :
    Spared root place tree made :=
  ⟨anchored, grown.find?_file isFileName_cleanTimeName⟩

theorem Anchored.timePlace_ne (anchored : Anchored store.root place tree) (key : String) :
    timePlace place ≠ store.placeOf key := by
  intro same
  have unmarked := (anchored.stored key).2
  rw [← same, isMarker_timePlace] at unmarked
  cases unmarked

theorem Anchored.put_spared (anchored : Anchored store.root place tree) (key : String)
    (content : Bytes) (now : Millis) (present : FileTime) :
    Spared store.root place tree (store.put tree key content now present).tree := by
  cases working : store.closed with
  | true =>
      rw [DiskStore.put, working]
      exact anchored.spared
  | false =>
      obtain ⟨made, raised, grown, settled, ⟨-, -, replaced⟩ | ⟨-, shown⟩⟩ :=
        anchored.put working key content now present
      · exact (raised.spared_of_grown grown).trans
          (settled.spared_of_replaced replaced (anchored.timePlace_ne key))
      · exact (raised.spared_of_grown grown).trans ⟨settled, shown _⟩

theorem Anchored.get_spared (anchored : Anchored store.root place tree) (key : String)
    (present : FileTime) : Spared store.root place tree (store.get tree key present).1 := by
  cases working : store.closed with
  | true =>
      rw [DiskStore.get, working]
      exact anchored.spared
  | false =>
      obtain ⟨settled, ⟨same, -⟩ | ⟨content, accessed, modified, -, -, -, replaced⟩⟩ :=
        anchored.get working key present
      · rw [same]
        exact anchored.spared
      · exact settled.spared_of_replaced replaced (anchored.timePlace_ne key)

theorem Anchored.delete_spared (anchored : Anchored store.root place tree) (key : String) :
    Spared store.root place tree (store.delete tree key).1 := by
  obtain ⟨settled, same | replaced⟩ := anchored.delete key
  · rw [same]
    exact anchored.spared
  · exact settled.spared_of_replaced replaced (anchored.timePlace_ne key)

/-- Opening one more store makes no file. -/
theorem Anchored.openAt_spared (anchored : Anchored root place tree) {name : String}
    {settings : DiskSettings} {first : Millis} {rooted : FileTree}
    (opens : openAt tree name root settings first = .ok (rooted, store)) :
    Spared root place tree rooted ∧ store = { name, root, settings, nextClean := first } := by
  rw [openAt] at opens
  cases makes : tree.makeDirectories root with
  | error cause =>
      rw [makes] at opens
      cases opens
  | ok made =>
      rw [makes] at opens
      cases opens
      obtain ⟨settled, grown⟩ := anchored.raise rfl (List.append_nil _).symm
        grounded_nil fun name member => absurd member List.not_mem_nil
      rw [makeDirectories_eq_ok.mp makes] at settled grown
      exact ⟨settled.spared_of_grown grown, rfl⟩

end DiskStore

end TieredCache
