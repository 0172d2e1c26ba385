/-!
Lists of entries by key, the latest in front. Main statements: what a lookup finds after an entry was
inserted or erased, and that each key keeps standing once.
-/

namespace TieredCache.Entries

variable {κ ν : Type} [BEq κ]

def erase (entries : List (κ × ν)) (key : κ) : List (κ × ν) :=
  entries.filter fun entry => entry.1 != key

def insert (entries : List (κ × ν)) (key : κ) (value : ν) : List (κ × ν) :=
  (key, value) :: erase entries key

def keys (entries : List (κ × ν)) : List κ := entries.map (·.1)

theorem keys_erase_nodup {entries : List (κ × ν)} (unique : (keys entries).Nodup) (key : κ) :
    (keys (erase entries key)).Nodup :=
  (List.filter_sublist.map _).nodup unique

variable [LawfulBEq κ]

theorem lookup_erase_self (entries : List (κ × ν)) (key : κ) :
    (erase entries key).lookup key = none := by
  induction entries with
  | nil => rfl
  | cons entry rest ih =>
      obtain ⟨found, value⟩ := entry
      by_cases same : found = key
      · subst same
        simpa [erase] using ih
      · have differs : (key == found) = false := by simpa using fun equal => same equal.symm
        rw [erase, List.filter_cons_of_pos (by simpa using same), List.lookup_cons, differs]
        exact ih

theorem lookup_erase_of_ne (entries : List (κ × ν)) {key other : κ} (different : other ≠ key) :
    (erase entries key).lookup other = entries.lookup other := by
  induction entries with
  | nil => rfl
  | cons entry rest ih =>
      obtain ⟨found, value⟩ := entry
      by_cases same : found = key
      · subst same
        have differs : (other == found) = false := by simpa using different
        rw [erase, List.filter_cons_of_neg (by simp), List.lookup_cons, differs]
        exact ih
      · rw [erase, List.filter_cons_of_pos (by simpa using same), List.lookup_cons, List.lookup_cons]
        cases other == found
        · exact ih
        · rfl

theorem lookup_insert_self (entries : List (κ × ν)) (key : κ) (value : ν) :
    (insert entries key value).lookup key = some value := by
  simp [insert]

theorem lookup_insert_of_ne (entries : List (κ × ν)) {key other : κ} (value : ν)
    (different : other ≠ key) :
    (insert entries key value).lookup other = entries.lookup other := by
  have differs : (other == key) = false := by simpa using different
  rw [insert, List.lookup_cons, differs]
  exact lookup_erase_of_ne entries different

theorem not_mem_keys_erase (entries : List (κ × ν)) (key : κ) : key ∉ keys (erase entries key) := by
  intro member
  obtain ⟨entry, kept, same⟩ := List.mem_map.mp member
  have differs := (List.mem_filter.mp kept).2
  simp only [bne_iff_ne, ne_eq] at differs
  exact differs same

/-- Inserting keeps each key once. -/
theorem keys_insert_nodup {entries : List (κ × ν)} (unique : (keys entries).Nodup) (key : κ)
    (value : ν) : (keys (insert entries key value)).Nodup :=
  List.nodup_cons.mpr ⟨not_mem_keys_erase entries key, keys_erase_nodup unique key⟩

/-- Where each key stands once, a lookup finds every entry. -/
theorem lookup_of_mem {entries : List (κ × ν)} (unique : (keys entries).Nodup) {key : κ} {value : ν}
    (member : (key, value) ∈ entries) : entries.lookup key = some value := by
  induction entries with
  | nil => cases member
  | cons entry rest ih =>
      obtain ⟨found, content⟩ := entry
      have parts := List.nodup_cons.mp unique
      rcases List.mem_cons.mp member with same | later
      · cases same
        simp
      · have differs : (key == found) = false := by
          have present : key ∈ keys rest := List.mem_map.mpr ⟨(key, value), later, rfl⟩
          simp only [beq_eq_false_iff_ne, ne_eq]
          intro same
          subst same
          exact parts.1 present
        rw [List.lookup_cons, differs]
        exact ih parts.2 later

end TieredCache.Entries
