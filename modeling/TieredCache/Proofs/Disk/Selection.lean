import Mathlib.Algebra.GroupWithZero.Nat
import Mathlib.Data.List.Induction
import Mathlib.Data.List.Sort
import TieredCache.Disk.Cleaning

/-!
Which files a clean pass chooses. Main statement: whatever order the files are offered in, those kept
are the shortest part of the files in order of their last use that meets the demand, or all of them.
-/

namespace TieredCache

namespace Candidate

variable {left middle right : Candidate}

theorem precedes_iff : left.precedes right = true ↔ left.accessed < right.accessed ∨
    left.accessed = right.accessed ∧ (left.size < right.size ∨
      left.size = right.size ∧ left.path < right.path) := by
  simp only [precedes, Bool.or_eq_true, Bool.and_eq_true, decide_eq_true_eq]

theorem precedes_trans (first : left.precedes middle = true) (second : middle.precedes right = true) :
    left.precedes right = true := by
  rw [precedes_iff] at first second ⊢
  rcases first with early | ⟨same, small | ⟨alike, low⟩⟩ <;>
    rcases second with late | ⟨equal, larger | ⟨even, high⟩⟩
  · exact .inl (Int.lt_trans early late)
  · exact .inl (lt_of_lt_of_eq early equal)
  · exact .inl (lt_of_lt_of_eq early equal)
  · exact .inl (lt_of_eq_of_lt same late)
  · exact .inr ⟨same.trans equal, .inl (Nat.lt_trans small larger)⟩
  · exact .inr ⟨same.trans equal, .inl (lt_of_lt_of_eq small even)⟩
  · exact .inl (lt_of_eq_of_lt same late)
  · exact .inr ⟨same.trans equal, .inl (lt_of_eq_of_lt alike larger)⟩
  · exact .inr ⟨same.trans equal, .inr ⟨alike.trans even, List.lt_trans low high⟩⟩

theorem precedes_irrefl (candidate : Candidate) : candidate.precedes candidate = false := by
  have same := List.lt_irrefl candidate.path
  simp [precedes, same]

theorem eq_of_not_precedes (first : left.precedes right = false)
    (second : right.precedes left = false) : left = right := by
  have later : ¬left.precedes right = true := by simp [first]
  have sooner : ¬right.precedes left = true := by simp [second]
  rw [precedes_iff] at later sooner
  have times : left.accessed = right.accessed := by
    rcases Int.lt_trichotomy left.accessed right.accessed with early | same | late
    · exact absurd (.inl early) later
    · exact same
    · exact absurd (.inl late) sooner
  have sizes : left.size = right.size := by
    rcases Nat.lt_trichotomy left.size right.size with small | same | large
    · exact absurd (.inr ⟨times, .inl small⟩) later
    · exact same
    · exact absurd (.inr ⟨times.symm, .inl large⟩) sooner
  have paths : left.path = right.path := by
    refine List.le_antisymm ?_ ?_
    · exact fun less => sooner (.inr ⟨times.symm, .inr ⟨sizes.symm, less⟩⟩)
    · exact fun less => later (.inr ⟨times, .inr ⟨sizes, less⟩⟩)
  cases left
  cases right
  simp only at times sizes paths
  rw [times, sizes, paths]

/-- The order in which files are given up: the one longest unused first. -/
def NotAfter (left right : Candidate) : Prop := right.precedes left = false

instance : DecidableRel NotAfter := fun left right =>
  inferInstanceAs (Decidable (right.precedes left = false))

theorem NotAfter.total (left right : Candidate) : NotAfter left right ∨ NotAfter right left := by
  unfold NotAfter
  cases first : right.precedes left with
  | false => exact .inl rfl
  | true =>
      cases second : left.precedes right with
      | false => exact .inr rfl
      | true =>
          have cycle := precedes_trans first second
          rw [precedes_irrefl] at cycle
          cases cycle

theorem NotAfter.trans (first : NotAfter left middle) (second : NotAfter middle right) :
    NotAfter left right := by
  unfold NotAfter at *
  cases third : right.precedes left with
  | false => rfl
  | true =>
      cases between : left.precedes middle with
      | false => rw [eq_of_not_precedes between first, second] at third; cases third
      | true => rw [precedes_trans third between] at second; cases second

instance : Std.Total NotAfter := ⟨NotAfter.total⟩

instance : IsTrans Candidate NotAfter := ⟨fun _ _ _ => NotAfter.trans⟩

end Candidate

open Candidate

/-- Files in the order of their last use, then of their sizes and paths. -/
def ranked (files : List Candidate) : List Candidate :=
  files.mergeSort fun left right => decide (NotAfter left right)

theorem ranked_perm (files : List Candidate) : (ranked files).Perm files :=
  List.mergeSort_perm _ _

theorem ranked_pairwise (files : List Candidate) : (ranked files).Pairwise NotAfter := by
  have sorted := @List.pairwise_mergeSort Candidate (fun left right => decide (NotAfter left right))
    (fun left middle right first second =>
      decide_eq_true ((of_decide_eq_true first).trans (of_decide_eq_true second)))
    (fun left right => by simpa using NotAfter.total left right) files
  exact sorted.imp of_decide_eq_true

/-- There is one way only to put files into order. -/
theorem eq_ranked {files order : List Candidate} (sorted : order.Pairwise NotAfter)
    (same : order.Perm files) : order = ranked files :=
  List.Perm.eq_of_pairwise (fun _ _ _ _ first second => eq_of_not_precedes second first) sorted
    (ranked_pairwise files) (same.trans (ranked_perm files).symm)

namespace Cleaning

theorem totalSize_eq_sum (files : List Candidate) : totalSize files = (files.map (·.size)).sum := by
  have shifted : ∀ (files : List Candidate) (start : Nat),
      files.foldl (fun total file => total + file.size) start =
        start + (files.map (·.size)).sum := by
    intro files
    induction files with
    | nil => exact fun start => (Nat.add_zero start).symm
    | cons file rest ih =>
        intro start
        rw [List.foldl_cons, ih, List.map_cons, List.sum_cons, Nat.add_assoc]
  rw [totalSize, shifted, Nat.zero_add]

@[simp] theorem totalSize_nil : totalSize [] = 0 := rfl

@[simp] theorem totalSize_cons (file : Candidate) (rest : List Candidate) :
    totalSize (file :: rest) = file.size + totalSize rest := by
  rw [totalSize_eq_sum, totalSize_eq_sum, List.map_cons, List.sum_cons]

@[simp] theorem totalSize_append (front back : List Candidate) :
    totalSize (front ++ back) = totalSize front + totalSize back := by
  rw [totalSize_eq_sum, totalSize_eq_sum, totalSize_eq_sum, List.map_append, List.sum_append]

theorem totalSize_perm {front back : List Candidate} (same : front.Perm back) :
    totalSize front = totalSize back := by
  rw [totalSize_eq_sum, totalSize_eq_sum]
  exact (same.map _).sum_nat

end Cleaning

open Cleaning

namespace Demand

def without (demand : Demand) (file : Candidate) : Demand :=
  ⟨demand.bytes - file.size, demand.files - 1⟩

def Met (demand : Demand) (chosen : List Candidate) : Prop :=
  demand.bytes ≤ totalSize chosen ∧ demand.files ≤ chosen.length

instance (demand : Demand) (chosen : List Candidate) : Decidable (demand.Met chosen) :=
  inferInstanceAs (Decidable (_ ∧ _))

variable {demand : Demand} {file : Candidate} {chosen : List Candidate}

theorem met_cons_iff : demand.Met (file :: chosen) ↔ (demand.without file).Met chosen := by
  simp only [Met, without, totalSize_cons, List.length_cons]
  omega

theorem Met.append (met : demand.Met chosen) (more : List Candidate) : demand.Met (chosen ++ more) := by
  obtain ⟨bytes, files⟩ := met
  refine ⟨?_, ?_⟩
  · rw [totalSize_append]
    omega
  · rw [List.length_append]
    omega

theorem Met.of_le {smaller : Demand} (met : demand.Met chosen) (bytes : smaller.bytes ≤ demand.bytes)
    (files : smaller.files ≤ demand.files) : smaller.Met chosen :=
  ⟨Nat.le_trans bytes met.1, Nat.le_trans files met.2⟩

end Demand

namespace Selection
open Demand

variable {demand : Demand} {files front back : List Candidate} {file : Candidate}

def shortest (demand : Demand) : List Candidate → List Candidate
  | [] => []
  | file :: rest => if demand.Met [] then [] else file :: shortest (demand.without file) rest

theorem shortest_of_met (met : demand.Met []) (files : List Candidate) :
    shortest demand files = [] := by
  cases files with
  | nil => rfl
  | cons file rest => exact if_pos met

theorem shortest_begins (demand : Demand) (files : List Candidate) :
    shortest demand files <+: files := by
  induction files generalizing demand with
  | nil => exact List.prefix_refl _
  | cons file rest ih =>
      rw [shortest]
      split
      · exact List.nil_prefix
      · exact List.cons_prefix_cons.mpr ⟨rfl, ih _⟩

theorem met_shortest_or_all (demand : Demand) (files : List Candidate) :
    demand.Met (shortest demand files) ∨ shortest demand files = files := by
  induction files generalizing demand with
  | nil => exact .inr rfl
  | cons file rest ih =>
      rw [shortest]
      split
      · rename_i met
        exact .inl met
      · rcases ih (demand.without file) with met | all
        · exact .inl (met_cons_iff.mpr met)
        · exact .inr (by rw [all])

theorem shortest_append_of_met (met : demand.Met front) (back : List Candidate) :
    shortest demand (front ++ back) = shortest demand front := by
  induction front generalizing demand with
  | nil =>
      rw [List.nil_append, shortest_of_met met]
      rfl
  | cons file rest ih =>
      rw [List.cons_append, shortest, shortest]
      split
      · rfl
      · rw [ih (met_cons_iff.mp met)]

theorem shortest_concat_of_not_met (short : ¬demand.Met front) (file : Candidate) :
    shortest demand (front ++ [file]) = front ++ [file] := by
  induction front generalizing demand with
  | nil =>
      rw [List.nil_append, shortest, if_neg short]
      rfl
  | cons first rest ih =>
      rw [List.cons_append, shortest, if_neg fun met => short (Met.append met (first :: rest)),
        ih fun met => short (met_cons_iff.mpr met)]

theorem length_shortest_le (start : front <+: files) (met : demand.Met front) :
    (shortest demand files).length ≤ front.length := by
  obtain ⟨back, rfl⟩ := start
  rw [shortest_append_of_met met]
  exact (shortest_begins demand front).length_le

/-! ### The loop -/

/-- Giving up the latest files while the others meet the demand leaves the shortest beginning. -/
theorem trim_reverse (demand : Demand) (files : List Candidate) :
    trim demand files.reverse (totalSize files) =
      ⟨(shortest demand files).reverse, totalSize (shortest demand files)⟩ := by
  induction files using List.reverseRecOn with
  | nil => rfl
  | append_singleton front file ih =>
      have rest : totalSize (front ++ [file]) - file.size = totalSize front := by simp
      rw [List.reverse_concat, trim, rest, List.length_reverse]
      by_cases met : demand.Met front
      · have enough : ¬(totalSize front < demand.bytes ∨ front.length < demand.files) := by
          unfold Met at met
          omega
        rw [if_neg enough, ih, shortest_append_of_met met]
      · have lacking : totalSize front < demand.bytes ∨ front.length < demand.files := by
          unfold Met at met
          omega
        rw [if_pos lacking, shortest_concat_of_not_met met, List.reverse_concat]

theorem shortest_shortest {smaller : Demand} (bytes : smaller.bytes ≤ demand.bytes)
    (few : smaller.files ≤ demand.files) (files : List Candidate) :
    shortest smaller (shortest demand files) = shortest smaller files := by
  induction files generalizing demand smaller with
  | nil => rfl
  | cons file rest ih =>
      by_cases met : smaller.Met []
      · rw [shortest_of_met met, shortest_of_met met]
      · have unmet : ¬demand.Met [] := fun all => met (all.of_le bytes few)
        rw [shortest, if_neg unmet, shortest, if_neg met, shortest, if_neg met]
        rw [ih (Nat.sub_le_sub_right bytes _) (Nat.sub_le_sub_right few _)]

/-- A file that comes later than all that are needed is not needed either. -/
theorem shortest_orderedInsert (demand : Demand) (file : Candidate) (files : List Candidate) :
    shortest demand ((shortest demand files).orderedInsert NotAfter file) =
      shortest demand (files.orderedInsert NotAfter file) := by
  induction files generalizing demand with
  | nil => rfl
  | cons first rest ih =>
      by_cases met : demand.Met []
      · rw [shortest_of_met met, shortest_of_met met]
      · have step : ∀ other later, shortest demand (other :: later) =
            other :: shortest (demand.without other) later := fun _ _ => if_neg met
        rw [step, List.orderedInsert_cons, List.orderedInsert_cons]
        split
        · have inner : shortest (demand.without file)
              (first :: shortest (demand.without first) rest) =
                shortest (demand.without file) (first :: rest) := by
            rw [shortest, shortest]
            split
            · rfl
            · rw [shortest_shortest]
              · exact Nat.sub_le_sub_right (Nat.sub_le _ _) _
              · exact Nat.sub_le_sub_right (Nat.sub_le _ _) _
          rw [step, step, inner]
        · rw [step, step, ih]

theorem insertSorted_perm (file : Candidate) (held : List Candidate) :
    (insertSorted file held).Perm (file :: held) := by
  induction held with
  | nil => exact List.Perm.refl _
  | cons first rest ih =>
      rw [insertSorted]
      split
      · exact (ih.cons first).trans (List.Perm.swap file first rest)
      · exact List.Perm.refl _

theorem insertSorted_pairwise (file : Candidate) {held : List Candidate}
    (sorted : held.Pairwise fun later earlier => NotAfter earlier later) :
    (insertSorted file held).Pairwise fun later earlier => NotAfter earlier later := by
  induction held with
  | nil => exact List.pairwise_singleton _ _
  | cons first rest ih =>
      obtain ⟨latest, others⟩ := List.pairwise_cons.mp sorted
      rw [insertSorted]
      split
      · rename_i before
        refine List.pairwise_cons.mpr ⟨fun other member => ?_, ih others⟩
        rcases List.mem_cons.mp ((insertSorted_perm file rest).mem_iff.mp member) with rfl | held
        · rcases NotAfter.total other first with order | order
          · exact order
          · unfold NotAfter at order
            rw [before] at order
            cases order
        · exact latest other held
      · rename_i before
        have order : NotAfter first file := by simpa [NotAfter] using before
        refine List.pairwise_cons.mpr ⟨fun other member => ?_, sorted⟩
        rcases List.mem_cons.mp member with rfl | held
        · exact order
        · exact (latest other held).trans order

/-- Inserting into the files that are held, the latest first, is inserting into their order. -/
theorem insertSorted_reverse (file : Candidate) (sorted : files.Pairwise NotAfter) :
    insertSorted file files.reverse = (files.orderedInsert NotAfter file).reverse := by
  have held : files.reverse.Pairwise fun later earlier => NotAfter earlier later :=
    List.pairwise_reverse.mpr sorted
  have inserted := insertSorted_pairwise file held
  rw [← List.reverse_reverse (insertSorted file files.reverse), List.pairwise_reverse] at inserted
  have order : (files.orderedInsert NotAfter file).Pairwise NotAfter := sorted.orderedInsert _ _
  have same : (insertSorted file files.reverse).reverse.Perm (file :: files) :=
    (List.reverse_perm _).trans ((insertSorted_perm file _).trans ((List.reverse_perm files).cons file))
  have equal := (eq_ranked inserted same).trans
    (eq_ranked order (List.perm_orderedInsert NotAfter file files)).symm
  rw [← equal, List.reverse_reverse]

/-- One more file is offered: what is held stays the shortest beginning of those seen. -/
theorem offer_shortest (demand : Demand) (file : Candidate) (sorted : files.Pairwise NotAfter) :
    offer demand ⟨(shortest demand files).reverse, totalSize (shortest demand files)⟩ file =
      ⟨(shortest demand (files.orderedInsert NotAfter file)).reverse,
        totalSize (shortest demand (files.orderedInsert NotAfter file))⟩ := by
  have held : (shortest demand files).Pairwise NotAfter :=
    sorted.sublist (shortest_begins demand files).sublist
  have size : totalSize (shortest demand files) + file.size =
      totalSize ((shortest demand files).orderedInsert NotAfter file) := by
    rw [totalSize_perm (List.perm_orderedInsert NotAfter file _), totalSize_cons, Nat.add_comm]
  rw [offer, insertSorted_reverse file held, size, trim_reverse, shortest_orderedInsert]

theorem foldl_offer (demand : Demand) (files : List Candidate) {seen : List Candidate}
    (sorted : seen.Pairwise NotAfter) :
    files.foldl (offer demand) ⟨(shortest demand seen).reverse, totalSize (shortest demand seen)⟩ =
      ⟨(shortest demand (ranked (files ++ seen))).reverse,
        totalSize (shortest demand (ranked (files ++ seen)))⟩ := by
  induction files generalizing seen with
  | nil =>
      rw [List.foldl_nil, List.nil_append, ← eq_ranked sorted (List.Perm.refl seen)]
  | cons file rest ih =>
      have next : (seen.orderedInsert NotAfter file).Pairwise NotAfter := sorted.orderedInsert _ _
      have same : ranked (rest ++ seen.orderedInsert NotAfter file) = ranked (file :: rest ++ seen) := by
        refine eq_ranked (ranked_pairwise _) ((ranked_perm _).trans ?_)
        refine ((List.perm_orderedInsert NotAfter file seen).append_left rest).trans ?_
        exact List.perm_middle
      rw [List.foldl_cons, offer_shortest demand file sorted, ih next, same]

/-- The loop holds the shortest part of the files, in order, that meets the demand. -/
theorem ofFiles_eq (demand : Demand) (files : List Candidate) : ofFiles demand files =
    ⟨(shortest demand (ranked files)).reverse, totalSize (shortest demand (ranked files))⟩ := by
  have started := @foldl_offer demand files [] List.Pairwise.nil
  rwa [List.append_nil] at started

theorem oldestFirst_ofFiles (demand : Demand) (files : List Candidate) :
    (ofFiles demand files).oldestFirst = shortest demand (ranked files) := by
  rw [ofFiles_eq, oldestFirst, List.reverse_reverse]

end Selection

end TieredCache
