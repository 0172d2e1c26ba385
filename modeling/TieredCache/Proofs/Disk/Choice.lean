import TieredCache.Proofs.Disk.Sweep

/-!
The loop that chooses files, moment by moment: a file is taken in, and then the latest used are given up
one after the other as long as the others meet the demand. Main statement: in whatever order the files
come, the loop ends with the shortest part of their order that meets the demand, and at every moment the
sum is that of the files held (`chosen_in_any_order`).
-/

namespace TieredCache.Selection
open Cleaning Demand

variable {demand : Demand} {files order seen : List Candidate} {selection : Selection}

/-- Whether the latest of the files held can be given up. -/
def CanSpare (demand : Demand) (selection : Selection) : Prop :=
  ∃ latest rest, selection.held = latest :: rest ∧ demand.bytes ≤ selection.bytes - latest.size ∧
    demand.files ≤ rest.length

/-- The moments of the loop, with the files that it has seen by then. -/
inductive Moment (demand : Demand) : List Candidate → Selection → Prop
  | start : Moment demand [] empty
  | take {seen : List Candidate} {selection : Selection} (file : Candidate)
      (before : Moment demand seen selection) (done : ¬CanSpare demand selection) :
      Moment demand (seen ++ [file])
        ⟨insertSorted file selection.held, selection.bytes + file.size⟩
  | spare {seen : List Candidate} {latest : Candidate} {rest : List Candidate} {bytes : Nat}
      (before : Moment demand seen ⟨latest :: rest, bytes⟩)
      (can : CanSpare demand ⟨latest :: rest, bytes⟩) :
      Moment demand seen ⟨rest, bytes - latest.size⟩

theorem canSpare_cons {latest : Candidate} {rest : List Candidate} {bytes : Nat} :
    CanSpare demand ⟨latest :: rest, bytes⟩ ↔
      ¬(bytes - latest.size < demand.bytes ∨ rest.length < demand.files) := by
  rw [not_or, Nat.not_lt, Nat.not_lt]
  constructor
  · rintro ⟨_, _, same, enough, many⟩
    cases same
    exact ⟨enough, many⟩
  · rintro ⟨enough, many⟩
    exact ⟨latest, rest, rfl, enough, many⟩

theorem trim_of_canSpare {latest : Candidate} {rest : List Candidate} {bytes : Nat}
    (can : CanSpare demand ⟨latest :: rest, bytes⟩) :
    trim demand (latest :: rest) bytes = trim demand rest (bytes - latest.size) := by
  rw [trim, if_neg (canSpare_cons.mp can)]

theorem trim_of_done (done : ¬CanSpare demand selection) :
    trim demand selection.held selection.bytes = selection := by
  obtain ⟨held, bytes⟩ := selection
  cases held with
  | nil => rfl
  | cons latest rest => rw [trim, if_pos (Decidable.not_not.mp (mt canSpare_cons.mpr done))]

theorem not_canSpare_trim (demand : Demand) (held : List Candidate) (bytes : Nat) :
    ¬CanSpare demand (trim demand held bytes) := by
  induction held generalizing bytes with
  | nil =>
      rintro ⟨_, _, same, -⟩
      cases same
  | cons latest rest ih =>
      by_cases can : CanSpare demand ⟨latest :: rest, bytes⟩
      · rw [trim_of_canSpare can]
        exact ih _
      · rw [trim_of_done can]
        exact can

/-! ### The moments and the result -/

theorem ofFiles_concat (demand : Demand) (seen : List Candidate) (file : Candidate) :
    ofFiles demand (seen ++ [file]) = offer demand (ofFiles demand seen) file := by
  rw [ofFiles, List.foldl_append]
  rfl

theorem Moment.trim {held : List Candidate} {bytes : Nat} (moment : Moment demand seen ⟨held, bytes⟩) :
    Moment demand seen (trim demand held bytes) := by
  induction held generalizing bytes with
  | nil => exact moment
  | cons latest rest ih =>
      by_cases can : CanSpare demand ⟨latest :: rest, bytes⟩
      · rw [trim_of_canSpare can]
        exact ih (moment.spare can)
      · rw [trim_of_done can]
        exact moment

theorem not_canSpare_ofFiles (demand : Demand) (files : List Candidate) :
    ¬CanSpare demand (ofFiles demand files) := by
  cases files using List.reverseRecOn with
  | nil => exact not_canSpare_trim demand [] 0
  | append_singleton seen file =>
      rw [ofFiles_concat]
      exact not_canSpare_trim demand _ _

theorem moment_ofFiles (demand : Demand) (files : List Candidate) :
    Moment demand files (ofFiles demand files) := by
  induction files using List.reverseRecOn with
  | nil => exact .start
  | append_singleton seen file ih =>
      rw [ofFiles_concat]
      exact (ih.take file (not_canSpare_ofFiles demand seen)).trim

/-- From each moment on the loop comes to the same result. -/
theorem Moment.comes (moment : Moment demand seen selection) :
    Selection.trim demand selection.held selection.bytes = ofFiles demand seen := by
  induction moment with
  | start => rfl
  | take file before done ih =>
      rw [trim_of_done done] at ih
      rw [ofFiles_concat, ← ih]
      rfl
  | spare before can ih => rw [← ih, trim_of_canSpare can]

/-- The loop is done with the files seen at one moment only. -/
theorem Moment.done_iff (moment : Moment demand seen selection) :
    ¬CanSpare demand selection ↔ selection = ofFiles demand seen := by
  constructor
  · intro done
    rw [← moment.comes, trim_of_done done]
  · rintro rfl
    exact not_canSpare_ofFiles demand seen

/-! ### The sum -/

/-- What is known of a moment: the sum is that of the files held, which were all seen. -/
structure Summed (seen : List Candidate) (selection : Selection) : Prop where
  sum : selection.bytes = totalSize selection.held
  known : selection.held.Subperm seen

theorem Moment.summed (moment : Moment demand seen selection) : Summed seen selection := by
  induction moment with
  | start => exact ⟨rfl, List.Subperm.refl _⟩
  | @take seen selection file before done ih =>
      refine ⟨?_, ?_⟩
      · rw [totalSize_perm (insertSorted_perm file selection.held), totalSize_cons, ih.sum,
          Nat.add_comm]
      · refine (insertSorted_perm file selection.held).subperm.trans ?_
        refine ((List.subperm_cons file).mpr ih.known).trans ?_
        exact (List.perm_append_singleton file seen).symm.subperm
  | @spare seen latest rest bytes before can ih =>
      refine ⟨?_, (List.sublist_cons_self latest rest).subperm.trans ih.known⟩
      have sum : bytes = latest.size + totalSize rest := ih.sum.trans (totalSize_cons latest rest)
      change bytes - latest.size = totalSize rest
      rw [sum, Nat.add_sub_cancel_left]

theorem totalSize_le_of_subperm {part whole : List Candidate} (within : part.Subperm whole) :
    totalSize part ≤ totalSize whole := by
  obtain ⟨same, perm, sublist⟩ := within
  obtain ⟨lost, all⟩ := sublist.exists_perm_append
  rw [← totalSize_perm perm, totalSize_perm all, totalSize_append]
  exact Nat.le_add_right _ _

/-- No file held is larger than the sum, which stays within that of all files. -/
theorem Summed.bounds (summed : Summed seen selection) :
    (∀ file ∈ selection.held, file.size ≤ selection.bytes) ∧ selection.bytes ≤ totalSize seen := by
  rw [summed.sum]
  refine ⟨fun file member => ?_, totalSize_le_of_subperm summed.known⟩
  have part := totalSize_le_of_subperm (List.singleton_sublist.mpr member).subperm
  rwa [totalSize_cons, totalSize_nil, Nat.add_zero] at part

/-- The files chosen do not depend on the order in which they come: they are the shortest part of the files
in order of their last use that meets the demand, or all of them. On the way the sum is always that of the
files held; taking the latest away from it never goes below zero, and it never goes beyond that of all
files. -/
theorem chosen_in_any_order (demand : Demand) (same : order.Perm files) :
    (∀ selection, Moment demand order selection ∧ ¬CanSpare demand selection ↔
      selection = ofFiles demand order) ∧
    ofFiles demand order = ofFiles demand files ∧
    ShortestPart demand (ranked files) (ofFiles demand order).oldestFirst ∧
    (∀ seen selection, seen <+: order → Moment demand seen selection →
      selection.bytes = totalSize selection.held ∧
      (∀ file ∈ selection.held, file.size ≤ selection.bytes) ∧
      selection.bytes ≤ totalSize files) := by
  have ranks : ranked order = ranked files :=
    eq_ranked (ranked_pairwise order) ((ranked_perm order).trans same)
  refine ⟨fun selection => ⟨fun ⟨moment, done⟩ => moment.done_iff.mp done, ?_⟩, ?_, ?_,
    fun seen selection start moment => ?_⟩
  · rintro rfl
    exact ⟨moment_ofFiles demand order, not_canSpare_ofFiles demand order⟩
  · rw [ofFiles_eq, ofFiles_eq, ranks]
  · rw [oldestFirst_ofFiles, ranks]
    exact shortestPart_shortest demand (ranked files)
  · obtain ⟨covered, within⟩ := moment.summed.bounds
    refine ⟨moment.summed.sum, covered, within.trans ?_⟩
    rw [← totalSize_perm same]
    exact totalSize_le_of_subperm start.sublist.subperm

private def shelf : List Candidate :=
  [⟨5, 4, [[97]]⟩, ⟨3, 0, [[98]]⟩, ⟨5, 2, [[99]]⟩, ⟨9, 7, [[100]]⟩, ⟨3, 0, [[101]]⟩]

theorem chosen_in_any_order_of_five :
    shelf.reverse.Perm shelf ∧
      (ofFiles ⟨3, 2⟩ shelf.reverse).oldestFirst =
        [⟨3, 0, [[98]]⟩, ⟨3, 0, [[101]]⟩, ⟨5, 2, [[99]]⟩, ⟨5, 4, [[97]]⟩] ∧
      ShortestPart ⟨3, 2⟩ (ranked shelf) (ofFiles ⟨3, 2⟩ shelf.reverse).oldestFirst ∧
      ∀ seen selection, seen <+: shelf.reverse → Moment ⟨3, 2⟩ seen selection →
        selection.bytes ≤ 13 := by
  have same : shelf.reverse.Perm shelf := List.reverse_perm shelf
  obtain ⟨-, -, part, sums⟩ := chosen_in_any_order ⟨3, 2⟩ same
  refine ⟨same, by decide +kernel, part, fun seen selection start moment => ?_⟩
  exact (sums seen selection start moment).2.2

end TieredCache.Selection
