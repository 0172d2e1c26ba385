import Mathlib.Data.List.Nodup
import TieredCache.Proofs.Decorators.History

/-!
Callbacks are told apart. A report has the number of its operation in its label, with its place in a
batch behind it, and no promise is made twice. Main statement: no callback is handed in twice in a run.
-/

namespace TieredCache

/-! ### Labels -/

def stem (label : String) : List Char := label.toList.takeWhile (· ≠ '#')

theorem toList_label (number : Nat) :
    ("s" ++ toString number).toList = 's' :: Nat.toDigits 10 number := by
  rw [String.toList_append]
  exact congrArg _ Nat.toList_repr

theorem unmarked_label (number : Nat) : ∀ letter ∈ ("s" ++ toString number).toList, letter ≠ '#' := by
  intro letter member
  rw [toList_label] at member
  rcases List.mem_cons.mp member with rfl | digit
  · decide
  · rintro rfl
    have isDigit := Nat.isDigit_of_mem_toDigits (by decide) (by decide) digit
    revert isDigit
    decide

theorem digits_injective {left right : Nat}
    (same : Nat.toDigits 10 left = Nat.toDigits 10 right) : left = right := by
  rw [← Nat.ofDigitChars_ten_toDigits (n := left), same, Nat.ofDigitChars_ten_toDigits]

theorem label_injective {left right : Nat}
    (same : ("s" ++ toString left).toList = ("s" ++ toString right).toList) : left = right := by
  rw [toList_label, toList_label] at same
  exact digits_injective (List.cons.inj same).2

theorem batch_injective (label : String) {left right : Nat}
    (same : label ++ "#" ++ toString left = label ++ "#" ++ toString right) : left = right := by
  have places : Nat.repr left = Nat.repr right := (String.append_right_inj _).mp same
  refine digits_injective ?_
  rw [← Nat.toList_repr, ← Nat.toList_repr, places]

theorem stem_label (number : Nat) :
    stem ("s" ++ toString number) = ("s" ++ toString number).toList := by
  have whole : (("s" ++ toString number).toList ++ []).takeWhile (· ≠ '#') =
      ("s" ++ toString number).toList ++ [].takeWhile (· ≠ '#') :=
    List.takeWhile_append_of_pos fun letter member =>
      decide_eq_true (unmarked_label number letter member)
  rw [List.append_nil, List.takeWhile_nil, List.append_nil] at whole
  exact whole

theorem stem_batch (number place : Nat) :
    stem ("s" ++ toString number ++ "#" ++ toString place) = ("s" ++ toString number).toList := by
  rw [stem, String.toList_append, String.toList_append, List.append_assoc,
    List.takeWhile_append_of_pos fun letter member =>
      decide_eq_true (unmarked_label number letter member)]
  change _ ++ List.takeWhile _ ('#' :: (toString place).toList) = _
  rw [List.takeWhile_cons_of_neg (by decide), List.append_nil]

/-! ### Callbacks of one operation -/

namespace StackOperation

variable {operation : StackOperation} {top fresh number : Nat} {key : String}

theorem callbacks_distinct (keys : List String) {callback : Nat → Callback}
    (injective : callback.Injective) :
    ((keys.mapIdx fun place key => (callback place, key)).map Prod.fst).Nodup := by
  have places : (keys.mapIdx fun place key => (callback place, key)).map Prod.fst =
      (List.range keys.length).map callback := by
    refine List.ext_getElem (by simp) fun place left right => ?_
    simp
  rw [places]
  exact List.nodup_range.map injective

theorem handed_distinct (operation : StackOperation) (top : Nat) (label : String) (fresh : Nat) :
    (((operation.pool top label fresh).flatMap Work.handed).map Prod.fst).Nodup := by
  cases operation with
  | get key | lookup key => exact List.nodup_singleton _
  | getMany keys =>
      rw [pool, List.flatMap_singleton, handed_requests]
      refine callbacks_distinct keys fun left right same => batch_injective label ?_
      injection same
  | lookupMany keys =>
      rw [pool, List.flatMap_singleton, handed_requests]
      refine callbacks_distinct keys fun left right same => ?_
      injection same with same
      exact Nat.add_left_cancel same
  | _ => exact List.nodup_nil

theorem stem_handed {label : String} {further : List Step}
    (member : (.report label further, key) ∈
      (operation.pool top ("s" ++ toString number) fresh).flatMap Work.handed) :
    stem label = ("s" ++ toString number).toList := by
  cases operation with
  | get own =>
      simp only [pool, List.flatMap_singleton, Work.handed, Receiver.callbacks, List.map_cons,
        List.map_nil, List.mem_singleton, Prod.mk.injEq, Callback.report.injEq] at member
      rw [member.1.1]
      exact stem_label number
  | getMany keys =>
      rw [pool, List.flatMap_singleton, handed_requests] at member
      obtain ⟨place, inside, same⟩ := List.mem_mapIdx.mp member
      injection same with same
      injection same with same
      rw [← same]
      exact stem_batch number place
  | lookup own => simp [pool, Work.handed, Receiver.callbacks] at member
  | lookupMany keys =>
      rw [pool, List.flatMap_singleton, handed_requests] at member
      obtain ⟨place, inside, same⟩ := List.mem_mapIdx.mp member
      cases same
  | _ => cases member

theorem promise_handed {label : String}
    (member : (.promise number, key) ∈ (operation.pool top label fresh).flatMap Work.handed) :
    fresh ≤ number ∧ number < fresh + operation.promises := by
  cases operation with
  | get own => simp [pool, Work.handed, Receiver.callbacks] at member
  | getMany keys =>
      rw [pool, List.flatMap_singleton, handed_requests] at member
      obtain ⟨place, inside, same⟩ := List.mem_mapIdx.mp member
      cases same
  | lookup own =>
      simp only [pool, List.flatMap_singleton, Work.handed, Receiver.callbacks, List.map_cons,
        List.map_nil, List.mem_singleton, Prod.mk.injEq, Callback.promise.injEq] at member
      rw [member.1, promises]
      omega
  | lookupMany keys =>
      rw [pool, List.flatMap_singleton, handed_requests] at member
      obtain ⟨place, inside, same⟩ := List.mem_mapIdx.mp member
      cases same
      rw [promises]
      omega
  | _ => cases member

end StackOperation

/-! ### Callbacks of a run -/

namespace History

variable {history : History}

structure Distinct (history : History) : Prop where
  reports : ∀ label further key, (.report label further, key) ∈ history.handed →
    ∃ number < history.moments.length, stem label = ("s" ++ toString number).toList
  promises : ∀ number key, (.promise number, key) ∈ history.handed →
    number < history.session.freshPromise
  single : (history.handed.map Prod.fst).Nodup

theorem Kept.freshPromise_next (kept : history.Kept) (operation : StackOperation) :
    (history.next operation).session.freshPromise =
      history.session.freshPromise + operation.promises := by
  obtain ⟨after, -, -⟩ := kept.take operation
  obtain ⟨runs, -⟩ := kept.run operation
  change (history.moment operation).after.freshPromise = _
  rw [after]
  change (history.ran operation).freshPromise = _
  rw [runs.freshPromise, begun, StackOperation.session_start]
  rfl

theorem Distinct.next (distinct : history.Distinct) (kept : history.Kept)
    (operation : StackOperation) : (history.next operation).Distinct := by
  have whole : (history.next operation).handed =
      history.handed ++ (history.pool operation).flatMap Work.handed := by
    rw [handed_next, handed_moment]
  have longer := history.length_next operation
  refine ⟨fun label further key member => ?_, fun number key member => ?_, ?_⟩
  · rw [whole] at member
    rcases List.mem_append.mp member with old | new
    · obtain ⟨number, before, same⟩ := distinct.reports label further key old
      exact ⟨number, by omega, same⟩
    · exact ⟨history.moments.length, by omega, StackOperation.stem_handed new⟩
  · rw [whole] at member
    rw [kept.freshPromise_next]
    rcases List.mem_append.mp member with old | new
    · have before := distinct.promises number key old
      omega
    · exact (StackOperation.promise_handed new).2
  · rw [whole, List.map_append]
    refine List.nodup_append.mpr ⟨distinct.single, operation.handed_distinct _ _ _, ?_⟩
    intro callback old other new same
    obtain ⟨⟨callback, key⟩, earlier, rfl⟩ := List.mem_map.mp old
    obtain ⟨⟨other, name⟩, later, rfl⟩ := List.mem_map.mp new
    change callback = other at same
    subst same
    cases callback with
    | report label further =>
        obtain ⟨number, before, stems⟩ := distinct.reports label further key earlier
        have same := label_injective (stems.symm.trans (StackOperation.stem_handed later))
        omega
    | promise number =>
        have before := distinct.promises number key earlier
        have after := (StackOperation.promise_handed later).1
        omega
    | front place name hooks next =>
        rw [← handed_moment] at later
        cases Moment.isPlain_handed later

end History

end TieredCache
