import Mathlib.Data.List.Perm.Basic
import TieredCache.Proofs.Admission.Places

/-!
What holds of an admission control after any run. Main statement: `run_accounts`.
-/

namespace TieredCache.Traffic

variable {settings : AdmissionSettings} {admission changed : Admission (Receiver Nat)}
  {record later : Record} {work : Work Nat} {more others pool : List (Work Nat)}

/-! ### The invariant of a run -/

/-- All that runs keep of an admission control, of what happened around it, and of the work that
calls have left to do, in whatever order. -/
structure Sound (settings : AdmissionSettings) (admission : Admission (Receiver Nat))
    (record : Record) (pool : List (Work Nat)) : Prop where
  settings_eq : admission.settings = settings
  shape : Shape admission record pool
  once : (whereabouts admission record pool).Perm (List.range record.keys.length)
  told : Told admission record pool
  balance : Balance admission record pool
  limits : Limits admission

theorem announced_perm {left right : List (Work Nat)} (same : left.Perm right) :
    (announced record left).Perm (announced record right) :=
  (same.flatMap_right _).append_left _

theorem Sound.perm {left right : List (Work Nat)} (sound : Sound settings admission record left)
    (same : left.Perm right) : Sound settings admission record right where
  settings_eq := sound.settings_eq
  shape := { sound.shape with
    expected := fun work member => sound.shape.expected work (same.mem_iff.mpr member) }
  once := by
    refine List.Perm.trans ?_ sound.once
    exact ((same.symm.flatMap_right _).append_left _).append_right _
  told := { sound.told with
    passedOn := fun entry answered callback waiting =>
      (announced_perm same).mem_iff.mp (sound.told.passedOn entry answered callback waiting)
    sourced := fun telling known =>
      sound.told.sourced telling ((announced_perm same).mem_iff.mpr known)
    missed := fun callback turned =>
      (announced_perm same).mem_iff.mp (sound.told.missed callback turned) }
  balance := by
    refine sound.balance.move ?_ ?_
    · rw [(same.map _).sum_nat]
    · intro number
      rw [(same.map _).sum_nat]
  limits := sound.limits

theorem Sound.nodup (sound : Sound settings admission record pool) :
    (whereabouts admission record pool).Nodup :=
  sound.once.nodup_iff.mpr List.nodup_range

theorem Sound.effect (sound : Sound settings admission record (work :: others))
    (effect : Effect admission record work changed later more) :
    Sound settings changed later (more ++ others) where
  settings_eq := effect.settings_eq.trans sound.settings_eq
  shape := sound.shape.effect effect
  once := by
    rw [effect.keys_eq]
    exact (effect.whereabouts_perm others).trans sound.once
  told := sound.told.effect sound.nodup effect
  balance := sound.balance.effect sound.shape.queued effect
  limits := sound.limits.effect effect

theorem Sound.opened (settings : AdmissionSettings) :
    Sound settings { settings } {} [] where
  settings_eq := rfl
  shape := ⟨by simp, by simp, by simp, by simp⟩
  once := .refl _
  told := ⟨by simp, by simp [announced], by simp, rfl, List.nodup_nil⟩
  balance := ⟨rfl, fun _ => rfl, by simp, List.nodup_nil, by simp⟩
  limits := ⟨Nat.zero_le _, Nat.zero_le _, by simp, fun _ => rfl⟩

/-! ### Moves -/

theorem getElem?_of_longer {keys : List String} {callback : Nat} {key : String} (more : String)
    (own : keys[callback]? = some key) : (keys ++ [more])[callback]? = some key := by
  rw [List.getElem?_append_left (List.getElem?_eq_some_iff.mp own).1]
  exact own

theorem Given.longer {keys : List String} {request : Request (Receiver Nat)}
    (given : Given keys request) (key : String) : Given (keys ++ [key]) request := by
  cases given with
  | single own => exact .single (getElem?_of_longer key own)
  | member batch own => exact .member batch (getElem?_of_longer key own)

theorem Expected.longer {keys : List String} (expected : Expected keys work) (key : String) :
    Expected (keys ++ [key]) work := by
  cases expected with
  | arrival own => exact .arrival (getElem?_of_longer key own)
  | single given => exact .single (given.longer key)
  | batch given => exact .batch fun request member => (given request member).longer key
  | fromSingle callback lookup => exact .fromSingle callback lookup
  | fromMember batch callback lookup => exact .fromMember batch callback lookup
  | reply callback lookup => exact .reply callback lookup
  | inform callback lookup => exact .inform callback lookup
  | freePlace => exact .freePlace
  | countMember batch => exact .countMember batch
  | shutDown => exact .shutDown
  | shutDownBehind => exact .shutDownBehind

theorem Sound.get (sound : Sound settings admission record pool) (key : String) :
    Sound settings admission { record with keys := record.keys ++ [key] }
      (.ask control key (.client record.keys.length) :: pool) where
  settings_eq := sound.settings_eq
  shape := {
    expected := by
      intro work member
      rcases List.mem_cons.mp member with rfl | old
      · exact .arrival List.getElem?_concat_length
      · exact (sound.shape.expected work old).longer key
    queued := by
      intro request member
      cases sound.shape.queued request member with
      | waiting own => exact .waiting (getElem?_of_longer key own)
    given := fun request member => (sound.shape.given request member).longer key
    answered := fun entry member => (sound.shape.answered entry member).longer key }
  once := by
    rw [List.length_append, List.length_singleton, List.range_succ]
    refine List.Perm.trans ?_ (sound.once.append_right _)
    rw [List.perm_iff_count]
    intro callback
    simp only [whereabouts, List.flatMap_cons, List.count_append, Work.callbacks,
      Receiver.callbacks]
    omega
  told := ⟨sound.told.passedOn, sound.told.sourced, sound.told.missed, sound.told.counted,
    sound.told.distinct⟩
  balance := sound.balance.cons_idle rfl rfl fun _ => rfl
  limits := sound.limits

theorem Sound.shutDown (sound : Sound settings admission record pool) :
    Sound settings admission record (.shutDown control :: pool) where
  settings_eq := sound.settings_eq
  shape := { sound.shape with
    expected := by
      intro work member
      rcases List.mem_cons.mp member with rfl | old
      · exact .shutDown
      · exact sound.shape.expected work old }
  once := sound.once
  told := ⟨sound.told.passedOn, sound.told.sourced, sound.told.missed, sound.told.counted,
    sound.told.distinct⟩
  balance := sound.balance.cons_idle rfl rfl fun _ => rfl
  limits := sound.limits

theorem Given.expected {keys : List String} {request : Request (Receiver Nat)}
    (given : Given keys request) (lookup : Lookup) :
    Expected keys (.answer request.receiver lookup) := by
  cases given with
  | single own => exact .fromSingle _ lookup
  | member batch own => exact .fromMember batch _ lookup

theorem Sound.answer {position : Nat} {request : Request (Receiver Nat)}
    (sound : Sound settings admission record pool)
    (present : record.outstanding[position]? = some request) (lookup : Lookup) :
    Sound settings admission
      { record with
        outstanding := record.outstanding.eraseIdx position
        answers := (request, lookup) :: record.answers }
      (.answer request.receiver lookup :: pool) := by
  obtain ⟨inside, rfl⟩ := List.getElem?_eq_some_iff.mp present
  have taken := List.getElem_cons_eraseIdx_perm inside
  have given := sound.shape.given _ (List.getElem_mem inside)
  refine ⟨sound.settings_eq, ?_, ?_, ?_, ?_, sound.limits⟩
  · refine ⟨?_, sound.shape.queued, ?_, ?_⟩
    · intro work member
      rcases List.mem_cons.mp member with rfl | old
      · exact given.expected lookup
      · exact sound.shape.expected work old
    · intro other member
      exact sound.shape.given other (taken.mem_iff.mp (List.mem_cons_of_mem _ member))
    · intro entry member
      rcases List.mem_cons.mp member with rfl | old
      · exact given
      · exact sound.shape.answered entry old
  · refine List.Perm.trans ?_ sound.once
    rw [List.perm_iff_count]
    intro callback
    have same := ((taken.flatMap_right (·.receiver.callbacks)).count_eq callback)
    rw [List.flatMap_cons, List.count_append] at same
    simp only [whereabouts, List.flatMap_cons, List.count_append, Work.callbacks]
    omega
  · have announced_cons : announced record (.answer record.outstanding[position].receiver lookup ::
        pool) = record.told ++ (record.outstanding[position].receiver.callbacks.map (·, lookup) ++
          pool.flatMap (·.tellings)) := rfl
    have later : ∀ telling ∈ announced record pool, telling ∈ announced record
        (.answer record.outstanding[position].receiver lookup :: pool) := by
      intro telling known
      rw [announced_cons]
      rcases List.mem_append.mp known with old | underWay
      · exact List.mem_append_left _ old
      · exact List.mem_append_right _ (List.mem_append_right _ underWay)
    refine ⟨?_, ?_, ?_, sound.told.counted, sound.told.distinct⟩
    · intro entry answered callback waiting
      rcases List.mem_cons.mp answered with rfl | old
      · refine List.mem_append_right _ (List.mem_append_left _ ?_)
        exact List.mem_map.mpr ⟨callback, waiting, rfl⟩
      · exact later _ (sound.told.passedOn entry old callback waiting)
    · intro telling known
      rcases List.mem_append.mp known with old | underWay
      · refine (sound.told.sourced telling (List.mem_append_left _ old)).imp_right ?_
        rintro ⟨request, answered, own⟩
        exact ⟨request, List.mem_cons_of_mem _ answered, own⟩
      · rcases List.mem_append.mp underWay with fresh | old
        · obtain ⟨callback, own, rfl⟩ := List.mem_map.mp fresh
          exact .inr ⟨_, List.mem_cons_self, own⟩
        · refine (sound.told.sourced telling (List.mem_append_right _ old)).imp_right ?_
          rintro ⟨request, answered, own⟩
          exact ⟨request, List.mem_cons_of_mem _ answered, own⟩
    · intro callback turned
      exact later _ (sound.told.missed callback turned)
  · refine sound.balance.move ?_ ?_
    · have same := taken.countP_eq (·.receiver.isSingle)
      rw [List.countP_cons] at same
      rw [List.map_cons, List.sum_cons]
      change _ + ((if _ then 1 else 0) + _) = _
      change List.countP _ (record.outstanding.eraseIdx position) + _ = _
      omega
    · intro number
      have same := taken.countP_eq (·.receiver.batch? = some number)
      rw [List.countP_cons] at same
      rw [List.map_cons, List.sum_cons]
      change _ + ((if _ then 1 else 0) + _) = _
      change List.countP _ (record.outstanding.eraseIdx position) + _ = _
      simp only [decide_eq_true_eq] at same
      omega

end TieredCache.Traffic
