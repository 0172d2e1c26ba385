import TieredCache.Proofs.Decorators.Labels

/-!
Stacks of decorators that were not used yet. Nothing is held in them, so a run that starts with one is in
order from its start.
-/

namespace TieredCache

namespace Session

variable (leaf : Leaf) (decorators : List Decorator) (tree : FileTree) (now : Millis)

theorem layer?_decorated {index : Nat} {layer : Layer Callback}
    (placed : (decorated leaf decorators tree now).stack.layer? index = some layer) :
    (index = 0 ∧ layer = leaf.layer) ∨
      ∃ inner decorator, index = inner + 1 ∧ layer = Decorator.layer inner decorator := by
  cases index with
  | zero =>
      cases placed
      exact .inl ⟨rfl, rfl⟩
  | succ inner =>
      have there : (decorators.mapIdx Decorator.layer)[inner]? = some layer := placed
      rw [List.getElem?_mapIdx] at there
      obtain ⟨decorator, -, rfl⟩ := Option.map_eq_some_iff.mp there
      exact .inr ⟨inner, decorator, rfl, rfl⟩

/-- What holds of all layers that were not used yet holds of all layers. -/
theorem each_decorated (holds : Layer Callback → Prop) (bottom : holds leaf.layer)
    (upper : ∀ inner decorator, holds (Decorator.layer inner decorator)) :
    ∀ index layer, (decorated leaf decorators tree now).stack.layer? index = some layer →
      holds layer := by
  intro index layer placed
  rcases layer?_decorated leaf decorators tree now placed with
    ⟨-, rfl⟩ | ⟨inner, decorator, -, rfl⟩
  · exact bottom
  · exact upper inner decorator

theorem steady_decorated : (decorated leaf decorators tree now).stack.Steady where
  moving := rfl
  decorated := by
    refine ⟨⟨leaf.layer, rfl, by cases leaf <;> rfl⟩, fun index layer placed => ?_⟩
    rcases layer?_decorated leaf decorators tree now placed with
      ⟨zero, -⟩ | ⟨inner, decorator, same, rfl⟩
    · cases zero
    · cases same
      cases decorator <;> rfl
  regular := by
    refine each_decorated leaf decorators tree now Layer.Regular ?_ fun inner decorator => ?_
    · cases leaf <;> trivial
    · cases decorator with
      | admission settings => exact fun _ => rfl
      | guarded => exact ⟨List.nodup_nil, fun _ member => nomatch member⟩
      | counted | delayed => trivial

theorem roots_decorated : (decorated leaf decorators tree now).stack.roots = [] := by
  refine List.flatMap_eq_nil_iff.mpr fun layer member => ?_
  obtain ⟨index, placed⟩ := List.mem_iff_getElem?.mp member
  refine each_decorated leaf decorators tree now (fun layer => layer.roots = []) ?_
    (fun inner decorator => ?_) index layer placed
  · cases leaf <;> rfl
  · cases decorator <;> rfl

theorem toll_decorated : (decorated leaf decorators tree now).stack.toll = 0 := by
  refine List.sum_eq_zero_iff_forall_eq_nat.mpr fun toll member => ?_
  obtain ⟨layer, inside, rfl⟩ := List.mem_map.mp member
  obtain ⟨index, placed⟩ := List.mem_iff_getElem?.mp inside
  refine each_decorated leaf decorators tree now (fun layer => layer.toll = 0) ?_
    (fun inner decorator => ?_) index layer placed
  · cases leaf <;> rfl
  · cases decorator <;> rfl

theorem orderly_decorated :
    (decorated leaf decorators tree now).stack.Orderly (termsOf []) [] where
  steady := steady_decorated leaf decorators tree now
  expected := fun _ member => nomatch member
  tracked := by
    constructor
    · intro index layer number placed awaits
      refine absurd awaits (each_decorated leaf decorators tree now
        (fun layer => ¬layer.Awaits number) ?_ (fun inner decorator => ?_) index layer placed)
      · cases leaf <;> exact id
      · cases decorator with
        | guarded => exact fun ⟨_, member, _⟩ => nomatch member
        | _ => exact id
    · intro index layer number placed visited
      refine absurd visited (each_decorated leaf decorators tree now
        (fun layer => ¬layer.Visited number) ?_ (fun inner decorator => ?_) index layer placed)
      · cases leaf <;> exact id
      · cases decorator with
        | guarded | delayed => exact fun ⟨_, member, _⟩ => nomatch member
        | _ => exact id
  honest := by
    refine ⟨fun _ _ _ => False, ⟨fun index => ?_, fun _ _ _ _ _ entry => entry.elim,
      fun _ _ _ _ entry => entry.elim⟩, fun _ member => nomatch member⟩
    refine each_decorated leaf decorators tree now
      (fun layer => layer.Sound (termsOf []) (fun _ _ _ => False) index) ?_
      (fun inner decorator => ?_) index
    · cases leaf <;> trivial
    · cases decorator with
      | admission settings | guarded => exact fun _ member => nomatch member
      | counted => trivial
      | delayed => exact ⟨fun _ member => (nomatch member), fun _ member => nomatch member⟩
  missed := fun _ _ ⟨_, member, _⟩ => nomatch member
  read := fun _ _ ⟨_, member, _⟩ => nomatch member
  settled := rfl

theorem kept_decorated : History.Kept ⟨[], decorated leaf decorators tree now⟩ where
  resting :=
    { orderly := ⟨_, orderly_decorated leaf decorators tree now, .refl _⟩
      free := by
        refine each_decorated leaf decorators tree now (fun layer => layer.isHeld = false) ?_
          fun inner decorator => ?_
        · cases leaf <;> rfl
        · cases decorator <;> rfl
      paid := by
        rw [toll_decorated]
        exact Nat.zero_le _
      served := rfl
      silent := rfl
      right := fun _ member => nomatch member }
  accounts := by
    rw [Stack.callbacks, roots_decorated]
    exact .refl _
  answered := fun _ member => nomatch member
  promises := fun _ _ => ⟨fun member => (nomatch member), fun member => nomatch member⟩

theorem distinct_decorated : History.Distinct ⟨[], decorated leaf decorators tree now⟩ where
  reports := fun _ _ _ member => nomatch member
  promises := fun _ _ member => nomatch member
  single := List.nodup_nil

end Session

end TieredCache
