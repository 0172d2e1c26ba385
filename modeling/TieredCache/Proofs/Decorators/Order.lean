import TieredCache.Proofs.Decorators.Descent
import TieredCache.Proofs.Decorators.Errands
import TieredCache.Proofs.Decorators.Toll

/-!
Stacks in order: what is true of a stack of decorators and of the work that is left, whatever was
handed in. Every piece of work keeps it, and no callback is lost or told twice.
-/

namespace TieredCache

variable {α : Type}

namespace Stack

variable {terms : Terms α} {stack next : Stack α} {work : Work α} {more rest works : List (Work α)}

/-- What a stack holds, with the callbacks that its tickets stand for. -/
structure Sound (terms : Terms α) (book : Book α) (stack : Stack α) : Prop where
  layers : ∀ index layer, stack.layer? index = some layer → layer.Sound terms book index
  used : ∀ index layer, stack.layer? index = some layer →
    ∀ number callback, book index number callback → number < layer.fresh
  single : book.Single

structure Orderly (terms : Terms α) (stack : Stack α) (works : List (Work α)) : Prop where
  steady : stack.Steady
  expected : ∀ work ∈ works, Expected stack work
  tracked : stack.Tracked works
  honest : ∃ book, stack.Sound terms book ∧ ∀ work ∈ works, work.Sound terms book
  missed : ∀ callback key, terms.wants callback key → terms.right callback .notFound
  read : ∀ callback key, terms.wants callback key → terms.right callback (stack.found key)
  settled : stack.departures = []

theorem Effect.found (effect : Effect stack work next more) (key : String) :
    next.found key = stack.found key ∨ next.found key = .notFound := by
  cases effect with
  | act placed act altered => exact altered.found key
  | pass | idle => exact .inl rfl

theorem Effect.departures (effect : Effect stack work next more) :
    next.departures = stack.departures := by
  cases effect with
  | act placed act altered => exact altered.departures
  | pass | idle => rfl

theorem Effect.sound {book : Book α} (effect : Effect stack work next more)
    (decorated : stack.Decorated)
    (missed : ∀ callback key, terms.wants callback key → terms.right callback .notFound)
    (read : ∀ callback key, terms.wants callback key → terms.right callback (stack.found key))
    (sound : stack.Sound terms book)
    (own : ∀ other ∈ work :: rest, other.Sound terms book) :
    ∃ grown, next.Sound terms grown ∧ ∀ other ∈ more ++ rest, other.Sound terms grown := by
  have later : ∀ other ∈ rest, other.Sound terms book :=
    fun other member => own other (List.mem_cons_of_mem _ member)
  cases effect with
  | @act index before after _ _ _ placed act altered =>
      have lower : ∀ inner, before.inner? = some inner → inner < index := fun inner onto => by
        have between := decorated.inner_eq placed onto
        omega
      obtain ⟨grown, grows, used, kept, left⟩ := act.sound sound.single (sound.used index _ placed)
        lower missed read (sound.layers index _ placed) (own work List.mem_cons_self)
      refine ⟨grown, ⟨?_, ?_, grows.single⟩, fun other member => ?_⟩
      · exact altered.each (fun place layer => layer.Sound terms grown place) placed kept
          fun place layer _ there => (sound.layers place layer there).mono grows.kept
      · refine altered.each (fun place layer => ∀ number callback, grown place number callback →
          number < layer.fresh) placed used fun place layer apart there number callback entry => ?_
        exact sound.used place layer there number callback (grows.others _ _ _ apart entry)
      · rcases List.mem_append.mp member with new | old
        · exact left other new
        · exact (later other old).mono grows.kept
  | pass passage =>
      refine ⟨book, sound, fun other member => ?_⟩
      rcases List.mem_append.mp member with new | old
      · exact passage.sound (own _ List.mem_cons_self) other new
      · exact later other old
  | idle => exact ⟨book, sound, later⟩

theorem Effect.orderly (effect : Effect stack work next more)
    (orderly : stack.Orderly terms (work :: rest)) : next.Orderly terms (more ++ rest) where
  steady := effect.steady orderly.steady
  expected := by
    have decorated := orderly.steady.decorated
    intro follower member
    rcases List.mem_append.mp member with new | old
    · exact effect.expected decorated (orderly.expected work List.mem_cons_self) follower new
    · exact (effect.alike decorated).expected
        (orderly.expected follower (List.mem_cons_of_mem _ old))
  tracked := effect.tracked orderly.steady.regular orderly.tracked
  honest := by
    obtain ⟨book, sound, own⟩ := orderly.honest
    exact effect.sound orderly.steady.decorated orderly.missed orderly.read sound own
  missed := orderly.missed
  read := by
    intro callback key wanted
    rcases effect.found key with same | miss
    · rw [same]
      exact orderly.read callback key wanted
    · rw [miss]
      exact orderly.missed callback key wanted
  settled := effect.departures.trans orderly.settled

/-- A callback that is told gets an answer that is right for it. -/
theorem Orderly.told {callback : α} {lookup : Lookup}
    (orderly : stack.Orderly terms (.inform callback lookup :: rest)) :
    stack.Orderly terms rest ∧ terms.right callback lookup := by
  obtain ⟨book, sound, own⟩ := orderly.honest
  refine ⟨⟨orderly.steady, fun work member => orderly.expected work (List.mem_cons_of_mem _ member),
    ⟨fun index layer number placed awaits => ?_, fun index layer number placed visited => ?_⟩,
    ⟨book, sound, fun work member => own work (List.mem_cons_of_mem _ member)⟩, orderly.missed,
    orderly.read, orderly.settled⟩, own _ List.mem_cons_self⟩
  · have named := orderly.tracked.awaited index layer number placed awaits
    rcases List.mem_append.mp named with held | left
    · exact List.mem_append_left _ held
    · rcases List.mem_append.mp left with here | later
      · cases List.mem_singleton.mp here
      · exact List.mem_append_right _ later
  · exact orderly.tracked.visited index layer number placed visited

theorem Leads.orderly {first last : Stack α × List (Work α)} (leads : Leads first last)
    (orderly : first.1.Orderly terms first.2) : last.1.Orderly terms last.2 := by
  induction leads with
  | refl => exact orderly
  | tail _ turn ih =>
      cases turn with
      | mk rest moving performed effect => exact effect.orderly ih

/-! ### Callbacks -/

def callbacks (stack : Stack α) (works : List (Work α)) : List α :=
  (stack.roots ++ rootsOf works).flatMap Receiver.callbacks

/-- No callback gets lost, and none is made up. -/
theorem Effect.callbacks_perm (effect : Effect stack work next more) (regular : stack.Regular) :
    (next.callbacks (more ++ rest)).Perm (stack.callbacks (work :: rest)) := by
  obtain ⟨made, silent, perm⟩ := effect.roots_perm regular
  have calls := perm.flatMap_right Receiver.callbacks
  have used : work.spent.flatMap Receiver.callbacks = [] := by
    unfold Work.spent
    split <;> rfl
  have unheard : made.flatMap Receiver.callbacks = [] := List.flatMap_eq_nil_iff.mpr silent
  simp only [List.flatMap_append, used, unheard, List.append_nil] at calls
  simp only [callbacks, rootsOf_append, rootsOf_cons, List.flatMap_append, ← List.append_assoc]
  exact calls.append_right _

end Stack

end TieredCache
