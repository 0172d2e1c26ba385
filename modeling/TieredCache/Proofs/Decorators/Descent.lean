import Mathlib.Logic.Relation
import TieredCache.Proofs.Decorators.Roots

/-!
Lookups on their way down. While a caller is inside of a guard, nothing comes up to the guard but
answers to the lookups inside, as no queue behind it goes out: a place is only given to a new lookup
when no lookup waits. So the way down ends, and the guard is free again, before anybody is told.
-/

namespace TieredCache

variable {α : Type}

def Work.isCalm : Work α → Bool
  | .freeGuard _ | .shutDown _ => false
  | _ => true

namespace Stack

inductive Turn : Stack α × List (Work α) → Stack α × List (Work α) → Prop where
  | mk {stack next : Stack α} {work : Work α} {more : List (Work α)} (rest : List (Work α))
      (moving : stack.stuck = false) (performed : stack.perform work = (next, more))
      (effect : Effect stack work next more) : Turn (stack, work :: rest) (next, more ++ rest)

abbrev Leads : Stack α × List (Work α) → Stack α × List (Work α) → Prop := Relation.ReflTransGen Turn

/-- What is true of a stack of decorators between any two pieces of work. -/
structure Steady (stack : Stack α) : Prop where
  moving : stack.stuck = false
  decorated : stack.Decorated
  regular : stack.Regular

variable {stack next : Stack α} {index lower : Nat} {work : Work α} {more rest : List (Work α)}
  {layer before after : Layer α}

theorem Effect.steady (effect : Effect stack work next more) (steady : stack.Steady) :
    next.Steady where
  moving := effect.moving steady.moving
  decorated := (effect.alike steady.decorated).decorated steady.decorated
  regular := effect.regular steady.regular

theorem Leads.steady {first last : Stack α × List (Work α)} (leads : Leads first last)
    (steady : first.1.Steady) : last.1.Steady := by
  induction leads with
  | refl => exact steady
  | tail _ turn ih =>
      cases turn with
      | mk rest moving performed effect => exact effect.steady ih

/-- Work that waits for no guard is done. -/
theorem Steady.turn (steady : stack.Steady) (expected : Expected stack work)
    (quiet : ∀ callback lookup, work ≠ .inform callback lookup)
    (unblocked : ∀ index layer, work.entered? = some index → stack.layer? index = some layer →
      layer.isHeld = false) :
    ∃ next more, Effect stack work next more ∧
      ∀ rest, Turn (stack, work :: rest) (next, more ++ rest) := by
  have effect := steady.decorated.effect steady.moving expected quiet
    fun ⟨index, layer, enters, placed, held⟩ =>
      absurd held (by rw [unblocked index layer enters placed]; decide)
  exact ⟨_, _, effect, fun rest => .mk rest steady.moving rfl effect⟩

theorem handOut_nil_turn (moving : stack.stuck = false) (index : Nat) (rest : List (Work α)) :
    Turn (stack, .handOut index [] :: rest) (stack, rest) := by
  refine .mk rest moving ?_ (.idle rfl rfl rfl fun _ _ used => absurd used List.not_mem_nil)
  rw [perform, moving]
  rfl

def FreeTo (stack : Stack α) (index : Nat) : Prop :=
  ∀ place ≤ index, ∀ layer, stack.layer? place = some layer → layer.isHeld = false

def SameOver (index : Nat) (stack next : Stack α) : Prop :=
  ∀ place, index < place → next.layer? place = stack.layer? place

theorem FreeTo.below {place : Nat} (free : stack.FreeTo index)
    (altered : stack.Altered next place after) (le : lower ≤ index) (under : lower < place) :
    next.FreeTo lower := by
  intro other within layer there
  rw [altered.layer?_of_ne (by omega)] at there
  exact free other (Nat.le_trans within le) layer there

theorem FreeTo.altered (free : stack.FreeTo lower) (altered : stack.Altered next index after)
    (outside : after.isHeld = false) (placed : stack.layer? index = some before) :
    next.FreeTo lower := by
  intro place le layer there
  by_cases here : index = place
  · cases here
    cases (altered.layer?_self placed).symm.trans there
    exact outside
  · rw [altered.layer?_of_ne here] at there
    exact free place le layer there

inductive Idle (stack : Stack α) (index : Nat) : Work α → Prop where
  | handOut {place : Nat} (le : place ≤ index) : Idle stack index (.handOut place [])
  | freePlace {place : Nat} (le : place ≤ index)
      (empty : ∀ inner admission, stack.layer? place = some (.admission inner admission) →
        admission.queue = []) : Idle stack index (.freePlace place)

theorem Idle.mono (idle : Idle stack lower work) (le : lower ≤ index)
    (same : ∀ place ≤ lower, next.layer? place = stack.layer? place) : Idle next index work := by
  cases idle with
  | handOut under => exact .handOut (Nat.le_trans under le)
  | freePlace under empty =>
      refine .freePlace (Nat.le_trans under le) fun inner admission there => ?_
      rw [same _ under] at there
      exact empty inner admission there

theorem Idle.altered {place inner : Nat} {admission : Admission (Receiver α)}
    (idle : Idle stack index work)
    (altered : stack.Altered next place (.admission inner admission))
    (placed : stack.layer? place = some before) (clear : admission.queue = []) :
    Idle next index work := by
  cases idle with
  | handOut under => exact .handOut under
  | @freePlace other under empty =>
      refine .freePlace under fun below state there => ?_
      by_cases here : place = other
      · cases here
        cases (altered.layer?_self placed).symm.trans there
        exact clear
      · rw [altered.layer?_of_ne here] at there
        exact empty below state there

theorem idle_leads {works : List (Work α)} (steady : stack.Steady) (free : stack.FreeTo index)
    (idle : ∀ work ∈ works, Idle stack index work) (rest : List (Work α)) :
    ∃ next, Leads (stack, works ++ rest) (next, rest) ∧ next.FreeTo index ∧
      SameOver index stack next := by
  induction works generalizing stack with
  | nil => exact ⟨stack, .refl, free, fun _ _ => rfl⟩
  | cons work others ih =>
      have later : ∀ work ∈ others, Idle stack index work :=
        fun work member => idle work (List.mem_cons_of_mem _ member)
      cases idle work List.mem_cons_self with
      | @handOut place le =>
          have turn := handOut_nil_turn steady.moving place (others ++ rest)
          obtain ⟨next, leads, freed, same⟩ := ih steady free later
          exact ⟨next, .head turn leads, freed, same⟩
      | @freePlace place le empty =>
          obtain ⟨next, more, effect, turn⟩ := steady.turn (.freePlace place)
            (fun _ _ same => nomatch same) fun _ _ enters => nomatch enters
          cases effect with
          | pass passage => cases passage
          | idle =>
              obtain ⟨last, leads, freed, same⟩ := ih steady free later
              exact ⟨last, .head (turn (others ++ rest)) leads, freed, same⟩
          | act placed act altered =>
              cases act with
              | flush waiting => exact absurd (empty _ _ placed) waiting
              | @vacate inner admission none =>
                  have again := (Effect.act placed (.vacate none) altered).steady steady
                  have freed := free.altered altered rfl placed
                  have stays : ∀ work ∈ others, Idle next index work :=
                    fun work member => (later work member).altered altered placed none
                  obtain ⟨last, leads, done, same⟩ := ih again freed stays
                  refine ⟨last, .head (turn (others ++ rest)) leads, done, fun other above => ?_⟩
                  rw [same other above, altered.layer?_of_ne (by omega)]

/-! ### Receivers that keep an answer to themselves -/

def Absorbs (index : Nat) (sinks : Receiver α → Prop) (kinds : Layer α → Prop) : Prop :=
  ∀ ⦃stack : Stack α⦄ ⦃layer : Layer α⦄ ⦃receiver : Receiver α⦄, stack.Steady →
    stack.layer? index = some layer → kinds layer → sinks receiver → ∀ lookup,
    ∃ next after, kinds after ∧ stack.Altered next index after ∧
      ∀ rest, Turn (stack, .answer receiver lookup :: rest) (next, rest)

def Keeping (numbers : List Nat) (sinks : Receiver α → Prop) : Layer α → Prop
  | .guarded _ state => ∀ number ∈ numbers, ∀ ticket, state.find? number = some ticket →
      ticket.inside = true ∧ sinks ticket.receiver
  | _ => False

def IsDelay : Layer α → Prop
  | .delayed _ _ => True
  | _ => False

theorem absorbs_ticket (index : Nat) (numbers : List Nat) (sinks : Receiver α → Prop) :
    Absorbs index (fun receiver => ∃ number ∈ numbers, receiver = .ticket index number)
      (Keeping numbers sinks) := by
  intro stack layer receiver steady placed keeping named lookup
  obtain ⟨number, listed, rfl⟩ := named
  obtain ⟨next, more, effect, turn⟩ := steady.turn (.answer (.ticket index number) lookup)
    (fun _ _ same => nomatch same) fun _ _ enters => nomatch enters
  cases effect with
  | pass passage => cases passage
  | idle => exact ⟨stack, layer, keeping, altered_self steady.moving placed, turn⟩
  | act there act altered =>
      cases act with
      | @keep inner guarded ticket _ _ known inside =>
          cases placed.symm.trans there
          refine ⟨next, .guarded inner (guarded.update { ticket with kept := some lookup }), ?_,
            altered, turn⟩
          intro other member found same
          rw [Guard.find?_update] at same
          split at same
          · cases same
            exact ⟨inside, (keeping number listed ticket known).2⟩
          · exact keeping other member found same
      | handBack _ _ known outside =>
          cases placed.symm.trans there
          rw [(keeping number listed _ known).1] at outside
          cases outside

theorem absorbs_capture (index number : Nat) :
    Absorbs index (fun receiver => receiver = .capture index number)
      (IsDelay : Layer α → Prop) := by
  intro stack layer receiver steady placed delays named lookup
  cases named
  obtain ⟨next, more, effect, turn⟩ := steady.turn (.answer (.capture index number) lookup)
    (fun _ _ same => nomatch same) fun _ _ enters => nomatch enters
  cases effect with
  | pass passage => cases passage
  | idle => exact ⟨stack, layer, delays, altered_self steady.moving placed, turn⟩
  | act there act altered =>
      cases act with
      | @capture inner delay =>
          exact ⟨next, .delayed inner (delay.capture number lookup), trivial, altered, turn⟩

structure Within (lower index : Nat) (kinds : Layer α → Prop) (stack next : Stack α) : Prop where
  free : next.FreeTo lower
  others : ∀ place, lower < place → place ≠ index → next.layer? place = stack.layer? place
  kept : ∃ layer, next.layer? index = some layer ∧ kinds layer

theorem Within.trans {kinds : Layer α → Prop} {last : Stack α}
    (first : Within lower index kinds stack next) (second : Within lower index kinds next last) :
    Within lower index kinds stack last where
  free := second.free
  others := fun place above apart =>
    (second.others place above apart).trans (first.others place above apart)
  kept := second.kept

/-- How a lookup fares on its way down: it waits somewhere, or it is answered at once. -/
inductive Fares (index : Nat) (key : String) (receiver : Receiver α) (stack : Stack α)
    (rest : List (Work α)) (next : Stack α) : Prop where
  | waits (leads : Leads (stack, .ask index key receiver :: rest) (next, rest))
  | answered (lookup : Lookup) (trailing : List (Work α))
      (leads : Leads (stack, .ask index key receiver :: rest)
        (next, .answer receiver lookup :: (trailing ++ rest)))
      (idle : ∀ work ∈ trailing, Idle next index work)

/-- A lookup whose answer is kept in a layer above comes to its end. -/
theorem Fares.absorbed {kinds : Layer α → Prop} {sinks : Receiver α → Prop} {key : String}
    {receiver : Receiver α} (fares : Fares lower key receiver stack rest next)
    (steady : stack.Steady) (free : next.FreeTo lower) (same : SameOver lower stack next)
    (absorbs : Absorbs index sinks kinds) (above : lower < index) (sinking : sinks receiver)
    (placed : stack.layer? index = some layer) (kind : kinds layer) :
    ∃ last, Leads (stack, .ask lower key receiver :: rest) (last, rest) ∧
      Within lower index kinds stack last := by
  have there : next.layer? index = some layer := (same index above).trans placed
  cases fares with
  | waits leads =>
      exact ⟨next, leads, free, fun place higher _ => same place higher, layer, there, kind⟩
  | answered lookup trailing leads idle =>
      obtain ⟨told, after, changed, altered, turn⟩ :=
        absorbs (leads.steady steady) there kind sinking lookup
      have under : ∀ place ≤ lower, told.layer? place = next.layer? place :=
        fun place le => altered.layer?_of_ne (by omega)
      have freed : told.FreeTo lower := by
        intro place le other known
        rw [under place le] at known
        exact free place le other known
      have still : ∀ work ∈ trailing, Idle told lower work :=
        fun work member => (idle work member).mono (Nat.le_refl _) under
      have steadily := Leads.steady (leads.tail (turn _)) steady
      obtain ⟨last, done, finished, kept⟩ := idle_leads steadily freed still rest
      refine ⟨last, (leads.tail (turn _)).trans done, finished, fun place higher apart => ?_, after, ?_,
        changed⟩
      · rw [kept place higher, altered.layer?_of_ne (Ne.symm apart), same place higher]
      · rw [kept index above]
        exact altered.layer?_self there

/-! ### Out of a guard again -/

def Holding (numbers : List Nat) (sinks : Receiver α → Prop) : Layer α → Prop
  | .guarded _ state => ∀ number ∈ numbers, ∀ ticket, state.find? number = some ticket →
      sinks ticket.receiver
  | _ => False

theorem Steady.unlock (steady : stack.Steady) {inner : Nat} {guarded : Guard (Receiver α)}
    (placed : stack.layer? index = some (.guarded inner guarded)) :
    ∃ next, stack.Altered next index (.guarded inner guarded.free) ∧
      ∀ rest, Turn (stack, .freeGuard index :: rest) (next, rest) := by
  have altered : stack.Altered (stack.setLayer index (.guarded inner guarded.free)) index
      (.guarded inner guarded.free) := steady.decorated.altered steady.moving placed rfl []
  have performed : stack.perform (.freeGuard index) =
      (stack.setLayer index (.guarded inner guarded.free), []) := by
    simp only [perform, steady.moving, Bool.false_eq_true, if_false, Stack.freeGuard, placed]
  exact ⟨_, altered, fun rest => .mk rest steady.moving performed (.act placed .freeGuard altered)⟩

theorem Steady.freeGuard (steady : stack.Steady) {numbers : List Nat} {sinks : Receiver α → Prop}
    (placed : stack.layer? index = some layer) (keeping : Keeping numbers sinks layer) :
    ∃ next after, after.isHeld = false ∧ Holding numbers sinks after ∧
      stack.Altered next index after ∧
      ∀ rest, Turn (stack, .freeGuard index :: rest) (next, rest) := by
  cases layer with
  | guarded inner state =>
      obtain ⟨next, altered, turn⟩ := steady.unlock placed
      exact ⟨next, .guarded inner state.free, rfl,
        fun number listed ticket known => (keeping number listed ticket known).2, altered, turn⟩
  | _ => exact keeping.elim

theorem Altered.sameOver (altered : stack.Altered next index after) : SameOver index stack next :=
  fun _ above => altered.layer?_of_ne (Nat.ne_of_lt above)

theorem SameOver.mono (same : SameOver lower stack next) (le : lower ≤ index) :
    SameOver index stack next :=
  fun place above => same place (Nat.lt_of_le_of_lt le above)

theorem SameOver.trans {last : Stack α} (first : SameOver index stack next)
    (second : SameOver index next last) : SameOver index stack last :=
  fun place above => (second place above).trans (first place above)

/-- A lookup that was inside is no longer: it is told what it was answered, if it was. -/
theorem Steady.handOut (steady : stack.Steady) (free : stack.FreeTo index) {number : Nat}
    {numbers : List Nat} {sinks : Receiver α → Prop} (placed : stack.layer? index = some layer)
    (holding : Holding (number :: numbers) sinks layer) :
    ∃ next after, stack.Altered next index after ∧ next.FreeTo index ∧ Holding numbers sinks after ∧
      ((∀ rest, Turn (stack, .handOut index (number :: numbers) :: rest)
          (next, .handOut index numbers :: rest)) ∨
        ∃ receiver lookup, sinks receiver ∧ ∀ rest,
          Turn (stack, .handOut index (number :: numbers) :: rest)
            (next, .answer receiver lookup :: .handOut index numbers :: rest)) := by
  cases layer with
  | guarded inner state =>
      obtain ⟨next, more, effect, turn⟩ := steady.turn (.handOut (number :: numbers) placed)
        (fun _ _ same => nomatch same) fun _ _ enters => nomatch enters
      have outside : state.held = false := free index (Nat.le_refl _) _ placed
      cases effect with
      | pass passage => cases passage
      | idle nothing ended => cases ended
      | act there act altered =>
          cases act with
          | skip _ _ unknown =>
              cases placed.symm.trans there
              exact ⟨next, _, altered, free.altered altered outside placed,
                fun other listed => holding other (List.mem_cons_of_mem _ listed), .inl turn⟩
          | @deliver _ _ ticket lookup _ _ known kept =>
              cases placed.symm.trans there
              refine ⟨next, .guarded inner (state.without number), altered,
                free.altered altered outside placed, fun other listed visitor found => ?_,
                .inr ⟨ticket.receiver, lookup, holding number List.mem_cons_self ticket known, turn⟩⟩
              rw [Guard.find?_without] at found
              split at found
              · cases found
              · exact holding other (List.mem_cons_of_mem _ listed) visitor found
          | @leave _ _ ticket _ _ known empty =>
              cases placed.symm.trans there
              refine ⟨next, .guarded inner (state.update { ticket with inside := false }), altered,
                free.altered altered outside placed, fun other listed visitor found => ?_, .inl turn⟩
              rw [Guard.find?_update] at found
              split at found
              · cases found
                exact holding number List.mem_cons_self ticket known
              · exact holding other (List.mem_cons_of_mem _ listed) visitor found
  | _ => exact holding.elim

/-! ### The way down -/

/-- What happens to a lookup behind a layer that lets it pass happens to it at the layer. -/
theorem Fares.through {key : String} {receiver : Receiver α} {last : Stack α}
    (turn : ∀ rest, Turn (stack, .ask index key receiver :: rest)
      (next, .ask lower key receiver :: rest))
    (fares : Fares lower key receiver next rest last) (le : lower ≤ index) :
    Fares index key receiver stack rest last := by
  cases fares with
  | waits leads => exact .waits (.head (turn rest) leads)
  | answered lookup trailing leads idle =>
      exact .answered lookup trailing (.head (turn rest) leads)
        fun work member => (idle work member).mono le fun _ _ => rfl

/-- The place that a lookup took is free again when it has its answer. -/
theorem Fares.placed {key : String} {receiver : Receiver α} {last : Stack α}
    (fares : Fares lower key (.place index receiver) next rest last)
    (turn : ∀ rest, Turn (stack, .ask index key receiver :: rest)
      (next, .ask lower key (.place index receiver) :: rest))
    (steady : next.Steady) (le : lower ≤ index)
    (empty : ∀ inner admission, last.layer? index = some (.admission inner admission) →
      admission.queue = []) : Fares index key receiver stack rest last := by
  cases fares with
  | waits leads => exact .waits (.head (turn rest) leads)
  | answered lookup trailing leads idle =>
      have moving := (Leads.steady leads steady).moving
      have passed : Turn (last, .answer (.place index receiver) lookup :: (trailing ++ rest))
          (last, .answer receiver lookup :: .freePlace index :: (trailing ++ rest)) := by
        refine .mk _ moving ?_ (.pass (.place index receiver lookup))
        rw [perform, moving]
        rfl
      refine .answered lookup (.freePlace index :: trailing)
        (.head (turn rest) (leads.tail passed)) (List.forall_mem_cons.mpr ⟨?_, ?_⟩)
      · exact .freePlace (Nat.le_refl _) empty
      · exact fun work later => (idle work later).mono le fun _ _ => rfl

/-- What is true up to a layer behind, and of the layer itself, is true up to the layer. -/
theorem FreeTo.step {last : Stack α} (free : stack.FreeTo index)
    (altered : stack.Altered next index after) (placed : stack.layer? index = some before)
    (between : index = lower + 1) (outside : after.isHeld = false) (freed : last.FreeTo lower)
    (same : SameOver lower next last) : last.FreeTo index ∧ SameOver index stack last := by
  refine ⟨fun place le layer there => ?_, altered.sameOver.trans (same.mono (by omega))⟩
  by_cases under : place ≤ lower
  · exact freed place under layer there
  · rw [same place (by omega)] at there
    exact free.altered altered outside placed place le layer there

/-- A lookup is done with at a layer, once the layer behind is done with it. -/
theorem Within.finish {kinds : Layer α → Prop} {last finished : Stack α} {final : Layer α}
    (within : Within lower index kinds next last) (entered : stack.Altered next index after)
    (altered : last.Altered finished index final) (outside : final.isHeld = false)
    (between : index = lower + 1) : finished.FreeTo index ∧ SameOver index stack finished := by
  obtain ⟨layer, there, -⟩ := within.kept
  refine ⟨fun place le other known => ?_, fun place above => ?_⟩
  · by_cases here : index = place
    · cases here
      cases (altered.layer?_self there).symm.trans known
      exact outside
    · rw [altered.layer?_of_ne here] at known
      exact within.free place (by omega) other known
  · rw [altered.layer?_of_ne (by omega), within.others place (by omega) (by omega),
      entered.layer?_of_ne (by omega)]

/-- A guard is free again, once the layer behind is done with what went through. -/
theorem Within.unlocked {numbers : List Nat} {sinks : Receiver α → Prop} {last : Stack α}
    (within : Within lower index (Keeping numbers sinks) next last) (steady : last.Steady)
    (entered : stack.Altered next index after) (between : index = lower + 1) :
    ∃ finished final, finished.FreeTo index ∧ SameOver index stack finished ∧
      finished.layer? index = some final ∧ Holding numbers sinks final ∧
      ∀ rest, Turn (last, .freeGuard index :: rest) (finished, rest) := by
  obtain ⟨layer, there, keeping⟩ := within.kept
  obtain ⟨finished, final, outside, holding, changed, freeing⟩ := steady.freeGuard there keeping
  obtain ⟨free, same⟩ := within.finish entered changed outside between
  exact ⟨finished, final, free, same, changed.layer?_self there, holding, freeing⟩

theorem Steady.hold (steady : stack.Steady) (placed : stack.layer? index = some layer)
    (delayed : IsDelay layer) (number : Nat) (key : String) (receiver : Receiver α) :
    ∃ next after, after.isHeld = false ∧ stack.Altered next index after ∧
      ∀ rest, Turn (stack, .hold index number key receiver :: rest) (next, rest) := by
  cases layer with
  | delayed inner state =>
      have altered : stack.Altered (stack.setLayer index
          (.delayed inner (state.hold number key receiver))) index
            (.delayed inner (state.hold number key receiver)) :=
        steady.decorated.altered steady.moving placed rfl []
      have performed : stack.perform (.hold index number key receiver) =
          (stack.setLayer index (.delayed inner (state.hold number key receiver)), []) := by
        simp only [perform, steady.moving, Bool.false_eq_true, if_false, Stack.hold, placed]
      exact ⟨_, _, rfl, altered, fun rest => .mk rest steady.moving performed
        (.act placed (.hold number key receiver) altered)⟩
  | _ => exact delayed.elim

theorem keeping_issue {inner : Nat} (guarded : Guard (Receiver α)) (receiver : Receiver α) :
    Keeping [guarded.fresh] (· = receiver)
      (.guarded inner (guarded.issue receiver).1 : Layer α) := by
  intro number listed ticket known
  rw [List.mem_singleton.mp listed, Guard.issue, Guard.find?, List.find?_cons] at known
  simp only [decide_true, Option.some.injEq] at known
  rw [← known]
  exact ⟨rfl, rfl⟩

theorem Steady.descend (steady : stack.Steady) (inside : index < stack.layers.length)
    (free : stack.FreeTo index) (key : String) (receiver : Receiver α) (rest : List (Work α)) :
    ∃ next, next.FreeTo index ∧ SameOver index stack next ∧
      Fares index key receiver stack rest next := by
  induction index using Nat.strongRecOn generalizing stack receiver rest with
  | ind index below =>
      obtain ⟨next, more, effect, turn⟩ := steady.turn (.ask key receiver inside)
        (fun _ _ same => nomatch same) fun place layer enters placed => by
          cases enters
          exact free index (Nat.le_refl _) layer placed
      have again := effect.steady steady
      obtain ⟨before, after, placed, act, altered⟩ := effect.act_of_entered rfl
      have outside := free index (Nat.le_refl _) before placed
      have deeper {inner : Nat} (onto : before.inner? = some inner) (other : Receiver α)
          (works : List (Work α)) : index = inner + 1 ∧ ∃ last, last.FreeTo inner ∧
            SameOver inner next last ∧ Fares inner key other next works last := by
        have between := steady.decorated.inner_eq placed onto
        have short : inner < next.layers.length := by
          rw [altered.layers, List.length_set]
          omega
        exact ⟨between, below inner (by omega) again short
          (free.below altered (by omega) (by omega)) other works⟩
      cases act with
      | read =>
          exact ⟨next, free.altered altered outside placed, altered.sameOver,
            .answered _ [] (.single (turn rest)) (by simp)⟩
      | refuse =>
          exact ⟨next, free.altered altered rfl placed, altered.sameOver,
            .answered _ [] (.single (turn rest)) (by simp)⟩
      | queue =>
          exact ⟨next, free.altered altered rfl placed, altered.sameOver, .waits (.single (turn rest))⟩
      | @issue inner admission _ _ opened vacant =>
          obtain ⟨between, last, freed, same, fares⟩ := deeper rfl (.place index receiver) rest
          obtain ⟨allFree, kept⟩ := free.step altered placed between rfl freed same
          refine ⟨last, allFree, kept, fares.placed turn again (by omega) fun _ state there => ?_⟩
          rw [same index (by omega), altered.layer?_self placed] at there
          cases there
          exact steady.regular index _ placed vacant
      | count | passOn =>
          obtain ⟨between, last, freed, same, fares⟩ := deeper rfl receiver rest
          obtain ⟨allFree, kept⟩ := free.step altered placed between rfl freed same
          exact ⟨last, allFree, kept, fares.through turn (by omega)⟩
      | @postpone inner delay _ _ delays =>
          obtain ⟨between, middle, freed, same, fares⟩ := deeper rfl
            (.capture index delay.fresh) (.hold index delay.fresh key receiver :: rest)
          obtain ⟨last, leads, within⟩ := fares.absorbed again freed same
            (absorbs_capture index delay.fresh) (by omega) rfl (altered.layer?_self placed) trivial
          obtain ⟨layer, there, delayed⟩ := within.kept
          have steadily := Leads.steady leads again
          obtain ⟨finished, final, outside, changed, held⟩ :=
            steadily.hold there delayed delay.fresh key receiver
          obtain ⟨allFree, kept⟩ := within.finish altered changed outside between
          exact ⟨finished, allFree, kept, .waits (.head (turn rest) (leads.tail (held rest)))⟩
      | @enter inner guarded _ _ vacant =>
          obtain ⟨between, middle, freed, same, fares⟩ := deeper rfl
            (.ticket index guarded.fresh) (.freeGuard index :: .handOut index [guarded.fresh] :: rest)
          obtain ⟨left, leads, within⟩ := fares.absorbed again freed same
            (absorbs_ticket index [guarded.fresh] (· = receiver)) (by omega)
            ⟨_, List.mem_singleton_self _, rfl⟩ (altered.layer?_self placed)
            (keeping_issue guarded.take receiver)
          obtain ⟨last, final, allFree, same, there, holding, freeing⟩ :=
            within.unlocked (Leads.steady leads again) altered between
          have arrived := Relation.ReflTransGen.head (turn rest) (leads.tail (freeing _))
          obtain ⟨finished, closing, once, done, -, ends⟩ :=
            (Leads.steady arrived steady).handOut allFree there holding
          have above : SameOver index stack finished := same.trans once.sameOver
          rcases ends with nothing | ⟨waiting, lookup, rfl, told⟩
          · have moving := (Leads.steady (arrived.tail (nothing rest)) steady).moving
            exact ⟨finished, done, above, .waits ((arrived.tail (nothing rest)).tail
              (handOut_nil_turn moving index rest))⟩
          · refine ⟨finished, done, above, .answered lookup [.handOut index []]
              (arrived.tail (told rest)) fun work member => ?_⟩
            rw [List.mem_singleton.mp member]
            exact .handOut (Nat.le_refl _)

/-! ### Batches -/

variable {place : Nat} {sinks : Receiver α → Prop} {kinds : Layer α → Prop}

/-- Answers that a guard kept back, once it is free, come to their end where they are kept again. -/
theorem handOut_absorbed {numbers : List Nat} (steady : stack.Steady) (free : stack.FreeTo index)
    (there : stack.layer? index = some layer) (holding : Holding numbers sinks layer)
    (absorbs : Absorbs place sinks kinds) (above : index < place) {upper : Layer α}
    (placed : stack.layer? place = some upper) (kind : kinds upper) (rest : List (Work α)) :
    ∃ last, Leads (stack, .handOut index numbers :: rest) (last, rest) ∧
      Within index place kinds stack last := by
  induction numbers generalizing stack layer upper with
  | nil =>
      exact ⟨stack, .single (handOut_nil_turn steady.moving index rest), free, fun _ _ _ => rfl,
        upper, placed, kind⟩
  | cons number numbers ih =>
      obtain ⟨next, after, altered, freed, held, ends⟩ := steady.handOut free there holding
      have still : next.layer? place = some upper :=
        (altered.layer?_of_ne (by omega)).trans placed
      have others : Within index place kinds stack next :=
        ⟨freed, fun other higher _ => altered.sameOver other higher, upper, still, kind⟩
      rcases ends with nothing | ⟨receiver, lookup, sinking, told⟩
      · have again := Leads.steady (.single (nothing rest)) steady
        obtain ⟨last, leads, within⟩ := ih again freed (altered.layer?_self there) held still kind
        exact ⟨last, .head (nothing rest) leads, others.trans within⟩
      · have again := Leads.steady (.single (told rest)) steady
        obtain ⟨passed, final, changed, kept, answered⟩ := absorbs again still kind sinking lookup
        have under : passed.layer? index = next.layer? index := kept.layer?_of_ne (by omega)
        have steadily := Leads.steady (.single (answered (.handOut index numbers :: rest))) again
        obtain ⟨last, leads, within⟩ := ih steadily
          (freed.below kept (Nat.le_refl _) above)
          (under.trans (altered.layer?_self there)) held (kept.layer?_self still) changed
        refine ⟨last, .head (told rest) (.head (answered _) leads), others.trans ?_⟩
        refine Within.trans ⟨freed.below kept (Nat.le_refl _) above, fun other higher apart => ?_, final,
          kept.layer?_self still, changed⟩ within
        exact kept.layer?_of_ne (Ne.symm apart)

theorem asks_absorbed {requests : List (Request (Receiver α))} (steady : stack.Steady)
    (inside : index < stack.layers.length) (free : stack.FreeTo index)
    (sinking : ∀ request ∈ requests, sinks request.receiver) (absorbs : Absorbs place sinks kinds)
    (above : index < place) {upper : Layer α} (placed : stack.layer? place = some upper)
    (kind : kinds upper) (rest : List (Work α)) :
    ∃ last, Leads (stack, askEach index requests ++ rest) (last, rest) ∧
      Within index place kinds stack last := by
  induction requests generalizing stack upper with
  | nil => exact ⟨stack, .refl, free, fun _ _ _ => rfl, upper, placed, kind⟩
  | cons request others ih =>
      obtain ⟨next, freed, same, fares⟩ := steady.descend inside free request.key request.receiver
        (askEach index others ++ rest)
      obtain ⟨middle, leads, within⟩ := fares.absorbed steady freed same absorbs above
        (sinking request List.mem_cons_self) placed kind
      obtain ⟨kept, there, changed⟩ := within.kept
      have short : index < middle.layers.length := by
        have known : place < middle.layers.length := (List.getElem?_eq_some_iff.mp there).1
        omega
      obtain ⟨last, done, finished⟩ := ih (Leads.steady leads steady) short within.free
        (fun other member => sinking other (List.mem_cons_of_mem _ member)) there changed
      exact ⟨last, leads.trans done, within.trans finished⟩

/-- The lookups of a batch that went through a guard are all inside. -/
theorem keeping_issueAll {inner : Nat} {guarded : Guard (Receiver α)}
    (regular : (Layer.guarded inner guarded).Regular) (index : Nat)
    {requests : List (Request (Receiver α))} (sinking : ∀ request ∈ requests, sinks request.receiver) :
    Keeping (issueAll index guarded requests).2.2 sinks
      (.guarded inner (issueAll index guarded requests).1) := by
  intro number listed ticket known
  have member := List.mem_of_find?_eq_some known
  rcases Guard.mem_issueAll member with old | ⟨-, inside, request, asked, same⟩
  · -- A ticket from before has a number of its own.
    rw [Guard.tickets_issueAll, List.mem_range'_1] at listed
    have used := (regular.2 ticket old).1
    rw [Guard.number_eq known] at used
    omega
  · exact ⟨inside, same ▸ sinking request asked⟩

/-- A batch whose answers are kept in a layer above comes to its end. -/
theorem Steady.descendMany {requests : List (Request (Receiver α))} (steady : stack.Steady)
    (inside : index < stack.layers.length) (free : stack.FreeTo index)
    (sinking : ∀ request ∈ requests, sinks request.receiver) (absorbs : Absorbs place sinks kinds)
    (above : index < place) {upper : Layer α} (placed : stack.layer? place = some upper)
    (kind : kinds upper) (rest : List (Work α)) :
    ∃ last, Leads (stack, .askMany index requests :: rest) (last, rest) ∧
      Within index place kinds stack last := by
  induction index using Nat.strongRecOn generalizing stack requests place sinks kinds upper rest with
  | ind index below =>
      obtain ⟨next, more, effect, turn⟩ := steady.turn (.askMany requests inside)
        (fun _ _ same => nomatch same) fun other layer enters there => by
          cases enters
          exact free index (Nat.le_refl _) layer there
      have again := effect.steady steady
      obtain ⟨before, after, there, act, altered⟩ := effect.act_of_entered rfl
      have still : next.layer? place = some upper :=
        (altered.layer?_of_ne (by omega)).trans placed
      have short : index < next.layers.length := by rwa [altered.layers, List.length_set]
      cases act with
      | spread _ unguarded =>
          have outside : (before.noteBatch requests.length).isHeld = false :=
            (before.isHeld_noteBatch _).trans (free index (Nat.le_refl _) before there)
          have freed := free.altered altered outside there
          obtain ⟨last, leads, within⟩ :=
            asks_absorbed again short freed sinking absorbs above still kind rest
          exact ⟨last, .head (turn rest) leads, Within.trans ⟨freed,
            fun other higher _ => altered.sameOver other higher, upper, still, kind⟩ within⟩
      | @enterAll inner guarded _ vacant =>
          have between := steady.decorated.inner_eq there rfl
          have regular := steady.regular index _ there
          have keeping := @keeping_issueAll _ _ inner guarded.take regular index requests sinking
          obtain ⟨left, leads, within⟩ := below inner (by omega) again (by omega)
            (free.below altered (by omega) (by omega)) Guard.named_issueAll
            (absorbs_ticket index (issueAll index guarded.take requests).2.2 sinks) (by omega)
            (altered.layer?_self there) keeping
            (.freeGuard index :: .handOut index (issueAll index guarded.take requests).2.2 :: rest)
          obtain ⟨last, final, allFree, same, kept, holding, freeing⟩ :=
            within.unlocked (Leads.steady leads again) altered between
          have arrived := Relation.ReflTransGen.head (turn rest) (leads.tail (freeing _))
          have upright := (same place above).trans placed
          obtain ⟨finished, done, settled⟩ := handOut_absorbed (Leads.steady arrived steady) allFree
            kept holding absorbs above upright kind rest
          exact ⟨finished, arrived.trans done, Within.trans ⟨allFree, fun other higher _ =>
            same other higher, upper, upright, kind⟩ settled⟩

/-! ### Calls from outside -/

def Free (stack : Stack α) : Prop :=
  ∀ place layer, stack.layer? place = some layer → layer.isHeld = false

theorem Free.altered (free : stack.Free) (altered : stack.Altered next index after)
    (outside : after.isHeld = false) (placed : stack.layer? index = some before) : next.Free :=
  altered.each (fun _ layer => layer.isHeld = false) placed outside
    fun other layer _ there => free other layer there

theorem FreeTo.free (freed : next.FreeTo index) (free : stack.Free)
    (same : SameOver index stack next) : next.Free := by
  intro place layer there
  by_cases le : place ≤ index
  · exact freed place le layer there
  · rw [same place (by omega)] at there
    exact free place layer there

private theorem transGen_of_ne {first last : Stack α × List (Work α)} (leads : Leads first last)
    (moved : first.2 ≠ last.2) : Relation.TransGen Turn first last := by
  rcases Relation.reflTransGen_iff_eq_or_transGen.mp leads with same | leads
  · exact absurd (congrArg Prod.snd same.symm) moved
  · exact leads

/-- What becomes of work that comes from outside: when all guards are free again, what is left of it
comes from outside as well. -/
structure Settling (stack : Stack α) (work : Work α) (rest : List (Work α)) (next : Stack α)
    (more : List (Work α)) : Prop where
  leads : Relation.TransGen Turn (stack, work :: rest) (next, more ++ rest)
  free : next.Free
  calm : ∀ follower ∈ more, follower.isCalm = true

private theorem ask_settling (steady : stack.Steady) (free : stack.Free)
    (inside : index < stack.layers.length) (key : String) (receiver : Receiver α)
    (rest : List (Work α)) :
    ∃ next more, Settling stack (.ask index key receiver) rest next more := by
  obtain ⟨next, freed, same, fares⟩ := steady.descend inside (fun place _ => free place) key receiver rest
  cases fares with
  | waits leads =>
      refine ⟨next, [], transGen_of_ne leads fun equal => ?_, freed.free free same, by simp⟩
      exact absurd (congrArg List.length equal) (by simp)
  | answered lookup trailing leads idle =>
      refine ⟨next, .answer receiver lookup :: trailing,
        transGen_of_ne leads fun equal => (nomatch (List.cons.inj equal).1), freed.free free same,
        fun follower member => ?_⟩
      rcases List.mem_cons.mp member with rfl | later
      · rfl
      · cases idle follower later <;> rfl

private theorem askMany_settling (steady : stack.Steady) (free : stack.Free)
    (inside : index < stack.layers.length) (requests : List (Request (Receiver α)))
    (rest : List (Work α)) :
    ∃ next more, Settling stack (.askMany index requests) rest next more := by
  obtain ⟨next, more, effect, turn⟩ := steady.turn (.askMany requests inside)
    (fun _ _ same => nomatch same) fun place layer _ placed => free place layer placed
  have again := effect.steady steady
  obtain ⟨before, after, placed, act, altered⟩ := effect.act_of_entered rfl
  cases act with
  | spread _ unguarded =>
      have outside : (before.noteBatch requests.length).isHeld = false :=
        (before.isHeld_noteBatch _).trans (free index before placed)
      refine ⟨next, _, .single (turn rest), free.altered altered outside placed,
        fun follower member => ?_⟩
      obtain ⟨request, -, rfl⟩ := List.mem_map.mp member
      rfl
  | @enterAll inner guarded _ vacant =>
      have between := steady.decorated.inner_eq placed rfl
      have regular := steady.regular index _ placed
      have keeping := @keeping_issueAll _ (fun _ => True) inner guarded.take regular index requests
        fun _ _ => trivial
      have below : next.FreeTo inner :=
        FreeTo.below (fun place _ => free place : stack.FreeTo inner) altered (Nat.le_refl _) (by omega)
      have short : inner < next.layers.length := by
        rw [altered.layers, List.length_set]
        omega
      obtain ⟨left, leads, within⟩ := again.descendMany short below
        Guard.named_issueAll
        (absorbs_ticket index (issueAll index guarded.take requests).2.2 fun _ => True) (by omega)
        (altered.layer?_self placed) keeping
        (.freeGuard index :: .handOut index (issueAll index guarded.take requests).2.2 :: rest)
      obtain ⟨last, final, allFree, same, -, -, freeing⟩ :=
        within.unlocked (Leads.steady leads again) altered between
      refine ⟨last, [.handOut index (issueAll index guarded.take requests).2.2],
        .head' (turn rest) (leads.tail (freeing _)), allFree.free free same, ?_⟩
      simp [Work.isCalm]

/-- Work from outside is never stuck at a guard. -/
theorem Steady.settling (steady : stack.Steady) (free : stack.Free) (expected : Expected stack work)
    (quiet : ∀ callback lookup, work ≠ .inform callback lookup) (calm : work.isCalm = true)
    (rest : List (Work α)) : ∃ next more, Settling stack work rest next more := by
  obtain ⟨next, more, effect, turn⟩ := steady.turn expected quiet
    fun place layer _ placed => free place layer placed
  cases effect with
  | pass passage =>
      refine ⟨stack, more, .single (turn rest), free, ?_⟩
      cases passage <;> simp [Work.isCalm]
  | idle => exact ⟨stack, [], .single (turn rest), free, by simp⟩
  | act placed act altered =>
      have held := free _ _ placed
      cases act with
      | read | refuse | issue | queue | enter | count | postpone | passOn =>
          cases expected with
          | ask _ _ inside => exact ask_settling steady free inside _ _ rest
      | spread | enterAll =>
          cases expected with
          | askMany _ inside => exact askMany_settling steady free inside _ rest
      | freeGuard | closeBottom | closeAdmission | closeGuard | closeCounted | closeDelay =>
          cases calm
      | member number batches last =>
          refine ⟨next, _, .single (turn rest), free.altered altered rfl placed, ?_⟩
          cases last <;> simp [Work.isCalm]
      | keep | handBack | skip | deliver | leave =>
          exact ⟨next, _, .single (turn rest), free.altered altered held placed,
            by simp [Work.isCalm]⟩
      | capture | hold | vacate | flush =>
          exact ⟨next, _, .single (turn rest), free.altered altered rfl placed,
            by simp [Work.isCalm]⟩
      | release =>
          refine ⟨next, _, .single (turn rest), free.altered altered rfl placed, ?_⟩
          simp [Work.isCalm]

end Stack

end TieredCache
