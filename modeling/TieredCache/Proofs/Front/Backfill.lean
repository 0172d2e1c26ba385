import TieredCache.Proofs.Front.Pace

/-!
Late answers of the second tier are written back into the first one, also those that were read
before their key was deleted. Main statement: `find_after_delete`, which tells exactly when a lookup
after a deletion still yields something.
-/

namespace TieredCache.Depot

open ResponseCache (verdict Offers)

variable {depot : Depot} {index first second : Nat} {tiers : TwoTier} {key : String}

def Yields (outcome : Outcome) : Prop := outcome.isFound = true ∨ outcome.stale?.isSome = true

/-- A turn that writes a late answer for the key back into the first tier. -/
def Revives (index : Nat) (key : String) (depot : Depot) (turn : Turn) : Prop :=
  ∃ position hooks earlier number lookup tiers first second stored,
    turn = .deliver position ∧
      depot.waiting[position]? = some (held index key hooks earlier number lookup) ∧
      depot.session.front? index = some (.tiered tiers first second) ∧
      verdict tiers.second.policy depot.session.now key hooks.checks lookup.value? = .found stored ∧
      tiers.fits key stored = true

/-- Whether some turn brings the key back and no later one deletes it. -/
def Revived (index : Nat) (key : String) : Depot → List Turn → Prop
  | _, [] => False
  | depot, turn :: rest =>
      Revived index key (depot.turn index turn) rest ∨
        Revives index key depot turn ∧ .operate (.delete key) ∉ rest

theorem revives_iff (front : depot.session.bare.front? index = some (.tiered tiers first second))
    {position : Nat} {hooks : Hooks} {earlier : Outcome} {number : Nat} {lookup : Lookup}
    {name : String}
    (present : depot.waiting[position]? = some (held index name hooks earlier number lookup)) :
    Revives index key depot (.deliver position) ↔ name = key ∧
      ∃ content, tiers.backfill name (verdict tiers.second.policy depot.session.now name hooks.checks
        lookup.value?) = some content := by
  obtain ⟨counted, actual, rfl⟩ := Session.front?_of_bare_tiered front
  constructor
  · rintro ⟨_, _, _, _, _, _, _, _, stored, ⟨⟩, kept, placed, found, fits⟩
    rw [present] at kept
    rw [actual] at placed
    cases kept
    cases placed
    exact ⟨rfl, stored.encoded, TwoTier.backfill_eq_some.mpr ⟨stored, found, fits, rfl⟩⟩
  · rintro ⟨rfl, content, written⟩
    obtain ⟨stored, found, fits, _⟩ := TwoTier.backfill_eq_some.mp written
    exact ⟨position, hooks, earlier, number, lookup, counted, first, second, stored, rfl, present,
      actual, found, fits⟩

/-! ### The shelves of a deleted key -/

/-- What both tiers hold of a key that was deleted and not written since. -/
structure Deleted (key : String) (first second : Nat) (shelves : Nat → String → Option Bytes) :
    Prop where
  far : shelves second key = none
  near : shelves first key = none ∨ Offers (shelves first key)

theorem Deleted.turn (deleted : Deleted key first second depot.shelves)
    (paced : Paced index first second depot) (apart : first ≠ second) {turn : Turn}
    (unwritten : turn.writes key = false) :
    Deleted key first second (depot.turn index turn).shelves ∧
      ((depot.turn index turn).shelves first key ≠ none ↔
        Revives index key depot turn ∨
          depot.shelves first key ≠ none ∧ turn ≠ .operate (.delete key)) := by
  obtain ⟨tiers, front⟩ := paced.front
  have effect := (turn_effect paced front turn).1
  change Deleted key first second (depot.turn index turn).view.shelves ∧
    ((depot.turn index turn).view.shelves first key ≠ none ↔ _)
  have idle : ∀ operation, ¬Revives index key depot (.operate operation) := by
    rintro operation ⟨_, _, _, _, _, _, _, _, _, ⟨⟩, _⟩
  have unchanged : ∀ {turn : Turn} {shelves : Nat → String → Option Bytes},
      (∀ layer, shelves layer key = depot.shelves layer key) → ¬Revives index key depot turn →
        turn ≠ .operate (.delete key) →
      Deleted key first second shelves ∧
        (shelves first key ≠ none ↔ Revives index key depot turn ∨
          depot.shelves first key ≠ none ∧ turn ≠ .operate (.delete key)) := by
    intro turn shelves same still other
    rw [same]
    exact ⟨⟨(same second).trans deleted.far, same first ▸ deleted.near⟩, fun some => .inr ⟨some, other⟩,
      fun either => (either.resolve_left still).1⟩
  generalize (depot.turn index turn).view = view at effect ⊢
  cases effect with
  | rest keeps asksNothing =>
      exact unchanged (fun _ => rfl) (idle _) fun same => keeps key (Turn.operate.inj same)
  | @write operation name shelves writes others =>
      have different : key ≠ name := by
        rintro rfl
        exact absurd (writes.symm.trans unwritten) Bool.noConfusion
      refine unchanged (fun layer => others layer key different) (idle _) ?_
      rintro ⟨⟩
      cases writes
  | remove name =>
      by_cases same : key = name
      · subst same
        have emptied : Deleted key first second fun layer name =>
            if name = key ∧ (layer = first ∨ layer = second) then none
            else depot.shelves layer name := ⟨by simp, by simp⟩
        exact ⟨emptied, by simp [idle]⟩
      · refine unchanged (fun layer => if_neg fun both => same both.1) (idle _) ?_
        rintro ⟨⟩
        exact same rfl
  | serve name hooks judged found => exact unchanged (fun _ => rfl) (idle _) (by rintro ⟨⟩)
  | ask name hooks judged missed => exact unchanged (fun _ => rfl) (idle _) (by rintro ⟨⟩)
  | skip absent =>
      refine unchanged (fun _ => rfl) ?_ (by rintro ⟨⟩)
      rintro ⟨_, _, _, _, _, _, _, _, _, ⟨⟩, present, _⟩
      rw [absent] at present
      cases present
  | @arrive position name hooks earlier outcome number lookup present judged =>
      subst judged
      have revives := @revives_iff depot index first second tiers key front _ _ _ _ _ _ present
      cases written : tiers.backfill name (verdict tiers.second.policy depot.session.now name
          hooks.checks lookup.value?) with
      | none =>
          refine unchanged (fun layer => ?_) ?_ (by rintro ⟨⟩)
          · simp only [Option.none_or, ite_self]
          · rw [revives, written]
            rintro ⟨_, content, ⟨⟩⟩
      | some content =>
          by_cases same : key = name
          · subst same
            have revived : Revives index key depot (.deliver position) :=
              revives.mpr ⟨rfl, content, written⟩
            obtain ⟨stored, found, _, encoded⟩ := TwoTier.backfill_eq_some.mp written
            obtain ⟨_, decodes, response⟩ := ResponseCache.encoded_of_found found
            refine ⟨⟨?_, ?_⟩, ?_⟩
            · simp only [apart.symm, false_and, if_false, deleted.far]
            · simp only [and_true, if_true, Option.some_or]
              exact .inr ⟨content, stored, rfl, encoded ▸ decodes, response⟩
            · simp only [and_true, if_true, Option.some_or]
              exact ⟨fun _ => .inl revived, fun _ => Option.some_ne_none _⟩
          · refine unchanged (fun layer => if_neg fun both => same both.2) ?_ (by rintro ⟨⟩)
            rw [revives]
            exact fun both => same both.1.symm

theorem Deleted.turns (deleted : Deleted key first second depot.shelves)
    (paced : Paced index first second depot) (apart : first ≠ second) {turns : List Turn}
    (unwritten : ∀ turn ∈ turns, turn.writes key = false) :
    Deleted key first second (depot.turns index turns).shelves ∧
      ((depot.turns index turns).shelves first key ≠ none ↔
        Revived index key depot turns ∨
          depot.shelves first key ≠ none ∧ .operate (.delete key) ∉ turns) := by
  induction turns generalizing depot with
  | nil =>
      refine ⟨deleted, ?_⟩
      simp only [Revived, false_or, List.not_mem_nil, not_false_eq_true, and_true]
      rfl
  | cons turn rest ih =>
      obtain ⟨after, near⟩ := deleted.turn paced apart (unwritten turn List.mem_cons_self)
      obtain ⟨last, held⟩ := ih after (paced.turn turn)
        fun other member => unwritten other (List.mem_cons_of_mem _ member)
      refine ⟨last, ?_⟩
      change (((depot.turn index turn).turns index rest).shelves first key ≠ none) ↔ _
      rw [held, near, Revived, List.mem_cons, not_or]
      have revivesOnce : Revives index key depot turn → turn ≠ .operate (.delete key) := by
        rintro ⟨_, _, _, _, _, _, _, _, _, rfl, _⟩ ⟨⟩
      grind

/-! ### The outcome of one lookup -/

structure Awaits (index number : Nat) (outcome : Outcome) (view : View) : Prop where
  given : number < view.fresh
  settled : ∀ told, (number, told) ∈ view.outcomes → told = outcome
  waiting : ∀ key hooks earlier lookup,
    held index key hooks earlier number lookup ∈ view.waiting →
      lookup.value? = none ∧ TwoTier.join earlier .notFound = outcome

theorem Awaits.turn {number : Nat} {outcome : Outcome}
    (awaits : Awaits index number outcome depot.view) (paced : Paced index first second depot)
    (turn : Turn) : Awaits index number outcome (depot.turn index turn).view := by
  obtain ⟨tiers, front⟩ := paced.front
  have effect := (turn_effect paced front turn).1
  generalize (depot.turn index turn).view = view at effect ⊢
  cases effect with
  | rest keeps asksNothing => exact awaits
  | write writes others => exact ⟨awaits.given, awaits.settled, awaits.waiting⟩
  | remove name => exact ⟨awaits.given, awaits.settled, awaits.waiting⟩
  | serve name hooks judged found =>
      refine ⟨Nat.lt_succ_of_lt awaits.given, ?_, awaits.waiting⟩
      intro told member
      rcases List.mem_cons.mp member with same | old
      · cases same
        exact absurd awaits.given (Nat.lt_irrefl _)
      · exact awaits.settled told old
  | ask name hooks judged missed =>
      refine ⟨Nat.lt_succ_of_lt awaits.given, awaits.settled, ?_⟩
      intro key hooks earlier lookup member
      rcases List.mem_append.mp member with old | new
      · exact awaits.waiting key hooks earlier lookup old
      · cases List.mem_singleton.mp new
        exact absurd awaits.given (Nat.lt_irrefl _)
  | skip absent => exact awaits
  | @arrive position name hooks earlier outcome' other lookup present judged =>
      refine ⟨awaits.given, ?_, ?_⟩
      · intro told member
        rcases List.mem_cons.mp member with same | old
        · -- Another outcome of this number would be one that the second tier still had to give.
          cases same
          obtain ⟨empty, joined⟩ := awaits.waiting _ _ _ _ (List.mem_of_getElem? present)
          rw [empty] at judged
          rw [← judged]
          exact joined
        · exact awaits.settled told old
      · intro key hooks earlier lookup member
        exact awaits.waiting key hooks earlier lookup (List.mem_of_mem_eraseIdx member)

theorem Awaits.turns {number : Nat} {outcome : Outcome}
    (awaits : Awaits index number outcome depot.view) (paced : Paced index first second depot)
    (turns : List Turn) : Awaits index number outcome (depot.turns index turns).view := by
  induction turns generalizing depot with
  | nil => exact awaits
  | cons turn rest ih => exact ih (awaits.turn paced turn) (paced.turn turn)

theorem mem_of_lookup {entries : List (Nat × Outcome)} {number : Nat} {outcome : Outcome}
    (known : entries.lookup number = some outcome) : (number, outcome) ∈ entries := by
  induction entries with
  | nil => cases known
  | cons entry rest ih =>
      obtain ⟨other, told⟩ := entry
      by_cases same : number = other
      · subst same
        rw [List.lookup_cons_self] at known
        cases known
        exact List.mem_cons_self
      · rw [List.lookup_cons, beq_false_of_ne same] at known
        exact List.mem_cons_of_mem _ (ih known)

/-- What the first tier had to offer is what a lookup yields that the second tier cannot serve. -/
theorem yields_join (earlier : Outcome) (missed : earlier.isFound = false) :
    Yields (TwoTier.join earlier .notFound) ↔ Yields earlier := by
  cases earlier with
  | found response => cases missed
  | missed failure stale => cases stale <;> simp [Yields, TwoTier.join, Outcome.notFound,
      Outcome.combine, Outcome.freshest, Outcome.isFound, Outcome.stale?]

/-- What the first tier holds of a deleted key is what a lookup can offer of it. -/
theorem Deleted.offers (deleted : Deleted key first second depot.shelves) :
    Offers (depot.shelves first key) ↔ depot.shelves first key ≠ none := by
  constructor
  · rintro ⟨content, _, same, _⟩ none
    rw [same] at none
    cases none
  · exact deleted.near.resolve_left

/-- A lookup of a deleted key yields something exactly if the first tier has the key again. -/
theorem Deleted.find (deleted : Deleted key first second depot.shelves)
    (paced : Paced index first second depot) (hooks : Hooks) :
    ∃ outcome, Awaits index depot.session.freshPromise outcome
        (depot.turn index (.operate (.find key hooks))).view ∧
      (Yields outcome ↔ depot.shelves first key ≠ none) ∧
      ∃ position, ((depot.turn index (.operate (.find key hooks))).turn index
        (.deliver position)).session.outcomes.lookup depot.session.freshPromise = some outcome := by
  obtain ⟨tiers, front⟩ := paced.front
  have effect := (turn_effect paced front (.operate (.find key hooks))).1
  obtain ⟨later, frontAfter⟩ := (paced.turn (.operate (.find key hooks))).front
  obtain ⟨unsettled, unheld⟩ := paced.fresh
  have yields : ∀ {outcome}, ResponseCache.verdict tiers.first.policy depot.session.now key
      hooks.checks (depot.shelves first key) = outcome →
        (Yields outcome ↔ depot.shelves first key ≠ none) := by
    rintro _ rfl
    exact (ResponseCache.offers_iff _ _ _ _ _).symm.trans deleted.offers
  generalize asked : depot.turn index (.operate (.find key hooks)) = after at *
  generalize viewed : after.view = view at effect ⊢
  have waiting : after.waiting = view.waiting := congrArg View.waiting viewed
  cases effect with
  | rest keeps asksNothing => exact absurd rfl (asksNothing key hooks)
  | write writes others => cases writes
  | @serve _ _ outcome judged found =>
      refine ⟨outcome, ⟨Nat.lt_succ_self _, ?_, ?_⟩, yields judged, depot.waiting.length, ?_⟩
      · intro told member
        rcases List.mem_cons.mp member with same | old
        · cases same
          rfl
        · exact absurd old (unsettled told)
      · intro key hooks earlier lookup member
        exact absurd member (unheld key hooks earlier lookup)
      · have outcomes := congrArg View.outcomes viewed
        have absent : after.waiting[depot.waiting.length]? = none := by
          rw [waiting]
          exact List.getElem?_eq_none (Nat.le_refl _)
        change (after.deliver _).session.outcomes.lookup _ = _
        rw [deliver_absent absent]
        exact (congrArg (List.lookup depot.session.freshPromise) outcomes).trans
          List.lookup_cons_self
  | @ask _ _ earlier judged missed =>
      have joined := (yields_join earlier missed).trans (yields judged)
      rw [deleted.far] at waiting ⊢
      refine ⟨TwoTier.join earlier .notFound, ⟨Nat.lt_succ_self _, ?_, ?_⟩, joined,
        depot.waiting.length, ?_⟩
      · intro told member
        exact absurd member (unsettled told)
      · intro key hooks earlier lookup member
        rcases List.mem_append.mp member with old | new
        · exact absurd old (unheld key hooks earlier lookup)
        · cases List.mem_singleton.mp new
          exact ⟨rfl, rfl⟩
      · have last : after.waiting[depot.waiting.length]? =
            some (held index key hooks earlier depot.session.freshPromise (.ofOption none)) := by
          rw [waiting]
          exact List.getElem?_concat_length
        exact lookup_deliver frontAfter last

theorem Deleted.of_delete (paced : Paced index first second depot) (key : String) :
    Deleted key first second (depot.turn index (.operate (.delete key))).shelves ∧
      (depot.turn index (.operate (.delete key))).shelves first key = none := by
  obtain ⟨tiers, front⟩ := paced.front
  have effect := (turn_effect paced front (.operate (.delete key))).1
  suffices emptied : (depot.turn index (.operate (.delete key))).view.shelves second key = none ∧
      (depot.turn index (.operate (.delete key))).view.shelves first key = none from
    ⟨⟨emptied.1, .inl emptied.2⟩, emptied.2⟩
  generalize (depot.turn index (.operate (.delete key))).view = view at effect ⊢
  cases effect with
  | rest keeps asksNothing => exact absurd rfl (keeps key)
  | write writes others => cases writes
  | remove _ => simp

/-- A lookup of a key that was deleted and not written since is always answered once the second tier
delivers. It yields something exactly if, between the deletion and the lookup, an answer was written
back into the first tier that had been read before, and the key was not deleted again. -/
theorem find_after_delete (policy : Policy) (limit : Option Nat) (now : Millis)
    (shelves : Nat → String → Option Bytes) (before between after : List Turn) (key : String)
    (hooks : Hooks) (unwritten : ∀ turn ∈ between, turn.writes key = false) :
    let deleted := ((openedLate policy limit now shelves).turns 0 before).turn 0
      (.operate (.delete key))
    let asked := (deleted.turns 0 between).turn 0 (.operate (.find key hooks))
    let number := (deleted.turns 0 between).session.freshPromise
    (∃ position, ((asked.turn 0 (.deliver position)).session.outcomes.lookup number).isSome) ∧
      ∀ outcome, (asked.turns 0 after).session.outcomes.lookup number = some outcome →
        (Yields outcome ↔ Revived 0 key deleted between) := by
  intro deleted asked number
  have start := (paced_openedLate policy limit now shelves).turns before
  obtain ⟨gone, empty⟩ := Deleted.of_delete start key
  have paced : Paced 0 0 1 deleted := start.turn _
  obtain ⟨still, near⟩ := gone.turns paced Nat.zero_ne_one unwritten
  have pacedLater := paced.turns between
  obtain ⟨expected, awaits, yields, position, answered⟩ := still.find pacedLater hooks
  refine ⟨⟨position, Option.isSome_of_eq_some answered⟩, fun outcome known => ?_⟩
  -- The number stands for one outcome, in whatever order later answers come.
  have told := (awaits.turns (pacedLater.turn _) after).settled outcome (mem_of_lookup known)
  rw [told, yields, near]
  exact or_iff_left fun left => left.1 empty

/-- Nothing is had of a key that was put and deleted when no answer came in between. -/
theorem find_after_first_delete :
    let deleted := ((openedLate {} none 0 fun _ _ => none).turns 0
      [.operate (.put "k" sampleHead [118])]).turn 0 (.operate (.delete "k"))
    let between := [Turn.operate (.find "k" {})]
    let asked := (deleted.turns 0 between).turn 0 (.operate (.find "k" {}))
    (∀ turn ∈ between, turn.writes "k" = false) ∧
      ∃ position outcome, (asked.turn 0 (.deliver position)).session.outcomes.lookup
          (deleted.turns 0 between).session.freshPromise = some outcome ∧ ¬Yields outcome := by
  intro deleted between asked
  have unwritten : ∀ turn ∈ between, turn.writes "k" = false := by
    intro turn member
    cases List.mem_singleton.mp member
    rfl
  have still : ¬Revived 0 "k" deleted between := by
    rintro (never | ⟨⟨_, _, _, _, _, _, _, _, _, ⟨⟩, _⟩, _⟩)
    exact never
  have lookups := fun after => find_after_delete {} none 0 (fun _ _ => none)
    [.operate (.put "k" sampleHead [118])] between after "k" {} unwritten
  obtain ⟨position, answered⟩ := (lookups []).1
  obtain ⟨outcome, known⟩ := Option.isSome_iff_exists.mp answered
  refine ⟨unwritten, position, outcome, known, fun yields => still ?_⟩
  exact ((lookups [.deliver position]).2 outcome known).mp yields

/-- An answer that waited during the deletion brings the response back. -/
theorem find_after_delete_of_waiting :
    let deleted := ((openedLate {} (some 0) (.ofSeconds 1700000000) fun _ _ => none).turns 0
      [.operate (.put "k" sampleHead [118]), .operate (.change [.firstTierLimit none]),
        .operate (.find "k" {})]).turn 0 (.operate (.delete "k"))
    (Turn.deliver 0).writes "k" = false ∧
      (((deleted.turn 0 (.deliver 0)).operate 0 (.find "k" {})).2.outcome?.bind
        (·.response?)).map (·.body) = some [118] := by
  decide +kernel

end TieredCache.Depot
