import TieredCache.Proofs.Front.Verdict
import TieredCache.Session.FrontSteps
import TieredCache.Session.Run

/-!
Sessions without what they only report: counts, signals and events. Main statements: how a lookup
goes on depends on nothing else, and changes nothing else but the outcome that it settles.
-/

namespace TieredCache

def Front.bare : Front → Front
  | .single cache layer => .single cache.bare layer
  | .tiered tiers first second => .tiered tiers.bare first second

namespace Session

variable {session : Session} {index : Nat}

def bare (session : Session) : Session :=
  { session with
    stack := { session.stack with signals := [] }
    fronts := session.fronts.map Front.bare
    events := [] }

@[simp] theorem bare_signal (session : Session) (signals : List Signal) :
    (session.signal signals).bare = session.bare := rfl

@[simp] theorem bare_note (session : Session) (event : Event) :
    (session.note event).bare = session.bare := rfl

@[simp] theorem now_bare (session : Session) : session.bare.now = session.now := rfl

theorem bare_settleOutcome (session : Session) (number : Nat) (outcome : Outcome) :
    (session.settleOutcome number outcome).bare = session.bare.settleOutcome number outcome := rfl

theorem front?_bare (session : Session) (index : Nat) :
    session.bare.front? index = (session.front? index).map Front.bare :=
  List.getElem?_map

theorem bare_noteConsultations (session : Session) (hooks : Hooks)
    (consulted : List Consultation) :
    (session.noteConsultations hooks consulted).bare = session.bare := by
  unfold noteConsultations
  split
  · induction consulted generalizing session with
    | nil => rfl
    | cons made rest ih => exact (ih (session.note (.consulted made))).trans (bare_note session _)
  · rfl

theorem front?_setFront {front : Front} (present : session.front? index = some front)
    (replacement : Front) :
    (session.setFront index replacement).front? index = some replacement :=
  List.getElem?_set_self (List.getElem?_eq_some_iff.mp present).1

theorem bare_setFront_front (session : Session) (index : Nat) (front : Front) :
    (session.setFront index front).bare = session.bare.setFront index front.bare := by
  simp only [bare, setFront, List.map_set]

/-- Putting a front in the place of one that differs in its counts changes nothing else. -/
theorem bare_setFront {front replacement : Front} (present : session.front? index = some front)
    (same : replacement.bare = front.bare) : (session.setFront index replacement).bare = session.bare := by
  have kept : (session.fronts.set index replacement).map Front.bare =
      session.fronts.map Front.bare := by
    obtain ⟨inside, own⟩ := List.getElem?_eq_some_iff.mp present
    rw [List.map_set, same, ← own, ← List.getElem_map Front.bare, List.set_getElem_self]
    rw [List.length_map]
    exact inside
  simp only [bare, setFront, kept]

theorem bare_setCache {place : FrontPlace} {cache replacement : ResponseCache} {layer : Nat}
    (present : session.cache? place = some (cache, layer)) (same : replacement.bare = cache.bare) :
    (session.setCache place replacement).bare = session.bare := by
  unfold cache? at present
  unfold setCache
  split at present
  · rename_i found part
    cases present
    exact bare_setFront found (congrArg (Front.single · layer) same)
  · rename_i tiers first second found part
    cases present
    refine bare_setFront found ?_
    simp only [Front.bare, TwoTier.bare, same]
  · rename_i tiers first second found part
    cases present
    refine bare_setFront found ?_
    simp only [Front.bare, TwoTier.bare, same]
  · cases present

theorem front?_of_bare_single {cache : ResponseCache} {layer : Nat}
    (front : session.bare.front? index = some (.single cache layer)) :
    ∃ counted, session.front? index = some (.single counted layer) ∧ counted.bare = cache := by
  rw [front?_bare] at front
  obtain ⟨actual, present, same⟩ := Option.map_eq_some_iff.mp front
  cases actual with
  | single counted behind =>
      cases same
      exact ⟨counted, present, rfl⟩
  | tiered tiers first second => cases same

theorem front?_of_bare_tiered {tiers : TwoTier} {first second : Nat}
    (front : session.bare.front? index = some (.tiered tiers first second)) :
    ∃ counted, session.front? index = some (.tiered counted first second) ∧
      counted.bare = tiers := by
  rw [front?_bare] at front
  obtain ⟨actual, present, same⟩ := Option.map_eq_some_iff.mp front
  cases actual with
  | single cache layer => cases same
  | tiered counted first second =>
      cases same
      exact ⟨counted, present, rfl⟩

theorem cache?_of_bare {place : FrontPlace} {cache : ResponseCache} {layer : Nat}
    (present : session.bare.cache? place = some (cache, layer)) :
    ∃ counted, session.cache? place = some (counted, layer) ∧ counted.bare = cache := by
  unfold cache? at present ⊢
  split at present
  · rename_i found part
    cases present
    obtain ⟨counted, actual, same⟩ := front?_of_bare_single found
    exact ⟨counted, by simp only [actual, part], same⟩
  · rename_i tiers first second found part
    cases present
    obtain ⟨counted, actual, rfl⟩ := front?_of_bare_tiered found
    exact ⟨counted.first, by simp only [actual, part], rfl⟩
  · rename_i tiers first second found part
    cases present
    obtain ⟨counted, actual, rfl⟩ := front?_of_bare_tiered found
    exact ⟨counted.second, by simp only [actual, part], rfl⟩
  · cases present

/-! ### Lookups -/

section Lookups

variable {key : String} {hooks : Hooks} {next : Conclusion}

theorem find_tiered {tiers : TwoTier} {first second : Nat}
    (front : session.bare.front? index = some (.tiered tiers first second)) :
    session.find ⟨index, .whole⟩ key hooks next =
      [.find ⟨index, .firstTier⟩ key hooks (.firstTier index key hooks next)] := by
  obtain ⟨counted, actual, _⟩ := front?_of_bare_tiered front
  simp only [find, tiers?, actual]

theorem find_cache {place : FrontPlace} {cache : ResponseCache} {layer : Nat}
    (present : session.bare.cache? place = some (cache, layer)) :
    session.find place key hooks next =
      [.work (.ask layer key (.client (.front place key hooks next)))] := by
  obtain ⟨counted, actual, _⟩ := cache?_of_bare present
  have notTiered : session.tiers? place = none := by
    unfold cache? at actual
    unfold tiers?
    split at actual <;> simp_all
  simp only [find, notTiered, actual]

theorem resolve_bare {place : FrontPlace} {cache : ResponseCache} {layer : Nat}
    (present : session.bare.cache? place = some (cache, layer)) (lookup : Lookup) :
    (session.resolve place key hooks next lookup).1.bare = session.bare ∧
      (session.resolve place key hooks next lookup).2 =
        [.conclude next (ResponseCache.verdict cache.policy session.now key hooks.checks
          lookup.value?)] := by
  obtain ⟨counted, actual, rfl⟩ := cache?_of_bare present
  simp only [resolve, actual]
  constructor
  · rw [bare_noteConsultations, bare_signal]
    exact bare_setCache actual (ResponseCache.bare_resolve _ _ _ _ _)
  · rw [ResponseCache.resolve_outcome]
    rfl

theorem conclude_first_bare (outcome : Outcome) :
    (session.conclude (.firstTier index key hooks next) outcome).1.bare = session.bare ∧
      (session.conclude (.firstTier index key hooks next) outcome).2 =
        if outcome.isFound then [.conclude next outcome]
        else [.find ⟨index, .secondTier⟩ key hooks (.bothTiers index key outcome next)] := by
  simp only [conclude]
  cases outcome.isFound with
  | false => exact ⟨rfl, rfl⟩
  | true =>
      simp only [if_true]
      split
      · rename_i present
        exact ⟨bare_setFront present rfl, rfl⟩
      · exact ⟨rfl, rfl⟩

theorem conclude_both_bare {tiers : TwoTier} {first second : Nat}
    (front : session.bare.front? index = some (.tiered tiers first second))
    (earlier outcome : Outcome) :
    (session.conclude (.bothTiers index key earlier next) outcome).1.bare = session.bare ∧
      (session.conclude (.bothTiers index key earlier next) outcome).2 =
        ((tiers.backfill key outcome).toList.map fun content => .work (.put first key content)) ++
          [.conclude next (TwoTier.join earlier outcome)] := by
  obtain ⟨counted, actual, rfl⟩ := front?_of_bare_tiered front
  simp only [conclude, actual]
  constructor
  · rw [bare_signal]
    refine bare_setFront actual ?_
    simp only [Front.bare, TwoTier.bare_complete]
  · rw [TwoTier.complete_backfill, TwoTier.complete_outcome]
    rfl

end Lookups

/-! ### Steps of a front -/

section Steps

variable {label : String} {further : List Step} {key : String} {cache : ResponseCache}
  {tiers : TwoTier} {layer first second : Nat}

theorem startFront_tiered (label : String) (further : List Step) (action : FrontAction)
    (front : session.bare.front? index = some (.tiered tiers first second)) :
    ∃ counted, session.front? index = some (.tiered counted first second) ∧ counted.bare = tiers ∧
      session.startFront label further ⟨index, .whole⟩ action =
        session.startTiers label further ⟨index, .whole⟩ counted first second action := by
  obtain ⟨counted, actual, same⟩ := front?_of_bare_tiered front
  refine ⟨counted, actual, same, ?_⟩
  simp only [startFront, tiers?, actual]

theorem startFront_single (label : String) (further : List Step) (action : FrontAction)
    (front : session.bare.front? index = some (.single cache layer)) :
    ∃ counted, session.front? index = some (.single counted layer) ∧ counted.bare = cache ∧
      session.startFront label further ⟨index, .whole⟩ action =
        session.startCache label further ⟨index, .whole⟩ counted layer action := by
  obtain ⟨counted, actual, same⟩ := front?_of_bare_single front
  refine ⟨counted, actual, same, ?_⟩
  simp only [startFront, tiers?, cache?, actual]

theorem put_tiered (front : session.bare.front? index = some (.tiered tiers first second))
    (head : Head) (body : Bytes) :
    let started := session.startFront label further ⟨index, .whole⟩ (.put key head body)
    started.session.bare = session.bare ∧
      match tiers.second.prepare session.now key head body with
      | .error reason => started.jobs = [] ∧ started.reply = fun _ => .putResult (some reason)
      | .ok stored =>
          started.jobs = .work (.put second key stored.encoded) ::
              putJobs first key (tiers.backfill key (.found stored)) ∧
            started.reply = fun _ => .putResult none := by
  obtain ⟨counted, actual, rfl, same⟩ :=
    startFront_tiered label further (.put key head body) front
  simp only [same, startTiers]
  change _ ∧ match counted.second.prepare session.now key head body with | .error _ => _ | .ok _ => _
  cases counted.second.prepare session.now key head body with
  | error reason => exact ⟨rfl, rfl, rfl⟩
  | ok stored =>
      refine ⟨?_, ?_, rfl⟩
      · rw [bare_signal]
        refine bare_setFront actual ?_
        simp only [Front.bare, TwoTier.bare_store]
      · simp only [TwoTier.store_first, TwoTier.store_second]
        rfl

theorem put_single (front : session.bare.front? index = some (.single cache layer))
    (head : Head) (body : Bytes) :
    let started := session.startFront label further ⟨index, .whole⟩ (.put key head body)
    started.session.bare = session.bare ∧
      match cache.prepare session.now key head body with
      | .error reason => started.jobs = [] ∧ started.reply = fun _ => .putResult (some reason)
      | .ok stored =>
          started.jobs = putJobs layer key (some stored.encoded) ∧
            started.reply = fun _ => .putResult none := by
  obtain ⟨counted, actual, rfl, same⟩ :=
    startFront_single label further (.put key head body) front
  have present : session.cache? ⟨index, .whole⟩ = some (counted, layer) := by
    simp only [cache?, actual]
  simp only [same, startCache]
  change _ ∧ match counted.prepare session.now key head body with | .error _ => _ | .ok _ => _
  cases counted.prepare session.now key head body with
  | error reason => exact ⟨rfl, rfl, rfl⟩
  | ok stored => exact ⟨(bare_signal _ _).trans (bare_setCache present rfl), rfl, rfl⟩

theorem delete_tiered (front : session.bare.front? index = some (.tiered tiers first second)) :
    let started := session.startFront label further ⟨index, .whole⟩ (.delete key)
    started.session.bare = session.bare ∧
      started.jobs = [.work (.delete first key), .work (.delete second key)] ∧
        started.reply = fun _ => .nothing := by
  obtain ⟨counted, actual, rfl, same⟩ :=
    startFront_tiered label further (.delete key) front
  simp only [same, startTiers]
  exact ⟨bare_setFront actual rfl, trivial, trivial⟩

theorem delete_single (front : session.bare.front? index = some (.single cache layer)) :
    let started := session.startFront label further ⟨index, .whole⟩ (.delete key)
    started.session.bare = session.bare ∧ started.jobs = [.work (.delete layer key)] ∧
      started.reply = fun _ => .nothing := by
  obtain ⟨counted, actual, rfl, same⟩ :=
    startFront_single label further (.delete key) front
  have present : session.cache? ⟨index, .whole⟩ = some (counted, layer) := by
    simp only [cache?, actual]
  simp only [same, startCache]
  exact ⟨bare_setCache present rfl, trivial, trivial⟩

theorem remember_tiered (front : session.bare.front? index = some (.tiered tiers first second))
    (kind : FailureKind) :
    let started := session.startFront label further ⟨index, .whole⟩ (.remember key kind)
    started.session.bare = session.bare ∧
      started.jobs = putJobs first key (tiers.first.sentinel session.now kind) ++
          putJobs second key (tiers.second.sentinel session.now kind) ∧
        started.reply = fun _ => .nothing := by
  obtain ⟨counted, actual, rfl, same⟩ :=
    startFront_tiered label further (.remember key kind) front
  simp only [same, startTiers]
  refine ⟨?_, ?_, trivial⟩
  · rw [bare_signal]
    refine bare_setFront actual ?_
    simp only [Front.bare, TwoTier.bare_remember]
  · change _ = putJobs first key (counted.first.bare.sentinel session.now kind) ++
      putJobs second key (counted.second.bare.sentinel session.now kind)
    rw [ResponseCache.sentinel_bare, ResponseCache.sentinel_bare]
    rfl

theorem remember_single (front : session.bare.front? index = some (.single cache layer))
    (kind : FailureKind) :
    let started := session.startFront label further ⟨index, .whole⟩ (.remember key kind)
    started.session.bare = session.bare ∧
      started.jobs = putJobs layer key (cache.sentinel session.now kind) ∧
        started.reply = fun _ => .nothing := by
  obtain ⟨counted, actual, rfl, same⟩ :=
    startFront_single label further (.remember key kind) front
  have present : session.cache? ⟨index, .whole⟩ = some (counted, layer) := by
    simp only [cache?, actual]
  have written := ResponseCache.bare_remember counted session.now kind
  simp only [same, startCache]
  rw [ResponseCache.sentinel_bare, ResponseCache.sentinel]
  cases remembered : counted.remember session.now kind with
  | none => exact ⟨rfl, rfl, rfl⟩
  | some write =>
      rw [remembered] at written
      exact ⟨(bare_signal _ _).trans (bare_setCache present written), rfl, rfl⟩

theorem ignoreFailures_tiered
    (front : session.bare.front? index = some (.tiered tiers first second)) :
    let started := session.startFront label further ⟨index, .whole⟩ .ignoreFailures
    started.session.bare =
        session.bare.setFront index (.tiered tiers.ignoreFailures first second) ∧
      started.jobs = [] ∧ started.reply = fun _ => .nothing := by
  obtain ⟨counted, actual, rfl, same⟩ :=
    startFront_tiered label further .ignoreFailures front
  simp only [same, startTiers]
  exact ⟨bare_setFront_front _ _ _, rfl, rfl⟩

theorem ignoreFailures_single (front : session.bare.front? index = some (.single cache layer)) :
    let started := session.startFront label further ⟨index, .whole⟩ .ignoreFailures
    started.session.bare = session.bare.setFront index (.single cache.ignoreFailures layer) ∧
      started.jobs = [] ∧ started.reply = fun _ => .nothing := by
  obtain ⟨counted, actual, rfl, same⟩ := startFront_single label further .ignoreFailures front
  simp only [same, startCache, setCache, actual]
  exact ⟨bare_setFront_front _ _ _, rfl, rfl⟩

theorem change_tiered (front : session.bare.front? index = some (.tiered tiers first second))
    (changes : List FrontChange) :
    let started := session.startFront label further ⟨index, .whole⟩ (.change changes)
    started.session.bare = session.bare.setFront index (.tiered
        ({ tiers with limit := FrontChange.limitAfter changes tiers.limit }.changePolicy
          (FrontChange.applyAll changes)) first second) ∧
      started.jobs = [] ∧ started.reply = fun _ => .nothing := by
  obtain ⟨counted, actual, rfl, same⟩ :=
    startFront_tiered label further (.change changes) front
  simp only [same, startTiers]
  exact ⟨bare_setFront_front _ _ _, rfl, rfl⟩

theorem change_single (front : session.bare.front? index = some (.single cache layer))
    (changes : List FrontChange) :
    let started := session.startFront label further ⟨index, .whole⟩ (.change changes)
    started.session.bare = session.bare.setFront index
        (.single (cache.changePolicy (FrontChange.applyAll changes)) layer) ∧
      started.jobs = [] ∧ started.reply = fun _ => .nothing := by
  obtain ⟨counted, actual, rfl, same⟩ := startFront_single label further (.change changes) front
  simp only [same, startCache, setCache, actual]
  exact ⟨bare_setFront_front _ _ _, rfl, rfl⟩

end Steps

end Session

end TieredCache
