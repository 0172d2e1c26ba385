import TieredCache.Proofs.Front.Pace
import TieredCache.Proofs.Front.Sentinel

/-!
Where the failures come from that lookups report. Some lookups of a key are probed, and whatever is
under way to them is traced to an origin. Main statement: `Traced.turns`. Layers may answer late and
lose what they like.
-/

namespace TieredCache

/-! ### Entries that stand for a failure -/

theorem FailureKind.ofStatus?_eq_some {status : UInt16} {kind : FailureKind} :
    ofStatus? status = some kind ↔ status = kind.status := by
  constructor
  · intro known
    have own := List.find?_some known
    exact (of_decide_eq_true own).symm
  · rintro rfl
    exact ofStatus?_status kind

/-- An entry that is read as a failure. -/
def StandsFor (entry : Option Bytes) (kind : FailureKind) : Prop :=
  ∃ encoded stored, entry = some encoded ∧ Stored.decode encoded = .ok stored ∧
    stored.head.status = kind.status

theorem not_standsFor_none (kind : FailureKind) : ¬StandsFor none kind := by
  rintro ⟨_, _, ⟨⟩, _⟩

namespace ResponseCache

variable {policy : Policy} {now : Millis} {key : String} {checks : Checks} {entry : Option Bytes}
  {kind : FailureKind} {stored : Stored}

theorem standsFor_of_decode (decodes : Stored.decode stored.encoded = .ok stored) :
    StandsFor (some stored.encoded) kind ↔ stored.head.status = kind.status := by
  constructor
  · rintro ⟨_, _, ⟨⟩, again, status⟩
    cases decodes.symm.trans again
    exact status
  · intro status
    exact ⟨stored.encoded, stored, rfl, decodes, status⟩

/-- A failure is only read from an entry that stands for it. -/
theorem standsFor_of_failure
    (fails : (verdict policy now key checks entry).failure? = some kind) : StandsFor entry kind := by
  cases entry with
  | none => cases fails
  | some encoded =>
      cases decodes : Stored.decode encoded with
      | error fault => simp [verdict, decodes, Outcome.notFound, Outcome.failure?] at fails
      | ok stored =>
          refine ⟨encoded, stored, rfl, decodes, FailureKind.ofStatus?_eq_some.mp ?_⟩
          simp only [verdict, decodes] at fails
          cases status : FailureKind.ofStatus? stored.head.status with
          | none =>
              simp only [status] at fails
              split at fails <;> cases fails
          | some own =>
              simp only [status] at fails
              split at fails
              · exact fails
              · cases fails

theorem not_standsFor_of_found (found : verdict policy now key checks entry = .found stored) :
    ¬StandsFor (some stored.encoded) kind := by
  obtain ⟨_, decodes, response⟩ := encoded_of_found found
  rw [standsFor_of_decode decodes, ← FailureKind.ofStatus?_eq_some, response]
  exact Option.some_ne_none kind ∘ Eq.symm

/-- What is written to remember a failure stands for no other. -/
theorem standsFor_sentinel {cache : ResponseCache} {other : FailureKind}
    (stands : StandsFor (cache.sentinel now kind) other) : other = kind := by
  cases ignores : cache.ignoresFailures with
  | true =>
      rw [sentinel_of_ignoring ignores] at stands
      exact absurd stands (not_standsFor_none other)
  | false =>
      obtain ⟨stored, written, decodes, head⟩ := sentinel_of_heeding now kind ignores
      rw [written, standsFor_of_decode decodes, head] at stands
      have same := FailureKind.ofStatus?_eq_some.mpr stands
      exact Option.some.inj (same.symm.trans (FailureKind.ofStatus?_status kind))

end ResponseCache

/-! ### What is probed -/

structure Probe where
  key : String
  layers : List Nat
  origin : FailureKind → Prop
  numbers : Nat → Prop

namespace Probe

def Explains (probe : Probe) (entry : Option Bytes) : Prop :=
  ∀ kind, StandsFor entry kind → probe.origin kind

def Accounts (probe : Probe) (outcome : Outcome) : Prop :=
  ∀ kind, outcome.failure? = some kind → probe.origin kind

def asking (probe : Probe) (name : String) (number : Nat) : Probe :=
  { probe with numbers := fun other => probe.numbers other ∨ name = probe.key ∧ other = number }

variable {probe : Probe}

theorem explains_none : probe.Explains none :=
  fun kind stands => absurd stands (not_standsFor_none kind)

theorem Explains.verdict {entry : Option Bytes} (explains : probe.Explains entry) (policy : Policy)
    (now : Millis) (key : String) (checks : Checks) :
    probe.Accounts (ResponseCache.verdict policy now key checks entry) :=
  fun kind fails => explains kind (ResponseCache.standsFor_of_failure fails)

theorem Accounts.join {first second : Outcome} (left : probe.Accounts first)
    (right : probe.Accounts second) : probe.Accounts (TwoTier.join first second) := by
  cases second with
  | found stored => exact right
  | missed failure stale =>
      intro kind fails
      cases failure with
      | none => exact left kind fails
      | some own => exact right kind fails

end Probe

def Conclusion.number? : Conclusion → Option Nat
  | .promise number => some number
  | .report .. => none
  | .firstTier _ _ _ next | .bothTiers _ _ _ next => next.number?

def Conclusion.Follows (probe : Probe) : Conclusion → Prop
  | .promise _ | .report .. => True
  | .firstTier _ key _ next => key = probe.key ∧ next.Follows probe
  | .bothTiers _ key earlier next => key = probe.key ∧ probe.Accounts earlier ∧ next.Follows probe

def Conclusion.Due (probe : Probe) (bound : Nat) (next : Conclusion) : Prop :=
  ∃ number, next.number? = some number ∧ number < bound ∧
    (probe.numbers number → next.Follows probe)

def Conclusion.Probed (probe : Probe) (next : Conclusion) : Prop :=
  ∃ number, next.number? = some number ∧ probe.numbers number

def Job.Explained (probe : Probe) (bound : Nat) : Job → Prop
  | .find _ key _ next => next.Due probe bound ∧ (next.Probed probe → key = probe.key)
  | .work (.ask layer key (.client (.front _ _ _ next))) =>
      next.Due probe bound ∧ (next.Probed probe → key = probe.key ∧ layer ∈ probe.layers)
  | .work (.inform (.front _ _ _ next) lookup) =>
      next.Due probe bound ∧ (next.Probed probe → probe.Explains lookup.value?)
  | .work (.put _ key content) => key = probe.key → probe.Explains (some content)
  | .conclude next outcome =>
      next.Due probe bound ∧ (next.Probed probe → probe.Accounts outcome) ∧
        ∀ stored, outcome = .found stored → ∀ kind, ¬StandsFor (some stored.encoded) kind
  | _ => False

/-- Which lookups are probed makes no difference to what is explained. -/
theorem Conclusion.follows_with (probe : Probe) (numbers : Nat → Prop) (next : Conclusion) :
    next.Follows { probe with numbers } ↔ next.Follows probe := by
  induction next with
  | promise | report => exact Iff.rfl
  | firstTier index key hooks next ih => exact and_congr_right fun _ => ih
  | bothTiers index key earlier next ih =>
      exact and_congr_right fun _ => and_congr_right fun _ => ih

/-- A number that is given out next makes no difference to lookups that have theirs. -/
theorem Conclusion.Due.asking {probe : Probe} {bound : Nat} {next : Conclusion}
    (due : next.Due probe bound) (name : String) :
    next.Due (probe.asking name bound) (bound + 1) ∧
      (next.Probed (probe.asking name bound) → next.Probed probe) := by
  obtain ⟨number, leads, given, follows⟩ := due
  have earlier : ∀ {other}, next.number? = some other → (probe.asking name bound).numbers other →
      probe.numbers other := by
    intro other same probed
    cases leads.symm.trans same
    exact probed.resolve_right fun new => absurd given (new.2 ▸ Nat.lt_irrefl _)
  refine ⟨⟨number, leads, Nat.lt_succ_of_lt given, fun probed => ?_⟩, ?_⟩
  · exact (next.follows_with probe _).mpr (follows (earlier leads probed))
  · rintro ⟨other, same, probed⟩
    exact ⟨other, same, earlier same probed⟩

def Front.layers : Front → List Nat
  | single _ layer => [layer]
  | tiered _ first second => [first, second]

theorem Session.layers_bare (session : Session) :
    session.bare.fronts.map Front.layers = session.fronts.map Front.layers := by
  rw [Session.bare, List.map_map]
  congr 1
  funext front
  cases front <;> rfl

theorem Session.cache?_bare (session : Session) (place : FrontPlace) :
    session.bare.cache? place =
      (session.cache? place).map fun (cache, layer) => (cache.bare, layer) := by
  unfold Session.cache?
  rw [Session.front?_bare]
  cases session.front? place.index with
  | none => rfl
  | some front => cases front <;> cases place.part <;> rfl

/-- A front, and the jobs left to do, under a probe. -/
structure Traced (probe : Probe) (depot : Depot) (jobs : List Job) : Prop where
  front : depot.session.fronts.map Front.layers = [probe.layers]
  shelves : ∀ layer ∈ probe.layers, probe.Explains (depot.shelves layer probe.key)
  given : ∀ number, probe.numbers number → number < depot.session.freshPromise
  outcomes : ∀ entry ∈ depot.session.outcomes, entry.1 < depot.session.freshPromise ∧
    (probe.numbers entry.1 → probe.Accounts entry.2)
  waiting : ∀ entry ∈ depot.waiting,
    (Job.work (.inform entry.1 entry.2)).Explained probe depot.session.freshPromise
  jobs : ∀ job ∈ jobs, job.Explained probe depot.session.freshPromise

def Probe.Allows (probe : Probe) (depot : Depot) : Turn → Prop
  | .operate (.put name head body) => name = probe.key →
      (depot.operate 0 (.put name head body)).2 = .putResult none →
        ∀ kind, head.status = FailureKind.status kind → probe.origin kind
  | .operate (.remember name kind) => name = probe.key → probe.origin kind
  | _ => True

namespace Traced

variable {probe : Probe} {depot : Depot} {jobs rest : List Job} {name : String} {layer : Nat}

/-! ### Jobs -/

/-- A session with the same lookups, and a front over the same layers. -/
theorem with_session (traced : Traced probe depot jobs) {session : Session}
    (front : session.fronts.map Front.layers = [probe.layers])
    (outcomes : session.outcomes = depot.session.outcomes)
    (fresh : session.freshPromise = depot.session.freshPromise) {more : List Job}
    (explained : ∀ job ∈ more, job.Explained probe depot.session.freshPromise) :
    Traced probe { depot with session } more := by
  refine ⟨front, traced.shelves, ?_, ?_, ?_, ?_⟩
  · rw [fresh]
    exact traced.given
  · rw [fresh, outcomes]
    exact traced.outcomes
  · rw [fresh]
    exact traced.waiting
  · rw [fresh]
    exact explained

/-- A session that differs in nothing but counts, signals and events. -/
theorem with_bare (traced : Traced probe depot jobs) {session : Session}
    (same : session.bare = depot.session.bare) {more : List Job}
    (explained : ∀ job ∈ more, job.Explained probe depot.session.freshPromise) :
    Traced probe { depot with session } more := by
  have front : session.bare.fronts.map Front.layers = [probe.layers] := by
    rw [same, Session.layers_bare]
    exact traced.front
  rw [Session.layers_bare] at front
  have outcomes : session.bare.outcomes = depot.session.bare.outcomes := by rw [same]
  have fresh : session.bare.freshPromise = depot.session.bare.freshPromise := by rw [same]
  exact traced.with_session front outcomes fresh explained

theorem with_jobs (traced : Traced probe depot jobs) {more : List Job}
    (explained : ∀ job ∈ more, job.Explained probe depot.session.freshPromise) :
    Traced probe depot more :=
  traced.with_bare rfl explained

theorem explains_lose (traced : Traced probe depot jobs) (member : layer ∈ probe.layers) :
    probe.Explains (depot.lose.shelves layer probe.key) := by
  rintro kind ⟨encoded, stored, held, decodes⟩
  exact traced.shelves layer member kind
    ⟨encoded, stored, Depot.within_lose depot layer _ _ held, decodes⟩

theorem lose (traced : Traced probe depot jobs) : Traced probe depot.lose jobs := by
  constructor
  · rw [Depot.session_lose]
    exact traced.front
  · exact fun layer member => traced.explains_lose member
  · rw [Depot.session_lose]
    exact traced.given
  · rw [Depot.session_lose]
    exact traced.outcomes
  · rw [Depot.session_lose, Depot.waiting_lose]
    exact traced.waiting
  · rw [Depot.session_lose]
    exact traced.jobs

theorem fill (traced : Traced probe depot jobs) (layer : Nat) {entry : Option Bytes}
    (explained : name = probe.key → probe.Explains entry) :
    Traced probe (depot.fill layer name entry) jobs where
  front := traced.front
  shelves := by
    intro other member
    simp only [Depot.fill]
    split
    · rename_i own
      exact explained own.2.symm
    · exact traced.shelves other member
  given := traced.given
  outcomes := traced.outcomes
  waiting := traced.waiting
  jobs := traced.jobs

theorem layers_of_front? (traced : Traced probe depot jobs) {index : Nat} {front : Front}
    (present : depot.session.front? index = some front) : front.layers = probe.layers := by
  have member : front.layers ∈ depot.session.fronts.map Front.layers :=
    List.mem_map_of_mem (List.mem_of_getElem? present)
  rw [traced.front] at member
  exact List.mem_singleton.mp member

theorem mem_layers (traced : Traced probe depot jobs) {place : FrontPlace} {cache : ResponseCache}
    (present : depot.session.cache? place = some (cache, layer)) : layer ∈ probe.layers := by
  unfold Session.cache? at present
  split at present
  · rename_i found part
    cases present
    rw [← traced.layers_of_front? found]
    exact List.mem_cons_self
  · rename_i found part
    cases present
    rw [← traced.layers_of_front? found]
    exact List.mem_cons_self
  · rename_i found part
    cases present
    rw [← traced.layers_of_front? found]
    exact List.mem_cons_of_mem _ List.mem_cons_self
  · cases present

theorem find (traced : Traced probe depot jobs) (place : FrontPlace) (name : String) (hooks : Hooks)
    {next : Conclusion} (due : next.Due probe depot.session.freshPromise)
    (own : next.Probed probe → name = probe.key) :
    ∀ job ∈ depot.session.find place name hooks next,
      job.Explained probe depot.session.freshPromise := by
  unfold Session.find
  split
  · obtain ⟨number, leads, given, follows⟩ := due
    refine List.forall_mem_singleton.mpr ⟨⟨number, leads, given, fun probed => ?_⟩, own⟩
    exact ⟨own ⟨number, leads, probed⟩, follows probed⟩
  · split
    · rename_i present
      refine List.forall_mem_singleton.mpr ⟨due, fun probed => ⟨own probed, ?_⟩⟩
      exact traced.mem_layers present
    · exact List.forall_mem_nil _

theorem ask (traced : Traced probe depot jobs) (layer : Nat) (name : String) {place : FrontPlace}
    {key : String} {hooks : Hooks} {next : Conclusion}
    (due : next.Due probe depot.session.freshPromise)
    (own : next.Probed probe → name = probe.key ∧ layer ∈ probe.layers) (rest : List Job)
    (others : ∀ job ∈ rest, job.Explained probe depot.session.freshPromise) :
    let asked := depot.lose.ask layer name (.front place key hooks next)
    Traced probe asked.1 (asked.2 ++ rest) := by
  have informs : (Job.work (.inform (.front place key hooks next)
      (.ofOption (depot.lose.shelves layer name)))).Explained probe depot.session.freshPromise := by
    refine ⟨due, fun probed => ?_⟩
    obtain ⟨rfl, member⟩ := own probed
    rw [Lookup.value?_ofOption]
    exact traced.explains_lose member
  have lost := traced.lose
  unfold Depot.ask
  split
  · refine { lost with waiting := ?_, jobs := ?_ }
    · intro entry member
      rcases List.mem_append.mp member with old | new
      · exact lost.waiting entry old
      · rw [List.mem_singleton.mp new]
        simp only [Depot.session_lose]
        exact informs
    · simp only [Depot.session_lose]
      exact others
  · refine lost.with_jobs ?_
    rw [Depot.session_lose]
    exact List.forall_mem_cons.mpr ⟨informs, others⟩

theorem inform (traced : Traced probe depot jobs) {place : FrontPlace} (key : String)
    (hooks : Hooks) {next : Conclusion} {lookup : Lookup}
    (due : next.Due probe depot.session.freshPromise)
    (own : next.Probed probe → probe.Explains lookup.value?) (rest : List Job)
    (others : ∀ job ∈ rest, job.Explained probe depot.session.freshPromise) :
    let informed := depot.session.resolve place key hooks next lookup
    Traced probe { depot with session := informed.1 } (informed.2 ++ rest) := by
  cases present : depot.session.cache? place with
  | none =>
      simp only [Session.resolve, present]
      exact traced.with_jobs others
  | some found =>
      obtain ⟨cache, layer⟩ := found
      have bare := Session.cache?_bare depot.session place
      rw [present] at bare
      obtain ⟨same, concludes⟩ := @Session.resolve_bare depot.session key hooks next place _ layer
        bare lookup
      refine traced.with_bare same ?_
      rw [concludes]
      refine List.forall_mem_cons.mpr ⟨⟨due, fun probed => (own probed).verdict _ _ _ _, ?_⟩, others⟩
      exact fun stored found kind => ResponseCache.not_standsFor_of_found found

theorem conclude (traced : Traced probe depot jobs) {next : Conclusion} {outcome : Outcome}
    (explained : (Job.conclude next outcome).Explained probe depot.session.freshPromise)
    (rest : List Job)
    (others : ∀ job ∈ rest, job.Explained probe depot.session.freshPromise) :
    let concluded := depot.session.conclude next outcome
    Traced probe { depot with session := concluded.1 } (concluded.2 ++ rest) := by
  obtain ⟨⟨number, leads, given, follows⟩, accounts, genuine⟩ := explained
  cases next with
  | report label further => cases leads
  | promise own =>
      cases leads
      refine { (traced.with_jobs others) with outcomes := ?_ }
      intro entry member
      rcases List.mem_cons.mp member with rfl | old
      · exact ⟨given, fun probed => accounts ⟨number, rfl, probed⟩⟩
      · exact traced.outcomes entry old
  | firstTier index key hooks later =>
      obtain ⟨same, more⟩ := @Session.conclude_first_bare depot.session index key hooks later outcome
      refine traced.with_bare same ?_
      rw [more]
      have due : later.Due probe depot.session.freshPromise :=
        ⟨number, leads, given, fun probed => (follows probed).2⟩
      split
      · exact List.forall_mem_cons.mpr ⟨⟨due, accounts, genuine⟩, others⟩
      · refine List.forall_mem_cons.mpr ⟨⟨⟨number, leads, given, fun probed => ?_⟩, ?_⟩, others⟩
        · exact ⟨(follows probed).1, accounts ⟨number, leads, probed⟩, (follows probed).2⟩
        · rintro ⟨other, same, probed⟩
          cases leads.symm.trans same
          exact (follows probed).1
  | bothTiers index key earlier later =>
      have due : later.Due probe depot.session.freshPromise :=
        ⟨number, leads, given, fun probed => (follows probed).2.2⟩
      cases present : depot.session.front? index with
      | none =>
          simp only [Session.conclude, present]
          exact traced.with_jobs (List.forall_mem_cons.mpr ⟨⟨due, accounts, genuine⟩, others⟩)
      | some front =>
          cases front with
          | single cache layer =>
              simp only [Session.conclude, present]
              exact traced.with_jobs (List.forall_mem_cons.mpr ⟨⟨due, accounts, genuine⟩, others⟩)
          | tiered tiers first second =>
              have bare := Session.front?_bare depot.session index
              rw [present] at bare
              obtain ⟨same, more⟩ := @Session.conclude_both_bare depot.session index key later _ first
                second bare earlier outcome
              refine traced.with_bare same ?_
              rw [more, List.append_assoc]
              refine List.forall_mem_append.mpr ⟨?_, List.forall_mem_cons.mpr ⟨⟨due, ?_, ?_⟩, others⟩⟩
              · intro job member
                obtain ⟨content, backfilled, rfl⟩ := List.mem_map.mp member
                obtain ⟨stored, found, -, rfl⟩ :=
                  TwoTier.backfill_eq_some.mp (Option.mem_toList.mp backfilled)
                exact fun _ kind stands => absurd stands (genuine stored found kind)
              · rintro ⟨other, same, probed⟩
                cases leads.symm.trans same
                exact (follows probed).2.1.join (accounts ⟨number, leads, probed⟩)
              · intro stored found
                cases outcome with
                | found own => exact genuine stored found
                | missed failure stale => cases found

/-- Whatever a job hands on is explained if what it was handed is. -/
theorem perform {job : Job} (traced : Traced probe depot (job :: rest)) :
    Traced probe (depot.perform job).1 ((depot.perform job).2 ++ rest) := by
  obtain ⟨own, others⟩ := List.forall_mem_cons.mp traced.jobs
  unfold Job.Explained at own
  split at own
  · exact traced.with_jobs
      (List.forall_mem_append.mpr ⟨traced.find _ _ _ own.1 own.2, others⟩)
  · exact traced.ask _ _ own.1 own.2 rest others
  · exact traced.inform _ _ own.1 own.2 rest others
  · refine (traced.lose.fill _ fun same => own same).with_jobs ?_
    change ∀ job ∈ rest, job.Explained probe depot.lose.session.freshPromise
    rw [Depot.session_lose]
    exact others
  · exact traced.conclude own rest others
  · exact absurd own id

theorem settle (traced : Traced probe depot jobs) : Traced probe (depot.settle jobs) [] := by
  obtain ⟨left, kept⟩ := @Agenda.run_keeps _ _ Depot.perform (fun depot jobs => Traced probe depot jobs)
    (fun _ _ _ traced => traced.perform) Depot.credit depot jobs traced
  exact kept.with_jobs (List.forall_mem_nil _)

/-! ### Turns -/

theorem front? (traced : Traced probe depot jobs) :
    (∃ cache layer, depot.session.bare.front? 0 = some (.single cache layer) ∧
      probe.layers = [layer]) ∨
    ∃ tiers first second, depot.session.bare.front? 0 = some (.tiered tiers first second) ∧
      probe.layers = [first, second] := by
  have one := traced.front
  rw [← Session.layers_bare] at one
  obtain ⟨front, rest, fronts, layers, none⟩ := List.map_eq_cons_iff.mp one
  have present : depot.session.bare.front? 0 = some front := by
    rw [Session.front?, fronts]
    rfl
  cases front with
  | single cache layer => exact .inl ⟨cache, layer, present, layers.symm⟩
  | tiered tiers first second => exact .inr ⟨tiers, first, second, present, layers.symm⟩

theorem setFront (traced : Traced probe depot []) {front : Front} {session : Session}
    (same : session.bare = depot.session.bare.setFront 0 front)
    (layers : front.layers = probe.layers) : Traced probe { depot with session } [] := by
  have replaced : session.bare.fronts.map Front.layers = [probe.layers] := by
    rw [same]
    change (depot.session.bare.fronts.set 0 front).map Front.layers = _
    rw [List.map_set, Session.layers_bare, traced.front, layers]
    rfl
  rw [Session.layers_bare] at replaced
  have outcomes : session.bare.outcomes = depot.session.bare.outcomes := by
    rw [same]
    rfl
  have fresh : session.bare.freshPromise = depot.session.bare.freshPromise := by
    rw [same]
    rfl
  exact traced.with_session replaced outcomes fresh (List.forall_mem_nil _)

theorem write (traced : Traced probe depot jobs) (layer : Nat) {entry : Option Bytes}
    (explained : name = probe.key → probe.Explains entry) :
    Traced probe (depot.write layer name entry) jobs := by
  cases entry with
  | none => exact traced
  | some content => exact traced.lose.fill layer explained

/-- One more lookup is probed, if it is of the key. -/
theorem asking (traced : Traced probe depot []) (name : String) (hooks : Hooks) :
    Traced (probe.asking name depot.session.freshPromise)
      (depot.operate 0 (.find name hooks)).1 [] := by
  obtain ⟨front, present⟩ : ∃ front, depot.session.front? 0 = some front := by
    obtain ⟨front, rest, fronts, -⟩ := List.map_eq_cons_iff.mp traced.front
    exact ⟨front, by rw [Session.front?, fronts]; rfl⟩
  rw [Depot.operate_find_eq present]
  refine settle ⟨traced.front, traced.shelves, ?_, ?_, ?_, ?_⟩
  · rintro number (probed | ⟨-, rfl⟩)
    · exact Nat.lt_succ_of_lt (traced.given number probed)
    · exact Nat.lt_succ_self _
  · intro entry member
    obtain ⟨given, accounts⟩ := traced.outcomes entry member
    refine ⟨Nat.lt_succ_of_lt given, ?_⟩
    rintro (probed | ⟨-, new⟩)
    · exact accounts probed
    · exact absurd given (new ▸ Nat.lt_irrefl _)
  · rintro ⟨callback, lookup⟩ member
    have explained := traced.waiting _ member
    cases callback with
    | front place key hooks next =>
        obtain ⟨due, probed⟩ := explained.1.asking name
        exact ⟨due, fun new => explained.2 (probed new)⟩
    | report | promise => exact absurd explained id
  · refine List.forall_mem_singleton.mpr ⟨⟨_, rfl, Nat.lt_succ_self _, fun _ => trivial⟩, ?_⟩
    rintro ⟨number, ⟨⟩, probed | ⟨own, -⟩⟩
    · exact absurd (traced.given _ probed) (Nat.lt_irrefl _)
    · exact own

theorem narrow (traced : Traced probe depot []) {numbers : Nat → Prop}
    (fewer : ∀ number, numbers number → probe.numbers number) :
    Traced { probe with numbers } depot [] := by
  refine ⟨traced.front, traced.shelves, fun number probed => traced.given number (fewer _ probed),
    ?_, ?_, List.forall_mem_nil _⟩
  · intro entry member
    obtain ⟨given, accounts⟩ := traced.outcomes entry member
    exact ⟨given, fun probed => accounts (fewer _ probed)⟩
  · rintro ⟨callback, lookup⟩ member
    have explained := traced.waiting _ member
    cases callback with
    | front place key hooks next =>
        obtain ⟨⟨number, leads, given, follows⟩, answers⟩ := explained
        refine ⟨⟨number, leads, given, fun probed => ?_⟩, ?_⟩
        · exact (next.follows_with probe numbers).mpr (follows (fewer _ probed))
        · rintro ⟨other, same, probed⟩
          exact answers ⟨other, same, fewer _ probed⟩
    | report | promise => exact absurd explained id

/-- With other origins, once nobody is probed. -/
theorem anew (traced : Traced probe depot []) {origin : FailureKind → Prop}
    (shelves : ∀ layer ∈ probe.layers, ∀ kind,
      StandsFor (depot.shelves layer probe.key) kind → origin kind) :
    Traced ⟨probe.key, probe.layers, origin, fun _ => False⟩ depot [] := by
  refine ⟨traced.front, shelves, fun _ => False.elim, ?_, ?_, List.forall_mem_nil _⟩
  · intro entry member
    exact ⟨(traced.outcomes entry member).1, False.elim⟩
  · rintro ⟨callback, lookup⟩ member
    have explained := traced.waiting _ member
    cases callback with
    | front place key hooks next =>
        obtain ⟨⟨number, leads, given, -⟩, -⟩ := explained
        refine ⟨⟨number, leads, given, False.elim⟩, ?_⟩
        rintro ⟨other, -, probed⟩
        exact probed.elim
    | report | promise => exact absurd explained id

theorem deliver (traced : Traced probe depot []) (position : Nat) :
    Traced probe (depot.deliver position) [] := by
  cases present : depot.waiting[position]? with
  | none =>
      rw [Depot.deliver_absent present]
      exact traced
  | some entry =>
      simp only [Depot.deliver, present]
      refine settle { traced with waiting := ?_, jobs := ?_ }
      · intro other member
        exact traced.waiting other (List.mem_of_mem_eraseIdx member)
      · exact List.forall_mem_singleton.mpr (traced.waiting entry (List.mem_of_getElem? present))

theorem put (traced : Traced probe depot []) (name : String) (head : Head) (body : Bytes)
    (allows : probe.Allows depot (.operate (.put name head body))) :
    Traced probe (depot.operate 0 (.put name head body)).1 [] := by
  have explains : ∀ {cache : ResponseCache} {stored : Stored},
      cache.prepare depot.session.now name head body = .ok stored →
      (depot.operate 0 (.put name head body)).2 = .putResult none →
      name = probe.key → probe.Explains (some stored.encoded) := by
    intro cache stored prepared stores same kind stands
    obtain ⟨decodes, status⟩ := ResponseCache.status_of_prepare prepared
    rw [ResponseCache.standsFor_of_decode decodes, status] at stands
    exact allows same stores kind stands
  rcases traced.front? with ⟨cache, layer, front, -⟩ | ⟨tiers, first, second, front, -⟩
  · cases prepared : cache.prepare depot.session.now name head body with
    | error reason =>
        obtain ⟨session, same, ran⟩ := Depot.operate_put_refused_single front prepared
        rw [ran]
        exact traced.with_bare same (List.forall_mem_nil _)
    | ok stored =>
        obtain ⟨session, same, ran⟩ := Depot.operate_put_stored_single front prepared
        have written := traced.write layer (explains prepared (congrArg Prod.snd ran))
        rw [ran]
        exact written.with_bare (by rw [same, Depot.session_write]) (List.forall_mem_nil _)
  · cases prepared : tiers.second.prepare depot.session.now name head body with
    | error reason =>
        obtain ⟨session, same, ran⟩ := Depot.operate_put_refused front prepared
        rw [ran]
        exact traced.with_bare same (List.forall_mem_nil _)
    | ok stored =>
        obtain ⟨session, same, ran⟩ := Depot.operate_put_stored front prepared
        have own := explains prepared (congrArg Prod.snd ran)
        have backfill : name = probe.key →
            probe.Explains (tiers.backfill name (.found stored)) := by
          intro known
          simp only [TwoTier.backfill]
          split
          · exact own known
          · exact Probe.explains_none
        have written := (traced.write second own).write first backfill
        rw [ran]
        exact written.with_bare (by rw [same, Depot.session_write, Depot.session_write])
          (List.forall_mem_nil _)

theorem remember (traced : Traced probe depot []) (name : String) (kind : FailureKind)
    (allows : name = probe.key → probe.origin kind) :
    Traced probe (depot.operate 0 (.remember name kind)).1 [] := by
  have explains : ∀ cache : ResponseCache, name = probe.key →
      probe.Explains (cache.sentinel depot.session.now kind) := by
    intro cache same other stands
    rw [ResponseCache.standsFor_sentinel stands]
    exact allows same
  rcases traced.front? with ⟨cache, layer, front, -⟩ | ⟨tiers, first, second, front, -⟩
  · obtain ⟨session, same, ran⟩ := Depot.operate_remember_single front kind
    have written := traced.write layer (explains cache)
    rw [ran]
    exact written.with_bare (by rw [same, Depot.session_write]) (List.forall_mem_nil _)
  · obtain ⟨session, same, ran⟩ := Depot.operate_remember front kind
    have written := (traced.write first (explains tiers.first)).write second (explains tiers.second)
    rw [ran]
    exact written.with_bare (by rw [same, Depot.session_write, Depot.session_write])
      (List.forall_mem_nil _)

theorem remove (traced : Traced probe depot []) (layer : Nat) (name : String) :
    Traced probe (depot.remove layer name) [] :=
  traced.lose.fill layer fun _ => Probe.explains_none

theorem delete (traced : Traced probe depot []) (name : String) :
    Traced probe (depot.operate 0 (.delete name)).1 [] := by
  rcases traced.front? with ⟨cache, layer, front, -⟩ | ⟨tiers, first, second, front, -⟩
  · obtain ⟨session, same, ran⟩ := Depot.operate_delete_single front
    rw [ran]
    exact (traced.remove layer name).with_bare (by rw [same, Depot.session_remove])
      (List.forall_mem_nil _)
  · obtain ⟨session, same, ran⟩ := Depot.operate_delete front
    rw [ran]
    exact ((traced.remove first name).remove second name).with_bare
      (by rw [same, Depot.session_remove, Depot.session_remove]) (List.forall_mem_nil _)

theorem ignoreFailures (traced : Traced probe depot []) :
    Traced probe (depot.operate 0 .ignoreFailures).1 [] := by
  rcases traced.front? with ⟨cache, layer, front, layers⟩ | ⟨tiers, first, second, front, layers⟩
  · obtain ⟨session, same, ran⟩ := Depot.operate_ignoreFailures_single front
    rw [ran]
    exact traced.setFront same layers.symm
  · obtain ⟨session, same, ran⟩ := Depot.operate_ignoreFailures front
    rw [ran]
    exact traced.setFront same layers.symm

theorem change (traced : Traced probe depot []) (changes : List FrontChange) :
    Traced probe (depot.operate 0 (.change changes)).1 [] := by
  rcases traced.front? with ⟨cache, layer, front, layers⟩ | ⟨tiers, first, second, front, layers⟩
  · obtain ⟨session, same, ran⟩ := Depot.operate_change_single front changes
    rw [ran]
    exact traced.setFront same layers.symm
  · obtain ⟨session, same, ran⟩ := Depot.operate_change front changes
    rw [ran]
    exact traced.setFront same layers.symm

theorem atTime (traced : Traced probe depot []) (time : Millis) :
    Traced probe { depot with session := Depot.atTime depot.session time } [] := by
  have front : (Depot.atTime depot.session time).fronts.map Front.layers = [probe.layers] :=
    traced.front
  exact traced.with_session front rfl rfl traced.jobs

theorem turn (traced : Traced probe depot []) (turn : Turn) (allows : probe.Allows depot turn) :
    Traced probe (depot.turn 0 turn) [] := by
  cases turn with
  | deliver position => exact traced.deliver position
  | operate operation =>
      cases operation with
      | put name head body => exact traced.put name head body allows
      | find name hooks => exact (traced.asking name hooks).narrow fun _ => .inl
      | delete name => exact traced.delete name
      | remember name kind => exact traced.remember name kind allows
      | ignoreFailures => exact traced.ignoreFailures
      | change changes => exact traced.change changes
      | advance span => exact traced.atTime _
      | setTime time => exact traced.atTime time

/-- Whatever the turns are, the failures that probed lookups report have an origin if those have
that the turns bring in. -/
theorem turns (traced : Traced probe depot []) (turns : List Turn)
    (allows : ∀ earlier turn later, turns = earlier ++ turn :: later →
      probe.Allows (depot.turns 0 earlier) turn) :
    Traced probe (depot.turns 0 turns) [] := by
  induction turns generalizing depot with
  | nil => exact traced
  | cons turn rest ih =>
      refine ih (traced.turn turn (allows [] turn rest rfl)) fun earlier other later split => ?_
      exact allows (turn :: earlier) other later (congrArg (turn :: ·) split)

end Traced

end TieredCache
