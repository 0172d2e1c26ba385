import TieredCache.Proofs.Front.Usage

/-!
The metrics of a front next to its counts. Main statement: `signals_tell_counts`, by which the
metrics tell all that the caches of a front count, and the refusals of its puts just if it has a
single cache.
-/

namespace TieredCache

/-! ### Adding up metrics -/

def Signal.increment (metric : String) (tags : List (String × String)) : Signal → Nat
  | .metric sent =>
      if sent.kind = .counter ∧ sent.name = metric ∧ ∀ tag ∈ tags, tag ∈ sent.tags then
        sent.amount.getD 0
      else 0
  | .log _ => 0

def increments (signals : List Signal) (metric : String) (tags : List (String × String)) : Nat :=
  (signals.map (·.increment metric tags)).sum

section Increments

variable (metric : String) (tags : List (String × String))

@[simp] theorem increments_nil : increments [] metric tags = 0 := rfl

@[simp] theorem increments_cons (signal : Signal) (signals : List Signal) :
    increments (signal :: signals) metric tags =
      signal.increment metric tags + increments signals metric tags := rfl

@[simp] theorem increments_append (left right : List Signal) :
    increments (left ++ right) metric tags =
      increments left metric tags + increments right metric tags := by
  rw [increments, List.map_append, List.sum_append]
  rfl

@[simp] theorem increments_reverse (signals : List Signal) :
    increments signals.reverse metric tags = increments signals metric tags := by
  rw [increments, List.map_reverse, List.sum_reverse]
  rfl

end Increments

/-! ### What metrics tell -/

namespace Counts

def told (counts : Counts) : Counts :=
  { counts with misses := 0, backendHits := 0, backendMisses := 0, deletes := 0 }

end Counts

inductive Topic where
  | hit | expired | invalidated | insert
  deriving DecidableEq

namespace Topic

def metric : Topic → String
  | hit => "http_cache.hit"
  | expired => "http_cache.expired"
  | invalidated => "http_cache.invalidated"
  | insert => "http_cache.insert"

def count (topic : Topic) (counts : Counts) : Nat :=
  match topic with
  | hit => counts.hits
  | expired => counts.expirations
  | invalidated => counts.fallbacks - counts.expirations
  | insert => counts.inserts + counts.reinserts

theorem count_told (topic : Topic) (counts : Counts) :
    topic.count counts.told = topic.count counts := by
  cases topic <;> rfl

theorem metric_injective {left right : Topic} (same : left.metric = right.metric) :
    left = right := by
  cases left <;> cases right <;> first | rfl | exact absurd same (by decide)

/-- A metric of one topic and one cache. -/
theorem increment_count (told topic : Topic) (cache name : String) :
    (Signal.count told.metric cache).increment topic.metric [("cache", name)] =
      if topic = told ∧ name = cache then 1 else 0 := by
  have same : told.metric = topic.metric ↔ topic = told :=
    ⟨fun equal => (metric_injective equal).symm, fun equal => equal ▸ rfl⟩
  simp [Signal.count, Signal.increment, Metric.count, same]

end Topic

namespace ResponseCache

def own (cache : ResponseCache) (name : String) (topic : Topic) : Nat :=
  if name = cache.name then topic.count cache.counts else 0

def Sound (cache : ResponseCache) : Prop := cache.counts.expirations ≤ cache.counts.fallbacks

/-- A cache has become another one, and sent signals that tell all that it counted meanwhile. -/
structure Tells (before after : ResponseCache) (signals : List Signal) : Prop where
  name : after.name = before.name
  sound : before.Sound → after.Sound
  topics : before.Sound → ∀ topic name, after.own name topic =
    before.own name topic + increments signals topic.metric [("cache", name)]
  failures : after.counts.failurePuts =
    before.counts.failurePuts + increments signals "http_cache.failure_put" []
  refusals : ∀ reason, increments signals "http_cache.uncacheable" [("reason", reason)] = 0

variable {cache middle after : ResponseCache} {signals others : List Signal}

theorem Tells.trans (first : cache.Tells middle signals) (second : middle.Tells after others) :
    cache.Tells after (signals ++ others) where
  name := second.name.trans first.name
  sound := second.sound ∘ first.sound
  topics sound topic name := by
    rw [second.topics (first.sound sound), first.topics sound, increments_append, Nat.add_assoc]
  failures := by rw [second.failures, first.failures, increments_append, Nat.add_assoc]
  refusals reason := by rw [increments_append, first.refusals, second.refusals]

def Silent (signals : List Signal) : Prop :=
  (∀ topic : Topic, ∀ name, increments signals topic.metric [("cache", name)] = 0) ∧
    increments signals "http_cache.failure_put" [] = 0 ∧
      ∀ reason, increments signals "http_cache.uncacheable" [("reason", reason)] = 0

/-- A cache that counts nothing that should be told. -/
theorem tells_silent (name : after.name = cache.name)
    (same : after.counts.told = cache.counts.told) (silent : Silent signals) :
    cache.Tells after signals := by
  have expirations : after.counts.told.expirations = cache.counts.told.expirations := by rw [same]
  have fallbacks : after.counts.told.fallbacks = cache.counts.told.fallbacks := by rw [same]
  have failures : after.counts.told.failurePuts = cache.counts.told.failurePuts := by rw [same]
  refine ⟨name, ?_, ?_, ?_, silent.2.2⟩
  · intro sound
    change after.counts.told.expirations ≤ after.counts.told.fallbacks
    rwa [expirations, fallbacks]
  · intro _ topic other
    rw [silent.1, own, own, name, ← topic.count_told, same, topic.count_told, Nat.add_zero]
  · rw [silent.2.1, Nat.add_zero]
    exact failures

theorem tells_nothing (name : after.name = cache.name)
    (same : after.counts.told = cache.counts.told) : cache.Tells after [] :=
  tells_silent name same ⟨fun _ _ => rfl, rfl, fun _ => rfl⟩

/-- A cache that counts one thing and tells of it. -/
theorem tells_one (told : Topic) (change : Counts → Counts)
    (sound : cache.Sound → (cache.countWith change).Sound)
    (counts : cache.Sound → ∀ topic : Topic, topic.count (change cache.counts) =
      topic.count cache.counts + if topic = told then 1 else 0)
    (failures : (change cache.counts).failurePuts = cache.counts.failurePuts) :
    cache.Tells (cache.countWith change) [.count told.metric cache.name] where
  name := rfl
  sound := sound
  topics before topic name := by
    rw [increments_cons, increments_nil, Nat.add_zero, Topic.increment_count]
    by_cases same : name = cache.name
    · simp only [own, countWith, same, if_true, and_true]
      exact counts before topic
    · simp only [own, countWith, same, if_false, and_false]
  failures := by
    cases told <;> exact failures
  refusals reason := by
    cases told <;> simp [Signal.count, Signal.increment, Metric.count, Topic.metric]

theorem tells_invalidated (cache : ResponseCache) (stored : Stored)
    (consulted : List Consultation) :
    cache.Tells (cache.fallBack stored "http_cache.invalidated" consulted).cache
      (cache.fallBack stored "http_cache.invalidated" consulted).signals := by
  refine @tells_one cache .invalidated
    (fun counts => { counts with misses := counts.misses + 1, fallbacks := counts.fallbacks + 1 })
    Nat.le_succ_of_le (fun sound topic => ?_) rfl
  unfold Sound at sound
  cases topic with
  | invalidated => exact Nat.succ_sub sound
  | _ => rfl

theorem tells_expired (cache : ResponseCache) (stored : Stored) (consulted : List Consultation) :
    let seen := cache.countWith fun counts => { counts with expirations := counts.expirations + 1 }
    cache.Tells (seen.fallBack stored "http_cache.expired" consulted).cache
      (seen.fallBack stored "http_cache.expired" consulted).signals := by
  refine @tells_one cache .expired
    (fun counts => { counts with
      expirations := counts.expirations + 1
      misses := counts.misses + 1
      fallbacks := counts.fallbacks + 1 })
    Nat.succ_le_succ (fun sound topic => ?_) rfl
  cases topic with
  | invalidated => exact Nat.add_sub_add_right _ 1 _
  | _ => rfl

theorem silent_unfresh (name : String) : Silent [.count "http_cache.hit_not_fresh" name] := by
  refine ⟨fun topic other => ?_, ?_, fun reason => ?_⟩
  · cases topic <;> simp [Signal.count, Signal.increment, Metric.count, Topic.metric]
  · simp [Signal.count, Signal.increment, Metric.count]
  · simp [Signal.count, Signal.increment, Metric.count]

theorem tells_judge (cache : ResponseCache) (now : Millis) (key : String) (checks : Checks)
    (stored : Stored) :
    cache.Tells (cache.judge now key checks stored).cache
      (cache.judge now key checks stored).signals := by
  unfold judge
  simp only
  split
  · exact tells_nothing rfl rfl
  · split
    · exact tells_expired cache stored []
    · split
      · exact tells_invalidated cache stored _
      · have unfresh : Silent
            (if checks.isFresh stored.head then []
              else [.count "http_cache.hit_not_fresh" cache.name]) := by
          split
          · exact ⟨fun _ _ => rfl, rfl, fun _ => rfl⟩
          · exact silent_unfresh cache.name
        have hit : cache.Tells
            (cache.countWith fun counts => { counts with hits := counts.hits + 1 })
            [.count Topic.hit.metric cache.name] :=
          tells_one .hit _ id (fun _ topic => by cases topic <;> rfl) rfl
        exact (tells_silent rfl rfl unfresh).trans hit

/-- Counting an answer of the layer is nothing that a signal should tell of. -/
theorem tells_resolve (cache : ResponseCache) (now : Millis) (key : String) (checks : Checks)
    (lookup : Lookup) :
    cache.Tells (cache.resolve now key checks lookup).cache
      (cache.resolve now key checks lookup).signals := by
  unfold resolve
  split
  · exact tells_nothing rfl rfl
  · simp only
    split
    · rename_i stored _
      let seen := cache.countWith fun counts =>
        { counts with backendHits := counts.backendHits + 1 }
      have noted : cache.Tells seen [] :=
        tells_nothing rfl rfl
      exact noted.trans (tells_judge seen now key checks stored)
    · exact tells_silent rfl rfl ⟨fun _ _ => rfl, rfl, fun _ => rfl⟩

theorem tells_store (cache : ResponseCache) (stored : Stored) (again : Bool) :
    cache.Tells (cache.store stored again).cache (cache.store stored again).signals := by
  refine @tells_one cache .insert
    (fun counts =>
      if again then { counts with reinserts := counts.reinserts + 1 }
      else { counts with inserts := counts.inserts + 1 })
    ?_ (fun _ topic => ?_) ?_
  · cases again <;> exact id
  · cases again <;> cases topic <;> first | rfl | exact Nat.succ_add _ _
  · cases again <;> rfl

theorem tells_remember {now : Millis} {kind : FailureKind} {write : Write}
    (remembers : cache.remember now kind = some write) :
    cache.Tells write.cache write.signals := by
  unfold remember at remembers
  split at remembers
  · cases remembers
  · split at remembers
    · cases remembers
    · cases remembers
      refine ⟨rfl, id, fun _ topic name => ?_, ?_, fun reason => ?_⟩
      · have other : increments [.metric (.count "http_cache.failure_put" 1 [("kind", kind.name)])]
            topic.metric [("cache", name)] = 0 := by
          cases topic <;> simp [Signal.increment, Metric.count, Topic.metric]
        rw [other]
        cases topic <;> rfl
      · simp [Signal.increment, Metric.count, countWith]
      · simp [Signal.increment, Metric.count]

end ResponseCache

namespace TwoTier

variable {tiers : TwoTier} {key : String}

theorem tells_complete (tiers : TwoTier) (key : String) (earlier outcome : Outcome) :
    let completion := tiers.complete key earlier outcome
    tiers.first.Tells completion.tiers.first completion.signals ∧
      completion.tiers.second = tiers.second := by
  have silent : tiers.first.Tells tiers.first [] :=
    ResponseCache.tells_nothing rfl rfl
  unfold complete
  cases outcome with
  | found stored =>
      cases fits : tiers.fits key stored with
      | true =>
          simp only [fits, if_true]
          exact ⟨tiers.first.tells_store stored _, trivial⟩
      | false =>
          simp only [fits, Bool.false_eq_true, if_false]
          exact ⟨silent, trivial⟩
  | missed failure stale => exact ⟨silent, rfl⟩

end TwoTier

/-! ### All caches of a front -/

def Front.caches : Front → List ResponseCache
  | .single cache _ => [cache]
  | .tiered tiers _ _ => [tiers.first, tiers.second]

structure Reports (names : List String) (refusals : String → Nat) (caches : List ResponseCache)
    (signals : List Signal) : Prop where
  names : caches.map (·.name) = names
  sound : ∀ cache ∈ caches, cache.Sound
  topics : ∀ (topic : Topic) name, increments signals topic.metric [("cache", name)] =
    (caches.map (·.own name topic)).sum
  failures : increments signals "http_cache.failure_put" [] =
    (caches.map (·.counts.failurePuts)).sum
  refusals : ∀ reason, increments signals "http_cache.uncacheable" [("reason", reason)] =
    refusals reason

namespace Reports

variable {names : List String} {refusals : String → Nat} {left right : List ResponseCache}
  {cache after first second : ResponseCache} {sent others signals : List Signal}

/-- One of the caches counts, and tells of it. -/
theorem replace (reports : Reports names refusals (left ++ cache :: right) signals)
    (tells : cache.Tells after sent) :
    Reports names refusals (left ++ after :: right) (sent.reverse ++ signals) where
  names := by
    rw [← reports.names, List.map_append, List.map_append, List.map_cons, List.map_cons, tells.name]
  sound := by
    intro other member
    rcases List.mem_append.mp member with before | later
    · exact reports.sound other (List.mem_append_left _ before)
    · rcases List.mem_cons.mp later with rfl | behind
      · exact tells.sound (reports.sound cache List.mem_append_cons_self)
      · exact reports.sound other (List.mem_append_right _ (List.mem_cons_of_mem _ behind))
  topics topic name := by
    have told := tells.topics (reports.sound cache List.mem_append_cons_self) topic name
    have earlier := reports.topics topic name
    simp only [increments_append, increments_reverse, List.map_append, List.map_cons,
      List.sum_append, List.sum_cons] at earlier ⊢
    omega
  failures := by
    have told := tells.failures
    have earlier := reports.failures
    simp only [increments_append, increments_reverse, List.map_append, List.map_cons,
      List.sum_append, List.sum_cons] at earlier ⊢
    omega
  refusals reason := by
    rw [increments_append, increments_reverse, tells.refusals, Nat.zero_add, reports.refusals]

theorem single (reports : Reports names refusals [cache] signals) (tells : cache.Tells after sent) :
    Reports names refusals [after] (sent.reverse ++ signals) :=
  @replace names refusals [] [] cache after sent signals reports tells

theorem inFirst (reports : Reports names refusals [cache, second] signals)
    (tells : cache.Tells after sent) :
    Reports names refusals [after, second] (sent.reverse ++ signals) :=
  @replace names refusals [] [second] cache after sent signals reports tells

theorem inSecond (reports : Reports names refusals [first, cache] signals)
    (tells : cache.Tells after sent) :
    Reports names refusals [first, after] (sent.reverse ++ signals) :=
  @replace names refusals [first] [] cache after sent signals reports tells

theorem inBoth (reports : Reports names refusals [first, second] signals)
    {firstAfter secondAfter : ResponseCache} (tells : first.Tells firstAfter sent)
    (tellsSecond : second.Tells secondAfter others) :
    Reports names refusals [firstAfter, secondAfter] ((sent ++ others).reverse ++ signals) ∧
      Reports names refusals [firstAfter, secondAfter] ((others ++ sent).reverse ++ signals) := by
  rw [List.reverse_append, List.append_assoc, List.reverse_append, List.append_assoc]
  exact ⟨(reports.inFirst tells).inSecond tellsSecond, (reports.inSecond tellsSecond).inFirst tells⟩

/-- Both tiers change, but count nothing that should be told. -/
theorem still (reports : Reports names refusals [first, second] signals)
    {firstAfter secondAfter : ResponseCache}
    (same : firstAfter.name = first.name ∧ firstAfter.counts.told = first.counts.told)
    (sameSecond : secondAfter.name = second.name ∧ secondAfter.counts.told = second.counts.told) :
    Reports names refusals [firstAfter, secondAfter] signals :=
  (reports.inBoth (ResponseCache.tells_nothing same.1 same.2)
    (ResponseCache.tells_nothing sameSecond.1 sameSecond.2)).1

/-- A refusal is told, and nothing else. -/
theorem refuse (reports : Reports names refusals left signals) (key : String) (reason : Refusal) :
    Reports names (fun name => (if reason.name = name then 1 else 0) + refusals name) left
      ((ResponseCache.refused key reason).reverse ++ signals) where
  names := reports.names
  sound := reports.sound
  topics topic name := by
    have other :
        increments (ResponseCache.refused key reason) topic.metric [("cache", name)] = 0 := by
      cases topic <;>
        simp [ResponseCache.refused, Signal.increment, Metric.count, Topic.metric]
    rw [increments_append, increments_reverse, other, Nat.zero_add, reports.topics]
  failures := by
    have other : increments (ResponseCache.refused key reason) "http_cache.failure_put" [] = 0 := by
      simp [ResponseCache.refused, Signal.increment, Metric.count]
    rw [increments_append, increments_reverse, other, Nat.zero_add, reports.failures]
  refusals name := by
    have own : increments (ResponseCache.refused key reason) "http_cache.uncacheable"
        [("reason", name)] = if reason.name = name then 1 else 0 := by
      simp [ResponseCache.refused, Signal.increment, Metric.count, eq_comm]
    rw [increments_append, increments_reverse, own, reports.refusals]

end Reports

theorem ResponseCache.tells_unless {cache : ResponseCache} {now : Millis} {kind : FailureKind} :
    cache.Tells ((cache.remember now kind).elim cache (·.cache))
      ((cache.remember now kind).elim [] (·.signals)) := by
  cases remembers : cache.remember now kind with
  | none => exact tells_nothing rfl rfl
  | some write => exact tells_remember remembers

theorem TwoTier.reports_store {names : List String} {refusals : String → Nat} {tiers : TwoTier}
    {signals : List Signal} (reports : Reports names refusals [tiers.first, tiers.second] signals)
    (key : String) (stored : Stored) :
    let write := tiers.store key stored
    Reports names refusals [write.tiers.first, write.tiers.second]
      (write.signals.reverse ++ signals) := by
  unfold TwoTier.store
  simp only
  split
  · exact (reports.inBoth (tiers.first.tells_store stored false)
      (tiers.second.tells_store stored false)).2
  · exact reports.inSecond (tiers.second.tells_store stored false)

namespace Desk

def refusals (receipts : List Receipt) (reason : String) : Nat :=
  receipts.countP (·.refusal.any (·.name = reason))

def toldRefusals (tiered : Bool) (receipts : List Receipt) (reason : String) : Nat :=
  if tiered then 0 else refusals receipts reason

theorem toldRefusals_accepted {receipt : Option Receipt}
    (accepted : ∀ put ∈ receipt, put.refusal = none) (tiered : Bool) (receipts : List Receipt) :
    toldRefusals tiered (receipt.toList ++ receipts) = toldRefusals tiered receipts := by
  cases receipt with
  | none => rfl
  | some put =>
      funext reason
      have kept := accepted put rfl
      simp [toldRefusals, refusals, kept]

def Told (names : List String) (receipts : List Receipt) (desk : Desk) (_ : List Job) : Prop :=
  Reports names (toldRefusals desk.front.isTiered receipts) desk.front.caches desk.signals

variable {names : List String} {receipts : List Receipt} {desk next : Desk} {now : Millis}
  {job : Job} {rest more jobs : List Job} {receipt : Option Receipt}

theorem told_begins (told : Told names receipts desk [])
    (begins : desk.Begins now receipt next jobs) :
    Told names (receipt.toList ++ receipts) next jobs := by
  unfold Told at told ⊢
  rw [begins.isTiered]
  cases begins with
  | rest | find => exact told
  | refuse key reason front fits =>
      have grown : toldRefusals false (⟨some reason, fits⟩ :: receipts) =
          fun name => (if reason.name = name then 1 else 0) + toldRefusals false receipts name := by
        funext name
        simp [toldRefusals, refusals, List.countP_cons, Nat.add_comm]
      rw [front] at told ⊢
      exact grown ▸ told.refuse key reason
  | refuseTiered reason front fits =>
      rw [front] at told ⊢
      exact told
  | store key front accepted writes =>
      rw [toldRefusals_accepted accepted]
      rw [front] at told ⊢
      subst writes
      exact told.single (ResponseCache.tells_store _ _ _)
  | storeTiered key front writes =>
      rw [front] at told ⊢
      subst writes
      exact TwoTier.reports_store told key _
  | delete key front | ignore front | change rules front =>
      rw [front] at told ⊢
      exact told.single (ResponseCache.tells_nothing rfl rfl)
  | remember key kind front writes =>
      rw [front] at told ⊢
      exact told.single (ResponseCache.tells_remember writes)
  | deleteTiered key front | ignoreTiered front | changeTiered limit rules front =>
      rw [front] at told ⊢
      exact told.still ⟨rfl, rfl⟩ ⟨rfl, rfl⟩
  | rememberTiered key kind front writes =>
      rw [front] at told ⊢
      subst writes
      exact (told.inBoth ResponseCache.tells_unless ResponseCache.tells_unless).1

theorem told_does (told : Told names receipts desk (job :: rest))
    (does : desk.Does now job next more) : Told names receipts next (more ++ rest) := by
  unfold Told at told ⊢
  rw [does.isTiered]
  cases does with
  | aside | enter | ask | wait | answer | pass | tell => exact told
  | resolve front resolves ends =>
      rw [front] at told ⊢
      subst resolves
      exact told.single (ResponseCache.tells_resolve _ _ _ _ _)
  | resolveFirst front resolves ends =>
      rw [front] at told ⊢
      subst resolves
      exact told.inFirst (ResponseCache.tells_resolve _ _ _ _ _)
  | resolveSecond front resolves ends =>
      rw [front] at told ⊢
      subst resolves
      exact told.inSecond (ResponseCache.tells_resolve _ _ _ _ _)
  | serve key hooks front found ends =>
      rw [front] at told ⊢
      exact told
  | @complete tiers _ _ _ _ key earlier outcome front completes ends =>
      obtain ⟨tells, same⟩ := tiers.tells_complete key earlier outcome
      rw [front] at told ⊢
      subst completes
      have counted := told.inFirst tells
      rw [← same] at counted
      exact counted

theorem told_lasting (names : List String) : Lasting (Told names) where
  begins := told_begins
  does := told_does
  answers _ told _ := told

end Desk

/-! ### Runs -/

theorem ResponseCache.own_of_ne {cache : ResponseCache} {name : String} (other : cache.name ≠ name)
    (topic : Topic) : cache.own name topic = 0 := if_neg other.symm

/-- Caches of different names do not mix what they count. -/
theorem ResponseCache.sum_own {caches : List ResponseCache} {cache : ResponseCache}
    (distinct : (caches.map (·.name)).Nodup) (member : cache ∈ caches) (topic : Topic) :
    (caches.map (·.own cache.name topic)).sum = topic.count cache.counts := by
  obtain ⟨left, right, rfl⟩ := List.append_of_mem member
  have silent {others : List ResponseCache}
      (apart : ∀ other ∈ others, other.name ≠ cache.name) :
      (others.map (·.own cache.name topic)).sum = 0 := by
    refine List.sum_eq_zero fun count counted => ?_
    obtain ⟨other, inside, rfl⟩ := List.mem_map.mp counted
    exact own_of_ne (apart other inside) topic
  rw [List.map_append, List.map_cons] at distinct
  obtain ⟨-, rest, apart⟩ := List.nodup_append.mp distinct
  have before : ∀ other ∈ left, other.name ≠ cache.name := fun other inside =>
    apart _ (List.mem_map_of_mem inside) _ List.mem_cons_self
  have behind : ∀ other ∈ right, other.name ≠ cache.name := fun other inside same =>
    (List.nodup_cons.mp rest).1 (same ▸ List.mem_map_of_mem inside)
  rw [List.map_append, List.map_cons, List.sum_append, List.sum_cons, silent before, silent behind,
    own, if_pos rfl, Nat.zero_add, Nat.add_zero]

namespace Usage

theorem names_distinct (opening : Opening) :
    (opening.front.caches.map (·.name)).Nodup := by
  cases opening with
  | single name policy layer => simp [Opening.front, Front.caches]
  | tiered policy limit first second => simp [Opening.front, Front.caches, TwoTier.ofPolicy]

theorem counts_opened (opening : Opening) : ∀ cache ∈ opening.front.caches, cache.counts = {} := by
  cases opening with
  | single name policy layer => simp [Opening.front, Front.caches]
  | tiered policy limit first second => simp [Opening.front, Front.caches, TwoTier.ofPolicy]

theorem told_opened (opening : Opening) :
    Desk.Told (opening.front.caches.map (·.name)) [] { front := opening.front } [] where
  names := rfl
  sound cache member := by
    simp only [ResponseCache.Sound, counts_opened opening cache member, Nat.le_refl]
  topics topic name := by
    refine (List.sum_eq_zero fun count counted => ?_).symm
    obtain ⟨cache, member, rfl⟩ := List.mem_map.mp counted
    rw [ResponseCache.own, counts_opened opening cache member]
    cases topic <;> exact ite_self 0
  failures := by cases opening <;> rfl
  refusals reason := by cases opening <;> rfl

/-- Whatever is done with a front, and whatever its layers answer: the metrics of each of its caches
add up to what that cache has counted. Refusals are told too, for each reason, if there is a single
cache; two tiers tell of none. -/
theorem signals_tell_counts (opening : Opening) (now : Millis) (occurrences : List Occurrence) :
    let usage := (opened opening now).run occurrences
    let signals := usage.depot.session.stack.signals
    ∃ front, usage.depot.session.fronts = [front] ∧
      front.caches.map (·.name) = opening.front.caches.map (·.name) ∧
      (∀ cache ∈ front.caches,
        increments signals "http_cache.hit" [("cache", cache.name)] = cache.counts.hits ∧
        increments signals "http_cache.expired" [("cache", cache.name)] =
          cache.counts.expirations ∧
        increments signals "http_cache.invalidated" [("cache", cache.name)] =
          cache.counts.fallbacks - cache.counts.expirations ∧
        cache.counts.expirations ≤ cache.counts.fallbacks ∧
        increments signals "http_cache.insert" [("cache", cache.name)] =
          cache.counts.inserts + cache.counts.reinserts) ∧
      increments signals "http_cache.failure_put" [] =
        (front.caches.map (·.counts.failurePuts)).sum ∧
      ∀ reason, increments signals "http_cache.uncacheable" [("reason", reason)] =
          usage.refused reason ↔
        opening.front.isTiered = false ∨ usage.refused reason = 0 := by
  intro usage signals
  obtain ⟨desk, shows, kind, told⟩ :=
    run_lasting (Desk.told_lasting _) opening (told_opened opening) now occurrences
  have sent : signals = desk.signals := shows.signals
  rw [sent]
  refine ⟨desk.front, shows.fronts, told.names, fun cache member => ?_, told.failures,
    fun reason => ?_⟩
  -- Here the names are different, so what is told under one is what that cache counts.
  · have each (topic : Topic) : increments desk.signals topic.metric [("cache", cache.name)] =
        topic.count cache.counts :=
      (told.topics topic cache.name).trans
        (ResponseCache.sum_own (told.names ▸ names_distinct opening) member topic)
    exact ⟨each .hit, each .expired, each .invalidated, told.sound cache member, each .insert⟩
  · rw [told.refusals, kind]
    cases opening.front.isTiered with
    | false => exact ⟨fun _ => .inl rfl, fun _ => rfl⟩
    | true =>
        constructor
        · exact fun same => .inr same.symm
        · rintro (single | none)
          · cases single
          · exact none.symm

private def foundAndRefused : List Occurrence :=
  [.stir (fun _ _ => none) (fun _ => false) [],
    .use (.put "k" ((Head.ofStatus 200).add "Cache-Control" "max-age=300") [1]),
    .use (.put "k" (Head.ofStatus 0) [2]), .use (.find "k" {})]

theorem signals_tell_counts_of_single :
    let usage := (opened (.single "memory" {} 0) 0).run foundAndRefused
    let signals := usage.depot.session.stack.signals
    usage.refused "missing_status" = 1 ∧
      increments signals "http_cache.hit" [("cache", "memory")] = 1 ∧
      ∃ front, usage.depot.session.fronts = [front] ∧ ∀ cache ∈ front.caches,
        increments signals "http_cache.hit" [("cache", cache.name)] = cache.counts.hits := by
  obtain ⟨front, fronts, -, each, -⟩ :=
    signals_tell_counts (.single "memory" {} 0) 0 foundAndRefused
  exact ⟨by decide +kernel, by decide +kernel, front, fronts, fun cache member => (each cache member).1⟩

/-- A response that a front of two tiers must not store, of which no metric tells. -/
theorem refusal_untold :
    let forbidden : Head := (Head.ofStatus 200).add "Cache-Control" "no-store"
    let usage := (opened (.tiered {} none 0 1) 0).run [.use (.put "k" forbidden [0x76])]
    let signals := usage.depot.session.stack.signals
    increments signals "http_cache.uncacheable" [("reason", "forbidden")] = 0 ∧
      usage.refused "forbidden" = 1 := by
  decide +kernel

end Usage

end TieredCache
