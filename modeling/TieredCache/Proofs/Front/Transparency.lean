import TieredCache.Proofs.Front.ReadBack

/-!
A first tier without a limit only makes lookups faster: whatever it loses, all replies are those of
the second tier used alone. Main statement: `transparent`. A run of two tiers is followed by a run of
one cache, with the relation `Follows` between them after every operation.
-/

namespace TieredCache

/-! ### Caches under the same rules -/

namespace ResponseCache

structure Agree (left right : ResponseCache) : Prop where
  policy : left.policy = right.policy
  ignoresFailures : left.ignoresFailures = right.ignoresFailures

variable {left right : ResponseCache} {now : Millis} {key : String} {kind : FailureKind}

theorem Agree.prepare (agree : Agree left right) (head : Head) (body : Bytes) :
    left.prepare now key head body = right.prepare now key head body := by
  unfold ResponseCache.prepare
  rw [agree.policy]

theorem Agree.sentinel (agree : Agree left right) :
    left.sentinel now kind = right.sentinel now kind := by
  unfold ResponseCache.sentinel remember
  rw [agree.policy, agree.ignoresFailures]
  split
  · rfl
  · split <;> rfl

theorem size_prepare {cache : ResponseCache} {head : Head} {body : Bytes} {stored : Stored}
    (prepared : cache.prepare now key head body = .ok stored) :
    stored.size < body.length + (Stored.frameLength + 0x100000000) := by
  obtain ⟨_, _, encodes⟩ := encode_of_prepare prepared
  exact Stored.size_encode encodes

theorem length_sentinel {cache : ResponseCache} {content : Bytes}
    (remembered : cache.sentinel now kind = some content) :
    content.length < Stored.frameLength + 0x100000000 := by
  unfold ResponseCache.sentinel remember at remembered
  split at remembered
  · cases remembered
  · split at remembered
    · cases remembered
    · rename_i stored encodes
      cases remembered
      have size := Stored.size_encode encodes
      rwa [List.length_nil, Nat.zero_add] at size

end ResponseCache

namespace TwoTier

structure Agree (tiers : TwoTier) (cache : ResponseCache) : Prop where
  first : tiers.first.Agree cache
  second : tiers.second.Agree cache
  limit : tiers.limit = none

theorem join_self (outcome : Outcome) : join outcome outcome = outcome := by
  cases outcome with
  | found response => rfl
  | missed failure stale =>
      cases failure <;> cases stale <;>
        simp [join, Outcome.combine, Outcome.freshest, Outcome.failure?, Outcome.stale?]

theorem join_notFound (outcome : Outcome) : join .notFound outcome = outcome := by
  cases outcome with
  | found response => rfl
  | missed failure stale =>
      cases failure <;> cases stale <;>
        simp [join, Outcome.notFound, Outcome.combine, Outcome.freshest, Outcome.failure?,
          Outcome.stale?]

end TwoTier

namespace Operation

/-- Whether an operation leaves the first tier without a limit. -/
def leavesUnlimited : Operation → Bool
  | change changes => FrontChange.limitAfter changes none = none
  | _ => true

/-- Whether what an operation writes can be addressed, together with its key, as all that is in
memory at one time can. -/
def isAddressable : Operation → Bool
  | put key _ body => key.utf8ByteSize + body.length < 0x8000000000000000
  | remember key _ => key.utf8ByteSize < 0x8000000000000000
  | _ => true

end Operation

/-! ### Layers with the same content -/

namespace Depot

variable {tiered single : Depot} {index first second : Nat} {key : String}

def Fits (key : String) (entry : Option Bytes) : Prop :=
  ∀ content, entry = some content → key.utf8ByteSize + content.length < 0xFFFFFFFFFFFFFFFF

theorem fits_none (key : String) : Fits key none := by
  intro content held
  cases held

theorem fits_some {content : Bytes} (size : key.utf8ByteSize + content.length < 0xFFFFFFFFFFFFFFFF) :
    Fits key (some content) := by
  intro other held
  cases held
  exact size

/-- The second tier holds what the single cache holds, and the first tier a part of it. -/
structure Shelved (first second : Nat) (tiered single : Depot) : Prop where
  far : tiered.shelves second = single.shelves second
  near : Within (tiered.shelves first) (single.shelves second)
  fits : ∀ key, Fits key (single.shelves second key)
  keeps : tiered.Keeps second
  kept : single.losses = []
  quick : tiered.slow first = false ∧ tiered.slow second = false ∧ single.slow second = false

theorem Shelved.with_sessions (shelved : Shelved first second tiered single)
    (left right : Session) :
    Shelved first second { tiered with session := left } { single with session := right } :=
  ⟨shelved.far, shelved.near, shelved.fits, shelved.keeps, shelved.kept, shelved.quick⟩

theorem Shelved.lose (shelved : Shelved first second tiered single) :
    Shelved first second tiered.lose single where
  far := shelved.keeps.shelves_lose.trans shelved.far
  near := (within_lose tiered first).trans shelved.near
  fits := shelved.fits
  keeps := shelved.keeps.lose
  kept := shelved.kept
  quick := by rw [slow_lose]; exact shelved.quick

/-- What the second tier holds anyway may be put into the first. -/
theorem Shelved.restore (shelved : Shelved first second tiered single) (apart : first ≠ second)
    {content : Bytes} (held : single.shelves second key = some content) :
    Shelved first second (tiered.lose.fill first key (some content)) single where
  far := by
    rw [shelves_fill_of_ne _ apart.symm]
    exact shelved.lose.far
  near := by
    rw [shelves_fill_self]
    exact shelved.lose.near.restore held
  fits := shelved.fits
  keeps := shelved.lose.keeps
  kept := shelved.kept
  quick := shelved.lose.quick

theorem Shelved.fill_single (shelved : Shelved first second tiered single) {entry : Option Bytes}
    (fits : Fits key entry) {after : Depot}
    (far : after.shelves second = Function.update (tiered.shelves second) key entry)
    (near : Within (after.shelves first) (Function.update (tiered.shelves first) key entry))
    (keeps : after.Keeps second) (slow : after.slow = tiered.slow) :
    Shelved first second after (single.lose.fill second key entry) := by
  rw [lose_of_nil shelved.kept]
  have filled := shelves_fill_self single second key entry
  refine ⟨?_, ?_, ?_, keeps, shelved.kept, ?_⟩
  · rw [filled, far, shelved.far]
  · rw [filled]
    exact near.trans (shelved.near.update key entry)
  · intro name
    rw [filled]
    by_cases same : name = key
    · subst same
      rw [Function.update_self]
      exact fits
    · rw [Function.update_of_ne same]
      exact shelved.fits name
  · rw [slow]
    exact shelved.quick

/-- Both tiers get or lose the entry. In between the first one may hold it alone. -/
theorem Shelved.fill_both (shelved : Shelved first second tiered single) (apart : first ≠ second)
    {entry : Option Bytes} (fits : Fits key entry) :
    Shelved first second ((tiered.lose.fill first key entry).lose.fill second key entry)
      (single.lose.fill second key entry) := by
  have keeps : (tiered.lose.fill first key entry).Keeps second := shelved.lose.keeps
  refine shelved.fill_single fits ?_ ?_ keeps.lose ?_
  · rw [shelves_fill_self, keeps.shelves_lose, shelves_fill_of_ne _ apart.symm,
      shelved.keeps.shelves_lose]
  · rw [shelves_fill_of_ne _ apart]
    refine (within_lose _ first).trans ?_
    rw [shelves_fill_self]
    exact (within_lose tiered first).update key entry
  · exact (slow_lose _).trans (slow_lose tiered)

theorem Shelved.fill_both_back (shelved : Shelved first second tiered single)
    (apart : first ≠ second) {entry : Option Bytes} (fits : Fits key entry) :
    Shelved first second ((tiered.lose.fill second key entry).lose.fill first key entry)
      (single.lose.fill second key entry) := by
  have keeps : (tiered.lose.fill second key entry).Keeps second := shelved.lose.keeps
  refine shelved.fill_single fits ?_ ?_ keeps.lose ?_
  · rw [shelves_fill_of_ne _ apart.symm, keeps.shelves_lose, shelves_fill_self,
      shelved.keeps.shelves_lose]
  · rw [shelves_fill_self]
    refine Within.update ?_ key entry
    refine (within_lose _ first).trans ?_
    rw [shelves_fill_of_ne _ apart]
    exact within_lose tiered first
  · exact (slow_lose _).trans (slow_lose tiered)

/-! ### Runs -/

/-- A front of two tiers without a limit, over two layers that lose what they are told to. -/
def openedLossy (policy : Policy) (now : Millis) (losses : List (Nat → String → Bool)) : Depot :=
  { opened policy none now with losses }

/-- A cache of its own over the second layer. -/
def openedSingle (name : String) (policy : Policy) (now : Millis) : Depot where
  session := { stack := { layers := [], now }, fronts := [.single { name, policy } 1] }

def replies (depot : Depot) (index : Nat) : List Operation → List Reply
  | [] => []
  | operation :: rest =>
      (depot.operate index operation).2 :: (depot.operate index operation).1.replies index rest

def operates (depot : Depot) (index : Nat) (operations : List Operation) : Depot :=
  operations.foldl (fun depot operation => (depot.operate index operation).1) depot

/-- A run of two tiers and one of a single cache that have come equally far. -/
structure Follows (index first second : Nat) (tiered single : Depot) : Prop
    extends Shelved first second tiered single where
  now : tiered.session.now = single.session.now
  fronts : ∃ tiers cache, tiered.session.bare.front? index = some (.tiered tiers first second) ∧
    single.session.bare.front? index = some (.single cache second) ∧ tiers.Agree cache

structure Matches (index first second : Nat) (tiered single : Depot) (operation : Operation) :
    Prop where
  same : (tiered.operate index operation).2 = (single.operate index operation).2
  prompt : (single.operate index operation).2 ≠ .pending
  follows : Follows index first second (tiered.operate index operation).1
    (single.operate index operation).1

theorem Matches.of_ran {operation : Operation} {left right : Depot} {reply : Reply}
    (ran : tiered.operate index operation = (left, reply))
    (ranSingle : single.operate index operation = (right, reply)) (prompt : reply ≠ .pending)
    (follows : Follows index first second left right) :
    Matches index first second tiered single operation where
  same := (congrArg Prod.snd ran).trans (congrArg Prod.snd ranSingle).symm
  prompt := by
    rw [ranSingle]
    exact prompt
  follows := by
    rw [ran, ranSingle]
    exact follows

theorem Shelved.follows (shelved : Shelved first second tiered single)
    {left right keptLeft keptRight : Session} {tiers : TwoTier} {cache : ResponseCache}
    (sameLeft : left.bare = keptLeft) (sameRight : right.bare = keptRight)
    (now : keptLeft.now = keptRight.now)
    (front : keptLeft.front? index = some (.tiered tiers first second))
    (alone : keptRight.front? index = some (.single cache second)) (agree : tiers.Agree cache) :
    Follows index first second { tiered with session := left }
      { single with session := right } := by
  subst sameLeft sameRight
  exact { shelved.with_sessions left right with now, fronts := ⟨tiers, cache, front, alone, agree⟩ }

/-- The first tier yields what the second one holds, or nothing. -/
private theorem Follows.verdict_first (follows : Follows index first second tiered single)
    (policy : Policy) (now : Millis) (checks : Checks) :
    ResponseCache.verdict policy now key checks (tiered.lose.shelves first key) =
        ResponseCache.verdict policy now key checks (single.shelves second key) ∨
      ResponseCache.verdict policy now key checks (tiered.lose.shelves first key) = .notFound := by
  cases held : tiered.lose.shelves first key with
  | none => exact .inr rfl
  | some content =>
      rw [follows.near key content (within_lose tiered first key content held)]
      exact .inl rfl

private theorem Follows.find (follows : Follows index first second tiered single)
    (apart : first ≠ second) (key : String) (hooks : Hooks) :
    Matches index first second tiered single (.find key hooks) := by
  obtain ⟨tiers, cache, front, alone, agree⟩ := follows.fronts
  obtain ⟨quick, quickSecond, quickSingle⟩ := follows.quick
  have still := lose_of_nil follows.kept
  generalize judged : ResponseCache.verdict cache.policy single.session.now key hooks.checks
    (single.shelves second key) = outcome
  have judgedSingle := judged
  rw [← congrArg shelves still] at judgedSingle
  obtain ⟨right, sameRight, ranSingle⟩ := operate_find_single alone quickSingle judgedSingle
  rw [still] at ranSingle
  generalize judgedFirst : ResponseCache.verdict tiers.first.policy tiered.session.now key
    hooks.checks (tiered.lose.shelves first key) = earlier
  have earlierIs : earlier = outcome ∨ earlier = .notFound := by
    subst judgedFirst judged
    rw [agree.first.policy, follows.now]
    exact follows.verdict_first _ _ _
  have joined : TwoTier.join earlier outcome = outcome := by
    rcases earlierIs with rfl | rfl
    · exact TwoTier.join_self _
    · exact TwoTier.join_notFound _
  cases found : earlier.isFound with
  | true =>
      obtain ⟨left, sameLeft, ran⟩ := operate_find_first front quick judgedFirst found
      have same : earlier = outcome := by
        rcases earlierIs with same | rfl
        · exact same
        · cases found
      rw [same] at ran
      exact .of_ran ran ranSingle Reply.noConfusion
        (follows.lose.follows sameLeft sameRight follows.now front alone agree)
  | false =>
      have judgedSecond : ResponseCache.verdict tiers.second.policy tiered.session.now key
          hooks.checks (tiered.lose.lose.shelves second key) = outcome := by
        rw [follows.lose.lose.far, agree.second.policy, follows.now]
        exact judged
      obtain ⟨left, sameLeft, ran⟩ :=
        operate_find_both front quick quickSecond judgedFirst found judgedSecond
      rw [joined] at ran
      have backfilled : Shelved first second
          (tiered.lose.lose.write first key (tiers.backfill key outcome)) single := by
        cases written : tiers.backfill key outcome with
        | none => exact follows.lose.lose
        | some content =>
            obtain ⟨stored, rfl, _, rfl⟩ := TwoTier.backfill_eq_some.mp written
            exact follows.lose.lose.restore apart (ResponseCache.encoded_of_found judged).1
      exact .of_ran ran ranSingle Reply.noConfusion
        (backfilled.follows sameLeft sameRight follows.now front alone agree)

private theorem Follows.put (follows : Follows index first second tiered single)
    (apart : first ≠ second) (key : String) (head : Head) (body : Bytes)
    (addressable : key.utf8ByteSize + body.length < 0x8000000000000000) :
    Matches index first second tiered single (.put key head body) := by
  obtain ⟨tiers, cache, front, alone, agree⟩ := follows.fronts
  have alike : tiers.second.prepare tiered.session.now key head body =
      cache.prepare single.session.now key head body := by
    rw [agree.second.prepare, follows.now]
  cases prepared : cache.prepare single.session.now key head body with
  | error reason =>
      obtain ⟨left, sameLeft, ran⟩ := operate_put_refused front (alike.trans prepared)
      obtain ⟨right, sameRight, ranSingle⟩ := operate_put_refused_single alone prepared
      exact .of_ran ran ranSingle Reply.noConfusion
        (follows.toShelved.follows sameLeft sameRight follows.now front alone agree)
  | ok stored =>
      obtain ⟨left, sameLeft, ran⟩ := operate_put_stored front (alike.trans prepared)
      obtain ⟨right, sameRight, ranSingle⟩ := operate_put_stored_single alone prepared
      have size : key.utf8ByteSize + stored.size < 0xFFFFFFFFFFFFFFFF := by
        have bound := ResponseCache.size_prepare prepared
        simp only [Stored.frameLength] at bound
        omega
      have fits : tiers.fits key stored = true := by
        rw [TwoTier.fits, agree.limit]
        exact decide_eq_true size
      have backfill : tiers.backfill key (.found stored) = some stored.encoded := if_pos fits
      have filled := follows.fill_both_back apart (fits_some size)
      rw [backfill] at ran
      exact .of_ran ran ranSingle Reply.noConfusion
        (filled.follows sameLeft sameRight follows.now front alone agree)

private theorem Follows.delete (follows : Follows index first second tiered single)
    (apart : first ≠ second) (key : String) :
    Matches index first second tiered single (.delete key) := by
  obtain ⟨tiers, cache, front, alone, agree⟩ := follows.fronts
  obtain ⟨left, sameLeft, ran⟩ := @operate_delete tiered index tiers first second key front
  obtain ⟨right, sameRight, ranSingle⟩ := @operate_delete_single single index cache second key alone
  have filled : Shelved first second ((tiered.remove first key).remove second key)
      (single.remove second key) :=
    follows.fill_both apart (fits_none key)
  exact .of_ran ran ranSingle Reply.noConfusion
    (filled.follows sameLeft sameRight follows.now front alone agree)

private theorem Follows.remember (follows : Follows index first second tiered single)
    (apart : first ≠ second) (key : String) (kind : FailureKind)
    (addressable : key.utf8ByteSize < 0x8000000000000000) :
    Matches index first second tiered single (.remember key kind) := by
  obtain ⟨tiers, cache, front, alone, agree⟩ := follows.fronts
  obtain ⟨left, sameLeft, ran⟩ := @operate_remember tiered index tiers first second key front kind
  obtain ⟨right, sameRight, ranSingle⟩ :=
    @operate_remember_single single index cache second key alone kind
  rw [agree.first.sentinel, agree.second.sentinel, follows.now] at ran
  cases remembered : cache.sentinel single.session.now kind with
  | none =>
      rw [remembered] at ran ranSingle
      exact .of_ran ran ranSingle Reply.noConfusion
        (follows.toShelved.follows sameLeft sameRight follows.now front alone agree)
  | some content =>
      have size : key.utf8ByteSize + content.length < 0xFFFFFFFFFFFFFFFF := by
        have bound := ResponseCache.length_sentinel remembered
        simp only [Stored.frameLength] at bound
        omega
      have filled := follows.fill_both apart (fits_some size)
      rw [remembered] at ran ranSingle
      exact .of_ran ran ranSingle Reply.noConfusion
        (filled.follows sameLeft sameRight follows.now front alone agree)

private theorem Follows.ignoreFailures (follows : Follows index first second tiered single) :
    Matches index first second tiered single .ignoreFailures := by
  obtain ⟨tiers, cache, front, alone, agree⟩ := follows.fronts
  obtain ⟨left, sameLeft, ran⟩ := operate_ignoreFailures front
  obtain ⟨right, sameRight, ranSingle⟩ := operate_ignoreFailures_single alone
  have ignoring : tiers.ignoreFailures.Agree cache.ignoreFailures :=
    ⟨⟨agree.first.policy, rfl⟩, ⟨agree.second.policy, rfl⟩, agree.limit⟩
  exact .of_ran ran ranSingle Reply.noConfusion (follows.toShelved.follows sameLeft sameRight
    follows.now (Session.front?_setFront front _) (Session.front?_setFront alone _) ignoring)

private theorem Follows.change (follows : Follows index first second tiered single)
    (changes : List FrontChange) (unlimited : FrontChange.limitAfter changes none = none) :
    Matches index first second tiered single (.change changes) := by
  obtain ⟨tiers, cache, front, alone, agree⟩ := follows.fronts
  obtain ⟨left, sameLeft, ran⟩ := operate_change front changes
  obtain ⟨right, sameRight, ranSingle⟩ := operate_change_single alone changes
  have changed : ({ tiers with limit := FrontChange.limitAfter changes tiers.limit }.changePolicy
      (FrontChange.applyAll changes)).Agree
        (cache.changePolicy (FrontChange.applyAll changes)) := by
    refine ⟨⟨?_, agree.first.ignoresFailures⟩, ⟨?_, agree.second.ignoresFailures⟩, ?_⟩
    · exact congrArg (FrontChange.applyAll changes) agree.first.policy
    · exact congrArg (FrontChange.applyAll changes) agree.second.policy
    · exact (congrArg (FrontChange.limitAfter changes) agree.limit).trans unlimited
  exact .of_ran ran ranSingle Reply.noConfusion (follows.toShelved.follows sameLeft sameRight
    follows.now (Session.front?_setFront front _) (Session.front?_setFront alone _) changed)

private theorem Follows.atTime (follows : Follows index first second tiered single)
    (now : Millis) :
    Follows index first second { tiered with session := atTime tiered.session now }
      { single with session := atTime single.session now } := by
  obtain ⟨tiers, cache, front, alone, agree⟩ := follows.fronts
  exact follows.toShelved.follows rfl rfl rfl front alone agree

/-- Whatever is done to both, the replies are the same and they stay equally far. -/
theorem Follows.operate (follows : Follows index first second tiered single)
    (apart : first ≠ second) (operation : Operation)
    (unlimited : operation.leavesUnlimited = true) (addressable : operation.isAddressable = true) :
    Matches index first second tiered single operation := by
  cases operation with
  | put key head body => exact follows.put apart key head body (of_decide_eq_true addressable)
  | find key hooks => exact follows.find apart key hooks
  | delete key => exact follows.delete apart key
  | remember key kind => exact follows.remember apart key kind (of_decide_eq_true addressable)
  | ignoreFailures => exact follows.ignoreFailures
  | change changes => exact follows.change changes (of_decide_eq_true unlimited)
  | advance span =>
      have ran := operate_advance tiered index span
      rw [follows.now] at ran
      exact .of_ran ran (operate_advance single index span) Reply.noConfusion (follows.atTime _)
  | setTime time =>
      exact .of_ran (operate_setTime tiered index time) (operate_setTime single index time)
        Reply.noConfusion (follows.atTime time)

theorem Follows.operates (follows : Follows index first second tiered single)
    (apart : first ≠ second) {operations : List Operation}
    (unlimited : ∀ operation ∈ operations, operation.leavesUnlimited = true)
    (addressable : ∀ operation ∈ operations, operation.isAddressable = true) :
    tiered.replies index operations = single.replies index operations ∧
      .pending ∉ single.replies index operations ∧
      Follows index first second (tiered.operates index operations)
        (single.operates index operations) := by
  induction operations generalizing tiered single with
  | nil => exact ⟨rfl, List.not_mem_nil, follows⟩
  | cons operation rest ih =>
      obtain ⟨same, prompt, next⟩ := follows.operate apart operation
        (unlimited _ List.mem_cons_self) (addressable _ List.mem_cons_self)
      obtain ⟨sameRest, promptRest, last⟩ := ih next
        (fun other member => unlimited other (List.mem_cons_of_mem _ member))
        (fun other member => addressable other (List.mem_cons_of_mem _ member))
      exact ⟨List.cons_eq_cons.mpr ⟨same, sameRest⟩,
        List.not_mem_cons_of_ne_of_not_mem prompt.symm promptRest, last⟩

/-- Whatever the first of two tiers loses, the replies are those of a cache over the second layer
alone, and that layer holds the same. The tiers have no limit, and all that is written can be
addressed. -/
theorem transparent (name : String) (policy : Policy) (now : Millis)
    (losses : List (Nat → String → Bool)) (kept : ∀ loss ∈ losses, ∀ key, loss 1 key = false)
    (operations : List Operation)
    (unlimited : ∀ operation ∈ operations, operation.leavesUnlimited = true)
    (addressable : ∀ operation ∈ operations, operation.isAddressable = true) :
    let tiered := openedLossy policy now losses
    let single := openedSingle name policy now
    tiered.replies 0 operations = single.replies 0 operations ∧
      .pending ∉ single.replies 0 operations ∧
      (tiered.operates 0 operations).shelves 1 = (single.operates 0 operations).shelves 1 := by
  intro tiered single
  have agree : (TwoTier.ofPolicy policy none).Agree { name, policy } := ⟨⟨rfl, rfl⟩, ⟨rfl, rfl⟩, rfl⟩
  have start : Follows 0 0 1 tiered single :=
    { far := rfl
      near := fun _ _ held => held
      fits := fits_none
      keeps := kept
      kept := rfl
      quick := ⟨rfl, rfl, rfl⟩
      now := rfl
      fronts := ⟨_, _, rfl, rfl, agree⟩ }
  obtain ⟨replies, prompt, last⟩ := start.operates Nat.zero_ne_one unlimited addressable
  exact ⟨replies, prompt, last.far⟩

/-- The first tier loses all that it has before the lookup. -/
theorem transparent_after_loss :
    let losses : List (Nat → String → Bool) := .replicate 3 fun layer _ => layer = 0
    let operations : List Operation :=
      [.put "k" sampleHead [118], .find "k" {}, .change [.firstTierLimit none], .delete "k"]
    (∀ loss ∈ losses, ∀ key, loss 1 key = false) ∧
      (∀ operation ∈ operations, operation.leavesUnlimited = true) ∧
      (∀ operation ∈ operations, operation.isAddressable = true) ∧
      (openedLossy {} 0 losses).replies 0 operations =
        (openedSingle "single" {} 0).replies 0 operations ∧
      .pending ∉ (openedSingle "single" {} 0).replies 0 operations ∧
      ((openedLossy {} 0 losses).operates 0 operations).shelves 1 =
        ((openedSingle "single" {} 0).operates 0 operations).shelves 1 := by
  intro losses operations
  have kept : ∀ loss ∈ losses, ∀ key, loss 1 key = false := by
    intro loss member key
    rw [List.eq_of_mem_replicate member]
    rfl
  have unlimited : ∀ operation ∈ operations, operation.leavesUnlimited = true :=
    List.all_eq_true.mp (by decide)
  have addressable : ∀ operation ∈ operations, operation.isAddressable = true :=
    List.all_eq_true.mp (by decide)
  exact ⟨kept, unlimited, addressable,
    transparent "single" {} 0 losses kept operations unlimited addressable⟩

end Depot

end TieredCache
