import TieredCache.Proofs.Front.Underway
import TieredCache.Proofs.Front.Transparency
import TieredCache.Proofs.Front.Usage

/-!
The counts of a front of two tiers. Main statement: `counts_balance`, by which nothing is counted
twice or left out, in whatever order lookups are answered.
-/

namespace TieredCache

namespace ResponseCache

theorem counts_remember (cache : ResponseCache) (now : Millis) (kind : FailureKind) :
    ((cache.remember now kind).elim cache (·.cache)).counts =
      { cache.counts with
        failurePuts := cache.counts.failurePuts + (cache.sentinel now kind).isSome.toNat } := by
  unfold sentinel
  cases remembered : cache.remember now kind with
  | none => rfl
  | some write =>
      unfold remember at remembered
      split at remembered
      · cases remembered
      · split at remembered
        · cases remembered
        · cases remembered
          rfl

/-- Caches that agree do so whatever they count. -/
theorem Agree.of_bare {left right leftAfter rightAfter : ResponseCache} (agree : left.Agree right)
    (same : leftAfter.bare = left.bare) (sameRight : rightAfter.bare = right.bare) :
    leftAfter.Agree rightAfter := by
  simp only [bare, mk.injEq] at same sameRight
  obtain ⟨-, policy, ignores, -⟩ := same
  obtain ⟨-, policyRight, ignoresRight, -⟩ := sameRight
  exact ⟨by rw [policy, policyRight, agree.policy],
    by rw [ignores, ignoresRight, agree.ignoresFailures]⟩

theorem ofLookups_remember (cache : ResponseCache) (now : Millis)
    (kind : FailureKind) :
    ((cache.remember now kind).elim cache (·.cache)).counts.ofLookups = cache.counts.ofLookups := by
  rw [counts_remember]
  rfl

end ResponseCache

/-! ### What is stored -/

/-- The counts of what two tiers were given to store or to forget. -/
structure Stock (tiers : TwoTier) (receipts : List Receipt) : Prop where
  first : tiers.first.counts.inserts + tiers.first.counts.reinserts =
    receipts.countP (fun receipt => receipt.refusal = none && receipt.fits) + tiers.counts.backfills
  second : tiers.second.counts.inserts = receipts.countP (·.refusal = none)
  again : tiers.second.counts.reinserts = 0
  deletes : tiers.first.counts.deletes = tiers.second.counts.deletes
  failurePuts : tiers.first.counts.failurePuts = tiers.second.counts.failurePuts
  agree : tiers.first.Agree tiers.second

namespace Stock

variable {tiers : TwoTier} {receipts : List Receipt} {key : String} {now : Millis}

theorem resolveFirst (stock : Stock tiers receipts) (checks : Checks) (lookup : Lookup) :
    Stock { tiers with first := (tiers.first.resolve now key checks lookup).cache } receipts := by
  obtain ⟨inserts, reinserts, deletes, failurePuts⟩ :=
    (tiers.first.judged_resolve now key checks lookup).others
  have same := ResponseCache.bare_resolve tiers.first now key checks lookup
  obtain ⟨first, second, again, forgotten, failed, agree⟩ := stock
  refine ⟨?_, second, again, ?_, ?_, ?_⟩
  · simp only [inserts, reinserts, first]
  · simp only [deletes, forgotten]
  · simp only [failurePuts, failed]
  · exact agree.of_bare same rfl

theorem resolveSecond (stock : Stock tiers receipts) (checks : Checks) (lookup : Lookup) :
    Stock { tiers with second := (tiers.second.resolve now key checks lookup).cache } receipts := by
  obtain ⟨inserts, reinserts, deletes, failurePuts⟩ :=
    (tiers.second.judged_resolve now key checks lookup).others
  have same := ResponseCache.bare_resolve tiers.second now key checks lookup
  obtain ⟨first, second, again, forgotten, failed, agree⟩ := stock
  refine ⟨first, ?_, ?_, ?_, ?_, ?_⟩
  · simp only [inserts, second]
  · simp only [reinserts, again]
  · simp only [deletes, forgotten]
  · simp only [failurePuts, failed]
  · exact agree.of_bare rfl same

theorem countFirstHit (stock : Stock tiers receipts) : Stock tiers.countFirstHit receipts :=
  ⟨stock.first, stock.second, stock.again, stock.deletes, stock.failurePuts, stock.agree⟩

theorem complete (stock : Stock tiers receipts) (key : String) (earlier outcome : Outcome) :
    Stock (tiers.complete key earlier outcome).tiers receipts := by
  obtain ⟨first, second, again, deletes, failurePuts, agree⟩ := stock
  unfold TwoTier.complete
  cases outcome with
  | found stored =>
      simp only
      split
      · cases earlier.stale?.isSome with
        | true =>
            exact ⟨congrArg Nat.succ first, second, again, deletes, failurePuts,
              agree.of_bare rfl rfl⟩
        | false =>
            exact ⟨(Nat.succ_add _ _).trans (congrArg Nat.succ first), second, again, deletes,
              failurePuts, agree.of_bare rfl rfl⟩
      · exact ⟨first, second, again, deletes, failurePuts, agree⟩
  | missed failure stale => exact ⟨first, second, again, deletes, failurePuts, agree⟩

/-- A put is accepted, and written to the tiers it fits. -/
theorem store (stock : Stock tiers receipts) (key : String) (stored : Stored) :
    Stock (tiers.store key stored).tiers (⟨none, tiers.fits key stored⟩ :: receipts) := by
  obtain ⟨first, second, again, deletes, failurePuts, agree⟩ := stock
  unfold TwoTier.store
  cases tiers.fits key stored <;>
    refine ⟨?_, ?_, again, deletes, failurePuts, agree.of_bare rfl rfl⟩ <;>
    simp [ResponseCache.store, ResponseCache.countWith] <;> omega

theorem refuse (stock : Stock tiers receipts) (reason : Refusal) (fits : Bool) :
    Stock tiers (⟨some reason, fits⟩ :: receipts) := by
  obtain ⟨first, second, again, deletes, failurePuts, agree⟩ := stock
  exact ⟨by simpa using first, by simpa using second, again, deletes, failurePuts, agree⟩

theorem countDelete (stock : Stock tiers receipts) : Stock tiers.countDelete receipts :=
  ⟨stock.first, stock.second, stock.again, congrArg Nat.succ stock.deletes, stock.failurePuts,
    stock.agree.of_bare rfl rfl⟩

/-- Tiers that agree remember the same failures. -/
theorem remember (stock : Stock tiers receipts) (now : Millis) (kind : FailureKind) :
    Stock (tiers.remember now kind).tiers receipts := by
  obtain ⟨first, second, again, deletes, failurePuts, agree⟩ := stock
  have counts := tiers.first.counts_remember now kind
  have countsSecond := tiers.second.counts_remember now kind
  refine ⟨?_, ?_, ?_, ?_, ?_, agree.of_bare (tiers.first.bare_remember now kind)
    (tiers.second.bare_remember now kind)⟩ <;>
    simp only [TwoTier.remember, counts, countsSecond, agree.sentinel, first, second, again,
      deletes, failurePuts]

theorem ignoreFailures (stock : Stock tiers receipts) : Stock tiers.ignoreFailures receipts :=
  ⟨stock.first, stock.second, stock.again, stock.deletes, stock.failurePuts,
    stock.agree.policy, rfl⟩

theorem change (stock : Stock tiers receipts) (limit : Option Nat) (rules : Policy → Policy) :
    Stock ({ tiers with limit }.changePolicy rules) receipts :=
  ⟨stock.first, stock.second, stock.again, stock.deletes, stock.failurePuts,
    congrArg rules stock.agree.policy, stock.agree.ignoresFailures⟩

end Stock

/-! ### Runs -/

namespace Desk

def stages (desk : Desk) (jobs : List Job) : List Stage :=
  jobs.filterMap Job.stage? ++ desk.waiting.filterMap (·.1.stage?)

def Balances (receipts : List Receipt) (desk : Desk) (jobs : List Job) : Prop :=
  ∃ tiers first second, desk.front = .tiered tiers first second ∧
    Underway tiers.first.counts tiers.second.counts tiers.counts desk.told (desk.stages jobs) ∧
      Stock tiers receipts

variable {receipts : List Receipt} {desk next : Desk} {now : Millis} {job : Job}
  {rest more jobs : List Job} {receipt : Option Receipt} {tiers : TwoTier} {first second : Nat}

theorem stages_none (unstaged : job.stage? = none) :
    desk.stages (job :: rest) = desk.stages rest := by
  rw [stages, List.filterMap_cons_none unstaged]
  rfl

theorem stages_some {stage : Stage} (staged : job.stage? = some stage) :
    desk.stages (job :: rest) = stage :: desk.stages rest := by
  rw [stages, List.filterMap_cons_some staged]
  rfl

theorem stages_asides (asides : ∀ job ∈ more, job.isAside = true) :
    desk.stages (more ++ rest) = desk.stages rest := by
  induction more with
  | nil => rfl
  | cons job others ih =>
      obtain ⟨own, remaining⟩ := List.forall_mem_cons.mp asides
      rw [List.cons_append, stages_none (Job.stage?_aside own), ih remaining]

/-- A desk with the same front, on which the same lookups are on their way. -/
theorem Balances.perm (balances : Balances receipts desk jobs) (front : next.front = desk.front)
    (told : next.told = desk.told) (same : (desk.stages jobs).Perm (next.stages more)) :
    Balances receipts next more := by
  obtain ⟨tiers, first, second, tiered, underway, stock⟩ := balances
  exact ⟨tiers, first, second, front.trans tiered, told ▸ underway.perm same, stock⟩

theorem stages_alike {other : Job} (alike : other.stage? = job.stage?) :
    desk.stages (other :: rest) = desk.stages (job :: rest) := by
  cases staged : job.stage? with
  | none => rw [stages_none staged, stages_none (alike.trans staged)]
  | some stage => rw [stages_some staged, stages_some (alike.trans staged)]

/-- A lookup that is kept back stays at its stage. -/
theorem stages_wait (desk : Desk) (layer : Nat) (key : String) (callback : Callback)
    (lookup : Lookup) :
    (desk.stages (.work (.ask layer key (.client callback)) :: rest)).Perm
      ({ desk with waiting := desk.waiting ++ [(callback, lookup)] }.stages rest) := by
  cases staged : callback.stage? with
  | none => simp [stages, Job.stage?, staged]
  | some stage =>
      simp only [stages, List.filterMap_cons, Job.stage?, staged, List.filterMap_append,
        List.filterMap_nil, List.cons_append, ← List.append_assoc]
      exact (List.perm_append_singleton stage _).symm

/-- So does one whose answer comes. -/
theorem stages_answer {position : Nat} {callback : Callback} {kept : Lookup}
    (waits : desk.waiting[position]? = some (callback, kept)) (lookup : Lookup) :
    (desk.stages []).Perm
      ({ desk with waiting := desk.waiting.eraseIdx position }.stages
        [.work (.inform callback lookup)]) := by
  obtain ⟨inside, own⟩ := List.getElem?_eq_some_iff.mp waits
  have taken := (List.getElem_cons_eraseIdx_perm inside).symm.filterMap (·.1.stage?)
  rw [own] at taken
  refine taken.trans (.of_eq ?_)
  cases staged : callback.stage? <;> simp [stages, Job.stage?, staged]

theorem balances_does (balances : Balances receipts desk (job :: rest))
    (does : desk.Does now job next more) : Balances receipts next (more ++ rest) := by
  have standing := balances
  obtain ⟨tiers, first, second, front, underway, stock⟩ := standing
  cases does with
  | aside aside =>
      exact balances.perm rfl rfl (.of_eq (stages_none (Job.stage?_aside aside)))
  | enter => exact balances.perm rfl rfl (.of_eq (stages_alike rfl))
  | @ask part =>
      exact balances.perm rfl rfl (.of_eq (stages_alike (by cases part <;> rfl)))
  | wait layer key lookup heard =>
      exact balances.perm rfl rfl (stages_wait desk layer key _ lookup)
  | answer => exact balances.perm rfl rfl (.of_eq (stages_alike rfl))
  | resolve own resolves ends => cases front.symm.trans own
  | resolveFirst own resolves ends =>
      cases front.symm.trans own
      subst resolves
      refine ⟨_, _, _, rfl, ?_, stock.resolveFirst _ _⟩
      rw [List.singleton_append, stages_some rfl]
      rw [stages_none rfl] at underway
      exact underway.judgedFirst (ResponseCache.judged_resolve _ _ _ _ _)
  | resolveSecond own resolves ends =>
      cases front.symm.trans own
      subst resolves
      refine ⟨_, _, _, rfl, ?_, stock.resolveSecond _ _⟩
      rw [List.singleton_append, stages_some rfl]
      rw [stages_some rfl] at underway
      exact underway.judgedSecond (ResponseCache.judged_resolve _ _ _ _ _)
  | serve key hooks own found ends =>
      cases front.symm.trans own
      refine ⟨_, _, _, rfl, ?_, stock.countFirstHit⟩
      rw [List.singleton_append, stages_some (Job.stage?_last ends _)]
      rw [stages_some rfl, found] at underway
      exact underway.serve
  | pass key hooks own missed ends =>
      refine ⟨tiers, first, second, front, ?_, stock⟩
      rw [stages_some rfl, missed] at underway
      rw [List.singleton_append, stages_some rfl]
      exact underway.pass
  | complete own completes ends =>
      cases front.symm.trans own
      subst completes
      refine ⟨_, _, _, rfl, ?_, stock.complete _ _ _⟩
      rw [List.append_assoc, stages_asides (Job.asides_putJobs _ _ _), List.singleton_append,
        stages_some (Job.stage?_last ends _)]
      rw [stages_some rfl] at underway
      exact underway.complete _ _
  | tell outcome ends =>
      rw [stages_some (Job.stage?_last ends _)] at underway
      exact ⟨tiers, first, second, front, underway.tell, stock⟩

/-- What a use of the front leaves to do is no lookup that counts yet. -/
theorem Begins.stages (begins : desk.Begins now receipt next jobs) :
    next.stages jobs = desk.stages [] := by
  have same : next.waiting = desk.waiting := by cases begins <;> rfl
  have none : next.stages jobs = next.stages [] := by
    obtain ⟨key, hooks, last, rfl, ends⟩ | ⟨few, asides⟩ := begins.jobs
    · exact stages_none rfl
    · rw [← List.append_nil jobs, stages_asides asides]
  rw [none, Desk.stages, Desk.stages, same]

theorem balances_begins (balances : Balances receipts desk [])
    (begins : desk.Begins now receipt next jobs) :
    Balances (receipt.toList ++ receipts) next jobs := by
  obtain ⟨tiers, first, second, front, underway, stock⟩ := balances
  have alone := begins.stages
  have told : next.told = desk.told := by cases begins <;> rfl
  rw [← alone, ← told] at underway
  cases begins with
  | rest | find => exact ⟨tiers, first, second, front, underway, stock⟩
  | refuseTiered reason own fits =>
      exact ⟨tiers, first, second, front, underway, stock.refuse reason fits⟩
  | storeTiered key own writes =>
      cases front.symm.trans own
      subst writes
      exact ⟨_, _, _, rfl, underway.store _ _, stock.store _ _⟩
  | deleteTiered key own =>
      cases front.symm.trans own
      exact ⟨_, _, _, rfl, underway.still rfl rfl rfl, stock.countDelete⟩
  | rememberTiered key kind own writes =>
      cases front.symm.trans own
      subst writes
      exact ⟨_, _, _, rfl, underway.still (ResponseCache.ofLookups_remember _ _ _)
        (ResponseCache.ofLookups_remember _ _ _) rfl, stock.remember _ _⟩
  | ignoreTiered own =>
      cases front.symm.trans own
      exact ⟨_, _, _, rfl, underway, stock.ignoreFailures⟩
  | changeTiered limit rules own =>
      cases front.symm.trans own
      exact ⟨_, _, _, rfl, underway, stock.change limit rules⟩
  | refuse _ _ own | store _ own | delete _ own | remember _ _ own | ignore own | change _ own =>
      cases front.symm.trans own

/-- Without a job to do, lookups are on their way only if they wait for the second tier. -/
theorem late_of_idle (desk : Desk) (stage : Stage) (member : stage ∈ desk.stages []) :
    stage = .late := by
  obtain ⟨⟨callback, kept⟩, -, staged⟩ := List.mem_filterMap.mp member
  simp only [Callback.stage?] at staged
  split at staged
  · exact (Option.some.inj staged).symm
  · cases staged

theorem balances_lasting : Lasting Balances where
  begins := balances_begins
  does := balances_does
  answers lookup balances waits := balances.perm rfl rfl (stages_answer waits lookup)

end Desk

namespace Usage

/-- The counts of two tiers and what they count in a run. -/
structure Balance (tiers : TwoTier) (usage : Usage) : Prop where
  first : tiers.first.counts.Balanced
  second : tiers.second.counts.Balanced
  firstHits : tiers.counts.firstHits = tiers.first.counts.hits
  secondHits : tiers.counts.secondHits = tiers.second.counts.hits
  misses : tiers.counts.misses = tiers.second.counts.misses
  finds : tiers.counts.firstHits + tiers.counts.secondHits + tiers.counts.misses = usage.depot.told
  firstInserts : tiers.first.counts.inserts + tiers.first.counts.reinserts =
    usage.fitted + tiers.counts.backfills
  secondInserts : tiers.second.counts.inserts = usage.stored
  secondReinserts : tiers.second.counts.reinserts = 0
  deletes : tiers.first.counts.deletes = tiers.second.counts.deletes
  failurePuts : tiers.first.counts.failurePuts = tiers.second.counts.failurePuts
  firstMisses : usage.depot.waiting = [] →
    tiers.first.counts.misses = tiers.counts.secondHits + tiers.counts.misses

theorem balances_opened (policy : Policy) (limit : Option Nat) (first second : Nat) :
    Desk.Balances [] { front := (Opening.tiered policy limit first second).front } [] :=
  ⟨.ofPolicy policy limit, first, second, rfl,
    ⟨⟨rfl, Nat.le_refl 0, Nat.le_refl 0, Nat.le_refl 0⟩,
      ⟨rfl, Nat.le_refl 0, Nat.le_refl 0, Nat.le_refl 0⟩, rfl, rfl, rfl, rfl, rfl⟩,
    ⟨rfl, rfl, rfl, rfl, rfl, rfl, rfl⟩⟩

/-- Whatever is done with a front of two tiers, and in whatever order its layers answer. -/
theorem counts_balance (policy : Policy) (limit : Option Nat) (first second : Nat) (now : Millis)
    (occurrences : List Occurrence) :
    let usage := (opened (.tiered policy limit first second) now).run occurrences
    ∃ tiers near far, usage.depot.session.fronts = [.tiered tiers near far] ∧
      Balance tiers usage := by
  intro usage
  obtain ⟨desk, shows, -, tiers, near, far, front, underway, stock⟩ :=
    run_lasting Desk.balances_lasting (.tiered policy limit first second)
      (balances_opened policy limit first second) now occurrences
  have idle {stage : Stage} (other : stage ≠ .late) : (desk.stages []).count stage = 0 :=
    List.count_eq_zero.mpr fun member => other (desk.late_of_idle stage member)
  obtain ⟨balanced, balancedSecond, served, found, missed, passed, known⟩ := underway
  rw [idle (by decide), Nat.add_zero] at served found missed known
  refine ⟨tiers, near, far, front ▸ shows.fronts, balanced, balancedSecond, served.symm, found.symm,
    missed.symm, known.trans shows.told.symm, stock.first, stock.second, stock.again, stock.deletes,
    stock.failurePuts, fun none => ?_⟩
  have nobody : desk.stages [] = [] := by
    rw [Desk.stages, ← shows.waiting, none]
    rfl
  simpa [nobody] using passed

private def lasting : Head := (Head.ofStatus 200).add "Cache-Control" "max-age=300"

private def crossed : List Occurrence :=
  let put : Occurrence := .use (.put "a" lasting [1, 2])
  let stored := ((opened (.tiered {} none 0 1) 0).run [put]).depot.shelves 1 "a"
  [put, .stir (fun _ _ => none) (fun layer => decide (layer = 1)) [], .use (.find "a" {}),
    .use (.find "b" {}), .answer 1 .notFound, .answer 0 (.ofOption stored)]

theorem counts_balance_of_crossed :
    let usage := (opened (.tiered {} none 0 1) 0).run crossed
    usage.depot.told = 2 ∧ usage.depot.waiting.length = 0 ∧
      usage.depot.shelves 0 "a" ≠ none ∧ ∃ tiers near far,
        usage.depot.session.fronts = [.tiered tiers near far] ∧ Balance tiers usage :=
  ⟨by decide +kernel, by decide +kernel, by decide +kernel, counts_balance {} none 0 1 0 crossed⟩

end Usage

end TieredCache
