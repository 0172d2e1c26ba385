import TieredCache.Proofs.Front.Desk

/-!
What the lookups of two tiers count on their way. A lookup is at the stage of the job it has come
to, and every job moves it from one sum of `Underway` to another. Main statements: the moves.
-/

namespace TieredCache

/-! ### One cache -/

/-- What holds of the counts of a cache at any time. -/
structure Counts.Balanced (counts : Counts) : Prop where
  lookups : counts.backendHits + counts.backendMisses = counts.hits + counts.misses
  expirations : counts.expirations ≤ counts.fallbacks
  fallbacks : counts.fallbacks ≤ counts.misses
  hits : counts.hits ≤ counts.backendHits

namespace Counts

inductive Judged (before : Counts) : Bool → Counts → Prop
  | absent : Judged before false
      { before with backendMisses := before.backendMisses + 1, misses := before.misses + 1 }
  | unfit : Judged before false
      { before with backendHits := before.backendHits + 1, misses := before.misses + 1 }
  | invalid : Judged before false
      { before with
        backendHits := before.backendHits + 1
        misses := before.misses + 1
        fallbacks := before.fallbacks + 1 }
  | expired : Judged before false
      { before with
        backendHits := before.backendHits + 1
        expirations := before.expirations + 1
        misses := before.misses + 1
        fallbacks := before.fallbacks + 1 }
  | found : Judged before true
      { before with backendHits := before.backendHits + 1, hits := before.hits + 1 }

variable {before after : Counts} {found : Bool}

theorem Judged.balanced (judged : before.Judged found after) (balanced : before.Balanced) :
    after.Balanced := by
  obtain ⟨lookups, expirations, fallbacks, hits⟩ := balanced
  cases judged <;> constructor <;> simp only <;> omega

theorem Judged.hits (judged : before.Judged found after) :
    after.hits = before.hits + if found then 1 else 0 := by
  cases judged <;> rfl

theorem Judged.misses (judged : before.Judged found after) :
    after.misses = before.misses + if found then 0 else 1 := by
  cases judged <;> rfl

/-- A lookup counts nothing that is stored or deleted. -/
theorem Judged.others (judged : before.Judged found after) :
    after.inserts = before.inserts ∧ after.reinserts = before.reinserts ∧
      after.deletes = before.deletes ∧ after.failurePuts = before.failurePuts := by
  cases judged <;> exact ⟨rfl, rfl, rfl, rfl⟩

end Counts

namespace ResponseCache

theorem judged_judge (cache : ResponseCache) (now : Millis) (key : String) (checks : Checks)
    (stored : Stored) :
    let seen := cache.countWith fun counts => { counts with backendHits := counts.backendHits + 1 }
    cache.counts.Judged (seen.judge now key checks stored).outcome.isFound
      (seen.judge now key checks stored).cache.counts := by
  unfold judge
  simp only
  split
  · cases isCurrent stored.head now <;> exact .unfit
  · split
    · exact .expired
    · split
      · exact .invalid
      · exact .found

theorem judged_resolve (cache : ResponseCache) (now : Millis) (key : String) (checks : Checks)
    (lookup : Lookup) :
    cache.counts.Judged (cache.resolve now key checks lookup).outcome.isFound
      (cache.resolve now key checks lookup).cache.counts := by
  unfold resolve
  split
  · exact .absent
  · simp only
    split
    · exact judged_judge cache now key checks _
    · exact .unfit

end ResponseCache

/-! ### Lookups on their way -/

inductive Stage where
  | served
  | passed
  | late
  | found
  | missed
  | known
  deriving DecidableEq

def Callback.stage? : Callback → Option Stage
  | .front ⟨_, .secondTier⟩ _ _ _ => some .late
  | _ => none

namespace Job

def stage? : Job → Option Stage
  | .find ⟨_, .secondTier⟩ _ _ _ => some .late
  | .work (.ask _ _ (.client callback)) => callback.stage?
  | .work (.inform callback _) => callback.stage?
  | .conclude (.firstTier ..) outcome => some (if outcome.isFound then .served else .passed)
  | .conclude (.bothTiers ..) outcome => some (if outcome.isFound then .found else .missed)
  | .conclude _ _ => some .known
  | _ => none

theorem stage?_aside {job : Job} (aside : job.isAside = true) : job.stage? = none := by
  cases job with
  | work work =>
      cases work with
      | put | delete | shutDown => rfl
      | _ => cases aside
  | _ => cases aside

theorem stage?_last {last : Conclusion} (ends : last.Last) (outcome : Outcome) :
    (Job.conclude last outcome).stage? = some .known := by
  cases ends <;> rfl

end Job

def Counts.ofLookups (counts : Counts) : Counts :=
  { counts with inserts := 0, reinserts := 0, deletes := 0, failurePuts := 0 }

def TierCounts.ofLookups (counts : TierCounts) : TierCounts := { counts with backfills := 0 }

/-- The counts of two tiers, and of both together, while some lookups are on their way. -/
structure Underway (first second : Counts) (own : TierCounts) (told : Nat) (stages : List Stage) :
    Prop where
  balanced : first.Balanced
  balancedSecond : second.Balanced
  served : first.hits = own.firstHits + stages.count .served
  found : second.hits = own.secondHits + stages.count .found
  missed : second.misses = own.misses + stages.count .missed
  passed : first.misses = own.secondHits + own.misses + stages.count .passed +
    stages.count .late + stages.count .found + stages.count .missed
  known : own.firstHits + own.secondHits + own.misses = told + stages.count .known

namespace Underway

variable {first second after : Counts} {own : TierCounts} {told : Nat} {stages : List Stage}
  {found : Bool}

theorem perm (underway : Underway first second own told stages) {others : List Stage}
    (same : stages.Perm others) : Underway first second own told others := by
  obtain ⟨balanced, balancedSecond, served, found, missed, passed, known⟩ := underway
  simp only [same.count_eq] at served found missed passed known
  exact ⟨balanced, balancedSecond, served, found, missed, passed, known⟩

theorem ofLookups_iff :
    Underway first.ofLookups second.ofLookups own.ofLookups told stages ↔
      Underway first second own told stages := by
  constructor <;>
    rintro ⟨⟨lookups, expirations, fallbacks, hits⟩, ⟨lookups', expirations', fallbacks', hits'⟩,
      served, found, missed, passed, known⟩ <;>
    exact ⟨⟨lookups, expirations, fallbacks, hits⟩, ⟨lookups', expirations', fallbacks', hits'⟩,
      served, found, missed, passed, known⟩

/-- Tiers whose lookups have counted the same. -/
theorem still (underway : Underway first second own told stages) {firstAfter secondAfter : Counts}
    {ownAfter : TierCounts} (same : firstAfter.ofLookups = first.ofLookups)
    (sameSecond : secondAfter.ofLookups = second.ofLookups)
    (sameOwn : ownAfter.ofLookups = own.ofLookups) :
    Underway firstAfter secondAfter ownAfter told stages := by
  rw [← ofLookups_iff, same, sameSecond, sameOwn]
  exact ofLookups_iff.mpr underway

theorem judgedFirst (underway : Underway first second own told stages)
    (judged : first.Judged found after) :
    Underway after second own told ((if found then .served else .passed) :: stages) := by
  obtain ⟨balanced, balancedSecond, served, late, missed, passed, known⟩ := underway
  have hits := judged.hits
  have misses := judged.misses
  refine ⟨judged.balanced balanced, balancedSecond, ?_, ?_, ?_, ?_, ?_⟩ <;>
    cases found <;> simp [hits, misses, served, late, missed, passed, known] <;> omega

theorem judgedSecond (underway : Underway first second own told (.late :: stages))
    (judged : second.Judged found after) :
    Underway first after own told ((if found then .found else .missed) :: stages) := by
  obtain ⟨balanced, balancedSecond, served, late, missed, passed, known⟩ := underway
  have hits := judged.hits
  have misses := judged.misses
  simp only [List.count_cons] at served late missed passed known
  refine ⟨balanced, judged.balanced balancedSecond, ?_, ?_, ?_, ?_, ?_⟩ <;>
    cases found <;> simp [hits, misses, served, late, missed, passed, known] <;> omega

theorem serve (underway : Underway first second own told (.served :: stages)) :
    Underway first second { own with firstHits := own.firstHits + 1 } told (.known :: stages) := by
  obtain ⟨balanced, balancedSecond, served, late, missed, passed, known⟩ := underway
  refine ⟨balanced, balancedSecond, ?_, ?_, ?_, ?_, ?_⟩ <;> simp_all <;> omega

theorem pass (underway : Underway first second own told (.passed :: stages)) :
    Underway first second own told (.late :: stages) := by
  obtain ⟨balanced, balancedSecond, served, late, missed, passed, known⟩ := underway
  refine ⟨balanced, balancedSecond, ?_, ?_, ?_, ?_, ?_⟩ <;> simp_all
  omega

theorem find (underway : Underway first second own told (.found :: stages)) :
    Underway first second { own with secondHits := own.secondHits + 1 } told
      (.known :: stages) := by
  obtain ⟨balanced, balancedSecond, served, late, missed, passed, known⟩ := underway
  refine ⟨balanced, balancedSecond, ?_, ?_, ?_, ?_, ?_⟩ <;> simp_all <;> omega

theorem miss (underway : Underway first second own told (.missed :: stages)) :
    Underway first second { own with misses := own.misses + 1 } told (.known :: stages) := by
  obtain ⟨balanced, balancedSecond, served, late, missed, passed, known⟩ := underway
  refine ⟨balanced, balancedSecond, ?_, ?_, ?_, ?_, ?_⟩ <;> simp_all <;> omega

theorem tell (underway : Underway first second own told (.known :: stages)) :
    Underway first second own (told + 1) stages := by
  obtain ⟨balanced, balancedSecond, served, late, missed, passed, known⟩ := underway
  refine ⟨balanced, balancedSecond, ?_, ?_, ?_, ?_, ?_⟩ <;> simp_all
  omega

/-- The end of a lookup that went to both tiers; what is written back counts as stored. -/
theorem complete {tiers : TwoTier} {outcome : Outcome}
    (underway : Underway tiers.first.counts tiers.second.counts tiers.counts told
      ((if outcome.isFound then .found else .missed) :: stages))
    (key : String) (earlier : Outcome) :
    let after := (tiers.complete key earlier outcome).tiers
    Underway after.first.counts after.second.counts after.counts told (.known :: stages) := by
  unfold TwoTier.complete
  cases outcome with
  | found stored =>
      simp only
      split
      · refine underway.find.still ?_ rfl rfl
        cases earlier.stale?.isSome <;> rfl
      · exact underway.find
  | missed failure stale => exact underway.miss

theorem store {tiers : TwoTier}
    (underway : Underway tiers.first.counts tiers.second.counts tiers.counts told stages)
    (key : String) (stored : Stored) :
    let after := (tiers.store key stored).tiers
    Underway after.first.counts after.second.counts after.counts told stages := by
  unfold TwoTier.store
  split
  · exact underway.still rfl rfl rfl
  · exact underway.still rfl rfl rfl

end Underway

end TieredCache
