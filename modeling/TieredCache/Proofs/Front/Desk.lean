import Mathlib.Algebra.Order.BigOperators.Group.List
import Mathlib.Algebra.Order.Ring.Nat
import TieredCache.Proofs.Front.Depot

/-!
All that a front is counted up by stands on its desk: its counts, its signals, how many lookups were
told their outcome, and those that wait. `Begins` lists what a use of the front does there at once,
`Does` what a job does that comes of it. Main statements: what both keep, and that each job leaves
less work than it was.
-/

namespace TieredCache

/-! ### Jobs of a front -/

inductive Conclusion.Last : Conclusion → Prop
  | report (label : String) : Last (.report label [])
  | promise (number : Nat) : Last (.promise number)

inductive Conclusion.Leads : Bool → FrontPart → Conclusion → Prop
  | whole {last : Conclusion} (ends : last.Last) : Leads false .whole last
  | first {last : Conclusion} (key : String) (hooks : Hooks) (ends : last.Last) :
      Leads true .firstTier (.firstTier 0 key hooks last)
  | second {last : Conclusion} (key : String) (earlier : Outcome) (ends : last.Last) :
      Leads true .secondTier (.bothTiers 0 key earlier last)

inductive Callback.Heard (tiered : Bool) : Callback → Prop
  | front {part : FrontPart} {next : Conclusion} (key : String) (hooks : Hooks)
      (leads : next.Leads tiered part) : Heard tiered (.front ⟨0, part⟩ key hooks next)

namespace Job

def isAside : Job → Bool
  | .work (.put ..) | .work (.delete ..) | .work (.shutDown _) => true
  | _ => false

/-- The jobs that come of the uses of a front. -/
inductive Proper (tiered : Bool) : Job → Prop
  | aside {job : Job} (aside : job.isAside = true) : Proper tiered job
  | enter {last : Conclusion} (key : String) (hooks : Hooks) (ends : last.Last) :
      Proper tiered (.find ⟨0, .whole⟩ key hooks last)
  | find {part : FrontPart} {next : Conclusion} (key : String) (hooks : Hooks)
      (leads : next.Leads tiered part) : Proper tiered (.find ⟨0, part⟩ key hooks next)
  | ask {callback : Callback} (layer : Nat) (key : String) (heard : callback.Heard tiered) :
      Proper tiered (.work (.ask layer key (.client callback)))
  | inform {callback : Callback} (lookup : Lookup) (heard : callback.Heard tiered) :
      Proper tiered (.work (.inform callback lookup))
  | conclude {part : FrontPart} {next : Conclusion} (outcome : Outcome)
      (leads : next.Leads tiered part) : Proper tiered (.conclude next outcome)
  | tell {last : Conclusion} (outcome : Outcome) (ends : last.Last) :
      Proper tiered (.conclude last outcome)

end Job

/-! ### How much work is left -/

def Conclusion.toll : Conclusion → Nat
  | report .. | promise _ => 1
  | bothTiers .. => 3
  | firstTier .. => 7

theorem Conclusion.Last.toll {last : Conclusion} (ends : last.Last) : last.toll = 1 := by
  cases ends <;> rfl

def Callback.toll : Callback → Nat
  | report .. | promise _ => 1
  | front _ _ _ next => next.toll + 1

namespace Job

def toll : Job → Nat
  | .find ⟨_, .whole⟩ _ _ _ => 11
  | .find _ _ _ next => next.toll + 3
  | .work (.ask _ _ (.client callback)) => callback.toll + 1
  | .work (.inform callback _) => callback.toll
  | .conclude next _ => next.toll
  | _ => 1

def tollAll (jobs : List Job) : Nat := (jobs.map toll).sum

@[simp] theorem tollAll_singleton (job : Job) : tollAll [job] = job.toll := rfl

@[simp] theorem tollAll_cons (job : Job) (jobs : List Job) :
    tollAll (job :: jobs) = job.toll + tollAll jobs := rfl

@[simp] theorem tollAll_append (left right : List Job) :
    tollAll (left ++ right) = tollAll left + tollAll right := by
  rw [tollAll, List.map_append, List.sum_append]
  rfl

theorem toll_aside {job : Job} (aside : job.isAside = true) : job.toll = 1 := by
  cases job with
  | work work =>
      cases work with
      | put | delete | shutDown => rfl
      | _ => cases aside
  | _ => cases aside

theorem tollAll_asides {jobs : List Job} (asides : ∀ job ∈ jobs, job.isAside = true) :
    tollAll jobs = jobs.length := by
  induction jobs with
  | nil => rfl
  | cons job rest ih =>
      obtain ⟨first, others⟩ := List.forall_mem_cons.mp asides
      rw [tollAll_cons, toll_aside first, ih others, List.length_cons, Nat.add_comm]

theorem asides_putJobs (layer : Nat) (key : String) (content : Option Bytes) :
    ∀ job ∈ Session.putJobs layer key content, job.isAside = true := by
  intro job member
  obtain ⟨value, -, rfl⟩ := List.mem_map.mp member
  rfl

theorem length_putJobs (layer : Nat) (key : String) (content : Option Bytes) :
    (Session.putJobs layer key content).length ≤ 1 := by
  cases content with
  | none => exact Nat.zero_le 1
  | some value => exact Nat.le_refl 1

theorem two_putJobs (left right : Nat) (key : String) (before after : Option Bytes) :
    let jobs := Session.putJobs left key before ++ Session.putJobs right key after
    jobs.length ≤ 2 ∧ ∀ job ∈ jobs, job.isAside = true := by
  constructor
  · rw [List.length_append]
    exact Nat.add_le_add (length_putJobs left key before) (length_putJobs right key after)
  · intro job member
    rcases List.mem_append.mp member with first | second
    · exact asides_putJobs left key before job first
    · exact asides_putJobs right key after job second

end Job

theorem Conclusion.Leads.toll_find {tiered : Bool} {part : FrontPart} {next : Conclusion}
    (leads : next.Leads tiered part) (key : String) (hooks : Hooks) :
    next.toll + 3 ≤ (Job.find ⟨0, part⟩ key hooks next).toll := by
  cases leads with
  | whole ends =>
      rw [ends.toll]
      exact Nat.le_add_left 4 7
  | first | second => exact Nat.le_refl _

theorem Conclusion.Leads.toll_le {tiered : Bool} {part : FrontPart} {next : Conclusion}
    (leads : next.Leads tiered part) : next.toll ≤ 7 := by
  cases leads with
  | whole ends =>
      rw [ends.toll]
      exact Nat.le_add_left 1 6
  | first => exact Nat.le_refl 7
  | second => exact Nat.le_add_left 3 4

/-! ### The desk -/

def Event.isOutcome : Event → Bool
  | outcome _ _ => true
  | _ => false

def Front.isTiered : Front → Bool
  | single .. => false
  | tiered .. => true

structure Desk where
  front : Front
  signals : List Signal := []
  told : Nat := 0
  waiting : List (Callback × Lookup) := []

/-- What a put came to, and whether the response fitted the first tier. -/
structure Receipt where
  refusal : Option Refusal
  fits : Bool

namespace Desk

def turn (desk : Desk) (front : Front) (signals : List Signal) : Desk :=
  { desk with front, signals := signals.reverse ++ desk.signals }

inductive Begins (desk : Desk) (now : Millis) : Option Receipt → Desk → List Job → Prop
  | rest {jobs : List Job} (few : jobs.length ≤ 2) (asides : ∀ job ∈ jobs, job.isAside = true) :
      Begins desk now none desk jobs
  | find {last : Conclusion} (key : String) (hooks : Hooks) (ends : last.Last) :
      Begins desk now none desk [.find ⟨0, .whole⟩ key hooks last]
  | refuse {cache : ResponseCache} {layer : Nat} (key : String) (reason : Refusal)
      (front : desk.front = .single cache layer) (fits : Bool) :
      Begins desk now (some ⟨some reason, fits⟩)
        (desk.turn desk.front (ResponseCache.refused key reason)) []
  | refuseTiered {tiers : TwoTier} {first second : Nat} (reason : Refusal)
      (front : desk.front = .tiered tiers first second) (fits : Bool) :
      Begins desk now (some ⟨some reason, fits⟩) desk []
  | store {cache : ResponseCache} {layer : Nat} {receipt : Option Receipt}
      {write : ResponseCache.Write} {stored : Stored} {again : Bool} (key : String)
      (front : desk.front = .single cache layer)
      (accepted : ∀ put ∈ receipt, put.refusal = none) (writes : cache.store stored again = write) :
      Begins desk now receipt (desk.turn (.single write.cache layer) write.signals)
        (Session.putJobs layer key (some write.content))
  | storeTiered {tiers : TwoTier} {first second : Nat} {write : TwoTier.Write} {stored : Stored}
      (key : String) (front : desk.front = .tiered tiers first second)
      (writes : tiers.store key stored = write) :
      Begins desk now (some ⟨none, tiers.fits key stored⟩)
        (desk.turn (.tiered write.tiers first second) write.signals)
        (Session.putJobs second key write.second ++ Session.putJobs first key write.first)
  | delete {cache : ResponseCache} {layer : Nat} (key : String)
      (front : desk.front = .single cache layer) :
      Begins desk now none (desk.turn (.single cache.countDelete layer) [])
        [.work (.delete layer key)]
  | deleteTiered {tiers : TwoTier} {first second : Nat} (key : String)
      (front : desk.front = .tiered tiers first second) :
      Begins desk now none (desk.turn (.tiered tiers.countDelete first second) [])
        [.work (.delete first key), .work (.delete second key)]
  | remember {cache : ResponseCache} {layer : Nat} {write : ResponseCache.Write} (key : String)
      (kind : FailureKind) (front : desk.front = .single cache layer)
      (writes : cache.remember now kind = some write) :
      Begins desk now none (desk.turn (.single write.cache layer) write.signals)
        (Session.putJobs layer key (some write.content))
  | rememberTiered {tiers : TwoTier} {first second : Nat} {write : TwoTier.Write} (key : String)
      (kind : FailureKind) (front : desk.front = .tiered tiers first second)
      (writes : tiers.remember now kind = write) :
      Begins desk now none (desk.turn (.tiered write.tiers first second) write.signals)
        (Session.putJobs first key write.first ++ Session.putJobs second key write.second)
  | ignore {cache : ResponseCache} {layer : Nat} (front : desk.front = .single cache layer) :
      Begins desk now none (desk.turn (.single cache.ignoreFailures layer) []) []
  | ignoreTiered {tiers : TwoTier} {first second : Nat}
      (front : desk.front = .tiered tiers first second) :
      Begins desk now none (desk.turn (.tiered tiers.ignoreFailures first second) []) []
  | change {cache : ResponseCache} {layer : Nat} (rules : Policy → Policy)
      (front : desk.front = .single cache layer) :
      Begins desk now none (desk.turn (.single (cache.changePolicy rules) layer) []) []
  | changeTiered {tiers : TwoTier} {first second : Nat} (limit : Option Nat)
      (rules : Policy → Policy) (front : desk.front = .tiered tiers first second) :
      Begins desk now none
        (desk.turn (.tiered ({ tiers with limit }.changePolicy rules) first second) []) []

inductive Does (desk : Desk) (now : Millis) : Job → Desk → List Job → Prop
  | aside {job : Job} (aside : job.isAside = true) : Does desk now job desk []
  | enter {tiers : TwoTier} {first second : Nat} {last : Conclusion} (key : String) (hooks : Hooks)
      (front : desk.front = .tiered tiers first second) (ends : last.Last) :
      Does desk now (.find ⟨0, .whole⟩ key hooks last) desk
        [.find ⟨0, .firstTier⟩ key hooks (.firstTier 0 key hooks last)]
  | ask {part : FrontPart} {next : Conclusion} (layer : Nat) (key : String) (hooks : Hooks)
      (leads : next.Leads desk.front.isTiered part) :
      Does desk now (.find ⟨0, part⟩ key hooks next) desk
        [.work (.ask layer key (.client (.front ⟨0, part⟩ key hooks next)))]
  | wait {callback : Callback} (layer : Nat) (key : String) (lookup : Lookup)
      (heard : callback.Heard desk.front.isTiered) :
      Does desk now (.work (.ask layer key (.client callback)))
        { desk with waiting := desk.waiting ++ [(callback, lookup)] } []
  | answer {callback : Callback} (layer : Nat) (key : String) (lookup : Lookup)
      (heard : callback.Heard desk.front.isTiered) :
      Does desk now (.work (.ask layer key (.client callback))) desk
        [.work (.inform callback lookup)]
  | resolve {cache : ResponseCache} {layer : Nat} {resolution : ResponseCache.Resolution}
      {last : Conclusion} {key : String} {hooks : Hooks} {lookup : Lookup}
      (front : desk.front = .single cache layer)
      (resolves : cache.resolve now key hooks.checks lookup = resolution) (ends : last.Last) :
      Does desk now (.work (.inform (.front ⟨0, .whole⟩ key hooks last) lookup))
        (desk.turn (.single resolution.cache layer) resolution.signals)
        [.conclude last resolution.outcome]
  | resolveFirst {tiers : TwoTier} {first second : Nat} {resolution : ResponseCache.Resolution}
      {last : Conclusion} {key name : String} {hooks later : Hooks} {lookup : Lookup}
      (front : desk.front = .tiered tiers first second)
      (resolves : tiers.first.resolve now key hooks.checks lookup = resolution) (ends : last.Last) :
      Does desk now
        (.work (.inform (.front ⟨0, .firstTier⟩ key hooks (.firstTier 0 name later last)) lookup))
        (desk.turn (.tiered { tiers with first := resolution.cache } first second)
          resolution.signals)
        [.conclude (.firstTier 0 name later last) resolution.outcome]
  | resolveSecond {tiers : TwoTier} {first second : Nat} {resolution : ResponseCache.Resolution}
      {last : Conclusion} {key name : String} {hooks : Hooks} {earlier : Outcome} {lookup : Lookup}
      (front : desk.front = .tiered tiers first second)
      (resolves : tiers.second.resolve now key hooks.checks lookup = resolution)
      (ends : last.Last) :
      Does desk now
        (.work (.inform (.front ⟨0, .secondTier⟩ key hooks (.bothTiers 0 name earlier last))
          lookup))
        (desk.turn (.tiered { tiers with second := resolution.cache } first second)
          resolution.signals)
        [.conclude (.bothTiers 0 name earlier last) resolution.outcome]
  | serve {tiers : TwoTier} {first second : Nat} {last : Conclusion} {outcome : Outcome}
      (key : String) (hooks : Hooks) (front : desk.front = .tiered tiers first second)
      (found : outcome.isFound = true) (ends : last.Last) :
      Does desk now (.conclude (.firstTier 0 key hooks last) outcome)
        (desk.turn (.tiered tiers.countFirstHit first second) []) [.conclude last outcome]
  | pass {tiers : TwoTier} {first second : Nat} {last : Conclusion} {outcome : Outcome}
      (key : String) (hooks : Hooks) (front : desk.front = .tiered tiers first second)
      (missed : outcome.isFound = false) (ends : last.Last) :
      Does desk now (.conclude (.firstTier 0 key hooks last) outcome) desk
        [.find ⟨0, .secondTier⟩ key hooks (.bothTiers 0 key outcome last)]
  | complete {tiers : TwoTier} {first second : Nat} {completion : TwoTier.Completion}
      {last : Conclusion} {key : String} {earlier outcome : Outcome}
      (front : desk.front = .tiered tiers first second)
      (completes : tiers.complete key earlier outcome = completion) (ends : last.Last) :
      Does desk now (.conclude (.bothTiers 0 key earlier last) outcome)
        (desk.turn (.tiered completion.tiers first second) completion.signals)
        (Session.putJobs first key completion.backfill ++ [.conclude last completion.outcome])
  | tell {last : Conclusion} (outcome : Outcome) (ends : last.Last) :
      Does desk now (.conclude last outcome) { desk with told := desk.told + 1 } []

/-! ### What stays as it is -/

variable {desk next : Desk} {now : Millis} {job : Job} {receipt : Option Receipt} {more : List Job}

theorem Does.toll_lt (does : desk.Does now job next more) : Job.tollAll more < job.toll := by
  cases does with
  | aside aside =>
      rw [Job.toll_aside aside]
      exact Nat.zero_lt_one
  -- Each stage of a lookup is worth less than the one before, so that no lookup returns to one.
  | enter => exact Nat.lt_succ_self 10
  | ask layer key hooks leads => exact leads.toll_find key hooks
  | wait => exact Nat.succ_pos _
  | answer | resolve | resolveFirst | resolveSecond => exact Nat.lt_succ_self _
  | serve key hooks front found ends =>
      rw [Job.tollAll_singleton, Job.toll, ends.toll]
      exact Nat.lt_add_of_pos_left (Nat.succ_pos 5)
  | pass => exact Nat.lt_succ_self 6
  | @complete _ first _ completion _ key _ _ front completes ends =>
      have puts := Job.length_putJobs first key completion.backfill
      rw [Job.tollAll_append, Job.tollAll_singleton, Job.toll, ends.toll,
        Job.tollAll_asides (Job.asides_putJobs first key _)]
      exact Nat.lt_of_le_of_lt (Nat.add_le_add_right puts 1) (Nat.lt_succ_self 2)
  | tell outcome ends =>
      rw [Job.toll, ends.toll]
      exact Nat.zero_lt_one

theorem Begins.isTiered (begins : desk.Begins now receipt next more) :
    next.front.isTiered = desk.front.isTiered := by
  cases begins <;> simp only [turn, Front.isTiered, *]

theorem Does.isTiered (does : desk.Does now job next more) :
    next.front.isTiered = desk.front.isTiered := by
  cases does <;> simp only [turn, Front.isTiered, *]

def Attended (desk : Desk) : Prop :=
  ∀ entry ∈ desk.waiting, entry.1.Heard desk.front.isTiered

theorem Begins.attended (begins : desk.Begins now receipt next more) (attended : desk.Attended) :
    next.Attended := by
  have same : next.waiting = desk.waiting := by cases begins <;> rfl
  unfold Attended
  rw [begins.isTiered, same]
  exact attended

theorem Does.attended (does : desk.Does now job next more) (attended : desk.Attended) :
    next.Attended := by
  unfold Attended
  rw [does.isTiered]
  cases does with
  | wait layer key lookup heard =>
      intro entry member
      rcases List.mem_append.mp member with old | new
      · exact attended entry old
      · rw [List.mem_singleton.mp new]
        exact heard
  | _ => exact attended

/-- A use of the front starts a lookup, or leaves at most two jobs for its layers. -/
theorem Begins.jobs (begins : desk.Begins now receipt next more) :
    (∃ key hooks last, more = [.find ⟨0, .whole⟩ key hooks last] ∧ last.Last) ∨
      more.length ≤ 2 ∧ ∀ job ∈ more, job.isAside = true := by
  cases begins with
  | rest few asides => exact .inr ⟨few, asides⟩
  | find key hooks ends => exact .inl ⟨key, hooks, _, rfl, ends⟩
  | store key | remember key =>
      exact .inr ⟨Nat.le_succ_of_le (Job.length_putJobs _ key _), Job.asides_putJobs _ key _⟩
  | storeTiered key | rememberTiered key => exact .inr (Job.two_putJobs _ _ key _ _)
  | delete key front => exact .inr ⟨Nat.le_succ 1, by simp [Job.isAside]⟩
  | deleteTiered key front => exact .inr ⟨Nat.le_refl 2, by simp [Job.isAside]⟩
  | refuse | refuseTiered | ignore | ignoreTiered | change | changeTiered =>
      exact .inr ⟨Nat.zero_le 2, fun job member => absurd member List.not_mem_nil⟩

theorem Begins.toll_le (begins : desk.Begins now receipt next more) : Job.tollAll more ≤ 11 := by
  obtain ⟨key, hooks, last, rfl, ends⟩ | ⟨few, asides⟩ := begins.jobs
  · exact Nat.le_refl 11
  · rw [Job.tollAll_asides asides]
    exact Nat.le_trans few (Nat.le_add_left 2 9)

theorem Begins.proper (begins : desk.Begins now receipt next more) :
    ∀ job ∈ more, job.Proper next.front.isTiered := by
  obtain ⟨key, hooks, last, rfl, ends⟩ | ⟨few, asides⟩ := begins.jobs
  · exact List.forall_mem_singleton.mpr (.enter key hooks ends)
  · exact fun job member => .aside (asides job member)

theorem Does.proper (does : desk.Does now job next more) :
    ∀ job ∈ more, job.Proper next.front.isTiered := by
  rw [does.isTiered]
  cases does with
  | aside | wait | tell => exact fun job member => absurd member List.not_mem_nil
  | enter key hooks front ends =>
      rw [front]
      exact List.forall_mem_singleton.mpr (.find key hooks (.first key hooks ends))
  | ask layer key hooks leads =>
      exact List.forall_mem_singleton.mpr (.ask layer key (.front key hooks leads))
  | answer layer key lookup heard => exact List.forall_mem_singleton.mpr (.inform lookup heard)
  | resolve front resolves ends =>
      exact List.forall_mem_singleton.mpr (.tell _ ends)
  | resolveFirst front resolves ends =>
      rw [front]
      exact List.forall_mem_singleton.mpr (.conclude _ (.first _ _ ends))
  | resolveSecond front resolves ends =>
      rw [front]
      exact List.forall_mem_singleton.mpr (.conclude _ (.second _ _ ends))
  | serve key hooks front found ends => exact List.forall_mem_singleton.mpr (.tell _ ends)
  | pass key hooks front missed ends =>
      rw [front]
      exact List.forall_mem_singleton.mpr (.find key hooks (.second key _ ends))
  | complete front completes ends =>
      intro job member
      rcases List.mem_append.mp member with put | told
      · exact .aside (Job.asides_putJobs _ _ _ job put)
      · rw [List.mem_singleton.mp told]
        exact .tell _ ends

end Desk

end TieredCache
