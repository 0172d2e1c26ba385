import TieredCache.Proofs.Decorators.Steps
import TieredCache.Proofs.Guard.Sequence
import TieredCache.Session.Run

/-!
The moments that a session with a guard can come to, whatever the layers behind the guard do and
whoever else uses the session. Jobs that are not work for a layer leave every guard as it is.
-/

namespace TieredCache

def Job.exit? (index : Nat) : Job → Option Exit
  | .work piece => piece.exit? index
  | _ => none

def exitsIn (index : Nat) (jobs : List Job) : List Exit := jobs.filterMap (Job.exit? index)

theorem exitsIn_cons (index : Nat) (job : Job) (jobs : List Job) :
    exitsIn index (job :: jobs) = (job.exit? index).toList ++ exitsIn index jobs := by
  rw [exitsIn, List.filterMap_cons]
  cases job.exit? index <;> rfl

theorem exitsIn_append (index : Nat) (first second : List Job) :
    exitsIn index (first ++ second) = exitsIn index first ++ exitsIn index second :=
  List.filterMap_append

theorem exitsIn_works (index : Nat) (works : List (Work Callback)) :
    exitsIn index (Session.works works) = exitsOf index works :=
  List.filterMap_map

namespace Session

variable {session next last : Session} {index inner : Nat} {guarded : Guard (Receiver Callback)}
  {jobs : List Job}

/-- One guard stays as it is, no way out of it is among the jobs, and whoever waits goes on waiting. -/
structure Spares (session : Session) (index : Nat) (next : Session) (jobs : List Job) : Prop where
  guard : ∀ inner guarded, session.stack.layer? index = some (.guarded inner guarded) →
    next.stack.layer? index = some (.guarded inner guarded)
  waits : session.stack.stuck = true → next.stack.stuck = true
  foreign : ∀ job ∈ jobs, job.exit? index = none

structure SameLayers (session next : Session) : Prop where
  layers : next.stack.layers = session.stack.layers
  stuck : next.stack.stuck = session.stack.stuck

theorem SameLayers.trans (first : session.SameLayers next) (second : next.SameLayers last) :
    session.SameLayers last :=
  ⟨second.layers.trans first.layers, second.stuck.trans first.stuck⟩

theorem SameLayers.spares (same : session.SameLayers next)
    (foreign : ∀ job ∈ jobs, job.exit? index = none) : session.Spares index next jobs :=
  ⟨fun _ _ placed => (congrArg (·[index]?) same.layers).trans placed, same.stuck.trans, foreign⟩

theorem Spares.of_stack (same : next.stack = session.stack)
    (foreign : ∀ job ∈ jobs, job.exit? index = none) : session.Spares index next jobs :=
  SameLayers.spares ⟨congrArg Stack.layers same, congrArg Stack.stuck same⟩ foreign

theorem sameLayers_setCache (session : Session) (place : FrontPlace) (cache : ResponseCache) :
    session.SameLayers (session.setCache place cache) := by
  unfold setCache
  split <;> exact ⟨rfl, rfl⟩

theorem sameLayers_signal (session : Session) (signals : List Signal) :
    session.SameLayers (session.signal signals) := ⟨rfl, rfl⟩

theorem sameLayers_noteConsultations (session : Session) (hooks : Hooks)
    (consulted : List Consultation) :
    session.SameLayers (session.noteConsultations hooks consulted) := by
  unfold noteConsultations
  split
  · induction consulted generalizing session with
    | nil => exact ⟨rfl, rfl⟩
    | cons made rest ih =>
        have noted : session.SameLayers (session.note (.consulted made)) := ⟨rfl, rfl⟩
        exact noted.trans (ih (session.note (.consulted made)))
  · exact ⟨rfl, rfl⟩

theorem furtherJobs_foreign (index : Nat) (label : String) (steps : List Step) :
    ∀ job ∈ furtherJobs label steps, job.exit? index = none := by
  intro job member
  obtain ⟨place, inside, rfl⟩ := List.mem_mapIdx.mp member
  rfl

theorem putJobs_foreign (index layer : Nat) (key : String) (content : Option Bytes) :
    ∀ job ∈ putJobs layer key content, job.exit? index = none :=
  List.forall_mem_map.mpr fun _ _ => rfl

/-! ### Answers on their way -/

theorem inform_spares (session : Session) (index : Nat) (callback : Callback) (lookup : Lookup) :
    session.Spares index (session.inform callback lookup).1 (session.inform callback lookup).2 := by
  cases callback with
  | report label further => exact SameLayers.spares ⟨rfl, rfl⟩ (furtherJobs_foreign index label further)
  | promise number => exact SameLayers.spares ⟨rfl, rfl⟩ (List.forall_mem_nil _)
  | front place key hooks next =>
      dsimp only [inform, resolve]
      split
      · exact SameLayers.spares ⟨rfl, rfl⟩ (List.forall_mem_nil _)
      · refine SameLayers.spares ?_ (List.forall_mem_singleton.mpr rfl)
        exact ((sameLayers_setCache session place _).trans (sameLayers_signal _ _)).trans
          (sameLayers_noteConsultations _ hooks _)

theorem forgetConclusion_stack (session : Session) (next : Conclusion) :
    (session.forgetConclusion next).stack = session.stack := by
  induction next with
  | report | promise => rfl
  | firstTier front key hooks next ih => exact ih
  | bothTiers front key first next ih => exact ih

theorem forget_stack (session : Session) (callback : Callback) :
    (session.forget callback).stack = session.stack := by
  cases callback with
  | report | promise => rfl
  | front place key hooks next => exact session.forgetConclusion_stack next

theorem conclude_spares (session : Session) (index : Nat) (next : Conclusion) (outcome : Outcome) :
    session.Spares index (session.conclude next outcome).1 (session.conclude next outcome).2 := by
  have single (job : Job) (foreign : job.exit? index = none) :
      ∀ other ∈ [job], other.exit? index = none := List.forall_mem_singleton.mpr foreign
  cases next with
  | report label further => exact SameLayers.spares ⟨rfl, rfl⟩ (furtherJobs_foreign index label further)
  | promise number => exact SameLayers.spares ⟨rfl, rfl⟩ (List.forall_mem_nil _)
  | firstTier front key hooks next =>
      dsimp only [conclude]
      split
      · split <;> exact SameLayers.spares ⟨rfl, rfl⟩ (single _ rfl)
      · exact SameLayers.spares ⟨rfl, rfl⟩ (single _ rfl)
  | bothTiers front key first next =>
      dsimp only [conclude]
      split
      · refine SameLayers.spares ⟨rfl, rfl⟩ (List.forall_mem_append.mpr ⟨?_, single _ rfl⟩)
        exact List.forall_mem_map.mpr fun _ _ => rfl
      · exact SameLayers.spares ⟨rfl, rfl⟩ (single _ rfl)

theorem find_foreign (session : Session) (index : Nat) (place : FrontPlace) (key : String)
    (hooks : Hooks) (next : Conclusion) :
    ∀ job ∈ session.find place key hooks next, job.exit? index = none := by
  unfold find
  split
  · exact List.forall_mem_singleton.mpr rfl
  · split
    · exact List.forall_mem_singleton.mpr rfl
    · exact List.forall_mem_nil _

/-! ### Steps -/

private theorem startDisk_spares (session : Session) (index : Nat) (action : DiskAction) :
    session.Spares index (session.startDisk action).session (session.startDisk action).jobs := by
  unfold startDisk
  cases action <;> exact SameLayers.spares ⟨rfl, rfl⟩ (List.forall_mem_nil _)

private theorem startService_spares (session : Session) (index : Nat) (action : ServiceAction) :
    session.Spares index (session.startService action).session
      (session.startService action).jobs := by
  unfold startService
  cases action <;> exact SameLayers.spares ⟨rfl, rfl⟩ (List.forall_mem_nil _)

private theorem startCache_spares (session : Session) (index : Nat) (label : String)
    (further : List Step) (place : FrontPlace) (cache : ResponseCache) (layer : Nat)
    (action : FrontAction) :
    session.Spares index (session.startCache label further place cache layer action).session
      (session.startCache label further place cache layer action).jobs := by
  have changed (cache : ResponseCache) : session.SameLayers (session.setCache place cache) :=
    sameLayers_setCache session place cache
  have written (cache : ResponseCache) (signals : List Signal) :
      session.SameLayers ((session.setCache place cache).signal signals) :=
    (changed cache).trans (sameLayers_signal _ signals)
  cases action with
  | put key head body =>
      dsimp only [startCache]
      split
      · exact (written _ _).spares (putJobs_foreign index layer key _)
      · exact SameLayers.spares ⟨rfl, rfl⟩ (List.forall_mem_nil _)
  | store key head body again =>
      dsimp only [startCache]
      split
      · exact (written _ _).spares (putJobs_foreign index layer key _)
      · exact SameLayers.spares ⟨rfl, rfl⟩ (List.forall_mem_nil _)
  | remember key kind =>
      dsimp only [startCache]
      split
      · exact (written _ _).spares (putJobs_foreign index layer key _)
      · exact SameLayers.spares ⟨rfl, rfl⟩ (List.forall_mem_nil _)
  | delete key => exact (changed _).spares (List.forall_mem_singleton.mpr rfl)
  | ignoreFailures => exact (changed _).spares (List.forall_mem_nil _)
  | change changes => exact (changed _).spares (List.forall_mem_nil _)
  | find key hooks => exact SameLayers.spares ⟨rfl, rfl⟩ (List.forall_mem_singleton.mpr rfl)
  | lookup key hooks => exact SameLayers.spares ⟨rfl, rfl⟩ (List.forall_mem_singleton.mpr rfl)
  | shutDown => exact SameLayers.spares ⟨rfl, rfl⟩ (List.forall_mem_singleton.mpr rfl)
  | _ => exact SameLayers.spares ⟨rfl, rfl⟩ (List.forall_mem_nil _)

private theorem startTiers_spares (session : Session) (index : Nat) (label : String)
    (further : List Step) (place : FrontPlace) (tiers : TwoTier) (first second : Nat)
    (action : FrontAction) :
    session.Spares index (session.startTiers label further place tiers first second action).session
      (session.startTiers label further place tiers first second action).jobs := by
  have both (left right : Work Callback) (own : left.exit? index = none)
      (other : right.exit? index = none) :
      ∀ job ∈ [Job.work left, Job.work right], job.exit? index = none :=
    List.forall_mem_cons.mpr ⟨own, List.forall_mem_singleton.mpr other⟩
  cases action with
  | put key head body =>
      dsimp only [startTiers]
      split
      · exact SameLayers.spares ⟨rfl, rfl⟩ (List.forall_mem_nil _)
      · exact SameLayers.spares ⟨rfl, rfl⟩ (List.forall_mem_append.mpr
          ⟨putJobs_foreign index second key _, putJobs_foreign index first key _⟩)
  | remember key kind =>
      exact SameLayers.spares ⟨rfl, rfl⟩ (List.forall_mem_append.mpr
        ⟨putJobs_foreign index first key _, putJobs_foreign index second key _⟩)
  | delete key => exact SameLayers.spares ⟨rfl, rfl⟩ (both _ _ rfl rfl)
  | shutDown => exact SameLayers.spares ⟨rfl, rfl⟩ (both _ _ rfl rfl)
  | find key hooks => exact SameLayers.spares ⟨rfl, rfl⟩ (List.forall_mem_singleton.mpr rfl)
  | lookup key hooks => exact SameLayers.spares ⟨rfl, rfl⟩ (List.forall_mem_singleton.mpr rfl)
  | _ => exact SameLayers.spares ⟨rfl, rfl⟩ (List.forall_mem_nil _)

private theorem startFront_spares (session : Session) (index : Nat) (label : String)
    (further : List Step) (place : FrontPlace) (action : FrontAction) :
    session.Spares index (session.startFront label further place action).session
      (session.startFront label further place action).jobs := by
  unfold startFront
  split
  · exact startTiers_spares session index label further place _ _ _ action
  · split
    · exact startCache_spares session index label further place _ _ action
    · exact SameLayers.spares ⟨rfl, rfl⟩ (List.forall_mem_nil _)

private theorem startLayer_spares (session : Session) (index : Nat) (label : String)
    (further : List Step) (layer : Nat) (action : LayerAction) :
    session.Spares index (session.startLayer label further layer action).session
      (session.startLayer label further layer action).jobs := by
  have tells (onward : Layer Callback → Option Nat) (reply : Reply) :
      session.Spares index
        (if session.stack.isBarred onward layer then
          { session with stack := { session.stack with stuck := true } }.answered .nothing
        else session.answered reply).session
        (if session.stack.isBarred onward layer then
          { session with stack := { session.stack with stuck := true } }.answered .nothing
        else session.answered reply).jobs := by
    split
    · exact ⟨fun _ _ placed => placed, fun _ => rfl, List.forall_mem_nil _⟩
    · exact .of_stack rfl (List.forall_mem_nil _)
  cases action with
  | query key => exact tells _ _
  | isHealthy => exact tells _ _
  | name => exact tells _ _
  | statistics =>
      refine ⟨fun inner guarded placed => ?_, id, List.forall_mem_nil _⟩
      have there : session.stack.layers[index]? = some (.guarded inner guarded) := placed
      change (session.stack.layers.modify layer Layer.tidy)[index]? = some (.guarded inner guarded)
      rw [List.getElem?_modify, there]
      split <;> rfl
  | describe =>
      dsimp only [startLayer]
      split <;> exact .of_stack rfl (List.forall_mem_nil _)
  | delayKey key =>
      dsimp only [startLayer, Stack.delayKey]
      split
      · rename_i there
        refine ⟨fun inner guarded placed => ?_, id, List.forall_mem_nil _⟩
        exact (List.getElem?_set_ne (Stack.ne_of_layer? placed there rfl)).trans placed
      · exact .of_stack rfl (List.forall_mem_nil _)
  | clean =>
      dsimp only [startLayer, cleanNow]
      split
      · rename_i there
        refine ⟨fun inner guarded placed => ?_, id, List.forall_mem_nil _⟩
        exact (List.getElem?_set_ne (Stack.ne_of_layer? placed there rfl)).trans placed
      · exact .of_stack rfl (List.forall_mem_nil _)
  | _ => exact .of_stack rfl (List.forall_mem_singleton.mpr rfl)

private theorem shutDownAll_foreign (session : Session) (index : Nat) :
    ∀ job ∈ session.shutDownAll, job.exit? index = none := by
  unfold shutDownAll
  split
  · exact List.forall_mem_nil _
  · exact List.forall_mem_map.mpr (List.forall_mem_map.mpr fun _ _ => rfl)

theorem start_spares (session : Session) (index : Nat) (label : String) (step : Step) :
    session.Spares index (session.start label step).session (session.start label step).jobs := by
  unfold start
  cases step.action with
  | advance span => exact SameLayers.spares ⟨rfl, rfl⟩ (List.forall_mem_nil _)
  | setTime time => exact SameLayers.spares ⟨rfl, rfl⟩ (List.forall_mem_nil _)
  | disk action => exact startDisk_spares session index action
  | service action => exact startService_spares session index action
  | layer layer action => exact startLayer_spares session index _ _ layer action
  | front place action => exact startFront_spares session index _ _ place action
  | shutDownAll => exact SameLayers.spares ⟨rfl, rfl⟩ (shutDownAll_foreign session index)
  | _ => exact SameLayers.spares ⟨rfl, rfl⟩ (List.forall_mem_nil _)

/-- A job is work for the layers, or it leaves every guard as it is. -/
theorem perform_cases (session : Session) (job : Job) :
    (∃ work, job = .work work ∧ session.perform job =
      ({ session with stack := (session.stack.perform work).1 },
        works (session.stack.perform work).2)) ∨
    ∀ index, job.exit? index = none ∧
      session.Spares index (session.perform job).1 (session.perform job).2 := by
  cases job with
  | work work =>
      cases work with
      | inform callback lookup =>
          exact .inr fun index => ⟨rfl, inform_spares session index callback lookup⟩
      | forget callback =>
          exact .inr fun index =>
            ⟨rfl, .of_stack (session.forget_stack callback) (List.forall_mem_nil _)⟩
      | _ => exact .inl ⟨_, rfl, rfl⟩
  | find place key hooks next =>
      exact .inr fun index =>
        ⟨rfl, .of_stack rfl (find_foreign session index place key hooks next)⟩
  | conclude next outcome =>
      exact .inr fun index => ⟨rfl, conclude_spares session index next outcome⟩
  | begin label step =>
      refine .inr fun index => ⟨rfl, ?_⟩
      have started := start_spares session index label step
      exact ⟨started.guard, started.waits, List.forall_mem_append.mpr
        ⟨started.foreign, List.forall_mem_singleton.mpr rfl⟩⟩
  | finish label reply => exact .inr fun index => ⟨rfl, .of_stack rfl (List.forall_mem_nil _)⟩

theorem waits_perform (job : Job) (stuck : session.stack.stuck = true) :
    (session.perform job).1.stack.stuck = true := by
  rcases session.perform_cases job with ⟨work, -, performed⟩ | spares
  · rw [performed, Stack.perform.eq_def, if_pos stuck]
    exact stuck
  · exact (spares 0).2.waits stuck

/-! ### Moments -/

def InStep (session : Session) (index : Nat) (jobs : List Job) : Prop :=
  ∃ inner guarded, session.stack.layer? index = some (.guarded inner guarded) ∧
    guarded.Sequenced (exitsIn index jobs)

theorem Spares.inStep (spares : session.Spares index next jobs) {rest : List Job}
    (inStep : session.InStep index rest) : next.InStep index (jobs ++ rest) := by
  obtain ⟨inner, guarded, placed, sequenced⟩ := inStep
  refine ⟨inner, guarded, spares.guard inner guarded placed, ?_⟩
  rw [exitsIn_append, exitsIn, List.filterMap_eq_nil_iff.mpr spares.foreign]
  exact sequenced

theorem InStep.perform {job : Job} {rest : List Job} (inStep : session.InStep index (job :: rest))
    (moving : (session.perform job).1.stack.stuck = false) :
    (session.perform job).1.InStep index ((session.perform job).2 ++ rest) := by
  rcases session.perform_cases job with ⟨work, rfl, performed⟩ | spares
  · obtain ⟨inner, guarded, placed, sequenced⟩ := inStep
    rw [performed] at moving ⊢
    obtain ⟨changed, there, effect⟩ := Stack.guard_effect placed work moving
    refine ⟨inner, changed, there, ?_⟩
    rw [exitsIn_cons] at sequenced
    rw [exitsIn_append, exitsIn_works]
    exact effect.sequenced sequenced
  · obtain ⟨foreign, spared⟩ := spares index
    rw [InStep, exitsIn_cons, foreign] at inStep
    exact spared.inStep inStep

/-- The moments of a session with a guard, as long as nobody waits for a guard that is held further out:
jobs are done one after the other, and at any time the layers behind the guard, the callbacks and whoever
uses the session may do what they like, short of going out of the guard for others. -/
inductive Reached (index : Nat) : Session → List Job → Prop where
  | opened {session : Session} {inner : Nat} (moving : session.stack.stuck = false)
      (placed : session.stack.layer? index = some (.guarded inner {})) : Reached index session []
  | performed {session : Session} {job : Job} {rest : List Job}
      (before : Reached index session (job :: rest))
      (moving : (session.perform job).1.stack.stuck = false) :
      Reached index (session.perform job).1 ((session.perform job).2 ++ rest)
  | meanwhile {session next : Session} {jobs rest : List Job} (before : Reached index session rest)
      (spares : session.Spares index next jobs) (moving : next.stack.stuck = false) :
      Reached index next (jobs ++ rest)

theorem Reached.moving (reached : session.Reached index jobs) : session.stack.stuck = false := by
  cases reached <;> assumption

theorem Reached.inStep (reached : session.Reached index jobs) : session.InStep index jobs := by
  induction reached with
  | opened moving placed => exact ⟨_, _, placed, Guard.sequenced_new⟩
  | performed before moving ih => exact ih.perform moving
  | meanwhile before spares moving ih => exact spares.inStep ih

/-! ### Whole steps -/

def Lasts (session : Session) (index : Nat) : Prop :=
  session.stack.stuck = false → ∃ left, session.Reached index left

theorem Spares.moving (spares : session.Spares index next jobs) (moving : next.stack.stuck = false) :
    session.stack.stuck = false := by
  refine Bool.eq_false_iff.mpr fun stuck => ?_
  rw [spares.waits stuck] at moving
  cases moving

theorem Lasts.meanwhile (lasts : session.Lasts index) (spares : session.Spares index next []) :
    next.Lasts index := by
  intro moving
  obtain ⟨left, reached⟩ := lasts (spares.moving moving)
  exact ⟨left, .meanwhile reached spares moving⟩

theorem Lasts.run (lasts : session.Lasts index) (foreign : ∀ job ∈ jobs, job.exit? index = none) :
    (session.run jobs).Lasts index := by
  let keeps (session : Session) (jobs : List Job) : Prop :=
    session.stack.stuck = false → ∃ rest, session.Reached index (jobs ++ rest)
  have kept (session : Session) (job : Job) (later : List Job) (before : keeps session (job :: later)) :
      keeps (session.perform job).1 ((session.perform job).2 ++ later) := by
    intro after
    have earlier : session.stack.stuck = false := Bool.eq_false_iff.mpr fun stuck => by
      rw [waits_perform job stuck] at after
      cases after
    obtain ⟨rest, reached⟩ := before earlier
    refine ⟨rest, ?_⟩
    rw [List.append_assoc]
    exact reached.performed after
  have begun : keeps session jobs := by
    intro moving
    obtain ⟨rest, reached⟩ := lasts moving
    exact ⟨rest, .meanwhile reached ⟨fun _ _ placed => placed, id, foreign⟩ moving⟩
  obtain ⟨left, ran⟩ := @Agenda.run_keeps _ _ Session.perform keeps kept session.credit session jobs
    begun
  have ended : (Agenda.run Session.perform session.credit session jobs).2.Lasts index := by
    intro moving
    obtain ⟨rest, reached⟩ := ran moving
    exact ⟨left ++ rest, reached⟩
  exact ended.meanwhile ⟨fun _ _ placed => placed, id, List.forall_mem_nil _⟩

/-- A session with the same layers. -/
theorem Lasts.beside (lasts : session.Lasts index) (same : session.SameLayers next) :
    next.Lasts index :=
  lasts.meanwhile (same.spares (List.forall_mem_nil _))

theorem Lasts.serve (lasts : session.Lasts index) (departure : Departure) :
    (session.serve departure).Lasts index := by
  refine Lasts.run ?_ (List.forall_mem_singleton.mpr rfl)
  exact lasts.beside ⟨rfl, rfl⟩

theorem Lasts.deliver (lasts : session.Lasts index) (departure : Departure) :
    (session.deliver departure).Lasts index := by
  unfold Session.deliver
  dsimp only
  split
  · exact lasts.run (List.forall_mem_singleton.mpr rfl)
  · split
    · split
      · exact lasts.beside ⟨rfl, rfl⟩
      · refine Lasts.serve ?_ departure
        exact lasts.beside ⟨rfl, rfl⟩
    · exact lasts.run (List.forall_mem_singleton.mpr rfl)

theorem Lasts.deliverAll (lasts : session.Lasts index) (rounds : Nat) :
    (session.deliverAll rounds).Lasts index := by
  induction rounds generalizing session with
  | zero => exact lasts
  | succ rounds ih =>
      rw [Session.deliverAll]
      split
      · exact lasts
      · refine ih (Lasts.deliver ?_ _)
        exact lasts.beside ⟨rfl, rfl⟩

theorem Lasts.serveAll (lasts : session.Lasts index) (departures : List Departure) :
    (departures.foldl Session.serve session).Lasts index := by
  induction departures generalizing session with
  | nil => exact lasts
  | cons departure rest ih => exact ih (lasts.serve departure)

theorem Lasts.serveWaiting (lasts : session.Lasts index) : session.serveWaiting.Lasts index := by
  unfold Session.serveWaiting
  split
  · exact lasts
  · refine Lasts.serveAll ?_ _
    exact lasts.beside ⟨rfl, rfl⟩

theorem Lasts.finished (lasts : session.Lasts index) (number : Nat) :
    (session.finished number).Lasts index := by
  have upkeep := session.upkeep_finished number
  refine lasts.meanwhile ⟨fun inner guarded placed => ?_, upkeep.moving.trans, List.forall_mem_nil _⟩
  have same := upkeep.layer? index
  rw [placed] at same
  obtain ⟨layer, there, bare⟩ := Option.map_eq_some_iff.mp same
  cases layer <;> cases bare
  exact there

/-- Whatever step is taken, a session is at these moments until somebody waits. -/
theorem Lasts.take (lasts : session.Lasts index) (number : Nat) (step : Step) :
    (session.take number step).1.Lasts index := by
  let begun := (session.prepared step).start ("s" ++ toString number) step
  have started := start_spares (session.prepared step) index ("s" ++ toString number) step
  have prepared : (session.prepared step).Lasts index := lasts.beside ⟨rfl, rfl⟩
  have opened : begun.session.Lasts index :=
    prepared.meanwhile ⟨started.guard, started.waits, List.forall_mem_nil _⟩
  have delivered := (opened.run started.foreign).deliverAll (begun.session.run begun.jobs).credit
  have served := delivered.serveWaiting
  exact (served.deliverAll _).finished number

end Session

end TieredCache
