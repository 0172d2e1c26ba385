import TieredCache.Proofs.Front.Desk

/-!
Runs of a front that is used in any way, while the layers behind it answer what they like and when
they like. Main statements: `Shows.begin` and `Shows.perform`, by which uses and jobs do nothing but
what is listed for the desk, and `run_lasting`, by which whatever lasts there holds after every run.
-/

namespace TieredCache

/-- If every step leaves less work than it does, nothing is left of a run that is long enough. -/
theorem Agenda.run_settles {State Work : Type} {perform : State → Work → State × List Work}
    {keeps : State → List Work → Prop} (toll : Work → Nat)
    (kept : ∀ state work rest, keeps state (work :: rest) →
      keeps (perform state work).1 ((perform state work).2 ++ rest) ∧
        ((perform state work).2.map toll).sum < toll work)
    (steps : Nat) (state : State) (work : List Work) (start : keeps state work)
    (enough : (work.map toll).sum ≤ steps) : keeps (Agenda.run perform steps state work).2 [] := by
  induction steps generalizing state work with
  | zero =>
      cases work with
      | nil => exact start
      | cons first rest =>
          obtain ⟨_, less⟩ := kept state first rest start
          rw [List.map_cons, List.sum_cons] at enough
          omega
  | succ steps ih =>
      cases work with
      | nil => exact start
      | cons first rest =>
          obtain ⟨next, less⟩ := kept state first rest start
          refine ih _ _ next ?_
          rw [List.map_cons, List.sum_cons] at enough
          rw [List.map_append, List.sum_append]
          omega

namespace Depot

def told (depot : Depot) : Nat :=
  depot.session.outcomes.length + depot.session.events.countP (·.isOutcome)

structure Shows (depot : Depot) (desk : Desk) : Prop where
  layers : depot.session.stack.layers = []
  fronts : depot.session.fronts = [desk.front]
  signals : depot.session.stack.signals = desk.signals
  told : depot.told = desk.told
  waiting : depot.waiting = desk.waiting

variable {depot : Depot} {desk : Desk}

theorem Shows.front? (shows : depot.Shows desk) : depot.session.front? 0 = some desk.front := by
  rw [Session.front?, shows.fronts]
  rfl

/-- A session that differs in its front and its signals. -/
theorem Shows.turn (shows : depot.Shows desk) (front : Front) (signals : List Signal) :
    { depot with session := (depot.session.setFront 0 front).signal signals }.Shows
      (desk.turn front signals) where
  layers := shows.layers
  fronts := by
    change depot.session.fronts.set 0 front = _
    rw [shows.fronts]
    rfl
  signals := by
    change signals.reverse ++ depot.session.stack.signals = _
    rw [shows.signals]
    rfl
  told := shows.told
  waiting := shows.waiting

theorem Shows.keep (shows : depot.Shows desk) (front : Front) :
    { depot with session := depot.session.setFront 0 front }.Shows (desk.turn front []) :=
  shows.turn front []

theorem Shows.signal (shows : depot.Shows desk) (signals : List Signal) :
    { depot with session := depot.session.signal signals }.Shows (desk.turn desk.front signals) :=
  ⟨shows.layers, shows.fronts, congrArg (signals.reverse ++ ·) shows.signals, shows.told,
    shows.waiting⟩

theorem Shows.promise (shows : depot.Shows desk) :
    { depot with session := depot.session.promise.1 }.Shows desk :=
  ⟨shows.layers, shows.fronts, shows.signals, shows.told, shows.waiting⟩

/-- Using layers changes nothing on the desk. -/
theorem Shows.lose (shows : depot.Shows desk) : depot.lose.Shows desk where
  layers := by rw [session_lose]; exact shows.layers
  fronts := by rw [session_lose]; exact shows.fronts
  signals := by rw [session_lose]; exact shows.signals
  told := by rw [Depot.told, session_lose]; exact shows.told
  waiting := by rw [waiting_lose]; exact shows.waiting

theorem Shows.fill (shows : depot.Shows desk) (layer : Nat) (key : String) (entry : Option Bytes) :
    (depot.fill layer key entry).Shows desk :=
  ⟨shows.layers, shows.fronts, shows.signals, shows.told, shows.waiting⟩

/-- So does noting checks that were made. -/
theorem Shows.note_consulted (shows : depot.Shows desk) (made : Consultation) :
    { depot with session := depot.session.note (.consulted made) }.Shows desk where
  layers := shows.layers
  fronts := shows.fronts
  signals := shows.signals
  told := shows.told
  waiting := shows.waiting

theorem Shows.noteConsultations (shows : depot.Shows desk) (hooks : Hooks)
    (consulted : List Consultation) :
    { depot with session := depot.session.noteConsultations hooks consulted }.Shows desk := by
  unfold Session.noteConsultations
  split
  · induction consulted generalizing depot with
    | nil => exact shows
    | cons made rest ih => exact ih (shows.note_consulted made)
  · exact shows

/-- A caller is told an outcome. -/
theorem Shows.tell (shows : depot.Shows desk) {last : Conclusion} (ends : last.Last)
    (outcome : Outcome) :
    { depot with session := (depot.session.conclude last outcome).1 }.Shows
        { desk with told := desk.told + 1 } ∧
      (depot.session.conclude last outcome).2 = [] := by
  have told := shows.told
  cases ends with
  | report label =>
      refine ⟨⟨shows.layers, shows.fronts, shows.signals, ?_, shows.waiting⟩, rfl⟩
      simp only [Depot.told, Session.conclude, Session.note, List.countP_cons, Event.isOutcome,
        if_true] at told ⊢
      omega
  | promise number =>
      refine ⟨⟨shows.layers, shows.fronts, shows.signals, ?_, shows.waiting⟩, rfl⟩
      simp only [Depot.told, Session.conclude, Session.settleOutcome, List.length_cons] at told ⊢
      omega

theorem cache?_of_shows (shows : depot.Shows desk) {part : FrontPart} {next : Conclusion}
    (leads : next.Leads desk.front.isTiered part) :
    ∃ cache layer, depot.session.cache? ⟨0, part⟩ = some (cache, layer) ∧
      depot.session.tiers? ⟨0, part⟩ = none := by
  unfold Session.cache? Session.tiers?
  simp only [shows.front?]
  cases front : desk.front <;> rw [front] at leads <;> cases leads <;> exact ⟨_, _, rfl, rfl⟩

theorem Shows.ask (shows : depot.Shows desk) (now : Millis) (layer : Nat) (key : String)
    {callback : Callback} (heard : callback.Heard desk.front.isTiered) :
    ∃ next, desk.Does now (.work (.ask layer key (.client callback))) next
        (depot.ask layer key callback).2 ∧ (depot.ask layer key callback).1.Shows next := by
  unfold Depot.ask
  split
  · refine ⟨_, .wait layer key (.ofOption (depot.shelves layer key)) heard, shows.layers,
      shows.fronts, shows.signals, shows.told, ?_⟩
    simp only [shows.waiting]
  · exact ⟨desk, .answer layer key _ heard, shows⟩

theorem Shows.enter (shows : depot.Shows desk) (key : String) (hooks : Hooks) {last : Conclusion}
    (ends : last.Last) :
    desk.Does depot.session.now (.find ⟨0, .whole⟩ key hooks last) desk
      (depot.session.find ⟨0, .whole⟩ key hooks last) := by
  have present := shows.front?
  cases front : desk.front with
  | single cache layer =>
      rw [front] at present
      simp only [Session.find, Session.tiers?, Session.cache?, present]
      exact .ask layer key hooks (by rw [front]; exact .whole ends)
  | tiered tiers first second =>
      rw [front] at present
      simp only [Session.find, Session.tiers?, present]
      exact .enter key hooks front ends

/-- A layer that is written or shut down. -/
theorem Shows.aside (shows : depot.Shows desk) {job : Job} (aside : job.isAside = true) :
    (depot.perform job).2 = [] ∧ (depot.perform job).1.Shows desk := by
  cases job with
  | work work =>
      cases work with
      | put layer key value => exact ⟨rfl, shows.lose.fill layer key (some value)⟩
      | delete layer key => exact ⟨rfl, shows.lose.fill layer key none⟩
      | shutDown layer =>
          have still : depot.session.stack.perform (.shutDown layer) =
              (depot.session.stack, []) := by
            unfold Stack.perform
            split
            · rfl
            · simp only [Stack.shutDown, Stack.layer?, shows.layers, List.getElem?_nil]
          simp only [Depot.perform, Session.perform, still]
          exact ⟨rfl, shows⟩
      | _ => cases aside
  | _ => cases aside

/-- The answer of a layer is judged by the cache before it. -/
theorem Shows.inform (shows : depot.Shows desk) {callback : Callback} (lookup : Lookup)
    (heard : callback.Heard desk.front.isTiered) :
    ∃ next, desk.Does depot.session.now (.work (.inform callback lookup)) next
        (depot.session.inform callback lookup).2 ∧
      { depot with session := (depot.session.inform callback lookup).1 }.Shows next := by
  obtain ⟨key, hooks, leads⟩ := heard
  have present := shows.front?
  cases front : desk.front with
  | single cache layer =>
      rw [front] at leads present
      cases leads with
      | whole ends =>
          simp only [Session.inform, Session.resolve, Session.cache?, Session.setCache, present]
          exact ⟨_, .resolve front rfl ends, (shows.turn _ _).noteConsultations hooks _⟩
  | tiered tiers first second =>
      rw [front] at leads present
      cases leads with
      | first name later ends =>
          simp only [Session.inform, Session.resolve, Session.cache?, Session.setCache, present]
          exact ⟨_, .resolveFirst front rfl ends, (shows.turn _ _).noteConsultations hooks _⟩
      | second name earlier ends =>
          simp only [Session.inform, Session.resolve, Session.cache?, Session.setCache, present]
          exact ⟨_, .resolveSecond front rfl ends, (shows.turn _ _).noteConsultations hooks _⟩

/-- The outcome of a part of a front goes on to whoever it leads to. -/
theorem Shows.conclude (shows : depot.Shows desk) {part : FrontPart} {next : Conclusion}
    (outcome : Outcome) (leads : next.Leads desk.front.isTiered part) :
    ∃ after, desk.Does depot.session.now (.conclude next outcome) after
        (depot.session.conclude next outcome).2 ∧
      { depot with session := (depot.session.conclude next outcome).1 }.Shows after := by
  have present := shows.front?
  cases front : desk.front with
  | single cache layer =>
      rw [front] at leads
      cases leads with
      | whole ends =>
          obtain ⟨told, none⟩ := shows.tell ends outcome
          exact ⟨_, none ▸ .tell outcome ends, told⟩
  | tiered tiers first second =>
      rw [front] at leads present
      cases leads with
      | first key hooks ends =>
          cases found : outcome.isFound with
          | true =>
              simp only [Session.conclude, found, present, if_true]
              exact ⟨_, .serve key hooks front found ends, shows.keep _⟩
          | false =>
              simp only [Session.conclude, found, Bool.false_eq_true, if_false]
              exact ⟨desk, .pass key hooks front found ends, shows⟩
      | second key earlier ends =>
          simp only [Session.conclude, present]
          exact ⟨_, .complete front rfl ends, shows.turn _ _⟩

/-- A job of a front does one of the things listed. -/
theorem Shows.perform (shows : depot.Shows desk) {job : Job}
    (proper : job.Proper desk.front.isTiered) :
    ∃ next, desk.Does depot.session.now job next (depot.perform job).2 ∧
      (depot.perform job).1.Shows next := by
  cases proper with
  | aside aside =>
      obtain ⟨none, kept⟩ := shows.aside aside
      exact ⟨desk, none ▸ .aside aside, kept⟩
  | enter key hooks ends => exact ⟨desk, shows.enter key hooks ends, shows⟩
  | find key hooks leads =>
      obtain ⟨cache, layer, present, alone⟩ := cache?_of_shows shows leads
      refine ⟨desk, ?_, shows⟩
      rw [perform_find, Session.find, alone, present]
      exact .ask layer key hooks leads
  | ask layer key heard => exact shows.lose.ask _ layer key heard
  | inform lookup heard => exact shows.inform lookup heard
  | conclude outcome leads => exact shows.conclude outcome leads
  | tell outcome ends =>
      obtain ⟨told, none⟩ := shows.tell ends outcome
      exact ⟨_, none ▸ .tell outcome ends, told⟩

/-! ### Uses -/

/-- Whether a response, as it would be stored now, is small enough for the first tier. -/
def fitsFirst (depot : Depot) (key : String) (head : Head) (body : Bytes) : Bool :=
  match depot.session.front? 0 with
  | some (.tiered tiers _ _) =>
      (tiers.second.prepare depot.session.now key head body).toOption.any (tiers.fits key)
  | _ => false

def receipt? (depot : Depot) : FrontAction → Reply → Option Receipt
  | .put key head body, .putResult refusal => some ⟨refusal, depot.fitsFirst key head body⟩
  | _, _ => none

def begin (depot : Depot) (action : FrontAction) : Session.Started :=
  depot.session.start "" (.mk (.front ⟨0, .whole⟩ action) none [])

structure Begun (depot : Depot) (desk : Desk) (action : FrontAction) (started : Session.Started)
    (receipt : Option Receipt) (next : Desk) : Prop where
  begins : desk.Begins depot.session.now receipt next started.jobs
  shows : { depot with session := started.session }.Shows next
  receipt : ∀ session, depot.receipt? action (started.reply session) = receipt

theorem Shows.begin_single (shows : depot.Shows desk) {cache : ResponseCache} {layer : Nat}
    (front : desk.front = .single cache layer) (action : FrontAction) :
    ∃ receipt next, depot.Begun desk action
      (depot.session.startCache "" [] ⟨0, .whole⟩ cache layer action) receipt next := by
  have present := shows.front?
  rw [front] at present
  have set (after : ResponseCache) :
      depot.session.setCache ⟨0, .whole⟩ after =
        depot.session.setFront 0 (.single after layer) := by
    simp only [Session.setCache, present]
  have resting : desk.Begins depot.session.now none desk [] :=
    .rest (Nat.zero_le 2) fun job member => absurd member List.not_mem_nil
  cases action with
  | put key head body =>
      simp only [Session.startCache, set]
      cases cache.prepare depot.session.now key head body with
      | error reason =>
          exact ⟨_, _, .refuse key reason front (depot.fitsFirst key head body), shows.signal _,
            fun _ => rfl⟩
      | ok stored =>
          exact ⟨_, _, .store key front (fun put member => Option.some.inj member ▸ rfl) rfl,
            shows.turn _ _, fun _ => rfl⟩
  | store key head body again =>
      simp only [Session.startCache, set]
      cases Stored.encode head body with
      | error fault => exact ⟨none, desk, resting, shows, fun _ => rfl⟩
      | ok stored =>
          exact ⟨none, _, .store key front (by simp) rfl, shows.turn _ _,
            fun _ => rfl⟩
  | find key hooks => exact ⟨none, desk, .find key hooks (.report ""), shows, fun _ => rfl⟩
  | lookup key hooks =>
      exact ⟨none, desk, .find key hooks (.promise depot.session.freshPromise),
        shows.promise, fun _ => rfl⟩
  | delete key =>
      simp only [Session.startCache, set]
      exact ⟨none, _, .delete key front, shows.keep _, fun _ => rfl⟩
  | remember key kind =>
      simp only [Session.startCache, set]
      cases remembered : cache.remember depot.session.now kind with
      | none => exact ⟨none, desk, resting, shows, fun _ => rfl⟩
      | some write =>
          exact ⟨none, _, .remember key kind front remembered, shows.turn _ _, fun _ => rfl⟩
  | ignoreFailures =>
      simp only [Session.startCache, set]
      exact ⟨none, _, .ignore front, shows.keep _, fun _ => rfl⟩
  | change changes =>
      simp only [Session.startCache, set]
      exact ⟨none, _, .change (FrontChange.applyAll changes) front, shows.keep _, fun _ => rfl⟩
  | shutDown =>
      exact ⟨none, desk, .rest (Nat.le_succ 1) (List.forall_mem_singleton.mpr rfl), shows,
        fun _ => rfl⟩
  | prepare | isIgnoringFailures | name | statistics | policy | describe =>
      exact ⟨none, desk, resting, shows, fun _ => rfl⟩

theorem Shows.begin_tiered (shows : depot.Shows desk) {tiers : TwoTier} {first second : Nat}
    (front : desk.front = .tiered tiers first second) (action : FrontAction) :
    ∃ receipt next, depot.Begun desk action
      (depot.session.startTiers "" [] ⟨0, .whole⟩ tiers first second action) receipt next := by
  have present := shows.front?
  rw [front] at present
  have resting : desk.Begins depot.session.now none desk [] :=
    .rest (Nat.zero_le 2) fun job member => absurd member List.not_mem_nil
  cases action with
  | put key head body =>
      simp only [Session.startTiers]
      cases prepared : tiers.second.prepare depot.session.now key head body with
      | error reason =>
          exact ⟨_, _, .refuseTiered reason front (depot.fitsFirst key head body), shows,
            fun _ => rfl⟩
      | ok stored =>
          refine ⟨_, _, .storeTiered key front rfl, shows.turn _ _, fun _ => ?_⟩
          have fits : depot.fitsFirst key head body = tiers.fits key stored := by
            simp only [fitsFirst, present, prepared, Except.toOption, Option.any_some]
          simp only [receipt?, fits]
  | find key hooks => exact ⟨none, desk, .find key hooks (.report ""), shows, fun _ => rfl⟩
  | lookup key hooks =>
      exact ⟨none, desk, .find key hooks (.promise depot.session.freshPromise),
        shows.promise, fun _ => rfl⟩
  | delete key => exact ⟨none, _, .deleteTiered key front, shows.keep _, fun _ => rfl⟩
  | remember key kind =>
      exact ⟨none, _, .rememberTiered key kind front rfl, shows.turn _ _, fun _ => rfl⟩
  | ignoreFailures => exact ⟨none, _, .ignoreTiered front, shows.keep _, fun _ => rfl⟩
  | change changes =>
      exact ⟨none, _, .changeTiered (FrontChange.limitAfter changes tiers.limit)
        (FrontChange.applyAll changes) front, shows.keep _, fun _ => rfl⟩
  | shutDown =>
      exact ⟨none, desk, .rest (Nat.le_refl 2)
        (List.forall_mem_cons.mpr ⟨rfl, List.forall_mem_singleton.mpr rfl⟩), shows, fun _ => rfl⟩
  | prepare | store | isIgnoringFailures | statistics | name | policy | describe =>
      exact ⟨none, desk, resting, shows, fun _ => rfl⟩

theorem Shows.begin (shows : depot.Shows desk) (action : FrontAction) :
    ∃ receipt next, depot.Begun desk action (depot.begin action) receipt next := by
  have present := shows.front?
  simp only [Depot.begin, Session.start, Step.action, Session.startFront, Session.tiers?,
    Session.cache?]
  cases front : desk.front with
  | single cache layer =>
      rw [front] at present
      simp only [present]
      exact shows.begin_single front action
  | tiered tiers first second =>
      rw [front] at present
      simp only [present]
      exact shows.begin_tiered front action

def act (depot : Depot) (action : Action) : Depot × Reply :=
  let started := depot.session.start "" (.mk action none [])
  let settled := { depot with session := started.session }.settle started.jobs
  (settled, started.reply settled.session)

theorem operate_eq_act (depot : Depot) (index : Nat) (operation : Operation) :
    depot.operate index operation = depot.act (operation.action index) := rfl

/-- Answers a lookup that waits. The answer may be any, not just the one that was kept back. -/
def answer (depot : Depot) (position : Nat) (lookup : Lookup) : Depot :=
  match depot.waiting[position]? with
  | none => depot
  | some (callback, _) =>
      { depot with waiting := depot.waiting.eraseIdx position }.settle
        [.work (.inform callback lookup)]

theorem deliver_eq_answer (depot : Depot) (position : Nat) :
    depot.deliver position =
      (depot.waiting[position]?).elim depot fun entry => depot.answer position entry.2 := by
  unfold deliver answer
  cases depot.waiting[position]? <;> rfl

end Depot

/-! ### Runs -/

inductive Opening where
  | single (name : String) (policy : Policy) (layer : Nat)
  | tiered (policy : Policy) (limit : Option Nat) (first second : Nat)

def Opening.front : Opening → Front
  | single name policy layer => .single { name, policy } layer
  | tiered policy limit first second => .tiered (.ofPolicy policy limit) first second

/-- What happens to a front and to the layers behind it. -/
inductive Occurrence where
  | use (action : FrontAction)
  | answer (position : Nat) (lookup : Lookup)
  | setTime (time : Millis)
  /-- The layers hold something else, become slow or quick, and lose entries as they are used. -/
  | stir (shelves : Nat → String → Option Bytes) (slow : Nat → Bool)
      (losses : List (Nat → String → Bool))

/-- A front in use, with the receipts of all puts, latest first. -/
structure Usage where
  depot : Depot
  receipts : List Receipt := []

/-- A property of receipts, a desk and the jobs left to do that lasts. -/
structure Desk.Lasting (keeps : List Receipt → Desk → List Job → Prop) : Prop where
  begins : ∀ {receipts : List Receipt} {desk next : Desk} {now : Millis} {receipt : Option Receipt}
    {jobs : List Job}, keeps receipts desk [] → desk.Begins now receipt next jobs →
      keeps (receipt.toList ++ receipts) next jobs
  does : ∀ {receipts : List Receipt} {desk next : Desk} {now : Millis} {job : Job}
    {rest more : List Job}, keeps receipts desk (job :: rest) → desk.Does now job next more →
      keeps receipts next (more ++ rest)
  answers : ∀ {receipts : List Receipt} {desk : Desk} {position : Nat} {callback : Callback}
    {kept : Lookup} (lookup : Lookup), keeps receipts desk [] →
      desk.waiting[position]? = some (callback, kept) →
        keeps receipts { desk with waiting := desk.waiting.eraseIdx position }
          [.work (.inform callback lookup)]

namespace Usage

def opened (opening : Opening) (now : Millis) : Usage where
  depot := { session := { stack := { layers := [], now }, fronts := [opening.front] } }

def step (usage : Usage) : Occurrence → Usage
  | .use action =>
      let (depot, reply) := usage.depot.act (.front ⟨0, .whole⟩ action)
      { depot, receipts := (usage.depot.receipt? action reply).toList ++ usage.receipts }
  | .answer position lookup => { usage with depot := usage.depot.answer position lookup }
  | .setTime time => { usage with depot := (usage.depot.act (.setTime time)).1 }
  | .stir shelves slow losses => { usage with depot := { usage.depot with shelves, slow, losses } }

def run (usage : Usage) (occurrences : List Occurrence) : Usage := occurrences.foldl step usage

def stored (usage : Usage) : Nat := usage.receipts.countP (·.refusal = none)

def fitted (usage : Usage) : Nat :=
  usage.receipts.countP fun receipt => receipt.refusal = none && receipt.fits

def refused (usage : Usage) (reason : String) : Nat :=
  usage.receipts.countP (·.refusal.any (·.name = reason))

/-! ### What lasts -/

variable {keeps : List Receipt → Desk → List Job → Prop} {tiered : Bool} {receipts : List Receipt}
  {depot : Depot} {desk : Desk} {jobs : List Job}

structure Stands (keeps : List Receipt → Desk → List Job → Prop) (tiered : Bool)
    (receipts : List Receipt) (depot : Depot) (jobs : List Job) (desk : Desk) : Prop where
  shows : depot.Shows desk
  kind : desk.front.isTiered = tiered
  attended : desk.Attended
  proper : ∀ job ∈ jobs, job.Proper tiered
  kept : keeps receipts desk jobs

theorem Stands.perform {job : Job} {rest : List Job} (lasting : Desk.Lasting keeps)
    (stands : Stands keeps tiered receipts depot (job :: rest) desk) :
    (∃ next, Stands keeps tiered receipts (depot.perform job).1
        ((depot.perform job).2 ++ rest) next) ∧
      ((depot.perform job).2.map Job.toll).sum < job.toll := by
  obtain ⟨own, others⟩ := List.forall_mem_cons.mp stands.proper
  obtain ⟨next, does, shows⟩ := stands.shows.perform (stands.kind.symm ▸ own)
  have kind : next.front.isTiered = tiered := does.isTiered.trans stands.kind
  refine ⟨⟨next, shows, kind, does.attended stands.attended, ?_, lasting.does stands.kept does⟩,
    does.toll_lt⟩
  intro job member
  rcases List.mem_append.mp member with new | old
  · exact kind ▸ does.proper job new
  · exact others job old

/-- All jobs are done in the end. -/
theorem Stands.settle (lasting : Desk.Lasting keeps)
    (stands : Stands keeps tiered receipts depot jobs desk)
    (few : Job.tollAll jobs ≤ Depot.credit) :
    ∃ next, Stands keeps tiered receipts (depot.settle jobs) [] next :=
  -- The desk differs from job to job, so the invariant of the run is that there is one.
  @Agenda.run_settles _ _ Depot.perform
    (fun depot jobs => ∃ desk, Stands keeps tiered receipts depot jobs desk) Job.toll
    (fun _ _ _ ⟨_, stands⟩ => stands.perform lasting) _ _ _ ⟨desk, stands⟩ few

theorem Stands.use (lasting : Desk.Lasting keeps)
    (stands : Stands keeps tiered receipts depot [] desk) (action : FrontAction) :
    let (settled, reply) := depot.act (.front ⟨0, .whole⟩ action)
    ∃ next, Stands keeps tiered ((depot.receipt? action reply).toList ++ receipts) settled []
      next := by
  obtain ⟨receipt, next, begun⟩ := stands.shows.begin action
  have kind : next.front.isTiered = tiered := begun.begins.isTiered.trans stands.kind
  have started : Stands keeps tiered (receipt.toList ++ receipts)
      { depot with session := (depot.begin action).session } (depot.begin action).jobs next :=
    ⟨begun.shows, kind, begun.begins.attended stands.attended, kind ▸ begun.begins.proper,
      lasting.begins stands.kept begun.begins⟩
  obtain ⟨last, settled⟩ :=
    started.settle lasting (Nat.le_trans begun.begins.toll_le (Nat.le_add_left 11 5))
  refine ⟨last, ?_⟩
  rw [← begun.receipt] at settled
  exact settled

theorem Stands.answer (lasting : Desk.Lasting keeps)
    (stands : Stands keeps tiered receipts depot [] desk) (position : Nat) (lookup : Lookup) :
    ∃ next, Stands keeps tiered receipts (depot.answer position lookup) [] next := by
  unfold Depot.answer
  rw [stands.shows.waiting]
  cases waits : desk.waiting[position]? with
  | none => exact ⟨desk, stands⟩
  | some entry =>
      obtain ⟨callback, kept⟩ := entry
      have heard := stands.attended _ (List.mem_of_getElem? waits)
      have shows := stands.shows
      have asked : Stands keeps tiered receipts
          { depot with waiting := desk.waiting.eraseIdx position }
          [.work (.inform callback lookup)]
          { desk with waiting := desk.waiting.eraseIdx position } :=
        ⟨⟨shows.layers, shows.fronts, shows.signals, shows.told, rfl⟩, stands.kind,
          fun entry member => stands.attended entry (List.mem_of_mem_eraseIdx member),
          List.forall_mem_singleton.mpr (.inform lookup (stands.kind ▸ heard)),
          lasting.answers lookup stands.kept waits⟩
      -- The credit covers what may follow: at most a lookup in the second tier and a backfill.
      refine asked.settle lasting ?_
      obtain ⟨key, hooks, leads⟩ := heard
      exact Nat.le_trans (Nat.succ_le_succ leads.toll_le) (Nat.le_add_left 8 8)

theorem Stands.setTime (stands : Stands keeps tiered receipts depot [] desk) (time : Millis) :
    Stands keeps tiered receipts (depot.act (.setTime time)).1 [] desk := by
  have shows := stands.shows
  exact ⟨⟨shows.layers, shows.fronts, shows.signals, shows.told, shows.waiting⟩, stands.kind,
    stands.attended, stands.proper, stands.kept⟩

theorem step_stands (lasting : Desk.Lasting keeps) {usage : Usage}
    (stands : Stands keeps tiered usage.receipts usage.depot [] desk) (occurrence : Occurrence) :
    ∃ next, Stands keeps tiered (usage.step occurrence).receipts (usage.step occurrence).depot []
      next := by
  have shows := stands.shows
  cases occurrence with
  | use action => exact stands.use lasting action
  | answer position lookup => exact stands.answer lasting position lookup
  | setTime time => exact ⟨desk, stands.setTime time⟩
  | stir shelves slow losses =>
      exact ⟨desk, ⟨shows.layers, shows.fronts, shows.signals, shows.told, shows.waiting⟩,
        stands.kind, stands.attended, stands.proper, stands.kept⟩

theorem run_stands (lasting : Desk.Lasting keeps) {usage : Usage}
    (stands : Stands keeps tiered usage.receipts usage.depot [] desk)
    (occurrences : List Occurrence) :
    ∃ next, Stands keeps tiered (usage.run occurrences).receipts (usage.run occurrences).depot []
      next := by
  induction occurrences generalizing usage desk with
  | nil => exact ⟨desk, stands⟩
  | cons occurrence rest ih =>
      obtain ⟨next, stepped⟩ := step_stands lasting stands occurrence
      exact ih stepped

/-- Whatever lasts holds after every run, with no job left. -/
theorem run_lasting (lasting : Desk.Lasting keeps) (opening : Opening)
    (start : keeps [] { front := opening.front } []) (now : Millis)
    (occurrences : List Occurrence) :
    let usage := (opened opening now).run occurrences
    ∃ desk, usage.depot.Shows desk ∧ desk.front.isTiered = opening.front.isTiered ∧
      keeps usage.receipts desk [] := by
  have fresh : Stands keeps opening.front.isTiered (opened opening now).receipts
      (opened opening now).depot [] { front := opening.front } :=
    ⟨⟨rfl, rfl, rfl, rfl, rfl⟩, rfl, fun entry member => absurd member List.not_mem_nil,
      fun job member => absurd member List.not_mem_nil, start⟩
  obtain ⟨desk, stands⟩ := run_stands lasting fresh occurrences
  exact ⟨desk, stands.shows, stands.kind, stands.kept⟩

end Usage

end TieredCache
