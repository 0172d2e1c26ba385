import TieredCache.Proofs.Decorators.Steps
import TieredCache.Proofs.Disk.Access
import TieredCache.Command.Execution

/-!
Steps that have no lookup to wait for. Main statement: shutting down assembled tiers leaves the files,
the object store and what the memory tier does not hold as they are (`Rests.take`).
-/

namespace TieredCache

def Layer.Rests {α : Type} (key : String) : Layer α → Prop
  | .memory store => store.entries.lookup key = none
  | .disk _ | .void => True
  | .remote store => store.pending = []
  | .admission _ control => control.queue = []
  | .guarded .. | .counted .. | .delayed .. => False

namespace MemoryStore

variable {store : MemoryStore} {key : String}

theorem lookup_erase_none {entries : List (String × Bytes)} (missing : entries.lookup key = none)
    (other : String) : (Entries.erase entries other).lookup key = none := by
  by_cases same : key = other
  · rw [same]
    exact Entries.lookup_erase_self entries other
  · rw [Entries.lookup_erase_of_ne entries same]
    exact missing

theorem lookup_settle_none (writes : List MemoryWrite) (missing : store.entries.lookup key = none) :
    (store.settle writes).entries.lookup key = none := by
  induction writes generalizing store with
  | nil => exact missing
  | cons write rest ih =>
      cases write with
      | removal other => exact ih missing
      | put other weight =>
          rw [settle]
          split
          · exact ih missing
          · split
            · exact ih missing
            · split
              · exact ih missing
              · exact ih (lookup_erase_none missing other)

theorem lookup_dropFrom_none (rows : List (String × Nat))
    (missing : store.entries.lookup key = none) :
    (makeRoom.dropFrom rows store).entries.lookup key = none := by
  induction rows generalizing store with
  | nil => exact missing
  | cons row rest ih =>
      rw [makeRoom.dropFrom]
      split
      · exact missing
      · exact ih (lookup_erase_none missing row.1)

/-- Making room brings nothing back. -/
theorem lookup_tidy_none (missing : store.entries.lookup key = none) :
    store.tidy.entries.lookup key = none :=
  lookup_dropFrom_none _ (lookup_settle_none _ missing)

end MemoryStore

/-- A change of the times of entries cannot be seen in a list of files. -/
theorem untimed_lookup_map {stamp : FilePath × Entry → FilePath × Entry}
    (same : ∀ row, (stamp row).1 = row.1 ∧ (stamp row).2.untimed = row.2.untimed)
    (entries : List (FilePath × Entry)) (path : FilePath) :
    ((entries.map stamp).lookup path).map Entry.untimed =
      (entries.lookup path).map Entry.untimed := by
  induction entries with
  | nil => rfl
  | cons first rest ih =>
      obtain ⟨place, entry⟩ := same first
      rw [List.map_cons, List.lookup_cons, List.lookup_cons, place]
      cases path == first.1 with
      | true => exact congrArg some entry
      | false => exact ih

theorem FileTree.sameFiles_stampTree (tree : FileTree) (time : FileTime) :
    SameFiles tree (Session.stampTree tree time) := by
  intro path
  unfold find?
  split
  · rfl
  · refine untimed_lookup_map ?_ tree.entries path
    rintro ⟨place, entry⟩
    cases entry <;> exact ⟨rfl, rfl⟩

namespace Stack

variable {α : Type} {stack : Stack α} {key : String} {index : Nat}

theorem rests_setLayer {layer : Layer α} (rests : ∀ layer ∈ stack.layers, layer.Rests key)
    (fresh : layer.Rests key) : ∀ other ∈ (stack.setLayer index layer).layers, other.Rests key := by
  intro other member
  rcases List.mem_or_eq_of_mem_set member with old | new
  · exact rests other old
  · exact new ▸ fresh

structure Still (key : String) (stack next : Stack α) : Prop where
  tree : next.tree = stack.tree
  departures : next.departures = stack.departures
  checks : next.checks = stack.checks
  rests : ∀ layer ∈ next.layers, layer.Rests key

theorem Still.of_setLayer {layer : Layer α} (rests : ∀ layer ∈ stack.layers, layer.Rests key)
    (fresh : layer.Rests key) : Still key stack (stack.setLayer index layer) :=
  ⟨rfl, rfl, rfl, rests_setLayer rests fresh⟩

/-- Nobody is told anything by a shutdown when no lookup waits. -/
theorem perform_shutDown (rests : ∀ layer ∈ stack.layers, layer.Rests key) (index : Nat) :
    Still key stack (stack.perform (.shutDown index)).1 ∧
      ∀ work ∈ (stack.perform (.shutDown index)).2, ∃ inner, work = .shutDown inner := by
  have still : Still key stack stack := ⟨rfl, rfl, rfl, rests⟩
  rw [perform]
  split
  · exact ⟨still, List.forall_mem_nil _⟩
  · simp only [shutDown]
    cases present : stack.layer? index with
    | none => exact ⟨still, List.forall_mem_nil _⟩
    | some layer =>
        have own := rests layer (List.mem_of_getElem? present)
        cases layer with
        | memory store => exact ⟨.of_setLayer rests own, List.forall_mem_nil _⟩
        | disk store => exact ⟨.of_setLayer rests trivial, List.forall_mem_nil _⟩
        | remote store =>
            refine ⟨.of_setLayer rests rfl, ?_⟩
            have nobody : store.pending = [] := own
            simp only [RemoteStore.shutDown, nobody]
            exact List.forall_mem_nil _
        | admission inner admission =>
            refine ⟨.of_setLayer rests rfl, ?_⟩
            have nobody : admission.queue = [] := own
            simp only [Admission.close, nobody]
            intro work member
            exact ⟨inner, List.mem_singleton.mp member⟩
        | void => exact ⟨still, List.forall_mem_nil _⟩
        | _ => exact absurd own id

end Stack

namespace Session

variable {session : Session} {key : String}

structure Rests (key : String) (session : Session) : Prop where
  departures : session.stack.departures = []
  checks : session.stack.checks = []
  waiting : session.service.waiting = []
  layers : ∀ layer ∈ session.stack.layers, layer.Rests key

structure SameHoldings (session next : Session) : Prop where
  files : FileTree.SameFiles session.stack.tree next.stack.tree
  service : next.service = session.service

theorem SameHoldings.trans {next last : Session} (first : SameHoldings session next)
    (second : SameHoldings next last) : SameHoldings session last :=
  ⟨fun path => (second.files path).trans (first.files path), second.service.trans first.service⟩

/-- The end of a step of a session that rests. -/
theorem Rests.finished (rests : session.Rests key) (number : Nat) :
    (session.finished number).Rests key ∧ SameHoldings session (session.finished number) := by
  have checked : session.stack.runChecks = session.stack := by
    have kept : { session.stack with checks := [] } = session.stack := by rw [← rests.checks]
    rw [Stack.runChecks, rests.checks, List.foldl_nil, kept]
  have whole : session.finished number = { session with
      events := []
      stack := { session.stack with
        tree := stampTree session.stack.tree (timeOf number), signals := [] }.tidy } := by
    rw [Session.finished, checked]
  rw [whole]
  refine ⟨⟨rests.departures, rests.checks, rests.waiting, ?_⟩,
    ⟨FileTree.sameFiles_stampTree _ _, rfl⟩⟩
  intro layer member
  obtain ⟨before, present, rfl⟩ := List.mem_map.mp member
  have own := rests.layers before present
  cases before with
  | memory store => exact MemoryStore.lookup_tidy_none own
  | _ => exact own

theorem Rests.run (rests : session.Rests key) {jobs : List Job}
    (shut : ∀ job ∈ jobs, ∃ index, job = .work (.shutDown index)) :
    (session.run jobs).Rests key ∧ (session.run jobs).stack.tree = session.stack.tree ∧
      (session.run jobs).service = session.service := by
  let keeps (next : Session) (left : List Job) : Prop :=
    (next.Rests key ∧ next.stack.tree = session.stack.tree ∧ next.service = session.service) ∧
      ∀ job ∈ left, ∃ index, job = .work (.shutDown index)
  have step : ∀ next job left, keeps next (job :: left) →
      keeps (next.perform job).1 ((next.perform job).2 ++ left) := by
    rintro next job left ⟨⟨resting, tree, service⟩, only⟩
    obtain ⟨index, rfl⟩ := only job List.mem_cons_self
    obtain ⟨still, shuts⟩ := Stack.perform_shutDown resting.layers index
    refine ⟨⟨⟨still.departures.trans resting.departures, still.checks.trans resting.checks,
      resting.waiting, still.rests⟩, still.tree.trans tree, service⟩, ?_⟩
    intro other member
    rcases List.mem_append.mp member with fresh | rest
    · obtain ⟨work, left, rfl⟩ := List.mem_map.mp fresh
      obtain ⟨inner, rfl⟩ := shuts work left
      exact ⟨inner, rfl⟩
    · exact only other (List.mem_cons_of_mem _ rest)
  obtain ⟨left, kept, -⟩ := Agenda.run_keeps step session.credit session jobs
    ⟨⟨rests, rfl, rfl⟩, shut⟩
  exact ⟨⟨kept.1.departures, kept.1.checks, kept.1.waiting, kept.1.layers⟩, kept.2⟩

/-- Waiting for writes and shutting down leave everything in its place. -/
theorem Rests.take (rests : session.Rests key) {action : Action}
    (closing : action = .flush ∨ action = .shutDownAll) (number : Nat) :
    (session.take number (.mk action none [])).1.Rests key ∧
      SameHoldings session (session.take number (.mk action none [])).1 := by
  obtain ⟨jobs, starts, shut⟩ : ∃ jobs,
      ((session.prepared (.mk action none [])).start ("s" ++ toString number)
        (.mk action none [])) = ⟨session.prepared (.mk action none []), jobs, fun _ => .nothing⟩ ∧
      ∀ job ∈ jobs, ∃ index, job = .work (.shutDown index) := by
    rcases closing with rfl | rfl
    · exact ⟨[], rfl, List.forall_mem_nil _⟩
    · refine ⟨_, rfl, ?_⟩
      intro job member
      rw [shutDownAll] at member
      split at member
      · cases member
      · obtain ⟨work, shuts, rfl⟩ := List.mem_map.mp member
        obtain ⟨index, -, rfl⟩ := List.mem_map.mp shuts
        exact ⟨index, rfl⟩
  have ready : (session.prepared (.mk action none [])).Rests key :=
    ⟨rests.departures, rests.checks, rests.waiting, rests.layers⟩
  obtain ⟨ran, tree, service⟩ := ready.run shut
  obtain ⟨after, holdings⟩ := ran.finished number
  rw [(take_eq starts rfl ran.departures ran.waiting).1]
  refine ⟨after, ⟨?_, holdings.service.trans service⟩⟩
  have files := holdings.files
  rw [tree] at files
  exact files

end Session

end TieredCache
