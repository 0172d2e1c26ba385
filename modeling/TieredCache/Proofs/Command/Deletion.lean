import TieredCache.Proofs.Command.Rest
import TieredCache.Proofs.Disk.Removal

/-!
Deleting a key from the command line: which of the tiers that settings ask for still have an entry for
the key when the command is done. Main statement: `absent_after_delete`.
-/

namespace TieredCache.Command
open Session

variable {surroundings : Surroundings} {settings : Settings} {key : String}

/-! ### Assembled tiers -/

def assembled (surroundings : Surroundings) (settings : Settings) (tree : FileTree)
    (disk : Option DiskStore) (remote : Option (RemoteStore (Receiver Callback))) : Session :=
  let place := 1 + disk.toList.length
  let second := (remote.map fun _ => place + 1).or (disk.map fun _ => 1)
  { stack :=
      { layers := .memory { name := "memory", capacity := settings.memory.capacity } ::
          disk.toList.map .disk ++ remote.toList.flatMap fun store =>
            [.remote store, .admission place { settings := settings.admission }]
        tree
        now := surroundings.now }
    fronts := [assembledFront settings 0 second]
    service := surroundings.service
    tiers := some ⟨0, disk.map fun _ => 1, remote.map fun _ => place, 0⟩ }

def rootOf (surroundings : Surroundings) (directory : String) : Route :=
  ⟨Text.bytes directory, surroundings.directory⟩

def IsDisk (surroundings : Surroundings) (settings : Settings) (disk : Option DiskStore) : Prop :=
  disk.map (·.root) = settings.directory.map (rootOf surroundings)

def IsRemote (settings : Settings) (remote : Option (RemoteStore (Receiver Callback))) : Prop :=
  remote = settings.remote.map fun remote =>
    { name := "remote", base := remote.base, timeout := remote.storeTimeout }

theorem IsRemote.base_eq {store : RemoteStore (Receiver Callback)}
    (isRemote : IsRemote settings (some store)) {remote : RemoteSettings}
    (known : settings.remote = some remote) : store.base = remote.base := by
  rw [IsRemote, known] at isRemote
  cases isRemote
  rfl

theorem IsRemote.idle {store : RemoteStore (Receiver Callback)}
    (isRemote : IsRemote settings (some store)) : store.pending = [] := by
  obtain ⟨remote, -, rfl⟩ := Option.map_eq_some_iff.mp isRemote.symm
  rfl

theorem isDisk_of_openDisk {session : Session} {site : Site} {tree : FileTree}
    {disk : Option DiskStore} (here : site.directory = surroundings.directory)
    (opened : session.openDisk settings site = .ok (tree, disk)) :
    IsDisk surroundings settings disk := by
  unfold openDisk at opened
  unfold IsDisk
  cases named : settings.directory with
  | none =>
      rw [named] at opened
      cases opened
      rfl
  | some directory =>
      rw [named] at opened
      cases made : session.stack.tree.makeDirectories ⟨Text.bytes directory, site.directory⟩ with
      | error cause =>
          simp only [DiskStore.openAt, made] at opened
          cases opened
      | ok rooted =>
          simp only [DiskStore.openAt, made] at opened
          cases opened
          rw [Option.map_some, Option.map_some, rootOf, ← here]

theorem isRemote_of_openRemote {site : Site} {remote : Option (RemoteStore (Receiver Callback))}
    (opened : openRemote settings site = .ok remote) : IsRemote settings remote := by
  unfold openRemote at opened
  unfold IsRemote
  cases known : settings.remote with
  | none =>
      rw [known] at opened
      cases opened
      rfl
  | some own =>
      rw [known] at opened
      simp only at opened
      split at opened
      · cases opened
        rfl
      · cases opened

theorem eq_assembled {session : Session} {records : List Output}
    (built : assembleAll surroundings settings = .ok (session, records)) :
    ∃ tree disk remote, session = assembled surroundings settings tree disk remote ∧
      IsDisk surroundings settings disk ∧ IsRemote settings remote := by
  rw [assembleAll, Session.assemble] at built
  cases opened : Session.openDisk
      { stack := { layers := [], tree := surroundings.tree, now := surroundings.now } } settings
      { random := surroundings.random, directory := surroundings.directory } with
  | error cause =>
      simp only [opened] at built
      cases built
  | ok result =>
      obtain ⟨tree, disk⟩ := result
      cases remote : openRemote settings
          { random := surroundings.random, directory := surroundings.directory } with
      | error cause =>
          simp only [opened, remote] at built
          cases built
      | ok store =>
          simp only [opened, remote] at built
          obtain ⟨same, -⟩ := Prod.mk.inj (Except.ok.inj built)
          refine ⟨tree, disk, store, ?_, isDisk_of_openDisk rfl opened, isRemote_of_openRemote remote⟩
          rw [← same]
          cases disk <;> cases store <;> rfl

/-! ### The step that deletes -/

/-- Nothing is left behind for a key in the tiers that settings ask for. -/
def DiskLacks (surroundings : Surroundings) (settings : Settings) (tree : FileTree) (key : String) :
    Prop :=
  ∀ directory, settings.directory = some directory →
    DiskStore.Lacks (rootOf surroundings directory) tree key

/-- Lookups of a key with the object store are misses. -/
def RemoteLacks (settings : Settings) (store : ObjectStore) (key : String) : Prop :=
  ∀ remote, settings.remote = some remote → ∀ url, remote.base.object? key = some url →
    ∀ limit, (store.respond url.target .fetch).2.fetched limit url = .error .notFound

/-- The object store answers requests for the objects of a key. -/
structure Reachable (settings : Settings) (service : Service) (key : String) : Prop where
  serving : service.store.mode = .serving
  waiting : service.waiting = []
  there : ∀ remote, settings.remote = some remote → ∀ url, remote.base.object? key = some url →
    url.withoutCredentials.isRequestable = true ∧ service.isAt url = true

theorem fetched_after_remove {store : ObjectStore} (serving : store.mode = .serving)
    (target : String) (limit : Span) (url : Url) :
    ((store.respond target .remove).1.respond target .fetch).2.fetched limit url =
      .error .notFound := by
  have missing : (store.respond target .remove).1.mode = .serving ∧
      (store.respond target .remove).1.objects.lookup target = none := by
    simp only [ObjectStore.respond, serving, ObjectStore.serve]
    cases there : store.objects.lookup target with
    | none => exact ⟨serving, there⟩
    | some content => exact ⟨serving, Entries.lookup_erase_self store.objects target⟩
  rw [ObjectStore.respond, missing.1]
  simp only [ObjectStore.serve, missing.2]
  rfl

/-- Work that is done to its end in so many pieces, none of which tells anyone anything. -/
inductive Comes : Nat → Stack Callback → List (Work Callback) → Stack Callback → Prop where
  | done (stack : Stack Callback) : Comes 0 stack [] stack
  | next {pieces : Nat} {stack after last : Stack Callback} {work : Work Callback}
      {more rest : List (Work Callback)}
      (plain : ∀ session : Session, session.perform (.work work) =
        ({ session with stack := (session.stack.perform work).1 },
          works (session.stack.perform work).2))
      (performed : stack.perform work = (after, more))
      (comes : Comes pieces after (more ++ rest) last) :
      Comes (pieces + 1) stack (work :: rest) last

theorem Comes.run {pieces : Nat} {stack last : Stack Callback} {pool : List (Work Callback)}
    (comes : Comes pieces stack pool last) {session : Session} (shows : session.stack = stack)
    {spare : Nat} (credit : session.credit = spare + pieces) :
    session.run (works pool) = { session with stack := last, credit := spare } := by
  have ran : Agenda.run Session.perform (spare + pieces) session (works pool) =
      (spare, { session with stack := last }) := by
    clear credit
    induction comes generalizing session with
    | done stack => rw [works, List.map_nil, Agenda.run_nil, ← shows]; rfl
    | @next pieces stack after last work more rest plain performed comes ih =>
        have step : session.perform (.work work) =
            ({ session with stack := after }, works more) := by
          rw [plain, shows, performed]
        have rest := @ih { session with stack := after } rfl
        rw [works, List.map_append] at rest
        rw [works, List.map_cons, ← Nat.add_assoc, Agenda.run_cons, step]
        exact rest
  rw [Session.run, credit, ran]

/-! ### Pieces of work -/

section Pieces

variable {stack : Stack Callback} {place : Nat}

theorem perform_delete (moving : stack.stuck = false) :
    stack.perform (.delete place key) = stack.delete place key := by
  rw [Stack.perform, moving, if_neg Bool.false_ne_true]

theorem delete_memory {store : MemoryStore} (present : stack.layer? place = some (.memory store)) :
    stack.delete place key = (stack.setLayer place (.memory (store.delete key)), []) := by
  simp only [Stack.delete, present]

theorem delete_disk {store : DiskStore} (present : stack.layer? place = some (.disk store)) :
    stack.delete place key =
      ({ stack with tree := (store.delete stack.tree key).1 }.signal
        (store.delete stack.tree key).2, []) := by
  simp only [Stack.delete, present]

theorem delete_admission {inner : Nat} {admission : Admission (Receiver Callback)}
    (present : stack.layer? place = some (.admission inner admission)) :
    stack.delete place key = (stack, [.delete inner key]) := by
  simp only [Stack.delete, present]

theorem delete_remote {store : RemoteStore (Receiver Callback)} {url : Url}
    (present : stack.layer? place = some (.remote store))
    (object : store.base.object? key = some url) :
    stack.delete place key =
      ((stack.setLayer place (.remote { store with writes := store.writes + 1 })).depart place
        ⟨url, .removal⟩, []) := by
  simp only [Stack.delete, present, RemoteStore.delete, object, Option.map_some]

theorem delete_remote_none {store : RemoteStore (Receiver Callback)}
    (present : stack.layer? place = some (.remote store)) (none : store.base.object? key = none) :
    stack.delete place key = (stack, []) := by
  simp only [Stack.delete, present, RemoteStore.delete, none, Option.map_none]

theorem arrive_removal {store : RemoteStore (Receiver Callback)} {url : Url}
    (present : stack.layer? place = some (.remote store)) (response : ServiceAnswer) :
    stack.arrive ⟨place, ⟨url, .removal⟩⟩ response =
      ((stack.setLayer place (.remote { store.noteHealth response with writes := store.writes - 1 })).signal
        (store.receive ⟨url, .removal⟩ response).signals, []) := by
  simp only [Stack.arrive, present]
  rfl

end Pieces

/-! ### The request to the object store -/

/-- The session once a removal has arrived at the object store and was answered. -/
theorem deliver_removal {session : Session} {store : RemoteStore (Receiver Callback)} {place : Nat}
    {url : Url} {spare : Nat} (credit : session.credit = spare + 2)
    (moving : session.stack.stuck = false)
    (departures : session.stack.departures = [⟨place, ⟨url, .removal⟩⟩])
    (present : session.stack.layer? place = some (.remote store)) (idle : store.pending = [])
    (serving : session.service.store.mode = .serving)
    (requestable : url.withoutCredentials.isRequestable = true)
    (there : session.service.isAt url = true)
    (layers : ∀ layer ∈ session.stack.layers, layer.Rests key)
    (checks : session.stack.checks = []) (waiting : session.service.waiting = []) :
    (session.deliverAll session.credit).Rests key ∧
      (session.deliverAll session.credit).stack.tree = session.stack.tree ∧
      (session.deliverAll session.credit).service.store =
        (session.service.store.respond url.target .remove).1 := by
  let sent : Stack Callback := { session.stack with departures := [] }
  let response := (session.service.store.respond url.target .remove).2
  let received : Service :=
    { session.service with
      received := session.service.received ++ [(⟨url, .removal⟩ : RemoteRequest).text]
      store := (session.service.store.respond url.target .remove).1 }
  let arrived : Session := { session with stack := sent, service := received }
  have known : sent.layer? place = some (.remote store) := present
  have performed : sent.perform (.arrive ⟨place, ⟨url, .removal⟩⟩ response) =
      ((sent.setLayer place (.remote
          { store.noteHealth response with writes := store.writes - 1 })).signal
        (store.receive ⟨url, .removal⟩ response).signals, []) := by
    rw [Stack.perform, moving, if_neg Bool.false_ne_true]
    exact arrive_removal known response
  have shows : arrived.stack = sent := rfl
  have answered := (Comes.next (fun _ => rfl) performed (.done _)).run shows credit
  have delivered : ({ session with stack := sent } : Session).deliver ⟨place, ⟨url, .removal⟩⟩ =
      arrived.run (works [.arrive ⟨place, ⟨url, .removal⟩⟩ response]) := by
    have destination : RemoteRequest.destination ⟨url, .removal⟩ = url.withoutCredentials := rfl
    have isOpen : session.service.store.mode ≠ .holding := by
      rw [serving]
      rintro ⟨⟩
    simp only [deliver, destination, requestable, Bool.not_true, Bool.false_eq_true, if_false,
      there, if_true, if_neg isOpen]
    rfl
  have whole : session.deliverAll session.credit = { arrived with
      stack := (sent.setLayer place (.remote
          { store.noteHealth response with writes := store.writes - 1 })).signal
        (store.receive ⟨url, .removal⟩ response).signals
      credit := spare + 1 } := by
    rw [credit, deliverAll]
    simp only [departures]
    rw [delivered, answered]
    exact deliverAll_of_settled rfl _
  rw [whole]
  refine ⟨⟨rfl, checks, waiting, ?_⟩, rfl, rfl⟩
  exact Stack.rests_setLayer layers idle

/-- A step whose requests are all answered. -/
theorem take_delivered {session : Session} {number : Nat} {step : Step} {started : Started}
    (starts : (session.prepared step).start ("s" ++ toString number) step = started)
    (rests : ((started.session.run started.jobs).deliverAll
      (started.session.run started.jobs).credit).Rests key) :
    (session.take number step).1 = ((started.session.run started.jobs).deliverAll
      (started.session.run started.jobs).credit).finished number := by
  rw [prepared] at starts
  simp only [take, starts, serveWaiting_of_served rests.waiting,
    deliverAll_of_settled rests.departures]
  rfl

/-! ### The step that deletes -/

section Step

variable {stack : Stack Callback} {memory : MemoryStore} {place : Nat}

theorem comes_disk {disk : DiskStore} (moving : stack.stuck = false)
    (first : stack.layer? 0 = some (.memory memory)) (second : stack.layer? 1 = some (.disk disk)) :
    Comes 2 stack [.delete 0 key, .delete 1 key]
      ({ stack.setLayer 0 (.memory (memory.delete key)) with
        tree := (disk.delete stack.tree key).1 }.signal (disk.delete stack.tree key).2) := by
  have still : (stack.setLayer 0 (.memory (memory.delete key))).stuck = false := moving
  refine .next (fun _ => rfl) ((perform_delete moving).trans (delete_memory first)) ?_
  refine .next (fun _ => rfl) ((perform_delete still).trans (delete_disk ?_)) (.done _)
  exact (Stack.layer?_setLayer_of_ne Nat.zero_ne_one).trans second

/-- The deletion gets to the remote tier, but to nothing between that and the memory tier. -/
theorem comes_remote {control : Admission (Receiver Callback)} {last : Stack Callback}
    (moving : stack.stuck = false) (first : stack.layer? 0 = some (.memory memory))
    (second : stack.layer? (place + 1) = some (.admission place control))
    (performed : (stack.setLayer 0 (.memory (memory.delete key))).delete place key = (last, [])) :
    Comes 3 stack [.delete 0 key, .delete (place + 1) key] last := by
  have still : (stack.setLayer 0 (.memory (memory.delete key))).stuck = false := moving
  have known : (stack.setLayer 0 (.memory (memory.delete key))).layer? (place + 1) =
      some (.admission place control) :=
    (Stack.layer?_setLayer_of_ne (Nat.succ_ne_zero place).symm).trans second
  refine .next (fun _ => rfl) ((perform_delete moving).trans (delete_memory first)) ?_
  refine .next (fun _ => rfl) ((perform_delete still).trans (delete_admission known)) ?_
  exact .next (fun _ => rfl) ((perform_delete still).trans performed) (.done _)

end Step

def deletion (key : String) : Step := .mk (.front ⟨0, .whole⟩ (.delete key)) none []

def begun (session : Session) (key : String) : Started :=
  (session.prepared (deletion key)).start ("s" ++ toString 0) (deletion key)

theorem take_quiet {session ran : Session}
    (runs : (begun session key).session.run (begun session key).jobs = ran)
    (rests : ran.Rests key) :
    ((session.take 0 (deletion key)).1).Rests key ∧
      SameHoldings ran (session.take 0 (deletion key)).1 := by
  rw [(take_eq rfl runs rests.departures rests.waiting).1]
  exact rests.finished 0

theorem rests_assembled (surroundings : Surroundings) (tree : FileTree) (disk : Option DiskStore)
    {remote : Option (RemoteStore (Receiver Callback))} (isRemote : IsRemote settings remote) :
    ∀ layer ∈ (assembled surroundings settings tree disk remote).stack.layers, layer.Rests key := by
  intro layer member
  rcases List.mem_append.mp member with front | back
  · rcases List.mem_cons.mp front with rfl | between
    · rfl
    · obtain ⟨store, -, rfl⟩ := List.mem_map.mp between
      trivial
  · obtain ⟨store, own, behind⟩ := List.mem_flatMap.mp back
    rw [Option.mem_toList, isRemote, Option.map_eq_some_iff] at own
    obtain ⟨remote, -, rfl⟩ := own
    rcases List.mem_cons.mp behind with rfl | last
    · rfl
    · rw [List.mem_singleton.mp last]
      rfl

theorem rests_delete (memory : MemoryStore) (key : String) :
    (Layer.memory (memory.delete key) : Layer Callback).Rests key :=
  Entries.lookup_erase_self memory.entries key

theorem take_deletion_alone (tree : FileTree) (isRemote : IsRemote settings none)
    (waiting : surroundings.service.waiting = []) :
    let session := assembled surroundings settings tree none none
    (session.take 0 (deletion key)).1.Rests key ∧
      SameHoldings session (session.take 0 (deletion key)).1 := by
  intro session
  let started := begun session key
  have comes : Comes 1 started.session.stack [.delete 0 key] _ :=
    .next (fun _ => rfl) ((perform_delete rfl).trans (delete_memory rfl)) (.done _)
  have credit : started.session.credit = 399 + 1 := by
    change 0 + 2 * (40 * (1 + 4)) = _
    rfl
  have layers : ∀ layer ∈ session.stack.layers, layer.Rests key :=
    rests_assembled surroundings tree none isRemote
  obtain ⟨rests, ⟨files, service⟩⟩ := take_quiet (comes.run rfl credit)
    ⟨rfl, rfl, waiting, Stack.rests_setLayer layers (rests_delete _ key)⟩
  exact ⟨rests, files, service⟩

theorem take_deletion_disk (tree : FileTree) (disk : DiskStore) (isRemote : IsRemote settings none)
    (waiting : surroundings.service.waiting = []) :
    let session := assembled surroundings settings tree (some disk) none
    let after := (session.take 0 (deletion key)).1
    after.Rests key ∧ FileTree.SameFiles (disk.delete tree key).1 after.stack.tree ∧
      after.service = surroundings.service := by
  intro session after
  let started := begun session key
  have comes : Comes 2 started.session.stack [.delete 0 key, .delete 1 key] _ :=
    comes_disk rfl rfl rfl
  have credit : started.session.credit = 478 + 2 := by
    change 0 + 2 * (40 * (2 + 4)) = _
    rfl
  have layers : ∀ layer ∈ session.stack.layers, layer.Rests key :=
    rests_assembled surroundings tree (some disk) isRemote
  obtain ⟨rests, ⟨files, service⟩⟩ := take_quiet (comes.run rfl credit)
    ⟨rfl, rfl, waiting, Stack.rests_setLayer layers (rests_delete _ key)⟩
  exact ⟨rests, files, service⟩

/-- A deletion that gets to a remote tier behind an admission control, when it starts. -/
structure Reaches (key : String) (started : Started) (memory : MemoryStore) (place : Nat)
    (store : RemoteStore (Receiver Callback)) : Prop where
  jobs : started.jobs = works [.delete 0 key, .delete (place + 1) key]
  credit : ∃ spare, started.session.credit = spare + 2 + 3
  moving : started.session.stack.stuck = false
  departures : started.session.stack.departures = []
  checks : started.session.stack.checks = []
  waiting : started.session.service.waiting = []
  first : started.session.stack.layer? 0 = some (.memory memory)
  second : ∃ control, started.session.stack.layer? (place + 1) = some (.admission place control)
  behind : started.session.stack.layer? place = some (.remote store)
  apart : 0 ≠ place
  idle : store.pending = []
  layers : ∀ layer ∈ started.session.stack.layers, layer.Rests key

section Reaches

variable {session : Session} {started : Started} {memory : MemoryStore} {place : Nat}
  {store : RemoteStore (Receiver Callback)}

theorem Reaches.forgotten (reaches : Reaches key started memory place store) :
    (started.session.stack.setLayer 0 (.memory (memory.delete key))).layer? place =
        some (.remote store) ∧
      ∀ layer ∈ (started.session.stack.setLayer 0 (.memory (memory.delete key))).layers,
        layer.Rests key :=
  ⟨(Stack.layer?_setLayer_of_ne reaches.apart).trans reaches.behind,
    Stack.rests_setLayer reaches.layers (rests_delete memory key)⟩

theorem Reaches.run (reaches : Reaches key started memory place store) {last : Stack Callback}
    (performed : (started.session.stack.setLayer 0 (.memory (memory.delete key))).delete place key =
      (last, [])) :
    ∃ spare, started.session.run started.jobs =
      { started.session with stack := last, credit := spare + 2 } := by
  obtain ⟨spare, credit⟩ := reaches.credit
  obtain ⟨control, second⟩ := reaches.second
  have comes := comes_remote reaches.moving reaches.first second performed
  exact ⟨spare, reaches.jobs ▸ comes.run rfl credit⟩

/-- No object belongs to the key: nothing is sent. -/
theorem Reaches.take_unnamed (reaches : Reaches key (begun session key) memory place store)
    (object : store.base.object? key = none) :
    (session.take 0 (deletion key)).1.Rests key ∧
      FileTree.SameFiles (begun session key).session.stack.tree
        (session.take 0 (deletion key)).1.stack.tree := by
  obtain ⟨behind, layers⟩ := reaches.forgotten
  obtain ⟨spare, runs⟩ := reaches.run (delete_remote_none behind object)
  obtain ⟨rests, holdings⟩ :=
    take_quiet runs ⟨reaches.departures, reaches.checks, reaches.waiting, layers⟩
  exact ⟨rests, holdings.files⟩

/-- The object of the key is removed from the object store. -/
theorem Reaches.take_named (reaches : Reaches key (begun session key) memory place store)
    {url : Url} (object : store.base.object? key = some url)
    (serving : (begun session key).session.service.store.mode = .serving)
    (requestable : url.withoutCredentials.isRequestable = true)
    (there : (begun session key).session.service.isAt url = true) :
    (session.take 0 (deletion key)).1.Rests key ∧
      FileTree.SameFiles (begun session key).session.stack.tree
        (session.take 0 (deletion key)).1.stack.tree ∧
      (session.take 0 (deletion key)).1.service.store =
        ((begun session key).session.service.store.respond url.target .remove).1 := by
  obtain ⟨behind, layers⟩ := reaches.forgotten
  obtain ⟨spare, runs⟩ := reaches.run (delete_remote behind object)
  let counted : Layer Callback := .remote { store with writes := store.writes + 1 }
  let sent : Stack Callback := ((begun session key).session.stack.setLayer 0
    (.memory (memory.delete key))).setLayer place counted
  have under : sent.layer? place = some counted :=
    List.getElem?_set_self (List.getElem?_eq_some_iff.mp behind).1
  have departures : (begun session key).session.stack.departures ++ [⟨place, ⟨url, .removal⟩⟩] =
      [⟨place, ⟨url, .removal⟩⟩] := by
    rw [reaches.departures]
    rfl
  have delivered := @deliver_removal key
    { (begun session key).session with
      stack := sent.depart place ⟨url, .removal⟩
      credit := spare + 2 }
    _ place url spare rfl reaches.moving departures under reaches.idle serving requestable there
    (Stack.rests_setLayer layers reaches.idle) reaches.checks reaches.waiting
  rw [← runs] at delivered
  obtain ⟨rests, kept, answered⟩ := delivered
  obtain ⟨after, holdings⟩ := rests.finished 0
  have files := holdings.files
  have before : ((begun session key).session.run (begun session key).jobs).stack.tree =
      (begun session key).session.stack.tree := by
    rw [runs]
    rfl
  rw [kept, before] at files
  rw [@take_delivered key session 0 (deletion key) (begun session key) rfl rests]
  refine ⟨after, files, ?_⟩
  rw [holdings.service]
  exact answered.trans (by rw [runs])

end Reaches

theorem reaches_assembled (tree : FileTree) (disk : Option DiskStore)
    {store : RemoteStore (Receiver Callback)} (isRemote : IsRemote settings (some store))
    (waiting : surroundings.service.waiting = []) :
    Reaches key (begun (assembled surroundings settings tree disk (some store)) key)
      { name := "memory", capacity := settings.memory.capacity } (1 + disk.toList.length) store where
  jobs := by cases disk <;> rfl
  credit := by
    cases disk with
    | none => exact ⟨555, by change 0 + 2 * (40 * (3 + 4)) = _; rfl⟩
    | some disk => exact ⟨635, by change 0 + 2 * (40 * (4 + 4)) = _; rfl⟩
  moving := by cases disk <;> rfl
  departures := by cases disk <;> rfl
  checks := by cases disk <;> rfl
  waiting := by cases disk <;> exact waiting
  first := by cases disk <;> rfl
  second := ⟨{ settings := settings.admission }, by cases disk <;> rfl⟩
  behind := by cases disk <;> rfl
  apart := by omega
  idle := isRemote.idle
  layers := by cases disk <;> exact rests_assembled surroundings tree _ isRemote

theorem take_deletion_remote (tree : FileTree) (disk : Option DiskStore)
    {store : RemoteStore (Receiver Callback)} (isRemote : IsRemote settings (some store))
    (reachable : Reachable settings surroundings.service key) :
    let session := assembled surroundings settings tree disk (some store)
    let after := (session.take 0 (deletion key)).1
    after.Rests key ∧ FileTree.SameFiles tree after.stack.tree ∧
      RemoteLacks settings after.service.store key := by
  intro session after
  have reaches := @reaches_assembled surroundings settings key tree disk store isRemote
    reachable.waiting
  have service : (begun session key).session.service = surroundings.service := by
    cases disk <;> rfl
  have before : (begun session key).session.stack.tree = tree := by
    cases disk <;> rfl
  cases object : store.base.object? key with
  | none =>
      obtain ⟨rests, files⟩ := reaches.take_unnamed object
      refine ⟨rests, before ▸ files, ?_⟩
      intro remote known url objects
      rw [← isRemote.base_eq known, object] at objects
      cases objects
  | some url =>
      obtain ⟨remote, known, -⟩ := Option.map_eq_some_iff.mp isRemote.symm
      obtain ⟨requestable, there⟩ :=
        reachable.there remote known url (isRemote.base_eq known ▸ object)
      obtain ⟨rests, files, answered⟩ := reaches.take_named object
        (service ▸ reachable.serving) requestable (service ▸ there)
      refine ⟨rests, before ▸ files, ?_⟩
      intro remote known other objects limit
      rw [← isRemote.base_eq known, object] at objects
      cases objects
      rw [answered, service]
      exact fetched_after_remove reachable.serving _ _ _

/-! ### What is left when the command is done -/

def afterDelete (session : Session) (key : String) : Session :=
  (finish (delete session key).session).1

theorem afterDelete_assembled (tree : FileTree) (disk : Option DiskStore)
    (remote : Option (RemoteStore (Receiver Callback))) :
    afterDelete (assembled surroundings settings tree disk remote) key =
      (finish ((assembled surroundings settings tree disk remote).take 0 (deletion key)).1).1 :=
  rfl

theorem finish_holdings {session : Session} (rests : session.Rests key) :
    (finish session).1.Rests key ∧ SameHoldings session (finish session).1 := by
  obtain ⟨flushed, first⟩ := rests.take (.inl rfl) 1
  obtain ⟨closed, second⟩ := flushed.take (.inr rfl) 2
  exact ⟨closed, first.trans second⟩

theorem DiskLacks.sameFiles {tree other : FileTree} (same : FileTree.SameFiles tree other) :
    DiskLacks surroundings settings other key ↔ DiskLacks surroundings settings tree key :=
  forall₂_congr fun _ _ => DiskStore.Lacks.sameFiles same

/-- What the step that deletes leaves, and thus the whole command. -/
theorem afterDelete_holdings (tree : FileTree) {disk : Option DiskStore}
    {remote : Option (RemoteStore (Receiver Callback))} (isDisk : IsDisk surroundings settings disk)
    (isRemote : IsRemote settings remote)
    (reachable : Reachable settings surroundings.service key) :
    let after := ((assembled surroundings settings tree disk remote).take 0 (deletion key)).1
    after.Rests key ∧ RemoteLacks settings after.service.store key ∧
      (DiskLacks surroundings settings after.stack.tree key ↔
        remote = none ∨ DiskLacks surroundings settings tree key) := by
  intro after
  cases remote with
  | some store =>
      obtain ⟨rests, files, lacks⟩ := take_deletion_remote tree disk isRemote reachable
      refine ⟨rests, lacks, (DiskLacks.sameFiles files).trans ?_⟩
      exact (or_iff_right (Option.some_ne_none store)).symm
  | none =>
      have unset : settings.remote = none := Option.map_eq_none_iff.mp isRemote.symm
      have nowhere : RemoteLacks settings after.service.store key := by
        intro remote known
        rw [unset] at known
        cases known
      cases disk with
      | none =>
          refine ⟨(take_deletion_alone tree isRemote reachable.waiting).1, nowhere,
            iff_of_true ?_ (.inl rfl)⟩
          intro directory named
          rw [IsDisk, named] at isDisk
          cases isDisk
      | some store =>
          obtain ⟨rests, files, -⟩ := take_deletion_disk tree store isRemote reachable.waiting
          refine ⟨rests, nowhere, iff_of_true ((DiskLacks.sameFiles files).mpr ?_) (.inl rfl)⟩
          intro directory named
          rw [IsDisk, named] at isDisk
          rw [← Option.some.inj isDisk]
          exact store.lacks_delete tree key

/-- The memory tier and the remote tier are rid of a deleted key; the disk tier is too, exactly if there
is no remote tier or the disk tier had nothing for the key before. -/
theorem absent_after_delete {session : Session} {records : List Output}
    (built : assembleAll surroundings settings = .ok (session, records))
    (reachable : Reachable settings surroundings.service key) :
    (∀ store, .memory store ∈ (afterDelete session key).stack.layers →
        store.entries.lookup key = none) ∧
      RemoteLacks settings (afterDelete session key).service.store key ∧
      (DiskLacks surroundings settings (afterDelete session key).stack.tree key ↔
        settings.remote = none ∨ DiskLacks surroundings settings session.stack.tree key) := by
  obtain ⟨tree, disk, remote, rfl, isDisk, isRemote⟩ := eq_assembled built
  obtain ⟨rests, remoteLacks, diskLacks⟩ := afterDelete_holdings tree isDisk isRemote reachable
  obtain ⟨closed, holdings⟩ := finish_holdings rests
  rw [afterDelete_assembled]
  refine ⟨fun store member => closed.layers _ member, ?_, ?_⟩
  · rw [holdings.service]
    exact remoteLacks
  · refine (DiskLacks.sameFiles holdings.files).trans (diskLacks.trans (or_congr_left ?_))
    rw [isRemote, Option.map_eq_none_iff]

/-! ### Both a directory and an object store -/

private def shelf : Url :=
  ⟨"http".toList, some ⟨[], [], "store".toList, none⟩, false, .segments [[]], none, none⟩

private def both : Settings := { directory := some "/cache", remote := some { base := shelf } }

/-- The object store has an entry for "foo", and the directory has these files. -/
private def stocked (files : List (FilePath × Entry)) : Surroundings where
  tree := { entries := ([Text.bytes "cache"], .directory 0) :: files }
  now := 0
  service := { store := { objects := [("/foo", [2])] }, address := some shelf }

private theorem reachable_stocked (files : List (FilePath × Entry)) :
    Reachable both (stocked files).service "foo" where
  serving := rfl
  waiting := rfl
  there := by
    intro remote known url object
    cases known
    have named : shelf.object? "foo" = some { shelf with path := .segments ["foo".toList] } := by
      decide +kernel
    cases named.symm.trans object
    exact ⟨by decide +kernel, rfl⟩

/-- A directory without the key and an object store with it: after the command no tier has the key. -/
theorem absent_after_delete_remote : ∃ session records,
    assembleAll (stocked []) both = .ok (session, records) ∧
      Reachable both (stocked []).service "foo" ∧
      (∀ store, .memory store ∈ (afterDelete session "foo").stack.layers →
        store.entries.lookup "foo" = none) ∧
      RemoteLacks both (afterDelete session "foo").service.store "foo" ∧
      (DiskLacks (stocked []) both (afterDelete session "foo").stack.tree "foo" ↔
        both.remote = none ∨ DiskLacks (stocked []) both session.stack.tree "foo") := by
  exact ⟨_, _, rfl, reachable_stocked [], absent_after_delete rfl (reachable_stocked [])⟩

/-- The same with a file of the key in the directory: the command leaves the file there. -/
theorem present_after_delete : ∃ session records,
    assembleAll (stocked [([Text.bytes "cache", Text.bytes "foo,"], .file [1] 0 0)]) both =
        .ok (session, records) ∧
      Reachable both (stocked [([Text.bytes "cache", Text.bytes "foo,"], .file [1] 0 0)]).service
        "foo" ∧
      ¬DiskLacks (stocked []) both (afterDelete session "foo").stack.tree "foo" := by
  refine ⟨_, _, rfl, reachable_stocked _, fun lacks => ?_⟩
  have answer := lacks "/cache" rfl
    { name := "file", root := ⟨Text.bytes "/cache", []⟩, settings := {}, nextClean := 0 } rfl 0
  revert answer
  decide +kernel

end TieredCache.Command
