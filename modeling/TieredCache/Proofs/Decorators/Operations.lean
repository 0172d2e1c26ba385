import TieredCache.Proofs.Decorators.Steps

/-!
Operations on a stack of decorators, and runs of them. Main statement: the work that an operation starts
comes to its end with what the operation pays for, and everything is in order then.
-/

namespace TieredCache

/-! ### Stacks of caches -/

/-- A tier that holds entries itself. -/
inductive Leaf where
  | memory (store : MemoryStore)
  | disk (store : DiskStore)

def Leaf.layer : Leaf → Layer Callback
  | memory store => .memory store
  | disk store => .disk store

inductive Decorator where
  | admission (settings : AdmissionSettings)
  | guarded
  | counted
  | delayed (order : KeyOrder)

def Decorator.layer (inner : Nat) : Decorator → Layer Callback
  | admission settings => .admission inner { settings }
  | guarded => .guarded inner {}
  | counted => .counted inner {}
  | delayed order => .delayed inner { order }

/-- A session with decorators over a tier, each over the one before. -/
def Session.decorated (leaf : Leaf) (decorators : List Decorator) (tree : FileTree) (now : Millis) :
    Session where
  stack :=
    { layers := leaf.layer :: decorators.mapIdx Decorator.layer
      tree
      now }

def Session.top (session : Session) : Nat := session.stack.layers.length - 1

/-! ### Operations -/

/-- What may be done to a stack; callbacks do nothing but take their answers. -/
inductive StackOperation where
  | get (key : String)
  | getMany (keys : List String)
  | lookup (key : String)
  | lookupMany (keys : List String)
  | put (key : String) (value : Bytes)
  | delete (key : String)
  | delayKey (layer : Nat) (key : String)
  | releaseKey (layer : Nat) (key : String)
  | shutDown
  deriving DecidableEq

namespace StackOperation

/-- Calls go to the top of the stack; keys are delayed and released at any layer. -/
def step (top : Nat) : StackOperation → Step
  | get key => .mk (.layer top (.get key)) none []
  | getMany keys => .mk (.layer top (.getMany keys)) none []
  | lookup key => .mk (.layer top (.lookup key)) none []
  | lookupMany keys => .mk (.layer top (.lookupMany keys)) none []
  | put key value => .mk (.layer top (.put key value)) none []
  | delete key => .mk (.layer top (.delete key)) none []
  | delayKey layer key => .mk (.layer layer (.delayKey key)) none []
  | releaseKey layer key => .mk (.layer layer (.releaseKey key)) none []
  | shutDown => .mk (.layer top .shutDown) none []

def delays : StackOperation → Bool
  | delayKey _ _ => true
  | _ => false

def requests (keys : List String) (callback : Nat → Callback) : List (Request (Receiver Callback)) :=
  keys.mapIdx fun place key => ⟨key, .client (callback place)⟩

def pool (top : Nat) (label : String) (fresh : Nat) : StackOperation → List (Work Callback)
  | get key => [.ask top key (.client (.report label []))]
  | getMany keys =>
      [.askMany top (requests keys fun place => .report (label ++ "#" ++ toString place) [])]
  | lookup key => [.ask top key (.client (.promise fresh))]
  | lookupMany keys => [.askMany top (requests keys fun place => .promise (fresh + place))]
  | put key value => [.put top key value]
  | delete key => [.delete top key]
  | delayKey _ _ => []
  | releaseKey layer key => [.release layer key]
  | shutDown => [.shutDown top]

def promises : StackOperation → Nat
  | lookup _ => 1
  | lookupMany keys => keys.length
  | _ => 0

def mark (stack : Stack Callback) : StackOperation → Stack Callback
  | delayKey layer key => stack.delayKey layer key
  | _ => stack

variable (operation : StackOperation) (session : Session) (top : Nat) (label : String)

theorem jobs_start : (session.start label (operation.step top)).jobs =
    Session.works (operation.pool top label session.freshPromise) := by
  cases operation <;> rfl

theorem session_start : (session.start label (operation.step top)).session =
    { session with
      freshPromise := session.freshPromise + operation.promises
      stack := operation.mark session.stack } := by
  cases operation <;> rfl

end StackOperation

/-! ### Callbacks handed in -/

def Work.handed : Work Callback → List (Callback × String)
  | .ask _ key receiver => receiver.callbacks.map (·, key)
  | .askMany _ requests => requests.flatMap fun request => request.receiver.callbacks.map (·, request.key)
  | _ => []

def Job.handed : Job → List (Callback × String)
  | .work own => own.handed
  | _ => []

theorem handed_works (pool : List (Work Callback)) :
    (Session.works pool).flatMap Job.handed = pool.flatMap Work.handed := by
  rw [Session.works, List.flatMap_map]
  rfl

namespace StackOperation

theorem handed_requests (top : Nat) (keys : List String) (callback : Nat → Callback) :
    (Work.askMany top (requests keys callback)).handed =
      keys.mapIdx fun place key => (callback place, key) := by
  induction keys generalizing callback with
  | nil => rfl
  | cons key rest ih =>
      rw [List.mapIdx_cons, ← ih fun place => callback (place + 1)]
      simp [Work.handed, requests, Receiver.callbacks, List.mapIdx_cons]

theorem callbacks_requests (top : Nat) (keys : List String) (callback : Nat → Callback) :
    (rootsOf [Work.askMany top (requests keys callback)]).flatMap Receiver.callbacks =
      (Work.askMany top (requests keys callback)).handed.map Prod.fst := by
  induction keys generalizing callback with
  | nil => rfl
  | cons key rest ih =>
      have later := ih fun place => callback (place + 1)
      simp only [rootsOf_cons, rootsOf_nil, List.append_nil, Work.roots, Work.receivers, Work.handed,
        requests, List.mapIdx_cons, List.map_cons, List.flatMap_cons,
        Receiver.root, Receiver.callbacks, List.map_nil, List.singleton_append] at later ⊢
      rw [later]

/-! ### What operations cost -/

theorem batchToll_requests (top : Nat) (keys : List String) (callback : Nat → Callback) :
    batchToll top (requests keys callback) = keys.length * (descent top + 2) := by
  induction keys generalizing callback with
  | nil => simp [batchToll, requests]
  | cons key rest ih =>
      have later := ih fun place => callback (place + 1)
      simp only [batchToll, requests, List.mapIdx_cons, List.map_cons, List.sum_cons, Receiver.toll,
        List.length_cons] at later ⊢
      rw [later, Nat.add_mul, Nat.one_mul, Nat.add_comm]

theorem tollOf_requests_le (top : Nat) (keys : List String) (callback : Nat → Callback) :
    tollOf [Work.askMany top (requests keys callback)] ≤ (keys.length + 1) * (40 * (top + 5)) := by
  have each : keys.length * (descent top + 2) ≤ keys.length * (40 * (top + 5)) :=
    Nat.mul_le_mul_left _ (by unfold descent; omega)
  rw [tollOf_cons, tollOf_nil, Work.toll, batchToll_requests, Nat.add_mul, Nat.one_mul]
  split <;> omega

/-- An operation pays for the work that it starts. -/
theorem tollOf_pool_le (operation : StackOperation) (top : Nat) (label : String) (fresh : Nat) :
    tollOf (operation.pool top label fresh) ≤ (operation.step top).weight * (40 * (top + 5)) := by
  have weight : (operation.step top).weight = (operation.step top).breadth + 1 := by
    cases operation <;> simp [step, Step.weight, Step.weightAll]
  rw [weight]
  cases operation with
  | getMany keys | lookupMany keys => exact tollOf_requests_le top keys _
  | _ =>
      simp only [pool, tollOf_cons, tollOf_nil, Work.toll, Receiver.toll, descent, step, Step.breadth,
        Step.action]
      omega

/-! ### What operations come to -/

variable {terms : Terms Callback} {session : Session} {top : Nat}

theorem sound_requests {keys : List String} {callback : Nat → Callback} (book : Book Callback)
    (wants : ∀ pair ∈ (Work.askMany top (requests keys callback)).handed,
      terms.wants pair.1 pair.2) :
    (Work.askMany top (requests keys callback)).Sound terms book := by
  intro request member
  obtain ⟨place, inside, rfl⟩ := List.mem_mapIdx.mp member
  rw [handed_requests] at wants
  exact ⟨⟨callback place, rfl, wants (callback place, keys[place])
    (List.mem_mapIdx.mpr ⟨place, inside, rfl⟩)⟩, trivial⟩

/-- Where a stack is in order, an operation comes to its end, and shutting down closes the stack. -/
theorem ran (operation : StackOperation) (label : String) (fresh : Nat)
    (inOrder : session.InOrder terms []) (free : session.stack.Free)
    (highest : session.stack.layers.length = top + 1)
    (wants : ∀ pair ∈ (operation.pool top label fresh).flatMap Work.handed,
      terms.wants pair.1 pair.2)
    (paid : session.stack.toll + tollOf (operation.pool top label fresh) ≤ session.credit) :
    Session.Ran terms (((operation.pool top label fresh).flatMap Work.handed).map Prod.fst) session
        (session.run (Session.works (operation.pool top label fresh))) ∧
      (operation = .shutDown ∨ session.stack.Closed →
        (session.run (Session.works (operation.pool top label fresh))).stack.Closed) := by
  have inside : top < session.stack.layers.length := by omega
  have calls {pool : List (Work Callback)} (own : ∀ book, ∀ work ∈ pool, work.Sound terms book)
      (expected : ∀ work ∈ pool, Stack.Expected session.stack work)
      (calm : ∀ work ∈ pool, work.isCalm = true) (prompt : ∀ work ∈ pool, work.holds = false)
      (handed : (rootsOf pool).flatMap Receiver.callbacks = (pool.flatMap Work.handed).map Prod.fst)
      (cost : session.stack.toll + tollOf pool ≤ session.credit) (other : operation ≠ .shutDown) :
      Session.Ran terms ((pool.flatMap Work.handed).map Prod.fst) session
          (session.run (Session.works pool)) ∧
        (operation = .shutDown ∨ session.stack.Closed →
          (session.run (Session.works pool)).stack.Closed) := by
    obtain ⟨runs, closed⟩ := Session.ran_calls (inOrder.begin expected own) free calm prompt cost
    rw [handed] at runs
    exact ⟨runs, fun either => closed (either.resolve_left other)⟩
  cases operation with
  | get key | lookup key =>
      refine calls (fun book work member => ?_) ?_ ?_ ?_ rfl paid (by simp)
      · rw [List.mem_singleton.mp member]
        exact ⟨⟨_, rfl, wants (_, key) (by simp [pool, Work.handed, Receiver.callbacks])⟩, trivial⟩
      · simpa [pool] using .ask key _ inside
      · simp [pool, Work.isCalm]
      · simp [pool, Work.holds]
  | getMany keys | lookupMany keys =>
      refine calls (fun book work member => ?_) ?_ ?_ ?_ ?_ paid (by simp)
      · rw [List.mem_singleton.mp member]
        exact sound_requests book (by simpa [pool] using wants)
      · simpa [pool] using .askMany _ inside
      · simp [pool, Work.isCalm]
      · simp [pool, Work.holds]
      · rw [pool, callbacks_requests, List.flatMap_singleton]
  | releaseKey layer key =>
      refine calls (fun book work member => ?_) ?_ ?_ ?_ rfl paid (by simp)
      · rw [List.mem_singleton.mp member]
        trivial
      · simpa [pool] using .release layer key
      · simp [pool, Work.isCalm]
      · simp [pool, Work.holds]
  | delayKey layer key =>
      exact calls (by simp [pool]) (by simp [pool]) (by simp [pool]) (by simp [pool]) rfl paid (by simp)
  | put key value =>
      obtain ⟨runs, closed⟩ := Session.ran_write inOrder free inside (.put key value) paid
      exact ⟨runs, fun either => closed (either.resolve_left (by simp))⟩
  | delete key =>
      obtain ⟨runs, closed⟩ := Session.ran_write inOrder free inside (.delete key) paid
      exact ⟨runs, fun either => closed (either.resolve_left (by simp))⟩
  | shutDown =>
      have began : session.InOrder terms [.shutDown top] :=
        inOrder.begin (by simpa using .shutDown inside) (by simp [Work.Sound])
      obtain ⟨runs, closed⟩ := Session.ran_closing began free highest paid
      exact ⟨runs, fun _ => closed⟩

end StackOperation

end TieredCache
