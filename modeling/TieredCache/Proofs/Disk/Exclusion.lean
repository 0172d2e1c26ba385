import TieredCache.Disk.Lock
import TieredCache.Proofs.Disk.Targets

/-!
Who holds a lock, over whole runs of the processes that share it. Main statement: `taken_again_iff`.
Before its timeout a lock is taken once more exactly if some other process gives up a lock that it had
lost: the file that it removes is the new holder's.
-/

namespace TieredCache.Lock
open FileTree

variable {tree next : FileTree} {path : Route} {place : FilePath} {now since : FileTime}
  {timeout : Span} {content : Bytes} {accessed modified : FileTime}

/-! ### One call -/

theorem acquire_of_vacant (targets : tree.fileTarget path = .ok place)
    (vacant : tree.find? place = none) :
    acquire tree path now timeout = ⟨tree.insert place (.file [] now now), .taken, []⟩ := by
  unfold acquire
  rw [createNew_of_vacant targets vacant]

/-- A lock that has not timed out is left alone. -/
theorem acquire_of_held (targets : tree.fileTarget path = .ok place)
    (held : tree.find? place = some (.file content accessed modified))
    (young : (now - modified).toNat < timeout.nanoseconds) :
    acquire tree path now timeout = ⟨tree, .held, []⟩ := by
  have entry : tree.entry path = .ok (.file content accessed modified) := by
    rw [FileTree.entry, arrive_of_fileTarget targets, held]
    rfl
  unfold acquire
  rw [createNew_of_present targets held]
  simp only [entry, Entry.modified]
  exact if_pos young

theorem release_of_vacant (targets : tree.fileTarget path = .ok place)
    (vacant : tree.find? place = none) : (release tree path).1 = tree := by
  have missing : tree.arrive path = .error .notFound := by
    rw [arrive_of_fileTarget targets, vacant]
  unfold release
  rw [removeFile_of_missing missing]

theorem release_of_held (targets : tree.fileTarget path = .ok place)
    (held : tree.find? place = some (.file content accessed modified)) :
    (release tree path).1 = tree.without place := by
  have there : tree.arrive path = .ok (place, .file content accessed modified) := by
    rw [arrive_of_fileTarget targets, held]
  unfold release
  rw [removeFile_of_arrive there]

theorem fileTarget_of_createNew (creates : tree.createNew path now now = .ok next) :
    ∃ place, next.fileTarget path = .ok place ∧ next.find? place = some (.file [] now now) := by
  obtain ⟨place, targets, vacant, rfl⟩ := of_createNew creates
  have below := ne_nil_of_fileTarget targets
  have replaced : Replaced tree (tree.insert place (.file [] now now)) place _ :=
    replaced_insert below (isDirectory_of_find?_none vacant)
  exact ⟨place, replaced.fileTarget targets, find?_insert_self tree _ below⟩

/-- Whoever takes a lock has made its file anew. -/
theorem fileTarget_of_taken (taken : (acquire tree path now timeout).attempt = .taken) :
    ∃ place, (acquire tree path now timeout).tree.fileTarget path = .ok place ∧
      (acquire tree path now timeout).tree.find? place = some (.file [] now now) := by
  unfold acquire at taken ⊢
  split at taken
  · rename_i locked creates
    exact fileTarget_of_createNew creates
  · split at taken
    · cases taken
    · cases taken
    · simp only at taken ⊢
      split at taken
      · cases taken
      · rename_i old
        rw [if_neg old]
        unfold replace at taken ⊢
        split at taken
        · cases taken
        · cases taken
        · split at taken
          · cases taken
          · split at taken
            · rename_i locked creates
              exact fileTarget_of_createNew creates
            · cases taken
            · cases taken
  · cases taken

/-! ### Processes that share a lock -/

/-- A lock that a process took and has not given up; it may have lost it to another one. -/
structure Claim where
  number : Nat
  process : Nat
  since : FileTime
  deriving DecidableEq

structure Shared where
  tree : FileTree
  now : FileTime
  claims : List Claim := []
  count : Nat := 0

inductive Event where
  | attempt (process : Nat)
  /-- The claim of that number is given up. -/
  | drop (number : Nat)
  | wait (span : Span)
  deriving DecidableEq

namespace Shared

def admits (path : Route) (timeout : Span) (shared : Shared) : Bool :=
  (acquire shared.tree path shared.now timeout).attempt = .taken

def claimed (shared : Shared) (number : Nat) : Bool := shared.claims.any (·.number = number)

def step (path : Route) (timeout : Span) (shared : Shared) : Event → Shared
  | .attempt process =>
      let outcome := acquire shared.tree path shared.now timeout
      match outcome.attempt with
      | .taken =>
          { shared with
            tree := outcome.tree
            claims := ⟨shared.count, process, shared.now⟩ :: shared.claims
            count := shared.count + 1 }
      | _ => { shared with tree := outcome.tree }
  | .drop number =>
      if shared.claimed number then
        { shared with
          tree := (release shared.tree path).1
          claims := shared.claims.filter (·.number ≠ number) }
      else shared
  | .wait span => { shared with now := shared.now + span.nanoseconds }

def run (path : Route) (timeout : Span) (shared : Shared) (events : List Event) : Shared :=
  events.foldl (step path timeout) shared

def Admits (path : Route) (timeout : Span) (shared : Shared) (events : List Event) : Prop :=
  ∃ before process after, events = before ++ .attempt process :: after ∧
    (shared.run path timeout before).admits path timeout = true

variable {shared : Shared} {event : Event} {events : List Event} {number process : Nat}

/-- The lock's place in a tree in which nobody else touches it: nothing stands there, or a file that
was made since a certain time. -/
structure Watched (path : Route) (place : FilePath) (since : FileTime) (shared : Shared) : Prop where
  targets : shared.tree.fileTarget path = .ok place
  spot : shared.tree.find? place = none ∨ ∃ content accessed modified, since ≤ modified ∧
    shared.tree.find? place = some (.file content accessed modified)
  later : since ≤ shared.now

theorem now_le_step (path : Route) (timeout : Span) (shared : Shared) (event : Event) :
    shared.now ≤ (shared.step path timeout event).now := by
  cases event with
  | attempt process =>
      unfold step
      simp only
      split <;> exact Int.le_refl _
  | drop number =>
      unfold step
      simp only
      split <;> exact Int.le_refl _
  | wait span => exact Int.le_add_of_nonneg_right (Int.natCast_nonneg span.nanoseconds)

/-- What was made within the time is younger than the timeout. -/
private theorem young_of_early {since made present : Int} {limit : Nat} (later : since ≤ present)
    (within : since ≤ made) (early : present < since + limit) :
    (present - made).toNat < limit := by
  omega

theorem now_le_run (path : Route) (timeout : Span) (shared : Shared) (events : List Event) :
    shared.now ≤ (shared.run path timeout events).now := by
  induction events generalizing shared with
  | nil => exact Int.le_refl _
  | cons event rest ih =>
      exact Int.le_trans (now_le_step path timeout shared event) (ih _)

/-- Before the timeout an attempt succeeds exactly if nothing stands in the lock's place. -/
theorem Watched.admits_iff (watched : Watched path place since shared)
    (early : shared.now < since + timeout.nanoseconds) :
    shared.admits path timeout = true ↔ shared.tree.find? place = none := by
  unfold admits
  rcases watched.spot with vacant | ⟨content, accessed, modified, young, held⟩
  · rw [acquire_of_vacant watched.targets vacant]
    exact ⟨fun _ => vacant, fun _ => rfl⟩
  · rw [acquire_of_held watched.targets held (young_of_early watched.later young early), held]
    constructor <;> intro impossible <;> cases impossible

theorem Watched.step_drop (watched : Watched path place since shared)
    (own : shared.claimed number = true) :
    Watched path place since (shared.step path timeout (.drop number)) ∧
      (shared.step path timeout (.drop number)).tree.find? place = none := by
  have below := ne_nil_of_fileTarget watched.targets
  have stepped : shared.step path timeout (.drop number) =
      { shared with
        tree := (release shared.tree path).1
        claims := shared.claims.filter (·.number ≠ number) } := if_pos own
  rw [stepped]
  rcases watched.spot with vacant | ⟨content, accessed, modified, young, held⟩
  · rw [release_of_vacant watched.targets vacant]
    exact ⟨⟨watched.targets, .inl vacant, watched.later⟩, vacant⟩
  · have gone := replaced_without below (isDirectory_of_find?_file held)
    have missing := find?_without_self shared.tree below
    rw [release_of_held watched.targets held]
    exact ⟨⟨gone.fileTarget watched.targets, .inl missing, watched.later⟩, missing⟩

/-- Before the timeout nobody does more to the lock than to make its file or remove it. -/
theorem Watched.step (watched : Watched path place since shared)
    (early : shared.now < since + timeout.nanoseconds) (event : Event) :
    Watched path place since (shared.step path timeout event) := by
  cases event with
  | attempt process =>
      unfold Shared.step
      rcases watched.spot with vacant | ⟨content, accessed, modified, young, held⟩
      · have below := ne_nil_of_fileTarget watched.targets
        have made : Replaced shared.tree
            (shared.tree.insert place (.file [] shared.now shared.now)) place _ :=
          replaced_insert below (isDirectory_of_find?_none vacant)
        simp only [acquire_of_vacant watched.targets vacant]
        have shown := find?_insert_self shared.tree (.file [] shared.now shared.now) below
        exact ⟨made.fileTarget watched.targets,
          .inr ⟨[], shared.now, shared.now, watched.later, shown⟩, watched.later⟩
      · have held := acquire_of_held watched.targets held
          (young_of_early watched.later young early)
        simp only [held]
        exact watched
  | drop number =>
      by_cases own : shared.claimed number = true
      · exact (watched.step_drop own).1
      · unfold Shared.step
        simp only [if_neg own]
        exact watched
  | wait span =>
      have passes := now_le_step path timeout shared (.wait span)
      exact ⟨watched.targets, watched.spot, Int.le_trans watched.later passes⟩

theorem Watched.run (watched : Watched path place since shared)
    (early : (shared.run path timeout events).now < since + timeout.nanoseconds) :
    Watched path place since (shared.run path timeout events) := by
  induction events generalizing shared with
  | nil => exact watched
  | cons event rest ih =>
      have passes := now_le_run path timeout (shared.step path timeout event) rest
      have stays := now_le_step path timeout shared event
      apply ih (watched.step ?_ event) early
      exact Int.lt_of_le_of_lt (Int.le_trans stays passes) early

/-- Once nothing stands in the lock's place, the next attempt succeeds. -/
theorem Watched.admits_of_vacant (watched : Watched path place since shared)
    (vacant : shared.tree.find? place = none) {middle after : List Event}
    (early : (shared.run path timeout (middle ++ .attempt process :: after)).now <
      since + timeout.nanoseconds) :
    shared.Admits path timeout (middle ++ .attempt process :: after) := by
  induction middle generalizing shared with
  | nil =>
      have passes := now_le_run path timeout shared ([] ++ .attempt process :: after)
      refine ⟨[], process, after, rfl, ?_⟩
      exact (watched.admits_iff (Int.lt_of_le_of_lt passes early)).mpr vacant
  | cons event rest ih =>
      have passes := now_le_run path timeout shared (event :: rest ++ .attempt process :: after)
      have soon := Int.lt_of_le_of_lt passes early
      have further := watched.step soon event
      have onward (stays : (shared.step path timeout event).tree.find? place = none) :
          shared.Admits path timeout (event :: rest ++ .attempt process :: after) := by
        obtain ⟨before, other, later, split, admits⟩ := ih further stays early
        exact ⟨event :: before, other, later, congrArg (event :: ·) split, admits⟩
      cases event with
      | attempt other =>
          exact ⟨[], other, rest ++ .attempt process :: after, rfl,
            (watched.admits_iff soon).mpr vacant⟩
      | drop number =>
          apply onward
          by_cases own : shared.claimed number = true
          · exact (watched.step_drop own).2
          · unfold Shared.step
            simp only [if_neg own]
            exact vacant
      | wait span => exact onward vacant

/-- As long as no claim is given up, the file of the lock stays. -/
theorem Watched.stays (watched : Watched path place since shared)
    (held : shared.tree.find? place ≠ none)
    (spared : ∀ before number after, events = before ++ .drop number :: after →
      (shared.run path timeout before).claimed number = false)
    (early : (shared.run path timeout events).now < since + timeout.nanoseconds) :
    (shared.run path timeout events).tree.find? place ≠ none := by
  induction events generalizing shared with
  | nil => exact held
  | cons event rest ih =>
      have passes := now_le_run path timeout shared (event :: rest)
      have soon := Int.lt_of_le_of_lt passes early
      apply ih (watched.step soon event)
      · obtain ⟨content, accessed, modified, young, found⟩ := watched.spot.resolve_left held
        cases event with
        | attempt process =>
            have refused := acquire_of_held watched.targets found
              (young_of_early watched.later young soon)
            unfold Shared.step
            simp only [refused]
            exact held
        | drop number =>
            have other : shared.claimed number = false := spared [] number rest rfl
            unfold Shared.step
            simp only [other, Bool.false_eq_true, if_false]
            exact held
        | wait span => exact held
      · intro before number after split
        exact spared (event :: before) number after (congrArg (event :: ·) split)
      · exact early

/-- While a claim is not given up and its timeout is not over, the lock is taken once more exactly if
somebody gives up another claim, one that was lost to a takeover, and an attempt follows. -/
theorem taken_again_iff (path : Route) (timeout : Span) (shared : Shared) (process : Nat)
    (between : List Event) (taken : shared.admits path timeout = true)
    (kept : .drop shared.count ∉ between)
    (early : ((shared.step path timeout (.attempt process)).run path timeout between).now <
      shared.now + timeout.nanoseconds) :
    let first := shared.step path timeout (.attempt process)
    ⟨shared.count, process, shared.now⟩ ∈ first.claims ∧
      (first.Admits path timeout between ↔
        ∃ before number middle other after,
          between = before ++ .drop number :: middle ++ .attempt other :: after ∧
            number ≠ shared.count ∧ (first.run path timeout before).claimed number = true) := by
  intro first
  have success := of_decide_eq_true taken
  obtain ⟨place, targets, found⟩ := fileTarget_of_taken success
  have stepped : first = { shared with
      tree := (acquire shared.tree path shared.now timeout).tree
      claims := ⟨shared.count, process, shared.now⟩ :: shared.claims
      count := shared.count + 1 } := by
    simp only [first, step, success]
  have watched : Watched path place shared.now first := by
    rw [stepped]
    exact ⟨targets, .inr ⟨[], shared.now, shared.now, Int.le_refl _, found⟩, Int.le_refl _⟩
  have standing : first.tree.find? place ≠ none := by
    rw [stepped]
    exact ne_of_eq_of_ne found (Option.some_ne_none _)
  refine ⟨by rw [stepped]; exact List.mem_cons_self, ?_, ?_⟩
  · rintro ⟨before, other, after, rfl, admits⟩
    have passes := now_le_run path timeout (first.run path timeout before) (.attempt other :: after)
    rw [run, List.foldl_append] at early
    have soon := Int.lt_of_le_of_lt passes early
    have vacant := ((watched.run soon).admits_iff soon).mp admits
    by_contra none
    apply watched.stays standing _ soon vacant
    intro front number rest split
    cases own : (first.run path timeout front).claimed number with
    | false => rfl
    | true =>
        refine absurd ⟨front, number, rest, other, after, by rw [split], ?_, own⟩ none
        rintro rfl
        exact kept (by rw [split]; simp)
  · rintro ⟨before, number, middle, other, after, rfl, _, own⟩
    rw [List.append_assoc, List.cons_append] at early ⊢
    have whole : first.run path timeout
        (before ++ .drop number :: (middle ++ .attempt other :: after)) =
          ((first.run path timeout before).step path timeout (.drop number)).run path timeout
            (middle ++ .attempt other :: after) := by
      rw [run, List.foldl_append]
      rfl
    rw [whole] at early
    have passes := now_le_run path timeout
      ((first.run path timeout before).step path timeout (.drop number))
      (middle ++ .attempt other :: after)
    have stays := now_le_step path timeout (first.run path timeout before) (.drop number)
    have soon := Int.lt_of_le_of_lt (Int.le_trans stays passes) early
    obtain ⟨further, vacant⟩ := (watched.run soon).step_drop own
    obtain ⟨front, next, rest, split, admits⟩ := further.admits_of_vacant vacant early
    refine ⟨before ++ .drop number :: front, next, rest, ?_, ?_⟩
    · rw [split, List.append_assoc, List.cons_append]
    · rw [run, List.foldl_append]
      exact admits

/-- Three processes and a lock in the top directory, with a timeout of a minute. -/
private def minute : Span := .ofSeconds 60

private def lockPath : Route := ⟨Text.bytes "/lock", []⟩

private def unlocked : Shared where
  tree := {}
  now := 0

/-- The first process keeps the lock for too long, and the second one takes it over. -/
private def overtaken : Shared := unlocked.run lockPath minute [.attempt 1, .wait minute]

/-- Nobody takes the lock as long as nobody gives one up. -/
theorem taken_again_undropped :
    let between : List Event := [.wait (.ofSeconds 59), .attempt 3, .attempt 1]
    overtaken.admits lockPath minute = true ∧ .drop overtaken.count ∉ between ∧
      ((overtaken.step lockPath minute (.attempt 2)).run lockPath minute between).now <
        overtaken.now + minute.nanoseconds ∧
      ¬(overtaken.step lockPath minute (.attempt 2)).Admits lockPath minute between := by
  intro between
  have taken : overtaken.admits lockPath minute = true := by decide +kernel
  have kept : .drop overtaken.count ∉ between := by simp [between]
  have early : ((overtaken.step lockPath minute (.attempt 2)).run lockPath minute between).now <
      overtaken.now + minute.nanoseconds := by
    decide +kernel
  refine ⟨taken, kept, early, fun admits => ?_⟩
  obtain ⟨before, number, middle, other, after, split, _⟩ :=
    (taken_again_iff lockPath minute overtaken 2 between taken kept early).2.mp admits
  have dropped : .drop number ∈ between := by simp [split]
  simp [between] at dropped

/-- The second process takes the lock over after a minute. When the first one comes round to give it
up, it removes the second one's file, and a third process takes the lock two seconds after the
second. -/
theorem taken_by_two :
    let shared := (overtaken.step lockPath minute (.attempt 2)).run lockPath minute
      [.wait (.ofSeconds 1), .drop 0, .wait (.ofSeconds 1)]
    overtaken.admits lockPath minute = true ∧ shared.claims = [⟨1, 2, 60000000000⟩] ∧
      shared.now = 62000000000 ∧ shared.admits lockPath minute = true := by
  decide +kernel

end Shared

end TieredCache.Lock
