import TieredCache.Proofs.Front.Backfill
import TieredCache.Proofs.Front.Provenance

/-!
Responses whose status is that of a failure. Main statement: `failure_after_put`. They are stored
like all others, and are read back as failures that nobody remembered.
-/

namespace TieredCache

namespace ResponseCache

variable {policy : Policy} {later : Millis} {name : String} {checks : Checks} {stored : Stored}
  {kind : FailureKind}

theorem verdict_recentFailure_iff (decodes : Stored.decode stored.encoded = .ok stored) :
    verdict policy later name checks (some stored.encoded) = .recentFailure kind ↔
      stored.head.status = kind.status ∧ isCurrent stored.head later = true := by
  rw [← FailureKind.ofStatus?_eq_some]
  cases status : FailureKind.ofStatus? stored.head.status with
  | none =>
      simp only [verdict, decodes, status]
      constructor
      · intro same
        split at same <;> cases same
      · rintro ⟨⟨⟩, _⟩
  | some own =>
      simp only [verdict, decodes, status]
      cases isCurrent stored.head later with
      | false => simp [Outcome.notFound, Outcome.recentFailure]
      | true => simp [Outcome.recentFailure]

end ResponseCache

theorem Probe.allows_of_origin {probe : Probe} (all : ∀ kind, probe.origin kind) (depot : Depot)
    (turn : Turn) : probe.Allows depot turn := by
  unfold Allows
  split
  · exact fun _ _ kind _ => all kind
  · exact fun _ => all _
  · trivial

namespace Depot

variable {depot : Depot} {key : String} {head : Head} {body : Bytes} {kind : FailureKind}

/-- A front of any kind, over layers that hold what they like, answer late and lose entries. -/
def behind (front : Front) (now : Millis) (shelves : Nat → String → Option Bytes)
    (slow : Nat → Bool) (losses : List (Nat → String → Bool)) : Depot where
  session := { stack := { layers := [], now }, fronts := [front] }
  shelves := shelves
  slow := slow
  losses := losses

/-- Some response that was stored for the key had the status of the failure. -/
def Forged (start : Depot) (turns : List Turn) (key : String) (kind : FailureKind) : Prop :=
  ∃ earlier head body later, turns = earlier ++ .operate (.put key head body) :: later ∧
    ((start.turns 0 earlier).operate 0 (.put key head body)).2 = .putResult none ∧
    head.status = kind.status

theorem Forged.mem {start : Depot} {turns : List Turn} (forged : Forged start turns key kind) :
    ∃ head body, .operate (.put key head body) ∈ turns ∧ head.status = kind.status := by
  obtain ⟨earlier, head, body, later, rfl, -, status⟩ := forged
  exact ⟨head, body, List.mem_append_right _ List.mem_cons_self, status⟩

theorem turns_append (depot : Depot) (index : Nat) (left right : List Turn) :
    depot.turns index (left ++ right) = (depot.turns index left).turns index right :=
  List.foldl_append

/-- In a run without remembered failures only responses bring failures of the key in. -/
theorem allows_of_forged {probe : Probe} {start : Depot} {turns earlier later : List Turn}
    {turn : Turn} (split : turns = earlier ++ turn :: later)
    (forged : ∀ kind, Forged start turns probe.key kind → probe.origin kind)
    (unremembered : ∀ kind, turn ≠ .operate (.remember probe.key kind)) :
    probe.Allows (start.turns 0 earlier) turn := by
  unfold Probe.Allows
  split
  · rename_i name head body
    rintro rfl stores kind status
    exact forged kind ⟨earlier, head, body, later, split, stores, status⟩
  · rename_i name kind
    rintro rfl
    exact absurd rfl (unremembered kind)
  · trivial

/-- A failure that the first tier holds while a response for the key does not fit it. -/
def LeftBehind (depot : Depot) (key : String) (head : Head) (body : Bytes) (kind : FailureKind) :
    Prop :=
  ∃ tiers first second stored, depot.session.front? 0 = some (.tiered tiers first second) ∧
    tiers.second.prepare depot.session.now key head body = .ok stored ∧
    tiers.fits key stored = false ∧ StandsFor (depot.shelves first key) kind

theorem shelves_write_self (depot : Depot) (layer : Nat) (key : String) (content : Bytes) :
    (depot.write layer key (some content)).shelves layer key = some content := by
  simp only [write, fill, and_self, if_true]

/-- An entry after a write was written, or was there before. -/
theorem standsFor_write {layer other : Nat} {entry : Option Bytes}
    (stands : StandsFor ((depot.write layer key entry).shelves other key) kind) :
    StandsFor entry kind ∨ StandsFor (depot.shelves other key) kind := by
  cases entry with
  | none => exact .inr stands
  | some content =>
      simp only [write, fill] at stands
      split at stands
      · exact .inl stands
      · obtain ⟨encoded, stored, held, decodes⟩ := stands
        exact .inr ⟨encoded, stored, within_lose depot other _ _ held, decodes⟩

/-- What the layers hold right after a put that stored its response. -/
theorem standsFor_after_put {probe : Probe} (traced : Traced probe depot [])
    (stores : (depot.operate 0 (.put key head body)).2 = .putResult none) {layer : Nat}
    (member : layer ∈ probe.layers)
    (stands : StandsFor ((depot.operate 0 (.put key head body)).1.shelves layer key) kind) :
    head.status = kind.status ∨ LeftBehind depot key head body kind := by
  have own : ∀ {cache : ResponseCache} {stored : Stored},
      cache.prepare depot.session.now key head body = .ok stored →
        StandsFor (some stored.encoded) kind → head.status = kind.status := by
    intro cache stored prepared stands
    obtain ⟨decodes, status⟩ := ResponseCache.status_of_prepare prepared
    rwa [ResponseCache.standsFor_of_decode decodes, status] at stands
  rcases traced.front? with ⟨cache, behind, front, layers⟩ | ⟨tiers, first, second, front, layers⟩
  · rw [layers, List.mem_singleton] at member
    subst member
    cases prepared : cache.prepare depot.session.now key head body with
    | error reason =>
        obtain ⟨session, _, ran⟩ := operate_put_refused_single front prepared
        rw [ran] at stores
        cases stores
    | ok stored =>
        obtain ⟨session, _, ran⟩ := operate_put_stored_single front prepared
        rw [ran] at stands
        change StandsFor ((depot.write layer key (some stored.encoded)).shelves layer key) kind
          at stands
        rw [shelves_write_self] at stands
        exact .inl (own prepared stands)
  · cases prepared : tiers.second.prepare depot.session.now key head body with
    | error reason =>
        obtain ⟨session, _, ran⟩ := operate_put_refused front prepared
        rw [ran] at stores
        cases stores
    | ok stored =>
        obtain ⟨session, _, ran⟩ := operate_put_stored front prepared
        rw [ran] at stands
        change StandsFor (((depot.write second key (some stored.encoded)).write first key
          (tiers.backfill key (.found stored))).shelves layer key) kind at stands
        have far : StandsFor ((depot.write second key (some stored.encoded)).shelves second key)
            kind → head.status = kind.status := by
          rw [shelves_write_self]
          exact own prepared
        obtain ⟨counted, actual, rfl⟩ := Session.front?_of_bare_tiered front
        have place : layer = first ∨ layer = second := by
          simpa [layers] using member
        by_cases fits : counted.fits key stored = true
        · have written : counted.bare.backfill key (.found stored) = some stored.encoded :=
            if_pos fits
          rw [written] at stands
          rcases place with rfl | rfl
          · rw [shelves_write_self] at stands
            exact .inl (own prepared stands)
          · rcases standsFor_write stands with backfilled | stands
            · exact .inl (own prepared backfilled)
            · exact .inl (far stands)
        · have left : counted.bare.backfill key (.found stored) = none := if_neg fits
          rw [left] at stands
          change StandsFor ((depot.write second key (some stored.encoded)).shelves layer key) kind
            at stands
          rcases place with rfl | rfl
          · rcases standsFor_write stands with written | old
            · exact .inl (own prepared written)
            · exact .inr ⟨counted, layer, second, stored, actual, prepared,
                Bool.eq_false_iff.mpr fits, old⟩
          · exact .inl (far stands)

/-- A failure that a lookup reports, after a response was put and before a failure of the key is
remembered, comes from a response that was stored since with the status of that failure, the one that
was put included; or the first tier had it, and the response that was put did not fit there. Such
statuses are all that a stored response can have in common with a remembered failure. -/
theorem failure_after_put (front : Front) (now : Millis) (shelves : Nat → String → Option Bytes)
    (slow : Nat → Bool) (losses : List (Nat → String → Bool)) (before between after : List Turn)
    (key : String) (head : Head) (body : Bytes) (hooks : Hooks)
    (stores : (((behind front now shelves slow losses).turns 0 before).operate 0
      (.put key head body)).2 = .putResult none)
    (unremembered : ∀ kind, .operate (.remember key kind) ∉ between ++ after) :
    let depot := (behind front now shelves slow losses).turns 0 before
    let put : Turn := .operate (.put key head body)
    let find : Turn := .operate (.find key hooks)
    let asked := depot.turns 0 (put :: between)
    (∀ outcome kind, (asked.turns 0 (find :: after)).session.outcomes.lookup
        asked.session.freshPromise = some outcome → outcome.failure? = some kind →
      Forged depot (put :: between ++ find :: after) key kind ∨
        LeftBehind depot key head body kind) ∧
    ∀ cache stored, ResponseCache.prepare cache depot.session.now key head body = .ok stored →
      ∀ policy later name checks kind,
        ResponseCache.verdict policy later name checks (some stored.encoded) = .recentFailure kind ↔
          head.status = kind.status ∧ ResponseCache.isCurrent stored.head later = true := by
  intro depot put find asked
  constructor
  · intro outcome kind known fails
    let origin : FailureKind → Prop := fun kind =>
      Forged depot (put :: between ++ find :: after) key kind ∨ LeftBehind depot key head body kind
    have begun : Traced ⟨key, front.layers, fun _ => True, fun _ => False⟩
        (behind front now shelves slow losses) [] :=
      ⟨rfl, fun _ _ _ _ => trivial, fun _ => False.elim, List.forall_mem_nil _,
        List.forall_mem_nil _, List.forall_mem_nil _⟩
    have reached := begun.turns before fun _ turn _ _ =>
      Probe.allows_of_origin (fun _ => trivial) _ turn
    have written := reached.turn put (Probe.allows_of_origin (fun _ => trivial) _ put)
    have fresh := @Traced.anew _ _ written origin fun layer member kind stands =>
      (standsFor_after_put reached stores member stands).imp
        (fun status => ⟨[], head, body, between ++ find :: after, rfl, stores, status⟩) id
    have reaches := fresh.turns between fun earlier turn later split =>
      @allows_of_forged _ depot (put :: between ++ find :: after) (put :: earlier)
        (later ++ find :: after) turn (by rw [split]; simp) (fun _ => .inl) fun kind same =>
          unremembered kind (by rw [← same, split]; simp)
    have probed := (reaches.asking key hooks).turns after fun earlier turn later split => by
      have allowed := @allows_of_forged ⟨key, front.layers, origin, fun _ => False⟩ depot
        (put :: between ++ find :: after) (put :: between ++ find :: earlier) later turn
        (by rw [split]; simp) (fun _ => .inl) fun kind same =>
          unremembered kind (by rw [← same, split]; simp)
      rw [turns_append] at allowed
      exact allowed
    have member := mem_of_lookup known
    exact (probed.outcomes _ member).2 (.inr ⟨rfl, rfl⟩) kind fails
  · intro cache stored prepared policy later name checks kind
    obtain ⟨decodes, status⟩ := ResponseCache.status_of_prepare prepared
    rw [ResponseCache.verdict_recentFailure_iff decodes, status]

/-- A failure that was remembered before a response was put is not reported, even when the response
is over. -/
theorem failure_after_put_sample :
    let depot := (behind (.single { name := "single" } 0) 0 (fun _ _ => none) (fun _ => true)
      []).turns 0 [.operate (.remember "k" .dropped)]
    let between : List Turn :=
      [.operate (.remember "other" .dropped), .operate (.advance (.ofSeconds 400))]
    let asked := depot.turns 0 (.operate (.put "k" sampleHead [118]) :: between)
    let last := asked.turns 0 [.operate (.find "k" {}), .deliver 0]
    (depot.operate 0 (.put "k" sampleHead [118])).2 = .putResult none ∧
      (∀ kind, Turn.operate (.remember "k" kind) ∉ between ++ [.deliver 0]) ∧
      ∃ outcome, last.session.outcomes.lookup asked.session.freshPromise = some outcome ∧
        outcome.failure? = none := by
  intro depot between asked last
  have stores : (depot.operate 0 (.put "k" sampleHead [118])).2 = .putResult none :=
    Reply.eq_putResult (by decide +kernel)
  have unremembered : ∀ kind, Turn.operate (.remember "k" kind) ∉ between ++ [.deliver 0] := by
    intro kind
    simp [between]
  obtain ⟨traced, -⟩ := failure_after_put (.single { name := "single" } 0) 0 (fun _ _ => none)
    (fun _ => true) [] [.operate (.remember "k" .dropped)] between [.deliver 0] "k" sampleHead [118]
    {} stores unremembered
  have answered : (last.session.outcomes.lookup asked.session.freshPromise).isSome = true := by
    decide +kernel
  obtain ⟨outcome, known⟩ := Option.isSome_iff_exists.mp answered
  refine ⟨stores, unremembered, outcome, known, Option.eq_none_iff_forall_ne_some.mpr ?_⟩
  intro kind fails
  dsimp only [last, asked, depot] at known
  cases traced outcome kind known fails with
  | inl forged =>
      obtain ⟨head, body, member, status⟩ := forged.mem
      simp only [between, List.mem_cons, List.cons_append, List.nil_append, Turn.operate.injEq,
        Operation.put.injEq, reduceCtorEq, or_false, List.not_mem_nil] at member
      obtain ⟨-, rfl, -⟩ := member
      cases kind <;> exact absurd status (by decide)
  | inr left =>
      obtain ⟨tiers, first, second, _, front, -⟩ := left
      have alone : (depot.session.front? 0).map Front.layers = some [0] := by decide +kernel
      dsimp only [depot] at alone
      rw [front] at alone
      cases alone

private def pretender : Head :=
  .ofFields 10001 [⟨"Cache-Control", "max-age=300"⟩, ⟨"ETag", "t"⟩]

/-- It is stored by every kind of front, and found as a failure. -/
theorem forged_after_put :
    let reports := fun front : Front =>
      let put := (behind front 0 (fun _ _ => none) (fun _ => false) []).operate 0
        (.put "k" pretender [118])
      put.2.putResult? = some none ∧
        (put.1.operate 0 (.find "k" {})).2.outcome? = some (.recentFailure .fetchFailed)
    reports (.single { name := "single" } 0) ∧ reports (.tiered (.ofPolicy {} none) 0 1) := by
  decide +kernel

/-- A response that does not fit the first tier leaves a failure there, which is reported again once
the response is over. -/
example :
    let depot := (behind (.tiered (.ofPolicy {} (some 200)) 0 1) 0 (fun _ _ => none)
      (fun _ => false) []).turns 0 [.operate (.remember "k" .fetchFailed)]
    let put := depot.operate 0 (.put "k" (.ofFields 200 [⟨"Cache-Control", "max-age=1"⟩])
      (.replicate 200 110))
    let later := put.1.turns 0 [.operate (.advance (.ofSeconds 2))]
    put.2.putResult? = some none ∧
      (later.operate 0 (.find "k" {})).2.outcome?.bind (·.failure?) = some .fetchFailed := by
  decide +kernel

end Depot

end TieredCache
