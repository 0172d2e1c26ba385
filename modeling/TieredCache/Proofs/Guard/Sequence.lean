import TieredCache.Proofs.Guard.Exits

/-!
A guard and the calls that are on their way out of it. It is held exactly while a call is in progress
that has not freed it yet, and a lookup is inside until its own call comes to hand it its answer.
-/

namespace TieredCache

variable {α : Type}

namespace Guard

variable {guarded changed : Guard (Receiver α)} {index : Nat} {requests : List (Request (Receiver α))}

theorem held_issueAll (index : Nat) (guarded : Guard (Receiver α))
    (requests : List (Request (Receiver α))) :
    (Stack.issueAll index guarded requests).1.held = guarded.held := by
  induction requests generalizing guarded with
  | nil => rfl
  | cons request rest ih => exact ih (guarded.issue request.receiver).1

theorem fresh_issueAll (index : Nat) (guarded : Guard (Receiver α))
    (requests : List (Request (Receiver α))) :
    (Stack.issueAll index guarded requests).1.fresh = guarded.fresh + requests.length := by
  induction requests generalizing guarded with
  | nil => rfl
  | cons request rest ih =>
      rw [Stack.issueAll, List.length_cons]
      exact (ih (guarded.issue request.receiver).1).trans (Nat.add_right_comm _ 1 rest.length)

end Guard

def pendingOf (exits : List Exit) : List Nat := exits.flatMap Exit.tickets

theorem pendingOf_append (first second : List Exit) :
    pendingOf (first ++ second) = pendingOf first ++ pendingOf second := List.flatMap_append

/-- How a guard stands to the ways out of it that are still to be gone, innermost call first. -/
structure Guard.Sequenced (guarded : Guard (Receiver α)) (exits : List Exit) : Prop where
  held : guarded.held = true ↔ exits.head? = some .free
  once : .free ∉ exits.tail
  distinct : (pendingOf exits).Nodup
  issued : ∀ number ∈ pendingOf exits, number < guarded.fresh
  numbered : ∀ ticket ∈ guarded.tickets, ticket.number < guarded.fresh
  inside : ∀ ticket ∈ guarded.tickets, (ticket.inside = true ↔ ticket.number ∈ pendingOf exits)

namespace Guard

variable {guarded changed : Guard (Receiver α)} {index : Nat} {exits later : List Exit}
  {requests : List (Request (Receiver α))}

theorem sequenced_new : Guard.Sequenced ({} : Guard (Receiver α)) [] where
  held := ⟨nofun, nofun⟩
  once := nofun
  distinct := .nil
  issued := nofun
  numbered := nofun
  inside := nofun

theorem Sequenced.held_iff_mem (sequenced : guarded.Sequenced exits) :
    guarded.held = true ↔ .free ∈ exits := by
  refine ⟨fun held => List.mem_of_mem_head? (sequenced.held.mp held), fun member => ?_⟩
  cases exits with
  | nil => cases member
  | cons first rest =>
      refine sequenced.held.mpr ?_
      rcases List.mem_cons.mp member with here | there
      · rw [here]
        rfl
      · exact absurd there sequenced.once

theorem Sequenced.unheld (sequenced : guarded.Sequenced exits) (free : guarded.held = false) :
    .free ∉ exits := fun member => by
  rw [sequenced.held_iff_mem.mpr member] at free
  cases free

/-- A call is let in, with new tickets for its lookups. -/
theorem Sequenced.enter (sequenced : guarded.Sequenced exits) (free : guarded.held = false)
    (index : Nat) (requests : List (Request (Receiver α))) (single : .free ∉ later)
    (tickets : pendingOf later = (Stack.issueAll index guarded.take requests).2.2) :
    (Stack.issueAll index guarded.take requests).1.Sequenced (.free :: later ++ exits) := by
  have fresh := fresh_issueAll index guarded.take requests
  rw [tickets_issueAll] at tickets
  have pending : pendingOf (.free :: later ++ exits) =
      List.range' guarded.fresh requests.length ++ pendingOf exits := by
    rw [List.cons_append, pendingOf, List.flatMap_cons]
    exact (pendingOf_append later exits).trans (congrArg (· ++ pendingOf exits) tickets)
  have new (number : Nat) : number ∈ List.range' guarded.fresh requests.length ↔
      guarded.fresh ≤ number ∧ number < guarded.fresh + requests.length := List.mem_range'_1
  refine ⟨?_, ?_, ?_, ?_, ?_, ?_⟩
  · rw [held_issueAll]
    exact ⟨fun _ => rfl, fun _ => rfl⟩
  · rw [List.cons_append, List.tail_cons, List.mem_append]
    exact not_or.mpr ⟨single, sequenced.unheld free⟩
  · rw [pending]
    refine List.nodup_append.mpr ⟨List.nodup_range', sequenced.distinct, ?_⟩
    rintro number recent other old rfl
    have bounds := (new number).mp recent
    have bound := sequenced.issued number old
    omega
  · intro number member
    rw [pending, List.mem_append, new] at member
    rw [fresh]
    change number < guarded.fresh + requests.length
    rcases member with recent | old
    · exact recent.2
    · exact Nat.lt_add_right _ (sequenced.issued number old)
  · intro ticket member
    rw [fresh]
    change ticket.number < guarded.fresh + requests.length
    rcases mem_issueAll member with old | ⟨recent, -⟩
    · exact Nat.lt_add_right _ (sequenced.numbered ticket old)
    · rw [tickets_issueAll] at recent
      exact ((new _).mp recent).2
  · intro ticket member
    rw [pending, List.mem_append, new]
    rcases mem_issueAll member with old | ⟨recent, inside, -⟩
    · have bound := sequenced.numbered ticket old
      rw [sequenced.inside ticket old]
      exact ⟨.inr, fun either => either.resolve_left fun bounds => by omega⟩
    · rw [tickets_issueAll] at recent
      exact ⟨fun _ => .inl ((new _).mp recent), fun _ => inside⟩

theorem Sequenced.free (sequenced : guarded.Sequenced (.free :: exits)) :
    guarded.free.Sequenced exits where
  held := by
    refine ⟨nofun, fun first => absurd ?_ sequenced.once⟩
    exact List.mem_of_mem_head? first
  once member := sequenced.once (List.mem_of_mem_tail member)
  distinct := sequenced.distinct
  issued := sequenced.issued
  numbered := sequenced.numbered
  inside := sequenced.inside

/-- The ticket of that number is no longer inside, and the others stay as they are. -/
theorem Sequenced.pass {number : Nat} {rest : List Nat}
    (sequenced : guarded.Sequenced (.handOut (number :: rest) :: exits))
    (held : changed.held = guarded.held) (fresh : changed.fresh = guarded.fresh)
    (tickets : ∀ ticket ∈ changed.tickets, ticket.number = number ∧ ticket.inside = false ∨
      ticket ∈ guarded.tickets ∧ ticket.number ≠ number) :
    changed.Sequenced (.handOut rest :: exits) := by
  have distinct : number ∉ pendingOf (.handOut rest :: exits) ∧
      (pendingOf (.handOut rest :: exits)).Nodup := List.nodup_cons.mp sequenced.distinct
  have pending (other : Nat) : other ∈ pendingOf (.handOut (number :: rest) :: exits) ↔
      other = number ∨ other ∈ pendingOf (.handOut rest :: exits) := List.mem_cons
  refine ⟨?_, sequenced.once, distinct.2, ?_, ?_, ?_⟩
  · rw [held]
    exact ⟨fun busy => (nomatch sequenced.held.mp busy), nofun⟩
  · intro other member
    rw [fresh]
    exact sequenced.issued other ((pending other).mpr (.inr member))
  · intro ticket member
    rw [fresh]
    rcases tickets ticket member with ⟨same, -⟩ | ⟨old, -⟩
    · rw [same]
      exact sequenced.issued number ((pending number).mpr (.inl rfl))
    · exact sequenced.numbered ticket old
  · intro ticket member
    rcases tickets ticket member with ⟨same, outside⟩ | ⟨old, other⟩
    · rw [same, outside]
      exact ⟨nofun, fun member => absurd member distinct.1⟩
    · rw [sequenced.inside ticket old, pending]
      exact or_iff_right other

/-- A call that is out of the guard has come to the next of its tickets. -/
theorem Sequenced.leave {number : Nat} {rest : List Nat}
    (sequenced : guarded.Sequenced (.handOut (number :: rest) :: exits)) :
    (guarded.leave number).1.Sequenced (.handOut rest :: exits) := by
  unfold Guard.leave
  split
  · rename_i unknown
    refine sequenced.pass rfl rfl fun ticket member => .inr ⟨member, ?_⟩
    simpa using List.find?_eq_none.mp unknown ticket member
  · rename_i ticket known
    split
    · exact sequenced.pass rfl rfl fun ticket member => .inr (mem_without member)
    · refine sequenced.pass rfl rfl fun other member => ?_
      rw [← number_eq known]
      rcases mem_update member with rfl | old
      · exact .inl ⟨rfl, rfl⟩
      · exact .inr old

/-- Tickets may be told something or get lost. -/
theorem Sequenced.retain (sequenced : guarded.Sequenced exits) (held : changed.held = guarded.held)
    (fresh : changed.fresh = guarded.fresh)
    (tickets : ∀ ticket ∈ changed.tickets, ∃ former ∈ guarded.tickets,
      ticket.number = former.number ∧ ticket.inside = former.inside) :
    changed.Sequenced exits where
  held := by rw [held, sequenced.held]
  once := sequenced.once
  distinct := sequenced.distinct
  issued number member := by
    rw [fresh]
    exact sequenced.issued number member
  numbered ticket member := by
    obtain ⟨former, old, number, -⟩ := tickets ticket member
    rw [fresh, number]
    exact sequenced.numbered former old
  inside ticket member := by
    obtain ⟨former, old, number, inside⟩ := tickets ticket member
    rw [number, inside]
    exact sequenced.inside former old

theorem Sequenced.without (sequenced : guarded.Sequenced exits) (number : Nat) :
    (guarded.without number).Sequenced exits :=
  sequenced.retain rfl rfl fun ticket member => ⟨ticket, (mem_without member).1, rfl, rfl⟩

theorem Sequenced.answer (sequenced : guarded.Sequenced exits) (number : Nat) (lookup : Lookup) :
    (guarded.answer number lookup).1.Sequenced exits := by
  unfold Guard.answer
  split
  · exact sequenced
  · rename_i ticket known
    split
    · refine sequenced.retain rfl rfl fun other member => ?_
      rcases mem_update member with rfl | ⟨old, -⟩
      · exact ⟨ticket, List.mem_of_find?_eq_some known, rfl, rfl⟩
      · exact ⟨other, old, rfl, rfl⟩
    · exact sequenced.without number

theorem Sequenced.done (sequenced : guarded.Sequenced (.handOut [] :: exits)) :
    guarded.Sequenced exits := by
  have unheld : guarded.held = false :=
    Bool.eq_false_iff.mpr fun held => (nomatch sequenced.held.mp held)
  refine ⟨?_, fun member => sequenced.once (List.mem_of_mem_tail member), sequenced.distinct,
    sequenced.issued, sequenced.numbered, sequenced.inside⟩
  rw [unheld]
  exact ⟨nofun, fun first => absurd (List.mem_of_mem_head? first) sequenced.once⟩

/-- What a piece of work does keeps guard and ways out in step. -/
theorem Effect.sequenced {work : Work α} {more : List Exit}
    (effect : guarded.Effect index work changed more)
    (sequenced : guarded.Sequenced ((work.exit? index).toList ++ exits)) :
    changed.Sequenced (more ++ exits) := by
  cases effect with
  | enter key receiver free => exact sequenced.enter free index [⟨key, receiver⟩] (by simp) rfl
  | enterAll requests free =>
      exact sequenced.enter free index requests (by simp) (List.append_nil _)
  | take called free =>
      rw [Work.exit?_of_callee? called] at sequenced
      exact sequenced.enter free index [] List.not_mem_nil rfl
  | free =>
      simp only [Work.exit?, if_true, Option.toList_some, List.singleton_append] at sequenced
      exact sequenced.free
  | leave number rest =>
      simp only [Work.exit?, if_true, Option.toList_some, List.singleton_append] at sequenced
      exact sequenced.leave
  | done =>
      simp only [Work.exit?, if_true, Option.toList_some, List.singleton_append] at sequenced
      exact sequenced.done
  | answer number lookup => exact sequenced.answer number lookup
  | lose number => exact sequenced.without number
  | aside foreign =>
      rw [foreign] at sequenced
      exact sequenced

end Guard

end TieredCache
