import TieredCache.Proofs.Decorators.Visits

/-!
What is told to whom. Every lookup in a stack is made for one callback, also where a ticket stands for
the receiver, and every answer on its way is a right one for the callback that waits for it.
-/

namespace TieredCache

variable {α : Type}

/-- Which callbacks were handed in for which keys, and which answers are right for them. -/
structure Terms (α : Type) where
  wants : α → String → Prop
  right : α → Lookup → Prop

structure Terms.Grow (terms wider : Terms α) : Prop where
  wants : ∀ callback key, terms.wants callback key → wider.wants callback key
  right : ∀ callback lookup, terms.right callback lookup → wider.right callback lookup

/-- The callbacks that tickets and captures stand for, by layer and number. -/
abbrev Book (α : Type) := Nat → Nat → α → Prop

def Receiver.For (book : Book α) (callback : α) : Receiver α → Prop
  | .client other => other = callback
  | .place _ next | .member _ _ next => next.For book callback
  | .ticket layer number | .capture layer number => book layer number callback

def Request.Sound (terms : Terms α) (book : Book α) (index : Nat) (request : Request (Receiver α)) :
    Prop :=
  (∃ callback, request.receiver.For book callback ∧ terms.wants callback request.key) ∧
    request.receiver.Above index

def Layer.Sound (terms : Terms α) (book : Book α) (index : Nat) : Layer α → Prop
  | .admission _ state => ∀ request ∈ state.queue, request.Sound terms book index
  | .guarded _ state => ∀ ticket ∈ state.tickets, ticket.receiver.Above index ∧
      ∃ callback, book index ticket.number callback ∧ ticket.receiver.For book callback ∧
        ∀ lookup, ticket.kept = some lookup → terms.right callback lookup
  | .delayed _ state =>
      (∀ held ∈ state.pending, held.receiver.Above index ∧
        ∃ callback, held.receiver.For book callback ∧ terms.wants callback held.key ∧
          terms.right callback held.lookup) ∧
      ∀ capture ∈ state.captures, ∀ lookup, capture.answer = some lookup →
        ∃ callback, book index capture.number callback ∧ terms.right callback lookup
  | _ => True

def Work.Sound (terms : Terms α) (book : Book α) : Work α → Prop
  | .ask index key receiver => Request.Sound terms book index ⟨key, receiver⟩
  | .askMany index requests => ∀ request ∈ requests, request.Sound terms book index
  | .answer receiver lookup => ∃ callback, receiver.For book callback ∧ terms.right callback lookup
  | .hold index number key receiver => receiver.Above index ∧
      ∃ callback, receiver.For book callback ∧ terms.wants callback key ∧ book index number callback
  | .inform callback lookup => terms.right callback lookup
  | _ => True

def Layer.fresh : Layer α → Nat
  | .guarded _ state => state.fresh
  | .delayed _ state => state.fresh
  | _ => 0

variable {terms : Terms α} {book grown : Book α} {index : Nat}

/-! ### More entries in the book -/

def Book.Single (book : Book α) : Prop :=
  ∀ layer number callback other, book layer number callback → book layer number other →
    callback = other

structure Book.Grows (book : Book α) (index : Nat) (grown : Book α) : Prop where
  kept : ∀ layer number callback, book layer number callback → grown layer number callback
  others : ∀ layer number callback, layer ≠ index → grown layer number callback →
    book layer number callback
  single : grown.Single

theorem Book.Grows.trans {further : Book α} (grows : book.Grows index grown)
    (more : grown.Grows index further) : book.Grows index further where
  kept := fun layer number callback old =>
    more.kept _ _ _ (grows.kept layer number callback old)
  others := fun layer number callback different entry =>
    grows.others _ _ _ different (more.others layer number callback different entry)
  single := more.single

theorem Receiver.For.mono {callback : α} {receiver : Receiver α}
    (kept : ∀ layer number callback, book layer number callback → grown layer number callback)
    (meant : receiver.For book callback) : receiver.For grown callback := by
  induction receiver with
  | client callback => exact meant
  | place layer next ih | member layer batch next ih => exact ih meant
  | ticket layer number | capture layer number => exact kept _ _ _ meant

theorem Request.Sound.mono {request : Request (Receiver α)}
    (kept : ∀ layer number callback, book layer number callback → grown layer number callback)
    (sound : request.Sound terms book index) : request.Sound terms grown index := by
  obtain ⟨⟨callback, meant, wanted⟩, above⟩ := sound
  exact ⟨⟨callback, meant.mono kept, wanted⟩, above⟩

/-- A layer stays sound when the book has more entries and more is right. -/
theorem Layer.Sound.weaken {wider : Terms α} {layer : Layer α}
    (kept : ∀ layer number callback, book layer number callback → grown layer number callback)
    (grow : terms.Grow wider) (sound : layer.Sound terms book index) :
    layer.Sound wider grown index := by
  cases layer with
  | admission inner state =>
      intro request member
      obtain ⟨⟨callback, meant, wanted⟩, above⟩ := sound request member
      exact ⟨⟨callback, meant.mono kept, grow.wants _ _ wanted⟩, above⟩
  | guarded inner state =>
      intro ticket member
      obtain ⟨above, callback, entry, meant, answered⟩ := sound ticket member
      exact ⟨above, callback, kept _ _ _ entry, meant.mono kept,
        fun lookup noted => grow.right _ _ (answered lookup noted)⟩
  | delayed inner state =>
      refine ⟨fun held member => ?_, fun capture member lookup answered => ?_⟩
      · obtain ⟨above, callback, meant, wanted, right⟩ := sound.1 held member
        exact ⟨above, callback, meant.mono kept, grow.wants _ _ wanted, grow.right _ _ right⟩
      · obtain ⟨callback, entry, right⟩ := sound.2 capture member lookup answered
        exact ⟨callback, kept _ _ _ entry, grow.right _ _ right⟩
  | _ => trivial

theorem Layer.Sound.mono {layer : Layer α}
    (kept : ∀ layer number callback, book layer number callback → grown layer number callback)
    (sound : layer.Sound terms book index) : layer.Sound terms grown index :=
  sound.weaken kept ⟨fun _ _ => id, fun _ _ => id⟩

theorem Layer.Sound.widen {wider : Terms α} {layer : Layer α} (grow : terms.Grow wider)
    (sound : layer.Sound terms book index) : layer.Sound wider book index :=
  sound.weaken (fun _ _ _ => id) grow

theorem Work.Sound.mono {work : Work α}
    (kept : ∀ layer number callback, book layer number callback → grown layer number callback)
    (sound : work.Sound terms book) : work.Sound terms grown := by
  cases work with
  | ask layer key receiver => exact Request.Sound.mono kept sound
  | askMany layer requests => exact fun request member => (sound request member).mono kept
  | answer receiver lookup =>
      obtain ⟨callback, meant, right⟩ := sound
      exact ⟨callback, meant.mono kept, right⟩
  | hold layer number key receiver =>
      obtain ⟨above, callback, meant, wanted, entry⟩ := sound
      exact ⟨above, callback, meant.mono kept, wanted, kept _ _ _ entry⟩
  | inform callback lookup => exact sound
  | _ => trivial

def Book.enter (book : Book α) (index number : Nat) (callback : α) : Book α :=
  fun layer other known =>
    book layer other known ∨ layer = index ∧ other = number ∧ known = callback

theorem Book.grows_enter {fresh : Nat} (callback : α) (single : book.Single)
    (used : ∀ number known, book index number known → number < fresh) :
    book.Grows index (book.enter index fresh callback) where
  kept := fun _ _ _ => .inl
  others := by
    rintro layer other known different (old | ⟨same, -⟩)
    · exact old
    · exact absurd same different
  single := by
    have unused : ∀ known, ¬book index fresh known :=
      fun known entry => Nat.lt_irrefl _ (used _ _ entry)
    rintro layer other known again (old | ⟨rfl, rfl, own⟩) (old' | ⟨here, there, own'⟩)
    · exact single _ _ _ _ old old'
    · rw [here, there] at old
      exact absurd old (unused known)
    · exact absurd old' (unused again)
    · exact own.trans own'.symm

theorem Book.lt_of_enter {fresh number : Nat} {callback known : α}
    (used : ∀ number known, book index number known → number < fresh)
    (entry : book.enter index fresh callback index number known) : number < fresh + 1 := by
  rcases entry with old | ⟨-, rfl, -⟩
  · exact Nat.lt_succ_of_lt (used number known old)
  · exact Nat.lt_succ_self _

/-! ### Lookups that wait -/

theorem Request.Sound.lower {request : Request (Receiver α)} {lower : Nat}
    (sound : request.Sound terms book index) (le : lower ≤ index) :
    request.Sound terms book lower :=
  ⟨sound.1, sound.2.mono le⟩

theorem Request.Sound.answer {request : Request (Receiver α)} {lookup : Lookup}
    (sound : request.Sound terms book index)
    (right : ∀ callback, terms.wants callback request.key → terms.right callback lookup) :
    (Work.answer request.receiver lookup).Sound terms book := by
  obtain ⟨⟨callback, meant, wanted⟩, -⟩ := sound
  exact ⟨callback, meant, right callback wanted⟩

/-! ### Tickets -/

variable {inner : Nat} {guarded : Guard (Receiver α)}

theorem Layer.Sound.issue (sound : (Layer.guarded inner guarded).Sound terms book index)
    (single : book.Single)
    (used : ∀ number callback, book index number callback → number < guarded.fresh)
    {request : Request (Receiver α)} (own : request.Sound terms book index) :
    ∃ grown : Book α, book.Grows index grown ∧
      (∃ callback, grown index guarded.fresh callback ∧ terms.wants callback request.key) ∧
      (∀ number callback, grown index number callback →
        number < (guarded.issue request.receiver).1.fresh) ∧
      (Layer.guarded inner (guarded.issue request.receiver).1).Sound terms grown index := by
  obtain ⟨⟨callback, meant, wanted⟩, above⟩ := own
  have grows := Book.grows_enter callback single used
  refine ⟨book.enter index guarded.fresh callback, grows, ⟨callback, .inr ⟨rfl, rfl, rfl⟩, wanted⟩,
    fun number known => Book.lt_of_enter used, ?_⟩
  · intro ticket member
    rcases List.mem_cons.mp member with fresh | old
    · rw [fresh]
      exact ⟨above, callback, .inr ⟨rfl, rfl, rfl⟩, meant.mono grows.kept, fun _ same => nomatch same⟩
    · obtain ⟨above, known, entry, waiting, answered⟩ := sound ticket old
      exact ⟨above, known, grows.kept _ _ _ entry, waiting.mono grows.kept, answered⟩

theorem Layer.Sound.issueAll {requests : List (Request (Receiver α))}
    (sound : (Layer.guarded inner guarded).Sound terms book index)
    (single : book.Single)
    (used : ∀ number callback, book index number callback → number < guarded.fresh)
    (own : ∀ request ∈ requests, request.Sound terms book index) :
    ∃ grown : Book α, book.Grows index grown ∧
      (∀ number callback, grown index number callback →
        number < (Stack.issueAll index guarded requests).1.fresh) ∧
      (Layer.guarded inner (Stack.issueAll index guarded requests).1).Sound terms grown index ∧
      ∀ request ∈ (Stack.issueAll index guarded requests).2.1, ∀ lower < index,
        request.Sound terms grown lower := by
  induction requests generalizing guarded book with
  | nil =>
      exact ⟨book, ⟨fun _ _ _ => id, fun _ _ _ _ => id, single⟩, used, sound,
        fun _ member => nomatch member⟩
  | cons request rest ih =>
      obtain ⟨first, grows, ⟨callback, entry, wanted⟩, counted, issued⟩ :=
        sound.issue single used (own request List.mem_cons_self)
      obtain ⟨grown, more, last, all, wrapped⟩ := ih issued grows.single counted fun other member =>
        (own other (List.mem_cons_of_mem _ member)).mono grows.kept
      refine ⟨grown, grows.trans more, last, all, ?_⟩
      intro other member lower below
      rcases List.mem_cons.mp member with here | later
      · rw [here]
        exact ⟨⟨callback, more.kept _ _ _ entry, wanted⟩, below⟩
      · exact wrapped other later lower below

/-- Whoever a ticket is booked for is who its receiver waits for. -/
theorem Layer.Sound.waits {ticket : Ticket (Receiver α)} {number : Nat} {callback : α}
    (sound : (Layer.guarded inner guarded).Sound terms book index) (single : book.Single)
    (known : guarded.find? number = some ticket) (named : book index number callback) :
    ticket.receiver.For book callback := by
  obtain ⟨-, other, entry, meant, -⟩ := sound ticket (List.mem_of_find?_eq_some known)
  rw [Guard.number_eq known] at entry
  rwa [single _ _ _ _ entry named] at meant

theorem Layer.Sound.without (sound : (Layer.guarded inner guarded).Sound terms book index)
    (number : Nat) : (Layer.guarded inner (guarded.without number)).Sound terms book index :=
  fun ticket member => sound ticket (Guard.mem_without member).1

theorem Layer.Sound.keep {ticket : Ticket (Receiver α)} {number : Nat} {lookup : Lookup}
    (sound : (Layer.guarded inner guarded).Sound terms book index) (single : book.Single)
    (known : guarded.find? number = some ticket)
    (own : (Work.answer (.ticket index number) lookup).Sound terms book) :
    (Layer.guarded inner (guarded.update { ticket with kept := some lookup })).Sound terms book
      index := by
  intro changed member
  rcases Guard.mem_update member with here | ⟨old, -⟩
  · obtain ⟨above, -⟩ := sound ticket (List.mem_of_find?_eq_some known)
    obtain ⟨callback, named, right⟩ := own
    have waiting := sound.waits single known named
    rw [here]
    refine ⟨above, callback, ?_, waiting, fun kept same => ?_⟩
    · rw [← Guard.number_eq known] at named
      exact named
    · cases same
      exact right
  · exact sound changed old

theorem Layer.Sound.leave {ticket : Ticket (Receiver α)} {number : Nat}
    (sound : (Layer.guarded inner guarded).Sound terms book index)
    (known : guarded.find? number = some ticket) :
    (Layer.guarded inner (guarded.update { ticket with inside := false })).Sound terms book
      index := by
  intro changed member
  rcases Guard.mem_update member with here | ⟨old, -⟩
  · rw [here]
    exact sound ticket (List.mem_of_find?_eq_some known)
  · exact sound changed old

/-! ### Captures -/

variable {delay : Delay (Receiver α)}

theorem Layer.Sound.beginCapture (sound : (Layer.delayed inner delay).Sound terms book index)
    (grows : book.Grows index grown) :
    (Layer.delayed inner delay.beginCapture.1).Sound terms grown index := by
  have kept : (Layer.delayed inner delay).Sound terms grown index := Layer.Sound.mono grows.kept sound
  refine ⟨kept.1, fun capture member lookup answered => ?_⟩
  rcases List.mem_cons.mp member with fresh | old
  · rw [fresh] at answered
    cases answered
  · exact kept.2 capture old lookup answered

theorem Layer.Sound.capture {number : Nat} {lookup : Lookup}
    (sound : (Layer.delayed inner delay).Sound terms book index)
    (own : (Work.answer (.capture index number) lookup).Sound terms book) :
    (Layer.delayed inner (delay.capture number lookup)).Sound terms book index := by
  refine ⟨sound.1, fun capture member noted answered => ?_⟩
  obtain ⟨old, there, changed⟩ := List.mem_map.mp member
  split at changed
  · rename_i mine
    rw [← changed] at answered ⊢
    cases answered
    obtain ⟨callback, entry, right⟩ := own
    rw [← mine] at entry
    exact ⟨callback, entry, right⟩
  · rw [← changed] at answered ⊢
    exact sound.2 old there noted answered

/-- What a delay keeps back is right for the caller, be it what was captured or a miss. -/
theorem Layer.Sound.captured {number : Nat} {callback : α}
    (sound : (Layer.delayed inner delay).Sound terms book index) (single : book.Single)
    (miss : terms.right callback .notFound) (named : book index number callback) :
    terms.right callback
      (((delay.captures.find? (·.number = number)).bind (·.answer)).getD .notFound) := by
  cases known : delay.captures.find? (·.number = number) with
  | none => exact miss
  | some capture =>
      have numbered : capture.number = number := by simpa using List.find?_some known
      cases noted : capture.answer with
      | none => simpa [noted] using miss
      | some lookup =>
          obtain ⟨other, entry, right⟩ :=
            sound.2 capture (List.mem_of_find?_eq_some known) lookup noted
          rw [numbered] at entry
          rw [single _ _ _ _ entry named] at right
          simpa [noted] using right

theorem Layer.Sound.hold {number : Nat} {key : String} {receiver : Receiver α}
    (sound : (Layer.delayed inner delay).Sound terms book index) (single : book.Single)
    (missed : ∀ callback key, terms.wants callback key → terms.right callback .notFound)
    (own : (Work.hold index number key receiver).Sound terms book) :
    (Layer.delayed inner (delay.hold number key receiver)).Sound terms book index := by
  refine ⟨fun held member => ?_, fun capture member => sound.2 capture (List.mem_filter.mp member).1⟩
  rcases List.mem_append.mp member with old | last
  · exact sound.1 held old
  · rw [List.mem_singleton.mp last]
    obtain ⟨above, callback, meant, wanted, named⟩ := own
    exact ⟨above, callback, meant, wanted,
      sound.captured single (missed callback key wanted) named⟩

/-! ### What one layer does -/

theorem Act.sound {found : String → Lookup} {before after : Layer α} {work : Work α}
    {more : List (Work α)} (act : Act index found before work after more) (single : book.Single)
    (used : ∀ number callback, book index number callback → number < before.fresh)
    (below : ∀ inner, before.inner? = some inner → inner < index)
    (missed : ∀ callback key, terms.wants callback key → terms.right callback .notFound)
    (read : ∀ callback key, terms.wants callback key → terms.right callback (found key))
    (sound : before.Sound terms book index) (own : work.Sound terms book) :
    ∃ grown : Book α, book.Grows index grown ∧
      (∀ number callback, grown index number callback → number < after.fresh) ∧
      after.Sound terms grown index ∧ ∀ follower ∈ more, follower.Sound terms grown := by
  have same : book.Grows index book := ⟨fun _ _ _ => id, fun _ _ _ _ => id, single⟩
  have unchanged (fresh : after.fresh = before.fresh) (kept : after.Sound terms book index)
      (left : ∀ follower ∈ more, follower.Sound terms book) : ∃ grown : Book α,
        book.Grows index grown ∧
        (∀ number callback, grown index number callback → number < after.fresh) ∧
        after.Sound terms grown index ∧ ∀ follower ∈ more, follower.Sound terms grown :=
    ⟨book, same, fresh ▸ used, kept, left⟩
  have unseen : ∀ follower ∈ ([] : List (Work α)), follower.Sound terms book :=
    List.forall_mem_nil _
  cases act with
  | read key receiver bottom =>
      exact unchanged rfl sound (List.forall_mem_singleton.mpr
        (Request.Sound.answer own fun callback => read callback key))
  | refuse key receiver dropped busy =>
      exact unchanged rfl sound (List.forall_mem_singleton.mpr
        (Request.Sound.answer own fun callback => missed callback key))
  | issue key receiver opened free =>
      have lower := below _ rfl
      exact unchanged rfl sound (List.forall_mem_singleton.mpr
        ⟨own.1, lower, own.2.mono (Nat.le_of_lt lower)⟩)
  | queue key receiver opened taken =>
      exact unchanged rfl
        (List.forall_mem_append.mpr ⟨sound, List.forall_mem_singleton.mpr own⟩) unseen
  | @enter inner guarded key receiver free =>
      have waiting : (Layer.guarded inner guarded.take).Sound terms book index := sound
      have request : Request.Sound terms book index ⟨key, receiver⟩ := own
      obtain ⟨grown, grows, entry, counted, issued⟩ := waiting.issue single used request
      refine ⟨grown, grows, counted, issued, List.forall_mem_cons.mpr ⟨⟨entry, below _ rfl⟩, ?_⟩⟩
      exact List.forall_mem_cons.mpr ⟨trivial, List.forall_mem_singleton.mpr trivial⟩
  | count key receiver hits | passOn key receiver prompt =>
      exact unchanged rfl sound (List.forall_mem_singleton.mpr
        (Request.Sound.lower own (Nat.le_of_lt (below _ rfl))))
  | @postpone inner delay key receiver delays =>
      obtain ⟨⟨callback, meant, wanted⟩, above⟩ := own
      have waiting : (Layer.delayed inner delay).Sound terms book index := sound
      have grows := Book.grows_enter callback single used
      have entered : book.enter index delay.fresh callback index delay.fresh callback :=
        .inr ⟨rfl, rfl, rfl⟩
      refine ⟨_, grows, fun number known => Book.lt_of_enter used, waiting.beginCapture grows,
        List.forall_mem_cons.mpr ⟨⟨⟨callback, entered, wanted⟩, below _ rfl⟩, ?_⟩⟩
      exact List.forall_mem_singleton.mpr
        ⟨above, callback, meant.mono grows.kept, wanted, entered⟩
  | spread requests unguarded =>
      have fresh : (before.noteBatch requests.length).fresh = before.fresh := by
        cases before <;> rfl
      have kept : (before.noteBatch requests.length).Sound terms book index := by
        cases before <;> exact sound
      exact unchanged fresh kept (List.forall_mem_map.mpr own)
  | @enterAll inner guarded requests free =>
      have waiting : (Layer.guarded inner guarded.take).Sound terms book index := sound
      obtain ⟨grown, grows, counted, issued, wrapped⟩ := waiting.issueAll single used own
      refine ⟨grown, grows, counted, issued, List.forall_mem_cons.mpr
        ⟨fun request member => wrapped request member inner (below inner rfl), ?_⟩⟩
      exact List.forall_mem_cons.mpr ⟨trivial, List.forall_mem_singleton.mpr trivial⟩
  | keep number lookup known inside =>
      exact unchanged rfl (Layer.Sound.keep sound single known own) unseen
  | handBack number lookup known outside =>
      obtain ⟨callback, named, right⟩ := own
      exact unchanged rfl (Layer.Sound.without sound number) (List.forall_mem_singleton.mpr
        ⟨callback, Layer.Sound.waits sound single known named, right⟩)
  | capture number lookup => exact unchanged rfl (Layer.Sound.capture sound own) unseen
  | hold number key receiver =>
      exact unchanged rfl (Layer.Sound.hold sound single missed own) unseen
  | freeGuard => exact unchanged rfl sound unseen
  | skip number tickets unknown =>
      exact unchanged rfl sound (List.forall_mem_singleton.mpr trivial)
  | @deliver inner guarded ticket lookup number tickets known kept =>
      obtain ⟨-, callback, -, meant, answered⟩ :=
        sound ticket (List.mem_of_find?_eq_some known)
      exact unchanged rfl (Layer.Sound.without sound number) (List.forall_mem_cons.mpr
        ⟨⟨callback, meant, answered lookup kept⟩, List.forall_mem_singleton.mpr trivial⟩)
  | leave number tickets known empty =>
      exact unchanged rfl (Layer.Sound.leave sound known) (List.forall_mem_singleton.mpr trivial)
  | vacate empty => exact unchanged rfl sound unseen
  | flush waiting =>
      have lower := below _ rfl
      refine unchanged rfl (List.forall_mem_nil _) (List.forall_mem_singleton.mpr ?_)
      exact List.forall_mem_map.mpr fun request queued =>
        ⟨(sound request queued).1, lower, (sound request queued).2.mono (Nat.le_of_lt lower)⟩
  | member number batches last =>
      refine unchanged rfl sound ?_
      cases last with
      | true => exact List.forall_mem_singleton.mpr trivial
      | false => exact unseen
  | closeBottom bottom =>
      have fresh : before.shut.fresh = before.fresh := by
        cases before <;> rfl
      have kept : before.shut.Sound terms book index := by
        cases before <;> exact sound
      exact unchanged fresh kept unseen
  | closeAdmission =>
      refine unchanged rfl (List.forall_mem_nil _) (List.forall_mem_append.mpr
        ⟨?_, List.forall_mem_singleton.mpr trivial⟩)
      rw [Stack.answerAll, List.map_map]
      exact List.forall_mem_map.mpr fun request queued =>
        (sound request queued).answer fun callback => missed callback request.key
  | closeGuard free =>
      exact unchanged rfl sound
        (List.forall_mem_cons.mpr ⟨trivial, List.forall_mem_singleton.mpr trivial⟩)
  | closeCounted => exact unchanged rfl sound (List.forall_mem_singleton.mpr trivial)
  | closeDelay =>
      refine unchanged rfl ⟨List.forall_mem_nil _, sound.2⟩ (List.forall_mem_append.mpr
        ⟨?_, List.forall_mem_singleton.mpr trivial⟩)
      rw [Stack.answerAll, List.map_map]
      refine List.forall_mem_map.mpr fun held pending => ?_
      obtain ⟨above, callback, meant, wanted, -⟩ :=
        sound.1 held (Delay.grouped_perm _ |>.mem_iff.mp pending)
      exact ⟨callback, meant, missed callback held.key wanted⟩
  | release key =>
      refine unchanged rfl ⟨fun held member => sound.1 held (List.mem_filter.mp member).1, sound.2⟩
        (List.forall_mem_map.mpr fun held released => ?_)
      obtain ⟨above, callback, meant, wanted, right⟩ := sound.1 held (List.mem_filter.mp released).1
      exact ⟨callback, meant, right⟩

theorem Passage.sound {work : Work α} {more : List (Work α)} (passage : Passage work more)
    (own : work.Sound terms book) : ∀ follower ∈ more, follower.Sound terms book := by
  cases passage with
  | client callback lookup =>
      intro follower member
      rw [List.mem_singleton.mp member]
      obtain ⟨other, rfl, right⟩ := own
      exact right
  | place layer next lookup | member layer batch next lookup =>
      simp only [List.mem_cons, List.not_mem_nil, or_false, forall_eq_or_imp, forall_eq]
      exact ⟨own, trivial⟩

end TieredCache
