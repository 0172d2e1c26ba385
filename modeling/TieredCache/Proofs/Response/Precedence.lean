import TieredCache.Proofs.Response.Dates
import TieredCache.Response.Lifetime

/-!
How the freshness of a response follows from its fields. Main statement: sums and products are exact or
come to the last moment of all, and what is not decisive has no influence.
-/

namespace TieredCache

namespace Millis

def greatest : Millis := clamp 0x7FFFFFFFFFFFFFFF

theorem ofSeconds_nonneg (seconds : Nat) : 0 ≤ (ofSeconds seconds).value := by
  simp only [ofSeconds, clamp]
  omega

theorem ofSeconds_value (seconds : Nat) :
    (ofSeconds seconds).value = min (1000 * (seconds : Int)) greatest.value := by
  simp only [ofSeconds, greatest, clamp]
  omega

/-- Two moments keep their order when a lifetime is added, but both may come to the last one. -/
theorem add_le_add_iff {left right lifetime : Millis} (nonneg : 0 ≤ lifetime.value) :
    left + lifetime ≤ right + lifetime ↔ left ≤ right ∨ right + lifetime = greatest := by
  change (left + lifetime).value ≤ (right + lifetime).value ↔ left.value ≤ right.value ∨ _
  have low := left.lower
  have high := left.upper
  have lowRight := right.lower
  rw [show right + lifetime = greatest ↔ (right + lifetime).value = greatest.value from
    ⟨congrArg value, Millis.ext⟩]
  simp only [add_value, greatest, clamp]
  omega

/-- A longer lifetime ends no sooner. -/
theorem add_ofSeconds_le (date : Millis) {less more : Nat} (le : less ≤ more) :
    date + ofSeconds less ≤ date + ofSeconds more := by
  change (date + ofSeconds less).value ≤ (date + ofSeconds more).value
  rw [add_value, add_value, ofSeconds_value, ofSeconds_value]
  omega

end Millis

/-- The number that a directive gives, whether or not 64 bits can hold it. -/
def Directive.number? (directive : Directive) : Option Int := directive.argument.bind Text.integer?

theorem Directive.seconds_eq {directive : Directive} {number : Int}
    (given : directive.number? = some number) (low : -0x8000000000000000 ≤ number)
    (high : number < 0x8000000000000000) : directive.seconds = number.toNat := by
  rw [number?] at given
  rw [seconds, given, Option.bind_some, Millis.ofInt?, dif_pos ⟨low, high⟩]
  rfl

namespace Head

variable {head left right : Head} {directive : Directive} {now implicitLifetime : Millis}
  {freshness : Freshness}

/-! ### What decides -/

def directive? (head : Head) (name : String) : Option Directive :=
  head.directives.find? (·.name = name.toList)

def deciding? (head : Head) : Option Directive :=
  (head.directive? "s-maxage").or (head.directive? "max-age")

theorem maxAge?_or_maxAge? (head : Head) : (head.maxAge? "s-maxage").or (head.maxAge? "max-age") =
    head.deciding?.map Directive.seconds := by
  rw [deciding?, Option.map_or]
  rfl

/-- Such a directive settles the lifetime, whatever else the head says. -/
theorem freshness?_of_maxAge {seconds : Nat}
    (declared : (head.maxAge? "s-maxage").or (head.maxAge? "max-age") = some seconds)
    (now implicitLifetime : Millis) : head.freshness? now implicitLifetime =
      some ⟨head.dateOr now, .ofSeconds seconds, true⟩ := by
  simp only [freshness?, declaredLifetime?, declared]

theorem freshness?_of_deciding (decides : head.deciding? = some directive)
    (now implicitLifetime : Millis) : head.freshness? now implicitLifetime =
      some ⟨head.dateOr now, .ofSeconds directive.seconds, true⟩ :=
  freshness?_of_maxAge (by rw [maxAge?_or_maxAge?, decides, Option.map_some]) now implicitLifetime

theorem freshness?_of_expires {text : String} (undecided : head.deciding? = none)
    (expires : head.soleValue? "expires" = some text) (now implicitLifetime : Millis) :
    head.freshness? now implicitLifetime =
      some ⟨head.dateOr now,
        (((MailDate.read? text).getD (head.dateOr now)) - head.dateOr now).atLeastZero, true⟩ := by
  have silent : (head.maxAge? "s-maxage").or (head.maxAge? "max-age") = none := by
    rw [maxAge?_or_maxAge?, undecided, Option.map_none]
  simp only [freshness?, declaredLifetime?, silent, expires, Option.map_some]

theorem dateOr_congr (same : left.soleValue? "date" = right.soleValue? "date") (now : Millis) :
    left.dateOr now = right.dateOr now := by
  rw [dateOr, dateOr, same]

/-! ### Sums that are not cut off -/

theorem dateOr_lower (head : Head) (later : 0 ≤ now.value) :
    -100000000000000 ≤ (head.dateOr now).value := by
  rw [dateOr]
  cases reads : (head.soleValue? "date").bind MailDate.read? with
  | none =>
      rw [Option.getD_none]
      omega
  | some date =>
      obtain ⟨text, -, own⟩ := Option.bind_eq_some_iff.mp reads
      exact (MailDate.read?_bounds own).1

/-- A freshness counted from the date of a head, all of whose sums are exact but for an expiration that
would lie beyond the last moment. -/
structure Dated (head : Head) (now : Millis) (freshness : Freshness) : Prop where
  date : freshness.date = head.dateOr now
  nonneg : 0 ≤ freshness.lifetime.value
  ordered : freshness.date ≤ freshness.expiration
  expiration : freshness.expiration.value =
    min (freshness.date.value + freshness.lifetime.value) Millis.greatest.value

theorem dated_of_nonneg (later : 0 ≤ now.value) (date : freshness.date = head.dateOr now)
    (nonneg : 0 ≤ freshness.lifetime.value) : Dated head now freshness := by
  have low := head.dateOr_lower later
  have high := freshness.date.upper
  rw [← date] at low
  have sum : freshness.expiration.value =
      min (freshness.date.value + freshness.lifetime.value) Millis.greatest.value := by
    rw [Freshness.expiration, Millis.add_value]
    simp only [Millis.greatest, Millis.clamp]
    omega
  refine ⟨date, nonneg, ?_, sum⟩
  change freshness.date.value ≤ freshness.expiration.value
  rw [sum]
  simp only [Millis.greatest, Millis.clamp]
  omega

theorem lifetime_nonneg (implicit : 0 ≤ implicitLifetime.value)
    (fresh : head.freshness? now implicitLifetime = some freshness) :
    freshness.date = head.dateOr now ∧ 0 ≤ freshness.lifetime.value := by
  cases decides : head.deciding? with
  | some directive =>
      rw [freshness?_of_deciding decides] at fresh
      cases fresh
      exact ⟨rfl, Millis.ofSeconds_nonneg _⟩
  | none =>
      cases expires : head.soleValue? "expires" with
      | some text =>
          rw [freshness?_of_expires decides expires] at fresh
          cases fresh
          refine ⟨rfl, ?_⟩
          simp only [Millis.atLeastZero, Millis.clamp]
          omega
      | none =>
          have silent : (head.maxAge? "s-maxage").or (head.maxAge? "max-age") = none := by
            rw [maxAge?_or_maxAge?, decides, Option.map_none]
          simp only [freshness?, declaredLifetime?, silent, expires, Option.map_none] at fresh
          split at fresh
          · cases fresh
            exact ⟨rfl, implicit⟩
          · cases fresh

/-- An expiry date is met to the millisecond, unless the response was over from the start. -/
theorem expiration_of_expires (later : 0 ≤ now.value) {expires : Millis}
    (low : -100000000000000 ≤ expires.value) (high : expires.value ≤ 10000000000000000) :
    let freshness : Freshness :=
      ⟨head.dateOr now, (expires - head.dateOr now).atLeastZero, true⟩
    freshness.expiration.value = max (head.dateOr now).value expires.value := by
  intro freshness
  have dateLow := head.dateOr_lower later
  have dateHigh := (head.dateOr now).upper
  have difference : (expires - head.dateOr now).value = max (-0x8000000000000000)
      (min (expires.value - (head.dateOr now).value) 0x7FFFFFFFFFFFFFFF) := rfl
  have lifetime : freshness.lifetime.value = max (expires.value - (head.dateOr now).value) 0 := by
    simp only [freshness, Millis.atLeastZero, Millis.clamp, difference]
    omega
  have whole : freshness.date.value = (head.dateOr now).value := rfl
  rw [Freshness.expiration, Millis.add_value, lifetime, whole]
  omega

/-! ### All rules together -/

/-- Heads in which the same field settles the lifetime, whatever else they hold. -/
inductive DecidedAlike (left right : Head) : Prop where
  | shared (directive : Directive) (first : left.directive? "s-maxage" = some directive)
      (second : right.directive? "s-maxage" = some directive)
  | own (directive : Directive) (silent : left.directive? "s-maxage" = none)
      (quiet : right.directive? "s-maxage" = none)
      (first : left.directive? "max-age" = some directive)
      (second : right.directive? "max-age" = some directive)
  | expiry (text : String) (silent : left.deciding? = none) (quiet : right.deciding? = none)
      (first : left.soleValue? "expires" = some text)
      (second : right.soleValue? "expires" = some text)

theorem DecidedAlike.freshness?_eq (alike : DecidedAlike left right)
    (date : left.soleValue? "date" = right.soleValue? "date") (now lifetime other : Millis) :
    left.freshness? now lifetime = right.freshness? now other := by
  have settled (directive : Directive) (first : left.deciding? = some directive)
      (second : right.deciding? = some directive) :
      left.freshness? now lifetime = right.freshness? now other := by
    rw [freshness?_of_deciding first, freshness?_of_deciding second, dateOr_congr date]
  cases alike with
  | shared directive first second =>
      exact settled directive (by rw [deciding?, first, Option.some_or])
        (by rw [deciding?, second, Option.some_or])
  | own directive silent quiet first second =>
      exact settled directive (by rw [deciding?, silent, first, Option.none_or])
        (by rw [deciding?, quiet, second, Option.none_or])
  | expiry text silent quiet first second =>
      rw [freshness?_of_expires silent first, freshness?_of_expires quiet second, dateOr_congr date]

/-- A larger number of seconds in the deciding directive moves the expiration to no earlier moment. -/
theorem expiration_mono {less more : Directive} {small large : Int}
    (date : left.soleValue? "date" = right.soleValue? "date") (first : left.deciding? = some less)
    (second : right.deciding? = some more) (few : less.number? = some small)
    (many : more.number? = some large) (low : -0x8000000000000000 ≤ small) (le : small ≤ large)
    (high : large < 0x8000000000000000) (now lifetime : Millis) :
    ∃ before after, left.freshness? now lifetime = some before ∧
      right.freshness? now lifetime = some after ∧ before.expiration ≤ after.expiration := by
  refine ⟨_, _, freshness?_of_deciding first _ _, freshness?_of_deciding second _ _, ?_⟩
  rw [Directive.seconds_eq few low (by omega), Directive.seconds_eq many (by omega) high,
    Freshness.expiration, Freshness.expiration, dateOr_congr date]
  exact Millis.add_ofSeconds_le _ (Int.toNat_le_toNat le)

/-- The rules of freshness. The deciding directive comes before `expires`, sums stop at the last moment of
all, more seconds end no sooner, and neither the implicit lifetime nor an older record has a say where a
field decides. -/
theorem freshness_rules (now implicitLifetime : Millis) (later : 0 ≤ now.value)
    (implicit : 0 ≤ implicitLifetime.value) :
    (∀ (head : Head) (freshness : Freshness), head.freshness? now implicitLifetime = some freshness →
      Dated head now freshness) ∧
    (∀ (head : Head) (directive : Directive), head.deciding? = some directive →
      ∃ freshness : Freshness, head.freshness? now implicitLifetime = some freshness ∧
        freshness.explicit = true ∧
        freshness.lifetime.value = min (1000 * (directive.seconds : Int)) Millis.greatest.value) ∧
    (∀ (head : Head) (text : String) (expires : Millis), head.deciding? = none →
      head.soleValue? "expires" = some text → MailDate.read? text = some expires →
      ∃ freshness : Freshness, head.freshness? now implicitLifetime = some freshness ∧
        freshness.explicit = true ∧
        freshness.expiration.value = max (head.dateOr now).value expires.value) ∧
    (∀ (left right : Head) (less more : Directive) (small large : Int),
      left.soleValue? "date" = right.soleValue? "date" → left.deciding? = some less →
      right.deciding? = some more → less.number? = some small → more.number? = some large →
      -0x8000000000000000 ≤ small → small ≤ large → large < 0x8000000000000000 →
      ∃ before after : Freshness, left.freshness? now implicitLifetime = some before ∧
        right.freshness? now implicitLifetime = some after ∧
        before.expiration ≤ after.expiration) ∧
    (∀ (left right : Head) (other : Millis), DecidedAlike left right →
      left.soleValue? "date" = right.soleValue? "date" →
      left.freshness? now implicitLifetime = right.freshness? now other) ∧
    (∀ (head : Head) (record : Option Freshness),
      { head with freshness := record }.withFreshness now implicitLifetime =
        head.withFreshness now implicitLifetime) := by
  refine ⟨fun head freshness fresh => ?_, fun head directive decides => ?_,
    fun head text expires undecided sole reads => ?_,
    fun left right less more small large date first second few many low le high =>
      expiration_mono date first second few many low le high now implicitLifetime,
    fun left right other alike date => alike.freshness?_eq date now implicitLifetime other,
    fun head record => rfl⟩
  · obtain ⟨date, nonneg⟩ := lifetime_nonneg implicit fresh
    exact dated_of_nonneg later date nonneg
  · exact ⟨_, freshness?_of_deciding decides _ _, rfl, Millis.ofSeconds_value _⟩
  · obtain ⟨low, high⟩ := MailDate.read?_bounds reads
    refine ⟨_, freshness?_of_expires undecided sole _ _, rfl, ?_⟩
    rw [reads, Option.getD_some]
    exact expiration_of_expires later low high

private def lasting : Head :=
  .ofFields 404 [⟨"Expires", "Thu, 01 Jan 1970 00:00:00 GMT"⟩,
    ⟨"Cache-Control", "max-age=1, S-MaxAge=9223372036854775807"⟩]

theorem expiration_of_lasting : ∃ freshness, lasting.freshness? (.ofSeconds 1700000000) 0 = some freshness ∧
    Dated lasting (.ofSeconds 1700000000) freshness ∧ freshness.explicit = true ∧
    freshness.expiration = Millis.greatest := by
  obtain ⟨dated, seconds, -⟩ :=
    freshness_rules (.ofSeconds 1700000000) 0 (by decide) (by decide)
  obtain ⟨freshness, fresh, explicit, lifetime⟩ :=
    seconds lasting ⟨"s-maxage".toList, some "9223372036854775807".toList⟩ (by decide +kernel)
  have own := dated lasting freshness fresh
  refine ⟨freshness, fresh, own, explicit, Millis.ext ?_⟩
  have date : (lasting.dateOr (.ofSeconds 1700000000)).value = 1700000000000 := by decide +kernel
  rw [own.expiration, own.date, date, lifetime]
  decide +kernel

end Head

end TieredCache
