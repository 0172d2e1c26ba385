import TieredCache.Time.MailDate

/-!
The moments that dates in headers name. Main statement: a date that can be read lies so close to the
epoch that the difference of two of them is never cut off.
-/

namespace TieredCache

namespace Calendar

/-- No date of a year after the birth of Christ has a smaller number. -/
theorem dayNumber_lower {date : Date} (year : 0 ≤ date.year) (valid : date.isValid = true) :
    -900000 ≤ dayNumber date := by
  simp only [Date.isValid, Bool.and_eq_true, decide_eq_true_eq] at valid
  obtain ⟨⟨⟨-, -⟩, first⟩, -⟩ := valid
  rw [dayNumber]
  rw [Int.fdiv_eq_ediv_of_nonneg _ (by decide)]
  split <;> omega

end Calendar

namespace MailDate
open Text

variable {α β : Type} {reader : Reader α} {next : α → Reader β} {middle : α → Prop}
  {holds : β → Prop}

/-! ### What readers give back -/

def Yields (reader : Reader β) (holds : β → Prop) : Prop :=
  ∀ text value rest, reader.run text = some (value, rest) → holds value

theorem yields_true (reader : Reader α) : Yields reader fun _ => True := fun _ _ _ _ => trivial

theorem yields_pure {value : β} (known : holds value) : Yields (pure value) holds := by
  intro text value rest runs
  cases runs
  exact known

theorem yields_failure : Yields (failure : Reader β) holds := by
  intro text value rest runs
  cases runs

theorem yields_liftM {option : Option β} (known : ∀ value, option = some value → holds value) :
    Yields (liftM option) holds := by
  intro text value rest runs
  cases option with
  | none => cases runs
  | some found =>
      cases runs
      exact known _ rfl

theorem Yields.bind (first : Yields reader middle)
    (onward : ∀ value, middle value → Yields (next value) holds) : Yields (reader >>= next) holds := by
  intro text value rest runs
  rw [StateT.run_bind] at runs
  obtain ⟨⟨between, left⟩, own, later⟩ := Option.bind_eq_some_iff.mp runs
  exact onward between (first _ _ _ own) _ _ _ later

theorem Yields.then (onward : ∀ value, Yields (next value) holds) : Yields (reader >>= next) holds :=
  (yields_true reader).bind fun value _ => onward value

theorem Yields.pure_bind {value : α} (onward : Yields (next value) holds) :
    Yields (pure value >>= next) holds := by
  have own : Yields (pure value : Reader α) (· = value) := yields_pure rfl
  exact own.bind fun _ same => same ▸ onward

theorem yields_failure_bind : Yields (failure >>= next) holds := by
  have never : Yields (failure : Reader α) fun _ => False := yields_failure
  exact never.bind fun _ impossible => impossible.elim

/-! ### Zones -/

theorem zoneHours?_bounds {name : String} {hours : Int} (known : zoneHours? name = some hours) :
    -8 ≤ hours ∧ hours ≤ 0 := by
  unfold zoneHours? at known
  split at known
  case h_12 =>
    split at known <;> cases known
    decide
  all_goals cases known
  all_goals decide

/-- The hours and minutes of a zone make up less than a day. -/
theorem yields_offset {sign : Int} (unit : sign = 1 ∨ sign = -1) : Yields (do
      let (hours, _) ← digits 2 2
      let (minutes, _) ← digits 2 2
      if hours ≥ 24 ∨ minutes ≥ 60 then failure
      return sign * ((hours * 60 + minutes) * 60 : Nat))
    fun offset => -86400 < offset ∧ offset < 86400 := by
  refine .then fun hours => .then fun minutes => ?_
  dsimp only
  split
  · exact yields_failure_bind
  · refine yields_pure ?_
    rcases unit with rfl | rfl <;> omega

theorem yields_zone : Yields zone fun offset => -86400 < offset ∧ offset < 86400 := by
  unfold zone
  refine .then fun text => ?_
  dsimp only
  split
  · refine .then fun ahead => ?_
    split
    · exact .then fun _ => .pure_bind (yields_offset (.inl rfl))
    · exact .then fun _ => .pure_bind (yields_offset (.inr rfl))
    · exact yields_failure_bind
  · refine .then fun _ => .then fun _ => ?_
    refine (yields_liftM fun _ => zoneHours?_bounds).bind fun hours bounds => yields_pure ?_
    omega

/-! ### Dates -/

theorem yields_parts : Yields parts fun parts =>
    0 ≤ parts.date.year ∧ -86400 < parts.offset ∧ parts.offset < 86400 := by
  have ends (weekday : Option Nat) (day month year hour minute second : Nat) :
      Yields (do
        blanks
        let offset ← zone
        return ({ weekday, date := ⟨year, month, day⟩, hour, minute, second, offset } : Parts))
      fun parts : Parts => 0 ≤ parts.date.year ∧ -86400 < parts.offset ∧ parts.offset < 86400 :=
    .then fun _ => yields_zone.bind fun offset bounds => yields_pure ⟨Int.natCast_nonneg year, bounds⟩
  unfold parts
  refine .then fun weekday => .then fun _ => .then fun day => .then fun _ => .then fun month =>
    .then fun _ => .then fun year => .then fun _ => .then fun hour => .then fun _ => .then fun _ =>
    .then fun _ => .then fun minute => .then fun ahead => ?_
  split
  · exact .then fun _ => .then fun second => .pure_bind (ends _ _ _ _ _ _ _)
  · exact .pure_bind (ends _ _ _ _ _ _ _)

theorem of_guard {condition : Prop} [Decidable condition] {passed : Unit}
    (passes : (guard condition : Option Unit) = some passed) : condition := by
  have same : (if condition then some () else none) = some passed := passes
  exact (Option.ite_none_right_eq_some.mp same).1

theorem moment?_bounds {parts : Parts} {moment : Millis} (year : 0 ≤ parts.date.year)
    (offset : -86400 < parts.offset ∧ parts.offset < 86400) (named : parts.moment? = some moment) :
    -100000000000000 ≤ moment.value ∧ moment.value ≤ 10000000000000000 := by
  obtain ⟨_, date, named⟩ := Option.bind_eq_some_iff.mp named
  obtain ⟨_, time, named⟩ := Option.bind_eq_some_iff.mp named
  obtain ⟨_, _, named⟩ := Option.bind_eq_some_iff.mp named
  obtain ⟨_, last, named⟩ := Option.bind_eq_some_iff.mp named
  have low := Calendar.dayNumber_lower year (of_guard date).1
  have before := of_guard last
  have second := (of_guard time).2.2
  rw [show Calendar.dayNumber ⟨lastYear, 12, 31⟩ = 95026236 by decide] at before
  rw [Millis.ofInt?] at named
  split at named
  · cases named
    dsimp only
    omega
  · cases named

theorem read?_bounds {text : String} {moment : Millis} (reads : read? text = some moment) :
    -100000000000000 ≤ moment.value ∧ moment.value ≤ 10000000000000000 := by
  obtain ⟨⟨parts, rest⟩, runs, named⟩ := Option.bind_eq_some_iff.mp reads
  obtain ⟨year, offset⟩ := yields_parts _ _ _ runs
  obtain ⟨-, -, named⟩ := Option.bind_eq_some_iff.mp named
  exact moment?_bounds year offset named

end MailDate

end TieredCache
