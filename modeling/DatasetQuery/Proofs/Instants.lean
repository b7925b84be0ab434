import DatasetQuery.Proofs.Clock
/-!
Instants that are shifted. Along the calendar an instant goes to the date to which its date alone
would go, and keeps its time of day, a leap second included, unless it stops at an end of the
calendar. Along the clock it moves by nanoseconds, as far as the ends of the calendar.
-/
namespace DatasetQuery

theorem saturated_pos {n : Int} (onward : 0 < saturated n) : 0 < n := by
  rcases saturated_cases n with exact | ⟨above, _⟩ | ⟨_, least⟩
  · rwa [exact] at onward
  · exact Int.lt_trans (by decide) above
  · rw [least] at onward
    exact absurd onward (by decide)

/-- Saturation does not turn a step around. -/
theorem CalendarUnit.pos_of_step_pos {unit : CalendarUnit} {count : Int64}
    (onward : 0 < (unit.step count).size) : 0 < count.toInt := by
  cases unit with
  | years =>
    have product : 0 < count.toInt * 12 := saturated_pos onward
    omega
  | months => exact onward
  | weeks =>
    have product : 0 < count.toInt * 7 := saturated_pos onward
    omega
  | days => exact onward

namespace Instant

theorem bound_date (count : Int64) : (bound count).date = Date.bound count := by
  unfold bound Date.bound
  split <;> rfl

theorem bound_eq (count : Int64) : bound count = earliest ∨ bound count = latest := by
  unfold bound
  split
  · exact .inl rfl
  · exact .inr rfl

/-- Along the calendar, an instant goes with its date, or stops where its date does. -/
theorem shift_along_calendar (i : Instant) (count : Int64) (unit : CalendarUnit) :
    i.shift count (.calendar unit) = ⟨i.date.shift count unit, i.time⟩ ∨
      (i.shift count (.calendar unit) = bound count ∧ i.date.shift count unit = .bound count) := by
  have shifted : i.shift count (.calendar unit) =
      (i.take? (unit.step count)).getD (bound count) := rfl
  rw [shifted, Date.shift]
  rcases i.take?_eq_or_refused (unit.step count) with taken | ⟨refused, last, onward, _⟩
  · rw [taken]
    cases i.date.take? (unit.step count) with
    | none => exact .inr ⟨rfl, rfl⟩
    | some d => exact .inl rfl
  · have forward : ¬count.toInt < 0 := by
      have positive := CalendarUnit.pos_of_step_pos onward
      omega
    rw [refused, last]
    exact .inr ⟨rfl, (if_neg forward).symm⟩

/-- The date goes where it would go without the time of day. -/
theorem date_shift (i : Instant) (count : Int64) (unit : CalendarUnit) :
    (i.shift count (.calendar unit)).date = i.date.shift count unit := by
  rcases i.shift_along_calendar count unit with goes | ⟨stops, there⟩
  · rw [goes]
  · rw [stops, there, bound_date]

/-- The time of day goes along. -/
theorem time_shift (i : Instant) (count : Int64) (unit : CalendarUnit) :
    (i.shift count (.calendar unit)).time = i.time ∨
      i.shift count (.calendar unit) = earliest ∨ i.shift count (.calendar unit) = latest := by
  rcases i.shift_along_calendar count unit with goes | ⟨stops, _⟩
  · rw [goes]
    exact .inl rfl
  · rw [stops]
    exact .inr (bound_eq count)

/-- Outside of leap seconds an instant moves by nanoseconds, between the ends of the calendar. -/
theorem unixNanosecond_shift {i : Instant} (ordinary : i.time.isLeap = false) (count : Int64)
    (unit : ClockUnit) :
    (i.shift count (.clock unit)).time.isLeap = false ∧
      (i.shift count (.clock unit)).unixNanosecond =
        max earliest.unixNanosecond
          (min (i.unixNanosecond + count.toInt * unit.inNanoseconds) latest.unixNanosecond) := by
  have inside := unixNanosecond_bounds ordinary
  rw [shift_eq ordinary, target?, unit.inNanoseconds_eq, bound]
  rcases scale_of_nanoseconds.step_cases inside unit.forward count.toInt with
    ⟨j, found, low, high, same⟩ | ⟨out, _, same⟩ | ⟨out, _, same⟩
  · obtain ⟨number, time⟩ := unixNanosecond_of_ofUnixNanosecond? found
    rw [same]
    exact ⟨time, by omega⟩
  · rw [same]
    exact ⟨rfl, by omega⟩
  · rw [same]
    exact ⟨rfl, by omega⟩

/-- Shifting agrees with the shifting of dates along the calendar, and with counting nanoseconds
along the clock. -/
theorem shift_agrees_with_dates_and_clock (i : Instant) (count : Int64) :
    (∀ unit : CalendarUnit, (i.shift count (.calendar unit)).date = i.date.shift count unit ∧
      ((i.shift count (.calendar unit)).time = i.time ∨
        i.shift count (.calendar unit) = earliest ∨ i.shift count (.calendar unit) = latest)) ∧
    (i.time.isLeap = false → ∀ unit : ClockUnit,
      (i.shift count (.clock unit)).time.isLeap = false ∧
        (i.shift count (.clock unit)).unixNanosecond =
          max earliest.unixNanosecond
            (min (i.unixNanosecond + count.toInt * unit.inNanoseconds) latest.unixNanosecond)) :=
  ⟨fun unit => ⟨i.date_shift count unit, i.time_shift count unit⟩,
    fun ordinary unit => unixNanosecond_shift ordinary count unit⟩

theorem shift_agrees_with_dates_and_clock_at_the_end :
    let i : Instant := ⟨.latest, .midnight⟩
    i.time.isLeap = false ∧ (i.shift 86400000 (.clock .milliseconds)).unixNanosecond =
      latest.unixNanosecond := by
  intro i
  refine ⟨rfl, ?_⟩
  rw [((shift_agrees_with_dates_and_clock i 86400000).2 rfl .milliseconds).2]
  decide

end Instant

end DatasetQuery
