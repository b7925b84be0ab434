import DatasetQuery.Proofs.Shift
import Mathlib.Logic.Function.Iterate
/-!
Days one after the other, through all years. Each month is as long as it is and the next begins on
the day after, so that no day number is needed to say which day comes some days later. A date that
is shifted becomes the day to which the calendar leads. If that day lies in none of the years that
dates have, the date stops at the end of the calendar on its side.
-/
namespace DatasetQuery

open Calendar

/-- A day of the calendar, in whatever year. -/
@[ext]
structure Day where
  year : Int
  month : Nat
  day : Nat
  valid : OnCalendar year month day

namespace Day

/-- The day after: in the same month, on the first of the next, or on the first of January. -/
def next (d : Day) : Day :=
  if within : d.day < daysInMonth d.year d.month then
    ⟨d.year, d.month, d.day + 1,
      ⟨d.valid.month_pos, d.valid.month_le, Nat.le_add_left 1 d.day, within⟩⟩
  else if before : d.month < 12 then
    ⟨d.year, d.month + 1, 1,
      ⟨Nat.le_add_left 1 d.month, before, Nat.le_refl 1, daysInMonth_pos _ _⟩⟩
  else ⟨d.year + 1, 1, 1, ⟨Nat.le_refl 1, by decide, Nat.le_refl 1, daysInMonth_pos _ _⟩⟩

/-- Whether `e` comes `n` days after `d`, or that many days before it if `n` is negative. -/
def IsLater (d : Day) (n : Int) (e : Day) : Prop := next^[n.toNat] d = next^[(-n).toNat] e

/-- The day of a month that is the same day as in another, or the last day if that is earlier. -/
def inMonth (d : Day) (year : Int) (month : Nat) (month_pos : 1 ≤ month) (month_le : month ≤ 12) :
    Day :=
  ⟨year, month, min d.day (daysInMonth year month),
    ⟨month_pos, month_le, Nat.le_min.2 ⟨d.valid.day_pos, daysInMonth_pos _ _⟩,
      Nat.min_le_right _ _⟩⟩

/-- The same day of the month some months later, or the last day of that month. -/
def monthsLater (d : Day) (n : Int) : Day :=
  d.inMonth ((12 * d.year + d.month - 1 + n) / 12)
    (((12 * d.year + d.month - 1 + n) % 12).toNat + 1) (by omega) (by omega)

/-- Where a count of units leads from a day. Years are twelve months and weeks are seven days. -/
inductive Leads (d : Day) (count : Int) : CalendarUnit → Day → Prop where
  | years : Leads d count .years (d.monthsLater (12 * count))
  | months : Leads d count .months (d.monthsLater count)
  | weeks {e : Day} (later : d.IsLater (7 * count) e) : Leads d count .weeks e
  | days {e : Day} (later : d.IsLater count e) : Leads d count .days e

/-- Days counted from the first of January 1970. -/
def number (d : Day) : Int := dayNumber d.year d.month d.day

/-- Months counted from January of year zero. -/
def monthNumber (d : Day) : Int := d.year * 12 + d.month - 1

theorem number_eq (d : Day) : d.number = firstDay d.monthNumber + d.day - 1 :=
  dayNumber_eq d.valid

theorem number_injective {d e : Day} (same : d.number = e.number) : d = e := by
  obtain ⟨year, month, day⟩ := dayNumber_injective d.valid e.valid same
  exact Day.ext year month day

theorem number_lt_of_year_lt {d e : Day} (earlier : d.year < e.year) : d.number < e.number := by
  have month_le := d.valid.month_le
  have month_pos := e.valid.month_pos
  exact dayNumber_lt_of_month_lt d.valid e.valid (by omega)

theorem monthNumber_lt_of_year_lt {d e : Day} (earlier : d.year < e.year) :
    d.monthNumber < e.monthNumber := by
  have month_le := d.valid.month_le
  have month_pos := e.valid.month_pos
  unfold monthNumber
  omega

theorem number_next (d : Day) : d.next.number = d.number + 1 := by
  have day_le := d.valid.day_le
  have length := monthLength_of_month d.valid.month_pos d.valid.month_le d.year
  have turn := firstDay_succ d.monthNumber
  unfold monthNumber at turn
  rw [length] at turn
  rw [number_eq, number_eq]
  unfold next monthNumber
  -- after the last day of a month the number goes on, for the next month begins where this one ends
  split
  · dsimp only
    omega
  · split
    · have following : d.year * 12 + ((d.month + 1 : Nat) : Int) - 1 =
          d.year * 12 + d.month - 1 + 1 := by omega
      dsimp only
      rw [following]
      omega
    · have december := d.valid.month_le
      have following : (d.year + 1) * 12 + ((1 : Nat) : Int) - 1 =
          d.year * 12 + d.month - 1 + 1 := by omega
      dsimp only
      rw [following]
      omega

theorem number_iterate (d : Day) (n : Nat) : (next^[n] d).number = d.number + n := by
  induction n with
  | zero => exact (Int.add_zero _).symm
  | succ n ih =>
    rw [Function.iterate_succ_apply', number_next, ih]
    omega

theorem isLater_iff {d e : Day} {n : Int} : d.IsLater n e ↔ e.number = d.number + n := by
  have onward := d.number_iterate n.toNat
  have back := e.number_iterate (-n).toNat
  constructor
  · intro meet
    rw [IsLater] at meet
    rw [meet] at onward
    omega
  · intro number
    exact number_injective (by omega)

theorem exists_later (d : Day) (n : Int) :
    ∃ e, d.IsLater n e ∧ ∀ e', d.IsLater n e' → e' = e := by
  have number := dayNumber_civil (d.number + n)
  refine ⟨⟨_, _, _, civil_onCalendar (d.number + n)⟩, isLater_iff.2 number, ?_⟩
  intro e' later
  exact number_injective ((isLater_iff.1 later).trans number.symm)

theorem IsLater.side {d e : Day} {n : Int} (later : d.IsLater n e) :
    (e.year < d.year → n < 0) ∧ (d.year < e.year → 0 < n) := by
  have number := isLater_iff.1 later
  constructor
  · intro back
    have less := number_lt_of_year_lt back
    omega
  · intro onward
    have less := number_lt_of_year_lt onward
    omega

theorem monthNumber_monthsLater (d : Day) (n : Int) :
    (d.monthsLater n).monthNumber = d.monthNumber + n := by
  unfold monthsLater inMonth monthNumber
  dsimp only
  omega

theorem monthsLater_side (d : Day) (n : Int) :
    ((d.monthsLater n).year < d.year → n < 0) ∧ (d.year < (d.monthsLater n).year → 0 < n) := by
  have number := d.monthNumber_monthsLater n
  constructor
  · intro back
    have less := monthNumber_lt_of_year_lt back
    omega
  · intro onward
    have less := monthNumber_lt_of_year_lt onward
    omega

/-- There is one day to which a step leads. -/
theorem exists_leads (d : Day) (count : Int) (unit : CalendarUnit) :
    ∃ e, d.Leads count unit e ∧ ∀ e', d.Leads count unit e' → e' = e := by
  cases unit with
  | years => exact ⟨_, .years, by rintro _ ⟨⟩; rfl⟩
  | months => exact ⟨_, .months, by rintro _ ⟨⟩; rfl⟩
  | weeks =>
    obtain ⟨e, later, only⟩ := d.exists_later (7 * count)
    refine ⟨e, .weeks later, ?_⟩
    intro e' leads
    cases leads with
    | weeks later' => exact only e' later'
  | days =>
    obtain ⟨e, later, only⟩ := d.exists_later count
    refine ⟨e, .days later, ?_⟩
    intro e' leads
    cases leads with
    | days later' => exact only e' later'

/-- Steps lead to the side that their count points to. -/
theorem Leads.side {d e : Day} {count : Int} {unit : CalendarUnit} (leads : d.Leads count unit e) :
    (e.year < d.year → count < 0) ∧ (d.year < e.year → 0 < count) := by
  cases leads with
  | years =>
    have side := d.monthsLater_side (12 * count)
    omega
  | months => exact d.monthsLater_side count
  | weeks later =>
    have side := later.side
    omega
  | days later => exact later.side

/-- Where a date stops on its way to a day: there, if dates have that year, and otherwise at the end
of the calendar on that side, which is the one that the count points to. -/
structure StopsAt (e : Day) (count : Int) (r : Date) : Prop where
  within : firstYear ≤ e.year → e.year ≤ lastYear →
    r.year = e.year ∧ r.month = e.month ∧ r.day = e.day
  before : e.year < firstYear → count < 0 ∧ r = .earliest
  after : lastYear < e.year → 0 < count ∧ r = .latest

end Day

namespace Date

def toDay (d : Date) : Day := ⟨d.year, d.month, d.day, d.onCalendar⟩

theorem exists_toDay_iff {e : Day} :
    (∃ r : Date, r.toDay = e) ↔ firstYear ≤ e.year ∧ e.year ≤ lastYear := by
  constructor
  · rintro ⟨r, rfl⟩
    exact ⟨r.year_ge, r.year_le⟩
  · rintro ⟨year_ge, year_le⟩
    obtain ⟨month_pos, month_le, day_pos, day_le⟩ := e.valid
    exact ⟨⟨e.year, e.month, e.day, year_ge, year_le, month_pos, month_le, day_pos, day_le⟩, rfl⟩

theorem inMonth?_eq_some_iff {d r : Date} {n : Int} :
    d.inMonth? (d.monthNumber + n) = some r ↔ r.toDay = d.toDay.monthsLater n := by
  have month : d.monthNumber + n = 12 * d.year + d.month - 1 + n := by
    unfold monthNumber
    omega
  unfold inMonth?
  rw [of?_eq_some_iff, month, Day.ext_iff]
  simp only [toDay, Day.monthsLater, Day.inMonth]

theorem number_toDay (d : Date) : d.toDay.number = d.dayNumber := rfl

theorem toDay_eq_iff {d r : Date} {e : Day} {n : Int} (later : d.toDay.IsLater n e) :
    r.toDay = e ↔ r.dayNumber = d.dayNumber + n := by
  have number := Day.isLater_iff.1 later
  rw [number_toDay] at number
  rw [← number, ← number_toDay]
  exact ⟨congrArg Day.number, Day.number_injective⟩

/-- The target of a step is the date of the day to which it leads. -/
theorem target?_eq_some_iff {d r : Date} {count : Int} {unit : CalendarUnit} {e : Day}
    (leads : d.toDay.Leads count unit e) : d.target? unit count = some r ↔ r.toDay = e := by
  unfold target? CalendarUnit.size
  cases leads with
  | years =>
    dsimp only
    rw [Int.mul_comm, inMonth?_eq_some_iff]
  | months =>
    dsimp only
    rw [Int.mul_one, inMonth?_eq_some_iff]
  | weeks later =>
    dsimp only
    rw [Int.mul_comm, ofDayNumber?_eq_some_iff, toDay_eq_iff later]
  | days later =>
    dsimp only
    rw [Int.mul_one, ofDayNumber?_eq_some_iff, toDay_eq_iff later]

theorem shift_stopsAt {d : Date} {count : Int64} {unit : CalendarUnit} {e : Day}
    (leads : d.toDay.Leads count.toInt unit e) : e.StopsAt count.toInt (d.shift count unit) := by
  have side := leads.side
  have year_ge := d.year_ge
  have year_le := d.year_le
  have outside (off : ¬(firstYear ≤ e.year ∧ e.year ≤ lastYear)) :
      d.shift count unit = bound count := by
    -- a target would be the date of that day, whose year no date has
    have none : d.target? unit count.toInt = none := by
      rw [Option.eq_none_iff_forall_ne_some]
      intro r found
      exact off (exists_toDay_iff.1 ⟨r, (target?_eq_some_iff leads).1 found⟩)
    rw [shift_eq, none, Option.getD_none]
  constructor
  · intro first last
    obtain ⟨r, same⟩ := exists_toDay_iff.2 ⟨first, last⟩
    rw [shift_eq, (target?_eq_some_iff leads).2 same, Option.getD_some, ← same]
    exact ⟨rfl, rfl, rfl⟩
  · intro before
    have back : count.toInt < 0 := side.1 (Int.lt_of_lt_of_le before year_ge)
    exact ⟨back, (outside (by omega)).trans (if_pos back)⟩
  · intro after
    have onward : 0 < count.toInt := side.2 (Int.lt_of_le_of_lt year_le after)
    exact ⟨onward, (outside (by omega)).trans (if_neg (by omega))⟩

/-- Whatever the count, a date that is shifted becomes the one day to which the calendar leads, and
stops at the end of the calendar on the way to a day beyond. -/
theorem shift_follows_calendar (d : Date) (count : Int64) (unit : CalendarUnit) :
    ∃ e, d.toDay.Leads count.toInt unit e ∧ (∀ e', d.toDay.Leads count.toInt unit e' → e' = e) ∧
      e.StopsAt count.toInt (d.shift count unit) := by
  obtain ⟨e, leads, only⟩ := d.toDay.exists_leads count.toInt unit
  exact ⟨e, leads, only, shift_stopsAt leads⟩

end Date

end DatasetQuery
