import DatasetQuery.Calendar.Date
import Mathlib.Data.Int.Init
import Mathlib.Order.Basic
import Mathlib.Tactic.SplitIfs
/-!
Day numbers and months. Months follow each other without gaps, so that day numbers order dates as
the calendar does. The date of a day number is the only one with that number, and there is one for
every number from the first day of the calendar to the last.
-/
namespace DatasetQuery

namespace Calendar

/-- A day that there is, in any year. -/
structure OnCalendar (year : Int) (month day : Nat) : Prop where
  month_pos : 1 ≤ month
  month_le : month ≤ 12
  day_pos : 1 ≤ day
  day_le : day ≤ daysInMonth year month

/-- Days before the first of March of a year, counted from the first of March of year zero. -/
def daysBefore (year : Int) : Int := 365 * year + year / 4 - year / 100 + year / 400

/-- Days of a year that begins in March before its month of that place; March has place zero. -/
def daysBeforeMonth (place : Nat) : Nat := (153 * place + 2) / 5

theorem daysBefore_succ (year : Int) :
    daysBefore (year + 1) = daysBefore year + 365 + if isLeap (year + 1) then 1 else 0 := by
  unfold daysBefore isLeap
  simp only [decide_eq_true_eq]
  split <;> omega

theorem daysBefore_add_eras (year eras : Int) :
    daysBefore (year + eras * 400) = daysBefore year + eras * 146097 := by
  unfold daysBefore
  omega

/-- The number of the day on which a month begins. Months are numbered through all years, from
January of year zero on. -/
def firstDay (month : Int) : Int :=
  daysBefore ((month - 2) / 12) + daysBeforeMonth ((month - 2) % 12).toNat - 719468

def monthLength (month : Int) : Nat := daysInMonth (month / 12) ((month % 12).toNat + 1)

theorem dayNumber_eq {year : Int} {month day : Nat} (valid : OnCalendar year month day) :
    dayNumber year month day = firstDay (year * 12 + month - 1) + day - 1 := by
  obtain ⟨month_pos, month_le, day_pos, _⟩ := valid
  have place : ((year * 12 + month - 1 - 2) % 12).toNat = (month + 9) % 12 := by omega
  have start : (year * 12 + month - 1 - 2) / 12 = if month ≤ 2 then year - 1 else year := by
    split <;> omega
  unfold dayNumber firstDay daysBeforeMonth
  rw [place, start]
  unfold daysBefore
  generalize (if month ≤ 2 then year - 1 else year) = y
  dsimp only
  omega

theorem monthLength_of_month {month : Nat} (month_pos : 1 ≤ month) (month_le : month ≤ 12)
    (year : Int) : monthLength (year * 12 + month - 1) = daysInMonth year month := by
  have same : (year * 12 + month - 1) / 12 = year := by omega
  have place : ((year * 12 + month - 1) % 12).toNat + 1 = month := by omega
  rw [monthLength, same, place]

/-- The length of a month by its place in a year that begins in March. Only the last month, which
ends where the next year begins, has another length in leap years. -/
theorem monthLength_eq (month : Int) :
    (monthLength month : Int) =
      if (month - 2) % 12 = 11 then
        daysBefore ((month - 2) / 12 + 1) - daysBefore ((month - 2) / 12) - daysBeforeMonth 11
      else
        daysBeforeMonth (((month - 2) % 12).toNat + 1)
          - daysBeforeMonth ((month - 2) % 12).toNat := by
  unfold monthLength daysInMonth daysBeforeMonth
  split_ifs with february leap last last thirty last last
  · have year : month / 12 = (month - 2) / 12 + 1 := by omega
    rw [daysBefore_succ, ← year, if_pos leap]
    omega
  · omega
  · have year : month / 12 = (month - 2) / 12 + 1 := by omega
    rw [daysBefore_succ, ← year, if_neg leap]
    omega
  · omega
  · omega
  · omega
  · omega
  · have long : ((month - 2) % 12).toNat ∈ [0, 2, 4, 5, 7, 9, 10] := by
      simp only [List.mem_cons, List.not_mem_nil, or_false]
      omega
    exact (by decide : ∀ place ∈ [0, 2, 4, 5, 7, 9, 10],
      ((31 : Nat) : Int) = ((153 * (place + 1) + 2) / 5 : Nat) - ((153 * place + 2) / 5 : Nat))
        _ long

/-- A month begins on the day after the last of the month before. -/
theorem firstDay_succ (month : Int) :
    firstDay (month + 1) = firstDay month + monthLength month := by
  rw [monthLength_eq]
  unfold firstDay
  split
  · rename_i last
    have place : ((month + 1 - 2) % 12).toNat = 0 := by omega
    have year : (month + 1 - 2) / 12 = (month - 2) / 12 + 1 := by omega
    rw [place, year, last]
    unfold daysBeforeMonth
    omega
  · have place : ((month + 1 - 2) % 12).toNat = ((month - 2) % 12).toNat + 1 := by omega
    have year : (month + 1 - 2) / 12 = (month - 2) / 12 := by omega
    rw [place, year]
    omega

theorem firstDay_mono {month later : Int} (h : month < later) :
    firstDay month + monthLength month ≤ firstDay later := by
  induction later, h using Int.leInduction with
  | base => exact Int.le_of_eq (firstDay_succ month).symm
  | succ later _ ih =>
    rw [firstDay_succ later]
    omega

theorem dayNumber_lt_of_month_lt {year year' : Int} {month month' day day' : Nat}
    (valid : OnCalendar year month day) (valid' : OnCalendar year' month' day')
    (earlier : year * 12 + month < year' * 12 + month') :
    dayNumber year month day < dayNumber year' month' day' := by
  have apart := firstDay_mono (show year * 12 + month - 1 < year' * 12 + month' - 1 by omega)
  have day_le := valid.day_le
  have day_pos := valid'.day_pos
  rw [monthLength_of_month valid.month_pos valid.month_le] at apart
  rw [dayNumber_eq valid, dayNumber_eq valid']
  omega

/-- Day numbers compare first by the month and then by the day in it. -/
theorem dayNumber_le_iff {year year' : Int} {month month' day day' : Nat}
    (valid : OnCalendar year month day) (valid' : OnCalendar year' month' day') :
    dayNumber year month day ≤ dayNumber year' month' day' ↔
      year * 12 + month < year' * 12 + month' ∨
        (year * 12 + month = year' * 12 + month' ∧ day ≤ day') := by
  rcases Int.lt_trichotomy (year * 12 + month) (year' * 12 + month') with earlier | same | later
  · have less := dayNumber_lt_of_month_lt valid valid' earlier
    omega
  · rw [dayNumber_eq valid, dayNumber_eq valid', same]
    omega
  · have less := dayNumber_lt_of_month_lt valid' valid later
    omega

theorem dayNumber_injective {year year' : Int} {month month' day day' : Nat}
    (valid : OnCalendar year month day) (valid' : OnCalendar year' month' day')
    (same : dayNumber year month day = dayNumber year' month' day') :
    year = year' ∧ month = month' ∧ day = day' := by
  have first := (dayNumber_le_iff valid valid').1 (Int.le_of_eq same)
  have second := (dayNumber_le_iff valid' valid).1 (Int.le_of_eq same.symm)
  obtain ⟨month_pos, month_le, _, _⟩ := valid
  obtain ⟨month_pos', month_le', _, _⟩ := valid'
  omega

/-- The year of an era, as `civil` finds it from the day of the era. -/
def yearOfEra (dayOfEra : Int) : Int :=
  (dayOfEra - dayOfEra / 1460 + dayOfEra / 36524 - dayOfEra / 146096) / 365

theorem yearOfEra_bounds {dayOfEra : Int} (low : 0 ≤ dayOfEra) (high : dayOfEra < 146097) :
    0 ≤ yearOfEra dayOfEra ∧ yearOfEra dayOfEra < 400 ∧
      daysBefore (yearOfEra dayOfEra) ≤ dayOfEra ∧
      dayOfEra < daysBefore (yearOfEra dayOfEra + 1) := by
  unfold daysBefore
  by_cases leapDay : dayOfEra = 146096
  · subst leapDay
    decide
  · generalize same : yearOfEra dayOfEra = y
    unfold yearOfEra at same
    have ordinary : dayOfEra / 146096 = 0 := by omega
    have century : y / 100 = dayOfEra / 36524 := by omega
    have begun : y / 4 ≤ dayOfEra / 1460 := by omega
    have ended : dayOfEra / 1460 ≤ (y + 1) / 4 := by omega
    -- the next year is in the same century or begins the next one
    have turn : (y + 1) / 100 = y / 100 ∨ y + 1 = 100 * (y / 100 + 1) := by omega
    refine ⟨by omega, by omega, by omega, ?_⟩
    rcases turn with stays | turns
    · omega
    · omega

/-- The date on a day of a year that begins in March. -/
def ofMarch (year : Int) (dayOfYear : Nat) : Int × Nat × Nat :=
  let monthFromMarch := (5 * dayOfYear + 2) / 153
  let day := dayOfYear - (153 * monthFromMarch + 2) / 5 + 1
  let month := if monthFromMarch < 10 then monthFromMarch + 3 else monthFromMarch - 9
  (if month ≤ 2 then year + 1 else year, month, day)

theorem civil_eq (n : Int) : ∃ (year : Int) (dayOfYear : Nat),
    civil n = ofMarch year dayOfYear ∧ n = daysBefore year + dayOfYear - 719468 ∧
      (dayOfYear : Int) < daysBefore (year + 1) - daysBefore year := by
  obtain ⟨low, high, before, after⟩ := yearOfEra_bounds
    (Int.emod_nonneg (n + 719468) (by decide : (146097 : Int) ≠ 0))
    (Int.emod_lt_of_pos (n + 719468) (by decide : (0 : Int) < 146097))
  generalize same : yearOfEra ((n + 719468) % 146097) = y at *
  have inside : 365 * y + y / 4 - y / 100 = daysBefore y := by
    unfold daysBefore
    omega
  have next : y + (n + 719468) / 146097 * 400 + 1 = y + 1 + (n + 719468) / 146097 * 400 := by
    omega
  refine ⟨y + (n + 719468) / 146097 * 400,
    ((n + 719468) % 146097 - daysBefore y).toNat, ?_, ?_, ?_⟩
  · rw [← inside, ← same]
    rfl
  · rw [daysBefore_add_eras]
    omega
  · rw [next, daysBefore_add_eras, daysBefore_add_eras]
    omega

theorem ofMarch_month {dayOfYear : Nat} (within : dayOfYear < 366) (year : Int) :
    (ofMarch year dayOfYear).1 * 12 + (ofMarch year dayOfYear).2.1 - 1
        = year * 12 + ((5 * dayOfYear + 2) / 153 : Nat) + 2 ∧
      1 ≤ (ofMarch year dayOfYear).2.1 ∧ (ofMarch year dayOfYear).2.1 ≤ 12 := by
  unfold ofMarch
  dsimp only
  split <;> split <;> omega

theorem ofMarch_day (year : Int) (dayOfYear : Nat) :
    ((ofMarch year dayOfYear).2.2 : Int) =
      dayOfYear - daysBeforeMonth ((5 * dayOfYear + 2) / 153) + 1 := by
  unfold ofMarch daysBeforeMonth
  dsimp only
  omega

/-- A day of a year that begins in March is on the calendar, and its number is the one counted
from the start of that year. -/
theorem ofMarch_onCalendar {year : Int} {dayOfYear : Nat}
    (within : (dayOfYear : Int) < daysBefore (year + 1) - daysBefore year) :
    OnCalendar (ofMarch year dayOfYear).1 (ofMarch year dayOfYear).2.1
        (ofMarch year dayOfYear).2.2 ∧
      dayNumber (ofMarch year dayOfYear).1 (ofMarch year dayOfYear).2.1
        (ofMarch year dayOfYear).2.2 = daysBefore year + dayOfYear - 719468 := by
  have fits : dayOfYear < 366 := by
    rw [daysBefore_succ] at within
    split at within <;> omega
  obtain ⟨number, month_pos, month_le⟩ := ofMarch_month fits year
  have day := ofMarch_day year dayOfYear
  have whole : (year * 12 + ((5 * dayOfYear + 2) / 153 : Nat) + 2 - 2) / 12 = year := by omega
  have place : (year * 12 + ((5 * dayOfYear + 2) / 153 : Nat) + 2 - 2) % 12 =
      ((5 * dayOfYear + 2) / 153 : Nat) := by omega
  have length := monthLength_eq (year * 12 + ((5 * dayOfYear + 2) / 153 : Nat) + 2)
  rw [← number, monthLength_of_month month_pos month_le, number, whole, place,
    Int.toNat_natCast] at length
  have valid : OnCalendar (ofMarch year dayOfYear).1 (ofMarch year dayOfYear).2.1
      (ofMarch year dayOfYear).2.2 := by
    unfold daysBeforeMonth at *
    refine ⟨month_pos, month_le, by omega, ?_⟩
    split at length <;> omega
  refine ⟨valid, ?_⟩
  rw [dayNumber_eq valid, number, firstDay, whole, place, Int.toNat_natCast, day]
  omega

theorem civil_onCalendar (n : Int) : OnCalendar (civil n).1 (civil n).2.1 (civil n).2.2 := by
  obtain ⟨year, dayOfYear, same, _, within⟩ := civil_eq n
  rw [same]
  exact (ofMarch_onCalendar within).1

/-- Every number is that of the date found for it. -/
theorem dayNumber_civil (n : Int) :
    dayNumber (civil n).1 (civil n).2.1 (civil n).2.2 = n := by
  obtain ⟨year, dayOfYear, same, number, within⟩ := civil_eq n
  rw [same, number]
  exact (ofMarch_onCalendar within).2

end Calendar

open Calendar

namespace Date

theorem onCalendar (d : Date) : OnCalendar d.year d.month d.day :=
  ⟨d.month_pos, d.month_le, d.day_pos, d.day_le⟩

/-- Dates are ordered by year, month and day. -/
instance : LE Date :=
  ⟨fun d e => d.year < e.year ∨
    (d.year = e.year ∧ (d.month < e.month ∨ (d.month = e.month ∧ d.day ≤ e.day)))⟩

theorem le_iff {d e : Date} : d ≤ e ↔ d.year < e.year ∨
    (d.year = e.year ∧ (d.month < e.month ∨ (d.month = e.month ∧ d.day ≤ e.day))) := Iff.rfl

theorem le_iff_monthNumber {d e : Date} : d ≤ e ↔ d.monthNumber < e.monthNumber ∨
    (d.monthNumber = e.monthNumber ∧ d.day ≤ e.day) := by
  obtain ⟨month_pos, month_le, _, _⟩ := d.onCalendar
  obtain ⟨month_pos', month_le', _, _⟩ := e.onCalendar
  simp only [le_iff, monthNumber]
  omega

theorem le_iff_dayNumber {d e : Date} : d ≤ e ↔ d.dayNumber ≤ e.dayNumber := by
  rw [le_iff_monthNumber, dayNumber, dayNumber, dayNumber_le_iff d.onCalendar e.onCalendar]
  unfold monthNumber
  omega

theorem le_refl (d : Date) : d ≤ d := le_iff_dayNumber.2 (Int.le_refl _)

theorem earliest_le (d : Date) : earliest ≤ d := by
  have year_ge := d.year_ge
  have month_pos := d.month_pos
  have day_pos := d.day_pos
  simp only [le_iff, earliest]
  omega

theorem le_latest (d : Date) : d ≤ latest := by
  have year_le := d.year_le
  have month_le := d.month_le
  have december (last : d.month = 12) : d.day ≤ 31 := by
    have day_le := d.day_le
    rw [last] at day_le
    exact day_le
  simp only [le_iff, latest]
  omega

theorem dayNumber_bounds (d : Date) :
    earliest.dayNumber ≤ d.dayNumber ∧ d.dayNumber ≤ latest.dayNumber :=
  ⟨le_iff_dayNumber.1 d.earliest_le, le_iff_dayNumber.1 d.le_latest⟩

theorem eq_latest_of_le {d : Date} (last : latest.dayNumber ≤ d.dayNumber) : d = latest := by
  have below := d.dayNumber_bounds.2
  obtain ⟨year, month, day⟩ :=
    dayNumber_injective d.onCalendar latest.onCalendar (Int.le_antisymm below last)
  cases d
  cases year
  cases month
  cases day
  rfl

theorem monthNumber_bounds (d : Date) :
    firstYear * 12 ≤ d.monthNumber ∧ d.monthNumber ≤ lastYear * 12 + 11 := by
  have year_ge := d.year_ge
  have year_le := d.year_le
  have month_pos := d.month_pos
  have month_le := d.month_le
  unfold monthNumber
  omega

theorem of?_eq_none_iff {year : Int} {month day : Nat} (valid : OnCalendar year month day) :
    of? year month day = none ↔ year < firstYear ∨ lastYear < year := by
  obtain ⟨month_pos, month_le, day_pos, day_le⟩ := valid
  unfold of?
  split
  · rename_i inside
    have years := inside.1
    simp only [reduceCtorEq, false_iff]
    omega
  · rename_i outside
    simp only [true_iff]
    by_contra within
    exact outside ⟨by omega, ⟨month_pos, month_le⟩, ⟨day_pos, day_le⟩⟩

theorem ofDayNumber?_eq_some_iff {n : Int} {d : Date} :
    ofDayNumber? n = some d ↔ d.dayNumber = n := by
  unfold ofDayNumber?
  rw [of?_eq_some_iff]
  constructor
  · rintro ⟨year, month, day⟩
    rw [dayNumber, year, month, day, dayNumber_civil]
  · intro number
    have same := number.trans (dayNumber_civil n).symm
    exact dayNumber_injective d.onCalendar (civil_onCalendar n) same

/-- There is a date for the numbers from that of the earliest to that of the latest. -/
theorem ofDayNumber?_eq_none_iff {n : Int} :
    ofDayNumber? n = none ↔ n < earliest.dayNumber ∨ latest.dayNumber < n := by
  constructor
  · intro absent
    have valid := civil_onCalendar n
    obtain ⟨month_pos, month_le, _, _⟩ := civil_onCalendar n
    rw [← dayNumber_civil n]
    rcases (of?_eq_none_iff valid).1 absent with before | after
    · left
      apply dayNumber_lt_of_month_lt valid earliest.onCalendar
      simp only [earliest]
      omega
    · right
      apply dayNumber_lt_of_month_lt latest.onCalendar valid
      simp only [latest]
      omega
  · intro outside
    by_contra present
    obtain ⟨d, found⟩ := Option.ne_none_iff_exists'.1 present
    have number := ofDayNumber?_eq_some_iff.1 found
    have bounds := d.dayNumber_bounds
    omega

theorem monthNumber_of_inMonth? {d e : Date} {n : Int} (found : d.inMonth? n = some e) :
    e.monthNumber = n := by
  obtain ⟨year, month, _⟩ := of?_eq_some_iff.1 found
  unfold monthNumber
  omega

theorem inMonth?_monthNumber (d : Date) : d.inMonth? d.monthNumber = some d := by
  have month_pos := d.month_pos
  have month_le := d.month_le
  have year : d.monthNumber / 12 = d.year := by
    unfold monthNumber
    omega
  have month : (d.monthNumber % 12).toNat + 1 = d.month := by
    unfold monthNumber
    omega
  unfold inMonth?
  rw [of?_eq_some_iff, year, month]
  exact ⟨rfl, rfl, (Nat.min_eq_left d.day_le).symm⟩

/-- There is a date in every month of the years of the calendar, whatever the day. -/
theorem inMonth?_eq_none_iff {d : Date} {n : Int} :
    d.inMonth? n = none ↔ n < firstYear * 12 ∨ lastYear * 12 + 11 < n := by
  have length := daysInMonth_pos (n / 12) ((n % 12).toNat + 1)
  have day_pos := d.day_pos
  have valid : OnCalendar (n / 12) ((n % 12).toNat + 1)
      (min d.day (daysInMonth (n / 12) ((n % 12).toNat + 1))) :=
    ⟨by omega, by omega, by omega, Nat.min_le_right _ _⟩
  unfold inMonth?
  rw [of?_eq_none_iff valid]
  unfold firstYear lastYear
  omega

end Date

end DatasetQuery
