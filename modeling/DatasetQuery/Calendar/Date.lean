/-!
Dates of the proleptic Gregorian calendar, with a year zero, from the first day of year -262143
to the last day of year 262142. A date outside that range does not exist: every step that would
leave it fails.
-/
namespace DatasetQuery

namespace Calendar

def isLeap (year : Int) : Bool := year % 4 = 0 ∧ (year % 100 ≠ 0 ∨ year % 400 = 0)

def daysInMonth (year : Int) (month : Nat) : Nat :=
  if month = 2 then if isLeap year then 29 else 28
  else if month = 4 ∨ month = 6 ∨ month = 9 ∨ month = 11 then 30
  else 31

theorem daysInMonth_pos (year : Int) (month : Nat) : 1 ≤ daysInMonth year month := by
  unfold daysInMonth
  split
  · split <;> decide
  · split <;> decide

def firstYear : Int := -262143

def lastYear : Int := 262142

/-- Days from the first of January 1970 to a day. The year is taken to begin in March, so that
the leap day comes last and the months before it follow one formula. -/
def dayNumber (year : Int) (month day : Nat) : Int :=
  let y := if month ≤ 2 then year - 1 else year
  let monthFromMarch := (month + 9) % 12
  let dayOfYear := (153 * monthFromMarch + 2) / 5 + day - 1
  let yearOfEra := y % 400
  y / 400 * 146097 + yearOfEra * 365 + yearOfEra / 4 - yearOfEra / 100 + dayOfYear - 719468

/-- Year, month and day of a day number; four centuries always have the same number of days. -/
def civil (n : Int) : Int × Nat × Nat :=
  let z := n + 719468
  let dayOfEra := z % 146097
  let yearOfEra :=
    (dayOfEra - dayOfEra / 1460 + dayOfEra / 36524 - dayOfEra / 146096) / 365
  let dayOfYear := (dayOfEra - (365 * yearOfEra + yearOfEra / 4 - yearOfEra / 100)).toNat
  let monthFromMarch := (5 * dayOfYear + 2) / 153
  let day := dayOfYear - (153 * monthFromMarch + 2) / 5 + 1
  let month := if monthFromMarch < 10 then monthFromMarch + 3 else monthFromMarch - 9
  let year := yearOfEra + z / 146097 * 400
  (if month ≤ 2 then year + 1 else year, month, day)

end Calendar

open Calendar

structure Date where
  year : Int
  month : Nat
  day : Nat
  year_ge : firstYear ≤ year
  year_le : year ≤ lastYear
  month_pos : 1 ≤ month
  month_le : month ≤ 12
  day_pos : 1 ≤ day
  day_le : day ≤ daysInMonth year month
  deriving DecidableEq

namespace Date

def of? (year : Int) (month day : Nat) : Option Date :=
  if h : (firstYear ≤ year ∧ year ≤ lastYear) ∧ (1 ≤ month ∧ month ≤ 12) ∧
      (1 ≤ day ∧ day ≤ daysInMonth year month) then
    some ⟨year, month, day, h.1.1, h.1.2, h.2.1.1, h.2.1.2, h.2.2.1, h.2.2.2⟩
  else none

theorem of?_eq_some_iff {year : Int} {month day : Nat} {d : Date} :
    of? year month day = some d ↔ d.year = year ∧ d.month = month ∧ d.day = day := by
  unfold of?
  constructor
  · intro h
    split at h
    · cases h
      exact ⟨rfl, rfl, rfl⟩
    · cases h
  · rintro ⟨rfl, rfl, rfl⟩
    rw [dif_pos ⟨⟨d.year_ge, d.year_le⟩, ⟨d.month_pos, d.month_le⟩, ⟨d.day_pos, d.day_le⟩⟩]

/-- The first of January of the first year. -/
def earliest : Date := ⟨firstYear, 1, 1, by decide, by decide, by decide, by decide, by decide, by decide⟩

/-- The last of December of the last year. -/
def latest : Date := ⟨lastYear, 12, 31, by decide, by decide, by decide, by decide, by decide, by decide⟩

/-- Days since the first of January 1970. -/
def dayNumber (d : Date) : Int := Calendar.dayNumber d.year d.month d.day

def ofDayNumber? (n : Int) : Option Date :=
  let (year, month, day) := civil n
  of? year month day

/-- Months since the first month of year zero. -/
def monthNumber (d : Date) : Int := d.year * 12 + d.month - 1

/-- The date in the month of that number with the same day, or with the last day of the month
if that is earlier. -/
def inMonth? (d : Date) (n : Int) : Option Date :=
  let year := n / 12
  let month := (n % 12).toNat + 1
  of? year month (min d.day (daysInMonth year month))

end Date

end DatasetQuery
