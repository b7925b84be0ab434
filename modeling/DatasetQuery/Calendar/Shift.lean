import DatasetQuery.Calendar.Instant
/-!
Steps through the calendar and along the clock. A step that cannot be taken saturates: dates and
instants stop at the ends of their range, times of day at the ends of the day.
-/
namespace DatasetQuery

inductive CalendarUnit where
  | years | months | weeks | days
  deriving DecidableEq

inductive ClockUnit where
  | hours | minutes | seconds | milliseconds
  deriving DecidableEq

/-- The units of instants are those of the calendar and those of the clock. -/
inductive InstantUnit where
  | calendar (unit : CalendarUnit)
  | clock (unit : ClockUnit)
  deriving DecidableEq

/-- The numbers that a signed word of 64 bits holds. -/
def greatestWord : Int := 0x7fffffffffffffff

def leastWord : Int := -0x8000000000000000

/-- The nearest number that a signed word of 64 bits holds. -/
def saturated (n : Int) : Int :=
  if greatestWord < n then greatestWord else if n < leastWord then leastWord else n

/-- The negative of a count; the least count has none and becomes the greatest. -/
def saturatingNeg (count : Int64) : Int64 := Int64.ofInt (saturated (-count.toInt))

/-- A step of the calendar, in the unit in which it is taken. -/
inductive CalendarStep where
  | months (n : Int)
  | days (n : Int)

namespace CalendarUnit

/-- Years are twelve months and weeks are seven days; a count that overflows saturates. -/
def step (unit : CalendarUnit) (count : Int64) : CalendarStep :=
  match unit with
  | years => .months (saturated (count.toInt * 12))
  | months => .months count.toInt
  | weeks => .days (saturated (count.toInt * 7))
  | days => .days count.toInt

end CalendarUnit

namespace ClockUnit

def inMilliseconds : ClockUnit → Int
  | hours => 3600000
  | minutes => 60000
  | seconds => 1000
  | milliseconds => 1

/-- A clock step in milliseconds, if a signed word of 64 bits holds it and its negative. -/
def step? (unit : ClockUnit) (count : Int64) : Option Int :=
  let n := count.toInt * unit.inMilliseconds
  if n.natAbs ≤ greatestWord then some n else none

end ClockUnit

/-- The longest step of months or days that can be taken at once. -/
def longestStep : Nat := 0x7fffffff

namespace Date

/-- The longest count of months that can be given. -/
def greatestCount : Nat := 0xffffffff

/-- Months are counted in an unsigned word of 32 bits, where larger counts saturate. A step to
a shorter month ends on its last day. -/
def addMonths? (d : Date) (n : Int) : Option Date :=
  let count := min n.natAbs greatestCount
  if count = 0 then some d
  else if longestStep < count then none
  else d.inMonth? (d.monthNumber + n.sign * count)

def addDays? (d : Date) (n : Int) : Option Date :=
  if longestStep < n.natAbs then none else ofDayNumber? (d.dayNumber + n)

def take? (d : Date) : CalendarStep → Option Date
  | .months n => d.addMonths? n
  | .days n => d.addDays? n

/-- The end of the range in the direction of a count. -/
def bound (count : Int64) : Date := if count.toInt < 0 then earliest else latest

def shift (d : Date) (count : Int64) (unit : CalendarUnit) : Date :=
  (d.take? (unit.step count)).getD (bound count)

end Date

namespace TimeOfDay

/-- The end of the day in the direction of a count. -/
def bound (count : Int64) : TimeOfDay := if count.toInt < 0 then midnight else lastMicrosecond

/-- Times never pass midnight: a step out of the day ends at the bound of the day. -/
def shift (t : TimeOfDay) (count : Int64) (unit : ClockUnit) : TimeOfDay :=
  match unit.step? count with
  | some n =>
    let (time, days) := t.advance n
    if days = 0 then time else bound count
  | none => bound count

end TimeOfDay

namespace Instant

/-- Calendar steps keep the time of day. A step of some days must not end after the latest
instant, which only a leap second could. -/
def take? (i : Instant) : CalendarStep → Option Instant
  | .months n => (i.date.addMonths? n).map fun d => ⟨d, i.time⟩
  | .days n =>
    if n = 0 then some i
    else ((i.date.addDays? n).map fun d => ⟨d, i.time⟩).filter fun j => j.isAtMost latest

def advance? (i : Instant) (milliseconds : Int) : Option Instant :=
  on? i.date (i.time.advance milliseconds)

def bound (count : Int64) : Instant := if count.toInt < 0 then earliest else latest

def shift (i : Instant) (count : Int64) (unit : InstantUnit) : Instant :=
  match unit with
  | .calendar unit => (i.take? (unit.step count)).getD (bound count)
  | .clock unit => ((unit.step? count).bind i.advance?).getD (bound count)

end Instant

end DatasetQuery
