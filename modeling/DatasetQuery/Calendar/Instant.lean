import DatasetQuery.Calendar.Date
import DatasetQuery.Calendar.TimeOfDay
/-!
Instants in UTC: a date and a time of day. A local time is brought to UTC by its offset.
-/
namespace DatasetQuery

structure Instant where
  date : Date
  time : TimeOfDay
  deriving DecidableEq

namespace Instant

def earliest : Instant := ⟨Date.earliest, TimeOfDay.midnight⟩

def latest : Instant := ⟨Date.latest, TimeOfDay.lastNanosecond⟩

/-- Seconds since the start of 1970, leap seconds not counted. -/
def unixSecond (i : Instant) : Int := i.date.dayNumber * 86400 + i.time.second

/-- Microseconds since the start of 1970, rounded down. -/
def unixMicrosecond (i : Instant) : Int := i.unixSecond * 1000000 + (i.time.nanos / 1000 : Nat)

/-- Nanoseconds since the start of 1970. -/
def unixNanosecond (i : Instant) : Int := i.unixSecond * 1000000000 + i.time.nanos

/-- The order of instants; a leap second comes after the second it belongs to and before the
next one. -/
def isAtMost (i j : Instant) : Bool :=
  i.unixSecond < j.unixSecond ∨ (i.unixSecond = j.unixSecond ∧ i.time.nanos ≤ j.time.nanos)

/-- A time on a day that lies `days` after `date`. -/
def on? (date : Date) (time : TimeOfDay × Int) : Option Instant :=
  (Date.ofDayNumber? (date.dayNumber + time.2)).map fun d => ⟨d, time.1⟩

/-- The instant of a local date and time that runs `offset` seconds ahead of UTC. The fraction,
and with it a leap second, stays. -/
def ofLocal? (date : Date) (time : TimeOfDay) (offset : Int) : Option Instant :=
  on? date (TimeOfDay.wrap (time.second - offset) time.nanos time.nanos_lt)

end Instant

end DatasetQuery
