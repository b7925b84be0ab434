/-!
Times of day to the nanosecond. A leap second is the second it follows with a fraction of one
second or more, so 23:59:60.5 is the second 86399 with 1.5 seconds.
-/
namespace DatasetQuery

structure TimeOfDay where
  /-- Ordinary seconds since midnight. -/
  second : Nat
  nanos : Nat
  second_lt : second < 86400
  nanos_lt : nanos < 2000000000
  deriving DecidableEq

namespace TimeOfDay

def of? (hour minute second nanos : Nat) : Option TimeOfDay :=
  if h : (hour * 3600 + minute * 60 + second < 86400) ∧ nanos < 2000000000 then
    some ⟨hour * 3600 + minute * 60 + second, nanos, h.1, h.2⟩
  else none

def hour (t : TimeOfDay) : Nat := t.second / 3600

def minute (t : TimeOfDay) : Nat := t.second / 60 % 60

def secondOfMinute (t : TimeOfDay) : Nat := t.second % 60

def isLeap (t : TimeOfDay) : Bool := 1000000000 ≤ t.nanos

/-- Nanoseconds since midnight; a leap second runs over into the next ordinary one. -/
def nanosecond (t : TimeOfDay) : Nat := t.second * 1000000000 + t.nanos

def midnight : TimeOfDay := ⟨0, 0, by decide, by decide⟩

/-- The last microsecond of the day. -/
def lastMicrosecond : TimeOfDay := ⟨86399, 999999000, by decide, by decide⟩

/-- The last nanosecond of the day. -/
def lastNanosecond : TimeOfDay := ⟨86399, 999999999, by decide, by decide⟩

/-- Seconds counted from midnight of a day, as a time and the number of days it lies off. -/
def wrap (seconds : Int) (nanos : Nat) (h : nanos < 2000000000) : TimeOfDay × Int :=
  (⟨(seconds % 86400).toNat, nanos, by omega, h⟩, seconds / 86400)

/-- Seconds and nanoseconds in any range, as a time without leap second. -/
def carry (seconds nanos : Int) : TimeOfDay × Int :=
  wrap (seconds + nanos / 1000000000) (nanos % 1000000000).toNat (by omega)

/-- Moves by milliseconds and gives the days passed over. From within a leap second, a step
below one second that does not reach its end keeps the second; all others count on from the
ordinary second after it (backwards) or before it (forwards). -/
def advance (t : TimeOfDay) (milliseconds : Int) : TimeOfDay × Int :=
  let whole := milliseconds.tdiv 1000
  let part := milliseconds.tmod 1000 * 1000000
  if h : 1000000000 ≤ t.nanos ∧ whole = 0 ∧ t.nanos + part < 2000000000 then
    (⟨t.second, (t.nanos + part).toNat, t.second_lt, by have := h.2.2; omega⟩, 0)
  else if 1000000000 ≤ t.nanos then
    let start := if whole < 0 then t.second + 1 else t.second
    carry (start + whole) (t.nanos - 1000000000 + part)
  else carry (t.second + whole) (t.nanos + part)

end TimeOfDay

end DatasetQuery
