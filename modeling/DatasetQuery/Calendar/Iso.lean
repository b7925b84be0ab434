import DatasetQuery.Calendar.Instant
import DatasetQuery.Decimal.Digits
/-!
The ISO 8601 texts of dates, times of day and instants. Years outside 0 to 9999 have a sign; a
time is cut to its second and an instant to its microsecond; a leap second is written as the
second after the one it belongs to.
-/
namespace DatasetQuery

open Decimal (padded)

namespace Date

def yearText (year : Int) : List Char :=
  if 0 ≤ year ∧ year ≤ 9999 then padded 4 year.toNat
  else (if year < 0 then '-' else '+') :: padded 4 year.natAbs

def isoChars (d : Date) : List Char :=
  yearText d.year ++ '-' :: padded 2 d.month ++ '-' :: padded 2 d.day

def iso (d : Date) : String := String.ofList d.isoChars

end Date

namespace TimeOfDay

def isoChars (t : TimeOfDay) : List Char :=
  padded 2 t.hour ++ ':' :: padded 2 t.minute
    ++ ':' :: padded 2 (t.secondOfMinute + t.nanos / 1000000000)

def iso (t : TimeOfDay) : String := String.ofList t.isoChars

/-- Microseconds within the second that is written. -/
def microsecond (t : TimeOfDay) : Nat := t.nanos % 1000000000 / 1000

end TimeOfDay

namespace Instant

def isoChars (i : Instant) : List Char :=
  i.date.isoChars ++ 'T' :: i.time.isoChars ++ '.' :: padded 6 i.time.microsecond ++ ['Z']

def iso (i : Instant) : String := String.ofList i.isoChars

end Instant

end DatasetQuery
