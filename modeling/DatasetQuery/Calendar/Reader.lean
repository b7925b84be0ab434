import DatasetQuery.Calendar.Instant
/-!
Reading the ISO 8601 texts of dates, times of day and instants. Every part is read from the front
of a text and gives what follows it; a whole text has nothing left when it is read.
-/
namespace DatasetQuery

namespace TimeOfDay

/-- The time at which a clock shows so many hours, minutes and seconds. Second 60 is the leap
second after second 59. -/
def ofClock? (hour minute second nanos : Nat) : Option TimeOfDay :=
  if h : (hour < 24 ∧ minute < 60 ∧ second ≤ 60) ∧ nanos < 1000000000 then
    some ⟨hour * 3600 + minute * 60 + min second 59, second / 60 * 1000000000 + nanos,
      by omega, by omega⟩
  else none

end TimeOfDay

namespace Iso

/-- The number that the leading digits write, if they are as many as is asked for. -/
def number? (enough : Nat → Bool) (cs : List Char) : Option (Nat × List Char) :=
  let digits := cs.takeWhile Char.isDigit
  if enough digits.length then some (Nat.ofDigitChars 10 digits 0, cs.dropWhile Char.isDigit)
  else none

def mark? (mark : Char) : List Char → Option (List Char)
  | [] => none
  | c :: rest => if c = mark then some rest else none

/-- A year has four digits, or a sign and then at least four. -/
def year? : List Char → Option (Int × List Char)
  | '+' :: rest => (number? (4 ≤ ·) rest).map fun (n, rest) => ((n : Int), rest)
  | '-' :: rest => (number? (4 ≤ ·) rest).map fun (n, rest) => (-(n : Int), rest)
  | rest => (number? (· = 4) rest).map fun (n, rest) => ((n : Int), rest)

def date? (cs : List Char) : Option (Date × List Char) := do
  let (year, cs) ← year? cs
  let cs ← mark? '-' cs
  let (month, cs) ← number? (· = 2) cs
  let cs ← mark? '-' cs
  let (day, cs) ← number? (· = 2) cs
  let date ← Date.of? year month day
  return (date, cs)

/-- Hours, minutes and seconds. -/
def clock? (cs : List Char) : Option ((Nat × Nat × Nat) × List Char) := do
  let (hour, cs) ← number? (· = 2) cs
  let cs ← mark? ':' cs
  let (minute, cs) ← number? (· = 2) cs
  let cs ← mark? ':' cs
  let (second, cs) ← number? (· = 2) cs
  return ((hour, minute, second), cs)

def time? (cs : List Char) : Option (TimeOfDay × List Char) := do
  let ((hour, minute, second), cs) ← clock? cs
  let time ← TimeOfDay.ofClock? hour minute second 0
  return (time, cs)

/-- A date and a time with six places behind its seconds, in UTC. -/
def instant? (cs : List Char) : Option (Instant × List Char) := do
  let (date, cs) ← date? cs
  let cs ← mark? 'T' cs
  let ((hour, minute, second), cs) ← clock? cs
  let cs ← mark? '.' cs
  let (micros, cs) ← number? (· = 6) cs
  let cs ← mark? 'Z' cs
  let time ← TimeOfDay.ofClock? hour minute second (micros * 1000)
  return (⟨date, time⟩, cs)

/-- The value of a text that is read to its end. -/
def whole? {α : Type} (read : List Char → Option (α × List Char)) (text : String) : Option α :=
  match read text.toList with
  | some (value, []) => some value
  | _ => none

end Iso

def Date.ofIso? (text : String) : Option Date := Iso.whole? Iso.date? text

def TimeOfDay.ofIso? (text : String) : Option TimeOfDay := Iso.whole? Iso.time? text

def Instant.ofIso? (text : String) : Option Instant := Iso.whole? Iso.instant? text

end DatasetQuery
