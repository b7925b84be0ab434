import DatasetQuery.Calendar.Iso
import DatasetQuery.Calendar.Shift
import DatasetQuery.Expr.Build
import DatasetQuery.Log
/-!
Comparisons with dates, times of day and instants, and windows into the past. A value stands in
an expression as the string of its ISO text.
-/
namespace DatasetQuery

/-- Values on a time scale that can be written and shifted. -/
class Temporal (α : Type) where
  Unit : Type
  iso : α → String
  shift : α → Int64 → Unit → α

instance : Temporal Date := ⟨CalendarUnit, Date.iso, Date.shift⟩

instance : Temporal TimeOfDay := ⟨ClockUnit, TimeOfDay.iso, TimeOfDay.shift⟩

instance : Temporal Instant := ⟨InstantUnit, Instant.iso, Instant.shift⟩

namespace Temporal

variable {α : Type} [Temporal α]

/-- The constant that stands for a value. -/
def literal (value : α) : Expr := Expr.scalar (.string (iso value))

def compare (e : Expr) (op : BooleanOperator) (value : α) : Expr := e.compared op (literal value)

/-- The ends of the window from `newer` to `older` units before `now`, whichever of the two
counts is the greater. -/
def window (now : α) (older newer : Int64) (unit : Unit α) : α × α :=
  let farther := if newer < older then older else newer
  let nearer := if newer < older then newer else older
  (shift now (saturatingNeg farther) unit, shift now (saturatingNeg nearer) unit)

def swappedBounds (older newer : Int64) : LogEntry :=
  .event "in_past bounds are swapped, reordering" .warn
    [("older_than", toString older.toInt), ("newer_than", toString newer.toInt)]

/-- Both ends of the window belong to it. Swapped counts are put in order, with a warning. -/
def inPastAt (e : Expr) (now : α) (older newer : Int64) (unit : Unit α) : Traced Expr := do
  Traced.recordIf (newer < older) (swappedBounds older newer)
  let (lower, upper) := window now older newer unit
  return (compare e .gte lower).and (compare e .lte upper)

end Temporal

/-- A value on one of the three time scales. -/
inductive Moment where
  | date (value : Date)
  | time (value : TimeOfDay)
  | instant (value : Instant)

namespace Moment

/-- The kind of the columns that are compared with such values. -/
def kind : Moment → ColumnKind
  | date _ => .date
  | time _ => .time
  | instant _ => .datetime

def compare (e : Expr) (op : BooleanOperator) : Moment → Expr
  | date value => Temporal.compare e op value
  | time value => Temporal.compare e op value
  | instant value => Temporal.compare e op value

end Moment

/-- A window into the past on one of the three time scales. -/
inductive PastWindow where
  | dates (now : Date) (older newer : Int64) (unit : CalendarUnit)
  | times (now : TimeOfDay) (older newer : Int64) (unit : ClockUnit)
  | instants (now : Instant) (older newer : Int64) (unit : InstantUnit)

namespace PastWindow

def kind : PastWindow → ColumnKind
  | dates _ _ _ _ => .date
  | times _ _ _ _ => .time
  | instants _ _ _ _ => .datetime

def test (e : Expr) : PastWindow → Traced Expr
  | dates now older newer unit => Temporal.inPastAt e now older newer unit
  | times now older newer unit => Temporal.inPastAt e now older newer unit
  | instants now older newer unit => Temporal.inPastAt e now older newer unit

end PastWindow

end DatasetQuery
