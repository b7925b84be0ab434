import DatasetQuery.Decimal.Digits
/-!
Lengths of time in whole nanoseconds, and the two texts they have: the one people read in
messages, and the one that travels as the deadline of a call.
-/
namespace DatasetQuery

structure Duration where
  nanoseconds : Nat
  deriving DecidableEq

namespace Duration

def ofSeconds (seconds : Nat) : Duration := ⟨seconds * 1000000000⟩

def ofMilliseconds (milliseconds : Nat) : Duration := ⟨milliseconds * 1000000⟩

/-- Whole seconds; the rest is `subsecond`. -/
def seconds (d : Duration) : Nat := d.nanoseconds / 1000000000

/-- Whole milliseconds, rounded up. -/
def milliseconds (d : Duration) : Nat := (d.nanoseconds + 999999) / 1000000

def subsecond (d : Duration) : Nat := d.nanoseconds % 1000000000

theorem seconds_add_subsecond (d : Duration) :
    d.seconds * 1000000000 + d.subsecond = d.nanoseconds := by
  unfold seconds subsecond
  omega

/-- `n` counted in a unit of `10 ^ places` nanoseconds, exactly. -/
def inUnit (places : Nat) (n : Nat) : String :=
  String.ofList
    (Decimal.digits (n / Decimal.tenTo places)
      ++ Decimal.fraction places (n % Decimal.tenTo places))

/-- The largest unit with a nonzero whole part, then the exact fraction of it. -/
def text (d : Duration) : String :=
  let n := d.nanoseconds
  if 1000000000 ≤ n then inUnit 9 n ++ "s"
  else if 1000000 ≤ n then inUnit 6 n ++ "ms"
  else if 1000 ≤ n then inUnit 3 n ++ "µs"
  else inUnit 0 n ++ "ns"

/-- The units of a deadline, finest first, each with its length in nanoseconds. -/
def deadlineUnits : List (String × Nat) :=
  [("n", 1), ("u", 1000), ("m", 1000000), ("S", 1000000000), ("M", 60000000000),
    ("H", 3600000000000)]

/-- A deadline counts its unit in at most eight digits. -/
def greatestCount : Nat := 99999999

/-- The finest unit that a deadline can be counted in. A hundred million hours and longer times have
none: a transport that keeps to eight digits has no word for them. -/
def deadlineUnit? (d : Duration) : Option (String × Nat) :=
  deadlineUnits.find? fun u => d.nanoseconds / u.2 ≤ greatestCount

/-- A deadline is cut down to whole units. Hours are the last resort; times that are too long for
them are counted in hours all the same, and what becomes of such a count is left to the transport. -/
def deadline (d : Duration) : String :=
  let unit := d.deadlineUnit?.getD ("H", 3600000000000)
  toString (d.nanoseconds / unit.2) ++ unit.1

theorem deadlineUnits_bounds : ∀ unit ∈ deadlineUnits, 0 < unit.2 ∧ unit.2 ≤ 3600000000000 := by
  decide

/-- Every time below a hundred million hours has a unit, and no other. -/
theorem deadlineUnit?_eq_none_iff {d : Duration} :
    d.deadlineUnit? = none ↔ 100000000 * 3600000000000 ≤ d.nanoseconds := by
  have counted : d.deadlineUnit? = none ↔
      ∀ unit ∈ deadlineUnits, greatestCount < d.nanoseconds / unit.2 := by
    simp [deadlineUnit?]
  rw [counted, greatestCount]
  constructor
  · intro tooMany
    have hours := tooMany ("H", 3600000000000) (by decide)
    dsimp only at hours
    omega
  · intro long unit among
    obtain ⟨positive, short⟩ := deadlineUnits_bounds unit among
    have units : 100000000 * unit.2 ≤ d.nanoseconds :=
      Nat.le_trans (Nat.mul_le_mul_left 100000000 short) long
    exact (Nat.le_div_iff_mul_le positive).2 units

end Duration

end DatasetQuery
