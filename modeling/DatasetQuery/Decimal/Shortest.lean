import DatasetQuery.Binary
import DatasetQuery.Decimal.Digits
/-!
The shortest decimal that reads back as a given binary value. All reals in the interval around
`m * 2 ^ q` round to it; the coarsest decimal grid with a point in the interval is taken, and on
it the point nearest to the value.
-/
namespace DatasetQuery.Decimal

/-- The number `coefficient * 10 ^ exponent`. -/
structure Scientific where
  coefficient : Nat
  exponent : Int
  deriving DecidableEq

/-- The number of decimal digits, at least one. -/
def width (n : Nat) : Nat := if n < 10 then 1 else 1 + width (n / 10)
termination_by n

/-- A zero at the end moves into the exponent. -/
def trimmed (c : Nat) (k : Int) : Scientific :=
  if _h : c ≠ 0 ∧ c % 10 = 0 then trimmed (c / 10) (k + 1) else ⟨c, k⟩
termination_by c
decreasing_by omega

namespace Scientific

/-- The exponent of the leading digit: `p` for numbers in `[10 ^ p, 10 ^ (p + 1))`. -/
def magnitude (s : Scientific) : Int := s.exponent + (width s.coefficient : Int) - 1

end Scientific

/-- The reals that round to one value, over a common denominator: the lower end, the value and
the upper end are `low / den`, `mid / den` and `high / den`. -/
structure Interval where
  low : Nat
  mid : Nat
  high : Nat
  den : Nat
  /-- whether the ends themselves belong to it -/
  closed : Bool

namespace Interval

/-- The interval around `significand * 2 ^ exponent`. The lower end is half as far away when
the value is isolated. A tie goes to the even significand. -/
def around (significand : Nat) (exponent : Int) (isolated : Bool) : Interval :=
  let up := twoTo exponent.toNat
  let down := twoTo (-exponent).toNat
  let mid := 4 * significand * up
  { low := mid - (if isolated then up else 2 * up)
    mid := mid
    high := mid + 2 * up
    den := 4 * down
    closed := significand % 2 = 0 }

/-- Whether the grid point `c * 10 ^ k` lies in the interval. -/
def contains (i : Interval) (c : Nat) (k : Int) : Bool :=
  let x := c * tenTo k.toNat * i.den
  let scale := tenTo (-k).toNat
  if i.closed then i.low * scale ≤ x ∧ x ≤ i.high * scale
  else i.low * scale < x ∧ x < i.high * scale

/-- The last grid point of spacing `10 ^ k` that is not above the value. -/
def floorOn (i : Interval) (k : Int) : Nat :=
  i.mid * tenTo (-k).toNat / (i.den * tenTo k.toNat)

/-- Whether the value is nearer to `c * 10 ^ k` than to the next point of that grid. -/
def nearerBelow (i : Interval) (c : Nat) (k : Int) : Bool :=
  2 * i.mid * tenTo (-k).toNat < (2 * c + 1) * tenTo k.toNat * i.den

/-- The point of the grid of spacing `10 ^ k` that stands for the value, if one lies in the
interval. Of two the nearer is taken, halfway the upper one. -/
def pointOn (i : Interval) (k : Int) : Option Nat :=
  let c := i.floorOn k
  match i.contains c k, i.contains (c + 1) k with
  | false, false => none
  | true, false => some c
  | false, true => some (c + 1)
  | true, true => if i.nearerBelow c k then some c else some (c + 1)

/-- The exponent of the leading digit of the value, which must not be zero. -/
def magnitude (i : Interval) : Int :=
  if i.den ≤ i.mid then (width (i.mid / i.den) : Int) - 1
  else -(width ((i.den - 1) / i.mid) : Int)

/-- Tries grids from spacing `10 ^ k` downwards, `fuel` of them at most. -/
def search (i : Interval) (k : Int) : Nat → Scientific
  | 0 => ⟨i.floorOn k, k⟩
  | fuel + 1 =>
    match i.pointOn k with
    | some c => trimmed c k
    | none => search i (k - 1) fuel

end Interval

/-- Seventeen digits always suffice in double precision, and nine in single precision. -/
def shortest (significand : Nat) (exponent : Int) (isolated : Bool) : Scientific :=
  if significand = 0 then ⟨0, 0⟩
  else
    let i := Interval.around significand exponent isolated
    i.search i.magnitude 18

end DatasetQuery.Decimal
